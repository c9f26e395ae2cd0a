namespace ReplicaPlacement

/-- An IEEE 754 binary64 value, kept as its bit pattern. -/
structure Score where
  bits : UInt64
  deriving DecidableEq, Inhabited

namespace Score

def toFloat (s : Score) : Float := Float.ofBits s.bits

def ofFloat (x : Float) : Score := ⟨x.toBits⟩

def zero : Score := ⟨0⟩

def negZero : Score := ⟨0x8000000000000000⟩

def infinity : Score := ⟨0x7ff0000000000000⟩

def negInfinity : Score := ⟨0xfff0000000000000⟩

def nan : Score := ⟨0x7ff8000000000000⟩

def negNan : Score := ⟨0xfff8000000000000⟩

def isNegative (s : Score) : Bool := decide (0x8000000000000000 ≤ s.bits.toNat)

def exponentField (s : Score) : Nat := s.bits.toNat / 0x10000000000000 % 0x800

def fraction (s : Score) : Nat := s.bits.toNat % 0x10000000000000

def isFinite (s : Score) : Bool := s.exponentField != 0x7ff

def isNan (s : Score) : Bool := !s.isFinite && s.fraction != 0

/-- A finite score is, its sign apart, `m * 2 ^ q` for the pair `(m, q)` given here. -/
def magnitude (s : Score) : Nat × Int :=
  if s.exponentField = 0 then (s.fraction, -1074)
  else (s.fraction + 0x10000000000000, (s.exponentField : Int) - 1075)

/-- The total order of patterns: `-0.0` right before `+0.0`, NaNs outside the infinities. -/
def order (s : Score) : Int :=
  if s.isNegative then 0x7fffffffffffffff - (s.bits.toNat : Int) else s.bits.toNat

instance : LT Score := ⟨fun a b => a.toFloat < b.toFloat⟩

instance : LE Score := ⟨fun a b => a.toFloat ≤ b.toFloat⟩

instance (a b : Score) : Decidable (a < b) := inferInstanceAs (Decidable (a.toFloat < b.toFloat))

instance (a b : Score) : Decidable (a ≤ b) := inferInstanceAs (Decidable (a.toFloat ≤ b.toFloat))

instance : Add Score := ⟨fun a b => ofFloat (a.toFloat + b.toFloat)⟩

/-- Adds from left to right, starting at `-0.0`, the one score that changes no other. -/
def total (scores : List Score) : Score := scores.foldl (· + ·) negZero

end Score

end ReplicaPlacement
