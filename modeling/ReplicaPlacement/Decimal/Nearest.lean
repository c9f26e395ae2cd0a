import ReplicaPlacement.Score

namespace ReplicaPlacement.Decimal

inductive Tie where
  | toEven
  | up
  deriving DecidableEq, Repr

def Tie.roundsUp (tie : Tie) (n rest den : Nat) : Bool :=
  match compare (2 * rest) den with
  | .lt => false
  | .gt => true
  | .eq =>
    match tie with
    | .up => true
    | .toEven => n % 2 == 1

def roundDiv (tie : Tie) (num den : Nat) : Nat :=
  if tie.roundsUp (num / den) (num % den) den then num / den + 1 else num / den

/-- The quotient `a * b ^ e` as numerator and denominator. -/
def scaled (a b : Nat) (e : Int) : Nat × Nat :=
  -- `^` would stand for another instance once `Monoid` is in scope.
  match e with
  | .ofNat k => (a * b.pow k, 1)
  | .negSucc k => (a, b.pow (k + 1))

def binaryExponent (num den : Nat) : Int :=
  let t : Int := (num.log2 : Int) - den.log2
  let (n, d) := scaled den 2 t
  if n ≤ num * d then t else t - 1

/-- The bit pattern of the positive score nearest to `num / den`, infinity from halfway between the
greatest finite score and the power of two above it. -/
def nearestBits (num den : Nat) : Nat :=
  let q := max (binaryExponent num den - 52) (-1074)
  let (n, d) := scaled den 2 q
  let m := roundDiv .toEven (num * d) n
  min ((q + 1074).toNat * 0x10000000000000 + m) 0x7ff0000000000000

def nearestRatio (negative : Bool) (num den : Nat) : Score :=
  let bits := if num = 0 then 0 else nearestBits num den
  ⟨UInt64.ofNat (if negative then bits + 0x8000000000000000 else bits)⟩

/-- The score nearest to `± digits * 10 ^ exponent`. Above `10 ^ 400` and below `10 ^ -398` the size
alone settles the answer. -/
def nearest (negative : Bool) (digits : Nat) (exponent : Int) : Score :=
  let size : Int := exponent + (digits.log2 * 3 / 10 : Nat)
  if digits = 0 then nearestRatio negative 0 1
  else if 400 < size then nearestRatio negative (Nat.pow 10 400) 1
  else if size + (digits.log2 / 10 : Nat) < -400 then nearestRatio negative 0 1
  else
    let (num, den) := scaled digits 10 exponent
    nearestRatio negative num den

end ReplicaPlacement.Decimal
