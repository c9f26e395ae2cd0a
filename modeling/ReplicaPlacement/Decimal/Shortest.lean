import ReplicaPlacement.Decimal.Nearest

namespace ReplicaPlacement.Decimal

structure Digits where
  digits : Nat
  exponent : Int
  deriving DecidableEq, Repr

/-- The reals that read back as one score, in quarters of its last place: from `low` to `high`
around `value`, both ends included when `closed`. One quarter is `num / den`. -/
structure Interval where
  low : Nat
  value : Nat
  high : Nat
  closed : Bool
  num : Nat
  den : Nat

/-- At a power of two the next score below is only half as far away as the next one above. -/
def Interval.ofMagnitude (m : Nat) (q : Int) : Interval :=
  let (num, den) := scaled 1 2 (q - 2)
  let below := if m = 0x10000000000000 ∧ -1074 < q then 1 else 2
  { low := 4 * m - below, value := 4 * m, high := 4 * m + 2, closed := m % 2 == 0, num, den }

def Interval.contains (i : Interval) (sn sd digits : Nat) : Bool :=
  let d := digits * sn * i.den
  let low := i.low * i.num * sd
  let high := i.high * i.num * sd
  if i.closed then decide (low ≤ d) && decide (d ≤ high)
  else decide (low < d) && decide (d < high)

/-- The nearest decimal to the interval's value among the two neighbours on the grid of multiples of
`10 ^ exponent` that lie inside. -/
def Interval.onGrid? (i : Interval) (tie : Tie) (exponent : Int) : Option Digits :=
  let (sn, sd) := scaled 1 10 exponent
  let num := i.value * i.num * sd
  let den := i.den * sn
  let d := num / den
  let lower := i.contains sn sd d
  let upper := i.contains sn sd (d + 1)
  match lower, upper with
  | true, true => some ⟨roundDiv tie num den, exponent⟩
  | true, false => some ⟨d, exponent⟩
  | false, true => some ⟨d + 1, exponent⟩
  | false, false => none

/-- The largest `k` with `10 ^ k ≤ num / den`, for a positive quotient. The first guess from the
binary size is off by at most one. -/
def decimalExponent (num den : Nat) : Int :=
  let guess : Int := ((num.log2 : Int) - den.log2) * 30103 / 100000
  let reaches (k : Int) : Bool :=
    let (n, d) := scaled den 10 k
    decide (n ≤ num * d)
  if reaches (guess + 1) then guess + 1
  else if reaches guess then guess
  else guess - 1

def Interval.search (i : Interval) (tie : Tie) : Nat → Int → Digits
  | 0, exponent =>
    let (sn, sd) := scaled 1 10 exponent
    ⟨roundDiv tie (i.value * i.num * sd) (i.den * sn), exponent⟩
  | n + 1, exponent =>
    match i.onGrid? tie exponent with
    | some d => d
    | none => i.search tie n (exponent - 1)

def Digits.strip : Nat → Digits → Digits
  | 0, d => d
  | fuel + 1, d =>
    if d.digits ≠ 0 ∧ d.digits % 10 = 0 then
      Digits.strip fuel ⟨d.digits / 10, d.exponent + 1⟩
    else d

/-- The decimal with the fewest digits that reads back as the score, and of those the nearest to it.
Seventeen digits always tell a score from its neighbours. -/
def shortest (tie : Tie) (m : Nat) (q : Int) : Digits :=
  let i := Interval.ofMagnitude m q
  let first := decimalExponent (i.value * i.num) i.den
  (i.search tie 16 first).strip 20

end ReplicaPlacement.Decimal
