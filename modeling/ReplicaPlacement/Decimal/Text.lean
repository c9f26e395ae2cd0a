import ReplicaPlacement.Decimal.Shortest

namespace ReplicaPlacement.Decimal

def zeros (n : Nat) : String := String.ofList (List.replicate n '0')

def Digits.split (d : Digits) : String × String :=
  let text := toString d.digits
  match d.exponent with
  | .ofNat k => (text ++ zeros k, "")
  | .negSucc k =>
    let places := k + 1
    if text.length ≤ places then ("0", zeros (places - text.length) ++ text)
    else ((text.take (text.length - places)).toString, (text.drop (text.length - places)).toString)

def sign (s : Score) : String := if s.isNegative then "-" else ""

def plain (s : Score) : String :=
  if s.isNan then "NaN"
  else if !s.isFinite then sign s ++ "inf"
  else
    let (m, q) := s.magnitude
    if m = 0 then sign s ++ "0"
    else
      match (shortest .up m q).split with
      | (whole, "") => sign s ++ whole
      | (whole, fraction) => sign s ++ whole ++ "." ++ fraction

/-- From `1e-5` up to, but not including, `1e16` all digits are in place with at least one after the
point; elsewhere one digit stands before the point and the exponent bears its sign. -/
def json (s : Score) : String :=
  if !s.isFinite then "null"
  else
    let (m, q) := s.magnitude
    if m = 0 then sign s ++ "0.0"
    else
      let d := shortest .toEven m q
      let text := toString d.digits
      let leading : Int := d.exponent + ((text.length : Int) - 1)
      if -5 ≤ leading ∧ leading < 16 then
        match d.split with
        | (whole, "") => sign s ++ whole ++ ".0"
        | (whole, fraction) => sign s ++ whole ++ "." ++ fraction
      else
        let rest := (text.drop 1).toString
        sign s ++ (text.take 1).toString ++ (if rest.isEmpty then "" else "." ++ rest)
          ++ "e" ++ (if leading < 0 then "-" else "+") ++ toString leading.natAbs

def twoPlaces (s : Score) : String :=
  if s.isNan then "NaN"
  else if !s.isFinite then sign s ++ "inf"
  else
    let (m, q) := s.magnitude
    let (num, den) := scaled (m * 100) 2 q
    let hundredths := roundDiv .toEven num den
    let fraction := toString (hundredths % 100)
    sign s ++ toString (hundredths / 100) ++ "." ++ zeros (2 - fraction.length) ++ fraction

end ReplicaPlacement.Decimal
