import Std.Data.ExtTreeMap
import Std.Data.ExtTreeSet

namespace ReplicaPlacement

abbrev NameSet := Std.ExtTreeSet String

abbrev NameMap (α : Type) := Std.ExtTreeMap String α

namespace Text

/-- Unicode `White_Space`. -/
def blankRanges : List (Nat × Nat) :=
  [(0x09, 0x0d), (0x20, 0x20), (0x85, 0x85), (0xa0, 0xa0), (0x1680, 0x1680), (0x2000, 0x200a),
    (0x2028, 0x2029), (0x202f, 0x202f), (0x205f, 0x205f), (0x3000, 0x3000)]

def isBlank (c : Char) : Bool :=
  blankRanges.any fun r => decide (r.1 ≤ c.toNat) && decide (c.toNat ≤ r.2)

def trim (cs : List Char) : List Char :=
  ((cs.dropWhile isBlank).reverse.dropWhile isBlank).reverse

end Text

structure PropertyRule where
  key : String
  value : Option String
  deriving DecidableEq, Repr, Inhabited

/-- The text that was refused because it names no key. -/
structure InvalidRule where
  text : String
  deriving DecidableEq, Repr

def InvalidRule.message (e : InvalidRule) : String := "invalid property rule '" ++ e.text ++ "'"

namespace PropertyRule

def text (r : PropertyRule) : String :=
  match r.value with
  | none => r.key
  | some v => r.key ++ "=" ++ v

def parse (s : String) : Except InvalidRule PropertyRule :=
  let key := Text.trim (s.toList.takeWhile (· != '='))
  let value :=
    match s.toList.dropWhile (· != '=') with
    | [] => none
    | _ :: rest => some (String.ofList (Text.trim rest))
  if key = [] then .error ⟨s⟩ else .ok ⟨String.ofList key, value⟩

end PropertyRule

end ReplicaPlacement
