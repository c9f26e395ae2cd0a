import ReplicaPlacement.Decimal.Nearest
import ReplicaPlacement.PropertyRule

namespace ReplicaPlacement

inductive Data where
  | null
  | flag (b : Bool)
  | integer (n : Int)
  | number (x : Score)
  | text (s : String)
  | list (items : List Data)
  | record (fields : List (String × Data))
  deriving Inhabited

inductive DecodeError where
  | mismatch
  | missingField (name : String)
  | invalidRule (cause : InvalidRule)
  deriving DecidableEq, Repr

namespace Data

abbrev Fields := List (String × Data)

inductive Dialect where
  | json
  | toml
  deriving DecidableEq, Repr

/-- Only JSON has a value for nothing at all; in TOML an empty table or array stands for it. -/
def Dialect.isNothing : Dialect → Data → Bool
  | .json, .null | .toml, .record [] | .toml, .list [] => true
  | _, _ => false

abbrev Reader (α : Type) := Dialect → Data → Except DecodeError α

variable {α : Type}

def readText : Reader String
  | _, .text s => .ok s
  | _, _ => .error .mismatch

def readFlag : Reader Bool
  | _, .flag b => .ok b
  | _, _ => .error .mismatch

def readCount : Reader UInt32
  | _, .integer n =>
    if 0 ≤ n ∧ n < 0x100000000 then .ok (UInt32.ofNat n.toNat) else .error .mismatch
  | _, _ => .error .mismatch

def readScore : Reader Score
  | _, .number x => .ok x
  | _, .integer n => .ok (Decimal.nearest (decide (n < 0)) n.natAbs 0)
  | _, _ => .error .mismatch

/-- A name out of a fixed choice, bare or as the only field of a record that holds nothing. -/
def readChoice (ofName? : String → Option α) : Reader α := fun dialect d =>
  let name? : Option String :=
    match d with
    | .text s => some s
    | .record [(s, inner)] => if dialect.isNothing inner then some s else none
    | _ => none
  match name?.bind ofName? with
  | some a => .ok a
  | none => .error .mismatch

def readRule : Reader PropertyRule
  | _, .text s => (PropertyRule.parse s).mapError .invalidRule
  | _, _ => .error .mismatch

def readOption (read : Reader α) : Reader (Option α)
  | _, .null => .ok none
  | dialect, d => some <$> read dialect d

def ofOption (write : α → Data) : Option α → Data
  | none => .null
  | some a => write a

def readList (read : Reader α) : Reader (List α)
  | dialect, .list items => items.mapM (read dialect)
  | _, _ => .error .mismatch

def readSet : Reader NameSet := fun dialect d => do
  let names ← readList readText dialect d
  pure (Std.ExtTreeSet.ofList names)

def readTable (read : Reader α) : Reader (NameMap α)
  | dialect, .record fields =>
    fields.foldlM (fun table field => (table.insert field.1 ·) <$> read dialect field.2) ∅
  | _, _ => .error .mismatch

def ofSet (names : NameSet) : Data := .list (names.toList.map .text)

def ofTable (write : α → Data) (table : NameMap α) : Data :=
  .record (table.toList.map fun entry => (entry.1, write entry.2))

end Data

end ReplicaPlacement
