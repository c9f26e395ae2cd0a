import ReplicaPlacement.Toml.Numbers
import ReplicaPlacement.Toml.Strings
import ReplicaPlacement.Toml.Tree

namespace ReplicaPlacement.Toml

structure Pair where
  path : List String
  key : String
  value : Data

inductive Line where
  | blank
  | pair (p : Pair)
  | table (path : List String) (key : String)
  | element (path : List String) (key : String)

def addPairs (pairs : List Pair) (entries : Entries) : Option Entries :=
  pairs.foldlM (fun entries p => entries.addValue p.path p.key p.value) entries

def array (value : Parser Data) : Parser Data := do
  let _ ← char '['
  let items ← separated (gap *> value <* gap) (discard (char ','))
  if items.isEmpty then pure () else discard (option (char ','))
  gap
  let _ ← char ']'
  pure (.list items)

def pair (value : Parser Data) : Parser Pair := do
  let (path, key) ← dottedKey
  let _ ← char '='
  spaces
  let d ← value
  pure ⟨path, key, d⟩

def inlineTable (value : Parser Data) : Parser Data := do
  let _ ← char '\x7b'
  spaces
  let pairs ← separated (pair value <* spaces) (discard (char ','))
  let _ ← char '\x7d'
  match addPairs pairs [] with
  | some entries => pure (.record (Node.entriesToData entries))
  | none => failure

/-- A value with at most that many arrays and inline tables around one another. -/
def value : Nat → Parser Data
  | 0 => scalar
  | n + 1 => scalar <|> array (value n) <|> inlineTable (value n)
where
  scalar : Parser Data :=
    (.text <$> string) <|> number <|> (word "true" *> pure (.flag true))
      <|> (word "false" *> pure (.flag false))

def header (opening closing : String) : Parser (List String × String) := do
  word opening
  let key ← dottedKey
  word closing
  pure key

def line : Parser Line := fun s =>
  if s.isEmpty then none
  else
    (do
      spaces
      let content ←
        ((fun key => .element key.1 key.2) <$> header "[[" "]]")
          <|> ((fun key => .table key.1 key.2) <$> header "[" "]")
          <|> (.pair <$> pair (value nestingLimit))
          <|> pure .blank
      lineRest
      pure content : Parser Line) s

def document : Parser (List Line) := do
  let _ ← option (char '\ufeff')
  let lines ← many line
  endOfInput
  pure lines

/-- The pairs before the first header, and each header with the pairs below it. -/
def sections : List Line → List Pair × List (Line × List Pair)
  | [] => ([], [])
  | .blank :: rest => sections rest
  | .pair p :: rest => let (pairs, following) := sections rest; (p :: pairs, following)
  | header :: rest => let (pairs, following) := sections rest; ([], (header, pairs) :: following)

def addSection (entries : Entries) (s : Line × List Pair) : Option Entries :=
  match s.1 with
  | .table path key => entries.addTable path key (addPairs s.2)
  | .element path key => entries.addElement path key (addPairs s.2)
  | _ => none

def build (lines : List Line) : Option Entries := do
  let (pairs, headed) := sections lines
  let root ← addPairs pairs []
  headed.foldlM addSection root

def read (s : String) : Option Data := do
  let (lines, _) ← document.run s.toList
  let entries ← build lines
  pure (.record (Node.entriesToData entries))

end ReplicaPlacement.Toml
