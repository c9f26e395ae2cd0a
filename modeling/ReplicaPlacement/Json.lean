import ReplicaPlacement.Data
import ReplicaPlacement.Decimal.Text
import ReplicaPlacement.Text.Quoted

namespace ReplicaPlacement.Json

def escapedChar (c : Char) : String :=
  match c with
  | '"' => "\\\""
  | '\\' => "\\\\"
  | '\x08' => "\\b"
  | '\x0c' => "\\f"
  | '\n' => "\\n"
  | '\r' => "\\r"
  | '\t' => "\\t"
  | c =>
    if c.toNat < 0x20 then
      (if c.toNat < 0x10 then "\\u000" else "\\u00") ++ Text.hex c.toNat
    else c.toString

def escaped (s : String) : String :=
  "\"" ++ String.join (s.toList.map escapedChar) ++ "\""

def newline (level : Nat) : String := "\n" ++ String.ofList (List.replicate (2 * level) ' ')

def block (opening closing : String) (level : Nat) (parts : List String) : String :=
  if parts.isEmpty then opening ++ closing
  else
    opening ++ newline (level + 1) ++ String.intercalate ("," ++ newline (level + 1)) parts
      ++ newline level ++ closing

mutual

def pretty (level : Nat) : Data → String
  | .null => "null"
  | .flag b => if b then "true" else "false"
  | .integer n => toString n
  | .number x => Decimal.json x
  | .text s => escaped s
  | .list items => block "[" "]" level (prettyItems (level + 1) items)
  | .record fields => block "\x7b" "\x7d" level (prettyFields (level + 1) fields)

def prettyItems (level : Nat) : List Data → List String
  | [] => []
  | d :: rest => pretty level d :: prettyItems level rest

def prettyFields (level : Nat) : List (String × Data) → List String
  | [] => []
  | (name, d) :: rest => (escaped name ++ ": " ++ pretty level d) :: prettyFields level rest

end

end ReplicaPlacement.Json
