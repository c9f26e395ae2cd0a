import ReplicaPlacement.Data
import ReplicaPlacement.Text.Quoted

namespace ReplicaPlacement.Toml

inductive Setting where
  | integer (n : Int)
  | flag (b : Bool)
  | text (s : String)
  | texts (items : List String)
  deriving DecidableEq

def Setting.strings : Setting → List String
  | .text s => [s]
  | .texts items => items
  | _ => []

def Setting.toData : Setting → Data
  | .integer n => .integer n
  | .flag b => .flag b
  | .text s => .text s
  | .texts items => .list (items.map .text)

def longestRun (c : Char) : Nat → List Char → Nat
  | current, [] => current
  | current, d :: rest =>
    if d = c then longestRun c (current + 1) rest else max current (longestRun c 0 rest)

/-- Runs of quotes are counted in eight bits. -/
def hasShortRuns (s : String) : Bool :=
  ['"', '\''].all fun quote => decide (longestRun quote 0 s.toList < 256)

def needsEscape (c : Char) : Bool :=
  (decide (c.toNat < 0x20) && c != '\t' && c != '\n') || c.toNat == 0x7f

inductive Form where
  | basic
  | literal
  | basicLines
  | literalLines
  deriving DecidableEq, Repr

def Form.delimiter : Form → String
  | .basic => "\""
  | .literal => "'"
  | .basicLines => "\"\"\""
  | .literalLines => "'''"

def Form.isLines : Form → Bool
  | .basicLines | .literalLines => true
  | _ => false

/-- The first form that shows the text as it is; failing all, the basic one of as many lines as the
text has. -/
def formOf (cs : List Char) : Form :=
  let escapes := cs.any needsEscape
  let backslash := cs.contains '\\'
  let newline := cs.contains '\n'
  let double := longestRun '"' 0 cs
  let single := longestRun '\'' 0 cs
  if !escapes && !backslash && double == 0 && !newline then .basic
  else if !escapes && single == 0 && !newline then .literal
  else if !escapes && !backslash && decide (double ≤ 2) then .basicLines
  else if !escapes && decide (single ≤ 2) then .literalLines
  else if newline then .basicLines
  else .basic

def fourHex (n : Nat) : String :=
  let digits := (Nat.toDigits 16 n).map Char.toUpper
  String.ofList (List.replicate (4 - digits.length) '0' ++ digits)

/-- Characters of a basic string. On several lines a line feed, and up to two quotes in a row, stand
for themselves; `quotes` counts those that do. -/
def escapeBasic (isLines : Bool) : Nat → List Char → List String
  | _, [] => []
  | quotes, c :: rest =>
    if c = '"' then
      if isLines ∧ quotes < 2 then "\"" :: escapeBasic isLines (quotes + 1) rest
      else "\\\"" :: escapeBasic isLines 0 rest
    else
      let text :=
        match c with
        | '\x08' => "\\b"
        | '\t' => "\\t"
        | '\n' => if isLines then "\n" else "\\n"
        | '\x0c' => "\\f"
        | '\r' => "\\r"
        | '\\' => "\\\\"
        | c => if needsEscape c then "\\u" ++ fourHex c.toNat else c.toString
      text :: escapeBasic isLines 0 rest

/-- A line feed right after the opening quotes of a text with line feeds is no part of it. -/
def writeText (s : String) : String :=
  let cs := s.toList
  let form := formOf cs
  let body :=
    match form with
    | .basic => String.join (escapeBasic false 0 cs)
    | .basicLines => String.join (escapeBasic true 0 cs)
    | .literal | .literalLines => s
  let start := if form.isLines && cs.contains '\n' then "\n" else ""
  form.delimiter ++ start ++ body ++ form.delimiter

def writeTexts (items : List String) : String :=
  match items with
  | [] => "[]"
  | [s] => "[" ++ writeText s ++ "]"
  | _ => "[" ++ String.join (items.map fun s => "\n    " ++ writeText s ++ ",") ++ "\n]"

def Setting.write : Setting → String
  | .integer n => toString n
  | .flag b => if b then "true" else "false"
  | .text s => writeText s
  | .texts items => writeTexts items

inductive WriteError where
  | longRun
  deriving DecidableEq, Repr

def WriteError.message : WriteError → String
  | .longRun => "attempt to add with overflow"

def write (settings : List (String × Setting)) : Except WriteError String :=
  if settings.all fun s => s.2.strings.all hasShortRuns then
    .ok (String.join (settings.map fun s => s.1 ++ " = " ++ s.2.write ++ "\n"))
  else .error .longRun

end ReplicaPlacement.Toml
