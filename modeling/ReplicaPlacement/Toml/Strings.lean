import ReplicaPlacement.Toml.Grammar

namespace ReplicaPlacement.Toml

def isBasic (c : Char) : Bool := isInline c && c != '"' && c != '\\'

def isLiteral (c : Char) : Bool := isInline c && c != '\''

def isHexDigit (c : Char) : Bool :=
  c.isDigit || decide ('a' ≤ c ∧ c ≤ 'f') || decide ('A' ≤ c ∧ c ≤ 'F')

def hexDigits : Nat → Parser (List Char)
  | 0 => pure []
  | n + 1 => do
    let c ← satisfy isHexDigit
    let cs ← hexDigits n
    pure (c :: cs)

def codePoint (n : Nat) : Parser Char := do
  let digits ← hexDigits n
  let value := ofDigits 16 digits
  if value.isValidChar then pure (Char.ofNat value) else failure

def escape : Parser Char := do
  let _ ← char '\\'
  match ← satisfy fun _ => true with
  | 'b' => pure '\x08'
  | 't' => pure '\t'
  | 'n' => pure '\n'
  | 'f' => pure '\x0c'
  | 'r' => pure '\r'
  | '"' => pure '"'
  | '\\' => pure '\\'
  | 'u' => codePoint 4
  | 'U' => codePoint 8
  | _ => failure

def basicString : Parser String := do
  let _ ← char '"'
  let parts ← many (run1 isBasic <|> (List.singleton <$> escape))
  let _ ← char '"'
  pure (String.ofList parts.flatten)

def literalString : Parser String := do
  let _ ← char '\''
  let cs ← run isLiteral
  let _ ← char '\''
  pure (String.ofList cs)

def lineFeed : Parser (List Char) := newline *> pure ['\n']

/-- A backslash at the end of a line leaves out all white space up to the next text. -/
def joinedLines : Parser (List Char) := do
  let _ ← char '\\'
  spaces
  newline
  spaces
  let _ ← many (newline *> spaces)
  pure []

def fewQuotes (quote : Char) : Parser (List Char) := fun s =>
  let quotes := s.takeWhile (· == quote)
  if quotes.length = 1 ∨ quotes.length = 2 then some (quotes, s.dropWhile (· == quote)) else none

/-- Three quotes end the string; of up to five the first ones still belong to it. -/
def closingQuotes (quote : Char) : Parser (List Char) := fun s =>
  let quotes := s.takeWhile (· == quote)
  if 3 ≤ quotes.length ∧ quotes.length ≤ 5 then
    some (quotes.drop 3, s.dropWhile (· == quote))
  else none

def severalLines (quote : Char) (part : Parser (List Char)) : Parser String := do
  word (String.ofList [quote, quote, quote])
  let _ ← option newline
  let parts ← many (part <|> lineFeed <|> fewQuotes quote)
  let last ← closingQuotes quote
  pure (String.ofList (parts.flatten ++ last))

def basicLines : Parser String :=
  severalLines '"' (run1 isBasic <|> joinedLines <|> (List.singleton <$> escape))

def literalLines : Parser String := severalLines '\'' (run1 isLiteral)

def string : Parser String := basicLines <|> basicString <|> literalLines <|> literalString

def isBare (c : Char) : Bool := c.isAlphanum || c == '_' || c == '-'

def simpleKey : Parser String :=
  basicString <|> literalString <|> (String.ofList <$> run1 isBare)

/-- The deepest nesting of tables by dotted keys, and of arrays and inline tables. -/
def nestingLimit : Nat := 79

def dottedKey : Parser (List String × String) := do
  let part : Parser String := spaces *> simpleKey <* spaces
  let first ← part
  let rest ← many (char '.' *> part)
  if rest.length < nestingLimit then
    match (first :: rest).reverse with
    | last :: path => pure (path.reverse, last)
    | [] => failure
  else failure

end ReplicaPlacement.Toml
