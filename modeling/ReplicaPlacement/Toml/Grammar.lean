namespace ReplicaPlacement.Toml

abbrev Parser := StateT (List Char) Option

variable {α : Type}

def satisfy (p : Char → Bool) : Parser Char := fun s =>
  match s with
  | [] => none
  | c :: rest => if p c then some (c, rest) else none

def char (c : Char) : Parser Char := satisfy (· == c)

def word (s : String) : Parser Unit := s.toList.forM fun c => discard (char c)

def run (p : Char → Bool) : Parser (List Char) := fun s => some (s.takeWhile p, s.dropWhile p)

def run1 (p : Char → Bool) : Parser (List Char) := do
  let c ← satisfy p
  let cs ← run p
  pure (c :: cs)

def endOfInput : Parser Unit := fun s => if s.isEmpty then some ((), s) else none

def option (p : Parser α) : Parser (Option α) := (some <$> p) <|> pure none

def repeated (p : Parser α) : Nat → Parser (List α)
  | 0 => pure []
  | n + 1 => fun s =>
    match p s with
    | none => some ([], s)
    | some (a, rest) => (repeated p n rest).map fun r => (a :: r.1, r.2)

/-- As often as possible. Every success has to take a character, so there are no more of them than
there are characters. -/
def many (p : Parser α) : Parser (List α) := fun s => repeated p s.length s

def separated (item : Parser α) (separator : Parser Unit) : Parser (List α) :=
  (do
    let first ← item
    let rest ← many (separator *> item)
    pure (first :: rest)) <|> pure []

def fixedDigits : Nat → Parser (List Char)
  | 0 => pure []
  | n + 1 => do
    let c ← satisfy Char.isDigit
    let cs ← fixedDigits n
    pure (c :: cs)

def digitValue (c : Char) : Nat :=
  if c.isDigit then c.toNat - '0'.toNat
  else if c.isLower then c.toNat - 'a'.toNat + 10
  else c.toNat - 'A'.toNat + 10

def ofDigits (base : Nat) (digits : List Char) : Nat :=
  digits.foldl (fun n c => n * base + digitValue c) 0

def isSpace (c : Char) : Bool := c == ' ' || c == '\t'

def spaces : Parser Unit := discard (run isSpace)

def newline : Parser Unit := discard (char '\n') <|> word "\r\n"

/-- Outside ASCII everything may stand in a comment or string, inside it no control characters but
the tab. -/
def isInline (c : Char) : Bool :=
  c == '\t' || decide (0x20 ≤ c.toNat ∧ c.toNat ≤ 0x7e) || decide (0x80 ≤ c.toNat)

def comment : Parser Unit := do
  let _ ← char '#'
  let _ ← run isInline
  pure ()

def lineRest : Parser Unit := do
  spaces
  let _ ← option comment
  newline <|> endOfInput

def gap : Parser Unit := do
  spaces
  let _ ← many (do
    let _ ← option comment
    newline
    spaces)
  pure ()

end ReplicaPlacement.Toml
