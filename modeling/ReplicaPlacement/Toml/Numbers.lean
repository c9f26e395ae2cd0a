import ReplicaPlacement.Data
import ReplicaPlacement.Toml.Grammar

namespace ReplicaPlacement.Toml

def digitsOf (isDigit : Char → Bool) : Parser (List Char) := do
  let first ← satisfy isDigit
  let rest ← many (satisfy isDigit <|> (char '_' *> satisfy isDigit))
  pure (first :: rest)

def decimalDigits : Parser (List Char) := do
  let digits ← digitsOf Char.isDigit
  match digits with
  | '0' :: _ :: _ => failure
  | _ => pure digits

def leadingMinus : Parser Bool :=
  (char '-' *> pure true) <|> (char '+' *> pure false) <|> pure false

def checkedInteger (n : Int) : Parser Int :=
  if -0x8000000000000000 ≤ n ∧ n < 0x8000000000000000 then pure n else failure

def baseInteger (mark : String) (base : Nat) (isDigit : Char → Bool) : Parser Int := do
  word mark
  let digits ← digitsOf isDigit
  checkedInteger (ofDigits base digits)

def integer : Parser Int :=
  baseInteger "0x" 16 (fun c => c.isDigit || "abcdefABCDEF".toList.contains c)
    <|> baseInteger "0o" 8 ("01234567".toList.contains ·)
    <|> baseInteger "0b" 2 ("01".toList.contains ·)
    <|> do
      let negative ← leadingMinus
      let digits ← decimalDigits
      let n : Int := ofDigits 10 digits
      checkedInteger (if negative then -n else n)

def fraction : Parser (List Char) := char '.' *> digitsOf Char.isDigit

def exponent : Parser Int := do
  let _ ← satisfy fun c => c == 'e' || c == 'E'
  let negative ← leadingMinus
  let digits ← digitsOf Char.isDigit
  let n : Int := ofDigits 10 digits
  pure (if negative then -n else n)

/-- Too large a positive number is refused; a negative one becomes minus infinity. -/
def decimalFloat : Parser Score := do
  let negative ← leadingMinus
  let whole ← decimalDigits
  let places ← option fraction
  let scale ← option exponent
  if places.isNone && scale.isNone then failure
  else
    let digits := whole ++ places.getD []
    let score :=
      Decimal.nearest negative (ofDigits 10 digits) (scale.getD 0 - (places.getD []).length)
    if score = .infinity then failure else pure score

def specialFloat : Parser Score := do
  let negative ← leadingMinus
  (word "inf" *> pure (if negative then .negInfinity else .infinity))
    <|> (word "nan" *> pure (if negative then .negNan else .nan))

def twoDigits (low high : Nat) : Parser (List Char) := do
  let digits ← fixedDigits 2
  if low ≤ ofDigits 10 digits ∧ ofDigits 10 digits ≤ high then pure digits else failure

def isLeapYear (year : Nat) : Bool := year % 4 == 0 && (year % 100 != 0 || year % 400 == 0)

def daysIn (year month : Nat) : Nat :=
  if month = 2 then (if isLeapYear year then 29 else 28)
  else if month = 4 ∨ month = 6 ∨ month = 9 ∨ month = 11 then 30
  else 31

def date : Parser (List Char) := do
  let year ← fixedDigits 4
  let _ ← char '-'
  let month ← twoDigits 1 12
  let _ ← char '-'
  let day ← twoDigits 1 31
  if ofDigits 10 day ≤ daysIn (ofDigits 10 year) (ofDigits 10 month) then
    pure (year ++ ['-'] ++ month ++ ['-'] ++ day)
  else failure

/-- Nine places of a second are kept, without the zeros at their end. -/
def secondFraction : Parser (List Char) := do
  let _ ← char '.'
  let digits ← run1 Char.isDigit
  match ((digits.take 9).reverse.dropWhile (· == '0')).reverse with
  | [] => pure []
  | kept => pure ('.' :: kept)

def timeOfDay : Parser (List Char) := do
  let hour ← twoDigits 0 23
  let _ ← char ':'
  let minute ← twoDigits 0 59
  let _ ← char ':'
  let second ← twoDigits 0 60
  let places ← option secondFraction
  pure (hour ++ [':'] ++ minute ++ [':'] ++ second ++ places.getD [])

def utcOffset : Parser (List Char) :=
  (satisfy (fun c => c == 'Z' || c == 'z') *> pure ['Z']) <|> do
    let sign ← satisfy fun c => c == '+' || c == '-'
    let hour ← twoDigits 0 23
    let _ ← char ':'
    let minute ← twoDigits 0 59
    let isZero := ofDigits 10 (hour ++ minute) == 0
    pure ((if isZero then '+' else sign) :: hour ++ [':'] ++ minute)

def dateTime : Parser String := do
  let text ←
    (do
      let day ← date
      let time ← option do
        let _ ← satisfy fun c => c == 'T' || c == 't' || c == ' '
        let time ← timeOfDay
        let zone ← option utcOffset
        pure ('T' :: time ++ zone.getD [])
      pure (day ++ time.getD [])) <|> timeOfDay
  pure (String.ofList text)

/-- The field that sets a date or time apart from a string. -/
def dateTimeField : String := "$__toml_private_datetime"

def number : Parser Data :=
  ((fun s => .record [(dateTimeField, .text s)]) <$> dateTime)
    <|> (.number <$> decimalFloat)
    <|> (.number <$> specialFloat)
    <|> (.integer <$> integer)

end ReplicaPlacement.Toml
