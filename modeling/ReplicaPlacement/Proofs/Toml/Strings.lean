import ReplicaPlacement.Proofs.Toml.Grammar
import ReplicaPlacement.Toml.Strings
import ReplicaPlacement.Toml.Writer

namespace ReplicaPlacement.Toml

variable {c quote : Char} {s rest cs text : List Char} {isLines : Bool} {quotes : Nat}

theorem hexDigits_append {digits : List Char} (hex : ∀ d ∈ digits, isHexDigit d = true)
    (rest : List Char) : hexDigits digits.length (digits ++ rest) = some (digits, rest) := by
  induction digits with
  | nil => rfl
  | cons d digits ih =>
      rw [List.forall_mem_cons] at hex
      simp [hexDigits, hex.1, ih hex.2]

theorem fourHex_eq :
    ∀ n < 0x80, (fourHex n).toList.length = 4 ∧ (fourHex n).toList.all isHexDigit = true ∧
      ofDigits 16 (fourHex n).toList = n := by
  decide +kernel

theorem escape_fourHex (low : c.toNat < 0x80) (rest : List Char) :
    escape ('\\' :: 'u' :: (fourHex c.toNat).toList ++ rest) = some (c, rest) := by
  obtain ⟨four, hex, value⟩ := fourHex_eq c.toNat low
  have digits := hexDigits_append (List.all_eq_true.mp hex) rest
  rw [four] at digits
  have valid : c.toNat.isValidChar := c.valid
  simp [escape, codePoint, digits, value, valid]

theorem toNat_lt_of_needsEscape (escapes : needsEscape c = true) : c.toNat < 0x80 := by
  simp [needsEscape] at escapes
  omega

theorem isInline_of_shown (shown : needsEscape c = false) (feed : c ≠ '\n') :
    isInline c = true := by
  by_cases tab : c = '\t'
  · rw [tab]
    rfl
  · simp [needsEscape, tab, feed] at shown
    simp [isInline, tab]
    omega

inductive Shows (isLines : Bool) (c : Char) : List Char → Prop
  | plain (basic : isBasic c = true) : Shows isLines c [c]
  | escaped {text : List Char} (reads : ∀ rest, escape ('\\' :: text ++ rest) = some (c, rest)) :
      Shows isLines c ('\\' :: text)
  | lineFeed (lines : isLines = true) (feed : c = '\n') : Shows isLines c ['\n']

theorem Shows.stops (shows : Shows isLines c text) : Stops (· == '"') (text ++ s) := by
  cases shows with
  | plain basic => exact stops_cons.mpr (beq_eq_false_iff_ne.mpr (ne_of_satisfies basic rfl))
  | escaped => exact stops_cons.mpr rfl
  | lineFeed => exact stops_cons.mpr rfl

def basicText (isLines : Bool) (quotes : Nat) (cs : List Char) : List Char :=
  (String.join (escapeBasic isLines quotes cs)).toList

theorem basicText_quote (second : quotes < 2) :
    basicText true quotes ('"' :: cs) = '"' :: basicText true (quotes + 1) cs := by
  rw [basicText, escapeBasic.eq_def]
  simp [second, basicText]

theorem basicText_cons (cs : List Char) (marked : isLines = true → c = '"' → 2 ≤ quotes) :
    ∃ text, basicText isLines quotes (c :: cs) = text ++ basicText isLines 0 cs ∧
      Shows isLines c text := by
  suffices ∃ text,
      escapeBasic isLines quotes (c :: cs) = String.ofList text :: escapeBasic isLines 0 cs ∧
        Shows isLines c text by
    obtain ⟨text, text_eq, shows⟩ := this
    refine ⟨text, ?_, shows⟩
    rw [basicText, text_eq, String.join_cons, String.toList_append, String.toList_ofList,
      basicText]
  rw [escapeBasic.eq_def]
  dsimp only
  split
  next isQuote =>
    -- On one line every quote is escaped, on several lines the third in a row.
    subst isQuote
    have third : ¬(isLines = true ∧ quotes < 2) := fun ⟨lines, second⟩ =>
      Nat.not_lt.mpr (marked lines rfl) second
    rw [if_neg third]
    exact ⟨['\\', '"'], rfl, .escaped fun rest => by simp [escape]⟩
  next other =>
    split
    · exact ⟨['\\', 'b'], rfl, .escaped fun rest => by simp [escape]⟩
    · exact ⟨['\\', 't'], rfl, .escaped fun rest => by simp [escape]⟩
    · cases isLines with
      | true => exact ⟨['\n'], rfl, .lineFeed rfl rfl⟩
      | false => exact ⟨['\\', 'n'], rfl, .escaped fun rest => by simp [escape]⟩
    · exact ⟨['\\', 'f'], rfl, .escaped fun rest => by simp [escape]⟩
    · exact ⟨['\\', 'r'], rfl, .escaped fun rest => by simp [escape]⟩
    · exact ⟨['\\', '\\'], rfl, .escaped fun rest => by simp [escape]⟩
    next feed _ _ backslash =>
      split
      next escapes =>
        refine ⟨'\\' :: 'u' :: (fourHex c.toNat).toList, ?_,
          .escaped (escape_fourHex (toNat_lt_of_needsEscape escapes))⟩
        rw [String.ofList_cons, String.ofList_cons, String.ofList_toList]
        rfl
      next shown =>
        have inLine := isInline_of_shown (eq_false_of_ne_true shown) feed
        exact ⟨[c], rfl, .plain (by simpa [isBasic, inLine, other] using backslash)⟩

/-- What a parser of parts has to take so that it reads every text that stands for a character. -/
structure TakesShown (isLines : Bool) (p : Parser (List Char)) : Prop where
  runs : ∀ c s, isBasic c = true → p (c :: s) = run1 isBasic (c :: s)
  escapes : ∀ c s rest, escape ('\\' :: s) = some (c, rest) → p ('\\' :: s) = some ([c], rest)
  lineFeeds : isLines = true → ∀ s, p ('\n' :: s) = some (['\n'], s)

theorem TakesShown.spells {p : Parser (List Char)} (takes : TakesShown isLines p)
    (shows : Shows isLines c text) (more : Spells p s cs rest) :
    Spells p (text ++ s) (c :: cs) rest := by
  cases shows with
  | plain basic => exact more.plain takes.runs basic
  | @escaped text reads =>
      have part := takes.escapes c (text ++ s) s (reads s)
      exact more.step part (length_lt_cons_append _ text s)
  | lineFeed lines feed =>
      rw [feed]
      exact more.step (takes.lineFeeds lines s) (by simp)

def basicPart : Parser (List Char) := run1 isBasic <|> (List.singleton <$> escape)

theorem run1_backslash : run1 isBasic ('\\' :: s) = none := run1_of_unsatisfied (by decide)

theorem takesShown_basicPart : TakesShown false basicPart where
  runs c s basic := by simp [basicPart, run1_cons basic]
  escapes c s rest reads := by simp [basicPart, run1_backslash, reads, List.singleton]
  lineFeeds lines := by contradiction

theorem exists_basicText_cons (c : Char) (cs : List Char) :
    ∃ text, basicText false 0 (c :: cs) = text ++ basicText false 0 cs ∧ Shows false c text :=
  basicText_cons cs fun lines => by contradiction

theorem spells_basicText (cs rest : List Char) :
    Spells basicPart (basicText false 0 cs ++ '"' :: rest) cs ('"' :: rest) := by
  induction cs with
  | nil => exact .stop rfl
  | cons c cs ih =>
      obtain ⟨text, text_eq, shows⟩ := exists_basicText_cons c cs
      rw [text_eq, List.append_assoc]
      exact takesShown_basicPart.spells shows ih

theorem basicString_of_spells (spells : Spells basicPart s cs ('"' :: rest)) :
    basicString ('"' :: s) = some (String.ofList cs, rest) := by
  obtain ⟨parts, repeats, rfl⟩ := spells
  have read := many_of_repeats repeats
  rw [basicPart] at read
  simp [basicString, read]

theorem literalString_append (literal : ∀ c ∈ cs, isLiteral c = true) (rest : List Char) :
    literalString ('\'' :: (cs ++ '\'' :: rest)) = some (String.ofList cs, rest) := by
  have taken : run isLiteral (cs ++ '\'' :: rest) = some (cs, '\'' :: rest) :=
    run_append literal (stops_cons.mpr rfl)
  simp [literalString, taken]

def linesPart (quote : Char) (part : Parser (List Char)) : Parser (List Char) :=
  part <|> lineFeed <|> fewQuotes quote

structure Delimits (quote : Char) (part : Parser (List Char)) : Prop where
  part_fails : ∀ s, part (quote :: s) = none
  newline_fails : ∀ s, newline (quote :: s) = none

/-- The parts, with the quotes that the closing ones take along, are the characters `cs`. -/
def Closes (quote : Char) (part : Parser (List Char)) (s cs rest : List Char) : Prop :=
  ∃ inner few, few ≤ 2 ∧
    Spells (linesPart quote part) s inner (List.replicate (few + 3) quote ++ rest) ∧
    inner ++ List.replicate few quote = cs

theorem takeWhile_and_dropWhile_quotes (n : Nat) (stops : Stops (· == quote) rest) :
    (List.replicate n quote ++ rest).takeWhile (· == quote) = List.replicate n quote ∧
      (List.replicate n quote ++ rest).dropWhile (· == quote) = rest :=
  takeWhile_and_dropWhile_append (by simp) stops

theorem closingQuotes_replicate {few : Nat} (two : few ≤ 2) (stops : Stops (· == quote) rest) :
    closingQuotes quote (List.replicate (few + 3) quote ++ rest) =
      some (List.replicate few quote, rest) := by
  obtain ⟨taken, left⟩ := takeWhile_and_dropWhile_quotes (few + 3) stops
  rw [closingQuotes, taken, left]
  simp [two]

variable {part : Parser (List Char)} {s' : List Char}

theorem severalLines_of_closes {start : Option Unit} (opened : option newline s = some (start, s'))
    (closes : Closes quote part s' cs rest) (stops : Stops (· == quote) rest) :
    severalLines quote part (List.replicate 3 quote ++ s) = some (String.ofList cs, rest) := by
  obtain ⟨inner, few, two, ⟨parts, repeats, rfl⟩, rfl⟩ := closes
  have read := many_of_repeats repeats
  rw [linesPart] at read
  simp [severalLines, word, read, opened, closingQuotes_replicate two stops]

theorem linesPart_quotes (delimits : Delimits quote part) (n : Nat)
    (stops : Stops (· == quote) rest) :
    linesPart quote part (List.replicate (n + 1) quote ++ rest) =
      if n < 2 then some (List.replicate (n + 1) quote, rest) else none := by
  obtain ⟨taken, left⟩ := takeWhile_and_dropWhile_quotes (n + 1) stops
  have few : fewQuotes quote (List.replicate (n + 1) quote ++ rest) =
      if n < 2 then some (List.replicate (n + 1) quote, rest) else none := by
    rw [fewQuotes, taken, left, List.length_replicate]
    congr 1
    simp
    omega
  rw [List.replicate_succ, List.cons_append] at few ⊢
  simp [linesPart, lineFeed, delimits.part_fails, delimits.newline_fails, few]

namespace Closes

theorem closing {few : Nat} (delimits : Delimits quote part) (two : few ≤ 2)
    (stops : Stops (· == quote) rest) :
    Closes quote part (List.replicate few quote ++ (List.replicate 3 quote ++ rest))
      (List.replicate few quote) rest := by
  have fails := linesPart_quotes delimits (few + 2) stops
  rw [if_neg (by omega)] at fails
  rw [← List.append_assoc, List.replicate_append_replicate]
  exact ⟨[], few, two, .stop fails, rfl⟩

theorem of_spells (written : List Char)
    (spells : ∀ inner t, Spells (linesPart quote part) s inner t →
      Spells (linesPart quote part) s' (written ++ inner) t)
    (more : Closes quote part s cs rest) : Closes quote part s' (written ++ cs) rest := by
  obtain ⟨inner, few, two, spelt, rfl⟩ := more
  exact ⟨written ++ inner, few, two, spells inner _ spelt, List.append_assoc _ _ _⟩

theorem after_quotes {n : Nat} (delimits : Delimits quote part) (two : n ≤ 2)
    (stops : Stops (· == quote) s) (more : Closes quote part s cs rest) :
    Closes quote part (List.replicate n quote ++ s) (List.replicate n quote ++ cs) rest := by
  cases n with
  | zero => exact more
  | succ n =>
      have taken := linesPart_quotes delimits n stops
      rw [if_pos (by omega)] at taken
      exact more.of_spells _ fun inner t spelt => spelt.step taken (by simp)

end Closes

def basicLinesPart : Parser (List Char) :=
  run1 isBasic <|> joinedLines <|> (List.singleton <$> escape)

theorem joinedLines_of_escape (reads : escape ('\\' :: s) = some (c, rest)) :
    joinedLines ('\\' :: s) = none := by
  cases s with
  | nil => rfl
  | cons d s =>
      have notSpace : isSpace d = false := by
        refine eq_false_of_ne_true fun space => ?_
        simp only [isSpace, Bool.or_eq_true, beq_iff_eq] at space
        obtain rfl | rfl := space <;> simp [escape] at reads
      have notFeed : d ≠ '\n' ∧ d ≠ '\r' := by
        constructor <;> intro same <;> subst same <;> simp [escape] at reads
      simp [joinedLines, spaces, run, notSpace, newline, word, notFeed]

theorem takesShown_basicLines : TakesShown true (linesPart '"' basicLinesPart) where
  runs c s basic := by simp [linesPart, basicLinesPart, run1_cons basic]
  escapes c s rest reads := by
    simp [linesPart, basicLinesPart, run1_backslash, joinedLines_of_escape reads, reads,
      List.singleton]
  lineFeeds _ s := by
    have notBasic : run1 isBasic ('\n' :: s) = none := run1_of_unsatisfied (by decide)
    simp [linesPart, basicLinesPart, notBasic, joinedLines, escape, lineFeed, newline]

theorem delimits_basicLines : Delimits '"' basicLinesPart where
  part_fails s := by
    have notBasic : run1 isBasic ('"' :: s) = none := run1_of_unsatisfied (by decide)
    simp [basicLinesPart, notBasic, joinedLines, escape]
  newline_fails s := by simp [newline, word]

/-- `quotes` of the quotes before the text stand for themselves. -/
theorem closes_basicText (cs : List Char) (two : quotes ≤ 2) (stops : Stops (· == '"') rest) :
    Closes '"' basicLinesPart
      (List.replicate quotes '"' ++ (basicText true quotes cs ++ (List.replicate 3 '"' ++ rest)))
      (List.replicate quotes '"' ++ cs) rest := by
  induction cs generalizing quotes with
  | nil =>
      rw [List.append_nil]
      exact .closing delimits_basicLines two stops
  | cons c cs ih =>
      by_cases own : c = '"' ∧ quotes < 2
      · -- The quote joins those before it.
        obtain ⟨rfl, second⟩ := own
        have more := ih (by omega : quotes + 1 ≤ 2)
        rw [List.replicate_succ', List.append_assoc, List.append_assoc] at more
        rw [basicText_quote second]
        exact more
      · have marked : true = true → c = '"' → 2 ≤ quotes := fun _ isQuote =>
          Nat.not_lt.mp fun second => own ⟨isQuote, second⟩
        obtain ⟨text, text_eq, shows⟩ := basicText_cons cs marked
        rw [text_eq, List.append_assoc]
        have more := ih (by omega : 0 ≤ 2)
        have first := more.of_spells [c] fun _ _ spelt => takesShown_basicLines.spells shows spelt
        exact first.after_quotes delimits_basicLines two shows.stops

def LiteralLines (cs : List Char) : Prop := ∀ c ∈ cs, c = '\'' ∨ c = '\n' ∨ isLiteral c = true

theorem delimits_literalLines : Delimits '\'' (run1 isLiteral) where
  part_fails _ := run1_of_unsatisfied (by decide)
  newline_fails s := by simp [newline, word]

theorem linesPart_literal (c : Char) (s : List Char) (literal : isLiteral c = true) :
    linesPart '\'' (run1 isLiteral) (c :: s) = run1 isLiteral (c :: s) := by
  simp [linesPart, run1_cons literal]

theorem linesPart_lineFeed :
    linesPart '\'' (run1 isLiteral) ('\n' :: s) = some (['\n'], s) := by
  have notLiteral : run1 isLiteral ('\n' :: s) = none := run1_of_unsatisfied (by decide)
  simp [linesPart, notLiteral, lineFeed, newline]

theorem spells_literal (shown : c = '\n' ∨ isLiteral c = true)
    (more : Spells (linesPart '\'' (run1 isLiteral)) s cs rest) :
    Spells (linesPart '\'' (run1 isLiteral)) (c :: s) (c :: cs) rest := by
  obtain rfl | literal := shown
  · exact more.step linesPart_lineFeed (by simp)
  · exact more.plain linesPart_literal literal

theorem closes_literal (lines : LiteralLines cs) (two : longestRun '\'' quotes cs ≤ 2)
    (stops : Stops (· == '\'') rest) :
    Closes '\'' (run1 isLiteral)
      (List.replicate quotes '\'' ++ (cs ++ (List.replicate 3 '\'' ++ rest)))
      (List.replicate quotes '\'' ++ cs) rest := by
  induction cs generalizing quotes with
  | nil =>
      rw [List.append_nil]
      exact .closing delimits_literalLines two stops
  | cons c cs ih =>
      rw [LiteralLines, List.forall_mem_cons] at lines
      rw [longestRun] at two
      split at two
      next own =>
        have more := ih lines.2 two
        rw [List.replicate_succ', List.append_assoc, List.append_assoc] at more
        rw [own]
        exact more
      next other =>
        have more := ih lines.2 (by omega : longestRun '\'' 0 cs ≤ 2)
        have first := more.of_spells [c] fun _ _ => spells_literal (lines.1.resolve_left other)
        exact first.after_quotes delimits_literalLines (by omega)
          (stops_cons.mpr (beq_eq_false_iff_ne.mpr other))

theorem le_longestRun (c : Char) (n : Nat) (cs : List Char) : n ≤ longestRun c n cs := by
  induction cs generalizing n with
  | nil => exact Nat.le_refl n
  | cons d cs ih =>
      rw [longestRun]
      split
      · exact Nat.le_of_succ_le (ih (n + 1))
      · exact Nat.le_max_left _ _

theorem not_mem_of_longestRun (single : longestRun c 0 cs = 0) : c ∉ cs := by
  induction cs with
  | nil => exact List.not_mem_nil
  | cons d cs ih =>
      rw [longestRun] at single
      split at single
      · have := le_longestRun c (0 + 1) cs
        omega
      next other =>
        rw [List.mem_cons, not_or]
        exact ⟨Ne.symm other, ih (by omega)⟩

theorem isLiteral_of_formOf (form : formOf cs = .literal) : ∀ c ∈ cs, isLiteral c = true := by
  obtain ⟨shown, single, feed⟩ :
      cs.any needsEscape = false ∧ longestRun '\'' 0 cs = 0 ∧ '\n' ∉ cs := by
    unfold formOf at form
    grind
  intro c member
  have notFeed : c ≠ '\n' := ne_of_mem_of_not_mem member feed
  have notQuote : c ≠ '\'' := ne_of_mem_of_not_mem member (not_mem_of_longestRun single)
  have inLine :=
    isInline_of_shown (eq_false_of_ne_true (List.any_eq_false.mp shown c member)) notFeed
  simp [isLiteral, inLine, notQuote]

theorem literalLines_of_formOf (form : formOf cs = .literalLines) :
    LiteralLines cs ∧ longestRun '\'' 0 cs ≤ 2 := by
  obtain ⟨shown, two⟩ : cs.any needsEscape = false ∧ longestRun '\'' 0 cs ≤ 2 := by
    unfold formOf at form
    grind
  refine ⟨fun c member => ?_, two⟩
  by_cases own : c = '\'' ∨ c = '\n'
  · exact or_assoc.mp (.inl own)
  · rw [not_or] at own
    have inLine :=
      isInline_of_shown (eq_false_of_ne_true (List.any_eq_false.mp shown c member)) own.2
    exact .inr (.inr (by simp [isLiteral, inLine, own.1]))

theorem severalLines_of_stops (stops : Stops (· == quote) s) :
    severalLines quote part (quote :: s) = none ∧
      severalLines quote part (quote :: quote :: s) = none := by
  cases s with
  | nil => simp [severalLines, word]
  | cons c s =>
      have other : c ≠ quote := by simpa [stops_cons] using stops
      simp [severalLines, word, other]

theorem newline_of_ne (feed : c ≠ '\n') (ret : c ≠ '\r') : newline (c :: s) = none := by
  simp [newline, word, feed, ret]

theorem exists_option_newline (noFeed : '\n' ∉ cs → newline s = none) :
    ∃ start, option newline ((if '\n' ∈ cs then ['\n'] else []) ++ s) = some (start, s) := by
  by_cases feed : '\n' ∈ cs
  · exact ⟨some (), option_of_some (by simp [feed, newline])⟩
  · rw [if_neg feed]
    exact ⟨none, option_of_none (noFeed feed)⟩

theorem newline_basicText (cs : List Char) (noFeed : '\n' ∉ cs) :
    newline (basicText true 0 cs ++ '"' :: s) = none := by
  cases cs with
  | nil => exact newline_of_ne (by decide) (by decide)
  | cons c cs =>
      rw [List.mem_cons, not_or] at noFeed
      by_cases own : c = '"'
      · rw [own, basicText_quote (by omega)]
        exact newline_of_ne (by decide) (by decide)
      · have marked : true = true → c = '"' → 2 ≤ 0 := fun _ isQuote => absurd isQuote own
        obtain ⟨text, text_eq, shows⟩ := basicText_cons cs marked
        rw [text_eq, List.append_assoc]
        cases shows with
        | plain basic => exact newline_of_ne (Ne.symm noFeed.1) (ne_of_satisfies basic rfl)
        | escaped => exact newline_of_ne (by decide) (by decide)
        | lineFeed _ feed => exact absurd feed.symm noFeed.1

theorem newline_literal (lines : LiteralLines cs) (noFeed : '\n' ∉ cs) :
    newline (cs ++ (List.replicate 3 '\'' ++ rest)) = none := by
  cases cs with
  | nil => exact newline_of_ne (by decide) (by decide)
  | cons c cs =>
      rw [List.mem_cons, not_or] at noFeed
      refine newline_of_ne (Ne.symm noFeed.1) ?_
      intro same
      subst same
      have := lines _ List.mem_cons_self
      contradiction

theorem string_basic (cs : List Char) (stops : Stops (· == '"') rest) :
    string ('"' :: (basicText false 0 cs ++ '"' :: rest)) = some (String.ofList cs, rest) := by
  have notLines : basicLines ('"' :: (basicText false 0 cs ++ '"' :: rest)) = none := by
    cases cs with
    | nil => exact (severalLines_of_stops stops).2
    | cons c cs =>
        obtain ⟨text, text_eq, shows⟩ := exists_basicText_cons c cs
        rw [text_eq, List.append_assoc]
        exact (severalLines_of_stops shows.stops).1
  have read := basicString_of_spells (spells_basicText cs rest)
  simp [string, notLines, read]

theorem string_single (s : List Char) :
    string ('\'' :: s) = (literalLines ('\'' :: s)).orElse fun _ => literalString ('\'' :: s) := by
  simp [string, basicLines, severalLines, word, basicString]

theorem string_literal (literal : ∀ c ∈ cs, isLiteral c = true)
    (stops : Stops (· == '\'') rest) :
    string ('\'' :: (cs ++ '\'' :: rest)) = some (String.ofList cs, rest) := by
  have notLines : literalLines ('\'' :: (cs ++ '\'' :: rest)) = none := by
    cases cs with
    | nil => exact (severalLines_of_stops stops).2
    | cons c cs =>
        have other : c ≠ '\'' := ne_of_satisfies (literal c List.mem_cons_self) (by decide)
        exact (severalLines_of_stops (stops_cons.mpr (beq_eq_false_iff_ne.mpr other))).1
  rw [string_single, notLines, literalString_append literal]
  rfl

theorem string_basicLines (cs : List Char) (stops : Stops (· == '"') rest) :
    string (List.replicate 3 '"' ++ ((if '\n' ∈ cs then ['\n'] else []) ++
        (basicText true 0 cs ++ (List.replicate 3 '"' ++ rest)))) =
      some (String.ofList cs, rest) := by
  obtain ⟨start, opened⟩ := exists_option_newline (newline_basicText cs)
  have closes := closes_basicText cs (Nat.zero_le 2) stops
  have read : basicLines _ = some (String.ofList cs, rest) :=
    severalLines_of_closes opened closes stops
  rw [string, Parser.orElse_apply]
  exact congrArg (Option.orElse · _) read

theorem string_literalLines (lines : LiteralLines cs) (two : longestRun '\'' 0 cs ≤ 2)
    (stops : Stops (· == '\'') rest) :
    string (List.replicate 3 '\'' ++ ((if '\n' ∈ cs then ['\n'] else []) ++
        (cs ++ (List.replicate 3 '\'' ++ rest)))) =
      some (String.ofList cs, rest) := by
  obtain ⟨start, opened⟩ := exists_option_newline (newline_literal lines)
  have closes := closes_literal lines two stops
  have read : literalLines _ = some (String.ofList cs, rest) :=
    severalLines_of_closes opened closes stops
  refine (string_single _).trans ?_
  exact congrArg (Option.orElse · _) read

def isQuote (c : Char) : Bool := c == '"' || c == '\''

theorem string_writeText {t : String} (stops : Stops isQuote rest) :
    string ((writeText t).toList ++ rest) = some (t, rest) := by
  have double : Stops (· == '"') rest := fun c head => (Bool.or_eq_false_iff.mp (stops c head)).1
  have single : Stops (· == '\'') rest := fun c head => (Bool.or_eq_false_iff.mp (stops c head)).2
  unfold writeText
  dsimp only
  generalize form_eq : formOf t.toList = form
  cases form with
  | basic =>
      have read := string_basic t.toList double
      simpa [Form.delimiter, Form.isLines, basicText] using read
  | literal =>
      have read := string_literal (isLiteral_of_formOf form_eq) single
      simpa [Form.delimiter, Form.isLines] using read
  | basicLines =>
      have read := string_basicLines t.toList double
      rw [String.ofList_toList] at read
      by_cases feed : '\n' ∈ t.toList <;>
        simpa [Form.delimiter, Form.isLines, feed, basicText] using read
  | literalLines =>
      obtain ⟨lines, two⟩ := literalLines_of_formOf form_eq
      have read := string_literalLines lines two single
      rw [String.ofList_toList] at read
      by_cases feed : '\n' ∈ t.toList <;> simpa [Form.delimiter, Form.isLines, feed] using read

end ReplicaPlacement.Toml
