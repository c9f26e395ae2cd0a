import ReplicaPlacement.Proofs.Toml.Numbers
import ReplicaPlacement.Proofs.Toml.Strings
import ReplicaPlacement.Toml.Document

namespace ReplicaPlacement.Toml

variable {s rest : List Char} {c : Char} {n : Nat}

def isGap (c : Char) : Bool := isSpace c || c == '\n' || c == '\r' || c == '#'

theorem stops_isSpace (stops : Stops isGap s) : Stops isSpace s := by
  intro c head
  have gap := stops c head
  simp only [isGap, Bool.or_eq_false_iff] at gap
  exact gap.1.1.1

theorem spaces_append {blanks : List Char} (blank : ∀ d ∈ blanks, isSpace d = true)
    (stops : Stops isSpace s) : spaces (blanks ++ s) = some ((), s) := by
  simp [spaces, run_append blank stops]

theorem spaces_of_stops (stops : Stops isSpace s) : spaces s = some ((), s) :=
  spaces_append (List.forall_mem_nil _) stops

def gapLine : Parser Unit := do
  let _ ← option comment
  newline
  spaces

theorem gapLine_of_stops (stops : Stops isGap s) : gapLine s = none := by
  cases s with
  | nil => simp [gapLine, option, comment, newline, word]
  | cons c s =>
      simp [stops_cons, isGap] at stops
      simp [gapLine, option, comment, newline, word, stops]

theorem gap_of_stops (stops : Stops isGap s) : gap s = some ((), s) := by
  have done := many_of_repeats (.stop (gapLine_of_stops stops))
  rw [gapLine] at done
  simp [gap, spaces_of_stops (stops_isSpace stops), done]

theorem gap_of_feed {blanks : List Char} (blank : ∀ d ∈ blanks, isSpace d = true)
    (stops : Stops isGap s) : gap ('\n' :: (blanks ++ s)) = some ((), s) := by
  have takes : gapLine ('\n' :: (blanks ++ s)) = some ((), s) := by
    simp [gapLine, option, comment, newline, spaces_append blank (stops_isSpace stops)]
  have shorter := length_lt_cons_append '\n' blanks s
  have done := many_of_repeats (.step takes shorter (.stop (gapLine_of_stops stops)))
  rw [gapLine] at done
  have start : spaces ('\n' :: (blanks ++ s)) = some ((), '\n' :: (blanks ++ s)) :=
    spaces_of_stops (stops_cons.mpr rfl)
  simp [gap, start, done]

theorem exists_quote_writeText (t : String) :
    ∃ c cs, (writeText t).toList = c :: cs ∧ isQuote c = true := by
  unfold writeText
  dsimp only
  generalize formOf t.toList = form
  cases form <;> simp [Form.delimiter, isQuote]

theorem stops_writeText (t : String) {f : Char → Bool}
    (other : ∀ c, isQuote c = true → f c = false) : Stops f ((writeText t).toList ++ rest) := by
  obtain ⟨c, cs, text_eq, quote⟩ := exists_quote_writeText t
  rw [text_eq, List.cons_append, stops_cons]
  exact other c quote

theorem isGap_of_isQuote (c : Char) (quote : isQuote c = true) : isGap c = false := by
  simp only [isQuote, Bool.or_eq_true, beq_iff_eq] at quote
  obtain rfl | rfl := quote <;> rfl

theorem string_of_not_quote (other : isQuote c = false) : string (c :: s) = none := by
  simp only [isQuote, Bool.or_eq_false_iff, beq_eq_false_iff_ne] at other
  simp [string, basicLines, basicString, literalLines, literalString, severalLines, word, other]

theorem value_of_scalar {r : Data × List Char} (scalar : value.scalar s = some r) :
    value n s = some r := by
  cases n with
  | zero => exact scalar
  | succ n => simp [value, scalar]

theorem scalar_of_none (quote : isQuote c = false) (number : startsNumber c = false)
    (letter : c ≠ 't' ∧ c ≠ 'f') : value.scalar (c :: s) = none := by
  simp [value.scalar, string_of_not_quote quote, number_of_not_starts number, word, letter]

theorem value_of_closing : value n (']' :: s) = none := by
  have notScalar : value.scalar (']' :: s) = none := scalar_of_none rfl rfl (by decide)
  cases n with
  | zero => exact notScalar
  | succ n => simp [value, notScalar, array, inlineTable]

theorem value_writeText (t : String) (stops : Stops isQuote rest) :
    value n ((writeText t).toList ++ rest) = some (.text t, rest) := by
  apply value_of_scalar
  simp [value.scalar, string_writeText stops]

theorem value_toString {m : Int} (fits : -0x8000000000000000 ≤ m ∧ m < 0x8000000000000000) :
    value n ((toString m).toList ++ '\n' :: rest) = some (.integer m, '\n' :: rest) := by
  have read := number_toString fits rest
  obtain ⟨c, cs, text_eq, starts⟩ := exists_start_toString m
  have notQuote : isQuote c = false := by
    simp only [isQuote, Bool.or_eq_false_iff, beq_eq_false_iff_ne]
    exact ⟨ne_of_satisfies starts rfl, ne_of_satisfies starts rfl⟩
  rw [text_eq, List.cons_append] at read ⊢
  apply value_of_scalar
  simp [value.scalar, string_of_not_quote notQuote, read]

theorem value_flag (b : Bool) :
    value n ((Setting.flag b).write.toList ++ rest) = some (.flag b, rest) := by
  apply value_of_scalar
  cases b with
  | true =>
      have notNumber : number ('t' :: 'r' :: 'u' :: 'e' :: rest) = none := number_of_not_starts rfl
      simp [Setting.write, value.scalar, string_of_not_quote, isQuote, notNumber, word]
  | false =>
      have notNumber : number ('f' :: 'a' :: 'l' :: 's' :: 'e' :: rest) = none :=
        number_of_not_starts rfl
      simp [Setting.write, value.scalar, string_of_not_quote, isQuote, notNumber, word]

def arrayItem (n : Nat) : Parser Data := gap *> value n <* gap

theorem arrayItem_of_gap (t : String)
    (gap_eq : gap s = some ((), (writeText t).toList ++ c :: rest))
    (ends : isQuote c = false ∧ isGap c = false) : arrayItem n s = some (.text t, c :: rest) := by
  have read : value n ((writeText t).toList ++ c :: rest) = some (.text t, c :: rest) :=
    value_writeText t (stops_cons.mpr ends.1)
  simp [arrayItem, gap_eq, read, gap_of_stops (stops_cons.mpr ends.2)]

theorem arrayItem_of_closing (gap_eq : gap s = some ((), ']' :: rest)) :
    arrayItem n s = none := by
  simp [arrayItem, gap_eq, value_of_closing]

theorem gap_of_closing : gap ('\n' :: ']' :: rest) = some ((), ']' :: rest) :=
  gap_of_feed (List.forall_mem_nil _) (stops_cons.mpr rfl)

def itemLine (t : String) : List Char := '\n' :: ([' ', ' ', ' ', ' '] ++ (writeText t).toList)

theorem gap_itemLine (t : String) (rest : List Char) :
    gap (itemLine t ++ rest) = some ((), (writeText t).toList ++ rest) := by
  rw [itemLine, List.cons_append, List.append_assoc]
  exact gap_of_feed (List.all_eq_true.mp rfl) (stops_writeText t isGap_of_isQuote)

/-- What follows the first of several items, with the comma after the last one. -/
def moreItems (items : List String) (rest : List Char) : List Char :=
  (items.flatMap fun t => ',' :: itemLine t) ++ ',' :: rest

theorem flatMap_itemLine (t : String) (items : List String) (rest : List Char) :
    ((t :: items).flatMap fun t => itemLine t ++ [',']) ++ rest =
      itemLine t ++ moreItems items rest := by
  induction items generalizing t with
  | nil => simp [moreItems]
  | cons u items ih =>
      rw [List.flatMap_cons, List.append_assoc, ih u]
      simp [moreItems]

theorem arrayItem_itemLine (t : String) (items : List String) :
    arrayItem n (itemLine t ++ moreItems items rest) = some (.text t, moreItems items rest) := by
  have gap_eq := gap_itemLine t (moreItems items rest)
  cases items with
  | nil => exact arrayItem_of_gap t gap_eq (by decide)
  | cons u items => exact arrayItem_of_gap t gap_eq (by decide)

theorem repeats_moreItems (items : List String) (rest : List Char) :
    Repeats (discard (char ',') *> arrayItem n) (moreItems items ('\n' :: ']' :: rest))
      (items.map Data.text) (',' :: '\n' :: ']' :: rest) := by
  induction items with
  | nil =>
      -- No item follows the last comma, so it is left.
      refine .stop ?_
      simp [moreItems, arrayItem_of_closing gap_of_closing]
  | cons t items ih =>
      have takes : (discard (char ',') *> arrayItem n : Parser Data)
          (',' :: (itemLine t ++ moreItems items ('\n' :: ']' :: rest))) =
            some (.text t, moreItems items ('\n' :: ']' :: rest)) := by
        simp [arrayItem_itemLine]
      have more_eq : moreItems (t :: items) ('\n' :: ']' :: rest) =
          ',' :: (itemLine t ++ moreItems items ('\n' :: ']' :: rest)) := by
        simp [moreItems]
      rw [more_eq]
      exact .step takes (length_lt_cons_append _ _ _) ih

theorem array_writeTexts (items : List String) :
    array (value n) ((writeTexts items).toList ++ rest) = some (.list (items.map .text), rest) := by
  have closing : gap (']' :: rest) = some ((), ']' :: rest) := gap_of_stops (stops_cons.mpr rfl)
  match items with
  | [] =>
      have read : separated (gap *> value n <* gap) (discard (char ',')) (']' :: rest) =
          some ([], ']' :: rest) :=
        separated_of_none (arrayItem_of_closing closing)
      simp [writeTexts, array, read, closing]
  | [t] =>
      have gap_eq : gap ((writeText t).toList ++ ']' :: rest) =
          some ((), (writeText t).toList ++ ']' :: rest) :=
        gap_of_stops (stops_writeText t isGap_of_isQuote)
      have others : Repeats (discard (char ',') *> arrayItem n) (']' :: rest) [] (']' :: rest) :=
        .stop (by simp)
      have read : separated (gap *> value n <* gap) (discard (char ','))
          ((writeText t).toList ++ ']' :: rest) = some ([.text t], ']' :: rest) :=
        separated_of_items (arrayItem_of_gap t gap_eq (by decide)) others
      simp [writeTexts, array, read, closing, option]
  | t :: u :: items =>
      -- From two items on each takes a line of its own, and a comma follows the last one as well.
      have read : separated (gap *> value n <* gap) (discard (char ','))
          (itemLine t ++ moreItems (u :: items) ('\n' :: ']' :: rest)) =
            some ((t :: u :: items).map .text, ',' :: '\n' :: ']' :: rest) :=
        separated_of_items (arrayItem_itemLine t (u :: items)) (repeats_moreItems (u :: items) rest)
      have written : (writeTexts (t :: u :: items)).toList ++ rest =
          '[' :: (itemLine t ++ moreItems (u :: items) ('\n' :: ']' :: rest)) := by
        rw [← flatMap_itemLine]
        simp [writeTexts, itemLine, List.flatMap_map]
      rw [written]
      simp [array, read, gap_of_closing, option]

def Setting.InRange : Setting → Prop
  | .integer m => -0x8000000000000000 ≤ m ∧ m < 0x8000000000000000
  | _ => True

theorem exists_bracket_writeTexts (items : List String) :
    ∃ cs, (writeTexts items).toList = '[' :: cs := by
  unfold writeTexts
  split <;> simp

theorem value_write {x : Setting} (inRange : x.InRange) :
    value (n + 1) (x.write.toList ++ '\n' :: rest) = some (x.toData, '\n' :: rest) := by
  cases x with
  | integer m => exact value_toString inRange
  | flag b => exact value_flag b
  | text t => exact value_writeText t (stops_cons.mpr rfl)
  | texts items =>
      have read : array (value n) ((writeTexts items).toList ++ '\n' :: rest) =
          some (.list (items.map .text), '\n' :: rest) :=
        array_writeTexts items
      obtain ⟨cs, text_eq⟩ := exists_bracket_writeTexts items
      have notScalar : value.scalar ('[' :: (cs ++ '\n' :: rest)) = none :=
        scalar_of_none rfl rfl (by decide)
      rw [text_eq, List.cons_append] at read
      rw [Setting.write, text_eq, List.cons_append]
      simp [value, notScalar, read, Setting.toData]

theorem stops_write (x : Setting) (rest : List Char) : Stops isSpace (x.write.toList ++ rest) := by
  cases x with
  | integer m =>
      obtain ⟨c, cs, text_eq, starts⟩ := exists_start_toString m
      rw [Setting.write, text_eq, List.cons_append, stops_cons]
      simp only [isSpace, Bool.or_eq_false_iff, beq_eq_false_iff_ne]
      exact ⟨ne_of_satisfies starts rfl, ne_of_satisfies starts rfl⟩
  | flag b => cases b <;> exact stops_cons.mpr rfl
  | text t => exact stops_isSpace (stops_writeText t isGap_of_isQuote)
  | texts items =>
      obtain ⟨cs, text_eq⟩ := exists_bracket_writeTexts items
      rw [Setting.write, text_eq]
      exact stops_cons.mpr rfl

structure BareKey (key : String) : Prop where
  nonempty : key.toList ≠ []
  bare : ∀ c ∈ key.toList, isBare c = true

variable {key : String}

theorem BareKey.exists_cons (isKey : BareKey key) :
    ∃ c cs, key.toList = c :: cs ∧ isBare c = true := by
  obtain ⟨c, cs, key_eq⟩ := List.exists_cons_of_ne_nil isKey.nonempty
  exact ⟨c, cs, key_eq, isKey.bare c (by rw [key_eq]; exact List.mem_cons_self)⟩

theorem BareKey.stops_isSpace (isKey : BareKey key) : Stops isSpace (key.toList ++ rest) := by
  obtain ⟨c, cs, key_eq, first⟩ := isKey.exists_cons
  rw [key_eq, List.cons_append, stops_cons]
  simp only [isSpace, Bool.or_eq_false_iff, beq_eq_false_iff_ne]
  exact ⟨ne_of_satisfies first rfl, ne_of_satisfies first rfl⟩

theorem simpleKey_bare (isKey : BareKey key) (stops : Stops isBare rest) :
    simpleKey (key.toList ++ rest) = some (key, rest) := by
  have read := run1_append isKey.bare isKey.nonempty stops
  obtain ⟨c, cs, key_eq, first⟩ := isKey.exists_cons
  have other : c ≠ '"' ∧ c ≠ '\'' := ⟨ne_of_satisfies first rfl, ne_of_satisfies first rfl⟩
  have notQuoted : basicString (key.toList ++ rest) = none ∧
      literalString (key.toList ++ rest) = none := by
    simp [key_eq, basicString, literalString, other]
  simp [simpleKey, notQuoted, read]

theorem spaces_blank (stops : Stops isSpace s) : spaces (' ' :: s) = some ((), s) :=
  spaces_append (List.all_eq_true.mp rfl : ∀ d ∈ [' '], isSpace d = true) stops

theorem dottedKey_bare (isKey : BareKey key) (rest : List Char) :
    dottedKey (key.toList ++ ' ' :: '=' :: rest) = some (([], key), '=' :: rest) := by
  have start : spaces (key.toList ++ ' ' :: '=' :: rest) =
      some ((), key.toList ++ ' ' :: '=' :: rest) :=
    spaces_of_stops isKey.stops_isSpace
  have name : simpleKey (key.toList ++ ' ' :: '=' :: rest) = some (key, ' ' :: '=' :: rest) :=
    simpleKey_bare isKey (stops_cons.mpr rfl)
  have blank : spaces (' ' :: '=' :: rest) = some ((), '=' :: rest) :=
    spaces_blank (stops_cons.mpr rfl)
  have noMore : many (char '.' *> (spaces *> simpleKey <* spaces)) ('=' :: rest) =
      some ([], '=' :: rest) :=
    many_of_repeats (.stop (by simp))
  simp [dottedKey, start, name, blank, noMore, nestingLimit]

def settingLine (field : String × Setting) (rest : List Char) : List Char :=
  field.1.toList ++ ' ' :: '=' :: ' ' :: (field.2.write.toList ++ '\n' :: rest)

variable {field : String × Setting}

theorem pair_settingLine (isKey : BareKey field.1) (inRange : field.2.InRange) :
    pair (value (n + 1)) (settingLine field rest) =
      some (⟨[], field.1, field.2.toData⟩, '\n' :: rest) := by
  have blank := spaces_blank (stops_write field.2 ('\n' :: rest))
  simp [settingLine, pair, dottedKey_bare isKey, blank, value_write inRange]

theorem header_of_ne {opening closing : String} (bracket : opening.toList.head? = some '[')
    (other : c ≠ '[') : header opening closing (c :: s) = none := by
  obtain ⟨cs, opening_eq⟩ := List.head?_eq_some_iff.mp bracket
  simp [header, word, opening_eq, other]

theorem lineRest_feed : lineRest ('\n' :: rest) = some ((), rest) := by
  have start : spaces ('\n' :: rest) = some ((), '\n' :: rest) :=
    spaces_of_stops (stops_cons.mpr rfl)
  simp [lineRest, start, option, comment, newline]

theorem line_settingLine (isKey : BareKey field.1) (inRange : field.2.InRange) :
    line (settingLine field rest) = some (.pair ⟨[], field.1, field.2.toData⟩, rest) := by
  have start : spaces (settingLine field rest) = some ((), settingLine field rest) :=
    spaces_of_stops isKey.stops_isSpace
  have read : pair (value nestingLimit) (settingLine field rest) =
      some (⟨[], field.1, field.2.toData⟩, '\n' :: rest) :=
    pair_settingLine isKey inRange
  obtain ⟨c, cs, key_eq, first⟩ := isKey.exists_cons
  obtain ⟨cs', line_eq⟩ : ∃ cs', settingLine field rest = c :: cs' := by
    rw [settingLine, key_eq]
    exact ⟨_, rfl⟩
  have other : c ≠ '[' := ne_of_satisfies first rfl
  have notHeader : header "[[" "]]" (c :: cs') = none ∧ header "[" "]" (c :: cs') = none :=
    ⟨header_of_ne rfl other, header_of_ne rfl other⟩
  rw [line_eq] at start read ⊢
  simp [line, start, notHeader, read, lineRest_feed]

variable {settings : List (String × Setting)}

theorem repeats_lines (keys : ∀ field ∈ settings, BareKey field.1)
    (inRange : ∀ field ∈ settings, field.2.InRange) :
    Repeats line (settings.foldr settingLine [])
      (settings.map fun field => .pair ⟨[], field.1, field.2.toData⟩) [] := by
  induction settings with
  | nil => exact .stop rfl
  | cons field settings ih =>
      rw [List.forall_mem_cons] at keys inRange
      rw [List.foldr_cons, List.map_cons]
      have shorter : (settings.foldr settingLine []).length <
          (settingLine field (settings.foldr settingLine [])).length := by
        simp only [settingLine, List.length_append, List.length_cons]
        omega
      exact .step (line_settingLine keys.1 inRange.1) shorter (ih keys.2 inRange.2)

theorem document_of_lines (keys : ∀ field ∈ settings, BareKey field.1)
    (inRange : ∀ field ∈ settings, field.2.InRange) :
    document (settings.foldr settingLine []) =
      some (settings.map fun field => .pair ⟨[], field.1, field.2.toData⟩, []) := by
  have read := many_of_repeats (repeats_lines keys inRange)
  have noMark : char '\ufeff' (settings.foldr settingLine []) = none := by
    cases settings with
    | nil => rfl
    | cons field settings =>
        rw [List.forall_mem_cons] at keys
        obtain ⟨c, cs, key_eq, first⟩ := keys.1.exists_cons
        have other : c ≠ '\ufeff' := ne_of_satisfies first rfl
        simp [settingLine, key_eq, other]
  simp [document, option_of_none noMark, read, endOfInput]

theorem sections_pairs (pairs : List Pair) : sections (pairs.map .pair) = (pairs, []) := by
  induction pairs with
  | nil => rfl
  | cons p pairs ih => simp [sections, ih]

theorem addPairs_append (entries : Entries) (fields : List (String × Data))
    (fresh : ∀ field ∈ fields, entries.get? field.1 = none)
    (distinct : (fields.map Prod.fst).Nodup) :
    addPairs (fields.map fun field => ⟨[], field.1, field.2⟩) entries =
      some (entries ++ fields.map fun field => (field.1, .leaf field.2)) := by
  induction fields generalizing entries with
  | nil => simp [addPairs]
  | cons field fields ih =>
      rw [List.forall_mem_cons] at fresh
      rw [List.map_cons, List.nodup_cons] at distinct
      have added : entries.addValue [] field.1 field.2 =
          some (entries ++ [(field.1, .leaf field.2)]) := by
        simp [Entries.addValue, Entries.modify, fresh.1, Entries.append]
      have later : ∀ other ∈ fields,
          Entries.get? other.1 (entries ++ [(field.1, .leaf field.2)]) = none := by
        intro other member
        have unequal : (other.1 == field.1) = false := by
          rw [beq_eq_false_iff_ne]
          intro same
          exact distinct.1 (List.mem_map.mpr ⟨other, member, same⟩)
        have before := fresh.2 other member
        rw [Entries.get?] at before ⊢
        simp [List.lookup_append, before, List.lookup_cons, unequal]
      have others := ih _ later distinct.2
      rw [addPairs] at others ⊢
      simp [added, others]

theorem build_pairs {fields : List (String × Data)} (distinct : (fields.map Prod.fst).Nodup) :
    build (fields.map fun field => .pair ⟨[], field.1, field.2⟩) =
      some (fields.map fun field => (field.1, .leaf field.2)) := by
  have parted := sections_pairs (fields.map fun field => ⟨[], field.1, field.2⟩)
  have root := addPairs_append [] fields (fun _ _ => rfl) distinct
  rw [List.map_map, Function.comp_def] at parted
  rw [List.nil_append] at root
  simp [build, parted, root]

theorem entriesToData_leaves (fields : List (String × Data)) :
    Node.entriesToData (fields.map fun field => (field.1, .leaf field.2)) = fields := by
  induction fields with
  | nil => simp [Node.entriesToData]
  | cons field fields ih => simp [Node.entriesToData, Node.toData, ih]

theorem toList_join_lines (settings : List (String × Setting)) :
    (String.join (settings.map fun s => s.1 ++ " = " ++ s.2.write ++ "\n")).toList =
      settings.foldr settingLine [] := by
  induction settings with
  | nil => rfl
  | cons field settings ih =>
      rw [List.map_cons, String.join_cons, String.toList_append, ih, List.foldr_cons]
      simp [settingLine]

/-- A document that was written is read as the settings it was written from. -/
theorem read_write {text : String} (keys : ∀ field ∈ settings, BareKey field.1)
    (distinct : (settings.map Prod.fst).Nodup) (inRange : ∀ field ∈ settings, field.2.InRange)
    (written : write settings = .ok text) :
    read text = some (.record (settings.map fun field => (field.1, field.2.toData))) := by
  have text_eq : text.toList = settings.foldr settingLine [] := by
    unfold write at written
    split at written
    next =>
      rw [← Except.ok.inj written]
      exact toList_join_lines settings
    next => contradiction
  have lines : document.run text.toList = _ := text_eq ▸ document_of_lines keys inRange
  have root : build (settings.map fun field => .pair ⟨[], field.1, field.2.toData⟩) =
      some ((settings.map fun field => (field.1, field.2.toData)).map
        fun field => (field.1, .leaf field.2)) := by
    have fields_distinct :
        ((settings.map fun field => (field.1, field.2.toData)).map Prod.fst).Nodup := by
      rwa [List.map_map]
    have built := build_pairs fields_distinct
    rwa [List.map_map] at built
  simp only [read, lines, root, entriesToData_leaves, Option.bind_eq_bind, Option.bind_some,
    Option.pure_def]

end ReplicaPlacement.Toml
