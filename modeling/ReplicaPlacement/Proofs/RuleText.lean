import ReplicaPlacement.PropertyRule
import Mathlib.Data.List.DropRight

namespace ReplicaPlacement

namespace Text

def Trimmed (cs : List Char) : Prop :=
  ∀ c, cs.head? = some c ∨ cs.getLast? = some c → isBlank c = false

variable {cs : List Char}

theorem trim_eq_rdropWhile (cs : List Char) :
    trim cs = (cs.dropWhile isBlank).rdropWhile isBlank := rfl

theorem mem_of_mem_trim {c : Char} (member : c ∈ trim cs) : c ∈ cs := by
  rw [trim_eq_rdropWhile] at member
  exact (List.dropWhile_suffix _).subset ((List.rdropWhile_prefix _ _).subset member)

theorem trim_eq_nil_iff : trim cs = [] ↔ ∀ c ∈ cs, isBlank c = true := by
  rw [trim_eq_rdropWhile, List.rdropWhile_eq_nil_iff]
  constructor
  · intro blank c member
    rw [← List.takeWhile_append_dropWhile (p := isBlank) (l := cs)] at member
    rcases List.mem_append.mp member with dropped | kept
    · exact List.mem_takeWhile_imp dropped
    · exact blank c kept
  · intro blank c member
    exact blank c ((List.dropWhile_suffix _).subset member)

theorem trimmed_trim (cs : List Char) : Trimmed (trim cs) := by
  rw [trim_eq_rdropWhile]
  rintro c (first | last)
  · -- What the right end loses leaves the first character that was kept in its place.
    have kept : (cs.dropWhile isBlank).head? = some c := by
      obtain ⟨rest, kept_eq⟩ := List.rdropWhile_prefix isBlank (cs.dropWhile isBlank)
      rw [← kept_eq, List.head?_append, first]
      rfl
    have stopped := List.head?_dropWhile_not isBlank cs
    rwa [kept] at stopped
  · have nonempty : (cs.dropWhile isBlank).rdropWhile isBlank ≠ [] := by
      intro empty
      rw [empty] at last
      contradiction
    rw [List.getLast?_eq_some_getLast nonempty, Option.some.injEq] at last
    rw [← last]
    exact eq_false_of_ne_true (List.rdropWhile_last_not _ _ nonempty)

theorem trim_eq_self (trimmed : Trimmed cs) : trim cs = cs := by
  have first : cs.dropWhile isBlank = cs := by
    rw [List.dropWhile_eq_self_iff]
    intro nonempty
    have entry : cs.head? = some cs[0] := by
      rw [List.head?_eq_getElem?, List.getElem?_eq_getElem nonempty]
    exact ne_true_of_eq_false (trimmed _ (.inl entry))
  rw [trim_eq_rdropWhile, first, List.rdropWhile_eq_self_iff]
  intro nonempty
  exact ne_true_of_eq_false (trimmed _ (.inr (List.getLast?_eq_some_getLast nonempty)))

end Text

namespace PropertyRule

open Text (Trimmed trim isBlank)

/-- The text of the rule tells its parts apart and shows each of them in full. -/
structure Legible (r : PropertyRule) : Prop where
  key_nonempty : r.key ≠ ""
  key_unsplit : '=' ∉ r.key.toList
  key_trimmed : Trimmed r.key.toList
  value_trimmed : ∀ v, r.value = some v → Trimmed v.toList

variable {s : String} {r : PropertyRule}

theorem parse_eq_error_iff {e : InvalidRule} :
    parse s = .error e ↔
      e = ⟨s⟩ ∧ ∀ c ∈ s.toList.takeWhile (· != '='), isBlank c = true := by
  unfold parse
  dsimp only
  rw [← Text.trim_eq_nil_iff]
  split
  next blank => simp [blank, eq_comm]
  next named => simp [named]

theorem legible_of_parse (read : parse s = .ok r) : r.Legible := by
  unfold parse at read
  dsimp only at read
  split at read
  next => contradiction
  next named =>
    rw [Except.ok.injEq] at read
    rw [← read]
    constructor
    case key_nonempty => simpa [String.ofList_eq_empty_iff] using named
    case key_unsplit =>
      rw [String.toList_ofList]
      intro member
      have unequal := List.mem_takeWhile_imp (Text.mem_of_mem_trim member)
      simp at unequal
    case key_trimmed =>
      rw [String.toList_ofList]
      exact Text.trimmed_trim _
    case value_trimmed =>
      intro v value_eq
      dsimp only at value_eq
      split at value_eq
      next => contradiction
      next =>
        rw [← Option.some.inj value_eq, String.toList_ofList]
        exact Text.trimmed_trim _

theorem ne_of_unsplit {key : List Char} (unsplit : '=' ∉ key) (c : Char) (member : c ∈ key) :
    (c != '=') = true := by
  rw [bne_iff_ne]
  rintro rfl
  exact unsplit member

theorem parse_text (legible : r.Legible) : parse r.text = .ok r := by
  obtain ⟨key, value⟩ := r
  have before := ne_of_unsplit legible.key_unsplit
  have key_eq : trim key.toList = key.toList := Text.trim_eq_self legible.key_trimmed
  have named : key.toList ≠ [] := by
    rw [ne_eq, String.toList_eq_nil_iff]
    exact legible.key_nonempty
  cases value with
  | none =>
      have keyPart : key.toList.takeWhile (· != '=') = key.toList :=
        List.takeWhile_eq_self_iff.mpr before
      have rest : key.toList.dropWhile (· != '=') = [] := List.dropWhile_eq_nil_iff.mpr before
      simp only [text, parse, keyPart, rest, key_eq, if_neg named, String.ofList_toList]
  | some v =>
      have text_eq : (key ++ "=" ++ v).toList = key.toList ++ '=' :: v.toList := by
        simp [String.toList_append]
      have keyPart : (key.toList ++ '=' :: v.toList).takeWhile (· != '=') = key.toList := by
        rw [List.takeWhile_append_of_pos before, List.takeWhile_cons_of_neg (by decide),
          List.append_nil]
      have rest : (key.toList ++ '=' :: v.toList).dropWhile (· != '=') = '=' :: v.toList := by
        rw [List.dropWhile_append_of_pos before, List.dropWhile_cons_of_neg (by decide)]
      have value_eq : trim v.toList = v.toList :=
        Text.trim_eq_self (legible.value_trimmed v rfl)
      simp only [text, parse, text_eq, keyPart, rest, key_eq, value_eq, if_neg named,
        String.ofList_toList]

/-- A text is refused, and told in full, exactly if only blanks stand before the first `=`. A rule
that was read is read from its own text again, which thus stays as it is; and a rule is read from
its text exactly if it is legible. -/
theorem rules_correspond_to_texts :
    (∀ s : String,
      (parse s = .error ⟨s⟩ ↔ ∀ c ∈ s.toList.takeWhile (· != '='), isBlank c = true) ∧
      (∀ e, parse s = .error e → e = ⟨s⟩) ∧
      ∀ r, parse s = .ok r →
        parse r.text = .ok r ∧ (parse r.text).map text = .ok r.text) ∧
    ∀ r : PropertyRule, parse r.text = .ok r ↔ r.Legible := by
  refine ⟨fun s => ⟨?_, ?_, ?_⟩, fun r => ⟨legible_of_parse, parse_text⟩⟩
  · rw [parse_eq_error_iff]
    simp
  · intro e refused
    exact (parse_eq_error_iff.mp refused).1
  · intro r read
    have again := parse_text (legible_of_parse read)
    exact ⟨again, by rw [again]; rfl⟩

theorem rules_correspond_to_texts_padded :
    let read : PropertyRule := ⟨"zone", some "a=b"⟩
    let built : PropertyRule := ⟨"zone", some " b"⟩
    parse "\u00a0zone =\u3000a=b " = .ok read ∧ read.text = "zone=a=b" ∧
      parse read.text = .ok read ∧ (parse read.text).map text = .ok read.text ∧
      parse "\u2003\t=a" = .error ⟨"\u2003\t=a"⟩ ∧ parse built.text ≠ .ok built := by
  intro read built
  have padded : parse "\u00a0zone =\u3000a=b " = .ok read := by decide +kernel
  obtain ⟨texts, rules⟩ := rules_correspond_to_texts
  obtain ⟨-, -, again⟩ := texts "\u00a0zone =\u3000a=b "
  obtain ⟨refused, -, -⟩ := texts "\u2003\t=a"
  refine ⟨padded, by decide, (again read padded).1, (again read padded).2,
    refused.mpr (List.all_eq_true.mp (by decide)), ?_⟩
  rw [ne_eq, rules]
  intro legible
  have blank := legible.value_trimmed " b" rfl ' ' (.inl (by decide))
  exact absurd blank (by decide)

end PropertyRule

end ReplicaPlacement
