import ReplicaPlacement.Proofs.Toml.Grammar
import ReplicaPlacement.Toml.Numbers
import Mathlib.Data.List.Basic

namespace ReplicaPlacement.Toml

variable {ds rest : List Char} {c : Char} {n : Nat}

theorem char_of_digits (digits : ∀ d ∈ ds, d.isDigit = true) (other : c.isDigit = false)
    (feed : c ≠ '\n') : char c (ds ++ '\n' :: rest) = none := by
  cases ds with
  | nil => simp [Ne.symm feed]
  | cons d ds =>
      have differs : d ≠ c := ne_of_satisfies (digits d List.mem_cons_self) other
      simp [differs]

theorem fixedDigits_append (digits : ∀ d ∈ ds, d.isDigit = true) (k : Nat) :
    fixedDigits k (ds ++ '\n' :: rest) =
      if k ≤ ds.length then some (ds.take k, ds.drop k ++ '\n' :: rest) else none := by
  induction ds generalizing k with
  | nil => cases k <;> simp [fixedDigits]
  | cons d ds ih =>
      rw [List.forall_mem_cons] at digits
      cases k with
      | zero => simp [fixedDigits]
      | succ k => simp [fixedDigits, digits.1, ih digits.2]

/-- A further digit of a number, as `digitsOf` reads it. -/
def furtherDigit : Parser Char := satisfy Char.isDigit <|> (char '_' *> satisfy Char.isDigit)

theorem repeats_furtherDigit (digits : ∀ d ∈ ds, d.isDigit = true) (rest : List Char) :
    Repeats furtherDigit (ds ++ '\n' :: rest) ds ('\n' :: rest) := by
  induction ds with
  | nil => exact .stop (by simp [furtherDigit])
  | cons d ds ih =>
      rw [List.forall_mem_cons] at digits
      have takes : furtherDigit (d :: (ds ++ '\n' :: rest)) = some (d, ds ++ '\n' :: rest) := by
        simp [furtherDigit, digits.1]
      exact .step takes (by simp) (ih digits.2)

theorem digitsOf_append (digits : ∀ d ∈ ds, d.isDigit = true) (nonempty : ds ≠ []) :
    digitsOf Char.isDigit (ds ++ '\n' :: rest) = some (ds, '\n' :: rest) := by
  obtain ⟨d, ds, rfl⟩ := List.exists_cons_of_ne_nil nonempty
  rw [List.forall_mem_cons] at digits
  have read := many_of_repeats (repeats_furtherDigit digits.2 rest)
  rw [furtherDigit] at read
  simp [digitsOf, digits.1, read]

theorem isDigit_of_mem_toDigits (c : Char) (member : c ∈ Nat.toDigits 10 n) : c.isDigit = true :=
  Nat.isDigit_of_mem_toDigits (by decide) (by decide) member

theorem ofDigits_toDigits (n : Nat) : ofDigits 10 (Nat.toDigits 10 n) = n := by
  have value : ∀ d ∈ Nat.toDigits 10 n, digitValue d = d.toNat - '0'.toNat := by
    intro d member
    rw [digitValue, if_pos (isDigit_of_mem_toDigits d member)]
  have same : ofDigits 10 (Nat.toDigits 10 n) = Nat.ofDigitChars 10 (Nat.toDigits 10 n) 0 := by
    rw [ofDigits, Nat.ofDigitChars_eq_foldl]
    exact List.foldl_ext _ _ _ fun m d member => by rw [value d member, Nat.mul_comm]
  rw [same, Nat.ofDigitChars_ten_toDigits]

theorem eq_zero_of_head?_toDigits (zero : (Nat.toDigits 10 n).head? = some '0') : n = 0 := by
  induction n using Nat.base_induction 10 (by decide) with
  | single m small => simpa [Nat.toDigits_of_lt_base small] using zero
  | digit m k small positive ih =>
      rw [← Nat.toDigits_append_toDigits (by decide) positive small,
        List.head?_append_of_ne_nil _ Nat.toDigits_ne_nil] at zero
      exact absurd (ih zero) (Nat.ne_of_gt positive)

theorem decimalDigits_toDigits (n : Nat) (rest : List Char) :
    decimalDigits (Nat.toDigits 10 n ++ '\n' :: rest) = some (Nat.toDigits 10 n, '\n' :: rest) := by
  have read : digitsOf Char.isDigit (Nat.toDigits 10 n ++ '\n' :: rest) =
      some (Nat.toDigits 10 n, '\n' :: rest) :=
    digitsOf_append isDigit_of_mem_toDigits Nat.toDigits_ne_nil
  rw [decimalDigits, Parser.bind_apply, read, Option.bind_some]
  let kept : Parser (List Char) := pure (Nat.toDigits 10 n)
  refine congrFun (g := kept) ?_ ('\n' :: rest)
  dsimp only
  split
  next digits_eq =>
    have zero : n = 0 := eq_zero_of_head?_toDigits (by rw [digits_eq]; rfl)
    simp [zero] at digits_eq
  next => rfl

def minus (negative : Bool) : List Char := if negative then ['-'] else []

theorem toList_toString (n : Int) :
    (toString n).toList = minus (decide (n < 0)) ++ Nat.toDigits 10 n.natAbs := by
  rw [Int.toString_eq_repr, Int.repr_eq_if]
  by_cases negative : n < 0
  · have abs_eq : (-n).toNat = n.natAbs := by omega
    simp [minus, negative, Int.not_le.mpr negative, abs_eq]
  · have abs_eq : n.toNat = n.natAbs := by omega
    simp [minus, negative, Int.not_lt.mp negative, abs_eq]

theorem fixedDigits_of_not_digit (digit : c.isDigit = false) (k : Nat) :
    fixedDigits (k + 1) (c :: rest) = none := by
  simp [fixedDigits, digit]

theorem dateTime_of_not_digit (digit : c.isDigit = false) : dateTime (c :: rest) = none := by
  simp only [dateTime, date, timeOfDay, twoDigits, Parser.bind_apply, Parser.orElse_apply,
    fixedDigits_of_not_digit digit, Option.bind_none, Option.orElse_none]

theorem dateTime_of_digits (digits : ∀ d ∈ ds, d.isDigit = true) :
    dateTime (ds ++ '\n' :: rest) = none := by
  have later (k : Nat) : ∀ d ∈ ds.drop k, d.isDigit = true :=
    fun d member => digits d (List.mem_of_mem_drop member)
  have notDate : date (ds ++ '\n' :: rest) = none := by
    simp only [date, Parser.bind_apply, fixedDigits_append digits]
    split
    · simp [char_of_digits (later 4)]
    · rfl
  have notTime : timeOfDay (ds ++ '\n' :: rest) = none := by
    simp only [timeOfDay, twoDigits, Parser.bind_apply, fixedDigits_append digits]
    split
    · rw [Option.bind_some]
      dsimp only
      split <;> simp [char_of_digits (later 2)]
    · rfl
  simp [dateTime, notDate, notTime]

variable {negative : Bool}

theorem leadingMinus_append (digits : ∀ d ∈ ds, d.isDigit = true) :
    leadingMinus (minus negative ++ (ds ++ '\n' :: rest)) =
      some (negative, ds ++ '\n' :: rest) := by
  cases negative with
  | true => simp [leadingMinus, minus]
  | false => simp [leadingMinus, minus, char_of_digits digits]

theorem baseInteger_of_digits {w : String} {base : Nat} {isDigit : Char → Bool}
    (mark : w.toList = ['0', c]) (digits : ∀ d ∈ ds, d.isDigit = true)
    (other : c.isDigit = false) (feed : c ≠ '\n') :
    baseInteger w base isDigit (minus negative ++ (ds ++ '\n' :: rest)) = none := by
  cases negative with
  | true => simp [baseInteger, word, mark, minus]
  | false =>
      cases ds with
      | nil => simp [baseInteger, word, mark, minus]
      | cons d ds =>
          rw [List.forall_mem_cons] at digits
          by_cases zero : d = '0' <;>
            simp [baseInteger, word, mark, minus, zero, char_of_digits digits.2 other feed]

theorem number_toString {n : Int} (fits : -0x8000000000000000 ≤ n ∧ n < 0x8000000000000000)
    (rest : List Char) :
    number ((toString n).toList ++ '\n' :: rest) = some (.integer n, '\n' :: rest) := by
  have value : (if decide (n < 0) then -(n.natAbs : Int) else n.natAbs) = n := by
    simp only [decide_eq_true_eq]
    split <;> omega
  rw [toList_toString, List.append_assoc]
  have digits := isDigit_of_mem_toDigits (n := n.natAbs)
  generalize decide (n < 0) = negative at value ⊢
  have notDate :
      dateTime (minus negative ++ (Nat.toDigits 10 n.natAbs ++ '\n' :: rest)) = none := by
    cases negative with
    | true => exact dateTime_of_not_digit rfl
    | false => exact dateTime_of_digits digits
  have notFloat :
      decimalFloat (minus negative ++ (Nat.toDigits 10 n.natAbs ++ '\n' :: rest)) = none := by
    simp [decimalFloat, leadingMinus_append digits, decimalDigits_toDigits, option, fraction,
      exponent]
  have notSpecial :
      specialFloat (minus negative ++ (Nat.toDigits 10 n.natAbs ++ '\n' :: rest)) = none := by
    simp [specialFloat, leadingMinus_append digits, word, char_of_digits digits]
  have read : integer (minus negative ++ (Nat.toDigits 10 n.natAbs ++ '\n' :: rest)) =
      some (n, '\n' :: rest) := by
    simp only [integer, Parser.orElse_apply, Parser.bind_apply,
      baseInteger_of_digits (w := "0x") rfl digits rfl (by decide),
      baseInteger_of_digits (w := "0o") rfl digits rfl (by decide),
      baseInteger_of_digits (w := "0b") rfl digits rfl (by decide), leadingMinus_append digits,
      decimalDigits_toDigits, Option.bind_some, ofDigits_toDigits, checkedInteger, value,
      if_pos fits]
    rfl
  simp [number, notDate, notFloat, notSpecial, read]

def startsNumber (c : Char) : Bool := c.isDigit || c == '-' || c == '+' || c == 'i' || c == 'n'

theorem exists_start_toString (n : Int) :
    ∃ c cs, (toString n).toList = c :: cs ∧ startsNumber c = true := by
  rw [toList_toString]
  cases decide (n < 0) with
  | true => exact ⟨'-', _, rfl, rfl⟩
  | false =>
      have nonempty : Nat.toDigits 10 n.natAbs ≠ [] := Nat.toDigits_ne_nil
      obtain ⟨d, ds, digits_eq⟩ := List.exists_cons_of_ne_nil nonempty
      have digit : d.isDigit = true := isDigit_of_mem_toDigits d (by rw [digits_eq]; simp)
      exact ⟨d, ds, digits_eq, by simp [startsNumber, digit]⟩

theorem number_of_not_starts (other : startsNumber c = false) : number (c :: rest) = none := by
  simp only [startsNumber, Bool.or_eq_false_iff, beq_eq_false_iff_ne] at other
  obtain ⟨⟨⟨⟨digit, dash⟩, plus⟩, inf⟩, nan⟩ := other
  have zero : c ≠ '0' := (ne_of_satisfies (rfl : Char.isDigit '0' = true) digit).symm
  have notDate : dateTime (c :: rest) = none := dateTime_of_not_digit digit
  have sign : leadingMinus (c :: rest) = some (false, c :: rest) := by
    simp [leadingMinus, dash, plus]
  have noDigits : decimalDigits (c :: rest) = none := by
    simp [decimalDigits, digitsOf, digit]
  simp [number, notDate, decimalFloat, sign, noDigits, specialFloat, word, inf, nan, integer,
    baseInteger, zero]

end ReplicaPlacement.Toml
