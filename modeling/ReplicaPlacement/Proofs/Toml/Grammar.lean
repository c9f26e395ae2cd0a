import ReplicaPlacement.Toml.Grammar

namespace ReplicaPlacement.Toml

variable {α β : Type}

namespace Parser

@[simp]
theorem pure_apply (a : α) (s : List Char) : (pure a : Parser α) s = some (a, s) := rfl

@[simp]
theorem failure_apply (s : List Char) : (failure : Parser α) s = none := rfl

@[simp]
theorem bind_apply (p : Parser α) (f : α → Parser β) (s : List Char) :
    (p >>= f) s = (p s).bind fun r => f r.1 r.2 := rfl

@[simp]
theorem map_apply (f : α → β) (p : Parser α) (s : List Char) :
    (f <$> p) s = (p s).map fun r => (f r.1, r.2) := by
  change (p s).bind _ = _
  cases p s <;> rfl

@[simp]
theorem discard_apply (p : Parser α) (s : List Char) :
    (discard p : Parser Unit) s = (p s).map fun r => ((), r.2) := by
  change (p s).bind _ = _
  cases p s <;> rfl

@[simp]
theorem orElse_apply (p q : Parser α) (s : List Char) :
    (p <|> q) s = (p s).orElse fun _ => q s := rfl

@[simp]
theorem seqRight_apply (p : Parser α) (q : Parser β) (s : List Char) :
    (p *> q) s = (p s).bind fun r => q r.2 := rfl

@[simp]
theorem seqLeft_apply (p : Parser α) (q : Parser β) (s : List Char) :
    (p <* q) s = (p s).bind fun r => (q r.2).map fun t => (r.1, t.2) := by
  change (p s).bind _ = _
  congr 1
  funext r
  change (q r.2).bind _ = _
  cases q r.2 <;> rfl

end Parser

variable {p : Parser α} {f : Char → Bool} {c : Char} {s rest : List Char}

theorem option_of_some {a : α} (takes : p s = some (a, rest)) :
    option p s = some (some a, rest) := by
  simp [option, takes]

theorem option_of_none (fails : p s = none) : option p s = some (none, s) := by
  simp [option, fails]

theorem ne_of_satisfies {d : Char} (satisfied : f c = true) (unsatisfied : f d = false) :
    c ≠ d := by
  intro same
  rw [same, unsatisfied] at satisfied
  contradiction

theorem length_lt_cons_append (c : Char) (cs s : List Char) :
    s.length < (c :: (cs ++ s)).length := by
  rw [List.length_cons, List.length_append]
  omega

@[simp]
theorem satisfy_nil (f : Char → Bool) : satisfy f [] = none := rfl

@[simp]
theorem satisfy_cons (f : Char → Bool) (c : Char) (s : List Char) :
    satisfy f (c :: s) = if f c then some (c, s) else none := rfl

@[simp]
theorem char_nil (c : Char) : char c [] = none := rfl

@[simp]
theorem char_cons (c d : Char) (s : List Char) :
    char c (d :: s) = if d = c then some (d, s) else none := by
  simp [char]

def Stops (f : Char → Bool) (rest : List Char) : Prop := ∀ c, rest.head? = some c → f c = false

theorem stops_cons : Stops f (c :: rest) ↔ f c = false := by simp [Stops]

theorem takeWhile_and_dropWhile_append {cs : List Char} (all : ∀ c ∈ cs, f c = true)
    (stops : Stops f rest) :
    (cs ++ rest).takeWhile f = cs ∧ (cs ++ rest).dropWhile f = rest := by
  have untouched : rest.takeWhile f = [] ∧ rest.dropWhile f = rest := by
    cases rest with
    | nil => exact ⟨rfl, rfl⟩
    | cons c rest => simp [stops_cons.mp stops]
  rw [List.takeWhile_append_of_pos all, List.dropWhile_append_of_pos all, untouched.1,
    untouched.2, List.append_nil]
  exact ⟨rfl, rfl⟩

theorem run_append {cs : List Char} (all : ∀ c ∈ cs, f c = true) (stops : Stops f rest) :
    run f (cs ++ rest) = some (cs, rest) := by
  obtain ⟨taken, left⟩ := takeWhile_and_dropWhile_append all stops
  rw [run, taken, left]

theorem run1_cons (first : f c = true) :
    run1 f (c :: s) = some (c :: s.takeWhile f, s.dropWhile f) := by
  simp [run1, run, first]

theorem run1_of_unsatisfied (other : f c = false) : run1 f (c :: s) = none := by
  simp [run1, other]

theorem run1_append {cs : List Char} (all : ∀ c ∈ cs, f c = true) (nonempty : cs ≠ [])
    (stops : Stops f rest) : run1 f (cs ++ rest) = some (cs, rest) := by
  obtain ⟨c, cs, rfl⟩ := List.exists_cons_of_ne_nil nonempty
  rw [List.forall_mem_cons] at all
  obtain ⟨taken, left⟩ := takeWhile_and_dropWhile_append all.2 stops
  rw [List.cons_append, run1_cons all.1, taken, left]

/-- The parser succeeds time and again from `s` on, with the results `as`, and fails on `rest`. -/
inductive Repeats (p : Parser α) : List Char → List α → List Char → Prop
  | stop {s : List Char} (fails : p s = none) : Repeats p s [] s
  | step {s s' rest : List Char} {a : α} {as : List α} (takes : p s = some (a, s'))
      (shorter : s'.length < s.length) (more : Repeats p s' as rest) : Repeats p s (a :: as) rest

theorem many_of_repeats {as : List α} (repeats : Repeats p s as rest) :
    many p s = some (as, rest) := by
  -- Each success takes a character, so what was left at the start is enough for the rest.
  have bounded (n : Nat) (enough : s.length ≤ n) : repeated p n s = some (as, rest) := by
    induction repeats generalizing n with
    | stop fails =>
        cases n with
        | zero => rfl
        | succ n => simp [repeated, fails]
    | step takes shorter more ih =>
        cases n with
        | zero => omega
        | succ n => simp [repeated, takes, ih n (by omega)]
  exact bounded s.length (Nat.le_refl _)

theorem separated_of_items {item : Parser α} {separator : Parser Unit} {a : α} {as : List α}
    {s' : List Char} (first : item s = some (a, s'))
    (others : Repeats (separator *> item) s' as rest) :
    separated item separator s = some (a :: as, rest) := by
  simp [separated, first, many_of_repeats others]

theorem separated_of_none {item : Parser α} {separator : Parser Unit} (fails : item s = none) :
    separated item separator s = some ([], s) := by
  simp [separated, fails]

/-- Repeated, the parser reads the characters `cs`, however they fall into parts. -/
def Spells (p : Parser (List Char)) (s cs rest : List Char) : Prop :=
  ∃ parts, Repeats p s parts rest ∧ parts.flatten = cs

namespace Spells

variable {p : Parser (List Char)} {s' cs : List Char}

theorem stop (fails : p s = none) : Spells p s [] s := ⟨[], .stop fails, rfl⟩

theorem step {part : List Char} (takes : p s = some (part, s')) (shorter : s'.length < s.length)
    (more : Spells p s' cs rest) : Spells p s (part ++ cs) rest := by
  obtain ⟨parts, repeats, rfl⟩ := more
  exact ⟨part :: parts, .step takes shorter repeats, rfl⟩

theorem plain (runs : ∀ c s, f c = true → p (c :: s) = run1 f (c :: s)) (first : f c = true)
    (more : Spells p s cs rest) : Spells p (c :: s) (c :: cs) rest := by
  obtain ⟨parts, repeats, rfl⟩ := more
  by_cases goesOn : Stops f s
  · have alone : p (c :: s) = some ([c], s) := by
      rw [runs c s first]
      exact run1_append (by simpa using first : ∀ d ∈ [c], f d = true) (by simp) goesOn
    exact ⟨[c] :: parts, .step alone (by simp) repeats, rfl⟩
  · -- The run that `s` begins with grows by one character.
    obtain ⟨d, s, rfl, second⟩ : ∃ d s', s = d :: s' ∧ f d = true := by
      cases s with
      | nil => simp [Stops] at goesOn
      | cons d s => exact ⟨d, s, rfl, by simpa [stops_cons] using goesOn⟩
    have grown : p (c :: d :: s) = some (c :: d :: s.takeWhile f, s.dropWhile f) := by
      rw [runs c _ first, run1_cons first, List.takeWhile_cons_of_pos second,
        List.dropWhile_cons_of_pos second]
    have shorter : (s.dropWhile f).length < (c :: d :: s).length :=
      Nat.lt_add_right 1 (Nat.lt_succ_of_le (List.dropWhile_suffix f).length_le)
    cases repeats with
    | stop fails =>
        rw [runs d s second, run1_cons second] at fails
        contradiction
    | step takes _ others =>
        rw [runs d s second, run1_cons second, Option.some.injEq, Prod.mk.injEq] at takes
        obtain ⟨rfl, rfl⟩ := takes
        exact ⟨_ :: _, .step grown shorter others, rfl⟩

end Spells

end ReplicaPlacement.Toml
