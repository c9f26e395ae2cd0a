import ReplicaPlacement.Proofs.Tracker.Stepwise

namespace ReplicaPlacement

def picksAt (ranked : List Candidate) (positions : List Nat) : List Candidate :=
  positions.filterMap fun p => ranked[p]?

namespace Constraints

variable (k : Constraints)

/-- Increasing positions, from `start` on, whose candidates join one after another. -/
structure Combination (t : Tracker) (ranked : List Candidate) (count start : Nat)
    (positions : List Nat) : Prop where
  length_eq : positions.length = count
  increasing : positions.Pairwise (· < ·)
  in_range : ∀ p ∈ positions, start ≤ p ∧ p < ranked.length
  admitted : (k.takeAll? t (picksAt ranked positions)).isSome = true

structure FirstCombination (t : Tracker) (ranked : List Candidate) (count start : Nat)
    (positions : List Nat) : Prop
    extends k.Combination t ranked count start positions where
  least : ∀ other, k.Combination t ranked count start other →
    positions = other ∨ List.Lex (· < ·) positions other

end Constraints

variable {ranked : List Candidate}

theorem picksAt_cons {p : Nat} {c : Candidate} (entry : ranked[p]? = some c)
    (positions : List Nat) :
    picksAt ranked (p :: positions) = c :: picksAt ranked positions := by
  simp [picksAt, entry]

theorem length_picksAt {positions : List Nat} (bound : ∀ p ∈ positions, p < ranked.length) :
    (picksAt ranked positions).length = positions.length := by
  induction positions with
  | nil => rfl
  | cons p rest induction =>
      have entry := List.getElem?_eq_getElem (bound p (by simp))
      rw [picksAt_cons entry, List.length_cons, List.length_cons,
        induction fun q member => bound q (by simp [member])]

theorem mem_of_mem_picksAt {positions : List Nat} {c : Candidate}
    (member : c ∈ picksAt ranked positions) : c ∈ ranked := by
  obtain ⟨p, -, entry⟩ := List.mem_filterMap.mp member
  exact List.mem_of_getElem? entry

theorem entry_of_drop_eq_cons {start : Nat} {c : Candidate} {rest : List Candidate}
    (equality : ranked.drop start = c :: rest) :
    ranked[start]? = some c ∧ ranked.drop (start + 1) = rest := by
  constructor
  · rw [← List.head?_drop, equality, List.head?_cons]
  · rw [← List.tail_drop, equality, List.tail_cons]

/-- Increasing positions run ahead of consecutive ones. -/
theorem add_le_getElem_of_increasing {positions : List Nat} {start : Nat}
    (increasing : positions.Pairwise (· < ·)) (lower : ∀ p ∈ positions, start ≤ p) (i : Nat)
    (bound : i < positions.length) : start + i ≤ positions[i] := by
  induction positions generalizing start i with
  | nil => simp at bound
  | cons p rest induction =>
      obtain ⟨before, tail⟩ := List.pairwise_cons.mp increasing
      have head : start ≤ p := lower p (by simp)
      cases i with
      | zero => simpa using head
      | succ i =>
          have above : ∀ q ∈ rest, start + 1 ≤ q := fun q member => by
            have := before q member
            omega
          have step := induction tail above i (by simpa using bound)
          rw [List.getElem_cons_succ]
          omega

namespace Constraints

variable {k : Constraints} {t t' u : Tracker} {c : Candidate} {count start : Nat}
variable {positions rest : List Nat}

namespace Combination

theorem of_later (combination : k.Combination t ranked count start positions) {earlier : Nat}
    (le : earlier ≤ start) : k.Combination t ranked count earlier positions where
  length_eq := combination.length_eq
  increasing := combination.increasing
  in_range p member :=
    ⟨le.trans (combination.in_range p member).1, (combination.in_range p member).2⟩
  admitted := combination.admitted

theorem add_le_length (combination : k.Combination t ranked count start positions)
    (positive : 0 < count) : start + count ≤ ranked.length := by
  have bound : count - 1 < positions.length := by
    rw [combination.length_eq]
    omega
  have ahead := add_le_getElem_of_increasing combination.increasing
    (fun p member => (combination.in_range p member).1) (count - 1) bound
  have inside := (combination.in_range _ (List.getElem_mem bound)).2
  omega

theorem length_picksAt_eq (combination : k.Combination t ranked count start positions) :
    (picksAt ranked positions).length = count := by
  rw [length_picksAt fun p member => (combination.in_range p member).2, combination.length_eq]

theorem head_or_later (combination : k.Combination t ranked (count + 1) start positions) :
    (∃ rest, positions = start :: rest) ∨
      k.Combination t ranked (count + 1) (start + 1) positions := by
  cases positions with
  | nil => exact absurd combination.length_eq (by simp)
  | cons p rest =>
      have lower := (combination.in_range p (by simp)).1
      rcases Nat.eq_or_lt_of_le lower with rfl | less
      · exact .inl ⟨rest, rfl⟩
      · right
        refine { combination with in_range := ?_ }
        intro q member
        refine ⟨?_, (combination.in_range q member).2⟩
        rcases List.mem_cons.mp member with rfl | later
        · exact less
        · have above := List.rel_of_pairwise_cons combination.increasing later
          omega

end Combination

theorem combination_nil : k.Combination t ranked 0 start [] where
  length_eq := rfl
  increasing := .nil
  in_range := by simp
  admitted := rfl

theorem combination_cons_iff (entry : ranked[start]? = some c) :
    k.Combination t ranked (count + 1) start (start :: rest) ↔
      ∃ t', k.take? t c = some t' ∧ k.Combination t' ranked count (start + 1) rest := by
  have inside : start < ranked.length := (List.getElem?_eq_some_iff.mp entry).1
  constructor
  · intro combination
    obtain ⟨heads, tails⟩ := List.pairwise_cons.mp combination.increasing
    have admitted := combination.admitted
    rw [picksAt_cons entry, takeAll?, Option.isSome_bind] at admitted
    obtain ⟨t', taken, others⟩ := (Option.any_eq_true _ _).mp admitted
    refine ⟨t', taken, by simpa using combination.length_eq, tails, ?_, others⟩
    intro p member
    exact ⟨heads p member, (combination.in_range p (by simp [member])).2⟩
  · rintro ⟨t', taken, combination⟩
    refine ⟨by simp [combination.length_eq], ?_, ?_, ?_⟩
    · rw [List.pairwise_cons]
      exact ⟨fun p member => (combination.in_range p member).1, combination.increasing⟩
    · intro p member
      rcases List.mem_cons.mp member with rfl | later
      · exact ⟨Nat.le_refl _, inside⟩
      · have range := combination.in_range p later
        exact ⟨by omega, range.2⟩
    · rw [picksAt_cons entry, takeAll?, taken, Option.bind_some]
      exact combination.admitted

theorem not_combination_of_rejected (entry : ranked[start]? = some c)
    (rejected : k.admissible t c = .ok false) :
    ¬ k.Combination t ranked (count + 1) start (start :: rest) := by
  intro combination
  obtain ⟨next, taken, -⟩ := (combination_cons_iff entry).mp combination
  have admitted := (take?_eq_some_iff.mp taken).1
  rw [rejected] at admitted
  exact absurd admitted (by simp)

theorem not_combination_of_taken (entry : ranked[start]? = some c)
    (taken : k.take? t c = some t')
    (absent : ∀ positions, ¬ k.Combination t' ranked count (start + 1) positions) :
    ¬ k.Combination t ranked (count + 1) start (start :: rest) := by
  intro combination
  obtain ⟨other, otherTaken, remaining⟩ := (combination_cons_iff entry).mp combination
  obtain rfl : t' = other := Option.some.inj (taken.symm.trans otherTaken)
  exact absent rest remaining

theorem combination_congr (equality : t.view = u.view) :
    k.Combination t ranked count start positions ↔
      k.Combination u ranked count start positions := by
  have admitted := isSome_takeAll?_congr (k := k) equality (picksAt ranked positions)
  constructor
  · intro combination
    exact { combination with admitted := admitted ▸ combination.admitted }
  · intro combination
    exact { combination with admitted := admitted ▸ combination.admitted }

theorem Combination.stepwise
    (combination : k.Combination (k.anew []) ranked count start positions) :
    k.Stepwise (picksAt ranked positions) :=
  stepwise_iff_isSome_takeAll?.mpr combination.admitted

theorem Combination.apart (combination : k.Combination (k.anew []) ranked count start positions) :
    k.Apart (picksAt ranked positions) :=
  combination.stepwise.apart

namespace FirstCombination

theorem congr (first : k.FirstCombination t ranked count start positions)
    (equality : t.view = u.view) : k.FirstCombination u ranked count start positions where
  toCombination := (combination_congr equality).mp first.toCombination
  least other combination := first.least other ((combination_congr equality).mpr combination)

theorem unique {other : List Nat} (first : k.FirstCombination t ranked count start positions)
    (second : k.FirstCombination t ranked count start other) : positions = other := by
  rcases first.least other second.toCombination with equality | less
  · exact equality
  · rcases second.least positions first.toCombination with equality | greater
    · exact equality.symm
    · exact absurd greater (List.lt_asymm less)

theorem of_nil : k.FirstCombination t ranked 0 start [] where
  toCombination := combination_nil
  least _ combination := .inl (List.length_eq_zero_iff.mp combination.length_eq).symm

theorem cons (entry : ranked[start]? = some c) (taken : k.take? t c = some t')
    (first : k.FirstCombination t' ranked count (start + 1) rest) :
    k.FirstCombination t ranked (count + 1) start (start :: rest) where
  toCombination := (combination_cons_iff entry).mpr ⟨t', taken, first.toCombination⟩
  least other combination := by
    rcases combination.head_or_later with ⟨others, rfl⟩ | later
    · obtain ⟨u, otherTaken, remaining⟩ := (combination_cons_iff entry).mp combination
      obtain rfl : t' = u := Option.some.inj (taken.symm.trans otherTaken)
      rcases first.least others remaining with rfl | less
      · exact .inl rfl
      · exact .inr (.cons less)
    · right
      cases other with
      | nil => exact absurd combination.length_eq (by simp)
      | cons p others => exact .rel (later.in_range p (by simp)).1

theorem skip (first : k.FirstCombination t ranked (count + 1) (start + 1) positions)
    (none : ∀ rest, ¬ k.Combination t ranked (count + 1) start (start :: rest)) :
    k.FirstCombination t ranked (count + 1) start positions where
  toCombination := first.toCombination.of_later (Nat.le_succ _)
  least other combination := by
    rcases combination.head_or_later with ⟨rest, rfl⟩ | later
    · exact absurd combination (none rest)
    · exact first.least other later

end FirstCombination

theorem Combination.exists_first (combination : k.Combination t ranked count start positions) :
    ∃ first, k.FirstCombination t ranked count start first := by
  induction remaining : ranked.length - start generalizing t count start positions with
  | zero =>
      cases count with
      | zero => exact ⟨[], .of_nil⟩
      | succ count =>
          have bound := combination.add_le_length (Nat.succ_pos _)
          omega
  | succ remaining induction =>
      cases count with
      | zero => exact ⟨[], .of_nil⟩
      | succ count =>
          have inside : start < ranked.length := by omega
          have entry := List.getElem?_eq_getElem inside
          by_cases head : ∃ rest, k.Combination t ranked (count + 1) start (start :: rest)
          · obtain ⟨rest, combination⟩ := head
            obtain ⟨t', taken, others⟩ := (combination_cons_iff entry).mp combination
            obtain ⟨first, isFirst⟩ := induction others (by omega)
            exact ⟨start :: first, isFirst.cons entry taken⟩
          · rcases combination.head_or_later with ⟨rest, rfl⟩ | later
            · exact absurd ⟨rest, combination⟩ head
            · obtain ⟨first, isFirst⟩ := induction later (by omega)
              exact ⟨first, isFirst.skip fun rest found => head ⟨rest, found⟩⟩

end Constraints

end ReplicaPlacement
