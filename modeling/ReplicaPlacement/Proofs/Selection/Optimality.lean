import ReplicaPlacement.Cluster
import ReplicaPlacement.Proofs.Selection.Reference

namespace ReplicaPlacement

open Candidate (Ranked ranked_rank)

namespace Constraints

variable {k : Constraints} {fresh : Tracker} {ranked : List Candidate} {count start : Nat}
variable {positions : List Nat}

theorem Combination.exists_first_cons {p : Nat} {rest : List Nat}
    (combination : k.Combination fresh ranked count start (p :: rest)) :
    ∃ others, k.FirstCombination fresh ranked count p (p :: others) ∧
      (others = rest ∨ List.Lex (· < ·) others rest) := by
  have own : k.Combination fresh ranked count p (p :: rest) := by
    refine { combination with in_range := ?_ }
    intro q member
    refine ⟨?_, (combination.in_range q member).2⟩
    rcases List.mem_cons.mp member with rfl | later
    · exact Nat.le_refl _
    · exact Nat.le_of_lt (List.rel_of_pairwise_cons combination.increasing later)
  obtain ⟨first, isFirst⟩ := own.exists_first
  cases first with
  | nil =>
      have lengths := isFirst.length_eq.trans combination.length_eq.symm
      exact absurd lengths (by simp)
  | cons q others =>
      have lower := (isFirst.in_range q (by simp)).1
      rcases isFirst.least _ own with equality | less
      · obtain ⟨rfl, rest_eq⟩ := List.cons.inj equality
        exact ⟨others, isFirst, .inl rest_eq⟩
      · cases less with
        | rel less => exact absurd less (Nat.not_lt.mpr lower)
        | cons less => exact ⟨others, isFirst, .inr less⟩

theorem Combination.exists_first_forall₂
    (combination : k.Combination fresh ranked count start positions) (few : count ≤ 2) :
    ∃ s first, k.FirstCombination fresh ranked count s first ∧
      List.Forall₂ (· ≤ ·) first positions := by
  cases positions with
  | nil =>
      obtain ⟨first, isFirst⟩ := combination.exists_first
      have lengths := isFirst.length_eq.trans combination.length_eq.symm
      obtain rfl : first = [] := List.length_eq_zero_iff.mp lengths
      exact ⟨start, [], isFirst, .nil⟩
  | cons p rest =>
      obtain ⟨others, isFirst, sooner⟩ := combination.exists_first_cons
      refine ⟨p, p :: others, isFirst, .cons (Nat.le_refl p) ?_⟩
      have lengths := isFirst.length_eq.trans combination.length_eq.symm
      have rest_few := combination.length_eq
      rw [List.length_cons] at lengths rest_few
      rcases sooner with rfl | less
      · exact List.forall₂_same.mpr fun q _ => Nat.le_refl q
      · cases less with
        | nil => simp at lengths
        | @rel r others q rest less =>
            -- Where the second picks differ, no third one follows that could come later instead.
            rw [List.length_cons] at lengths rest_few
            obtain rfl : rest = [] := List.length_eq_zero_iff.mp (by omega)
            obtain rfl : others = [] := List.length_eq_zero_iff.mp (by simpa using lengths)
            exact .cons (Nat.le_of_lt less) .nil
        | @cons q others rest less =>
            rw [List.length_cons] at rest_few
            obtain rfl : rest = [] := List.length_eq_zero_iff.mp (by omega)
            exact nomatch less

theorem Combination.of_ahead (combination : k.Combination fresh ranked count start positions)
    {s : Nat} {first : List Nat} (isFirst : k.FirstCombination fresh ranked count s first)
    (ahead : List.Forall₂ (· ≤ ·) first positions) :
    k.Combination fresh ranked count s positions := by
  refine { combination with in_range := ?_ }
  intro p member
  obtain ⟨i, bound, rfl⟩ := List.getElem_of_mem member
  have firstBound : i < first.length := by
    rw [ahead.length_eq]
    exact bound
  have lower := (isFirst.in_range _ (List.getElem_mem firstBound)).1
  exact ⟨lower.trans (ahead.get firstBound bound), (combination.in_range _ member).2⟩

/-- A combination of at most two picks scores no more than a first one from where both start. -/
theorem Combination.exists_first_level_le (order : Ranked ranked)
    (combination : k.Combination fresh ranked count start positions) (few : count ≤ 2) :
    ∃ s first, k.Combination fresh ranked count s positions ∧
      k.FirstCombination fresh ranked count s first ∧
      (Candidate.total (picksAt ranked positions)).level ≤
        (Candidate.total (picksAt ranked first)).level := by
  obtain ⟨s, first, isFirst, ahead⟩ := combination.exists_first_forall₂ few
  refine ⟨s, first, combination.of_ahead isFirst ahead, isFirst, ?_⟩
  exact level_total_le_of_forall₂ order ahead fun p member => (combination.in_range p member).2

end Constraints

namespace Selector

/-- A selection is the best of the first combinations. It is the best combination of all exactly if
each combination is matched by a first one, and always if there are at most two picks. -/
theorem best_iff_firsts_suffice {s : Selector} {filter : PlacementFilter}
    {resource : Option Resource} {candidates : List Candidate} {occupied : Occupancy}
    {selection : Selection}
    (run : (s.select filter resource candidates).outcome = .ok (some selection))
    (scan : Occupancy.ofResource? s.mixing filter resource = .ok occupied)
    (positive : 1 ≤ filter.required (occupied.count filter)) :
    let k := s.constraints filter occupied
    let ranked := Candidate.rank candidates
    let required := filter.required (occupied.count filter)
    ∃ fresh, (∀ t, k.reset t = (fresh, none)) ∧
      (∃ start first, k.FirstCombination fresh ranked required start first ∧
        selection = ⟨picksAt ranked first, Candidate.total (picksAt ranked first)⟩) ∧
      (∀ start first, k.FirstCombination fresh ranked required start first →
        Candidate.total (picksAt ranked first) ≤ selection.score) ∧
      ((∀ positions, k.Combination fresh ranked required 0 positions →
          Candidate.total (picksAt ranked positions) ≤ selection.score) ↔
        ∀ positions, k.Combination fresh ranked required 0 positions →
          ∃ start first, k.FirstCombination fresh ranked required start first ∧
            Candidate.total (picksAt ranked positions) ≤
              Candidate.total (picksAt ranked first)) ∧
      (required ≤ 2 → ∀ positions, k.Combination fresh ranked required 0 positions →
        Candidate.total (picksAt ranked positions) ≤ selection.score) := by
  intro k ranked required
  have order : Ranked ranked := ranked_rank candidates
  obtain ⟨other, otherScan, ⟨none, -⟩ | ⟨-, fresh, ready, searched⟩⟩ :=
    cases_of_select run
  · obtain rfl : occupied = other := Except.ok.inj (scan.symm.trans otherScan)
    omega
  · obtain rfl : occupied = other := Except.ok.inj (scan.symm.trans otherScan)
    have total_le_iff {one other : List Nat} := Score.le_iff_level_le
      (isNumber_total_picksAt order one) (isNumber_total_picksAt order other)
    obtain rfl : fresh = k.anew [] := Constraints.eq_anew_of_fresh ready
    cases attempted_of_search positive searched with
    | @improved start best _ isFirst _ greatest _ =>
        have beats (s : Nat) (first : List Nat)
            (otherFirst : k.FirstCombination (k.anew []) ranked required s first) :
            Candidate.total (picksAt ranked first) ≤ Candidate.total (picksAt ranked best) :=
          total_le_iff.mpr (greatest s first (Nat.zero_le s) otherFirst)
        have suffices_of_matched (positions : List Nat)
            (matched : ∃ s first, k.FirstCombination (k.anew []) ranked required s first ∧
              Candidate.total (picksAt ranked positions) ≤
                Candidate.total (picksAt ranked first)) :
            Candidate.total (picksAt ranked positions) ≤ Candidate.total (picksAt ranked best) := by
          obtain ⟨s, first, otherFirst, le⟩ := matched
          exact total_le_iff.mpr
            ((total_le_iff.mp le).trans (total_le_iff.mp (beats s first otherFirst)))
        refine ⟨k.anew [], Constraints.reset_eq_of_fresh ready, ⟨start, best, isFirst, rfl⟩, beats,
          ⟨?_, ?_⟩, ?_⟩
        · intro optimal positions combination
          exact ⟨start, best, isFirst, optimal positions combination⟩
        · intro matched positions combination
          exact suffices_of_matched positions (matched positions combination)
        · intro few positions combination
          -- Of at most two picks each stands no later in the first combination from that start.
          obtain ⟨s, first, -, otherFirst, le⟩ := combination.exists_first_level_le order few
          exact suffices_of_matched positions ⟨s, first, otherFirst, total_le_iff.mpr le⟩

/-- After `n1` the best pool on `n2` comes first. It shares its backend with the pool on `n3`, while
the other pool on `n2` does not. -/
def crossed : List Candidate :=
  [{ name := "p", node := "n1", kind := .lvm, score := ⟨0x4024000000000000⟩ },
    { name := "p", node := "n2", sharedName := some "san", kind := .lvm,
      score := ⟨0x4022000000000000⟩ },
    { name := "q", node := "n2", kind := .lvm, score := ⟨0x4020000000000000⟩ },
    { name := "p", node := "n3", sharedName := some "san", kind := .lvm,
      score := ⟨0x401c000000000000⟩ },
    { name := "p", node := "n4", kind := .lvm, score := ⟨0x3ff0000000000000⟩ }]

theorem exists_better_than_selected :
    let s : Selector := { properties := ({} : Cluster).property, mixing := .standard }
    let k := s.constraints { replicaCount := some 3 } {}
    ∃ fresh selection, (∀ t, k.reset t = (fresh, none)) ∧
      (s.select { replicaCount := some 3 } none crossed).outcome = .ok (some selection) ∧
      k.Combination fresh (Candidate.rank crossed) 3 0 [0, 2, 3] ∧
      selection.score < Candidate.total (picksAt (Candidate.rank crossed) [0, 2, 3]) := by
  intro s k
  have readable : k.Readable := Constraints.readable_of_answers fun node key => ⟨_, rfl⟩
  refine ⟨k.anew [], ⟨[crossed[0], crossed[1], crossed[4]], ⟨0x4034000000000000⟩⟩,
    readable.reset_eq, by decide +kernel, ?_, by decide +kernel⟩
  exact ⟨rfl, by decide, by decide +kernel, by decide +kernel⟩

theorem best_first_of_crossed :
    let s : Selector := { properties := ({} : Cluster).property, mixing := .standard }
    let k := s.constraints { replicaCount := some 3 } {}
    ∃ fresh start first, (∀ t, k.reset t = (fresh, none)) ∧
      k.FirstCombination fresh (Candidate.rank crossed) 3 start first ∧
      (⟨[crossed[0], crossed[1], crossed[4]], ⟨0x4034000000000000⟩⟩ : Selection) =
        ⟨picksAt (Candidate.rank crossed) first,
          Candidate.total (picksAt (Candidate.rank crossed) first)⟩ := by
  intro s k
  have run : (s.select { replicaCount := some 3 } none crossed).outcome =
      .ok (some ⟨[crossed[0], crossed[1], crossed[4]], ⟨0x4034000000000000⟩⟩) := by
    decide +kernel
  have scan : Occupancy.ofResource? s.mixing { replicaCount := some 3 } none = .ok {} := rfl
  obtain ⟨fresh, reset, ⟨start, first, isFirst, selected⟩, -⟩ :=
    best_iff_firsts_suffice run scan (by decide)
  exact ⟨fresh, start, first, reset, isFirst, selected⟩

end Selector

end ReplicaPlacement
