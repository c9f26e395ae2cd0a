import ReplicaPlacement.Cluster
import ReplicaPlacement.Proofs.Selection.Reference

namespace ReplicaPlacement

open Candidate (Ranked ranked_rank)

namespace Constraints

variable {k : Constraints} {fresh : Tracker} {ranked : List Candidate} {required : Nat}
variable {r : Option Selection}

theorem Attempted.eq_none_iff (attempted : Attempted k fresh ranked required 0 none r)
    (order : Ranked ranked) :
    r = .none ↔ ∀ start first, k.FirstCombination fresh ranked required start first →
      ¬ Score.negInfinity < Candidate.total (picksAt ranked first) := by
  have above_iff {positions : List Nat} := Score.lt_iff_level_lt Score.isNumber_negInfinity
    (isNumber_total_picksAt order positions)
  cases attempted with
  | kept least =>
      refine iff_of_true rfl fun start first isFirst above => ?_
      exact absurd (above_iff.mp above) (not_lt.mpr (least start first (Nat.zero_le _) isFirst))
  | @improved start first _ isFirst exceeds =>
      refine iff_of_false (Option.some_ne_none _) fun below => ?_
      exact below start first isFirst (above_iff.mpr exceeds)

theorem Attempted.eq_none_iff_infeasible (attempted : Attempted k fresh ranked required 0 none r)
    (order : Ranked ranked)
    (above : ∀ positions, k.Combination fresh ranked required 0 positions →
      Score.negInfinity < Candidate.total (picksAt ranked positions)) :
    r = .none ↔ ∀ positions, ¬ k.Combination fresh ranked required 0 positions := by
  rw [attempted.eq_none_iff order]
  constructor
  · intro below positions combination
    obtain ⟨first, isFirst⟩ := combination.exists_first
    exact below 0 first isFirst (above first isFirst.toCombination)
  · intro infeasible start first isFirst
    exact absurd (isFirst.toCombination.of_later (Nat.zero_le start)) (infeasible first)

end Constraints

namespace Selector

/-- With every look-up answered a run ends with an answer, and that is no selection exactly if no
first combination scores above minus infinity. Unless a sum falls to minus infinity, it is no
selection exactly if there is no combination. -/
theorem select_eq_none_iff (s : Selector)
    (answers : ∀ node key, ∃ v, s.properties node key = .ok v) (filter : PlacementFilter)
    (resource : Option Resource) (candidates : List Candidate) {occupied : Occupancy}
    (scan : Occupancy.ofResource? s.mixing filter resource = .ok occupied)
    (positive : 1 ≤ filter.required (occupied.count filter)) :
    let k := s.constraints filter occupied
    let ranked := Candidate.rank candidates
    let required := filter.required (occupied.count filter)
    ∃ fresh r, (∀ t, k.reset t = (fresh, none)) ∧
      (s.select filter resource candidates).outcome = .ok r ∧
      (r = none ↔ ∀ start first, k.FirstCombination fresh ranked required start first →
        ¬ Score.negInfinity < Candidate.total (picksAt ranked first)) ∧
      ((∀ positions, k.Combination fresh ranked required 0 positions →
          Score.negInfinity < Candidate.total (picksAt ranked positions)) →
        (r = none ↔ ∀ positions, ¬ k.Combination fresh ranked required 0 positions)) := by
  intro k ranked required
  have readable : k.Readable := Constraints.readable_of_answers answers
  have order : Ranked ranked := ranked_rank candidates
  obtain ⟨r, outcome_eq, attempted⟩ := exists_attempted readable scan positive candidates
  exact ⟨k.anew [], r, readable.reset_eq, outcome_eq, attempted.eq_none_iff order,
    attempted.eq_none_iff_infeasible order⟩

theorem infeasible_beside_deployed :
    let s : Selector := { properties := fun _ _ => .ok none, mixing := .standard }
    let k := s.constraints { replicaCount := some 2 } inUse
    ∃ fresh, (∀ t, k.reset t = (fresh, none)) ∧
      ∀ positions, ¬ k.Combination fresh (Candidate.rank [offered[0]]) 1 0 positions := by
  intro s k
  have run : (s.select { replicaCount := some 2 } (some deployed) [offered[0]]).outcome =
      .ok none := by
    decide +kernel
  have scan : Occupancy.ofResource? s.mixing { replicaCount := some 2 } (some deployed) =
      .ok inUse := by
    decide +kernel
  obtain ⟨fresh, r, reset, outcome_eq, -, infeasible_iff⟩ :=
    select_eq_none_iff s (fun _ _ => ⟨none, rfl⟩) { replicaCount := some 2 } (some deployed)
      [offered[0]] scan (by decide)
  refine ⟨fresh, reset, (infeasible_iff ?_).mp (Except.ok.inj (outcome_eq.symm.trans run))⟩
  intro positions combination
  obtain ⟨p, rfl⟩ := List.length_eq_one_iff.mp combination.length_eq
  obtain rfl : p = 0 := Nat.lt_one_iff.mp (combination.in_range p (by simp)).2
  decide +kernel

def lowest : List Candidate :=
  [{ name := "p", node := "n1", kind := .lvm, score := ⟨0xffefffffffffffff⟩ },
    { name := "p", node := "n2", kind := .lvm, score := ⟨0xffefffffffffffff⟩ }]

theorem none_selected_of_feasible :
    let s : Selector := { properties := ({} : Cluster).property, mixing := .standard }
    let k := s.constraints { replicaCount := some 2 } {}
    ∃ fresh, (∀ t, k.reset t = (fresh, none)) ∧
      k.Combination fresh (Candidate.rank lowest) 2 0 [0, 1] ∧
      (s.select { replicaCount := some 2 } none lowest).outcome = .ok none := by
  intro s k
  have readable : k.Readable := Constraints.readable_of_answers fun node key => ⟨_, rfl⟩
  refine ⟨k.anew [], readable.reset_eq, ?_, by decide +kernel⟩
  exact ⟨rfl, by decide, by decide +kernel, by decide +kernel⟩

end Selector

end ReplicaPlacement
