import Mathlib.Data.List.Sublists
import Mathlib.Tactic.Lift
import ReplicaPlacement.Proofs.Search.Matching
import ReplicaPlacement.Proofs.Selection.Feasibility

namespace ReplicaPlacement

open Candidate (rank_sublist)

variable {ranked picks : List Candidate}

theorem picksAt_map_val (positions : List (Fin ranked.length)) :
    picksAt ranked (positions.map (↑)) = positions.map (ranked[·]) := by
  rw [picksAt, List.filterMap_map, ← List.filterMap_eq_map]
  exact List.filterMap_congr fun p _ => List.getElem?_eq_getElem p.isLt

theorem picksAt_sublist {positions : List Nat} (increasing : positions.Pairwise (· < ·))
    (bound : ∀ p ∈ positions, p < ranked.length) : (picksAt ranked positions).Sublist ranked := by
  lift positions to List (Fin ranked.length) using bound
  rw [List.pairwise_map] at increasing
  rw [picksAt_map_val]
  exact List.map_getElem_sublist increasing

theorem exists_positions_of_sublist (sublist : picks.Sublist ranked) :
    ∃ positions : List Nat, positions.Pairwise (· < ·) ∧ (∀ p ∈ positions, p < ranked.length) ∧
      picksAt ranked positions = picks := by
  obtain ⟨positions, rfl, increasing⟩ := List.sublist_eq_map_getElem sublist
  refine ⟨positions.map (↑), List.pairwise_map.mpr increasing, ?_, picksAt_map_val positions⟩
  intro p member
  obtain ⟨q, -, rfl⟩ := List.mem_map.mp member
  exact q.isLt

namespace Constraints

variable {k k' : Constraints} {ranked others : List Candidate} {count fewer : Nat}

def Feasible (k : Constraints) (ranked : List Candidate) (count : Nat) : Prop :=
  ∃ picks : List Candidate, picks.Sublist ranked ∧ picks.length = count ∧ k.Stepwise picks

theorem feasible_iff_exists_combination :
    k.Feasible ranked count ↔
      ∃ positions, k.Combination (k.anew []) ranked count 0 positions := by
  constructor
  · rintro ⟨picks, sublist, length_eq, stepwise⟩
    obtain ⟨positions, increasing, inside, rfl⟩ := exists_positions_of_sublist sublist
    refine ⟨positions, ?_, increasing, fun p member => ⟨Nat.zero_le p, inside p member⟩,
      stepwise_iff_isSome_takeAll?.mp stepwise⟩
    rw [← length_eq, length_picksAt inside]
  · rintro ⟨positions, combination⟩
    have inside p (member : p ∈ positions) := (combination.in_range p member).2
    exact ⟨picksAt ranked positions, picksAt_sublist combination.increasing inside,
      combination.length_picksAt_eq, combination.stepwise⟩

namespace Feasible

theorem of_sublist (feasible : k.Feasible ranked count) (sublist : ranked.Sublist others) :
    k.Feasible others count := by
  obtain ⟨picks, chosen, length_eq, stepwise⟩ := feasible
  exact ⟨picks, chosen.trans sublist, length_eq, stepwise⟩

theorem of_le (feasible : k.Feasible ranked count) (le : fewer ≤ count) :
    k.Feasible ranked fewer := by
  obtain ⟨picks, chosen, length_eq, stepwise⟩ := feasible
  have prefixed : (picks.take fewer).Sublist picks := List.take_sublist fewer picks
  refine ⟨picks.take fewer, prefixed.trans chosen, ?_, stepwise.of_sublist prefixed⟩
  rw [List.length_take, length_eq, Nat.min_eq_left le]

theorem of_matchedBy (feasible : k.Feasible ranked count) (matched : k.MatchedBy k')
    (ready : k.Rebuildable k.occupied.nodes) : k'.Feasible ranked count := by
  obtain ⟨picks, chosen, length_eq, stepwise⟩ := feasible
  exact ⟨picks, chosen, length_eq, matched.stepwise ready stepwise⟩

end Feasible

end Constraints

/-- Every sum of as many scores as a combination has is finite. -/
def Candidate.FiniteSums (candidates : List Candidate) (count : Nat) : Prop :=
  ∀ picks : List Candidate, picks.Sublist (rank candidates) → picks.length = count →
    (total picks).isFinite = true

instance {candidates : List Candidate} {count : Nat} :
    Decidable (Candidate.FiniteSums candidates count) :=
  decidable_of_iff
    (∀ picks ∈ (Candidate.rank candidates).sublistsLen count,
      (Candidate.total picks).isFinite = true)
    (by simp only [Candidate.FiniteSums, List.mem_sublistsLen, and_imp])

open Candidate (FiniteSums)

theorem Candidate.FiniteSums.negInfinity_lt_total {k : Constraints} {t : Tracker}
    {candidates : List Candidate} {count start : Nat} {positions : List Nat}
    (sums : FiniteSums candidates count)
    (combination : k.Combination t (rank candidates) count start positions) :
    Score.negInfinity < total (picksAt (rank candidates) positions) := by
  have inside p (member : p ∈ positions) := (combination.in_range p member).2
  apply Score.negInfinity_lt_of_isFinite
  exact sums _ (picksAt_sublist combination.increasing inside) combination.length_picksAt_eq

namespace Selector

variable {s : Selector} {filter : PlacementFilter} {resource : Option Resource}
variable {candidates others : List Candidate} {occupied : Occupancy}

theorem exists_select_of_feasible (readable : (s.constraints filter occupied).Readable)
    (scan : Occupancy.ofResource? s.mixing filter resource = .ok occupied)
    (positive : 0 < filter.required (occupied.count filter))
    (sums : FiniteSums candidates (filter.required (occupied.count filter)))
    (feasible : (s.constraints filter occupied).Feasible (Candidate.rank candidates)
      (filter.required (occupied.count filter))) :
    ∃ found, (s.select filter resource candidates).outcome = .ok (some found) ∧
      found.isEmpty = false := by
  obtain ⟨r, outcome_eq, attempted⟩ := exists_attempted readable scan positive candidates
  obtain ⟨positions, combination⟩ := Constraints.feasible_iff_exists_combination.mp feasible
  cases r with
  | none =>
      have infeasible :=
        (attempted.eq_none_iff_infeasible (Candidate.ranked_rank candidates)
          fun _ other => sums.negInfinity_lt_total other).mp rfl
      exact absurd combination (infeasible positions)
  | some found =>
      refine ⟨found, outcome_eq, ?_⟩
      obtain ⟨occupied', otherScan, lawful⟩ := lawful_of_select outcome_eq
      obtain rfl : occupied' = occupied := Except.ok.inj (otherScan.symm.trans scan)
      rw [Selection.isEmpty, List.isEmpty_eq_false_iff_exists_mem, ← List.length_pos_iff_exists_mem]
      exact positive.trans_eq lawful.size_eq.symm

theorem exists_select_of_easier (answers : ∀ node key, ∃ v, s.properties node key = .ok v)
    {selection : Selection}
    (run : (s.select filter resource candidates).outcome = .ok (some selection))
    (sublist : candidates.Sublist others) (total more : Option UInt32) :
    let fewer := { filter with replicaCount := total, additionalReplicaCount := more }
    let required := fewer.required (countedReplicas filter resource)
    1 ≤ required → required ≤ filter.required (countedReplicas filter resource) →
      FiniteSums others required →
      ∃ found, (s.select fewer resource others).outcome = .ok (some found) ∧
        found.isEmpty = false := by
  intro fewer required positive le sums
  obtain ⟨occupied, positions, scan, combination, -⟩ := combination_of_select run
  have count_eq := Occupancy.count_of_ofResource? scan
  have feasible := Constraints.feasible_iff_exists_combination.mpr ⟨positions, combination⟩
  -- No call of the tracker asks for the counts.
  have matched : (s.constraints filter occupied).MatchedBy (s.constraints fewer occupied) :=
    ⟨fun run => run, fun run => run, fun run => run, fun run => run⟩
  have readable : (s.constraints filter occupied).Readable :=
    Constraints.readable_of_answers answers
  have fewerScan : Occupancy.ofResource? s.mixing fewer resource = .ok occupied := by
    rw [← scan]
    cases resource <;> rfl
  have fewerCount : occupied.count fewer = countedReplicas filter resource := count_eq
  rw [count_eq] at feasible
  apply exists_select_of_feasible (Constraints.readable_of_answers answers) fewerScan
  · rwa [fewerCount]
  · rwa [fewerCount]
  · rw [fewerCount]
    exact ((feasible.of_le le).of_matchedBy matched (readable.rebuildable _)).of_sublist
      (rank_sublist sublist)

/-- With every look-up answered and all sums finite, where replicas were selected some still are
when candidates are inserted anywhere, and when fewer replicas are required. -/
theorem select_some_mono (answers : ∀ node key, ∃ v, s.properties node key = .ok v)
    {selection : Selection}
    (run : (s.select filter resource candidates).outcome = .ok (some selection))
    (added : selection.isEmpty = false) :
    (∀ others, candidates.Sublist others →
      FiniteSums others (filter.required (countedReplicas filter resource)) →
      ∃ found, (s.select filter resource others).outcome = .ok (some found) ∧
        found.isEmpty = false) ∧
    ∀ total more : Option UInt32,
      let fewer := { filter with replicaCount := total, additionalReplicaCount := more }
      let required := fewer.required (countedReplicas filter resource)
      1 ≤ required → required < filter.required (countedReplicas filter resource) →
      FiniteSums candidates required →
      ∃ found, (s.select fewer resource candidates).outcome = .ok (some found) ∧
        found.isEmpty = false := by
  constructor
  · intro others sublist sums
    obtain ⟨occupied, scan, lawful⟩ := lawful_of_select run
    have positive : 1 ≤ filter.required (countedReplicas filter resource) := by
      rw [← Occupancy.count_of_ofResource? scan, ← lawful.size_eq]
      exact List.length_pos_iff.mpr (by simpa [Selection.isEmpty] using added)
    exact exists_select_of_easier answers run sublist filter.replicaCount
      filter.additionalReplicaCount positive (Nat.le_refl _) sums
  · intro total more fewer required positive less sums
    exact exists_select_of_easier answers run (.refl candidates) total more positive less.le sums

def besideBetter : List Candidate :=
  [{ name := "p", node := "n1", kind := .lvm, score := ⟨0x3ff0000000000000⟩ },
    { name := "p", node := "n3", kind := .lvm, score := ⟨0x4008000000000000⟩ },
    { name := "p", node := "n2", kind := .lvm, score := ⟨0x4000000000000000⟩ }]

theorem select_some_mono_beside_better :
    let filter : PlacementFilter := { replicaCount := some 2, sameRules := [⟨"site", none⟩] }
    let fewer : PlacementFilter := { filter with replicaCount := some 1 }
    let s : Selector :=
      { properties := fun node _ => .ok (some (if node = "n3" then "west" else "east"))
        mixing := .standard }
    let pair := [besideBetter[0], besideBetter[2]]
    (s.select filter none pair).outcome =
        .ok (some ⟨[besideBetter[2], besideBetter[0]], ⟨0x4008000000000000⟩⟩) ∧
      pair.Sublist besideBetter ∧ FiniteSums besideBetter 2 ∧ FiniteSums pair 1 ∧
      (∃ found, (s.select filter none besideBetter).outcome = .ok (some found) ∧
        found.isEmpty = false) ∧
      ∃ found, (s.select fewer none pair).outcome = .ok (some found) ∧ found.isEmpty = false := by
  intro filter fewer s pair
  have run : (s.select filter none pair).outcome =
      .ok (some ⟨[besideBetter[2], besideBetter[0]], ⟨0x4008000000000000⟩⟩) := by
    decide +kernel
  have sublist : pair.Sublist besideBetter := by decide
  have sums : FiniteSums besideBetter 2 := by decide +kernel
  have fewerSums : FiniteSums pair 1 := by decide +kernel
  obtain ⟨offeringMore, requiringFewer⟩ :=
    select_some_mono (s := s) (fun _ _ => ⟨_, rfl⟩) run rfl
  exact ⟨run, sublist, sums, fewerSums, offeringMore besideBetter sublist sums,
    requiringFewer (some 1) none (by decide) (by decide) fewerSums⟩

end Selector

end ReplicaPlacement
