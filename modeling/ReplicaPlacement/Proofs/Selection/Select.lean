import ReplicaPlacement.Proofs.Occupancy
import ReplicaPlacement.Proofs.Search.Attempts
import ReplicaPlacement.Proofs.Search.Reordering
import ReplicaPlacement.Selector

namespace ReplicaPlacement

open Candidate (ranked_rank)
open Traced (Agree)

@[simp] theorem Traced.outcome_reportAll (es : List Event) : (reportAll es).outcome = .ok () := rfl

namespace Selector

variable {s : Selector} {filter : PlacementFilter} {resource : Option Resource}
variable {candidates : List Candidate} {occupied : Occupancy}

theorem outcome_scan (mixing : MixingPolicy) (filter : PlacementFilter)
    (resource : Option Resource) : (Occupancy.scan mixing filter resource).outcome =
      Occupancy.ofResource? mixing filter resource := by
  unfold Occupancy.scan
  rw [Traced.outcome_bind, Traced.outcome_ofExcept]
  cases Occupancy.ofResource? mixing filter resource <;> rfl

theorem outcome_select (s : Selector) (filter : PlacementFilter) (resource : Option Resource)
    (candidates : List Candidate) :
    (s.select filter resource candidates).outcome =
      match Occupancy.ofResource? s.mixing filter resource with
      | .error e => .error e
      | .ok occupied =>
        if filter.required (occupied.count filter) = 0 then .ok (some .empty)
        else
          match (s.constraints filter occupied).fresh with
          | .error e => .error (.accessDenied e)
          | .ok fresh =>
            ((s.constraints filter occupied).search s.prune
              (filter.required (occupied.count filter)) 0 (Candidate.rank candidates) fresh
              none).outcome := by
  unfold select Candidate.rankReported Occupancy.scan
  simp only [Traced.outcome_bind, Traced.outcome_reportAll, Traced.outcome_pure,
    Traced.outcome_ofExcept, Traced.outcome_report, apply_ite Traced.outcome]
  cases Occupancy.ofResource? s.mixing filter resource with
  | error e => rfl
  | ok occupied =>
      change ite _ _ _ = ite _ _ _
      split
      · rfl
      · cases (s.constraints filter occupied).fresh with
        | error e => rfl
        | ok fresh =>
            change Except.bind (Traced.outcome _) _ = Traced.outcome _
            generalize Traced.outcome (Constraints.search _ _ _ _ _ fresh none) = outcome
            cases outcome with
            | error e => rfl
            | ok best => cases best <;> rfl

theorem cases_of_select {r : Option Selection}
    (run : (s.select filter resource candidates).outcome = .ok r) :
    ∃ occupied, Occupancy.ofResource? s.mixing filter resource = .ok occupied ∧
      ((filter.required (occupied.count filter) = 0 ∧ r = some .empty) ∨
        (0 < filter.required (occupied.count filter) ∧
          ∃ fresh, (s.constraints filter occupied).fresh = .ok fresh ∧
            ((s.constraints filter occupied).search s.prune
              (filter.required (occupied.count filter)) 0 (Candidate.rank candidates) fresh
              none).outcome = .ok r)) := by
  rw [outcome_select] at run
  cases scan : Occupancy.ofResource? s.mixing filter resource with
  | error e => simp [scan] at run
  | ok occupied =>
      simp only [scan] at run
      refine ⟨occupied, rfl, ?_⟩
      split at run
      next none => exact .inl ⟨none, (Except.ok.inj run).symm⟩
      next some =>
        cases ready : (s.constraints filter occupied).fresh with
        | error e => simp [ready] at run
        | ok fresh =>
            rw [ready] at run
            exact .inr ⟨Nat.pos_of_ne_zero some, fresh, rfl, run⟩

theorem failures_of_select {e : PlacementError}
    (failed : (s.select filter resource candidates).outcome = .error e) :
    Occupancy.ofResource? s.mixing filter resource = .error e ∨
      ∃ occupied, Occupancy.ofResource? s.mixing filter resource = .ok occupied ∧
        0 < filter.required (occupied.count filter) ∧
        ((∃ cause, (s.constraints filter occupied).fresh = .error cause ∧
            e = .accessDenied cause) ∨
          ∃ fresh, (s.constraints filter occupied).fresh = .ok fresh ∧
            ((s.constraints filter occupied).search s.prune
              (filter.required (occupied.count filter)) 0 (Candidate.rank candidates) fresh
              none).outcome = .error e) := by
  rw [outcome_select] at failed
  cases scan : Occupancy.ofResource? s.mixing filter resource with
  | error cause =>
      rw [scan] at failed
      exact .inl (congrArg Except.error (Except.error.inj failed))
  | ok occupied =>
      simp only [scan] at failed
      refine .inr ⟨occupied, rfl, ?_⟩
      split at failed
      next => contradiction
      next some =>
        refine ⟨Nat.pos_of_ne_zero some, ?_⟩
        cases ready : (s.constraints filter occupied).fresh with
        | error cause =>
            rw [ready] at failed
            exact .inl ⟨cause, rfl, (Except.error.inj failed).symm⟩
        | ok fresh =>
            rw [ready] at failed
            exact .inr ⟨fresh, rfl, failed⟩

/-- Two resources are answered alike if as many of their replicas count and a search sees the same
of what they occupy. -/
theorem outcome_select_of_alike {other : Option Resource} {occupied' : Occupancy}
    (scan : Occupancy.ofResource? s.mixing filter resource = .ok occupied)
    (otherScan : Occupancy.ofResource? s.mixing filter other = .ok occupied')
    (count_eq : occupied.count filter = occupied'.count filter)
    (alike : (s.constraints filter occupied).Alike (s.constraints filter occupied')) :
    (s.select filter resource candidates).outcome = (s.select filter other candidates).outcome := by
  apply Agree.outcome_eq
  unfold select
  refine (Agree.of_outcome_eq rfl).bind ?_
  rintro ranked _ rfl
  refine (Agree.of_outcome_eq rfl).bind fun _ _ _ => ?_
  have scans : Agree (fun o o' => o = occupied ∧ o' = occupied')
      (Occupancy.scan s.mixing filter resource) (Occupancy.scan s.mixing filter other) :=
    .done ((outcome_scan ..).trans scan) ((outcome_scan ..).trans otherScan) ⟨rfl, rfl⟩
  refine scans.bind ?_
  rintro _ _ ⟨rfl, rfl⟩
  dsimp only
  rw [count_eq]
  split
  · exact .of_outcome_eq rfl
  · refine (Agree.of_outcome_eq rfl).bind fun _ _ _ => ?_
    refine (Constraints.fresh_alike alike).bind fun fresh fresh' trackers => ?_
    refine (Constraints.search_alike alike _ _ _ _ trackers none).bind ?_
    rintro best _ rfl
    exact .of_outcome_eq rfl

theorem outcome_select_of_satisfied
    (scan : Occupancy.ofResource? s.mixing filter resource = .ok occupied)
    (satisfied : filter.required (occupied.count filter) = 0) :
    (s.select filter resource candidates).outcome = .ok (some .empty) := by
  rw [outcome_select, scan]
  dsimp only
  rw [if_pos satisfied]

theorem outcome_select_of_search {fresh : Tracker} {r : Option Selection}
    (scan : Occupancy.ofResource? s.mixing filter resource = .ok occupied)
    (positive : 0 < filter.required (occupied.count filter))
    (ready : (s.constraints filter occupied).fresh = .ok fresh)
    (searched : ((s.constraints filter occupied).search s.prune
      (filter.required (occupied.count filter)) 0 (Candidate.rank candidates) fresh
      none).outcome = .ok r) :
    (s.select filter resource candidates).outcome = .ok r := by
  rw [outcome_select, scan]
  dsimp only
  rw [if_neg (Nat.ne_of_gt positive), ready]
  exact searched

end Selector

/-- What a selection satisfies when `existing` replicas count. -/
structure Selection.Lawful (filter : PlacementFilter) (resource : Option Resource)
    (candidates : List Candidate) (existing : Nat) (selection : Selection) : Prop where
  size_eq : selection.size = filter.required existing
  ranked_positions : ∃ positions : List Nat,
    positions.Pairwise (· < ·) ∧
      (∀ p ∈ positions, p < (Candidate.rank candidates).length) ∧
      selection.candidates = picksAt (Candidate.rank candidates) positions
  given : ∀ c ∈ selection.candidates, c ∈ candidates ∧ c.score.isFinite = true
  descending : selection.candidates.Pairwise fun a b =>
    b.score.order ≤ a.score.order ∧ b.score ≤ a.score
  nodes_distinct : selection.nodes.Nodup
  nodes_free : ∀ r, resource = some r → ∀ replica ∈ r.replicas, replica.isPresent = true →
    replica.node ∉ selection.nodes
  backends_distinct : (selection.candidates.filterMap (·.sharedName)).Nodup
  backends_free : ∀ r, resource = some r → ∀ replica ∈ r.replicas, replica.isPresent = true →
    ∀ v ∈ replica.dataVolumes, ∀ name, v.sharedName = some name →
      name ∉ selection.candidates.filterMap (·.sharedName)
  score_eq : selection.score =
    if selection.isEmpty then .zero else Candidate.total selection.candidates

theorem Selection.lawful_empty {filter : PlacementFilter} {resource : Option Resource}
    {candidates : List Candidate} {existing : Nat} (none : filter.required existing = 0) :
    Selection.empty.Lawful filter resource candidates existing where
  size_eq := none.symm
  ranked_positions := ⟨[], .nil, by simp, rfl⟩
  given := by simp [empty]
  descending := .nil
  nodes_distinct := .nil
  nodes_free := by simp [empty, nodes]
  backends_distinct := .nil
  backends_free := by simp [empty]
  score_eq := rfl

theorem descending_picksAt {ranked : List Candidate} (order : Candidate.Ranked ranked)
    {positions : List Nat} (increasing : positions.Pairwise (· < ·)) :
    (picksAt ranked positions).Pairwise fun a b =>
      b.score.order ≤ a.score.order ∧ b.score ≤ a.score := by
  rw [picksAt, List.pairwise_filterMap]
  apply increasing.imp
  intro p q less a first b second
  have aFinite := order.finite a (List.mem_of_getElem? first)
  have bFinite := order.finite b (List.mem_of_getElem? second)
  refine ⟨order_le_of_le order less.le first second, ?_⟩
  rw [Score.le_iff_level_le (Score.isNumber_of_isFinite bFinite)
    (Score.isNumber_of_isFinite aFinite)]
  exact level_le_of_le order less.le first second

theorem Constraints.Combination.lawful {k : Constraints} {mixing : MixingPolicy}
    {filter : PlacementFilter} {resource : Option Resource} {candidates : List Candidate}
    {existing start : Nat} {positions : List Nat}
    (combination : k.Combination (k.anew []) (Candidate.rank candidates)
      (filter.required existing) start positions)
    (scan : Occupancy.ofResource? mixing filter resource = .ok k.occupied)
    (positive : 0 < filter.required existing) :
    (Selection.ofPicks (picksAt (Candidate.rank candidates) positions)).Lawful filter resource
      candidates existing := by
  have inside p (member : p ∈ positions) := (combination.in_range p member).2
  have size_eq := combination.length_picksAt_eq
  have apart := combination.apart
  constructor
  case size_eq => exact size_eq
  case ranked_positions => exact ⟨positions, combination.increasing, inside, rfl⟩
  case given =>
    intro c member
    exact Candidate.mem_rank.mp (mem_of_mem_picksAt member)
  case descending => exact descending_picksAt (ranked_rank candidates) combination.increasing
  case nodes_distinct => exact apart.nodes_distinct
  case nodes_free =>
    rintro r rfl replica member present taken
    obtain ⟨c, pick, node_eq⟩ := List.mem_map.mp taken
    apply apart.nodes_free c pick
    rw [node_eq, Occupancy.mem_nodes_ofResource scan]
    exact ⟨replica, member, present, rfl⟩
  case backends_distinct => exact apart.backends_distinct
  case backends_free =>
    rintro r rfl replica member present v volume name shared taken
    obtain ⟨c, pick, own⟩ := List.mem_filterMap.mp taken
    apply apart.backends_free c pick name own
    rw [Occupancy.mem_sharedNames_ofResource scan]
    exact ⟨replica, member, present, v, volume, shared⟩
  case score_eq =>
    have nonempty : (picksAt (Candidate.rank candidates) positions) ≠ [] := by
      intro empty
      rw [empty] at size_eq
      exact absurd size_eq.symm positive.ne'
    simp [Selection.ofPicks, Selection.isEmpty, nonempty]

namespace Selector

theorem attempted_of_search {s : Selector} {filter : PlacementFilter} {occupied : Occupancy}
    {candidates : List Candidate} {t : Tracker} {r : Option Selection}
    (positive : 0 < filter.required (occupied.count filter))
    (run : ((s.constraints filter occupied).search s.prune
      (filter.required (occupied.count filter)) 0 (Candidate.rank candidates) t
      none).outcome = .ok r) :
    Constraints.Attempted (s.constraints filter occupied) ((s.constraints filter occupied).anew [])
      (Candidate.rank candidates) (filter.required (occupied.count filter)) 0 none r :=
  Constraints.attempted_of_search run positive (ranked_rank candidates) Score.isNumber_negInfinity

theorem exists_attempted {s : Selector} {filter : PlacementFilter} {resource : Option Resource}
    {occupied : Occupancy} (readable : (s.constraints filter occupied).Readable)
    (scan : Occupancy.ofResource? s.mixing filter resource = .ok occupied)
    (positive : 0 < filter.required (occupied.count filter)) (candidates : List Candidate) :
    ∃ r, (s.select filter resource candidates).outcome = .ok r ∧
      Constraints.Attempted (s.constraints filter occupied)
        ((s.constraints filter occupied).anew []) (Candidate.rank candidates)
        (filter.required (occupied.count filter)) 0 none r := by
  obtain ⟨r, searched⟩ := Constraints.exists_search readable positive s.prune 0
    (Candidate.rank candidates) ((s.constraints filter occupied).anew []) none
  exact ⟨r, outcome_select_of_search scan positive readable.fresh_eq searched,
    attempted_of_search positive searched⟩

/-- Whatever is selected, with or without the cut, is lawful. -/
theorem lawful_of_select {s : Selector} {filter : PlacementFilter} {resource : Option Resource}
    {candidates : List Candidate} {selection : Selection}
    (run : (s.select filter resource candidates).outcome = .ok (some selection)) :
    ∃ occupied, Occupancy.ofResource? s.mixing filter resource = .ok occupied ∧
      selection.Lawful filter resource candidates (occupied.count filter) := by
  obtain ⟨occupied, scan, ⟨none, empty⟩ | ⟨positive, fresh, -, searched⟩⟩ :=
    cases_of_select run
  · obtain rfl : selection = .empty := Option.some.inj empty
    exact ⟨occupied, scan, Selection.lawful_empty none⟩
  · refine ⟨occupied, scan, ?_⟩
    cases attempted_of_search positive searched with
    | improved _ first => exact first.toCombination.lawful scan positive

theorem combination_of_select {s : Selector} {filter : PlacementFilter} {resource : Option Resource}
    {candidates : List Candidate} {selection : Selection}
    (run : (s.select filter resource candidates).outcome = .ok (some selection)) :
    ∃ occupied positions, Occupancy.ofResource? s.mixing filter resource = .ok occupied ∧
      (s.constraints filter occupied).Combination ((s.constraints filter occupied).anew [])
        (Candidate.rank candidates) (filter.required (occupied.count filter)) 0 positions ∧
      selection.candidates = picksAt (Candidate.rank candidates) positions := by
  obtain ⟨occupied, scan, ⟨none, empty⟩ | ⟨positive, fresh, -, searched⟩⟩ := cases_of_select run
  · obtain rfl : selection = .empty := Option.some.inj empty
    refine ⟨occupied, [], scan, ?_, rfl⟩
    rw [none]
    exact Constraints.combination_nil
  · cases attempted_of_search positive searched with
    | improved _ first =>
        exact ⟨occupied, _, scan, first.toCombination.of_later (Nat.zero_le _), rfl⟩

theorem stepwise_of_select {s : Selector} {filter : PlacementFilter} {resource : Option Resource}
    {candidates : List Candidate} {selection : Selection}
    (run : (s.select filter resource candidates).outcome = .ok (some selection)) :
    ∃ occupied, Occupancy.ofResource? s.mixing filter resource = .ok occupied ∧
      (s.constraints filter occupied).Stepwise selection.candidates := by
  obtain ⟨occupied, positions, scan, combination, picks_eq⟩ := combination_of_select run
  exact ⟨occupied, scan, picks_eq ▸ combination.stepwise⟩

def deployed : Resource where
  name := "data"
  replicas :=
    [{ node := "n1", volumes := [{ pool := "p", sharedName := some "san", kind := .lvm }] }]

def inUse : Occupancy where
  nodes := (∅ : NameSet).insert "n1"
  diskfulCount := 1
  sharedNames := (∅ : NameSet).insert "san"
  kinds := [.lvm]

def offered : List Candidate :=
  [{ name := "p", node := "n1", kind := .lvm, score := ⟨0x4010000000000000⟩ },
    { name := "p", node := "n2", sharedName := some "san", kind := .lvm,
      score := ⟨0x4008000000000000⟩ },
    { name := "p", node := "n3", kind := .lvm, score := ⟨0x3ff0000000000000⟩ },
    { name := "p", node := "n4", kind := .lvm, score := ⟨0x4000000000000000⟩ }]

theorem lawful_beside_deployed :
    ∃ occupied,
      Occupancy.ofResource? .standard { replicaCount := some 3 } (some deployed) = .ok occupied ∧
        Selection.Lawful { replicaCount := some 3 } (some deployed) offered
          (occupied.count { replicaCount := some 3 })
          ⟨[offered[3], offered[2]], ⟨0x4008000000000000⟩⟩ :=
  lawful_of_select (s := { properties := fun _ _ => .ok none, mixing := .standard })
    (by decide +kernel)

end Selector

end ReplicaPlacement
