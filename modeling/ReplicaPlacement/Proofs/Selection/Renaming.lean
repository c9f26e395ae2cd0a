import Mathlib.Logic.Equiv.Basic
import ReplicaPlacement.Proofs.Search.Renaming
import ReplicaPlacement.Proofs.Selection.Kinds
import ReplicaPlacement.Proofs.Selection.Pruning

namespace ReplicaPlacement

open Function (Injective)

def Replica.rename (ρ : String → String) (r : Replica) : Replica := { r with node := ρ r.node }

def Resource.rename (ρ : String → String) (r : Resource) : Resource :=
  { r with replicas := r.replicas.map (Replica.rename ρ) }

def PlacementFilter.rename (ρ : String → String) (filter : PlacementFilter) : PlacementFilter :=
  { filter with uncountedNodes := filter.uncountedNodes.map ρ }

variable {ρ : String → String} {filter : PlacementFilter} {resource : Option Resource}

theorem presentReplicas_rename :
    presentReplicas (resource.map (Resource.rename ρ)) =
      (presentReplicas resource).map (Replica.rename ρ) := by
  cases resource with
  | none => rfl
  | some r => exact List.filter_map

theorem deployedVolumes_rename :
    deployedVolumes (resource.map (Resource.rename ρ)) = deployedVolumes resource := by
  rw [deployedVolumes, presentReplicas_rename, List.flatMap_map]
  rfl

theorem deployedKinds_rename :
    deployedKinds (resource.map (Resource.rename ρ)) = deployedKinds resource :=
  congrArg storedKinds deployedVolumes_rename

theorem occupiesBackend_rename_iff {name : String} :
    OccupiesBackend (resource.map (Resource.rename ρ)) name ↔ OccupiesBackend resource name := by
  rw [OccupiesBackend, OccupiesBackend, deployedVolumes_rename]

theorem occupies_rename_iff {node : String} :
    Occupies (resource.map (Resource.rename ρ)) node ↔ ∃ n, Occupies resource n ∧ ρ n = node := by
  simp only [occupies_iff_presentReplicas, presentReplicas_rename, List.mem_map]
  constructor
  · rintro ⟨-, ⟨r, member, rfl⟩, rfl⟩
    exact ⟨r.node, ⟨r, member, rfl⟩, rfl⟩
  · rintro ⟨-, ⟨r, member, rfl⟩, rfl⟩
    exact ⟨r.rename ρ, ⟨r, member, rfl⟩, rfl⟩

theorem skips_rename (injective : Injective ρ) (node : String) :
    (filter.rename ρ).skips (ρ node) = filter.skips node := by
  unfold PlacementFilter.skips PlacementFilter.rename
  congr 1
  rw [Bool.eq_iff_iff]
  simp [injective.eq_iff]

theorem countedReplicas_rename (injective : Injective ρ) :
    countedReplicas (filter.rename ρ) (resource.map (Resource.rename ρ)) =
      countedReplicas filter resource := by
  unfold countedReplicas
  rw [presentReplicas_rename, List.countP_map]
  apply List.countP_congr
  intro r _
  have counts_eq : (r.rename ρ).countsFor (filter.rename ρ) = r.countsFor filter :=
    congrArg (!· && r.isStaying) (skips_rename injective r.node)
  rw [Function.comp_apply, counts_eq]
  rfl

namespace Selector

variable {s : Selector} {occupied occupied' : Occupancy}

theorem ofResource?_rename_eq_error {e : PlacementError}
    (failed : Occupancy.ofResource? s.mixing filter resource = .error e) :
    Occupancy.ofResource? s.mixing (filter.rename ρ) (resource.map (Resource.rename ρ)) =
      .error e := by
  cases resource with
  | none => contradiction
  | some r =>
      have kinds_eq : deployedKinds ((some r).map (Resource.rename ρ)) = deployedKinds (some r) :=
        deployedKinds_rename
      have clash := Occupancy.firstClash_of_ofResource failed
      rw [← kinds_eq] at clash
      exact Occupancy.ofResource_eq_error_iff.mpr clash

theorem exists_ofResource?_rename (injective : Injective ρ)
    (scan : Occupancy.ofResource? s.mixing filter resource = .ok occupied) :
    ∃ occupied', Occupancy.ofResource? s.mixing (filter.rename ρ)
        (resource.map (Resource.rename ρ)) = .ok occupied' ∧
      (filter.rename ρ).required (occupied'.count (filter.rename ρ)) =
        filter.required (occupied.count filter) := by
  have allowed : s.mixing.Allows (deployedKinds (resource.map (Resource.rename ρ))) := by
    rw [deployedKinds_rename]
    exact (Occupancy.ofResource?_eq_ok_iff.mp scan).1
  obtain ⟨occupied', otherScan⟩ := Occupancy.exists_ofResource? (filter.rename ρ) allowed
  refine ⟨occupied', otherScan, ?_⟩
  rw [Occupancy.count_of_ofResource? otherScan, countedReplicas_rename injective,
    Occupancy.count_of_ofResource? scan]
  rfl

variable {access : PropertyAccess}

theorem constraints_renamed (injective : Injective ρ)
    (moved : ∀ node key, access (ρ node) key = s.properties node key)
    (scan : Occupancy.ofResource? s.mixing filter resource = .ok occupied)
    (otherScan : Occupancy.ofResource? s.mixing (filter.rename ρ)
      (resource.map (Resource.rename ρ)) = .ok occupied') :
    Constraints.Renamed ρ (s.constraints filter occupied)
      ({ s with properties := access }.constraints (filter.rename ρ) occupied') where
  injective := injective
  sameRules := rfl
  differentRules := rfl
  mixing := rfl
  seedKinds := by
    rw [seedKinds_constraints (s := { s with properties := access }) otherScan,
      seedKinds_constraints scan, PlacementFilter.seedKinds, PlacementFilter.seedKinds,
      deployedKinds_rename]
    rfl
  sharedNames := by
    apply Std.ExtTreeSet.ext_mem
    intro name
    exact (Occupancy.mem_sharedNames_iff_occupies otherScan).trans
      (occupiesBackend_rename_iff.trans (Occupancy.mem_sharedNames_iff_occupies scan).symm)
  nodes node := by
    change node ∈ occupied'.nodes ↔ ∃ n ∈ occupied.nodes, ρ n = node
    rw [Occupancy.mem_nodes_iff_occupies otherScan, occupies_rename_iff]
    simp only [Occupancy.mem_nodes_iff_occupies scan]
  properties := moved

theorem agreed_constraints (scan : Occupancy.ofResource? s.mixing filter resource = .ok occupied)
    (agreed : ∀ rule ∈ filter.sameRules, ∀ node other, Occupies resource node →
      Occupies resource other → ∀ v w, s.properties node rule.key = .ok (some v) →
      s.properties other rule.key = .ok (some w) → v = w) :
    (s.constraints filter occupied).Agreed := by
  intro rule member node used other otherUsed v w exposes otherExposes
  exact agreed rule member node other ((Occupancy.mem_nodes_iff_occupies scan).mp used)
    ((Occupancy.mem_nodes_iff_occupies scan).mp otherUsed) v w
    (Constraints.exposed_eq_some_iff.mp exposes) (Constraints.exposed_eq_some_iff.mp otherExposes)

/-- Where all look-ups are answered and the nodes occupied agree under the key of each rule on equal
values, whatever is selected, not selected or found at fault with nodes renamed is that of the nodes
before, renamed. -/
theorem select_rename (s : Selector) (filter : PlacementFilter) (resource : Option Resource)
    (candidates : List Candidate) (injective : Injective ρ)
    (moved : ∀ node key, access (ρ node) key = s.properties node key)
    (answers : ∀ node key, ∃ v, access node key = .ok v)
    (agreed : ∀ rule ∈ filter.sameRules, ∀ node other, Occupies resource node →
      Occupies resource other → ∀ v w, s.properties node rule.key = .ok (some v) →
      s.properties other rule.key = .ok (some w) → v = w) :
    ({ s with properties := access }.select (filter.rename ρ) (resource.map (Resource.rename ρ))
        (candidates.map (Candidate.rename ρ))).outcome =
      (s.select filter resource candidates).outcome.map (Option.map (Selection.rename ρ)) := by
  let s' : Selector := { s with properties := access }
  cases scan : Occupancy.ofResource? s.mixing filter resource with
  | error e =>
      rw [outcome_select, outcome_select, scan, ofResource?_rename_eq_error scan]
      rfl
  | ok occupied =>
      obtain ⟨occupied', otherScan, required_eq⟩ := exists_ofResource?_rename injective scan
      by_cases satisfied : filter.required (occupied.count filter) = 0
      · rw [outcome_select_of_satisfied scan satisfied,
          outcome_select_of_satisfied (s := s') otherScan (required_eq.trans satisfied)]
        rfl
      · have positive := Nat.pos_of_ne_zero satisfied
        have renamed : Constraints.Renamed ρ (s.constraints filter occupied)
            (s'.constraints (filter.rename ρ) occupied') :=
          constraints_renamed injective moved scan otherScan
        have readable : (s.constraints filter occupied).Readable := by
          apply Constraints.readable_of_answers
          intro node key
          obtain ⟨v, answer⟩ := answers (ρ node) key
          exact ⟨v, (moved node key).symm.trans answer⟩
        have otherReadable : (s'.constraints (filter.rename ρ) occupied').Readable :=
          Constraints.readable_of_answers answers
        obtain ⟨r, outcome_eq, attempted⟩ := exists_attempted readable scan positive candidates
        obtain ⟨r', otherOutcome_eq, otherAttempted⟩ := exists_attempted otherReadable otherScan
          (required_eq ▸ positive) (candidates.map (Candidate.rename ρ))
        -- Ranking compares nothing but scores, which renaming keeps.
        rw [required_eq, Candidate.rank_map (Candidate.score_rename ρ)] at otherAttempted
        have same : r' = r.map (Selection.rename ρ) :=
          otherAttempted.unique (renamed.attempted (agreed_constraints scan agreed) attempted)
        rw [outcome_eq, otherOutcome_eq, same]
        rfl

def siteOf : String → Option String
  | "n1" | "n2" | "n3" => some "east"
  | "n4" => some "west"
  | _ => none

def inEast : Resource where
  name := "data"
  replicas := [{ node := "n1" }, { node := "n2" }]

theorem select_rename_swapped :
    let ρ := Equiv.swap "n1" "n4"
    let s : Selector := { properties := fun node _ => .ok (siteOf node), mixing := .standard }
    let swapped : Selector := { s with properties := fun node _ => .ok (siteOf (ρ.symm node)) }
    let filter : PlacementFilter :=
      { replicaCount := some 2, sameRules := [⟨"site", none⟩], uncountedNodes := ["n1"] }
    (s.select filter (some inEast) offered).outcome =
        .ok (some ⟨[offered[2]], offered[2].score⟩) ∧
      (swapped.select { filter with uncountedNodes := ["n4"] } (some (inEast.rename ρ))
        (offered.map (Candidate.rename ρ))).outcome =
      (s.select filter (some inEast) offered).outcome.map (Option.map (Selection.rename ρ)) := by
  intro ρ s swapped filter
  have east (node : String) (occupies : Occupies (some inEast) node) :
      siteOf node = some "east" := by
    have sites : ∀ r ∈ presentReplicas (some inEast), siteOf r.node = some "east" := by decide
    obtain ⟨r, member, rfl⟩ := occupies_iff_presentReplicas.mp occupies
    exact sites r member
  refine ⟨by decide +kernel, select_rename s filter (some inEast) offered ρ.injective ?_
    (fun _ _ => ⟨_, rfl⟩) ?_⟩
  · intro node _
    change Except.ok (siteOf (ρ.symm (ρ node))) = .ok (siteOf node)
    rw [ρ.symm_apply_apply]
  · intro _ _ node other occupies otherOccupies v w exposes otherExposes
    have value : siteOf node = some v := Except.ok.inj exposes
    have otherValue : siteOf other = some w := Except.ok.inj otherExposes
    rw [← Option.some_inj, ← value, ← otherValue, east node occupies, east other otherOccupies]

/-- Where the nodes occupied disagree, the first of them in the order of names has its way. -/
example :
    let ρ := Equiv.swap "n1" "n4"
    let s : Selector := { properties := fun node _ => .ok (siteOf node), mixing := .standard }
    let swapped : Selector := { s with properties := fun node _ => .ok (siteOf (ρ.symm node)) }
    let filter : PlacementFilter :=
      { additionalReplicaCount := some 1, sameRules := [⟨"site", none⟩] }
    let r : Resource := { name := "data", replicas := [{ node := "n1" }, { node := "n4" }] }
    (s.select filter (some r) offered).outcome = .ok (some ⟨[offered[1]], offered[1].score⟩) ∧
      (swapped.select filter (some (r.rename ρ)) (offered.map (Candidate.rename ρ))).outcome =
        .ok none := by
  decide +kernel

end Selector

end ReplicaPlacement
