import ReplicaPlacement.Proofs.Search.Thinning
import ReplicaPlacement.Proofs.Selection.Kinds
import ReplicaPlacement.Proofs.Selection.Pruning

namespace ReplicaPlacement

open Candidate (Ranked ranked_rank rank_leavesOut)

/-- Why a candidate can never be picked: no finite score, or a node, a backend or kinds in use that
leave no room for it. -/
inductive Excluded (mixing : MixingPolicy) (filter : PlacementFilter) (resource : Option Resource)
    (c : Candidate) : Prop where
  | notFinite : c.score.isFinite = false → Excluded mixing filter resource c
  | nodeInUse : Occupies resource c.node → Excluded mixing filter resource c
  | backendInUse {name : String} :
      c.sharedName = some name → OccupiesBackend resource name → Excluded mixing filter resource c
  | kindRefused {kind : ProviderKind} :
      kind ∈ filter.seedKinds resource → mixing c.kind kind = false →
      Excluded mixing filter resource c

namespace Selector

variable {s : Selector} {filter : PlacementFilter} {resource : Option Resource}
variable {candidates kept ranked : List Candidate} {occupied : Occupancy}

theorem unpicked_excluded
    (scan : Occupancy.ofResource? s.mixing filter resource = .ok occupied) (order : Ranked ranked)
    (count : Nat) :
    (s.constraints filter occupied).Unpicked ((s.constraints filter occupied).anew []) ranked count
      (Excluded s.mixing filter resource) := by
  intro start positions combination c pick excluded
  have stepwise := combination.stepwise
  cases excluded with
  | notFinite infinite =>
      rw [order.finite c (mem_of_mem_picksAt pick)] at infinite
      contradiction
  | nodeInUse occupies =>
      exact stepwise.apart.nodes_free c pick ((Occupancy.mem_nodes_iff_occupies scan).mpr occupies)
  | backendInUse shared occupies =>
      exact stepwise.apart.backends_free c pick _ shared
        ((Occupancy.mem_sharedNames_iff_occupies scan).mpr occupies)
  | kindRefused seed refused =>
      rw [← seedKinds_constraints scan] at seed
      have mixes : s.mixing c.kind _ = true := stepwise.mixes_with_seed pick seed
      rw [refused] at mixes
      contradiction

/-- On a cluster held in memory that denies no key of a rule, leaving out candidates that can never
be picked changes no answer. -/
theorem select_without_excluded {cluster : Cluster} (held : s.properties = cluster.property)
    (granted : ∀ rule ∈ filter.sameRules ++ filter.differentRules, rule.key ∉ cluster.deniedKeys)
    (left : LeavesOut (Excluded s.mixing filter resource) kept candidates) :
    (s.select filter resource kept).outcome = (s.select filter resource candidates).outcome := by
  cases scan : Occupancy.ofResource? s.mixing filter resource with
  | error e => rw [outcome_select, outcome_select, scan]
  | ok occupied =>
      by_cases satisfied : filter.required (occupied.count filter) = 0
      · rw [outcome_select_of_satisfied scan satisfied, outcome_select_of_satisfied scan satisfied]
      · have positive := Nat.pos_of_ne_zero satisfied
        have readable : (s.constraints filter occupied).Readable := by
          intro rule member node
          rw [show (s.constraints filter occupied).properties = cluster.property from held,
            Cluster.answers_iff]
          exact granted rule member
        obtain ⟨r, outcome_eq, attempted⟩ := exists_attempted readable scan positive candidates
        obtain ⟨r', fewer_outcome_eq, fewerAttempted⟩ :=
          exists_attempted readable scan positive kept
        obtain ⟨place, embeds⟩ := (rank_leavesOut left).exists_embeds
        have unpicked := unpicked_excluded scan (ranked_rank candidates)
          (filter.required (occupied.count filter))
        rw [outcome_eq, fewer_outcome_eq,
          (attempted.of_embeds embeds unpicked).unique fewerAttempted]

def mostlyExcluded : List Candidate :=
  [{ name := "p", node := "n5", kind := .zfs, score := ⟨0x4020000000000000⟩ }, offered[0],
    { name := "p", node := "n6", kind := .lvm, score := .nan }, offered[1], offered[2], offered[3]]

theorem select_without_excluded_beside_deployed :
    let cluster : Cluster := ({} : Cluster).denyKey "site"
    let s : Selector := { properties := cluster.property, mixing := .standard }
    let filter : PlacementFilter := { replicaCount := some 3, differentRules := [⟨"rack", none⟩] }
    LeavesOut (Excluded .standard filter (some deployed)) [offered[2], offered[3]] mostlyExcluded ∧
      (s.select filter (some deployed) [offered[2], offered[3]]).outcome =
        (s.select filter (some deployed) mostlyExcluded).outcome ∧
      (s.select filter (some deployed) mostlyExcluded).outcome =
        .ok (some ⟨[offered[3], offered[2]], ⟨0x4008000000000000⟩⟩) := by
  intro cluster s filter
  have nodeInUse : Occupies (some deployed) "n1" := ⟨_, rfl, _, .head _, rfl, rfl⟩
  have backendInUse : OccupiesBackend (some deployed) "san" := ⟨_, .head _, rfl⟩
  have left : LeavesOut (Excluded .standard filter (some deployed)) [offered[2], offered[3]]
      mostlyExcluded :=
    .drop (.kindRefused (.head _) rfl) <| .drop (.nodeInUse nodeInUse) <| .drop (.notFinite rfl) <|
      .drop (.backendInUse rfl backendInUse) <| .keep _ <| .keep _ .nil
  exact ⟨left, select_without_excluded (s := s) rfl (by decide +kernel) left, by decide +kernel⟩

end Selector

end ReplicaPlacement
