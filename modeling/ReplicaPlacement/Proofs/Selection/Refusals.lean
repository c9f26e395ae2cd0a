import ReplicaPlacement.Cluster
import ReplicaPlacement.Proofs.Selection.Select

namespace ReplicaPlacement

theorem Cluster.answers_iff {cluster : Cluster} {node key : String} :
    Lookup.Answers (cluster.property node) key ↔ key ∉ cluster.deniedKeys := by
  unfold Lookup.Answers Lookup.found property
  by_cases denied : key ∈ cluster.deniedKeys
  · simp [denied]
  · simp [denied]

namespace Selector

variable {s : Selector} {filter : PlacementFilter} {resource : Option Resource}
variable {candidates : List Candidate} {selection : Selection}

theorem rebuildable_of_select
    (run : (s.select filter resource candidates).outcome = .ok (some selection))
    (added : selection.isEmpty = false) :
    ∃ occupied, Occupancy.ofResource? s.mixing filter resource = .ok occupied ∧
      (s.constraints filter occupied).Rebuildable occupied.nodes := by
  obtain ⟨occupied, scan, ⟨-, empty⟩ | ⟨-, fresh, ready, -⟩⟩ := cases_of_select run
  · obtain rfl : selection = .empty := Option.some.inj empty
    contradiction
  · exact ⟨occupied, scan, Constraints.rebuildable_of_fresh ready⟩

/-- No look-up that a selection depends on was refused: if it adds replicas, all picks answered on
all rules, the nodes occupied before answered on all rules that tell nodes apart, and no key of a
rule is denied in a cluster held in memory. -/
theorem lookups_answered_of_select
    (run : (s.select filter resource candidates).outcome = .ok (some selection))
    (added : selection.isEmpty = false) :
    (∀ c ∈ selection.candidates, ∀ rule ∈ filter.sameRules ++ filter.differentRules,
      ∃ found, s.properties c.node rule.key = .ok found) ∧
    (∀ node, Occupies resource node → ∀ rule ∈ filter.differentRules,
      ∃ found, s.properties node rule.key = .ok found) ∧
    ∀ cluster : Cluster, s.properties = cluster.property →
      ∀ rule ∈ filter.sameRules ++ filter.differentRules, rule.key ∉ cluster.deniedKeys := by
  obtain ⟨occupied, -, stepwise⟩ := stepwise_of_select run
  have picked (c) (pick : c ∈ selection.candidates) (rule)
      (member : rule ∈ filter.sameRules ++ filter.differentRules) :
      Lookup.Answers (s.properties c.node) rule.key := stepwise.answers pick member
  refine ⟨?_, ?_, ?_⟩
  · intro c pick rule member
    exact ⟨_, picked c pick rule member⟩
  · intro node used rule member
    obtain ⟨occupied, scan, ready⟩ := rebuildable_of_select run added
    exact ⟨_, ready.answers member ((Occupancy.mem_nodes_iff_occupies scan).mpr used)⟩
  · intro cluster held rule member
    obtain ⟨c, pick⟩ := List.exists_mem_of_ne_nil selection.candidates (by
      simpa [Selection.isEmpty] using added)
    have answer := picked c pick rule member
    rwa [held, Cluster.answers_iff] at answer

def guarded : PropertyAccess
  | "n1", "site" => .error (.property "n1" "site")
  | "n2", key => .error (.property "n2" key)
  | "n1", "rack" => .ok (some "r1")
  | "n3", "rack" => .ok (some "r3")
  | "n3", "site" | "n4", "site" => .ok (some "east")
  | _, _ => .ok none

theorem lookups_answered_beside_refused :
    let sited : PlacementFilter :=
      { replicaCount := some 3, sameRules := [⟨"site", some "east"⟩]
        differentRules := [⟨"rack", none⟩] }
    let racked : PlacementFilter := { replicaCount := some 3, differentRules := [⟨"rack", none⟩] }
    let zoneDenied : Cluster := ({} : Cluster).denyKey "zone"
    let picks := [offered[3], offered[2]]
    (select ⟨guarded, .standard, true⟩ sited (some deployed) offered).outcome =
        .ok (some ⟨picks, ⟨0x4008000000000000⟩⟩) ∧
      (∀ c ∈ picks, ∀ rule ∈ sited.sameRules ++ sited.differentRules,
        ∃ found, guarded c.node rule.key = .ok found) ∧
      (∀ node, Occupies (some deployed) node → ∀ rule ∈ sited.differentRules,
        ∃ found, guarded node rule.key = .ok found) ∧
      (select ⟨zoneDenied.property, .standard, true⟩ racked (some deployed) offered).outcome =
        .ok (some ⟨picks, ⟨0x4008000000000000⟩⟩) ∧
      ∀ rule ∈ racked.sameRules ++ racked.differentRules, rule.key ∉ zoneDenied.deniedKeys := by
  intro sited racked zoneDenied picks
  have run : (select ⟨guarded, .standard, true⟩ sited (some deployed) offered).outcome =
      .ok (some ⟨picks, ⟨0x4008000000000000⟩⟩) := by
    decide +kernel
  have heldRun : (select ⟨zoneDenied.property, .standard, true⟩ racked (some deployed)
      offered).outcome = .ok (some ⟨picks, ⟨0x4008000000000000⟩⟩) := by
    decide +kernel
  obtain ⟨picked, occupied, -⟩ := lookups_answered_of_select run rfl
  obtain ⟨-, -, readable⟩ := lookups_answered_of_select heldRun rfl
  exact ⟨run, picked, occupied, heldRun, readable zoneDenied rfl⟩

end Selector

end ReplicaPlacement
