import ReplicaPlacement.Proofs.Selection.Kinds

namespace ReplicaPlacement

def Candidate.volume (c : Candidate) : Volume where
  pool := c.name
  sharedName := c.sharedName
  kind := c.kind

def Candidate.replica (c : Candidate) : Replica where
  node := c.node
  volumes := [c.volume]

def Resource.deploy (r : Resource) (picks : List Candidate) : Resource :=
  { r with replicas := r.replicas ++ picks.map Candidate.replica }

theorem presentReplicas_deploy (r : Resource) (picks : List Candidate) :
    presentReplicas (some (r.deploy picks)) =
      presentReplicas (some r) ++ picks.map Candidate.replica := by
  have present : (picks.map Candidate.replica).filter Replica.isPresent =
      picks.map Candidate.replica := by
    rw [List.filter_eq_self]
    intro replica member
    obtain ⟨c, -, rfl⟩ := List.mem_map.mp member
    rfl
  have split : presentReplicas (some (r.deploy picks)) = _ := List.filter_append ..
  rw [split, present]
  rfl

theorem dataVolumes_replica (picks : List Candidate) :
    (picks.map Candidate.replica).flatMap Replica.dataVolumes = picks.map Candidate.volume := by
  rw [List.flatMap_map, List.map_eq_flatMap]
  rfl

theorem deployedKinds_deploy (r : Resource) (picks : List Candidate) :
    deployedKinds (some (r.deploy picks)) =
      deployedKinds (some r) ++ (picks.map (·.kind)).filter (!·.isDiskless) := by
  unfold deployedKinds deployedVolumes
  rw [presentReplicas_deploy, List.flatMap_append, storedKinds_append, dataVolumes_replica]
  simp only [storedKinds, List.map_map]
  rfl

namespace Occupancy

structure Extended (filter : PlacementFilter) (picks : List Candidate) (o o' : Occupancy) :
    Prop where
  mem_nodes_iff : ∀ node, node ∈ o'.nodes ↔ node ∈ o.nodes ∨ ∃ c ∈ picks, c.node = node
  mem_sharedNames_iff : ∀ name,
    name ∈ o'.sharedNames ↔ name ∈ o.sharedNames ∨ ∃ c ∈ picks, c.sharedName = some name
  diskfulCount_eq :
    o'.diskfulCount = o.diskfulCount + picks.countP fun c => !filter.skips c.node
  disklessCount_eq : o'.disklessCount = o.disklessCount
  kinds_eq : o'.kinds = o.kinds ++ (picks.map (·.kind)).filter (!·.isDiskless)

theorem extended_withReplicas (filter : PlacementFilter) (picks : List Candidate) (o : Occupancy) :
    o.Extended filter picks (o.withReplicas filter (picks.map Candidate.replica)) where
  mem_nodes_iff node := by
    rw [mem_nodes_withReplicas]
    simp [Candidate.replica]
  mem_sharedNames_iff name := by
    rw [mem_sharedNames_withReplicas]
    simp [Candidate.replica, Candidate.volume, Replica.dataVolumes]
  diskfulCount_eq := by
    simp [withReplicas, List.countP_map, Function.comp_def, Candidate.replica, Replica.countsFor,
      Replica.isStaying]
  disklessCount_eq := by
    simp [withReplicas, List.countP_map, Function.comp_def, Candidate.replica]
  kinds_eq := by
    simp only [withReplicas, dataVolumes_replica, storedKinds, List.map_map]
    rfl

theorem ofResource?_deploy {mixing : MixingPolicy} {filter : PlacementFilter} {r : Resource}
    {picks : List Candidate} {o : Occupancy} (scan : ofResource? mixing filter (some r) = .ok o)
    (allowed : mixing.Allows (deployedKinds (some r) ++ picks.map (·.kind))) :
    ofResource? mixing filter (some (r.deploy picks)) =
      .ok (o.withReplicas filter (picks.map Candidate.replica)) := by
  obtain ⟨-, rfl⟩ := ofResource?_eq_ok_iff.mp scan
  rw [ofResource?_eq_ok_iff, deployedKinds_deploy, presentReplicas_deploy, withReplicas_append]
  exact ⟨allowed.sublist (List.filter_sublist.append_left _), rfl⟩

end Occupancy

namespace PlacementFilter

variable {filter : PlacementFilter} {total : UInt32}

theorem required_of_below (asked : filter.replicaCount = some total) {existing : Nat}
    (below : existing < total.toNat) : filter.required existing = total.toNat - existing := by
  simp [required, asked, below]

theorem required_of_reached (asked : filter.replicaCount = some total)
    (noMore : filter.additionalReplicaCount = none ∨ filter.additionalReplicaCount = some 0) :
    filter.required total.toNat = 0 := by
  rcases noMore with unset | zero
  · simp [required, asked, unset]
  · simp [required, asked, zero]

end PlacementFilter

namespace Selector

variable {s : Selector} {filter : PlacementFilter} {r : Resource}
variable {candidates : List Candidate} {selection : Selection}

/-- After a diskful request under a symmetric policy the picks can be deployed: the resource can be
scanned, it occupies what it did and what the picks take, and if all picks count towards a total
that was not reached before, the request is satisfied. -/
theorem deployment_of_select (diskful : filter.disklessType = none)
    (symmetric : ∀ a b, s.mixing a b = s.mixing b a)
    (run : (s.select filter (some r) candidates).outcome = .ok (some selection)) :
    ∃ o o', Occupancy.ofResource s.mixing filter r = .ok o ∧
      Occupancy.ofResource s.mixing filter (r.deploy selection.candidates) = .ok o' ∧
      o.Extended filter selection.candidates o' ∧
      ∀ total, filter.replicaCount = some total → o.diskfulCount < total.toNat →
        (filter.additionalReplicaCount = none ∨ filter.additionalReplicaCount = some 0) →
        (∀ c ∈ selection.candidates, filter.skips c.node = false) →
        ∀ others, (s.select filter (some (r.deploy selection.candidates)) others).outcome =
          .ok (some .empty) := by
  obtain ⟨o, positions, scan, combination, picks_eq⟩ := combination_of_select run
  have rescan := Occupancy.ofResource?_deploy scan (allows_of_select run diskful symmetric)
  have extended := o.extended_withReplicas filter selection.candidates
  refine ⟨o, _, scan, rescan, extended, ?_⟩
  intro total asked below noMore counted others
  have count_eq (o : Occupancy) : o.count filter = o.diskfulCount := by
    simp [Occupancy.count, PlacementFilter.isDiskless, diskful]
  -- As many were picked as the total lacked, and each of them counts towards it.
  have size_eq : selection.candidates.length = total.toNat - o.diskfulCount := by
    rw [picks_eq, combination.length_picksAt_eq, count_eq]
    exact PlacementFilter.required_of_below asked below
  have all_counted : (selection.candidates.countP fun c => !filter.skips c.node) =
      selection.candidates.length := by
    rw [List.countP_eq_length]
    intro c member
    rw [counted c member]
    rfl
  apply outcome_select_of_satisfied rescan
  rw [count_eq, extended.diskfulCount_eq, all_counted, size_eq, Nat.add_sub_cancel' below.le]
  exact PlacementFilter.required_of_reached asked noMore

theorem deployment_beside_deployed :
    let filter : PlacementFilter := { replicaCount := some 3 }
    let s : Selector := { properties := fun _ _ => .ok none, mixing := .standard }
    let picks := [offered[3], offered[2]]
    (s.select filter (some deployed) offered).outcome =
        .ok (some ⟨picks, ⟨0x4008000000000000⟩⟩) ∧
      ∃ o', Occupancy.ofResource s.mixing filter deployed = .ok inUse ∧
        Occupancy.ofResource s.mixing filter (deployed.deploy picks) = .ok o' ∧
        inUse.Extended filter picks o' ∧
        (s.select filter (some (deployed.deploy picks)) offered).outcome = .ok (some .empty) := by
  intro filter s picks
  have run : (s.select filter (some deployed) offered).outcome =
      .ok (some ⟨picks, ⟨0x4008000000000000⟩⟩) := by
    decide +kernel
  have known : Occupancy.ofResource s.mixing filter deployed = .ok inUse := by decide +kernel
  obtain ⟨o, o', scan, rescan, extended, satisfied⟩ :=
    deployment_of_select rfl MixingPolicy.standard_symmetric run
  obtain rfl : o = inUse := Except.ok.inj (scan.symm.trans known)
  refine ⟨run, o', scan, rescan, extended, ?_⟩
  have counted : ∀ c ∈ picks, filter.skips c.node = false := by decide
  exact satisfied 3 rfl (by decide) (.inl rfl) counted offered

end Selector

end ReplicaPlacement
