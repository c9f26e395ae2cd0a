import ReplicaPlacement.Proofs.Selection.Select

namespace ReplicaPlacement

def PlacementFilter.seedKinds (filter : PlacementFilter) (resource : Option Resource) :
    List ProviderKind :=
  if filter.isDiskless then [.diskless] else deployedKinds resource

namespace Constraints

variable {k : Constraints} {picks : List Candidate} {c : Candidate}

theorem Stepwise.mixes_with_seed (stepwise : k.Stepwise picks) (member : c ∈ picks)
    {kind : ProviderKind} (seed : kind ∈ k.seedKinds) : k.mixing c.kind kind = true := by
  obtain ⟨before, after, -, -, joins⟩ := stepwise.exists_joins member
  exact joins.kinds_mix kind (mem_kinds_anew.mpr (.inl seed))

theorem Stepwise.pairwise_mixing (stepwise : k.Stepwise picks) :
    picks.Pairwise fun a b => k.mixing b.kind a.kind = true := by
  apply stepwise.pairwise
  intro before c joins d earlier
  exact joins.kinds_mix d.kind (mem_kinds_anew.mpr (.inr ⟨d, earlier, rfl⟩))

theorem Stepwise.allows (stepwise : k.Stepwise picks)
    (symmetric : ∀ a b, k.mixing a b = k.mixing b a) :
    k.mixing.Allows (picks.map (·.kind)) := by
  rw [MixingPolicy.Allows, List.pairwise_map]
  apply stepwise.pairwise_mixing.imp
  intro a b mixes
  rwa [symmetric]

theorem Stepwise.allows_append (stepwise : k.Stepwise picks)
    (symmetric : ∀ a b, k.mixing a b = k.mixing b a) (allowed : k.mixing.Allows k.seedKinds) :
    k.mixing.Allows (k.seedKinds ++ picks.map (·.kind)) := by
  rw [MixingPolicy.Allows, List.pairwise_append]
  refine ⟨allowed, stepwise.allows symmetric, ?_⟩
  intro kind seed other new
  obtain ⟨c, member, rfl⟩ := List.mem_map.mp new
  rw [symmetric]
  exact stepwise.mixes_with_seed member seed

end Constraints

namespace Selector

variable {s : Selector} {filter : PlacementFilter} {resource : Option Resource}
variable {candidates : List Candidate} {selection : Selection} {occupied : Occupancy}

theorem seedKinds_constraints
    (scan : Occupancy.ofResource? s.mixing filter resource = .ok occupied) :
    (s.constraints filter occupied).seedKinds = filter.seedKinds resource := by
  have kinds_eq : occupied.kinds = deployedKinds resource := Occupancy.kinds_of_ofResource? scan
  rw [PlacementFilter.seedKinds, ← kinds_eq]
  rfl

theorem allows_of_select
    (run : (s.select filter resource candidates).outcome = .ok (some selection))
    (diskful : filter.disklessType = none) (symmetric : ∀ a b, s.mixing a b = s.mixing b a) :
    s.mixing.Allows (deployedKinds resource ++ selection.candidates.map (·.kind)) := by
  obtain ⟨occupied, scan, stepwise⟩ := stepwise_of_select run
  have seed_eq : (s.constraints filter occupied).seedKinds = deployedKinds resource := by
    rw [seedKinds_constraints scan, PlacementFilter.seedKinds, PlacementFilter.isDiskless, diskful]
    rfl
  have allowed : s.mixing.Allows (s.constraints filter occupied).seedKinds := by
    rw [seed_eq]
    exact (Occupancy.ofResource?_eq_ok_iff.mp scan).1
  rw [← seed_eq]
  exact stepwise.allows_append symmetric allowed

/-- Every pick may stand beside the kinds that the selection starts with and beside every pick
before it. After a diskful request under a symmetric policy all kinds may stand together. -/
theorem kinds_mix_of_select
    (run : (s.select filter resource candidates).outcome = .ok (some selection)) :
    (∀ c ∈ selection.candidates, ∀ kind ∈ filter.seedKinds resource,
      s.mixing c.kind kind = true) ∧
    (selection.candidates.Pairwise fun a b => s.mixing b.kind a.kind = true) ∧
    (filter.disklessType = none → (∀ a b, s.mixing a b = s.mixing b a) →
      (deployedKinds resource ++ selection.candidates.map (·.kind)).Pairwise fun a b =>
        s.mixing a b = true ∧ s.mixing b a = true) := by
  obtain ⟨occupied, scan, stepwise⟩ := stepwise_of_select run
  refine ⟨?_, stepwise.pairwise_mixing, ?_⟩
  · intro c member kind seed
    rw [← seedKinds_constraints scan] at seed
    exact stepwise.mixes_with_seed member seed
  · intro diskful symmetric
    apply (allows_of_select run diskful symmetric).imp
    intro a b mixes
    exact ⟨mixes, symmetric a b ▸ mixes⟩

theorem kinds_mix_beside_deployed :
    let filter : PlacementFilter := { replicaCount := some 3 }
    let s : Selector := { properties := fun _ _ => .ok none, mixing := .standard }
    let pools : List Candidate :=
      [{ name := "p", node := "n2", kind := .zfs, score := ⟨0x4008000000000000⟩ },
        { name := "p", node := "n3", kind := .lvmThin, score := ⟨0x4000000000000000⟩ },
        { name := "p", node := "n4", kind := .lvm, score := ⟨0x3ff0000000000000⟩ }]
    (s.select filter (some deployed) pools).outcome =
        .ok (some ⟨[pools[1], pools[2]], ⟨0x4008000000000000⟩⟩) ∧
      (∀ c ∈ [pools[1], pools[2]], ∀ kind ∈ filter.seedKinds (some deployed),
        s.mixing c.kind kind = true) ∧
      ([pools[1], pools[2]].Pairwise fun a b => s.mixing b.kind a.kind = true) ∧
      ((deployedKinds (some deployed) ++ [pools[1].kind, pools[2].kind]).Pairwise fun a b =>
        s.mixing a b = true ∧ s.mixing b a = true) := by
  intro filter s pools
  have run : (s.select filter (some deployed) pools).outcome =
      .ok (some ⟨[pools[1], pools[2]], ⟨0x4008000000000000⟩⟩) := by
    decide +kernel
  obtain ⟨seeds, picks, together⟩ := kinds_mix_of_select run
  exact ⟨run, seeds, picks, together rfl MixingPolicy.standard_symmetric⟩

end Selector

def Volume.withoutKind (v : Volume) : Volume := { v with kind := .diskless }

def Replica.withoutKinds (r : Replica) : Replica :=
  { r with volumes := r.volumes.map Volume.withoutKind }

def Resource.withoutKinds (r : Resource) : Resource :=
  { r with replicas := r.replicas.map Replica.withoutKinds }

def Occupancy.withoutKinds (o : Occupancy) : Occupancy := { o with kinds := [] }

theorem Replica.dataVolumes_withoutKinds (r : Replica) :
    r.withoutKinds.dataVolumes = r.dataVolumes.map Volume.withoutKind := by
  simp only [dataVolumes, withoutKinds, List.filter_map]
  rfl

theorem presentReplicas_withoutKinds (resource : Option Resource) :
    presentReplicas (resource.map Resource.withoutKinds) =
      (presentReplicas resource).map Replica.withoutKinds := by
  cases resource with
  | none => rfl
  | some r => exact List.filter_map

theorem storedKinds_withoutKind (volumes : List Volume) :
    storedKinds (volumes.map Volume.withoutKind) = [] := by
  simp [storedKinds, Volume.withoutKind, ProviderKind.isDiskless]

namespace Occupancy

variable {mixing : MixingPolicy} {filter : PlacementFilter} {o : Occupancy}

theorem withReplicas_withoutKinds (replicas : List Replica) :
    withReplicas filter {} (replicas.map Replica.withoutKinds) =
      (withReplicas filter {} replicas).withoutKinds := by
  have volumes_eq : (replicas.map Replica.withoutKinds).flatMap Replica.dataVolumes =
      (replicas.flatMap Replica.dataVolumes).map Volume.withoutKind := by
    rw [List.flatMap_map, List.map_flatMap]
    simp only [Replica.dataVolumes_withoutKinds]
  simp only [withReplicas, withoutKinds, volumes_eq, storedKinds_withoutKind, List.map_map,
    List.countP_map, List.filterMap_map]
  rfl

theorem ofResource?_withoutKinds {resource : Option Resource}
    (scan : ofResource? mixing filter resource = .ok o) :
    ofResource? mixing filter (resource.map Resource.withoutKinds) = .ok o.withoutKinds := by
  obtain ⟨-, rfl⟩ := ofResource?_eq_ok_iff.mp scan
  have occupied_eq :
      withReplicas filter {} (presentReplicas (resource.map Resource.withoutKinds)) =
        (withReplicas filter {} (presentReplicas resource)).withoutKinds := by
    rw [presentReplicas_withoutKinds, withReplicas_withoutKinds]
  have none : deployedKinds (resource.map Resource.withoutKinds) = [] :=
    congrArg kinds occupied_eq
  rw [ofResource?_eq_ok_iff, none, occupied_eq]
  exact ⟨.nil, rfl⟩

end Occupancy

namespace Constraints

variable {k : Constraints}

def withoutKinds (k : Constraints) : Constraints :=
  { k with occupied := k.occupied.withoutKinds }

theorem seedKinds_withoutKinds (diskless : k.filter.isDiskless = true) :
    k.withoutKinds.seedKinds = k.seedKinds := by
  simp [seedKinds, withoutKinds, diskless]

theorem alike_withoutKinds (diskless : k.filter.isDiskless = true) : k.Alike k.withoutKinds :=
  .replaced rfl rfl (List.Perm.of_eq (seedKinds_withoutKinds diskless).symm)

end Constraints

namespace Selector

variable {s : Selector} {filter : PlacementFilter} {resource : Option Resource}
variable {occupied : Occupancy}

theorem outcome_select_withoutKinds (diskless : filter.isDiskless = true)
    (scan : Occupancy.ofResource? s.mixing filter resource = .ok occupied)
    (candidates : List Candidate) :
    (s.select filter (resource.map Resource.withoutKinds) candidates).outcome =
      (s.select filter resource candidates).outcome := by
  have alike : (s.constraints filter occupied).Alike (s.constraints filter occupied.withoutKinds) :=
    Constraints.alike_withoutKinds diskless
  exact (outcome_select_of_alike scan (Occupancy.ofResource?_withoutKinds scan) rfl alike).symm

/-- A diskless request is answered as if all that is deployed were diskless. Under the standard
policy its picks may stand together, and either all of them may stand beside all volumes deployed,
or just those pairs may that have a diskless side. -/
theorem diskless_kinds_of_select (standard : s.mixing = .standard)
    (diskless : filter.isDiskless = true)
    (scan : Occupancy.ofResource? s.mixing filter resource = .ok occupied)
    (candidates : List Candidate) :
    (s.select filter (resource.map Resource.withoutKinds) candidates).outcome =
        (s.select filter resource candidates).outcome ∧
      ∀ selection, (s.select filter resource candidates).outcome = .ok (some selection) →
        (∀ c ∈ selection.candidates, ∀ d ∈ selection.candidates,
          s.mixing c.kind d.kind = true) ∧
        ((∀ c ∈ selection.candidates, ∀ v ∈ deployedVolumes resource,
            s.mixing c.kind v.kind = true) ∨
          ∀ c ∈ selection.candidates, ∀ v ∈ deployedVolumes resource,
            s.mixing c.kind v.kind = (c.kind.isDiskless || v.kind.isDiskless)) := by
  refine ⟨outcome_select_withoutKinds diskless scan candidates, ?_⟩
  intro selection run
  obtain ⟨_, _, stepwise⟩ := stepwise_of_select run
  have symmetric : ∀ a b, s.mixing a b = s.mixing b a := by
    rw [standard]
    exact MixingPolicy.standard_symmetric
  have picked : s.mixing.Allows (selection.candidates.map (·.kind)) := stepwise.allows symmetric
  have stored := (Occupancy.ofResource?_eq_ok_iff.mp scan).1
  rw [standard] at picked stored ⊢
  have present : MixingPolicy.standard.Allows ((deployedVolumes resource).map (·.kind)) :=
    MixingPolicy.standard_allows_of_stored stored
  constructor
  · intro c first d second
    exact MixingPolicy.standard_of_mem picked (List.mem_map_of_mem first)
      (List.mem_map_of_mem second)
  · simpa using MixingPolicy.standard_all_or_diskless picked present

def diskfulAndDiskless : List Candidate :=
  [{ name := "p", node := "n2", kind := .zfs, score := ⟨0x4000000000000000⟩ },
    { name := "p", node := "n3", kind := .diskless, score := ⟨0x3ff0000000000000⟩ }]

theorem diskless_beside_deployed :
    let filter : PlacementFilter := { replicaCount := some 2, disklessType := some .drbd }
    let s : Selector := { properties := fun _ _ => .ok none, mixing := .standard }
    let picks := diskfulAndDiskless
    (s.select filter (some deployed) picks).outcome =
        .ok (some ⟨picks, ⟨0x4008000000000000⟩⟩) ∧
      (s.select filter (some deployed.withoutKinds) picks).outcome =
        .ok (some ⟨picks, ⟨0x4008000000000000⟩⟩) ∧
      (∀ c ∈ picks, ∀ d ∈ picks, s.mixing c.kind d.kind = true) ∧
      ((∀ c ∈ picks, ∀ v ∈ deployedVolumes (some deployed), s.mixing c.kind v.kind = true) ∨
        ∀ c ∈ picks, ∀ v ∈ deployedVolumes (some deployed),
          s.mixing c.kind v.kind = (c.kind.isDiskless || v.kind.isDiskless)) := by
  intro filter s picks
  have run : (s.select filter (some deployed) picks).outcome =
      .ok (some ⟨picks, ⟨0x4008000000000000⟩⟩) := by
    decide +kernel
  have scan : Occupancy.ofResource? s.mixing filter (some deployed) = .ok inUse := by
    decide +kernel
  obtain ⟨alike, kinds⟩ := diskless_kinds_of_select rfl rfl scan picks
  exact ⟨run, alike.trans run, kinds _ run⟩

/-- A diskless request takes a pool that may not stand beside the replica deployed, although one is
offered that may. -/
theorem diskless_pick_not_mixing :
    let filter : PlacementFilter := { replicaCount := some 1, disklessType := some .drbd }
    let s : Selector := { properties := fun _ _ => .ok none, mixing := .standard }
    (s.select filter (some deployed) diskfulAndDiskless).outcome =
        .ok (some ⟨[diskfulAndDiskless[0]], ⟨0x4000000000000000⟩⟩) ∧
      ∃ v ∈ deployedVolumes (some deployed), s.mixing diskfulAndDiskless[0].kind v.kind = false := by
  decide +kernel

end Selector

end ReplicaPlacement
