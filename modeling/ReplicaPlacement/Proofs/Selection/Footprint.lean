import ReplicaPlacement.Proofs.Selection.Safety

namespace ReplicaPlacement

structure SameFootprint (filter : PlacementFilter) (resource other : Option Resource) : Prop where
  nodes : ∀ node, Occupies resource node ↔ Occupies other node
  counted : countedReplicas filter resource = countedReplicas filter other
  backends : ∀ name, OccupiesBackend resource name ↔ OccupiesBackend other name
  kinds : (deployedKinds resource).Perm (deployedKinds other)

/-- Both calls succeed with the same, both are refused the same look-up, or both find kinds deployed
that may not stand together. -/
inductive SameAnswer {α : Type} : Except PlacementError α → Except PlacementError α → Prop where
  | ok (a : α) : SameAnswer (.ok a) (.ok a)
  | denied (cause : AccessDenied) :
      SameAnswer (.error (.accessDenied cause)) (.error (.accessDenied cause))
  | incompatible {name name' : String} {existing existing' found found' : ProviderKind} :
      SameAnswer (.error (.incompatibleKinds name existing found))
        (.error (.incompatibleKinds name' existing' found'))

namespace Selector

variable {s : Selector} {filter : PlacementFilter} {resource other : Option Resource}
variable {occupied occupied' : Occupancy}

theorem alike_of_sameFootprint (same : SameFootprint filter resource other)
    (scan : Occupancy.ofResource? s.mixing filter resource = .ok occupied)
    (otherScan : Occupancy.ofResource? s.mixing filter other = .ok occupied') :
    (s.constraints filter occupied).Alike (s.constraints filter occupied') := by
  refine .replaced ?_ ?_ ?_
  · apply Std.ExtTreeSet.ext_mem
    intro node
    exact (Occupancy.mem_nodes_iff_occupies scan).trans
      ((same.nodes node).trans (Occupancy.mem_nodes_iff_occupies otherScan).symm)
  · apply Std.ExtTreeSet.ext_mem
    intro name
    exact (Occupancy.mem_sharedNames_iff_occupies scan).trans
      ((same.backends name).trans (Occupancy.mem_sharedNames_iff_occupies otherScan).symm)
  · change (s.constraints filter occupied).seedKinds.Perm
      (s.constraints filter occupied').seedKinds
    rw [seedKinds_constraints scan, seedKinds_constraints otherScan]
    unfold PlacementFilter.seedKinds
    split
    · exact List.Perm.refl _
    · exact same.kinds

theorem incompatible_of_not_allows (unfit : ¬ s.mixing.Allows (deployedKinds resource))
    (filter : PlacementFilter) (candidates : List Candidate) :
    ∃ name existing found, (s.select filter resource candidates).outcome =
      .error (.incompatibleKinds name existing found) := by
  cases scan : Occupancy.ofResource? s.mixing filter resource with
  | ok occupied => exact absurd (Occupancy.ofResource?_eq_ok_iff.mp scan).1 unfit
  | error e =>
      obtain ⟨r, existing, found, -, rfl⟩ := Occupancy.incompatible_of_ofResource? scan
      exact ⟨r.name, existing, found, by rw [outcome_select, scan]⟩

theorem sameAnswer_of_sameFootprint (symmetric : ∀ a b, s.mixing a b = s.mixing b a)
    (same : SameFootprint filter resource other) (candidates : List Candidate) :
    SameAnswer (s.select filter resource candidates).outcome
      (s.select filter other candidates).outcome := by
  have allows_iff := MixingPolicy.allows_perm symmetric same.kinds
  by_cases allowed : s.mixing.Allows (deployedKinds resource)
  · obtain ⟨occupied, scan⟩ := Occupancy.exists_ofResource? filter allowed
    obtain ⟨occupied', otherScan⟩ := Occupancy.exists_ofResource? filter (allows_iff.mp allowed)
    have count_eq : occupied.count filter = occupied'.count filter := by
      rw [Occupancy.count_of_ofResource? scan, Occupancy.count_of_ofResource? otherScan]
      exact same.counted
    rw [← outcome_select_of_alike scan otherScan count_eq
      (alike_of_sameFootprint same scan otherScan)]
    cases answer : (s.select filter resource candidates).outcome with
    | ok best => exact .ok best
    | error e =>
        obtain ⟨cause, rfl⟩ := failsDenied_select scan e answer
        exact .denied cause
  · obtain ⟨_, _, _, failed⟩ := incompatible_of_not_allows allowed filter candidates
    obtain ⟨_, _, _, otherFailed⟩ :=
      incompatible_of_not_allows (mt allows_iff.mpr allowed) filter candidates
    rw [failed, otherFailed]
    exact .incompatible

theorem outcome_select_of_absent {r : Resource}
    (absent : ∀ replica ∈ r.replicas, replica.isPresent = false) (candidates : List Candidate) :
    (s.select filter (some r) candidates).outcome = (s.select filter none candidates).outcome := by
  have nonePresent : presentReplicas (some r) = [] := by
    apply List.filter_eq_nil_iff.mpr
    intro replica member
    rw [absent replica member]
    exact Bool.false_ne_true
  have scan : Occupancy.ofResource? s.mixing filter (some r) = .ok {} := by
    rw [Occupancy.ofResource?_eq_ok_iff, deployedKinds, deployedVolumes, nonePresent]
    exact ⟨.nil, (Occupancy.withReplicas_nil _).symm⟩
  rw [outcome_select, outcome_select, scan]
  rfl

/-- Under a symmetric policy a call depends on nothing about the replicas deployed but their
footprint. Where none is present it answers as for a resource that is not defined yet. -/
theorem select_of_sameFootprint (s : Selector) (filter : PlacementFilter)
    (candidates : List Candidate) :
    ((∀ a b, s.mixing a b = s.mixing b a) →
      ∀ resource other, SameFootprint filter resource other →
        SameAnswer (s.select filter resource candidates).outcome
          (s.select filter other candidates).outcome) ∧
    ∀ r : Resource, (∀ replica ∈ r.replicas, replica.isPresent = false) →
      (s.select filter (some r) candidates).outcome =
        (s.select filter none candidates).outcome := by
  constructor
  · intro symmetric resource other same
    exact sameAnswer_of_sameFootprint symmetric same candidates
  · intro r absent
    exact outcome_select_of_absent absent candidates

def listed : Resource where
  name := "data"
  replicas :=
    [{ node := "n1", volumes := [{ pool := "p", sharedName := some "san", kind := .lvm }] },
      { node := "n2", volumes := [{ pool := "p", kind := .lvmThin }] }]

def relisted : Resource where
  name := "copy"
  replicas :=
    [{ node := "n3", flags := { deleting := true }
       volumes := [{ pool := "q", sharedName := some "nas", kind := .zfs }] },
      { node := "n2", volumes := [{ pool := "q", sharedName := some "san", kind := .lvmThin }] },
      { node := "n1"
        volumes :=
          [{ role := .metadata, pool := "m", sharedName := some "meta", kind := .zfs },
            { pool := "r", kind := .lvm }] }]

def emptied : Resource where
  name := "old"
  replicas :=
    [{ node := "n4", flags := { evicted := true }
       volumes := [{ pool := "p", sharedName := some "san", kind := .zfs }] }]

theorem select_of_sameFootprint_relisted :
    let filter : PlacementFilter := { replicaCount := some 3 }
    let s : Selector := { properties := fun _ _ => .ok none, mixing := .standard }
    (s.select filter (some listed) offered).outcome =
        .ok (some ⟨[offered[3]], ⟨0x4000000000000000⟩⟩) ∧
      SameFootprint filter (some listed) (some relisted) ∧
      SameAnswer (s.select filter (some listed) offered).outcome
        (s.select filter (some relisted) offered).outcome ∧
      (∀ replica ∈ emptied.replicas, replica.isPresent = false) ∧
      (s.select filter (some emptied) offered).outcome =
        (s.select filter none offered).outcome := by
  intro filter s
  have same : SameFootprint filter (some listed) (some relisted) := by
    refine ⟨?_, by decide, ?_, by decide⟩
    · intro node
      simp [Occupies, listed, relisted, Replica.isPresent, or_comm]
    · intro name
      simp [OccupiesBackend, deployedVolumes, presentReplicas, listed, relisted, Replica.isPresent,
        Replica.dataVolumes]
  have absent : ∀ replica ∈ emptied.replicas, replica.isPresent = false := by decide
  obtain ⟨alike, asNone⟩ := select_of_sameFootprint s filter offered
  exact ⟨by decide +kernel, same, alike MixingPolicy.standard_symmetric _ _ same, absent,
    asNone emptied absent⟩

end Selector

end ReplicaPlacement
