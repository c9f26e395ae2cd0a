import ReplicaPlacement.Proofs.Search.Safety
import ReplicaPlacement.Proofs.Selection.Deployment

namespace ReplicaPlacement.Selector

open Traced (Reports reports_of_silent reports_report reports_report_pure)

variable {s : Selector} {filter : PlacementFilter} {resource : Option Resource}
variable {candidates : List Candidate} {occupied : Occupancy}

theorem failsDenied_select (scan : Occupancy.ofResource? s.mixing filter resource = .ok occupied) :
    (s.select filter resource candidates).FailsDenied := by
  intro e failed
  rcases failures_of_select failed with unscanned | ⟨_, -, positive, denied | searched⟩
  · rw [scan] at unscanned
    contradiction
  · obtain ⟨cause, -, rfl⟩ := denied
    exact ⟨cause, rfl⟩
  · obtain ⟨fresh, -, searched⟩ := searched
    exact Constraints.failsDenied_search positive _ _ _ _ _ e searched

theorem failure_of_select {e : PlacementError}
    (failed : (s.select filter resource candidates).outcome = .error e) :
    (∃ cause, e = .accessDenied cause) ∨
      ∃ r existing found, resource = some r ∧ e = .incompatibleKinds r.name existing found := by
  rcases failures_of_select failed with unscanned | ⟨_, scan, -⟩
  · exact .inr (Occupancy.incompatible_of_ofResource? unscanned)
  · exact .inl (failsDenied_select scan e failed)

theorem reports_rankReported (candidates : List Candidate) :
    (Candidate.rankReported candidates).Reports (·.bound? = none) := by
  refine Reports.bind (fun e member => ?_) fun _ _ => reports_of_silent rfl
  obtain ⟨c, -, rfl⟩ := List.mem_map.mp member
  rfl

theorem reports_scan (mixing : MixingPolicy) (filter : PlacementFilter)
    (resource : Option Resource) :
    (Occupancy.scan mixing filter resource).Reports (·.bound? = none) := by
  refine Reports.bind (reports_of_silent rfl) fun occupied _ => ?_
  refine Reports.bind (fun e member => ?_) fun _ _ => reports_of_silent rfl
  change e ∈ occupied.events resource at member
  unfold Occupancy.events at member
  split at member
  next => contradiction
  next =>
    split at member <;> rw [List.mem_singleton.mp member] <;> rfl

theorem boundInRange_select (s : Selector) (filter : PlacementFilter) (resource : Option Resource)
    (candidates : List Candidate) :
    (s.select filter resource candidates).Reports fun e => e.bound? = none ∨
      ∃ occupied, Occupancy.ofResource? s.mixing filter resource = .ok occupied ∧
        e.BoundInRange (Candidate.rank candidates) (filter.required (occupied.count filter)) := by
  unfold select
  refine ((reports_rankReported candidates).imp fun _ => .inl).bind fun ranked ranking => ?_
  obtain rfl : Candidate.rank candidates = ranked := Except.ok.inj ranking
  refine Reports.bind (fun e member => ?_) fun _ _ => ?_
  · obtain ⟨c, -, rfl⟩ := List.mem_map.mp member
    exact .inl rfl
  refine ((reports_scan _ _ _).imp fun _ => .inl).bind fun occupied scan => ?_
  dsimp only
  split
  next => exact reports_report_pure (.inl rfl)
  next some =>
    refine (reports_report (.inl rfl)).bind fun _ _ => ?_
    refine Reports.bind (reports_of_silent rfl) fun fresh _ => ?_
    have searched := Constraints.boundInRange_search (k := s.constraints filter occupied)
      (Nat.pos_of_ne_zero some) (Candidate.rank candidates) s.prune 0 fresh none
    refine (searched.imp fun e inRange => ?_).bind fun best _ => ?_
    · exact .inr ⟨occupied, (outcome_scan ..).symm.trans scan, inRange⟩
    · cases best <;> exact reports_report_pure (.inl rfl)

/-- No kind that the replicas deployed need is lost when a pick is given back, each bound is summed
over as many candidates as are required, no count leaves its range while replicas are scanned, and
what is missing of the total is computed without underflow. -/
theorem select_no_fault (s : Selector) (filter : PlacementFilter) (candidates : List Candidate)
    (few : ∀ r, resource = some r → r.replicas.length < 2 ^ 32) :
    (s.select filter resource candidates).outcome ≠ .error .seedKindLost ∧
    (∀ e ∈ (s.select filter resource candidates).events, ∀ start bound,
      e.bound? = some (start, bound) →
        ∃ occupied, Occupancy.ofResource? s.mixing filter resource = .ok occupied ∧
          start + filter.required (occupied.count filter) ≤ (Candidate.rank candidates).length ∧
          bound = Candidate.total (((Candidate.rank candidates).drop start).take
            (filter.required (occupied.count filter)))) ∧
    (∀ r, resource = some r → ∀ n o,
      Occupancy.ofResource s.mixing filter { r with replicas := r.replicas.take n } = .ok o →
        o.diskfulCount < 2 ^ 32 ∧ o.disklessCount < 2 ^ 32) ∧
    ∀ occupied, Occupancy.ofResource? s.mixing filter resource = .ok occupied →
      ∀ target, filter.replicaCount = some target → occupied.count filter < target.toNat →
        filter.required (occupied.count filter) =
            (target - UInt32.ofNat (occupied.count filter)).toNat ∧
          filter.required (occupied.count filter) + occupied.count filter = target.toNat := by
  refine ⟨?_, ?_, ?_, ?_⟩
  · intro lost
    rcases failure_of_select lost with ⟨cause, denied⟩ | ⟨_, _, _, -, incompatible⟩
    · contradiction
    · contradiction
  · intro e member start bound told
    rcases boundInRange_select s filter resource candidates e member with none | inRange
    · rw [none] at told
      contradiction
    · obtain ⟨occupied, scan, inRange⟩ := inRange
      exact ⟨occupied, scan, inRange start bound told⟩
  · intro r known n o scan
    have taken : (r.replicas.take n).length ≤ r.replicas.length := List.length_take_le' ..
    exact Occupancy.counts_lt_of_ofResource (taken.trans_lt (few r known)) scan
  · intro occupied scan target asked below
    have target_lt := target.toNat_lt
    have size_eq : (UInt32.ofNat (occupied.count filter)).toNat = occupied.count filter :=
      UInt32.toNat_ofNat_of_lt' (below.trans target_lt)
    have required_eq := PlacementFilter.required_of_below asked below
    have le : UInt32.ofNat (occupied.count filter) ≤ target := by
      rw [UInt32.le_iff_toNat_le, size_eq]
      exact below.le
    rw [required_eq, UInt32.toNat_sub_of_le _ _ le, size_eq]
    exact ⟨rfl, Nat.sub_add_cancel below.le⟩

def crowded : List Candidate :=
  [{ name := "p", node := "n2", sharedName := some "nas", kind := .lvm,
      score := ⟨0x4010000000000000⟩ },
    { name := "q", node := "n2", kind := .lvm, score := ⟨0x4008000000000000⟩ },
    { name := "p", node := "n3", sharedName := some "nas", kind := .lvmThin,
      score := ⟨0x4000000000000000⟩ }]

theorem select_no_fault_crowded :
    let filter : PlacementFilter := { replicaCount := some 3 }
    let s : Selector := { properties := fun _ _ => .ok none, mixing := .standard }
    let run := s.select filter (some deployed) crowded
    let bound : Score := ⟨0x4014000000000000⟩
    run.outcome = .ok (some ⟨[crowded[1], crowded[2]], bound⟩) ∧
      .removed crowded[0] ∈ run.events ∧ .cutOff 1 bound bound ∈ run.events ∧
      run.outcome ≠ .error .seedKindLost ∧
      (∃ occupied, Occupancy.ofResource? s.mixing filter (some deployed) = .ok occupied ∧
        1 + filter.required (occupied.count filter) ≤ (Candidate.rank crowded).length ∧
        bound = Candidate.total (((Candidate.rank crowded).drop 1).take
          (filter.required (occupied.count filter)))) ∧
      (inUse.diskfulCount < 2 ^ 32 ∧ inUse.disklessCount < 2 ^ 32) ∧
      filter.required (inUse.count filter) = (3 - UInt32.ofNat (inUse.count filter)).toNat ∧
      filter.required (inUse.count filter) + inUse.count filter = (3 : UInt32).toNat := by
  intro filter s run bound
  have few : ∀ r, some deployed = some r → r.replicas.length < 2 ^ 32 := by
    rintro r ⟨⟩
    decide
  have scan : Occupancy.ofResource? s.mixing filter (some deployed) = .ok inUse := by
    decide +kernel
  have cut : .cutOff 1 bound bound ∈ run.events := by decide +kernel
  obtain ⟨kept, inRange, counts, subtraction⟩ :=
    select_no_fault s filter crowded few
  exact ⟨by decide +kernel, by decide +kernel, cut, kept, inRange _ cut 1 bound rfl,
    counts deployed rfl 1 inUse scan, subtraction inUse scan 3 rfl (by decide)⟩

end ReplicaPlacement.Selector
