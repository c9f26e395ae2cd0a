import ReplicaPlacement.Proofs.Selection.Select

namespace ReplicaPlacement.Selector

theorem outcome_select_of_fault {s : Selector} {filter : PlacementFilter} {r : Resource}
    {e : PlacementError} (failed : Occupancy.ofResource s.mixing filter r = .error e)
    (candidates : List Candidate) :
    (s.select filter (some r) candidates).outcome = .error e := by
  have scan : Occupancy.ofResource? s.mixing filter (some r) = .error e := failed
  rw [outcome_select, scan]

/-- Scanning a resource fails exactly if a kind deployed refuses one that comes after it. The fault
names the first kind refused and the first that refuses it, and is the answer to every request. -/
theorem scan_fails_with_first_clash (s : Selector) (filter : PlacementFilter) (r : Resource) :
    let kinds := deployedKinds (some r)
    ((∃ e, Occupancy.ofResource s.mixing filter r = .error e) ↔
      ∃ i j, s.mixing.Clash kinds i j) ∧
    (∀ e, Occupancy.ofResource s.mixing filter r = .error e ↔
      ∃ i j existing found, s.mixing.FirstClash kinds i j ∧
        kinds[i]? = some existing ∧ kinds[j]? = some found ∧
        e = .incompatibleKinds r.name existing found) ∧
    (∀ e, Occupancy.ofResource s.mixing filter r = .error e →
      ∀ candidates, (s.select filter (some r) candidates).outcome = .error e) ∧
    ∀ o, Occupancy.ofResource s.mixing filter r = .ok o →
      o.kinds = kinds ∧
      (∀ node, node ∈ o.nodes ↔ Occupies (some r) node) ∧
      (∀ name, name ∈ o.sharedNames ↔ OccupiesBackend (some r) name) ∧
      o.diskfulCount = (presentReplicas (some r)).countP
        (fun replica => replica.countsFor filter && !replica.flags.diskless) ∧
      o.disklessCount = (presentReplicas (some r)).countP
        (fun replica => replica.countsFor filter && replica.flags.diskless) ∧
      (r.replicas.length < 2 ^ 32 → o.diskfulCount < 2 ^ 32 ∧ o.disklessCount < 2 ^ 32) := by
  intro kinds
  refine ⟨?_, fun e => Occupancy.ofResource_eq_error_iff,
    fun e failed => outcome_select_of_fault failed, ?_⟩
  · constructor
    · rintro ⟨e, failed⟩
      obtain ⟨i, j, -, -, first, -⟩ := Occupancy.ofResource_eq_error_iff.mp failed
      exact ⟨i, j, first.clash⟩
    · rintro ⟨i, j, clash⟩
      cases scan : Occupancy.ofResource s.mixing filter r with
      | error e => exact ⟨e, rfl⟩
      | ok o =>
          have scan : Occupancy.ofResource? s.mixing filter (some r) = .ok o := scan
          have allowed := (Occupancy.ofResource?_eq_ok_iff.mp scan).1
          exact absurd clash (MixingPolicy.allows_iff_not_clash.mp allowed i j)
  · intro o scan
    have counts (few : r.replicas.length < 2 ^ 32) := Occupancy.counts_lt_of_ofResource few scan
    have scan : Occupancy.ofResource? s.mixing filter (some r) = .ok o := scan
    refine ⟨Occupancy.kinds_of_ofResource? scan,
      fun node => Occupancy.mem_nodes_iff_occupies scan,
      fun name => Occupancy.mem_sharedNames_iff_occupies scan, ?_, ?_, counts⟩
    · rw [(Occupancy.ofResource?_eq_ok_iff.mp scan).2]
      exact Nat.zero_add _
    · rw [(Occupancy.ofResource?_eq_ok_iff.mp scan).2]
      exact Nat.zero_add _

def misplaced : Resource where
  name := "data"
  replicas :=
    [{ node := "n1"
       volumes := [{ pool := "p", kind := .lvm }, { pool := "d", kind := .diskless }] },
      { node := "n2", flags := { deleting := true }, volumes := [{ pool := "p", kind := .file }] },
      { node := "n3"
        volumes :=
          [{ role := .metadata, pool := "m", kind := .file }, { pool := "p", kind := .zfs },
            { pool := "q", kind := .lvm }, { pool := "r", kind := .spdk }] }]

theorem scan_fails_with_first_clash_misplaced :
    let s : Selector :=
      { properties := fun node key => .error (.property node key)
        mixing := fun a b => a == .lvm || a == b }
    let filter : PlacementFilter := { countsNothing := true }
    let kinds := deployedKinds (some misplaced)
    kinds = [.lvm, .zfs, .lvm, .spdk] ∧
      (∃ i j, s.mixing.FirstClash kinds i j ∧ kinds[i]? = some .zfs ∧ kinds[j]? = some .lvm) ∧
      Occupancy.ofResource s.mixing filter misplaced =
        .error (.incompatibleKinds "data" .zfs .lvm) ∧
      (∀ candidates, (s.select filter (some misplaced) candidates).outcome =
        .error (.incompatibleKinds "data" .zfs .lvm)) ∧
      Occupancy.ofResource s.mixing filter deployed = .ok { inUse with diskfulCount := 0 } ∧
      ∀ node, node ∈ inUse.nodes ↔ Occupies (some deployed) node := by
  intro s filter kinds
  have failed : Occupancy.ofResource s.mixing filter misplaced =
      .error (.incompatibleKinds "data" .zfs .lvm) := by
    decide +kernel
  have scan : Occupancy.ofResource s.mixing filter deployed =
      .ok { inUse with diskfulCount := 0 } := by
    decide +kernel
  obtain ⟨-, named, answered, -⟩ := scan_fails_with_first_clash s filter misplaced
  obtain ⟨-, -, -, gathered⟩ := scan_fails_with_first_clash s filter deployed
  obtain ⟨i, j, existing, found, first, iEntry, jEntry, cause⟩ := (named _).mp failed
  obtain ⟨-, rfl, rfl⟩ := PlacementError.incompatibleKinds.inj cause
  exact ⟨by decide, ⟨i, j, first, iEntry, jEntry⟩, failed, answered _ failed, scan,
    (gathered _ scan).2.1⟩

end ReplicaPlacement.Selector
