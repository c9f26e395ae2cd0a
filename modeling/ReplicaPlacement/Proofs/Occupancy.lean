import ReplicaPlacement.Occupancy
import ReplicaPlacement.Proofs.Mixing
import Mathlib.Algebra.Group.Nat.Defs

namespace ReplicaPlacement

/-- A run whose steps check all that was gathered so far succeeds exactly if the check holds of what
is gathered at the end. -/
theorem foldlM_eq_ok_iff {σ α ε : Type} {step : σ → α → Except ε σ} {gather : σ → List α → σ}
    {P : σ → Prop} (gather_nil : ∀ s, gather s [] = s)
    (gather_cons : ∀ s a rest, gather s (a :: rest) = gather (gather s [a]) rest)
    (earlier : ∀ s items, P (gather s items) → P s)
    (steps : ∀ s a s', P s → (step s a = .ok s' ↔ P (gather s [a]) ∧ s' = gather s [a]))
    {items : List α} {s s' : σ} (start : P s) :
    items.foldlM step s = .ok s' ↔ P (gather s items) ∧ s' = gather s items := by
  induction items generalizing s with
  | nil =>
      rw [gather_nil, List.foldlM_nil]
      simp [pure, Except.pure, start, eq_comm]
  | cons a rest induction =>
      rw [List.foldlM_cons, gather_cons]
      cases first : step s a with
      | error e =>
          -- What failed at this step fails of all that would be gathered after it too.
          have failed : ¬ P (gather s [a]) := by
            intro holds
            have taken := (steps s a _ start).mpr ⟨holds, rfl⟩
            rw [first] at taken
            contradiction
          simp only [bind, Except.bind, reduceCtorEq, false_iff, not_and]
          exact fun holds => absurd (earlier _ _ holds) failed
      | ok next =>
          obtain ⟨holds, rfl⟩ := (steps s a next start).mp first
          exact induction holds

theorem exists_failing_of_foldlM {σ α ε : Type} {step : σ → α → Except ε σ} {items : List α}
    {s : σ} {e : ε} (failed : items.foldlM step s = .error e) :
    ∃ before a after s', items = before ++ a :: after ∧ before.foldlM step s = .ok s' ∧
      step s' a = .error e := by
  induction items generalizing s with
  | nil => simp [pure, Except.pure] at failed
  | cons a rest induction =>
      rw [List.foldlM_cons] at failed
      cases first : step s a with
      | error cause =>
          obtain rfl : cause = e := by simpa [first, bind, Except.bind] using failed
          exact ⟨[], a, rest, s, rfl, rfl, first⟩
      | ok next =>
          rw [first] at failed
          obtain ⟨before, b, after, s', rfl, through, failing⟩ := induction failed
          refine ⟨a :: before, b, after, s', rfl, ?_, failing⟩
          rw [List.foldlM_cons, first]
          exact through

def storedKinds (volumes : List Volume) : List ProviderKind :=
  (volumes.map (·.kind)).filter (!·.isDiskless)

theorem storedKinds_append (volumes others : List Volume) :
    storedKinds (volumes ++ others) = storedKinds volumes ++ storedKinds others := by
  simp [storedKinds]

def Replica.countsFor (filter : PlacementFilter) (r : Replica) : Bool :=
  !filter.skips r.node && r.isStaying

def presentReplicas (resource : Option Resource) : List Replica :=
  (resource.elim [] (·.replicas)).filter Replica.isPresent

def deployedVolumes (resource : Option Resource) : List Volume :=
  (presentReplicas resource).flatMap Replica.dataVolumes

def deployedKinds (resource : Option Resource) : List ProviderKind :=
  storedKinds (deployedVolumes resource)

namespace Occupancy

def withVolumes (o : Occupancy) (volumes : List Volume) : Occupancy :=
  { o with
    sharedNames := o.sharedNames.insertMany (volumes.filterMap (·.sharedName))
    kinds := o.kinds ++ storedKinds volumes }

def withReplicas (filter : PlacementFilter) (o : Occupancy) (replicas : List Replica) :
    Occupancy where
  nodes := o.nodes.insertMany (replicas.map (·.node))
  diskfulCount :=
    o.diskfulCount + replicas.countP fun r => r.countsFor filter && !r.flags.diskless
  disklessCount :=
    o.disklessCount + replicas.countP fun r => r.countsFor filter && r.flags.diskless
  sharedNames :=
    o.sharedNames.insertMany ((replicas.flatMap Replica.dataVolumes).filterMap (·.sharedName))
  kinds := o.kinds ++ storedKinds (replicas.flatMap Replica.dataVolumes)

variable {mixing : MixingPolicy} {filter : PlacementFilter} {resource : String} {o o' : Occupancy}

theorem withVolumes_nil (o : Occupancy) : o.withVolumes [] = o := by
  simp [withVolumes, storedKinds]

theorem withVolumes_cons (o : Occupancy) (v : Volume) (rest : List Volume) :
    o.withVolumes (v :: rest) = (o.withVolumes [v]).withVolumes rest := by
  rw [← List.singleton_append]
  simp only [withVolumes, List.filterMap_append, Std.ExtTreeSet.insertMany_append,
    storedKinds_append, List.append_assoc]

theorem withReplicas_nil (o : Occupancy) : o.withReplicas filter [] = o := by
  simp [withReplicas, storedKinds]

theorem withReplicas_append (o : Occupancy) (replicas others : List Replica) :
    o.withReplicas filter (replicas ++ others) =
      (o.withReplicas filter replicas).withReplicas filter others := by
  simp only [withReplicas, List.map_append, List.flatMap_append, List.filterMap_append,
    List.countP_append, Std.ExtTreeSet.insertMany_append, storedKinds_append, List.append_assoc,
    Nat.add_assoc]

theorem withVolumes_addReplica (o : Occupancy) (r : Replica) :
    (o.addReplica filter r).withVolumes r.dataVolumes = o.withReplicas filter [r] := by
  simp only [withVolumes, withReplicas, addReplica, Replica.countsFor, List.map_singleton,
    List.flatMap_singleton, List.countP_singleton, Std.ExtTreeSet.insertMany_list_singleton,
    mk.injEq, true_and, and_true]
  constructor <;> split <;> rfl

theorem addSharedName_eq (o : Occupancy) (v : Volume) :
    o.addSharedName v =
      { o with sharedNames := o.sharedNames.insertMany ([v].filterMap (·.sharedName)) } := by
  unfold addSharedName
  cases shared : v.sharedName with
  | none => simp [shared]
  | some name => simp [shared, Std.ExtTreeSet.insertMany_list_singleton]

theorem addKind_eq_ok_iff {kind : ProviderKind} (allowed : mixing.Allows o.kinds) :
    addKind mixing resource o kind = .ok o' ↔
      mixing.Allows (o.kinds ++ [kind].filter (!·.isDiskless)) ∧
        o' = { o with kinds := o.kinds ++ [kind].filter (!·.isDiskless) } := by
  unfold addKind
  by_cases diskless : kind.isDiskless = true
  · have unkept : [kind].filter (!·.isDiskless) = [] := by simp [diskless]
    rw [if_pos diskless, unkept, List.append_nil, Except.ok.injEq]
    exact ⟨fun same => ⟨allowed, same.symm⟩, fun ⟨_, same⟩ => same.symm⟩
  · have kept : [kind].filter (!·.isDiskless) = [kind] := by simp [diskless]
    have allows_append : mixing.Allows (o.kinds ++ [kind]) ↔
        (o.kinds.find? fun k => !mixing k kind) = none := by
      simpa [MixingPolicy.Allows, List.pairwise_append] using fun _ => allowed
    rw [if_neg diskless, kept, allows_append]
    cases o.kinds.find? fun k => !mixing k kind <;> simp [eq_comm]

theorem addVolume_eq_ok_iff {v : Volume} (allowed : mixing.Allows o.kinds) :
    addVolume mixing resource o v = .ok o' ↔
      mixing.Allows (o.withVolumes [v]).kinds ∧ o' = o.withVolumes [v] := by
  rw [addVolume, addSharedName_eq]
  exact addKind_eq_ok_iff allowed

theorem foldlM_addVolume_eq_ok_iff {volumes : List Volume} (allowed : mixing.Allows o.kinds) :
    volumes.foldlM (addVolume mixing resource) o = .ok o' ↔
      mixing.Allows (o.withVolumes volumes).kinds ∧ o' = o.withVolumes volumes :=
  foldlM_eq_ok_iff (P := fun o => mixing.Allows o.kinds) withVolumes_nil withVolumes_cons
    (fun _ _ holds => holds.of_append) (fun _ _ _ => addVolume_eq_ok_iff) allowed

theorem add_eq_ok_iff {r : Replica} (allowed : mixing.Allows o.kinds) :
    add mixing filter resource o r = .ok o' ↔
      mixing.Allows (o.withReplicas filter [r]).kinds ∧ o' = o.withReplicas filter [r] := by
  have start : mixing.Allows (o.addReplica filter r).kinds := allowed
  rw [← withVolumes_addReplica]
  exact foldlM_addVolume_eq_ok_iff start

theorem foldlM_add_eq_ok_iff {replicas : List Replica} (allowed : mixing.Allows o.kinds) :
    replicas.foldlM (add mixing filter resource) o = .ok o' ↔
      mixing.Allows (o.withReplicas filter replicas).kinds ∧
        o' = o.withReplicas filter replicas :=
  foldlM_eq_ok_iff (P := fun o => mixing.Allows o.kinds) withReplicas_nil
    (fun o replica rest => withReplicas_append o [replica] rest)
    (fun _ _ holds => holds.of_append) (fun _ _ _ => add_eq_ok_iff) allowed

theorem ofResource?_eq_ok_iff {resource : Option Resource} :
    ofResource? mixing filter resource = .ok o ↔
      mixing.Allows (deployedKinds resource) ∧
        o = withReplicas filter {} (presentReplicas resource) := by
  have start : mixing.Allows ({} : Occupancy).kinds := List.Pairwise.nil
  cases resource with
  | none =>
      change Except.ok _ = _ ↔ mixing.Allows [] ∧ o = withReplicas filter {} []
      rw [withReplicas_nil, Except.ok.injEq]
      exact ⟨fun same => ⟨start, same.symm⟩, fun ⟨_, same⟩ => same.symm⟩
  | some r => exact foldlM_add_eq_ok_iff start

theorem exists_ofResource? {resource : Option Resource} (filter : PlacementFilter)
    (allowed : mixing.Allows (deployedKinds resource)) :
    ∃ o, ofResource? mixing filter resource = .ok o :=
  ⟨_, ofResource?_eq_ok_iff.mpr ⟨allowed, rfl⟩⟩

theorem exists_refusing_of_addVolume {v : Volume} {e : PlacementError}
    (failed : addVolume mixing resource o v = .error e) :
    v.kind.isDiskless = false ∧
      ∃ existing, (o.kinds.find? fun kind => !mixing kind v.kind) = some existing ∧
        e = .incompatibleKinds resource existing v.kind := by
  rw [addVolume, addSharedName_eq] at failed
  unfold addKind at failed
  split at failed
  next => contradiction
  next stored =>
    split at failed
    next existing refusing =>
      exact ⟨Bool.eq_false_iff.mpr stored, existing, refusing, (Except.error.inj failed).symm⟩
    next => contradiction

theorem firstClash_of_ofResource {r : Resource} {e : PlacementError}
    (failed : ofResource mixing filter r = .error e) :
    ∃ i j existing found, mixing.FirstClash (deployedKinds (some r)) i j ∧
      (deployedKinds (some r))[i]? = some existing ∧ (deployedKinds (some r))[j]? = some found ∧
      e = .incompatibleKinds r.name existing found := by
  have start : mixing.Allows ({} : Occupancy).kinds := List.Pairwise.nil
  obtain ⟨before, replica, after, o, present_eq, scanned, failed⟩ := exists_failing_of_foldlM failed
  obtain ⟨allowed, o_eq⟩ := (foldlM_add_eq_ok_iff start).mp scanned
  obtain ⟨volumes, v, others, o', volumes_eq, scanned, failed⟩ := exists_failing_of_foldlM failed
  have counted : mixing.Allows (o.addReplica filter replica).kinds := o_eq ▸ allowed
  obtain ⟨allowed, o'_eq⟩ := (foldlM_addVolume_eq_ok_iff counted).mp scanned
  obtain ⟨stored, existing, refusing, rfl⟩ := exists_refusing_of_addVolume failed
  rw [← o'_eq] at allowed
  have gathered : o'.kinds = storedKinds (before.flatMap Replica.dataVolumes) ++
      storedKinds volumes := by
    rw [o'_eq, o_eq]
    rfl
  have kinds_eq : deployedKinds (some r) =
      o'.kinds ++ v.kind :: storedKinds (others ++ after.flatMap Replica.dataVolumes) := by
    change storedKinds ((r.replicas.filter Replica.isPresent).flatMap Replica.dataVolumes) = _
    rw [gathered, present_eq, List.flatMap_append, List.flatMap_cons, volumes_eq]
    simp [storedKinds, stored]
  obtain ⟨i, entry, first⟩ := MixingPolicy.firstClash_of_find? allowed refusing
    (storedKinds (others ++ after.flatMap Replica.dataVolumes))
  rw [kinds_eq]
  refine ⟨i, o'.kinds.length, existing, v.kind, first, ?_, ?_, rfl⟩
  · rw [List.getElem?_append_left (List.getElem?_eq_some_iff.mp entry).1, entry]
  · rw [List.getElem?_append_right (Nat.le_refl _), Nat.sub_self]
    rfl

/-- A scan fails exactly with the first clash among the kinds deployed. -/
theorem ofResource_eq_error_iff {r : Resource} {e : PlacementError} :
    ofResource mixing filter r = .error e ↔
      ∃ i j existing found, mixing.FirstClash (deployedKinds (some r)) i j ∧
        (deployedKinds (some r))[i]? = some existing ∧ (deployedKinds (some r))[j]? = some found ∧
        e = .incompatibleKinds r.name existing found := by
  refine ⟨firstClash_of_ofResource, ?_⟩
  rintro ⟨i, j, existing, found, first, iEntry, jEntry, rfl⟩
  cases scan : ofResource mixing filter r with
  | ok o =>
      have allowed : mixing.Allows (deployedKinds (some r)) :=
        (ofResource?_eq_ok_iff.mp (show ofResource? mixing filter (some r) = .ok o from scan)).1
      exact absurd first.clash (MixingPolicy.allows_iff_not_clash.mp allowed i j)
  | error e =>
      obtain ⟨i', j', existing', found', other, iEntry', jEntry', rfl⟩ :=
        firstClash_of_ofResource scan
      obtain ⟨rfl, rfl⟩ := first.unique other
      obtain rfl : existing = existing' := Option.some.inj (iEntry.symm.trans iEntry')
      obtain rfl : found = found' := Option.some.inj (jEntry.symm.trans jEntry')
      rfl

theorem incompatible_of_ofResource? {resource : Option Resource} {e : PlacementError}
    (failed : ofResource? mixing filter resource = .error e) :
    ∃ r existing found, resource = some r ∧ e = .incompatibleKinds r.name existing found := by
  cases resource with
  | none => contradiction
  | some r =>
      obtain ⟨_, _, existing, found, -, -, -, cause⟩ := firstClash_of_ofResource failed
      exact ⟨r, existing, found, rfl, cause⟩

theorem kinds_of_ofResource? {resource : Option Resource}
    (run : ofResource? mixing filter resource = .ok o) : o.kinds = deployedKinds resource := by
  rw [(ofResource?_eq_ok_iff.mp run).2]
  rfl

theorem mem_nodes_withReplicas {replicas : List Replica} {node : String} :
    node ∈ (o.withReplicas filter replicas).nodes ↔
      node ∈ o.nodes ∨ ∃ r ∈ replicas, r.node = node := by
  simp [withReplicas, Std.ExtTreeSet.mem_insertMany_list]

theorem mem_sharedNames_withReplicas {replicas : List Replica} {name : String} :
    name ∈ (o.withReplicas filter replicas).sharedNames ↔
      name ∈ o.sharedNames ∨ ∃ r ∈ replicas, ∃ v ∈ r.dataVolumes, v.sharedName = some name := by
  simp only [withReplicas, Std.ExtTreeSet.mem_insertMany_list, List.contains_iff_mem,
    List.mem_filterMap, List.mem_flatMap]
  grind

theorem eq_withReplicas_of_ofResource {r : Resource} (run : ofResource mixing filter r = .ok o) :
    o = withReplicas filter {} (presentReplicas (some r)) :=
  (ofResource?_eq_ok_iff.mp (show ofResource? mixing filter (some r) = .ok o from run)).2

theorem length_presentReplicas_le (r : Resource) :
    (presentReplicas (some r)).length ≤ r.replicas.length :=
  List.length_filter_le ..

theorem counts_le_of_ofResource {r : Resource} (run : ofResource mixing filter r = .ok o) :
    o.diskfulCount ≤ r.replicas.length ∧ o.disklessCount ≤ r.replicas.length := by
  have present := length_presentReplicas_le r
  rw [eq_withReplicas_of_ofResource run]
  simp only [withReplicas, Nat.zero_add]
  exact ⟨Nat.le_trans List.countP_le_length present, Nat.le_trans List.countP_le_length present⟩

theorem counts_lt_of_ofResource {r : Resource} (few : r.replicas.length < 2 ^ 32)
    (run : ofResource mixing filter r = .ok o) :
    o.diskfulCount < 2 ^ 32 ∧ o.disklessCount < 2 ^ 32 := by
  have counts := counts_le_of_ofResource run
  exact ⟨Nat.lt_of_le_of_lt counts.1 few, Nat.lt_of_le_of_lt counts.2 few⟩

/-- The counts of a scan, in 32 bits each. -/
structure Counters where
  diskful : UInt32 := 0
  diskless : UInt32 := 0

namespace Counters

variable {c : Counters}

def addReplica (filter : PlacementFilter) (c : Counters) (r : Replica) : Counters :=
  if r.countsFor filter then
    if r.flags.diskless then { c with diskless := c.diskless + 1 }
    else { c with diskful := c.diskful + 1 }
  else c

def Agrees (c : Counters) (o : Occupancy) : Prop :=
  c.diskful.toNat = o.diskfulCount ∧ c.diskless.toNat = o.disklessCount

theorem toNat_succ {n : UInt32} (below : n.toNat + 1 < 2 ^ 32) : (n + 1).toNat = n.toNat + 1 := by
  rw [UInt32.toNat_add, UInt32.toNat_one]
  exact Nat.mod_eq_of_lt below

theorem Agrees.addReplica (agrees : c.Agrees o) {r : Replica}
    (diskful : o.diskfulCount + 1 < 2 ^ 32) (diskless : o.disklessCount + 1 < 2 ^ 32) :
    (c.addReplica filter r).Agrees (o.addReplica filter r) := by
  obtain ⟨diskful_eq, diskless_eq⟩ := agrees
  rw [← diskful_eq] at diskful
  rw [← diskless_eq] at diskless
  unfold Counters.addReplica Occupancy.addReplica Replica.countsFor Agrees
  cases (!filter.skips r.node && r.isStaying) <;> cases r.flags.diskless <;>
    simp [diskful_eq, diskless_eq, toNat_succ diskful, toNat_succ diskless]

theorem Agrees.withReplicas (agrees : c.Agrees o) {replicas : List Replica}
    (diskful : o.diskfulCount + replicas.length < 2 ^ 32)
    (diskless : o.disklessCount + replicas.length < 2 ^ 32) :
    (replicas.foldl (Counters.addReplica filter) c).Agrees (o.withReplicas filter replicas) := by
  induction replicas generalizing c o with
  | nil => exact agrees
  | cons r rest induction =>
      rw [List.length_cons] at diskful diskless
      have next : (c.addReplica filter r).Agrees (o.withReplicas filter [r]) := by
        rw [← withVolumes_addReplica]
        exact agrees.addReplica (by omega) (by omega)
      -- One replica counts at most once, so there is room for as many as are left.
      have one (p : Replica → Bool) : [r].countP p ≤ 1 := List.countP_le_length
      have diskful_le := one fun r => r.countsFor filter && !r.flags.diskless
      have diskless_le := one fun r => r.countsFor filter && r.flags.diskless
      rw [List.foldl_cons, ← List.singleton_append, withReplicas_append]
      refine induction next ?_ ?_ <;> simp only [Occupancy.withReplicas] <;> omega

end Counters

/-- Counters of 32 bits arrive at the counts of fewer than `2 ^ 32` replicas. -/
theorem counters_agree_of_ofResource {r : Resource} (few : r.replicas.length < 2 ^ 32)
    (run : ofResource mixing filter r = .ok o) :
    ((presentReplicas (some r)).foldl (Counters.addReplica filter) {}).Agrees o := by
  have present := length_presentReplicas_le r
  have start : ({} : Counters).Agrees ({} : Occupancy) := ⟨rfl, rfl⟩
  have few : 0 + (presentReplicas (some r)).length < 2 ^ 32 := by omega
  rw [eq_withReplicas_of_ofResource run]
  exact start.withReplicas few few

theorem mem_nodes_ofResource {r : Resource} {node : String}
    (run : ofResource mixing filter r = .ok o) :
    node ∈ o.nodes ↔ ∃ replica ∈ r.replicas, replica.isPresent = true ∧ replica.node = node := by
  rw [eq_withReplicas_of_ofResource run, mem_nodes_withReplicas]
  simp [presentReplicas, and_assoc]

theorem mem_sharedNames_ofResource {r : Resource} {name : String}
    (run : ofResource mixing filter r = .ok o) :
    name ∈ o.sharedNames ↔ ∃ replica ∈ r.replicas, replica.isPresent = true ∧
      ∃ v ∈ replica.dataVolumes, v.sharedName = some name := by
  rw [eq_withReplicas_of_ofResource run, mem_sharedNames_withReplicas]
  simp [presentReplicas, and_assoc]

end Occupancy

def Occupies (resource : Option Resource) (node : String) : Prop :=
  ∃ r, resource = some r ∧ ∃ replica ∈ r.replicas, replica.isPresent = true ∧ replica.node = node

def OccupiesBackend (resource : Option Resource) (name : String) : Prop :=
  ∃ v ∈ deployedVolumes resource, v.sharedName = some name

/-- How many present replicas count for the filter, being of the sort that it asks for. -/
def countedReplicas (filter : PlacementFilter) (resource : Option Resource) : Nat :=
  (presentReplicas resource).countP fun r =>
    r.countsFor filter && r.flags.diskless == filter.isDiskless

theorem occupies_iff_presentReplicas {resource : Option Resource} {node : String} :
    Occupies resource node ↔ ∃ r ∈ presentReplicas resource, r.node = node := by
  cases resource <;> simp [Occupies, presentReplicas, and_assoc]

theorem Occupancy.mem_nodes_iff_occupies {mixing : MixingPolicy} {filter : PlacementFilter}
    {resource : Option Resource} {o : Occupancy} {node : String}
    (scan : ofResource? mixing filter resource = .ok o) :
    node ∈ o.nodes ↔ Occupies resource node := by
  rw [(ofResource?_eq_ok_iff.mp scan).2, mem_nodes_withReplicas, occupies_iff_presentReplicas]
  simp only [Std.ExtTreeSet.not_mem_empty, false_or]

theorem Occupancy.mem_sharedNames_iff_occupies {mixing : MixingPolicy} {filter : PlacementFilter}
    {resource : Option Resource} {o : Occupancy} {name : String}
    (scan : ofResource? mixing filter resource = .ok o) :
    name ∈ o.sharedNames ↔ OccupiesBackend resource name := by
  rw [(ofResource?_eq_ok_iff.mp scan).2, mem_sharedNames_withReplicas]
  simp only [Std.ExtTreeSet.not_mem_empty, false_or, OccupiesBackend, deployedVolumes,
    List.mem_flatMap]
  grind

theorem Occupancy.count_of_ofResource? {mixing : MixingPolicy} {filter : PlacementFilter}
    {resource : Option Resource} {o : Occupancy}
    (scan : ofResource? mixing filter resource = .ok o) :
    o.count filter = countedReplicas filter resource := by
  rw [(ofResource?_eq_ok_iff.mp scan).2]
  unfold count countedReplicas
  cases diskless : filter.isDiskless <;> simp [withReplicas]

end ReplicaPlacement
