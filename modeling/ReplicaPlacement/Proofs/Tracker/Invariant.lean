import ReplicaPlacement.Proofs.Tracker.View

namespace ReplicaPlacement

namespace Constraints

variable (k : Constraints)

def nodesWith (picks : List Candidate) : NameSet :=
  picks.foldl (fun nodes c => nodes.insert c.node) k.occupied.nodes

def sharedNamesWith (picks : List Candidate) : NameSet :=
  picks.foldl (fun names c => c.sharedName.elim names names.insert) k.occupied.sharedNames

/-- The tracker computed from nothing but its picks. -/
def anew (picks : List Candidate) : Tracker :=
  k.rebuilt
    { nodes := k.nodesWith picks
      sharedNames := k.sharedNamesWith picks
      kinds := k.seedKinds ++ picks.map (·.kind)
      selection := picks }

structure Apart (picks : List Candidate) : Prop where
  nodes_free : ∀ c ∈ picks, c.node ∉ k.occupied.nodes
  nodes_distinct : (picks.map (·.node)).Nodup
  backends_free : ∀ c ∈ picks, ∀ name, c.sharedName = some name →
    name ∉ k.occupied.sharedNames
  backends_distinct : (picks.filterMap (·.sharedName)).Nodup

/-- The invariant of a tracker: it shows what one computed from its picks alone shows, and its picks
keep apart from each other and from what is deployed. -/
structure Sound (t : Tracker) : Prop where
  view_eq : t.view = (k.anew t.selection).view
  apart : k.Apart t.selection

variable {k} {t t' u : Tracker} {c : Candidate} {picks : List Candidate}

namespace Sound

theorem nodes_eq (sound : k.Sound t) : t.nodes = k.nodesWith t.selection :=
  congrArg View.nodes sound.view_eq

theorem sharedNames_eq (sound : k.Sound t) : t.sharedNames = k.sharedNamesWith t.selection :=
  congrArg View.sharedNames sound.view_eq

theorem kinds_eq (sound : k.Sound t) : (t.kinds : Multiset ProviderKind) =
    (k.seedKinds ++ t.selection.map (·.kind) : List ProviderKind) :=
  congrArg View.kinds sound.view_eq

theorem same_eq (sound : k.Sound t) :
    t.same = ruleTable k.filter.sameRules (k.expected (k.nodesWith t.selection)) :=
  congrArg View.same sound.view_eq

theorem view_rebuilt (sound : k.Sound t) : (k.rebuilt t).view = t.view := by
  rw [sound.view_eq]
  simp only [Tracker.view, rebuilt, anew, View.mk.injEq, sound.nodes_eq, true_and, and_true]
  exact ⟨sound.sharedNames_eq, sound.kinds_eq⟩

theorem of_view_eq (sound : k.Sound t) (equality : u.view = t.view) : k.Sound u := by
  have selection_eq : u.selection = t.selection := congrArg View.selection equality
  constructor
  · rw [equality, selection_eq]
    exact sound.view_eq
  · rw [selection_eq]
    exact sound.apart

end Sound

theorem nodesWith_append (picks : List Candidate) (c : Candidate) :
    k.nodesWith (picks ++ [c]) = (k.nodesWith picks).insert c.node := by
  simp [nodesWith]

theorem sharedNamesWith_append (picks : List Candidate) (c : Candidate) :
    k.sharedNamesWith (picks ++ [c]) =
      c.sharedName.elim (k.sharedNamesWith picks) (k.sharedNamesWith picks).insert := by
  simp [sharedNamesWith]

theorem mem_nodesWith {node : String} :
    node ∈ k.nodesWith picks ↔ node ∈ k.occupied.nodes ∨ ∃ c ∈ picks, c.node = node := by
  induction picks using List.reverseRecOn with
  | nil => simp [nodesWith]
  | append_singleton picks c induction =>
      rw [nodesWith_append, Std.ExtTreeSet.mem_insert, Std.compare_eq_iff_eq, induction]
      simp only [List.mem_append, List.mem_singleton]
      grind

theorem mem_sharedNamesWith {name : String} :
    name ∈ k.sharedNamesWith picks ↔
      name ∈ k.occupied.sharedNames ∨ ∃ c ∈ picks, c.sharedName = some name := by
  induction picks using List.reverseRecOn with
  | nil => simp [sharedNamesWith]
  | append_singleton picks c induction =>
      rw [sharedNamesWith_append]
      cases shared : c.sharedName with
      | none =>
          rw [Option.elim_none, induction]
          grind
      | some other =>
          rw [Option.elim_some, Std.ExtTreeSet.mem_insert, Std.compare_eq_iff_eq, induction]
          grind

theorem mem_kinds_anew {kind : ProviderKind} :
    kind ∈ (k.anew picks).view.kinds ↔ kind ∈ k.seedKinds ∨ ∃ c ∈ picks, c.kind = kind := by
  change kind ∈ k.seedKinds ++ picks.map (·.kind) ↔ _
  rw [List.mem_append, List.mem_map]

theorem same_anew (picks : List Candidate) (key : String) :
    (k.anew picks).same[key]? =
      (lastOn k.filter.sameRules key).map (k.expected (k.nodesWith picks)) :=
  getElem?_ruleTable _ _ _

theorem taken_anew (picks : List Candidate) (key : String) :
    (k.anew picks).taken[key]? =
      (lastOn k.filter.differentRules key).map (k.claimed (k.nodesWith picks)) :=
  getElem?_ruleTable _ _ _

theorem nodesWith_congr {others : List Candidate} (alike : ∀ c, c ∈ picks ↔ c ∈ others) :
    k.nodesWith picks = k.nodesWith others := by
  apply Std.ExtTreeSet.ext_mem
  intro node
  rw [mem_nodesWith, mem_nodesWith]
  simp only [alike]

theorem sharedNamesWith_congr {others : List Candidate} (alike : ∀ c, c ∈ picks ↔ c ∈ others) :
    k.sharedNamesWith picks = k.sharedNamesWith others := by
  apply Std.ExtTreeSet.ext_mem
  intro name
  rw [mem_sharedNamesWith, mem_sharedNamesWith]
  simp only [alike]

/-- What a further candidate is asked depends on which picks there are, and not on their order. -/
theorem Sound.admissible_eq (sound : k.Sound t) (other : k.Sound u)
    (alike : ∀ c, c ∈ t.selection ↔ c ∈ u.selection) (c : Candidate) :
    k.admissible t c = k.admissible u c := by
  have nodes_eq := nodesWith_congr (k := k) alike
  have permutation : t.selection.Perm u.selection :=
    (List.perm_ext_iff_of_nodup sound.apart.nodes_distinct.of_map
      other.apart.nodes_distinct.of_map).mpr alike
  apply admissible_congr
  case nodes => rw [sound.nodes_eq, other.nodes_eq, nodes_eq]
  case sharedNames =>
    rw [sound.sharedNames_eq, other.sharedNames_eq, sharedNamesWith_congr alike]
  case kinds =>
    have kinds := (permutation.map (·.kind)).append_left k.seedKinds
    rw [← Multiset.coe_eq_coe, sound.kinds_eq, other.kinds_eq, Multiset.coe_eq_coe]
    exact kinds
  case same => rw [sound.same_eq, other.same_eq, nodes_eq]
  case taken =>
    rw [sound.view_eq, other.view_eq]
    simp only [Tracker.view, anew, rebuilt, nodes_eq]

theorem eq_anew_of_reset (run : k.reset t = (t', none)) : t' = k.anew [] := by
  rw [eq_rebuilt_of_rebuild run]
  simp [anew, rebuilt, nodesWith, sharedNamesWith]

theorem apart_nil : k.Apart [] where
  nodes_free := by simp
  nodes_distinct := List.nodup_nil
  backends_free := by simp
  backends_distinct := List.nodup_nil

theorem sound_anew (apart : k.Apart picks) : k.Sound (k.anew picks) := ⟨rfl, apart⟩

theorem rebuildable_of_reset (run : k.reset t = (t', none)) : k.Rebuildable k.occupied.nodes :=
  rebuildable_of_rebuild run

theorem Rebuildable.reset_eq (ready : k.Rebuildable k.occupied.nodes) (t : Tracker) :
    k.reset t = (k.anew [], none) := by
  have run : k.reset t = (_, none) := ready.rebuild_eq
  rw [run, eq_anew_of_reset run]

theorem fresh_of_reset (run : k.reset t = (t', none)) : k.fresh = .ok t' := by
  rw [fresh, (rebuildable_of_reset run).reset_eq, eq_anew_of_reset run]

theorem rebuildable_of_fresh {fresh : Tracker} (run : k.fresh = .ok fresh) :
    k.Rebuildable k.occupied.nodes := by
  unfold Constraints.fresh at run
  split at run
  next => contradiction
  next succeeded => exact rebuildable_of_reset succeeded

theorem reset_eq_of_fresh {fresh : Tracker} (run : k.fresh = .ok fresh) (t : Tracker) :
    k.reset t = (fresh, none) := by
  have reset := (rebuildable_of_fresh run).reset_eq t
  have same := run.symm.trans (fresh_of_reset reset)
  rw [reset, Except.ok.inj same]

theorem eq_anew_of_fresh {fresh : Tracker} (run : k.fresh = .ok fresh) : fresh = k.anew [] :=
  eq_anew_of_reset (reset_eq_of_fresh run {})

theorem apart_append (apart : k.Apart picks) (node_free : c.node ∉ k.nodesWith picks)
    (backend_free : ∀ name, c.sharedName = some name → name ∉ k.sharedNamesWith picks) :
    k.Apart (picks ++ [c]) := by
  rw [mem_nodesWith, not_or] at node_free
  simp only [mem_sharedNamesWith, not_or] at backend_free
  constructor
  · intro d member
    rcases List.mem_append.mp member with old | new
    · exact apart.nodes_free d old
    · rw [List.mem_singleton.mp new]
      exact node_free.1
  · rw [List.map_append, List.nodup_append]
    refine ⟨apart.nodes_distinct, by simp, ?_⟩
    intro a old b new equality
    obtain ⟨d, member, rfl⟩ := List.mem_map.mp old
    obtain rfl : b = c.node := by simpa using new
    exact node_free.2 ⟨d, member, equality⟩
  · intro d member name shared
    rcases List.mem_append.mp member with old | new
    · exact apart.backends_free d old name shared
    · rw [List.mem_singleton.mp new] at shared
      exact (backend_free name shared).1
  · rw [List.filterMap_append, List.nodup_append]
    refine ⟨apart.backends_distinct, ?_, ?_⟩
    · cases shared : c.sharedName <;> simp [shared]
    · intro a old b new equality
      obtain ⟨d, member, shared⟩ := List.mem_filterMap.mp old
      have newShared : c.sharedName = some b := by
        simpa [List.mem_filterMap] using new
      exact (backend_free b newShared).2 ⟨d, member, equality ▸ shared⟩

theorem expected_insert {nodes : NameSet} {node : String} {rule : PropertyRule}
    (fresh : node ∉ nodes)
    (met : ∀ value, k.expected nodes rule = some value →
      k.exposed node rule.key = some value) :
    k.expected (nodes.insert node) rule =
      (k.expected nodes rule).or (k.exposed node rule.key) := by
  unfold expected at *
  cases value : rule.value with
  | some v => simp
  | none =>
      simp only [value, Option.none_or] at met ⊢
      exact findSome?_toList_insert fresh met

theorem Fits.met (fits : k.Fits (k.anew picks).view c) {rule : PropertyRule}
    (last : lastOn k.filter.sameRules rule.key = some rule) {value : String}
    (expected_eq : k.expected (k.nodesWith picks) rule = some value) :
    k.properties c.node rule.key = .ok (some value) := by
  apply fits.same_met rule.key value
  change (k.anew picks).same[rule.key]? = _
  rw [same_anew, last, Option.map_some, expected_eq]

theorem Fits.unclaimed (fits : k.Fits (k.anew picks).view c) {rule : PropertyRule}
    (last : lastOn k.filter.differentRules rule.key = some rule) :
    ∃ found, k.properties c.node rule.key = .ok found ∧
      ∀ value ∈ found, value ∉ k.claimed (k.nodesWith picks) rule := by
  apply fits.taken_free rule.key (k.claimed (k.nodesWith picks) rule)
  rw [Tracker.getElem?_taken_view, taken_anew, last]
  rfl

theorem Fits.expected_append (fits : k.Fits (k.anew picks).view c) {rule : PropertyRule}
    (last : lastOn k.filter.sameRules rule.key = some rule) :
    k.expected (k.nodesWith (picks ++ [c])) rule =
      (k.expected (k.nodesWith picks) rule).or (k.exposed c.node rule.key) := by
  rw [nodesWith_append]
  apply expected_insert fits.node_free
  intro value expected_eq
  exact Lookup.found_of_eq_ok (fits.met last expected_eq)

theorem withJoined_anew (fits : k.Fits (k.anew picks).view c) :
    k.withJoined (k.anew picks).view c = (k.anew (picks ++ [c])).view := by
  have node_free : c.node ∉ k.nodesWith picks := fits.node_free
  simp only [withJoined, Tracker.view, anew, rebuilt, View.mk.injEq, nodesWith_append,
    sharedNamesWith_append, true_and]
  refine ⟨?_, ?_, ?_⟩
  · rw [List.map_append, ← List.append_assoc]
    exact Multiset.coe_add _ _
  · rw [map_ruleTable]
    apply ruleTable_congr
    intro rule last
    rw [← nodesWith_append]
    exact (fits.expected_append last).symm
  · rw [map_ruleTable, map_ruleTable, map_ruleTable]
    apply ruleTable_congr
    intro rule last
    unfold claimed
    rw [Multiset.coe_add, Multiset.coe_eq_coe, List.append_assoc]
    exact ((filterMap_toList_insert_perm (k.exposed · rule.key) node_free).symm).append_left _

theorem sound_joined (sound : k.Sound t) (fits : k.Fits t.view c) : k.Sound (k.joined t c) := by
  have selection_eq : (k.joined t c).selection = t.selection ++ [c] := rfl
  constructor
  · rw [selection_eq, view_joined, sound.view_eq]
    exact withJoined_anew (sound.view_eq ▸ fits)
  · rw [selection_eq]
    apply apart_append sound.apart
    · rw [← sound.nodes_eq]
      exact fits.node_free
    · rw [← sound.sharedNames_eq]
      exact fits.backend_free

theorem sound_of_take? (sound : k.Sound t) (taken : k.take? t c = some t') : k.Sound t' := by
  obtain ⟨joins, rfl⟩ := take?_eq_some_iff_joins.mp taken
  exact sound_joined sound joins.toFits

theorem sound_of_takeAll? (sound : k.Sound t) (taken : k.takeAll? t picks = some t') :
    k.Sound t' := by
  induction picks generalizing t with
  | nil =>
      obtain rfl : t = t' := by simpa [takeAll?] using taken
      exact sound
  | cons c rest induction =>
      obtain ⟨next, first, others⟩ := Option.bind_eq_some_iff.mp taken
      exact induction (sound_of_take? sound first) others

theorem erase_eq_filter (apart : k.Apart picks) (member : c ∈ picks) :
    picks.filter (!·.samePlacement c) = picks.erase c := by
  rw [apart.nodes_distinct.of_map.erase_eq_filter]
  apply List.filter_congr
  intro d other
  by_cases equality : d = c
  · simp [equality, Candidate.samePlacement]
  · have node_ne : d.node ≠ c.node := by
      intro node_eq
      exact equality (List.inj_on_of_nodup_map apart.nodes_distinct other member node_eq)
    rw [bne_iff_ne.mpr equality, Candidate.samePlacement, beq_eq_false_iff_ne.mpr node_ne]
    rfl

theorem Apart.erase (apart : k.Apart picks) (c : Candidate) : k.Apart (picks.erase c) where
  nodes_free d member := apart.nodes_free d (List.mem_of_mem_erase member)
  nodes_distinct := apart.nodes_distinct.sublist (List.erase_sublist.map _)
  backends_free d member := apart.backends_free d (List.mem_of_mem_erase member)
  backends_distinct := apart.backends_distinct.sublist (List.erase_sublist.filterMap _)

theorem nodesWith_erase (apart : k.Apart picks) (member : c ∈ picks) :
    k.nodesWith (picks.erase c) = (k.nodesWith picks).erase c.node := by
  apply Std.ExtTreeSet.ext_mem
  intro node
  rw [Std.ExtTreeSet.mem_erase, mem_nodesWith, mem_nodesWith]
  have distinct := apart.nodes_distinct.of_map
  have unshared (d : Candidate) (other : d ∈ picks) (node_eq : d.node = c.node) : d = c :=
    List.inj_on_of_nodup_map apart.nodes_distinct other member node_eq
  have free := apart.nodes_free c member
  simp only [distinct.mem_erase_iff, ne_eq, Std.compare_eq_iff_eq]
  grind

theorem sharedNamesWith_erase (apart : k.Apart picks) (member : c ∈ picks) :
    k.sharedNamesWith (picks.erase c) =
      c.sharedName.elim (k.sharedNamesWith picks) (k.sharedNamesWith picks).erase := by
  have distinct := apart.nodes_distinct.of_map
  cases shared : c.sharedName with
  | none =>
      apply Std.ExtTreeSet.ext_mem
      intro name
      rw [Option.elim_none, mem_sharedNamesWith, mem_sharedNamesWith]
      simp only [distinct.mem_erase_iff]
      grind
  | some own =>
      apply Std.ExtTreeSet.ext_mem
      intro name
      rw [Option.elim_some, Std.ExtTreeSet.mem_erase, mem_sharedNamesWith, mem_sharedNamesWith]
      have free := apart.backends_free c member own shared
      have unshared (d : Candidate) (other : d ∈ picks.erase c) : d.sharedName ≠ some own := by
        intro shared_eq
        have permutation := (List.perm_cons_erase member).filterMap (·.sharedName)
        simp only [List.filterMap_cons, shared] at permutation
        have separate := permutation.nodup_iff.mp apart.backends_distinct
        exact (List.nodup_cons.mp separate).1 (List.mem_filterMap.mpr ⟨d, other, shared_eq⟩)
      simp only [distinct.mem_erase_iff] at unshared
      simp only [distinct.mem_erase_iff, ne_eq, Std.compare_eq_iff_eq]
      grind

theorem coe_eraseLast (kind : ProviderKind) (kinds : List ProviderKind) :
    (eraseLast kind kinds : Multiset ProviderKind) =
      (kinds : Multiset ProviderKind).erase kind := by
  rw [Multiset.coe_erase, Multiset.coe_eq_coe]
  exact (List.reverse_perm _).trans ((List.reverse_perm kinds).erase kind)

theorem view_rebuilt_withdraw (sound : k.Sound t) (member : c ∈ t.selection) :
    (k.rebuilt (withdraw t c)).view = (k.anew (t.selection.erase c)).view := by
  have kinds_erase : (eraseLast c.kind t.kinds : Multiset ProviderKind) =
      (k.seedKinds ++ (t.selection.erase c).map (·.kind) : List ProviderKind) := by
    have permutation := (List.perm_cons_erase member).map (·.kind)
    rw [coe_eraseLast, sound.kinds_eq, ← Multiset.coe_add, Multiset.coe_eq_coe.mpr permutation,
      List.map_cons, ← Multiset.cons_coe, Multiset.add_cons, Multiset.erase_cons_head,
      Multiset.coe_add]
  simp only [Tracker.view, rebuilt, withdraw, anew, View.mk.injEq]
  rw [sound.nodes_eq, sound.sharedNames_eq, nodesWith_erase sound.apart member,
    sharedNamesWith_erase sound.apart member, erase_eq_filter sound.apart member]
  exact ⟨rfl, rfl, kinds_erase, rfl, rfl, rfl⟩

theorem keepsSeed_withdraw (sound : k.Sound t) (member : c ∈ t.selection) :
    k.keepsSeed (withdraw t c) = true := by
  have kinds_eq := congrArg View.kinds (view_rebuilt_withdraw sound member)
  have permutation := Multiset.coe_eq_coe.mp kinds_eq
  unfold keepsSeed
  rw [List.all_eq_true]
  intro kind seed
  rw [List.contains_iff_mem]
  exact permutation.mem_iff.mpr (List.mem_append_left _ seed)

theorem unselect_eq_ok_iff : k.unselect t c = (t', none) ↔
    k.keepsSeed (withdraw t c) = true ∧ k.rebuild (withdraw t c) = (t', none) := by
  unfold unselect
  dsimp only
  split
  next keeps => simp [keeps, Prod.ext_iff]
  next loses => simp [loses]

theorem eq_rebuilt_of_unselect (run : k.unselect t c = (t', none)) :
    t' = k.rebuilt (withdraw t c) :=
  eq_rebuilt_of_rebuild (unselect_eq_ok_iff.mp run).2

/-- Giving back any pick, in whatever order they came, preserves the invariant. -/
theorem sound_of_unselect (sound : k.Sound t) (member : c ∈ t.selection)
    (run : k.unselect t c = (t', none)) : k.Sound t' := by
  have selection_eq : (k.rebuilt (withdraw t c)).selection = t.selection.erase c :=
    erase_eq_filter sound.apart member
  rw [eq_rebuilt_of_unselect run]
  constructor
  · rw [selection_eq]
    exact view_rebuilt_withdraw sound member
  · rw [selection_eq]
    exact sound.apart.erase c

theorem Readable.unselect_eq (readable : k.Readable) (sound : k.Sound t)
    (member : c ∈ t.selection) :
    k.unselect t c = (k.rebuilt (withdraw t c), none) := by
  rw [unselect_eq_ok_iff]
  exact ⟨keepsSeed_withdraw sound member, (readable.rebuildable _).rebuild_eq⟩

theorem view_of_unselect {next : Tracker} (sound : k.Sound t) (taken : k.take? t c = some next)
    (equality : u.view = next.view) (run : k.unselect u c = (t', none)) : t'.view = t.view := by
  have fits := (take?_eq_some_iff_joins.mp taken).1.toFits
  have selection_eq : u.selection = t.selection ++ [c] :=
    (congrArg View.selection equality).trans (selection_of_take? taken)
  have member : c ∈ u.selection := by simp [selection_eq]
  have absent : c ∉ t.selection := by
    intro present
    apply fits.node_free
    change c.node ∈ t.nodes
    rw [sound.nodes_eq, mem_nodesWith]
    exact .inr ⟨c, present, rfl⟩
  have erase_eq : u.selection.erase c = t.selection := by
    rw [selection_eq, List.erase_append_right _ absent, List.erase_cons_head, List.append_nil]
  have joined := (sound_of_take? sound taken).of_view_eq equality
  rw [eq_rebuilt_of_unselect run, view_rebuilt_withdraw joined member, erase_eq, sound.view_eq]

theorem Sound.mem_taken_iff (sound : k.Sound t) {key : String} :
    key ∈ t.taken ↔
      key ∈ ruleTable k.filter.differentRules (k.claimed (k.nodesWith t.selection)) := by
  have taken_eq := congrArg View.taken sound.view_eq
  have mem_map (table : NameMap (List String)) :
      (key ∈ table.map fun _ => Multiset.ofList) ↔ key ∈ table := Std.ExtTreeMap.mem_map
  rw [← mem_map, ← mem_map]
  exact iff_of_eq (congrArg (key ∈ ·) taken_eq)

theorem Readable.answers_same (readable : k.Readable) (sound : k.Sound t) {key : String}
    (held : key ∈ t.same) (node : String) : Lookup.Answers (k.properties node) key := by
  rw [sound.same_eq] at held
  obtain ⟨rule, member, rfl⟩ := exists_of_mem_ruleTable held
  exact readable rule (by simp [member]) node

theorem Readable.answers_taken (readable : k.Readable) (sound : k.Sound t) {key : String}
    (held : key ∈ t.taken) (node : String) : Lookup.Answers (k.properties node) key := by
  rw [sound.mem_taken_iff] at held
  obtain ⟨rule, member, rfl⟩ := exists_of_mem_ruleTable held
  exact readable rule (by simp [member]) node

theorem Joins.answers (joins : k.Joins t.view c) (sound : k.Sound t) {rule : PropertyRule}
    (member : rule ∈ k.filter.sameRules ++ k.filter.differentRules) :
    Lookup.Answers (k.properties c.node) rule.key := by
  rcases List.mem_append.mp member with same | different
  · obtain ⟨last, found⟩ := exists_lastOn same
    have entry : t.view.same[rule.key]? = some (k.expected (k.nodesWith t.selection) last) := by
      change t.same[rule.key]? = _
      rw [sound.same_eq, getElem?_ruleTable, found, Option.map_some]
    cases expected_eq : k.expected (k.nodesWith t.selection) last with
    | none => exact joins.open_answers _ (expected_eq ▸ entry)
    | some value => exact Lookup.answers_of_eq_ok (joins.same_met _ value (expected_eq ▸ entry))
  · obtain ⟨last, found⟩ := exists_lastOn different
    have held : rule.key ∈ t.taken := by
      rw [sound.mem_taken_iff, Std.ExtTreeMap.mem_iff_isSome_getElem?, getElem?_ruleTable, found]
      rfl
    exact joins.toFits.answers_taken held

theorem Readable.exists_admissible (readable : k.Readable) (sound : k.Sound t) (c : Candidate) :
    ∃ b, k.admissible t c = .ok b :=
  Constraints.exists_admissible (fun _ held => readable.answers_same sound held _)
    (fun _ held => readable.answers_taken sound held _)

theorem Readable.select_eq (readable : k.Readable) (sound : k.Sound t) (c : Candidate) :
    k.select t c = (k.joined t c, none) := by
  apply select_of_answers
  · intro key unfixed
    apply readable.answers_same sound
    rw [Std.ExtTreeMap.mem_iff_isSome_getElem?, unfixed]
    rfl
  · intro key held
    exact readable.answers_taken sound held _

theorem Readable.reset_eq (readable : k.Readable) (t : Tracker) :
    k.reset t = (k.anew [], none) :=
  (readable.rebuildable _).reset_eq t

theorem Readable.fresh_eq (readable : k.Readable) : k.fresh = .ok (k.anew []) := by
  rw [fresh, readable.reset_eq]

end Constraints

end ReplicaPlacement
