import ReplicaPlacement.Proofs.Tracker.Invariant

namespace ReplicaPlacement

namespace Constraints

variable (k : Constraints)

/-- Each pick joined a tracker computed from the picks before it. -/
inductive Stepwise : List Candidate → Prop where
  | nil : Stepwise []
  | append {picks : List Candidate} {c : Candidate} :
      Stepwise picks → k.Joins (k.anew picks).view c → Stepwise (picks ++ [c])

variable {k} {t t' : Tracker} {c : Candidate} {picks fewer : List Candidate}

theorem stepwise_append_iff :
    k.Stepwise (picks ++ [c]) ↔ k.Stepwise picks ∧ k.Joins (k.anew picks).view c := by
  constructor
  · intro stepwise
    generalize all_eq : picks ++ [c] = all at stepwise
    cases stepwise with
    | nil => simp at all_eq
    | append stepwise joins =>
        obtain ⟨rfl, last_eq⟩ := List.append_inj' all_eq rfl
        obtain rfl := List.singleton_inj.mp last_eq
        exact ⟨stepwise, joins⟩
  · rintro ⟨stepwise, joins⟩
    exact .append stepwise joins

namespace Stepwise

theorem apart (stepwise : k.Stepwise picks) : k.Apart picks := by
  induction stepwise with
  | nil => exact apart_nil
  | append _ joins induction => exact apart_append induction joins.node_free joins.backend_free

theorem exists_joins (stepwise : k.Stepwise picks) (member : c ∈ picks) :
    ∃ before after, picks = before ++ c :: after ∧ k.Stepwise before ∧
      k.Joins (k.anew before).view c := by
  induction stepwise with
  | nil => simp at member
  | @append picks d stepwise joins induction =>
      rcases List.mem_append.mp member with old | new
      · obtain ⟨before, after, picks_eq, own, joined⟩ := induction old
        exact ⟨before, after ++ [d], by rw [picks_eq]; simp, own, joined⟩
      · obtain rfl : c = d := by simpa using new
        exact ⟨picks, [], rfl, stepwise, joins⟩

theorem answers {rule : PropertyRule} (stepwise : k.Stepwise picks) (member : c ∈ picks)
    (rules : rule ∈ k.filter.sameRules ++ k.filter.differentRules) :
    Lookup.Answers (k.properties c.node) rule.key := by
  obtain ⟨before, after, -, own, joins⟩ := stepwise.exists_joins member
  exact joins.answers (sound_anew own.apart) rules

theorem pairwise {R : Candidate → Candidate → Prop} (stepwise : k.Stepwise picks)
    (steps : ∀ before c, k.Joins (k.anew before).view c → ∀ d ∈ before, R d c) :
    picks.Pairwise R := by
  induction stepwise with
  | nil => exact .nil
  | @append picks c _ joins induction =>
      rw [List.pairwise_append]
      refine ⟨induction, List.pairwise_singleton R c, ?_⟩
      intro d earlier e new
      obtain rfl : e = c := by simpa using new
      exact steps picks e joins d earlier

variable {rule : PropertyRule}

theorem expected_eq (stepwise : k.Stepwise picks)
    (last : lastOn k.filter.sameRules rule.key = some rule) :
    k.expected (k.nodesWith picks) rule =
      (k.expected k.occupied.nodes rule).or
        (picks.findSome? fun c => k.exposed c.node rule.key) := by
  induction stepwise with
  | nil => simp [nodesWith]
  | append _ joins induction =>
      rw [joins.toFits.expected_append last, induction, List.findSome?_append,
        List.findSome?_singleton, Option.or_assoc]

/-- Whatever a pick exposes is what is expected of the picks after it. -/
theorem expected_of_exposed (stepwise : k.Stepwise picks)
    (last : lastOn k.filter.sameRules rule.key = some rule) (member : c ∈ picks) {value : String}
    (exposes : k.exposed c.node rule.key = some value) :
    k.expected (k.nodesWith picks) rule = some value := by
  induction stepwise with
  | nil => simp at member
  | @append picks d _ joins induction =>
      rw [joins.toFits.expected_append last]
      rcases List.mem_append.mp member with old | new
      · rw [induction old, Option.some_or]
      · obtain rfl : c = d := by simpa using new
        -- A value that was expected already is the one the pick had to expose to join.
        cases earlier : k.expected (k.nodesWith picks) rule with
        | none => rw [Option.none_or, exposes]
        | some other =>
            have met := Lookup.found_of_eq_ok (joins.toFits.met last earlier)
            rw [Option.some_or, ← exposes]
            exact met.symm

theorem expected_of_subset (stepwise : k.Stepwise picks) (others : k.Stepwise fewer)
    (subset : fewer ⊆ picks) (last : lastOn k.filter.sameRules rule.key = some rule)
    {value : String} (expected : k.expected (k.nodesWith fewer) rule = some value) :
    k.expected (k.nodesWith picks) rule = some value := by
  rw [others.expected_eq last, Option.or_eq_some_iff] at expected
  rcases expected with occupied | ⟨-, own⟩
  · rw [stepwise.expected_eq last, occupied, Option.some_or]
  -- The pick that fixed the value need not fix it among all picks, but there it conforms to it.
  · obtain ⟨c, member, exposes⟩ := List.exists_of_findSome?_eq_some own
    exact stepwise.expected_of_exposed last (subset member) exposes

theorem properties_of_occupied (stepwise : k.Stepwise picks)
    (last : lastOn k.filter.sameRules rule.key = some rule) {value : String}
    (expected : k.expected k.occupied.nodes rule = some value) (member : c ∈ picks) :
    k.properties c.node rule.key = .ok (some value) := by
  obtain ⟨before, after, -, own, joins⟩ := stepwise.exists_joins member
  apply joins.toFits.met last
  rw [own.expected_eq last, expected, Option.some_or]

/-- Where no value is expected at first, the picks that expose none come first, and the others all
expose the value of the first of them. -/
theorem exists_exposing_suffix (stepwise : k.Stepwise picks)
    (last : lastOn k.filter.sameRules rule.key = some rule)
    (unfixed : k.expected k.occupied.nodes rule = none) :
    ∃ before after, picks = before ++ after ∧
      (∀ c ∈ before, k.properties c.node rule.key = .ok none) ∧
      ((after = [] ∧ k.expected (k.nodesWith picks) rule = none) ∨
        ∃ value, k.expected (k.nodesWith picks) rule = some value ∧
          ∀ c ∈ after, k.properties c.node rule.key = .ok (some value)) := by
  induction stepwise with
  | nil => exact ⟨[], [], rfl, by simp, .inl ⟨rfl, unfixed⟩⟩
  | @append picks c stepwise joins induction =>
      have member : rule ∈ k.filter.sameRules := (lastOn_eq_some last).1
      have answer : k.properties c.node rule.key = .ok (k.exposed c.node rule.key) :=
        joins.answers (sound_anew stepwise.apart) (List.mem_append_left _ member)
      have expected_append := joins.toFits.expected_append last
      obtain ⟨before, after, rfl, silent, ⟨rfl, unfixed⟩ | ⟨value, fixed, agreeing⟩⟩ := induction
      · rw [unfixed, Option.none_or] at expected_append
        rw [List.append_nil] at expected_append ⊢
        cases exposes : k.exposed c.node rule.key with
        | none =>
            rw [exposes] at answer expected_append
            refine ⟨before ++ [c], [], by simp, ?_, .inl ⟨rfl, expected_append⟩⟩
            simpa [or_imp, forall_and] using ⟨silent, answer⟩
        | some value =>
            rw [exposes] at answer expected_append
            exact ⟨before, [c], rfl, silent, .inr ⟨value, expected_append, by simpa using answer⟩⟩
      · have met := joins.toFits.met last fixed
        rw [fixed, Option.some_or] at expected_append
        refine ⟨before, after ++ [c], by simp, silent, .inr ⟨value, expected_append, ?_⟩⟩
        simpa [or_imp, forall_and] using ⟨agreeing, met⟩

theorem fits_of_subset (stepwise : k.Stepwise picks) (others : k.Stepwise fewer)
    (subset : fewer ⊆ picks) (fits : k.Fits (k.anew picks).view c) :
    k.Fits (k.anew fewer).view c := by
  have nodes_subset (node : String) (used : node ∈ k.nodesWith fewer) :
      node ∈ k.nodesWith picks := by
    rw [mem_nodesWith] at used ⊢
    exact used.imp_right fun ⟨d, member, equal⟩ => ⟨d, subset member, equal⟩
  constructor
  case node_free => exact fun used => fits.node_free (nodes_subset _ used)
  case backend_free =>
    intro name shared used
    apply fits.backend_free name shared
    change name ∈ k.sharedNamesWith picks
    rw [mem_sharedNamesWith]
    exact (mem_sharedNamesWith.mp used).imp_right
      fun ⟨d, member, equal⟩ => ⟨d, subset member, equal⟩
  case kinds_mix =>
    intro kind held
    apply fits.kinds_mix kind
    rw [mem_kinds_anew] at held ⊢
    exact held.imp_right fun ⟨d, member, equal⟩ => ⟨d, subset member, equal⟩
  -- The tables may hold less after fewer picks, but nothing else.
  case same_met =>
    intro key value entry
    change (k.anew fewer).same[key]? = _ at entry
    rw [same_anew, Option.map_eq_some_iff] at entry
    obtain ⟨rule, last, expected⟩ := entry
    obtain ⟨-, rfl⟩ := lastOn_eq_some last
    exact fits.met last (stepwise.expected_of_subset others subset last expected)
  case taken_free =>
    intro key values entry
    rw [Tracker.getElem?_taken_view, taken_anew, Option.map_map, Option.map_eq_some_iff] at entry
    obtain ⟨rule, last, rfl⟩ := entry
    obtain ⟨-, rfl⟩ := lastOn_eq_some last
    obtain ⟨found, answer, free⟩ := fits.unclaimed last
    refine ⟨found, answer, fun value exposed held => free value exposed ?_⟩
    rw [mem_claimed]
    exact (mem_claimed.mp held).imp_right
      fun ⟨node, used, exposes⟩ => ⟨node, nodes_subset node used, exposes⟩

theorem joins_of_subset (stepwise : k.Stepwise picks) (others : k.Stepwise fewer)
    (subset : fewer ⊆ picks) (joins : k.Joins (k.anew picks).view c) :
    k.Joins (k.anew fewer).view c where
  toFits := stepwise.fits_of_subset others subset joins.toFits
  open_answers key entry := by
    change (k.anew fewer).same[key]? = _ at entry
    rw [same_anew, Option.map_eq_some_iff] at entry
    obtain ⟨rule, last, -⟩ := entry
    obtain ⟨member, rfl⟩ := lastOn_eq_some last
    exact joins.answers (sound_anew stepwise.apart) (List.mem_append_left _ member)

/-- Of picks that joined one after another any may be left out: a value that a pick was held to goes
away only with all picks that expose it. -/
theorem of_sublist (stepwise : k.Stepwise picks) (sublist : fewer.Sublist picks) :
    k.Stepwise fewer := by
  induction stepwise generalizing fewer with
  | nil =>
      rw [List.sublist_nil.mp sublist]
      exact .nil
  | @append picks c stepwise joins induction =>
      -- The last pick is left out as well, or it joins fewer picks than it joined before.
      obtain ⟨front, back, rfl, frontSub, backSub⟩ := List.sublist_append_iff.mp sublist
      have others := induction frontSub
      rcases List.sublist_singleton.mp backSub with rfl | rfl
      · rwa [List.append_nil]
      · exact .append others (stepwise.joins_of_subset others frontSub.subset joins)

theorem rebuildable (stepwise : k.Stepwise picks) (ready : k.Rebuildable k.occupied.nodes) :
    k.Rebuildable (k.nodesWith picks) := by
  induction stepwise with
  | nil => exact ready
  | append stepwise joins induction =>
      rw [nodesWith_append]
      exact induction.insert joins.node_free
        fun rule member => joins.answers (sound_anew stepwise.apart) member

theorem unselect_eq (stepwise : k.Stepwise t.selection) (sound : k.Sound t)
    (ready : k.Rebuildable k.occupied.nodes) (member : c ∈ t.selection) :
    k.unselect t c = (k.rebuilt (withdraw t c), none) := by
  have left : k.Rebuildable (k.nodesWith (t.selection.erase c)) :=
    (stepwise.of_sublist List.erase_sublist).rebuildable ready
  have nodes_eq : (withdraw t c).nodes = k.nodesWith (t.selection.erase c) := by
    rw [nodesWith_erase sound.apart member, ← sound.nodes_eq]
    rfl
  rw [← nodes_eq] at left
  exact unselect_eq_ok_iff.mpr ⟨keepsSeed_withdraw sound member, left.rebuild_eq⟩

theorem exists_takeAll? (stepwise : k.Stepwise picks) :
    ∃ t, k.takeAll? (k.anew []) picks = some t ∧ t.view = (k.anew picks).view := by
  induction stepwise with
  | nil => exact ⟨k.anew [], rfl, rfl⟩
  | @append picks c _ joins induction =>
      obtain ⟨t, taken, view_eq⟩ := induction
      have next : k.take? t c = some (k.joined t c) :=
        take?_eq_some_iff_joins.mpr ⟨view_eq ▸ joins, rfl⟩
      refine ⟨k.joined t c, ?_, ?_⟩
      · rw [takeAll?_append, taken, Option.bind_some, takeAll?, next]
        rfl
      · rw [view_joined, view_eq]
        exact withJoined_anew joins.toFits

theorem of_take? (stepwise : k.Stepwise t.selection) (sound : k.Sound t)
    (taken : k.take? t c = some t') : k.Stepwise t'.selection := by
  rw [selection_of_take? taken]
  exact .append stepwise (sound.view_eq ▸ (take?_eq_some_iff_joins.mp taken).1)

theorem of_takeAll? (stepwise : k.Stepwise t.selection) (sound : k.Sound t)
    (taken : k.takeAll? t picks = some t') : k.Stepwise t'.selection := by
  induction picks generalizing t with
  | nil =>
      obtain rfl : t = t' := by simpa [takeAll?] using taken
      exact stepwise
  | cons c rest induction =>
      obtain ⟨next, first, others⟩ := Option.bind_eq_some_iff.mp taken
      exact induction (stepwise.of_take? sound first) (sound_of_take? sound first) others

end Stepwise

theorem stepwise_iff_isSome_takeAll? :
    k.Stepwise picks ↔ (k.takeAll? (k.anew []) picks).isSome = true := by
  constructor
  · intro stepwise
    obtain ⟨t, taken, -⟩ := stepwise.exists_takeAll?
    rw [taken]
    rfl
  · intro some
    obtain ⟨t, taken⟩ := Option.isSome_iff_exists.mp some
    have selection_eq : t.selection = picks := selection_of_takeAll? taken
    rw [← selection_eq]
    exact Stepwise.of_takeAll? .nil (sound_anew apart_nil) taken

end Constraints

end ReplicaPlacement
