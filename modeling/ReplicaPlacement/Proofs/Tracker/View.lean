import ReplicaPlacement.Proofs.Tracker.Operations
import Mathlib.Data.Multiset.AddSub

namespace ReplicaPlacement

/-- A tracker up to the order in which kinds and taken values came. -/
structure View where
  nodes : NameSet
  sharedNames : NameSet
  kinds : Multiset ProviderKind
  selection : List Candidate
  same : NameMap (Option String)
  taken : NameMap (Multiset String)

def Tracker.view (t : Tracker) : View where
  nodes := t.nodes
  sharedNames := t.sharedNames
  kinds := t.kinds
  selection := t.selection
  same := t.same
  taken := t.taken.map fun _ => Multiset.ofList

theorem Tracker.getElem?_taken_view (t : Tracker) (key : String) :
    t.view.taken[key]? = t.taken[key]?.map Multiset.ofList :=
  Std.ExtTreeMap.getElem?_map

namespace Constraints

variable (k : Constraints)

structure Fits (v : View) (c : Candidate) : Prop where
  node_free : c.node ∉ v.nodes
  backend_free : ∀ name, c.sharedName = some name → name ∉ v.sharedNames
  kinds_mix : ∀ kind ∈ v.kinds, k.mixing c.kind kind = true
  same_met : ∀ key expected, v.same[key]? = some (some expected) →
    k.properties c.node key = .ok (some expected)
  taken_free : ∀ key values, v.taken[key]? = some values →
    ∃ found, k.properties c.node key = .ok found ∧ ∀ value ∈ found, value ∉ values

/-- A candidate that joins also has to answer on the keys for which it may fix the value. -/
structure Joins (v : View) (c : Candidate) : Prop extends k.Fits v c where
  open_answers : ∀ key, v.same[key]? = some none → Lookup.Answers (k.properties c.node) key

def withJoined (v : View) (c : Candidate) : View where
  nodes := v.nodes.insert c.node
  sharedNames := c.sharedName.elim v.sharedNames v.sharedNames.insert
  kinds := v.kinds + {c.kind}
  selection := v.selection ++ [c]
  same := v.same.map fun key expected => expected.or (k.exposed c.node key)
  taken := v.taken.map fun key values => values + (k.exposed c.node key).toList

variable {k} {t t' u : Tracker} {c : Candidate}

theorem view_joined (t : Tracker) (c : Candidate) :
    (k.joined t c).view = k.withJoined t.view c := by
  simp only [Tracker.view, joined, withJoined, View.mk.injEq, true_and]
  refine ⟨(Multiset.coe_add _ _).symm, ?_⟩
  rw [Std.ExtTreeMap.map_map, Std.ExtTreeMap.map_map]
  rfl

theorem objection?_eq_none_iff :
    k.objection? t c = none ↔
      c.node ∉ t.nodes ∧ (∀ name, c.sharedName = some name → name ∉ t.sharedNames) ∧
        ∀ kind ∈ t.kinds, k.mixing c.kind kind = true := by
  unfold objection? sharedNameTaken
  by_cases node : c.node ∈ t.nodes
  · simp [node]
  · cases shared : c.sharedName with
    | none => simp [node]
    | some name =>
        by_cases backend : name ∈ t.sharedNames
        · simp [node, backend, Option.filter]
        · simp [node, backend, Option.filter]

theorem sameObjection?_eq_none_iff {lookup : Lookup} {entries : List (String × Option String)} :
    sameObjection? lookup entries = .ok none ↔
      ∀ key expected, (key, some expected) ∈ entries → lookup key = .ok (some expected) := by
  induction entries with
  | nil => simp [sameObjection?]
  | cons entry rest induction =>
      obtain ⟨key, value⟩ := entry
      cases value with
      | none => simpa [sameObjection?] using induction
      | some expected =>
          simp only [sameObjection?, List.mem_cons, Prod.mk.injEq, Option.some.injEq]
          constructor
          · intro run
            cases answer : lookup key with
            | error e => simp [answer, bind, Except.bind] at run
            | ok actual =>
                by_cases equality : actual = some expected
                · have others := induction.mp
                    (by simpa [answer, equality, bind, Except.bind] using run)
                  rintro other value (⟨rfl, rfl⟩ | member)
                  · rw [answer, equality]
                  · exact others other value member
                · simp [answer, equality, bind, Except.bind, pure, Except.pure] at run
          · intro met
            rw [met key expected (.inl ⟨rfl, rfl⟩)]
            simpa [bind, Except.bind] using
              induction.mpr fun other value member => met other value (.inr member)

theorem takenObjection?_eq_none_iff {lookup : Lookup} {entries : List (String × List String)} :
    takenObjection? lookup entries = .ok none ↔
      ∀ key values, (key, values) ∈ entries →
        ∃ found, lookup key = .ok found ∧ ∀ value ∈ found, value ∉ values := by
  induction entries with
  | nil => simp [takenObjection?]
  | cons entry rest induction =>
      obtain ⟨key, values⟩ := entry
      simp only [takenObjection?, List.mem_cons, Prod.mk.injEq]
      constructor
      · intro run
        cases answer : lookup key with
        | error e => simp [answer, bind, Except.bind] at run
        | ok found =>
            have free : (∀ value ∈ found, value ∉ values) ∧
                takenObjection? lookup rest = .ok none := by
              cases found with
              | none => simpa [answer, bind, Except.bind] using run
              | some value =>
                  by_cases held : value ∈ values
                  · simp [answer, held, bind, Except.bind, pure, Except.pure] at run
                  · simpa [answer, held, bind, Except.bind] using run
            rintro other others (⟨rfl, rfl⟩ | member)
            · exact ⟨found, answer, free.1⟩
            · exact induction.mp free.2 other others member
      · intro free
        obtain ⟨found, answer, unheld⟩ := free key values (.inl ⟨rfl, rfl⟩)
        have others := induction.mpr fun other others member => free other others (.inr member)
        cases found with
        | none => simpa [answer, bind, Except.bind] using others
        | some value => simpa [answer, unheld value rfl, bind, Except.bind] using others

theorem rejection?_eq_none_iff :
    k.rejection? t c = .ok none ↔
      k.objection? t c = none ∧ sameObjection? (k.properties c.node) t.same.toList = .ok none ∧
        takenObjection? (k.properties c.node) t.taken.toList = .ok none := by
  unfold rejection?
  cases k.objection? t c with
  | some r => simp
  | none =>
      cases same : sameObjection? (k.properties c.node) t.same.toList with
      | error e => simp [bind, Except.bind]
      | ok r => cases r <;> simp [bind, Except.bind, pure, Except.pure]

theorem admissible_eq_ok_iff {b : Bool} :
    k.admissible t c = .ok b ↔ ∃ r, k.rejection? t c = .ok r ∧ r.isNone = b := by
  unfold admissible
  cases k.rejection? t c <;> simp [bind, Except.bind, pure, Except.pure]

theorem admissible_iff_fits : k.admissible t c = .ok true ↔ k.Fits t.view c := by
  have admissible_iff : k.admissible t c = .ok true ↔ k.rejection? t c = .ok none := by
    rw [admissible_eq_ok_iff]
    simp
  rw [admissible_iff, rejection?_eq_none_iff, objection?_eq_none_iff, sameObjection?_eq_none_iff,
    takenObjection?_eq_none_iff]
  constructor
  · rintro ⟨⟨node, backend, kinds⟩, same, taken⟩
    refine ⟨node, backend, kinds, ?_, ?_⟩
    · intro key expected entry
      exact same key expected (Std.ExtTreeMap.mem_toList_iff_getElem?_eq_some.mpr entry)
    · intro key values entry
      rw [Tracker.getElem?_taken_view, Option.map_eq_some_iff] at entry
      obtain ⟨list, entry, rfl⟩ := entry
      exact taken key list (Std.ExtTreeMap.mem_toList_iff_getElem?_eq_some.mpr entry)
  · intro fits
    refine ⟨⟨fits.node_free, fits.backend_free, fits.kinds_mix⟩, ?_, ?_⟩
    · intro key expected member
      exact fits.same_met key expected (Std.ExtTreeMap.mem_toList_iff_getElem?_eq_some.mp member)
    · intro key values member
      have entry := Std.ExtTreeMap.mem_toList_iff_getElem?_eq_some.mp member
      exact fits.taken_free key values (by rw [Tracker.getElem?_taken_view, entry]; rfl)

theorem exists_sameObjection? {lookup : Lookup} {entries : List (String × Option String)}
    (answers : ∀ entry ∈ entries, lookup.Answers entry.1) :
    ∃ r, sameObjection? lookup entries = .ok r := by
  induction entries with
  | nil => exact ⟨none, rfl⟩
  | cons entry rest induction =>
      obtain ⟨key, value⟩ := entry
      obtain ⟨r, others⟩ := induction fun other member => answers other (by simp [member])
      cases value with
      | none => exact ⟨r, others⟩
      | some expected =>
          have answer : lookup key = .ok (lookup.found key) :=
            answers (key, some expected) (by simp)
          simp only [sameObjection?, answer, bind, Except.bind]
          split
          · exact ⟨r, others⟩
          · exact ⟨_, rfl⟩

theorem exists_takenObjection? {lookup : Lookup} {entries : List (String × List String)}
    (answers : ∀ entry ∈ entries, lookup.Answers entry.1) :
    ∃ r, takenObjection? lookup entries = .ok r := by
  induction entries with
  | nil => exact ⟨none, rfl⟩
  | cons entry rest induction =>
      obtain ⟨key, values⟩ := entry
      obtain ⟨r, others⟩ := induction fun other member => answers other (by simp [member])
      have answer : lookup key = .ok (lookup.found key) := answers (key, values) (by simp)
      simp only [takenObjection?, answer, bind, Except.bind]
      cases lookup.found key with
      | none => exact ⟨r, others⟩
      | some value =>
          dsimp only
          split
          · exact ⟨_, rfl⟩
          · exact ⟨r, others⟩

theorem exists_admissible (same : ∀ key ∈ t.same, Lookup.Answers (k.properties c.node) key)
    (taken : ∀ key ∈ t.taken, Lookup.Answers (k.properties c.node) key) :
    ∃ b, k.admissible t c = .ok b := by
  have sameAnswers : ∀ entry ∈ t.same.toList, Lookup.Answers (k.properties c.node) entry.1 :=
    fun entry member => same entry.1 (mem_of_mem_toList member)
  have takenAnswers : ∀ entry ∈ t.taken.toList, Lookup.Answers (k.properties c.node) entry.1 :=
    fun entry member => taken entry.1 (mem_of_mem_toList member)
  obtain ⟨first, sameRun⟩ := exists_sameObjection? sameAnswers
  obtain ⟨second, takenRun⟩ := exists_takenObjection? takenAnswers
  unfold admissible rejection?
  cases k.objection? t c with
  | some r => exact ⟨_, rfl⟩
  | none =>
      simp only [sameRun, takenRun, bind, Except.bind]
      cases first <;> exact ⟨_, rfl⟩

theorem takenObjection?_congr {lookup : Lookup} {entries others : List (String × List String)}
    (alike : entries.map (fun e => (e.1, Multiset.ofList e.2)) =
      others.map fun e => (e.1, Multiset.ofList e.2)) :
    takenObjection? lookup entries = takenObjection? lookup others := by
  induction entries generalizing others with
  | nil =>
      obtain rfl : others = [] := by simpa using alike.symm
      rfl
  | cons entry rest induction =>
      cases others with
      | nil => simp at alike
      | cons other remaining =>
          obtain ⟨key, values⟩ := entry
          obtain ⟨otherKey, otherValues⟩ := other
          simp only [List.map_cons, List.cons.injEq, Prod.mk.injEq, Multiset.coe_eq_coe] at alike
          obtain ⟨⟨rfl, permutation⟩, alike⟩ := alike
          simp only [takenObjection?, permutation.mem_iff, induction alike]

theorem admissible_congr (nodes : t.nodes = u.nodes) (sharedNames : t.sharedNames = u.sharedNames)
    (kinds : t.kinds.Perm u.kinds) (same : t.same = u.same)
    (taken : t.view.taken = u.view.taken) (c : Candidate) :
    k.admissible t c = k.admissible u c := by
  have unopposed : k.objection? t c = none ↔ k.objection? u c = none := by
    rw [objection?_eq_none_iff, objection?_eq_none_iff, nodes, sharedNames]
    simp only [kinds.mem_iff]
  have entries_alike := congrArg Std.ExtTreeMap.toList taken
  simp only [Tracker.view, Std.ExtTreeMap.toList_map] at entries_alike
  unfold admissible rejection?
  rw [same, takenObjection?_congr entries_alike]
  cases first : k.objection? t c with
  | none => rw [unopposed.mp first]
  | some r =>
      cases second : k.objection? u c with
      | none => rw [unopposed.mpr second] at first; contradiction
      | some r' => rfl

variable (k) in
def take? (t : Tracker) (c : Candidate) : Option Tracker :=
  match k.admissible t c, k.select t c with
  | .ok true, (t', none) => some t'
  | _, _ => none

variable (k) in
def takeAll? : Tracker → List Candidate → Option Tracker
  | t, [] => some t
  | t, c :: rest => (k.take? t c).bind fun t' => takeAll? t' rest

theorem takeAll?_append (t : Tracker) (picks others : List Candidate) :
    k.takeAll? t (picks ++ others) =
      (k.takeAll? t picks).bind fun t' => k.takeAll? t' others := by
  induction picks generalizing t with
  | nil => rfl
  | cons c rest induction =>
      rw [List.cons_append, takeAll?, takeAll?, Option.bind_assoc]
      simp only [induction]

theorem Fits.answers_taken (fits : k.Fits t.view c) {key : String} (held : key ∈ t.taken) :
    Lookup.Answers (k.properties c.node) key := by
  obtain ⟨values, entry⟩ := Option.isSome_iff_exists.mp
    (Std.ExtTreeMap.mem_iff_isSome_getElem?.mp held)
  have shown : t.view.taken[key]? = some ↑values := by
    rw [Tracker.getElem?_taken_view, entry, Option.map_some]
  obtain ⟨found, answer, -⟩ := fits.taken_free key values shown
  exact Lookup.answers_of_eq_ok answer

theorem take?_eq_some_iff :
    k.take? t c = some t' ↔ k.admissible t c = .ok true ∧ k.select t c = (t', none) := by
  unfold take?
  split
  next admitted run => simp [admitted, run]
  next rejected =>
    constructor
    · exact nofun
    · rintro ⟨admitted, run⟩
      exact (rejected t' admitted run).elim

theorem take?_eq_some_iff_joins :
    k.take? t c = some t' ↔ k.Joins t.view c ∧ t' = k.joined t c := by
  rw [take?_eq_some_iff, admissible_iff_fits]
  constructor
  · rintro ⟨fits, run⟩
    exact ⟨⟨fits, fun key unfixed => answers_of_select run unfixed⟩, eq_joined_of_select run⟩
  · rintro ⟨joins, rfl⟩
    exact ⟨joins.toFits,
      select_of_answers joins.open_answers fun _ held => joins.toFits.answers_taken held⟩

theorem view_of_take? (taken : k.take? t c = some t') : t'.view = k.withJoined t.view c := by
  rw [(take?_eq_some_iff_joins.mp taken).2, view_joined]

theorem selection_of_take? (taken : k.take? t c = some t') :
    t'.selection = t.selection ++ [c] := by
  rw [(take?_eq_some_iff_joins.mp taken).2]
  rfl

theorem selection_of_takeAll? {picks : List Candidate} (taken : k.takeAll? t picks = some t') :
    t'.selection = t.selection ++ picks := by
  induction picks generalizing t with
  | nil =>
      obtain rfl : t = t' := by simpa [takeAll?] using taken
      exact (List.append_nil _).symm
  | cons c rest induction =>
      obtain ⟨next, first, others⟩ := Option.bind_eq_some_iff.mp taken
      rw [induction others, selection_of_take? first, List.append_assoc, List.singleton_append]

theorem takeAll?_of_view_eq (equality : t.view = u.view) {picks : List Candidate}
    (taken : k.takeAll? t picks = some t') :
    ∃ u', k.takeAll? u picks = some u' ∧ t'.view = u'.view := by
  induction picks generalizing t u with
  | nil =>
      obtain rfl : t = t' := by simpa [takeAll?] using taken
      exact ⟨u, rfl, equality⟩
  | cons c rest induction =>
      obtain ⟨next, first, others⟩ := Option.bind_eq_some_iff.mp taken
      have joins := (take?_eq_some_iff_joins.mp first).1
      have otherFirst : k.take? u c = some (k.joined u c) :=
        take?_eq_some_iff_joins.mpr ⟨equality ▸ joins, rfl⟩
      have alike : next.view = (k.joined u c).view := by
        rw [view_of_take? first, view_joined, equality]
      obtain ⟨u', otherTaken, result⟩ := induction alike others
      exact ⟨u', by rw [takeAll?, otherFirst, Option.bind_some, otherTaken], result⟩

theorem isSome_takeAll?_congr (equality : t.view = u.view) (picks : List Candidate) :
    (k.takeAll? t picks).isSome = (k.takeAll? u picks).isSome := by
  rw [Bool.eq_iff_iff, Option.isSome_iff_exists, Option.isSome_iff_exists]
  constructor
  · rintro ⟨t', taken⟩
    obtain ⟨u', otherTaken, -⟩ := takeAll?_of_view_eq equality taken
    exact ⟨u', otherTaken⟩
  · rintro ⟨u', taken⟩
    obtain ⟨t', otherTaken, -⟩ := takeAll?_of_view_eq equality.symm taken
    exact ⟨t', otherTaken⟩

end Constraints

end ReplicaPlacement
