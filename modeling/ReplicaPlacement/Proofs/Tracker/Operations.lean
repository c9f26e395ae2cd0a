import ReplicaPlacement.Proofs.Tracker.Tables

namespace ReplicaPlacement

namespace Lookup

def found (lookup : Lookup) (x : String) : Option String :=
  match lookup x with
  | .ok v => v
  | .error _ => none

def Answers (lookup : Lookup) (x : String) : Prop := lookup x = .ok (lookup.found x)

variable {lookup : Lookup} {xs : List String}

theorem found_of_eq_ok {x : String} {v : Option String} (answer : lookup x = .ok v) :
    lookup.found x = v := by
  simp [found, answer]

theorem answers_of_eq_ok {x : String} {v : Option String} (answer : lookup x = .ok v) :
    lookup.Answers x := by
  rw [Answers, found_of_eq_ok answer, answer]

theorem first_of_answers (answers : ∀ x ∈ xs, lookup.Answers x) :
    lookup.first xs = .ok (xs.findSome? lookup.found) := by
  induction xs with
  | nil => rfl
  | cons x xs induction =>
      have rest := induction fun y member => answers y (by simp [member])
      have head : lookup x = .ok (lookup.found x) := answers x (by simp)
      simp only [first, List.findSome?_cons]
      rw [head, rest]
      cases lookup.found x <;> rfl

theorem eq_findSome?_of_first {v : Option String} (run : lookup.first xs = .ok v) :
    v = xs.findSome? lookup.found := by
  induction xs with
  | nil => simpa [first] using run.symm
  | cons x xs induction =>
      simp only [first] at run
      cases answer : lookup x with
      | error e => simp [answer, bind, Except.bind] at run
      | ok value =>
          rw [List.findSome?_cons, found_of_eq_ok answer]
          cases value with
          | none => exact induction (by simpa [answer, bind, Except.bind] using run)
          | some w => simpa [answer, bind, Except.bind, pure, Except.pure] using run.symm

theorem values_of_answers (answers : ∀ x ∈ xs, lookup.Answers x) :
    lookup.values xs = .ok (xs.filterMap lookup.found) := by
  induction xs with
  | nil => rfl
  | cons x xs induction =>
      have rest := induction fun y member => answers y (by simp [member])
      have head : lookup x = .ok (lookup.found x) := answers x (by simp)
      simp only [values, List.filterMap_cons]
      rw [head, rest]
      cases lookup.found x <;> rfl

theorem values_cons_eq_ok_iff {x : String} {vs : List String} :
    lookup.values (x :: xs) = .ok vs ↔
      ∃ found others, lookup x = .ok found ∧ lookup.values xs = .ok others ∧
        vs = found.toList ++ others := by
  rw [values]
  cases lookup x with
  | error e => simp [bind, Except.bind]
  | ok found =>
      cases lookup.values xs <;> simp [bind, Except.bind, pure, Except.pure, eq_comm]

theorem eq_filterMap_of_values {vs : List String} (run : lookup.values xs = .ok vs) :
    vs = xs.filterMap lookup.found := by
  induction xs generalizing vs with
  | nil => simpa [values] using run.symm
  | cons x xs induction =>
      obtain ⟨found, others, answer, rest, rfl⟩ := values_cons_eq_ok_iff.mp run
      rw [List.filterMap_cons, found_of_eq_ok answer, ← induction rest]
      cases found <;> rfl

theorem answers_of_values {vs : List String} (run : lookup.values xs = .ok vs) :
    ∀ x ∈ xs, lookup.Answers x := by
  induction xs generalizing vs with
  | nil => simp
  | cons x xs induction =>
      obtain ⟨found, others, answer, rest, -⟩ := values_cons_eq_ok_iff.mp run
      intro y member
      rcases List.mem_cons.mp member with rfl | member
      · exact answers_of_eq_ok answer
      · exact induction rest y member

variable {x : String} {before after : List String}

theorem exists_first_insert (answer : lookup.Answers x) {v : Option String}
    (run : lookup.first (before ++ after) = .ok v) :
    ∃ w, lookup.first (before ++ x :: after) = .ok w := by
  induction before with
  | nil =>
      have head : lookup x = .ok (lookup.found x) := answer
      rw [List.nil_append, first, head]
      cases lookup.found x with
      | none => exact ⟨v, run⟩
      | some w => exact ⟨some w, rfl⟩
  | cons y before induction =>
      rw [List.cons_append, first] at run ⊢
      cases answered : lookup y with
      | error e => simp [answered, bind, Except.bind] at run
      | ok found =>
          rw [answered] at run
          cases found with
          | none => exact induction run
          | some w => exact ⟨some w, rfl⟩

theorem exists_values_insert (answer : lookup.Answers x) {vs : List String}
    (run : lookup.values (before ++ after) = .ok vs) :
    ∃ ws, lookup.values (before ++ x :: after) = .ok ws := by
  induction before generalizing vs with
  | nil => exact ⟨_, values_cons_eq_ok_iff.mpr ⟨_, vs, answer, run, rfl⟩⟩
  | cons y before induction =>
      obtain ⟨found, others, answered, rest, -⟩ := values_cons_eq_ok_iff.mp run
      obtain ⟨ws, inserted⟩ := induction rest
      exact ⟨_, values_cons_eq_ok_iff.mpr ⟨found, ws, answered, inserted, rfl⟩⟩

end Lookup

section

variable {σ α ε : Type} {step : σ → α → Except ε σ} {f : σ → α → σ}

theorem eq_foldl_of_runAll (steps : ∀ s a s', step s a = .ok s' → s' = f s a) {s s' : σ}
    {items : List α} (run : runAll step s items = (s', none)) : s' = items.foldl f s := by
  induction items generalizing s with
  | nil => simpa [runAll] using run.symm
  | cons a rest induction =>
      unfold runAll at run
      cases taken : step s a with
      | error e => simp [taken] at run
      | ok next =>
          rw [List.foldl_cons, ← steps s a next taken]
          exact induction (by simpa [taken] using run)

theorem exists_step_of_runAll {s s' : σ} {items : List α} (run : runAll step s items = (s', none)) :
    ∀ a ∈ items, ∃ before after, step before a = .ok after := by
  induction items generalizing s with
  | nil => simp
  | cons a rest induction =>
      unfold runAll at run
      cases taken : step s a with
      | error e => simp [taken] at run
      | ok next =>
          intro b member
          rcases List.mem_cons.mp member with rfl | member
          · exact ⟨s, next, taken⟩
          · exact induction (by simpa [taken] using run) b member

theorem runAll_of_ok (s : σ) {items : List α}
    (steps : ∀ s, ∀ a ∈ items, step s a = .ok (f s a)) :
    runAll step s items = (items.foldl f s, none) := by
  induction items generalizing s with
  | nil => rfl
  | cons a rest induction =>
      rw [runAll, steps s a (by simp)]
      exact induction _ fun s b member => steps s b (by simp [member])

end

namespace Constraints

variable (k : Constraints)

def exposed (node key : String) : Option String := Lookup.found (k.properties node) key

def expected (nodes : NameSet) (rule : PropertyRule) : Option String :=
  rule.value.or (nodes.toList.findSome? (k.exposed · rule.key))

def claimed (nodes : NameSet) (rule : PropertyRule) : List String :=
  rule.value.toList ++ nodes.toList.filterMap (k.exposed · rule.key)

def rebuilt (t : Tracker) : Tracker :=
  { t with
    same := ruleTable k.filter.sameRules (k.expected t.nodes)
    taken := ruleTable k.filter.differentRules (k.claimed t.nodes) }

def Readable : Prop :=
  ∀ rule ∈ k.filter.sameRules ++ k.filter.differentRules, ∀ node,
    Lookup.Answers (k.properties node) rule.key

variable {k}

theorem exposed_eq_some_iff {node key value : String} :
    k.exposed node key = some value ↔ k.properties node key = .ok (some value) := by
  unfold exposed Lookup.found
  cases k.properties node key <;> simp

theorem exposed_eq_none_iff {node key : String} :
    k.exposed node key = none ↔ ∀ v, k.properties node key ≠ .ok (some v) := by
  simp only [Option.eq_none_iff_forall_ne_some, ne_eq, exposed_eq_some_iff]

theorem mem_claimed {nodes : NameSet} {rule : PropertyRule} {value : String} :
    value ∈ k.claimed nodes rule ↔
      rule.value = some value ∨ ∃ node ∈ nodes, k.exposed node rule.key = some value := by
  simp [claimed]

theorem addExpectation_eq {nodes : NameSet} {table table' : NameMap (Option String)}
    {rule : PropertyRule} (step : k.addExpectation nodes table rule = .ok table') :
    table' = table.insert rule.key (k.expected nodes rule) := by
  unfold addExpectation expectation at step
  unfold expected
  cases value : rule.value with
  | some v => simpa [value, bind, Except.bind, pure, Except.pure] using step.symm
  | none =>
      cases first : Lookup.first (k.properties · rule.key) nodes.toList with
      | error e => simp [value, first, bind, Except.bind] at step
      | ok v =>
          have found := Lookup.eq_findSome?_of_first first
          simp only [value, first, bind, Except.bind, pure, Except.pure, Except.ok.injEq] at step
          rw [← step, found]
          rfl

theorem addTaken_eq {nodes : NameSet} {table table' : NameMap (List String)}
    {rule : PropertyRule} (step : k.addTaken nodes table rule = .ok table') :
    table' = table.insert rule.key (k.claimed nodes rule) := by
  unfold addTaken takenValues at step
  unfold claimed
  cases values : Lookup.values (k.properties · rule.key) nodes.toList with
  | error e => simp [values, bind, Except.bind] at step
  | ok vs =>
      have found := Lookup.eq_filterMap_of_values values
      simp only [values, bind, Except.bind, pure, Except.pure, Except.ok.injEq] at step
      rw [← step, found]
      rfl

theorem eq_rebuilt_of_rebuild {t t' : Tracker} (run : k.rebuild t = (t', none)) :
    t' = k.rebuilt t := by
  unfold rebuild at run
  cases expectations : runAll (k.addExpectation t.nodes) ∅ k.filter.sameRules with
  | mk same failure =>
      cases failure with
      | some e => simp [expectations] at run
      | none =>
          cases values : runAll (k.addTaken t.nodes) ∅ k.filter.differentRules with
          | mk taken failure =>
              simp only [expectations, values, Prod.mk.injEq] at run
              obtain ⟨rfl, rfl⟩ := run
              rw [eq_foldl_of_runAll (fun _ _ _ => addExpectation_eq) expectations,
                eq_foldl_of_runAll (fun _ _ _ => addTaken_eq) values]
              rfl

variable (k) in
/-- The look-ups that rebuilding makes along the nodes in use are all answered. -/
structure Rebuildable (nodes : NameSet) : Prop where
  same : ∀ rule ∈ k.filter.sameRules, ∃ v, k.expectation nodes rule = .ok v
  different : ∀ rule ∈ k.filter.differentRules, ∃ vs, k.takenValues nodes rule = .ok vs

theorem rebuildable_of_rebuild {t t' : Tracker} (run : k.rebuild t = (t', none)) :
    k.Rebuildable t.nodes := by
  unfold rebuild at run
  cases expectations : runAll (k.addExpectation t.nodes) ∅ k.filter.sameRules with
  | mk same failure =>
      cases failure with
      | some e => simp [expectations] at run
      | none =>
          simp only [expectations, Prod.mk.injEq] at run
          have values : runAll (k.addTaken t.nodes) ∅ k.filter.differentRules = (_, none) :=
            Prod.ext rfl run.2
          constructor
          · intro rule member
            obtain ⟨before, after, step⟩ := exists_step_of_runAll expectations rule member
            unfold addExpectation at step
            cases expectation : k.expectation t.nodes rule with
            | error e => simp [expectation, bind, Except.bind] at step
            | ok v => exact ⟨v, rfl⟩
          · intro rule member
            obtain ⟨before, after, step⟩ := exists_step_of_runAll values rule member
            unfold addTaken at step
            cases taken : k.takenValues t.nodes rule with
            | error e => simp [taken, bind, Except.bind] at step
            | ok vs => exact ⟨vs, rfl⟩

theorem Rebuildable.rebuild_eq {t : Tracker} (ready : k.Rebuildable t.nodes) :
    k.rebuild t = (k.rebuilt t, none) := by
  have expectations (table : NameMap (Option String)) (rule) (member : rule ∈ k.filter.sameRules) :
      k.addExpectation t.nodes table rule =
        .ok (table.insert rule.key (k.expected t.nodes rule)) := by
    obtain ⟨v, answer⟩ := ready.same rule member
    have step : k.addExpectation t.nodes table rule = .ok (table.insert rule.key v) := by
      rw [addExpectation, answer]
      rfl
    rw [step, addExpectation_eq step]
  have values (table : NameMap (List String)) (rule) (member : rule ∈ k.filter.differentRules) :
      k.addTaken t.nodes table rule =
        .ok (table.insert rule.key (k.claimed t.nodes rule)) := by
    obtain ⟨vs, answer⟩ := ready.different rule member
    have step : k.addTaken t.nodes table rule = .ok (table.insert rule.key vs) := by
      rw [addTaken, answer]
      rfl
    rw [step, addTaken_eq step]
  unfold rebuild
  rw [runAll_of_ok _ expectations]
  simp only [runAll_of_ok _ values]
  rfl

theorem readable_of_answers (answers : ∀ node key, ∃ v, k.properties node key = .ok v) :
    k.Readable := by
  intro rule _ node
  obtain ⟨v, answer⟩ := answers node rule.key
  exact Lookup.answers_of_eq_ok answer

theorem Readable.rebuildable (readable : k.Readable) (nodes : NameSet) :
    k.Rebuildable nodes where
  same rule member := by
    unfold expectation
    cases rule.value with
    | some v => exact ⟨_, rfl⟩
    | none =>
        have answers (node) (_ : node ∈ nodes.toList) :=
          readable rule (List.mem_append_left _ member) node
        exact ⟨_, Lookup.first_of_answers answers⟩
  different rule member := by
    have answers (node) (_ : node ∈ nodes.toList) :=
      readable rule (List.mem_append_right _ member) node
    rw [takenValues, Lookup.values_of_answers answers]
    exact ⟨_, rfl⟩

theorem Rebuildable.insert {nodes : NameSet} {node : String} (ready : k.Rebuildable nodes)
    (fresh : node ∉ nodes)
    (answers : ∀ rule ∈ k.filter.sameRules ++ k.filter.differentRules,
      Lookup.Answers (k.properties node) rule.key) :
    k.Rebuildable (nodes.insert node) := by
  -- The node takes its place among the names, and look-ups go along them in this order.
  obtain ⟨before, after, list_eq, inserted⟩ := exists_toList_insert fresh
  constructor
  · intro rule member
    have answer : Lookup.Answers (k.properties · rule.key) node :=
      answers rule (List.mem_append_left _ member)
    obtain ⟨v, run⟩ := ready.same rule member
    unfold expectation at run ⊢
    cases value : rule.value with
    | some w => exact ⟨_, rfl⟩
    | none =>
        rw [value, list_eq] at run
        rw [inserted]
        exact Lookup.exists_first_insert answer run
  · intro rule member
    have answer : Lookup.Answers (k.properties · rule.key) node :=
      answers rule (List.mem_append_right _ member)
    obtain ⟨vs, run⟩ := ready.different rule member
    unfold takenValues at run ⊢
    rw [list_eq] at run
    cases values : Lookup.values (k.properties · rule.key) (before ++ after) with
    | error e => simp [values, bind, Except.bind] at run
    | ok found =>
        obtain ⟨others, inserting⟩ := Lookup.exists_values_insert answer values
        rw [inserted, inserting]
        exact ⟨_, rfl⟩

theorem Rebuildable.answers {nodes : NameSet} (ready : k.Rebuildable nodes) {rule : PropertyRule}
    (member : rule ∈ k.filter.differentRules) {node : String} (used : node ∈ nodes) :
    Lookup.Answers (k.properties node) rule.key := by
  obtain ⟨vs, run⟩ := ready.different rule member
  unfold takenValues at run
  cases values : Lookup.values (k.properties · rule.key) nodes.toList with
  | error e => simp [values, bind, Except.bind] at run
  | ok found => exact Lookup.answers_of_values values node (Std.ExtTreeSet.mem_toList.mpr used)

variable (k) in
def joined (t : Tracker) (c : Candidate) : Tracker where
  nodes := t.nodes.insert c.node
  sharedNames := c.sharedName.elim t.sharedNames t.sharedNames.insert
  kinds := t.kinds ++ [c.kind]
  selection := t.selection ++ [c]
  same := t.same.map fun key expected => expected.or (k.exposed c.node key)
  taken := t.taken.map fun key values => values ++ (k.exposed c.node key).toList

variable (k) in
def fixedEntry (node key : String) : Option String → Option (Option String)
  | none => some (k.exposed node key)
  | some _ => none

variable (k) in
def takenEntry (node key : String) (values : List String) : Option (List String) :=
  (k.exposed node key).map fun v => values ++ [v]

theorem fixExpectation_eq {node : String} {table table' : NameMap (Option String)}
    {entry : String × Option String} (step : k.fixExpectation node table entry = .ok table') :
    table' = changeEntry (k.fixedEntry node) table entry := by
  obtain ⟨key, expected⟩ := entry
  cases expected with
  | some v => simpa [fixExpectation, changeEntry, fixedEntry] using step.symm
  | none =>
      simp only [fixExpectation] at step
      cases answer : k.properties node key with
      | error e => simp [answer, bind, Except.bind] at step
      | ok v =>
          have found : k.exposed node key = v := Lookup.found_of_eq_ok answer
          simp only [answer, bind, Except.bind, pure, Except.pure, Except.ok.injEq] at step
          rw [← step, ← found]
          rfl

theorem takeValue_eq {node : String} {table table' : NameMap (List String)}
    {entry : String × List String} (step : k.takeValue node table entry = .ok table') :
    table' = changeEntry (k.takenEntry node) table entry := by
  obtain ⟨key, values⟩ := entry
  simp only [takeValue] at step
  cases answer : k.properties node key with
  | error e => simp [answer, bind, Except.bind] at step
  | ok v =>
      have found : k.exposed node key = v := Lookup.found_of_eq_ok answer
      simp only [changeEntry, takenEntry, found]
      cases v <;>
        simpa [answer, bind, Except.bind, pure, Except.pure] using step.symm

theorem foldl_fixedEntry (node : String) (table : NameMap (Option String)) :
    table.toList.foldl (changeEntry (k.fixedEntry node)) table =
      table.map fun key expected => expected.or (k.exposed node key) := by
  rw [foldl_changeEntry_toList]
  congr 1
  funext key expected
  cases expected <;> rfl

theorem foldl_takenEntry (node : String) (table : NameMap (List String)) :
    table.toList.foldl (changeEntry (k.takenEntry node)) table =
      table.map fun key values => values ++ (k.exposed node key).toList := by
  rw [foldl_changeEntry_toList]
  congr 1
  funext key values
  unfold takenEntry
  cases k.exposed node key <;> simp

theorem eq_joined_of_select {t t' : Tracker} {c : Candidate} (run : k.select t c = (t', none)) :
    t' = k.joined t c := by
  unfold select at run
  cases expectations : runAll (k.fixExpectation c.node) t.same t.same.toList with
  | mk same failure =>
      cases failure with
      | some e => simp [expectations] at run
      | none =>
          cases values : runAll (k.takeValue c.node) t.taken t.taken.toList with
          | mk taken failure =>
              cases failure with
              | some e => simp [expectations, values] at run
              | none =>
                  simp only [expectations, values, Prod.mk.injEq, and_true] at run
                  rw [← run, joined,
                    eq_foldl_of_runAll (fun _ _ _ => fixExpectation_eq) expectations,
                    eq_foldl_of_runAll (fun _ _ _ => takeValue_eq) values, foldl_fixedEntry,
                    foldl_takenEntry]

theorem select_of_answers {t : Tracker} {c : Candidate}
    (same : ∀ key, t.same[key]? = some none → Lookup.Answers (k.properties c.node) key)
    (taken : ∀ key ∈ t.taken, Lookup.Answers (k.properties c.node) key) :
    k.select t c = (k.joined t c, none) := by
  have expectations (table : NameMap (Option String)) (entry) (member : entry ∈ t.same.toList) :
      k.fixExpectation c.node table entry =
        .ok (changeEntry (k.fixedEntry c.node) table entry) := by
    obtain ⟨key, expected⟩ := entry
    cases expected with
    | some v => rfl
    | none =>
        have answer : k.properties c.node key = .ok (k.exposed c.node key) :=
          same key (Std.ExtTreeMap.mem_toList_iff_getElem?_eq_some.mp member)
        simp only [fixExpectation, answer]
        rfl
  have values (table : NameMap (List String)) (entry) (member : entry ∈ t.taken.toList) :
      k.takeValue c.node table entry = .ok (changeEntry (k.takenEntry c.node) table entry) := by
    obtain ⟨key, values⟩ := entry
    have answer : k.properties c.node key = .ok (k.exposed c.node key) :=
      taken key (mem_of_mem_toList member)
    simp only [takeValue, answer, changeEntry, takenEntry]
    cases k.exposed c.node key <;> rfl
  unfold select
  rw [runAll_of_ok _ expectations]
  simp only [runAll_of_ok _ values, foldl_fixedEntry, foldl_takenEntry]
  rfl

theorem answers_of_select {t t' : Tracker} {c : Candidate} (run : k.select t c = (t', none))
    {key : String} (unfixed : t.same[key]? = some none) :
    Lookup.Answers (k.properties c.node) key := by
  unfold select at run
  cases expectations : runAll (k.fixExpectation c.node) t.same t.same.toList with
  | mk same failure =>
      cases failure with
      | some e => simp [expectations] at run
      | none =>
          obtain ⟨before, after, step⟩ := exists_step_of_runAll expectations (key, none)
            (Std.ExtTreeMap.mem_toList_iff_getElem?_eq_some.mpr unfixed)
          simp only [fixExpectation] at step
          cases answer : k.properties c.node key with
          | error e => simp [answer, bind, Except.bind] at step
          | ok v => exact Lookup.answers_of_eq_ok answer

end Constraints

end ReplicaPlacement
