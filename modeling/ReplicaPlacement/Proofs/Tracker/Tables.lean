import ReplicaPlacement.Tracker
import Mathlib.Data.List.Induction
import Mathlib.Data.List.Nodup
import Mathlib.Data.List.Perm.Basic

namespace ReplicaPlacement

variable {α β : Type}

theorem nodup_toList (names : NameSet) : names.toList.Nodup := by
  apply names.distinct_toList.imp
  intro a b differ equal
  exact differ (Std.compare_eq_iff_eq.mpr equal)

theorem exists_toList_insert {names : NameSet} {name : String} (fresh : name ∉ names) :
    ∃ before after, names.toList = before ++ after ∧
      (names.insert name).toList = before ++ name :: after := by
  have member : name ∈ (names.insert name).toList := by simp
  obtain ⟨before, after, inserted⟩ := List.append_of_mem member
  refine ⟨before, after, ?_, inserted⟩
  have freshList : name ∉ names.toList := by simpa using fresh
  have permutation : (names.insert name).toList.Perm (name :: names.toList) := by
    rw [List.perm_ext_iff_of_nodup (nodup_toList _)
      (List.nodup_cons.mpr ⟨freshList, nodup_toList _⟩)]
    intro other
    rw [Std.ExtTreeSet.mem_toList, Std.ExtTreeSet.mem_insert, Std.compare_eq_iff_eq,
      List.mem_cons, Std.ExtTreeSet.mem_toList, eq_comm]
  have remaining : names.toList.Perm (before ++ after) := by
    rw [inserted] at permutation
    exact (List.perm_middle.symm.trans permutation).cons_inv.symm
  have sorted := (names.insert name).ordered_toList
  rw [inserted] at sorted
  have sublist : (before ++ after).Sublist (before ++ name :: after) :=
    List.Sublist.append_left (List.sublist_cons_self _ _) _
  apply remaining.eq_of_pairwise _ names.ordered_toList (sorted.sublist sublist)
  intro a b _ _ less greater
  rw [Std.OrientedCmp.gt_of_lt greater] at less
  exact absurd less (by decide)

theorem findSome?_toList_insert {names : NameSet} {name : String} {f : String → Option α}
    (fresh : name ∉ names) (agrees : ∀ v, names.toList.findSome? f = some v → f name = some v) :
    (names.insert name).toList.findSome? f = (names.toList.findSome? f).or (f name) := by
  obtain ⟨before, after, list_eq, inserted⟩ := exists_toList_insert fresh
  rw [list_eq, List.findSome?_append] at agrees
  rw [list_eq, inserted, List.findSome?_append, List.findSome?_append, List.findSome?_cons]
  cases first : before.findSome? f with
  | some v => simp
  | none =>
      cases second : after.findSome? f with
      | none => cases f name <;> simp
      | some v => simp [agrees v (by simp [first, second])]

theorem filterMap_toList_insert_perm {names : NameSet} {name : String} (f : String → Option α)
    (fresh : name ∉ names) :
    ((names.insert name).toList.filterMap f).Perm
      (names.toList.filterMap f ++ (f name).toList) := by
  obtain ⟨before, after, list_eq, inserted⟩ := exists_toList_insert fresh
  rw [list_eq, inserted]
  simp only [List.filterMap_append, List.filterMap_cons]
  cases f name with
  | none => simp
  | some v => simpa using List.perm_middle.trans (List.perm_append_singleton _ _).symm

theorem exists_least_of_findSome? {names : NameSet} {f : String → Option α} {v : α}
    (found : names.toList.findSome? f = some v) :
    ∃ name ∈ names, f name = some v ∧ ∀ other ∈ names, other < name → f other = none := by
  obtain ⟨before, name, after, list_eq, held, silent⟩ := List.findSome?_eq_some_iff.mp found
  refine ⟨name, ?_, held, ?_⟩
  · rw [← Std.ExtTreeSet.mem_toList, list_eq]
    simp
  · intro other member less
    rw [← Std.ExtTreeSet.mem_toList, list_eq, List.mem_append] at member
    have sorted := names.ordered_toList
    rw [list_eq, List.pairwise_append] at sorted
    rcases member with earlier | later
    · exact silent other earlier
    · rcases List.mem_cons.mp later with rfl | later
      · exact absurd less (String.lt_irrefl _)
      · have greater := compareOfLessAndEq_eq_lt.mp (List.rel_of_pairwise_cons sorted.2.1 later)
        exact absurd less (String.lt_asymm greater)

theorem findSome?_toList_eq_some_iff {names : NameSet} {f : String → Option α} {v : α} :
    names.toList.findSome? f = some v ↔
      ∃ name ∈ names, f name = some v ∧ ∀ other ∈ names, other < name → f other = none := by
  refine ⟨exists_least_of_findSome?, ?_⟩
  rintro ⟨name, member, held, least⟩
  have found : (names.toList.findSome? f).isSome = true := by
    rw [List.findSome?_isSome_iff]
    exact ⟨name, Std.ExtTreeSet.mem_toList.mpr member, by rw [held]; rfl⟩
  obtain ⟨w, first⟩ := Option.isSome_iff_exists.mp found
  obtain ⟨other, otherMember, otherHeld, otherLeast⟩ := exists_least_of_findSome? first
  have above : ¬ other < name := fun less => by simp [least other otherMember less] at otherHeld
  have below : ¬ name < other := fun less => by simp [otherLeast name member less] at held
  obtain rfl : name = other := String.le_antisymm above below
  rw [first, ← otherHeld, held]

theorem findSome?_eq_of_perm {f : β → Option α} {xs ys : List β}
    (permutation : xs.Perm ys)
    (agree : ∀ x ∈ xs, ∀ y ∈ xs, ∀ v w, f x = some v → f y = some w → v = w) :
    xs.findSome? f = ys.findSome? f := by
  induction permutation with
  | nil => rfl
  | cons x _ induction =>
      rw [List.findSome?_cons, List.findSome?_cons, induction fun a aMember b bMember =>
        agree a (by simp [aMember]) b (by simp [bMember])]
  | swap x y rest =>
      simp only [List.findSome?_cons]
      cases first : f x with
      | none => rfl
      | some v =>
          cases second : f y with
          | none => rfl
          | some w => rw [agree y (by simp) x (by simp) w v second first]
  | trans first _ firstInduction secondInduction =>
      rw [firstInduction agree, secondInduction fun a aMember b bMember =>
        agree a (first.mem_iff.mpr aMember) b (first.mem_iff.mpr bMember)]

theorem mem_of_mem_toList {table : NameMap α} {entry : String × α}
    (member : entry ∈ table.toList) : entry.1 ∈ table := by
  rw [Std.ExtTreeMap.mem_iff_isSome_getElem?,
    Std.ExtTreeMap.mem_toList_iff_getElem?_eq_some.mp member]
  rfl

/-- The table that holds for each key what its last rule says. -/
def ruleTable (rules : List PropertyRule) (entry : PropertyRule → α) : NameMap α :=
  rules.foldl (fun table rule => table.insert rule.key (entry rule)) ∅

def lastOn (rules : List PropertyRule) (key : String) : Option PropertyRule :=
  rules.reverse.find? (·.key == key)

theorem getElem?_ruleTable (rules : List PropertyRule) (entry : PropertyRule → α) (key : String) :
    (ruleTable rules entry)[key]? = (lastOn rules key).map entry := by
  induction rules using List.reverseRecOn with
  | nil => simp [ruleTable, lastOn]
  | append_singleton rules rule induction =>
      unfold ruleTable lastOn at *
      rw [List.foldl_append, List.foldl_cons, List.foldl_nil, Std.ExtTreeMap.getElem?_insert,
        induction, List.reverse_append, List.reverse_singleton, List.singleton_append,
        List.find?_cons]
      simp only [Std.compare_eq_iff_eq]
      split
      next equal => simp [equal]
      next differ => simp [beq_eq_false_iff_ne.mpr differ]

theorem lastOn_eq_some {rules : List PropertyRule} {key : String} {rule : PropertyRule}
    (last : lastOn rules key = some rule) : rule ∈ rules ∧ rule.key = key := by
  have member := List.mem_of_find?_eq_some last
  have equal := List.find?_some last
  exact ⟨by simpa using member, by simpa using equal⟩

theorem exists_lastOn {rules : List PropertyRule} {rule : PropertyRule} (member : rule ∈ rules) :
    ∃ last, lastOn rules rule.key = some last := by
  rw [← Option.isSome_iff_exists, lastOn, List.find?_isSome]
  exact ⟨rule, by simpa using member, by simp⟩

theorem lastOn_of_nodup {rules : List PropertyRule} (once : (rules.map (·.key)).Nodup)
    {rule : PropertyRule} (member : rule ∈ rules) : lastOn rules rule.key = some rule := by
  obtain ⟨last, found⟩ := exists_lastOn member
  obtain ⟨other, key_eq⟩ := lastOn_eq_some found
  rw [found, List.inj_on_of_nodup_map once other member key_eq]

theorem exists_of_mem_ruleTable {rules : List PropertyRule} {entry : PropertyRule → α}
    {key : String} (member : key ∈ ruleTable rules entry) : ∃ rule ∈ rules, rule.key = key := by
  rw [Std.ExtTreeMap.mem_iff_isSome_getElem?, getElem?_ruleTable, Option.isSome_map,
    Option.isSome_iff_exists] at member
  obtain ⟨rule, last⟩ := member
  exact ⟨rule, lastOn_eq_some last⟩

theorem ruleTable_congr {rules : List PropertyRule} {first second : PropertyRule → α}
    (agree : ∀ rule, lastOn rules rule.key = some rule → first rule = second rule) :
    ruleTable rules first = ruleTable rules second := by
  apply Std.ExtTreeMap.ext_getElem?
  intro key
  rw [getElem?_ruleTable, getElem?_ruleTable]
  cases last : lastOn rules key with
  | none => rfl
  | some rule =>
      have own := (lastOn_eq_some last).2
      exact congrArg some (agree rule (own ▸ last))

theorem map_ruleTable (rules : List PropertyRule) (entry : PropertyRule → α)
    (f : String → α → β) :
    (ruleTable rules entry).map f = ruleTable rules fun rule => f rule.key (entry rule) := by
  apply Std.ExtTreeMap.ext_getElem?
  intro key
  rw [Std.ExtTreeMap.getElem?_map, getElem?_ruleTable, getElem?_ruleTable]
  cases last : lastOn rules key with
  | none => rfl
  | some rule => simp [(lastOn_eq_some last).2]

def lastRules (rules : List PropertyRule) : List PropertyRule :=
  rules.filter fun rule => lastOn rules rule.key = some rule

theorem lastOn_lastRules (rules : List PropertyRule) (key : String) :
    lastOn (lastRules rules) key = lastOn rules key := by
  have kept : lastOn (lastRules rules) key = rules.reverse.find? fun rule =>
      decide (lastOn rules rule.key = some rule) && rule.key == key := by
    rw [lastOn, lastRules, ← List.filter_reverse, List.find?_filter]
    simp only [Bool.decide_and, Bool.decide_eq_true]
  rw [kept]
  cases last : lastOn rules key with
  | none =>
      rw [List.find?_eq_none]
      intro rule member
      simp [List.find?_eq_none.mp last rule member]
  | some rule =>
      obtain ⟨own, before, after, split, others⟩ := List.find?_eq_some_iff_append.mp last
      rw [List.find?_eq_some_iff_append]
      refine ⟨?_, before, after, split, fun other member => by simp [others other member]⟩
      rw [beq_iff_eq] at own
      simp [own, last]

theorem ruleTable_lastRules (rules : List PropertyRule) (entry : PropertyRule → α) :
    ruleTable (lastRules rules) entry = ruleTable rules entry := by
  apply Std.ExtTreeMap.ext_getElem?
  intro key
  rw [getElem?_ruleTable, getElem?_ruleTable, lastOn_lastRules]

def changeEntry (change : String → α → Option α) (table : NameMap α) (entry : String × α) :
    NameMap α :=
  match change entry.1 entry.2 with
  | none => table
  | some v => table.insert entry.1 v

theorem getElem?_foldl_changeEntry_of_not_mem {change : String → α → Option α} {key : String}
    {entries : List (String × α)} (table : NameMap α) (absent : ∀ v, (key, v) ∉ entries) :
    (entries.foldl (changeEntry change) table)[key]? = table[key]? := by
  induction entries generalizing table with
  | nil => rfl
  | cons entry rest induction =>
      have differ : entry.1 ≠ key := by
        rintro rfl
        exact absent entry.2 (by simp)
      rw [List.foldl_cons, induction _ (fun v member => absent v (by simp [member]))]
      unfold changeEntry
      split
      · rfl
      · rw [Std.ExtTreeMap.getElem?_insert, if_neg (by simpa using differ)]

theorem getElem?_foldl_changeEntry_of_mem {change : String → α → Option α} {key : String} {v : α}
    {entries : List (String × α)} (table : NameMap α)
    (distinct : entries.Pairwise fun a b => a.1 ≠ b.1) (member : (key, v) ∈ entries)
    (held : table[key]? = some v) :
    (entries.foldl (changeEntry change) table)[key]? = some ((change key v).getD v) := by
  induction entries generalizing table with
  | nil => simp at member
  | cons entry rest induction =>
      obtain ⟨heads, tails⟩ := List.pairwise_cons.mp distinct
      rw [List.foldl_cons]
      rcases List.mem_cons.mp member with rfl | member
      · rw [getElem?_foldl_changeEntry_of_not_mem _ fun w found => heads _ found rfl]
        cases changed : change key v with
        | none => simp [changeEntry, changed, held]
        | some w => simp [changeEntry, changed]
      · apply induction _ tails member
        have differ : entry.1 ≠ key := heads _ member
        unfold changeEntry
        split
        · exact held
        · rwa [Std.ExtTreeMap.getElem?_insert, if_neg (by simpa using differ)]

theorem distinct_keys (table : NameMap α) : table.toList.Pairwise fun a b => a.1 ≠ b.1 := by
  apply table.distinct_keys_toList.imp
  intro a b differ equal
  exact differ (Std.compare_eq_iff_eq.mpr equal)

theorem foldl_changeEntry_toList (change : String → α → Option α) (table : NameMap α) :
    table.toList.foldl (changeEntry change) table =
      table.map fun key v => (change key v).getD v := by
  apply Std.ExtTreeMap.ext_getElem?
  intro key
  rw [Std.ExtTreeMap.getElem?_map]
  cases held : table[key]? with
  | none =>
      rw [getElem?_foldl_changeEntry_of_not_mem, held]
      · rfl
      · intro v member
        rw [Std.ExtTreeMap.mem_toList_iff_getElem?_eq_some, held] at member
        contradiction
  | some v =>
      exact getElem?_foldl_changeEntry_of_mem table (distinct_keys table)
        (Std.ExtTreeMap.mem_toList_iff_getElem?_eq_some.mpr held) held

end ReplicaPlacement
