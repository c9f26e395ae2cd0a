import ReplicaPlacement.Cluster
import ReplicaPlacement.Proofs.Search.Matching
import ReplicaPlacement.Proofs.Selection.Select

namespace ReplicaPlacement

namespace Constraints

variable {k : Constraints} {picks : List Candidate} {c : Candidate} {rule : PropertyRule}
variable {value : String}

theorem expected_of_value (named : rule.value = some value) (nodes : NameSet) :
    k.expected nodes rule = some value := by
  rw [expected, named, Option.some_or]

theorem Stepwise.honours_same (stepwise : k.Stepwise picks)
    (last : lastOn k.filter.sameRules rule.key = some rule) (named : rule.value = some value)
    (member : c ∈ picks) : k.properties c.node rule.key = .ok (some value) :=
  stepwise.properties_of_occupied last (expected_of_value named _) member

theorem Stepwise.honours_different (stepwise : k.Stepwise picks)
    (last : lastOn k.filter.differentRules rule.key = some rule) (named : rule.value = some value)
    (member : c ∈ picks) :
    ∃ found, k.properties c.node rule.key = .ok found ∧ found ≠ some value := by
  obtain ⟨before, after, -, -, joins⟩ := stepwise.exists_joins member
  obtain ⟨found, answer, free⟩ := joins.toFits.unclaimed last
  refine ⟨found, answer, fun equal => free value equal ?_⟩
  exact mem_claimed.mpr (.inl named)

end Constraints

def PlacementFilter.withLastRules (f : PlacementFilter) : PlacementFilter :=
  { f with sameRules := lastRules f.sameRules, differentRules := lastRules f.differentRules }

namespace Constraints

variable {k : Constraints} {t t' : Tracker}

def withLastRules (k : Constraints) : Constraints := { k with filter := k.filter.withLastRules }

theorem rebuilt_withLastRules (k : Constraints) (t : Tracker) :
    k.withLastRules.rebuilt t = k.rebuilt t := by
  have same := ruleTable_lastRules k.filter.sameRules (k.expected t.nodes)
  have taken := ruleTable_lastRules k.filter.differentRules (k.claimed t.nodes)
  exact congrArg₂ (fun same taken => { t with same, taken }) same taken

theorem rebuild_withLastRules (run : k.rebuild t = (t', none)) :
    k.withLastRules.rebuild t = (t', none) := by
  have ready := rebuildable_of_rebuild run
  have fewer : k.withLastRules.Rebuildable t.nodes :=
    ⟨fun rule member => ready.same rule (List.mem_of_mem_filter member),
      fun rule member => ready.different rule (List.mem_of_mem_filter member)⟩
  rw [fewer.rebuild_eq, rebuilt_withLastRules, ← ready.rebuild_eq, run]

theorem matchedBy_withLastRules (k : Constraints) : k.MatchedBy k.withLastRules where
  reset run := rebuild_withLastRules run
  admissible run := run
  select run := run
  unselect run :=
    have ⟨keeps, rebuilt⟩ := unselect_eq_ok_iff.mp run
    unselect_eq_ok_iff.mpr ⟨keeps, rebuild_withLastRules rebuilt⟩

theorem fresh_withLastRules {fresh : Tracker} (run : k.fresh = .ok fresh) :
    k.withLastRules.fresh = .ok fresh :=
  fresh_of_reset (rebuild_withLastRules (reset_eq_of_fresh run {}))

end Constraints

namespace Selector

variable {s : Selector} {filter : PlacementFilter} {resource : Option Resource}
variable {candidates : List Candidate} {selection : Selection}

theorem select_withLastRules {r : Option Selection}
    (run : (s.select filter resource candidates).outcome = .ok r) :
    (s.select filter.withLastRules resource candidates).outcome = .ok r := by
  obtain ⟨occupied, scan, ⟨satisfied, empty⟩ | ⟨positive, fresh, ready, searched⟩⟩ :=
    cases_of_select run
  -- What is occupied and how much is required are read off other fields of the filter.
  · rw [empty]
    exact outcome_select_of_satisfied scan satisfied
  · have matched := (s.constraints filter occupied).matchedBy_withLastRules
    exact outcome_select_of_search scan positive (Constraints.fresh_withLastRules ready)
      (matched.search _ _ _ _ _ _ _ searched)

/-- Every pick honours the rules that name a value and come last on their key, and the rules before
them might as well not be there. -/
theorem last_rules_honoured
    (run : (s.select filter resource candidates).outcome = .ok (some selection)) :
    (∀ rule value, lastOn filter.sameRules rule.key = some rule → rule.value = some value →
      ∀ c ∈ selection.candidates, s.properties c.node rule.key = .ok (some value)) ∧
    (∀ rule value, lastOn filter.differentRules rule.key = some rule → rule.value = some value →
      ∀ c ∈ selection.candidates,
        ∃ found, s.properties c.node rule.key = .ok found ∧ found ≠ some value) ∧
    (s.select filter.withLastRules resource candidates).outcome = .ok (some selection) := by
  obtain ⟨occupied, -, stepwise⟩ := stepwise_of_select run
  refine ⟨?_, ?_, select_withLastRules run⟩
  · intro rule value last named c member
    exact stepwise.honours_same last named member
  · intro rule value last named c member
    exact stepwise.honours_different last named member

/-- A node under maintenance and on the wrong site, and one that is neither. -/
def twoSites : Cluster :=
  Cluster.setProperty (Cluster.setProperty (Cluster.setProperty (Cluster.setProperty {}
    "n1" "zone" "maintenance") "n1" "site" "b") "n2" "zone" "east") "n2" "site" "a"

def onTwoSites : List Candidate :=
  [{ name := "p", node := "n1", kind := .lvm, score := ⟨0x4000000000000000⟩ },
    { name := "p", node := "n2", kind := .lvm, score := ⟨0x3ff0000000000000⟩ }]

def replacing : PlacementFilter where
  replicaCount := some 1
  sameRules := [⟨"site", some "a"⟩, ⟨"site", none⟩]
  differentRules := [⟨"zone", some "maintenance"⟩, ⟨"zone", none⟩]

theorem last_rules_honoured_reversed :
    let reversed : PlacementFilter :=
      { replacing with
        sameRules := replacing.sameRules.reverse
        differentRules := replacing.differentRules.reverse }
    let s : Selector := { properties := twoSites.property, mixing := .standard }
    (s.select reversed none onTwoSites).outcome =
        .ok (some ⟨[onTwoSites[1]], ⟨0x3ff0000000000000⟩⟩) ∧
      twoSites.property "n2" "site" = .ok (some "a") ∧
      (∃ found, twoSites.property "n2" "zone" = .ok found ∧ found ≠ some "maintenance") ∧
      (s.select reversed.withLastRules none onTwoSites).outcome =
        .ok (some ⟨[onTwoSites[1]], ⟨0x3ff0000000000000⟩⟩) := by
  intro reversed s
  have run : (s.select reversed none onTwoSites).outcome =
      .ok (some ⟨[onTwoSites[1]], ⟨0x3ff0000000000000⟩⟩) := by
    decide +kernel
  obtain ⟨same, different, kept⟩ := last_rules_honoured run
  exact ⟨run,
    same ⟨"site", some "a"⟩ "a" (by decide) rfl onTwoSites[1] (by simp),
    different ⟨"zone", some "maintenance"⟩ "maintenance" (by decide) rfl onTwoSites[1] (by simp),
    kept⟩

theorem replaced_rules_not_honoured :
    let s : Selector := { properties := twoSites.property, mixing := .standard }
    replacing.validate = .ok replacing ∧
      (s.select replacing none onTwoSites).outcome =
        .ok (some ⟨[onTwoSites[0]], ⟨0x4000000000000000⟩⟩) ∧
      ⟨"site", some "a"⟩ ∈ replacing.sameRules ∧
      twoSites.property onTwoSites[0].node "site" ≠ .ok (some "a") ∧
      ⟨"zone", some "maintenance"⟩ ∈ replacing.differentRules ∧
      twoSites.property onTwoSites[0].node "zone" = .ok (some "maintenance") := by
  decide +kernel

end Selector

structure FirstExposing (properties : PropertyAccess) (resource : Option Resource) (key : String)
    (node value : String) : Prop where
  occupied : Occupies resource node
  exposes : properties node key = .ok (some value)
  least : ∀ other, Occupies resource other → other < node →
    ∀ v, properties other key ≠ .ok (some v)

/-- How picks that must share a value answer on the key of the rule that counts: with the value that
the rule names, with that of the first node occupied that exposes one, or, if none does, with no
value at first and with one and the same value from some pick on. -/
inductive Converged (properties : PropertyAccess) (resource : Option Resource)
    (rule : PropertyRule) (picks : List Candidate) : Prop where
  | named {value : String} :
      rule.value = some value →
      (∀ c ∈ picks, properties c.node rule.key = .ok (some value)) →
      Converged properties resource rule picks
  | deployed {node value : String} :
      rule.value = none → FirstExposing properties resource rule.key node value →
      (∀ c ∈ picks, properties c.node rule.key = .ok (some value)) →
      Converged properties resource rule picks
  | picked {before after : List Candidate} {value : String} :
      rule.value = none →
      (∀ node, Occupies resource node → ∀ v, properties node rule.key ≠ .ok (some v)) →
      picks = before ++ after → (∀ c ∈ before, properties c.node rule.key = .ok none) →
      (∀ c ∈ after, properties c.node rule.key = .ok (some value)) →
      Converged properties resource rule picks

namespace Constraints

variable {k : Constraints} {rule : PropertyRule}

theorem expected_of_plain (plain : rule.value = none) (nodes : NameSet) :
    k.expected nodes rule = nodes.toList.findSome? fun node => k.exposed node rule.key := by
  rw [expected, plain, Option.none_or]

theorem firstExposing_of_expected {resource : Option Resource} {value : String}
    (occupied_iff : ∀ node, node ∈ k.occupied.nodes ↔ Occupies resource node)
    (plain : rule.value = none) (expected : k.expected k.occupied.nodes rule = some value) :
    ∃ node, FirstExposing k.properties resource rule.key node value := by
  rw [expected_of_plain plain] at expected
  obtain ⟨node, used, exposes, silent⟩ := exists_least_of_findSome? expected
  refine ⟨node, (occupied_iff node).mp used, exposed_eq_some_iff.mp exposes, ?_⟩
  intro other otherUsed less
  exact exposed_eq_none_iff.mp (silent other ((occupied_iff other).mpr otherUsed) less)

theorem unexposed_of_expected {resource : Option Resource}
    (occupied_iff : ∀ node, node ∈ k.occupied.nodes ↔ Occupies resource node)
    (plain : rule.value = none) (expected : k.expected k.occupied.nodes rule = none)
    (node : String) (used : Occupies resource node) :
    ∀ v, k.properties node rule.key ≠ .ok (some v) := by
  rw [expected_of_plain plain, List.findSome?_eq_none_iff] at expected
  have listed : node ∈ k.occupied.nodes.toList := by
    rw [Std.ExtTreeSet.mem_toList]
    exact (occupied_iff node).mpr used
  exact exposed_eq_none_iff.mp (expected node listed)

theorem Stepwise.converged {resource : Option Resource} {picks : List Candidate}
    (stepwise : k.Stepwise picks) (last : lastOn k.filter.sameRules rule.key = some rule)
    (occupied_iff : ∀ node, node ∈ k.occupied.nodes ↔ Occupies resource node) :
    Converged k.properties resource rule picks := by
  cases value : rule.value with
  | some v => exact .named value fun c member => stepwise.honours_same last value member
  | none =>
      cases expected : k.expected k.occupied.nodes rule with
      | some v =>
          obtain ⟨node, first⟩ := firstExposing_of_expected occupied_iff value expected
          exact .deployed value first fun c member =>
            stepwise.properties_of_occupied last expected member
      | none =>
          obtain ⟨before, after, picks_eq, silent, agreeing⟩ :=
            stepwise.exists_exposing_suffix last expected
          -- Where no pick exposes a value, any value is common to the picks that do.
          have shared : ∃ v, ∀ c ∈ after, k.properties c.node rule.key = .ok (some v) := by
            rcases agreeing with ⟨rfl, -⟩ | ⟨v, -, same⟩
            · exact ⟨"", by simp⟩
            · exact ⟨v, same⟩
          obtain ⟨v, same⟩ := shared
          exact .picked value (unexposed_of_expected occupied_iff value expected) picks_eq silent
            same

end Constraints

namespace Selector

variable {s : Selector} {filter : PlacementFilter} {resource : Option Resource}
variable {candidates : List Candidate} {selection : Selection}

/-- On each key whose value picks must share, the picks of every selection converge as the last rule
on that key says. -/
theorem converged_of_select
    (run : (s.select filter resource candidates).outcome = .ok (some selection))
    {rule : PropertyRule} (member : rule ∈ filter.sameRules) :
    ∃ last, lastOn filter.sameRules rule.key = some last ∧ last.key = rule.key ∧
      Converged s.properties resource last selection.candidates := by
  obtain ⟨occupied, scan, stepwise⟩ := stepwise_of_select run
  obtain ⟨last, isLast⟩ := exists_lastOn member
  have key_eq : last.key = rule.key := (lastOn_eq_some isLast).2
  refine ⟨last, isLast, key_eq, stepwise.converged ?_ ?_⟩
  · rw [key_eq]
    exact isLast
  · exact fun node => Occupancy.mem_nodes_iff_occupies scan

theorem converged_beside_deployed :
    let filter : PlacementFilter :=
      { replicaCount := some 3, sameRules := [⟨"site", some "west"⟩, ⟨"site", none⟩] }
    let s : Selector :=
      { properties := (Cluster.setProperty {} "n3" "site" "east").property, mixing := .standard }
    (s.select filter (some deployed) offered).outcome =
        .ok (some ⟨[offered[3], offered[2]], ⟨0x4008000000000000⟩⟩) ∧
      ∃ last, lastOn filter.sameRules "site" = some last ∧ last.key = "site" ∧
        Converged s.properties (some deployed) last [offered[3], offered[2]] := by
  intro filter s
  have run : (s.select filter (some deployed) offered).outcome =
      .ok (some ⟨[offered[3], offered[2]], ⟨0x4008000000000000⟩⟩) := by
    decide +kernel
  have member : ⟨"site", none⟩ ∈ filter.sameRules := by simp [filter]
  exact ⟨run, converged_of_select run member⟩

end Selector

def Differ (properties : PropertyAccess) (key first second : String) : Prop :=
  ∀ value, properties first key = .ok (some value) → properties second key ≠ .ok (some value)

namespace Constraints

variable {k : Constraints} {picks : List Candidate} {c : Candidate} {rule : PropertyRule}

theorem Fits.differs (fits : k.Fits (k.anew picks).view c)
    (member : rule ∈ k.filter.differentRules) {node : String} (used : node ∈ k.nodesWith picks) :
    Differ k.properties rule.key node c.node := by
  obtain ⟨last, isLast⟩ := exists_lastOn member
  have key_eq : last.key = rule.key := (lastOn_eq_some isLast).2
  rw [← key_eq] at isLast ⊢
  obtain ⟨found, answer, free⟩ := fits.unclaimed isLast
  intro value exposes shared
  rw [answer] at shared
  apply free value (Except.ok.inj shared)
  exact mem_claimed.mpr (.inr ⟨node, used, exposed_eq_some_iff.mpr exposes⟩)

theorem Stepwise.pairwise_differ (stepwise : k.Stepwise picks)
    (member : rule ∈ k.filter.differentRules) :
    picks.Pairwise fun a b => Differ k.properties rule.key a.node b.node := by
  apply stepwise.pairwise
  intro before c joins d earlier
  exact joins.toFits.differs member (mem_nodesWith.mpr (.inr ⟨d, earlier, rfl⟩))

theorem Stepwise.differ_occupied (stepwise : k.Stepwise picks)
    (member : rule ∈ k.filter.differentRules) {node : String} (used : node ∈ k.occupied.nodes)
    (pick : c ∈ picks) : Differ k.properties rule.key node c.node := by
  obtain ⟨before, after, -, -, joins⟩ := stepwise.exists_joins pick
  exact joins.toFits.differs member (mem_nodesWith.mpr (.inl used))

end Constraints

namespace Selector

variable {s : Selector} {filter : PlacementFilter} {resource : Option Resource}
variable {candidates : List Candidate} {selection : Selection}

/-- On each key that picks must differ in, no two picks expose the same value, and none exposes one
that a node occupied before exposes. -/
theorem spread_of_select
    (run : (s.select filter resource candidates).outcome = .ok (some selection))
    {rule : PropertyRule} (member : rule ∈ filter.differentRules) :
    (selection.candidates.Pairwise fun a b => Differ s.properties rule.key a.node b.node) ∧
      ∀ node, Occupies resource node → ∀ c ∈ selection.candidates,
        Differ s.properties rule.key node c.node := by
  obtain ⟨occupied, scan, stepwise⟩ := stepwise_of_select run
  refine ⟨stepwise.pairwise_differ member, ?_⟩
  intro node used c pick
  exact stepwise.differ_occupied member ((Occupancy.mem_nodes_iff_occupies scan).mpr used) pick

theorem spread_beside_deployed :
    let racks : Cluster :=
      Cluster.setProperty (Cluster.setProperty (Cluster.setProperty (Cluster.setProperty
        (Cluster.setProperty {} "n1" "rack" "r1") "n3" "rack" "r2") "n4" "rack" "r2")
        "n5" "rack" "r1") "n6" "rack" "r3"
    let filter : PlacementFilter :=
      { replicaCount := some 3, differentRules := [⟨"rack", some "r4"⟩, ⟨"rack", none⟩] }
    let s : Selector := { properties := racks.property, mixing := .standard }
    let pools : List Candidate := offered ++
      [{ name := "p", node := "n5", kind := .lvm, score := ⟨0x4014000000000000⟩ },
        { name := "p", node := "n6", kind := .lvm, score := .zero }]
    (s.select filter (some deployed) pools).outcome =
        .ok (some ⟨[pools[3], pools[5]], ⟨0x4000000000000000⟩⟩) ∧
      ([pools[3], pools[5]].Pairwise fun a b => Differ racks.property "rack" a.node b.node) ∧
      ∀ node, Occupies (some deployed) node → ∀ c ∈ [pools[3], pools[5]],
        Differ racks.property "rack" node c.node := by
  intro racks filter s pools
  have run : (s.select filter (some deployed) pools).outcome =
      .ok (some ⟨[pools[3], pools[5]], ⟨0x4000000000000000⟩⟩) := by
    decide +kernel
  have member : ⟨"rack", none⟩ ∈ filter.differentRules := by simp [filter]
  exact ⟨run, spread_of_select run member⟩

end Selector

end ReplicaPlacement
