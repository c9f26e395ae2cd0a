import ReplicaPlacement.Proofs.Search.Attempts

namespace ReplicaPlacement

open Function (Injective)

namespace Candidate

def rename (ρ : String → String) (c : Candidate) : Candidate := { c with node := ρ c.node }

theorem score_rename (ρ : String → String) (c : Candidate) : (c.rename ρ).score = c.score := rfl

end Candidate

def Selection.rename (ρ : String → String) (s : Selection) : Selection :=
  { s with candidates := s.candidates.map (Candidate.rename ρ) }

variable {ρ : String → String}

theorem Selection.ofPicks_rename (picks : List Candidate) :
    (ofPicks picks).rename ρ = ofPicks (picks.map (Candidate.rename ρ)) := by
  rw [ofPicks, ofPicks, Candidate.total_map (Candidate.score_rename ρ)]
  rfl

structure View.Renamed (ρ : String → String) (v v' : View) : Prop where
  nodes : ∀ node, ρ node ∈ v'.nodes ↔ node ∈ v.nodes
  sharedNames : v'.sharedNames = v.sharedNames
  kinds : v'.kinds = v.kinds
  same : v'.same = v.same
  taken : v'.taken = v.taken

namespace Constraints

structure Renamed (ρ : String → String) (k k' : Constraints) : Prop where
  injective : Injective ρ
  sameRules : k'.filter.sameRules = k.filter.sameRules
  differentRules : k'.filter.differentRules = k.filter.differentRules
  mixing : k'.mixing = k.mixing
  seedKinds : k'.seedKinds = k.seedKinds
  sharedNames : k'.occupied.sharedNames = k.occupied.sharedNames
  nodes : ∀ node, node ∈ k'.occupied.nodes ↔ ∃ n ∈ k.occupied.nodes, ρ n = node
  properties : ∀ node key, k'.properties (ρ node) key = k.properties node key

/-- The nodes occupied before expose one value at most under the key of a rule on equal values. -/
def Agreed (k : Constraints) : Prop :=
  ∀ rule ∈ k.filter.sameRules, ∀ node ∈ k.occupied.nodes, ∀ other ∈ k.occupied.nodes, ∀ v w,
    k.exposed node rule.key = some v → k.exposed other rule.key = some w → v = w

namespace Renamed

variable {k k' : Constraints} {v v' : View} {c : Candidate} {picks ranked : List Candidate}
variable {rule : PropertyRule} {count start required : Nat} {positions : List Nat}
variable {r : Option Selection}

theorem exposed_eq (renamed : Renamed ρ k k') (node key : String) :
    k'.exposed (ρ node) key = k.exposed node key :=
  congrArg (Lookup.found · key) (funext (renamed.properties node))

theorem toList_perm (renamed : Renamed ρ k k') :
    k'.occupied.nodes.toList.Perm (k.occupied.nodes.toList.map ρ) := by
  rw [List.perm_ext_iff_of_nodup (nodup_toList _)
    ((nodup_toList _).map renamed.injective)]
  simp [renamed.nodes]

theorem expected_eq (renamed : Renamed ρ k k') (agreed : k.Agreed)
    (member : rule ∈ k.filter.sameRules) :
    k'.expected k'.occupied.nodes rule = k.expected k.occupied.nodes rule := by
  unfold expected
  have along : (k.occupied.nodes.toList.map ρ).findSome? (k'.exposed · rule.key) =
      k.occupied.nodes.toList.findSome? (k.exposed · rule.key) := by
    rw [List.findSome?_map]
    exact congrArg (k.occupied.nodes.toList.findSome? ·)
      (funext fun node => renamed.exposed_eq node rule.key)
  -- Renaming may change which node comes first, but not the one value that the nodes expose.
  rw [← along]
  apply congrArg rule.value.or
  apply findSome?_eq_of_perm renamed.toList_perm
  intro node used other otherUsed
  obtain ⟨n, occupied, rfl⟩ := (renamed.nodes node).mp (by simpa using used)
  obtain ⟨m, otherOccupied, rfl⟩ := (renamed.nodes other).mp (by simpa using otherUsed)
  rw [renamed.exposed_eq, renamed.exposed_eq]
  exact agreed rule member n occupied m otherOccupied

theorem claimed_perm (renamed : Renamed ρ k k') (rule : PropertyRule) :
    (k'.claimed k'.occupied.nodes rule).Perm (k.claimed k.occupied.nodes rule) := by
  have along : (k.occupied.nodes.toList.map ρ).filterMap (k'.exposed · rule.key) =
      k.occupied.nodes.toList.filterMap (k.exposed · rule.key) := by
    rw [List.filterMap_map]
    exact List.filterMap_congr fun node _ => renamed.exposed_eq node rule.key
  unfold claimed
  rw [← along]
  exact (renamed.toList_perm.filterMap _).append_left _

theorem view_anew_nil (renamed : Renamed ρ k k') (agreed : k.Agreed) :
    View.Renamed ρ (k.anew []).view (k'.anew []).view where
  nodes node := by
    change ρ node ∈ k'.occupied.nodes ↔ node ∈ k.occupied.nodes
    rw [renamed.nodes]
    simp only [renamed.injective.eq_iff, exists_eq_right]
  sharedNames := renamed.sharedNames
  kinds :=
    congrArg (fun kinds => Multiset.ofList (kinds ++ [])) renamed.seedKinds
  same := by
    change ruleTable k'.filter.sameRules (k'.expected k'.occupied.nodes) =
      ruleTable k.filter.sameRules (k.expected k.occupied.nodes)
    rw [renamed.sameRules]
    exact ruleTable_congr fun rule last => renamed.expected_eq agreed (lastOn_eq_some last).1
  taken := by
    change (ruleTable k'.filter.differentRules (k'.claimed k'.occupied.nodes)).map _ =
      (ruleTable k.filter.differentRules (k.claimed k.occupied.nodes)).map _
    rw [renamed.differentRules, map_ruleTable, map_ruleTable]
    exact ruleTable_congr fun rule _ => Multiset.coe_eq_coe.mpr (renamed.claimed_perm rule)

theorem joins_iff (renamed : Renamed ρ k k') (views : View.Renamed ρ v v') :
    k'.Joins v' (c.rename ρ) ↔ k.Joins v c := by
  have node_free : (c.rename ρ).node ∉ v'.nodes ↔ c.node ∉ v.nodes := not_congr (views.nodes c.node)
  have lookup_eq : k'.properties (c.rename ρ).node = k.properties c.node :=
    funext (renamed.properties c.node)
  constructor
  · rintro ⟨⟨node, backend, kinds, same, taken⟩, answers⟩
    rw [lookup_eq, views.same] at same answers
    rw [lookup_eq, views.taken] at taken
    rw [views.sharedNames] at backend
    rw [renamed.mixing, views.kinds] at kinds
    exact ⟨⟨node_free.mp node, backend, kinds, same, taken⟩, answers⟩
  · rintro ⟨⟨node, backend, kinds, same, taken⟩, answers⟩
    rw [← lookup_eq, ← views.same] at same answers
    rw [← lookup_eq, ← views.taken] at taken
    rw [← views.sharedNames] at backend
    rw [← renamed.mixing, ← views.kinds] at kinds
    exact ⟨⟨node_free.mpr node, backend, kinds, same, taken⟩, answers⟩

theorem withJoined (renamed : Renamed ρ k k') (views : View.Renamed ρ v v') :
    View.Renamed ρ (k.withJoined v c) (k'.withJoined v' (c.rename ρ)) := by
  have exposed_eq (key : String) : k'.exposed (c.rename ρ).node key = k.exposed c.node key :=
    renamed.exposed_eq c.node key
  constructor
  case nodes =>
    intro node
    change ρ node ∈ v'.nodes.insert (ρ c.node) ↔ node ∈ v.nodes.insert c.node
    rw [Std.ExtTreeSet.mem_insert, Std.ExtTreeSet.mem_insert, views.nodes, Std.compare_eq_iff_eq,
      Std.compare_eq_iff_eq, renamed.injective.eq_iff]
  case sharedNames =>
    exact congrArg (fun names : NameSet => c.sharedName.elim names names.insert) views.sharedNames
  case kinds => exact congrArg (· + {c.kind}) views.kinds
  case same => simp only [Constraints.withJoined, exposed_eq, views.same]
  case taken => simp only [Constraints.withJoined, exposed_eq, views.taken]

theorem stepwise_iff_and_view (renamed : Renamed ρ k k') (agreed : k.Agreed)
    (picks : List Candidate) :
    (k'.Stepwise (picks.map (Candidate.rename ρ)) ↔ k.Stepwise picks) ∧
      (k.Stepwise picks →
        View.Renamed ρ (k.anew picks).view (k'.anew (picks.map (Candidate.rename ρ))).view) := by
  induction picks using List.reverseRecOn with
  | nil => exact ⟨iff_of_true .nil .nil, fun _ => renamed.view_anew_nil agreed⟩
  | append_singleton picks c induction =>
      obtain ⟨stepwise_iff, view⟩ := induction
      rw [List.map_append, List.map_singleton]
      constructor
      · rw [stepwise_append_iff, stepwise_append_iff, stepwise_iff]
        exact and_congr_right fun stepwise => renamed.joins_iff (view stepwise)
      · intro all
        obtain ⟨stepwise, joins⟩ := stepwise_append_iff.mp all
        have otherJoins := (renamed.joins_iff (view stepwise)).mpr joins
        rw [← withJoined_anew joins.toFits, ← withJoined_anew otherJoins.toFits]
        exact renamed.withJoined (view stepwise)

theorem picksAt_map (ranked : List Candidate) (positions : List Nat) :
    picksAt (ranked.map (Candidate.rename ρ)) positions =
      (picksAt ranked positions).map (Candidate.rename ρ) := by
  rw [picksAt, picksAt, List.map_filterMap]
  exact List.filterMap_congr fun p _ => List.getElem?_map

theorem combination_iff (renamed : Renamed ρ k k') (agreed : k.Agreed) :
    k'.Combination (k'.anew []) (ranked.map (Candidate.rename ρ)) count start positions ↔
      k.Combination (k.anew []) ranked count start positions := by
  have admitted_iff := (renamed.stepwise_iff_and_view agreed (picksAt ranked positions)).1
  rw [stepwise_iff_isSome_takeAll?, stepwise_iff_isSome_takeAll?, ← picksAt_map] at admitted_iff
  constructor
  · rintro ⟨length_eq, increasing, in_range, admitted⟩
    rw [List.length_map] at in_range
    exact ⟨length_eq, increasing, in_range, admitted_iff.mp admitted⟩
  · rintro ⟨length_eq, increasing, in_range, admitted⟩
    rw [← List.length_map (Candidate.rename ρ)] at in_range
    exact ⟨length_eq, increasing, in_range, admitted_iff.mpr admitted⟩

theorem firstCombination_iff (renamed : Renamed ρ k k') (agreed : k.Agreed) :
    k'.FirstCombination (k'.anew []) (ranked.map (Candidate.rename ρ)) count start positions ↔
      k.FirstCombination (k.anew []) ranked count start positions := by
  constructor
  · rintro ⟨combination, least⟩
    exact ⟨(renamed.combination_iff agreed).mp combination, fun other otherCombination =>
      least other ((renamed.combination_iff agreed).mpr otherCombination)⟩
  · rintro ⟨combination, least⟩
    exact ⟨(renamed.combination_iff agreed).mpr combination, fun other otherCombination =>
      least other ((renamed.combination_iff agreed).mp otherCombination)⟩

theorem attempted (renamed : Renamed ρ k k') (agreed : k.Agreed)
    (attempted : Attempted k (k.anew []) ranked required start none r) :
    Attempted k' (k'.anew []) (ranked.map (Candidate.rename ρ)) required start none
      (r.map (Selection.rename ρ)) := by
  have total_eq (positions : List Nat) :
      Candidate.total (picksAt (ranked.map (Candidate.rename ρ)) positions) =
        Candidate.total (picksAt ranked positions) := by
    rw [picksAt_map, Candidate.total_map (Candidate.score_rename ρ)]
  cases attempted with
  | kept least =>
      refine .kept fun s other above first => ?_
      rw [total_eq]
      exact least s other above ((renamed.firstCombination_iff agreed).mp first)
  | @improved s positions above isFirst exceeds greatest earliest =>
      rw [Option.map_some, Selection.ofPicks_rename, ← picksAt_map]
      refine .improved above ((renamed.firstCombination_iff agreed).mpr isFirst) ?_ ?_ ?_
      · rwa [total_eq]
      · intro s' other above first
        rw [total_eq, total_eq]
        exact greatest s' other above ((renamed.firstCombination_iff agreed).mp first)
      · intro s' other above less first
        rw [total_eq, total_eq]
        exact earliest s' other above less ((renamed.firstCombination_iff agreed).mp first)

end Renamed

end Constraints

end ReplicaPlacement
