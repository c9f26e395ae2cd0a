import ReplicaPlacement.Proofs.Selection.Rules

namespace ReplicaPlacement

theorem Differ.symm {properties : PropertyAccess} {key first second : String}
    (differ : Differ properties key first second) : Differ properties key second first :=
  fun value exposes shared => differ value shared exposes

namespace Constraints

variable (k : Constraints)

/-- The value that a rule asks for from the start: the one that it names, or else that of the first
node occupied, in the order of names, that exposes one. -/
inductive Demands (rule : PropertyRule) (value : String) : Prop where
  | named : rule.value = some value → Demands rule value
  | deployed {node : String} :
      rule.value = none → node ∈ k.occupied.nodes →
      k.properties node rule.key = .ok (some value) →
      (∀ other ∈ k.occupied.nodes, other < node →
        ∀ v, k.properties other rule.key ≠ .ok (some v)) →
      Demands rule value

structure Vacant (c : Candidate) : Prop where
  node_free : c.node ∉ k.occupied.nodes
  backend_free : ∀ name, c.sharedName = some name → name ∉ k.occupied.sharedNames
  kinds_mix : ∀ kind ∈ k.seedKinds, k.mixing c.kind kind = true
  value_unnamed : ∀ rule ∈ k.filter.differentRules, ∀ value, rule.value = some value →
    k.properties c.node rule.key ≠ .ok (some value)
  value_free : ∀ rule ∈ k.filter.differentRules, ∀ node ∈ k.occupied.nodes,
    Differ k.properties rule.key node c.node

structure Beside (a b : Candidate) : Prop where
  nodes_differ : a.node ≠ b.node
  backends_differ : ∀ name, a.sharedName = some name → b.sharedName ≠ some name
  kinds_mix : k.mixing a.kind b.kind = true
  values_differ : ∀ rule ∈ k.filter.differentRules, Differ k.properties rule.key a.node b.node

structure Compatible (picks : List Candidate) : Prop where
  vacant : ∀ c ∈ picks, k.Vacant c
  beside : picks.Pairwise k.Beside
  agree : ∀ rule ∈ k.filter.sameRules, ∃ value,
    (∀ c ∈ picks, k.properties c.node rule.key = .ok (some value)) ∧
      ∀ demanded, k.Demands rule demanded → value = demanded

variable {k} {t u fresh : Tracker} {c d : Candidate} {picks others : List Candidate}
variable {rule : PropertyRule} {value : String}

theorem Beside.symm (symmetric : ∀ a b, k.mixing a b = k.mixing b a) {a b : Candidate}
    (beside : k.Beside a b) : k.Beside b a where
  nodes_differ := beside.nodes_differ.symm
  backends_differ name shared other := beside.backends_differ name other shared
  kinds_mix := symmetric a.kind b.kind ▸ beside.kinds_mix
  values_differ rule member := (beside.values_differ rule member).symm

theorem Compatible.perm (symmetric : ∀ a b, k.mixing a b = k.mixing b a)
    (compatible : k.Compatible picks) (permutation : picks.Perm others) :
    k.Compatible others where
  vacant c member := compatible.vacant c (permutation.mem_iff.mpr member)
  beside := (permutation.pairwise_iff (Beside.symm symmetric)).mp compatible.beside
  agree rule member := by
    obtain ⟨value, shared, demanded⟩ := compatible.agree rule member
    exact ⟨value, fun c pick => shared c (permutation.mem_iff.mpr pick), demanded⟩

theorem Compatible.of_append (compatible : k.Compatible (picks ++ others)) :
    k.Compatible picks where
  vacant c member := compatible.vacant c (List.mem_append_left _ member)
  beside := (List.pairwise_append.mp compatible.beside).1
  agree rule member := by
    obtain ⟨value, shared, demanded⟩ := compatible.agree rule member
    exact ⟨value, fun c pick => shared c (List.mem_append_left _ pick), demanded⟩

theorem expected_eq_some_iff {nodes : NameSet} :
    k.expected nodes rule = some value ↔ rule.value = some value ∨
      rule.value = none ∧ ∃ node ∈ nodes, k.properties node rule.key = .ok (some value) ∧
        ∀ other ∈ nodes, other < node → ∀ v, k.properties other rule.key ≠ .ok (some v) := by
  rw [expected, Option.or_eq_some_iff, findSome?_toList_eq_some_iff]
  simp only [exposed_eq_some_iff, exposed_eq_none_iff]

theorem demands_iff_expected :
    k.Demands rule value ↔ k.expected k.occupied.nodes rule = some value := by
  rw [expected_eq_some_iff]
  constructor
  · rintro (named | ⟨plain, used, exposes, least⟩)
    · exact .inl named
    · exact .inr ⟨plain, _, used, exposes, least⟩
  · rintro (named | ⟨plain, node, used, exposes, least⟩)
    · exact .named named
    · exact .deployed plain used exposes least

theorem Fits.vacant (fits : k.Fits (k.anew picks).view c)
    (once : (k.filter.differentRules.map (·.key)).Nodup) : k.Vacant c where
  node_free used := fits.node_free (mem_nodesWith.mpr (.inl used))
  backend_free name shared used :=
    fits.backend_free name shared (mem_sharedNamesWith.mpr (.inl used))
  kinds_mix kind seed := fits.kinds_mix kind (mem_kinds_anew.mpr (.inl seed))
  value_unnamed rule member value named := by
    obtain ⟨found, answer, free⟩ := fits.unclaimed (lastOn_of_nodup once member)
    rw [answer]
    intro exposes
    exact free value (Except.ok.inj exposes) (mem_claimed.mpr (.inl named))
  value_free rule member node used := fits.differs member (mem_nodesWith.mpr (.inl used))

theorem Fits.beside (fits : k.Fits (k.anew picks).view c) (earlier : d ∈ picks)
    (symmetric : ∀ a b, k.mixing a b = k.mixing b a) : k.Beside d c where
  nodes_differ equal := fits.node_free (mem_nodesWith.mpr (.inr ⟨d, earlier, equal⟩))
  backends_differ name shared other :=
    fits.backend_free name other (mem_sharedNamesWith.mpr (.inr ⟨d, earlier, shared⟩))
  kinds_mix := by
    rw [symmetric]
    exact fits.kinds_mix d.kind (mem_kinds_anew.mpr (.inr ⟨d, earlier, rfl⟩))
  values_differ rule member := fits.differs member (mem_nodesWith.mpr (.inr ⟨d, earlier, rfl⟩))

theorem Stepwise.agree (stepwise : k.Stepwise picks)
    (last : lastOn k.filter.sameRules rule.key = some rule)
    (exposing : ∀ c ∈ picks, ∃ v, k.properties c.node rule.key = .ok (some v)) :
    ∃ value, (∀ c ∈ picks, k.properties c.node rule.key = .ok (some value)) ∧
      ∀ demanded, k.Demands rule demanded → value = demanded := by
  refine ⟨(k.expected (k.nodesWith picks) rule).getD "", ?_, ?_⟩
  · intro c pick
    obtain ⟨v, exposes⟩ := exposing c pick
    rw [stepwise.expected_of_exposed last pick (exposed_eq_some_iff.mpr exposes)]
    exact exposes
  · intro demanded demands
    rw [stepwise.expected_eq last, demands_iff_expected.mp demands]
    rfl

theorem Stepwise.compatible (stepwise : k.Stepwise picks)
    (sameOnce : (k.filter.sameRules.map (·.key)).Nodup)
    (differentOnce : (k.filter.differentRules.map (·.key)).Nodup)
    (symmetric : ∀ a b, k.mixing a b = k.mixing b a)
    (exposing : ∀ rule ∈ k.filter.sameRules, ∀ c ∈ picks,
      ∃ v, k.properties c.node rule.key = .ok (some v)) : k.Compatible picks where
  vacant c member := by
    obtain ⟨before, after, -, -, joins⟩ := stepwise.exists_joins member
    exact joins.toFits.vacant differentOnce
  beside := stepwise.pairwise fun before c joins d earlier => joins.toFits.beside earlier symmetric
  agree rule member := stepwise.agree (lastOn_of_nodup sameOnce member) (exposing rule member)

theorem Compatible.fits (compatible : k.Compatible (picks ++ [c])) (readable : k.Readable)
    (symmetric : ∀ a b, k.mixing a b = k.mixing b a) : k.Fits (k.anew picks).view c := by
  have vacant := compatible.vacant c (by simp)
  have beside (d) (earlier : d ∈ picks) : k.Beside d c :=
    (List.pairwise_append.mp compatible.beside).2.2 d earlier c (by simp)
  constructor
  case node_free =>
    intro used
    rcases mem_nodesWith.mp used with occupied | ⟨d, earlier, equal⟩
    · exact vacant.node_free occupied
    · exact (beside d earlier).nodes_differ equal
  case backend_free =>
    intro name shared used
    rcases mem_sharedNamesWith.mp used with occupied | ⟨d, earlier, other⟩
    · exact vacant.backend_free name shared occupied
    · exact (beside d earlier).backends_differ name other shared
  case kinds_mix =>
    intro kind held
    rcases mem_kinds_anew.mp held with seed | ⟨d, earlier, rfl⟩
    · exact vacant.kinds_mix kind seed
    · rw [symmetric]
      exact (beside d earlier).kinds_mix
  case same_met =>
    intro key expected entry
    change (k.anew picks).same[key]? = _ at entry
    rw [same_anew, Option.map_eq_some_iff] at entry
    obtain ⟨rule, last, expected_eq⟩ := entry
    obtain ⟨member, rfl⟩ := lastOn_eq_some last
    obtain ⟨value, shared, demanded⟩ := compatible.agree rule member
    suffices value = expected from this ▸ shared c (by simp)
    -- Whichever node fixed the value, it was asked for from the start or is that of a pick.
    rcases expected_eq_some_iff.mp expected_eq with named | ⟨plain, node, used, exposes, least⟩
    · exact demanded expected (.named named)
    · rcases mem_nodesWith.mp used with occupied | ⟨d, earlier, rfl⟩
      · apply demanded expected (.deployed plain occupied exposes _)
        exact fun other before => least other (mem_nodesWith.mpr (.inl before))
      · have own := shared d (List.mem_append_left _ earlier)
        rw [own] at exposes
        exact Option.some.inj (Except.ok.inj exposes)
  case taken_free =>
    intro key values entry
    rw [Tracker.getElem?_taken_view, taken_anew, Option.map_map, Option.map_eq_some_iff] at entry
    obtain ⟨rule, last, rfl⟩ := entry
    obtain ⟨member, rfl⟩ := lastOn_eq_some last
    refine ⟨_, readable rule (List.mem_append_right _ member) c.node, fun value found held => ?_⟩
    have exposes : k.properties c.node rule.key = .ok (some value) := exposed_eq_some_iff.mp found
    rcases mem_claimed.mp held with named | ⟨node, used, claimed⟩
    · exact vacant.value_unnamed rule member value named exposes
    · rw [exposed_eq_some_iff] at claimed
      rcases mem_nodesWith.mp used with occupied | ⟨d, earlier, rfl⟩
      · exact vacant.value_free rule member node occupied value claimed exposes
      · exact (beside d earlier).values_differ rule member value claimed exposes

theorem Compatible.stepwise (compatible : k.Compatible picks) (readable : k.Readable)
    (symmetric : ∀ a b, k.mixing a b = k.mixing b a) : k.Stepwise picks := by
  induction picks using List.reverseRecOn with
  | nil => exact .nil
  | append_singleton picks c induction =>
      have before := induction compatible.of_append
      refine .append before ⟨compatible.fits readable symmetric, fun key entry => ?_⟩
      change (k.anew picks).same[key]? = _ at entry
      have held : key ∈ (k.anew picks).same := by
        rw [Std.ExtTreeMap.mem_iff_isSome_getElem?, entry]
        rfl
      exact readable.answers_same (sound_anew before.apart) held c.node

theorem admissible_of_perm (taken : k.takeAll? (k.anew []) picks = some t)
    (otherTaken : k.takeAll? (k.anew []) others = some u) (permutation : picks.Perm others)
    (c : Candidate) : k.admissible t c = k.admissible u c := by
  have sound := sound_of_takeAll? (sound_anew apart_nil) taken
  have other := sound_of_takeAll? (sound_anew apart_nil) otherTaken
  have selection_eq : t.selection = picks := selection_of_takeAll? taken
  have otherSelection_eq : u.selection = others := selection_of_takeAll? otherTaken
  apply sound.admissible_eq other
  intro d
  rw [selection_eq, otherSelection_eq]
  exact permutation.mem_iff

/-- Picks may be taken in one after another exactly if they are compatible as a set, so that in any
other order they may be taken in as well, and what may join them is the same. -/
theorem joined_iff_compatible (answers : ∀ node key, ∃ v, k.properties node key = .ok v)
    (sameOnce : (k.filter.sameRules.map (·.key)).Nodup)
    (differentOnce : (k.filter.differentRules.map (·.key)).Nodup)
    (symmetric : ∀ a b, k.mixing a b = k.mixing b a)
    (exposing : ∀ rule ∈ k.filter.sameRules, ∀ c ∈ picks,
      ∃ v, k.properties c.node rule.key = .ok (some v)) :
    ∃ fresh, k.fresh = .ok fresh ∧
      ((k.takeAll? fresh picks).isSome = true ↔ k.Compatible picks) ∧
      ∀ others, picks.Perm others → ∀ t, k.takeAll? fresh picks = some t →
        ∃ u, k.takeAll? fresh others = some u ∧ ∀ c, k.admissible t c = k.admissible u c := by
  have readable : k.Readable := readable_of_answers answers
  have joined_iff : (k.takeAll? (k.anew []) picks).isSome = true ↔ k.Compatible picks := by
    rw [← stepwise_iff_isSome_takeAll?]
    constructor
    · exact fun stepwise => stepwise.compatible sameOnce differentOnce symmetric exposing
    · exact fun compatible => compatible.stepwise readable symmetric
  refine ⟨k.anew [], readable.fresh_eq, joined_iff, ?_⟩
  intro others permutation t taken
  have compatible := (joined_iff.mp (by rw [taken]; rfl)).perm symmetric permutation
  obtain ⟨u, otherTaken⟩ := Option.isSome_iff_exists.mp
    (stepwise_iff_isSome_takeAll?.mp (compatible.stepwise readable symmetric))
  exact ⟨u, otherTaken, admissible_of_perm taken otherTaken permutation⟩

def oneTier : Constraints where
  filter :=
    { sameRules := [⟨"site", none⟩, ⟨"tier", some "fast"⟩]
      differentRules := [⟨"rack", some "r0"⟩] }
  occupied :=
    { nodes := (∅ : NameSet).insert "n0", sharedNames := (∅ : NameSet).insert "san"
      kinds := [.lvmThin] }
  properties
    | "n0", "rack" => .ok (some "r1")
    | "n1", "rack" => .ok (some "r2")
    | "n2", "rack" => .ok (some "r3")
    | _, "site" => .ok (some "east")
    | _, "tier" => .ok (some "fast")
    | _, _ => .ok none
  mixing := .standard

theorem joined_iff_compatible_oneTier :
    let on (node : String) : Candidate := { name := "p", node, kind := .lvm, score := .zero }
    oneTier.Compatible [on "n1", on "n2", on "n3"] ∧
      ∃ u, oneTier.takeAll? (oneTier.anew []) [on "n3", on "n1", on "n2"] = some u := by
  intro on
  have answers : ∀ node key, ∃ v, oneTier.properties node key = .ok v := by
    intro node key
    simp only [oneTier]
    split <;> exact ⟨_, rfl⟩
  have exposing : ∀ rule ∈ oneTier.filter.sameRules, ∀ c ∈ [on "n1", on "n2", on "n3"],
      ∃ v, oneTier.properties c.node rule.key = .ok (some v) := by
    simp [oneTier, on]
  obtain ⟨fresh, ready, joined_iff, reordered⟩ :=
    joined_iff_compatible answers (by decide) (by decide) MixingPolicy.standard_symmetric exposing
  obtain rfl := eq_anew_of_fresh ready
  have joined : (oneTier.takeAll? (oneTier.anew []) [on "n1", on "n2", on "n3"]).isSome = true := by
    decide +kernel
  obtain ⟨t, taken⟩ := Option.isSome_iff_exists.mp joined
  obtain ⟨u, otherTaken, -⟩ := reordered [on "n3", on "n1", on "n2"] (by decide) t taken
  exact ⟨joined_iff.mp joined, u, otherTaken⟩

end Constraints

end ReplicaPlacement
