import ReplicaPlacement.Scenario

namespace ReplicaPlacement

namespace StoragePool

variable {p q : StoragePool}

def entryName (p : StoragePool) : String := p.node ++ "/" ++ p.name

/-- Some text, and a slash, stand at the end of one node and at the start of the other name. -/
def Straddles (p q : StoragePool) : Prop :=
  ∃ text, p.node = q.node ++ "/" ++ text ∧ q.name = text ++ "/" ++ p.name

def Entangled (p q : StoragePool) : Prop := p.Straddles q ∨ q.Straddles p

theorem Straddles.entryName_eq (straddles : p.Straddles q) : p.entryName = q.entryName := by
  obtain ⟨text, node, name⟩ := straddles
  simp only [entryName, node, name, String.append_assoc]

theorem straddles_of_append {rest : List Char} (node : p.node.toList = q.node.toList ++ rest)
    (name : '/' :: q.name.toList = rest ++ '/' :: p.name.toList) :
    p.Straddles q ∨ p.node = q.node ∧ p.name = q.name := by
  cases rest with
  | nil =>
      right
      have same_name : q.name.toList = p.name.toList := (List.cons.inj name).2
      exact ⟨String.toList_injective (by simpa using node), (String.toList_injective same_name).symm⟩
  | cons slash text =>
      left
      obtain ⟨is_slash, name⟩ := List.cons.inj name
      refine ⟨String.ofList text, String.toList_injective ?_, String.toList_injective ?_⟩
      · simp [node, ← is_slash]
      · simp [name]

theorem entryName_eq_iff :
    p.entryName = q.entryName ↔ p.node = q.node ∧ p.name = q.name ∨ p.Entangled q := by
  constructor
  · intro same
    have texts : p.node.toList ++ '/' :: p.name.toList = q.node.toList ++ '/' :: q.name.toList := by
      simpa [entryName] using congrArg String.toList same
    rcases List.append_eq_append_iff.mp texts with ⟨rest, node, name⟩ | ⟨rest, node, name⟩
    · rcases straddles_of_append node name with straddles | ⟨same_node, same_name⟩
      · exact .inr (.inr straddles)
      · exact .inl ⟨same_node.symm, same_name.symm⟩
    · rcases straddles_of_append node name with straddles | same_placement
      · exact .inr (.inl straddles)
      · exact .inl same_placement
  · rintro (⟨same_node, same_name⟩ | straddles | straddles)
    · rw [entryName, entryName, same_node, same_name]
    · exact straddles.entryName_eq
    · exact straddles.entryName_eq.symm

theorem entryName_eq_iff_entangled (apart : p.node ≠ q.node ∨ p.name ≠ q.name) :
    p.entryName = q.entryName ↔ p.Entangled q := by
  rw [entryName_eq_iff, or_iff_right]
  intro ⟨same_node, same_name⟩
  exact apart.elim (· same_node) (· same_name)

theorem Straddles.slashes (straddles : p.Straddles q) :
    '/' ∈ p.node.toList ∧ '/' ∈ q.name.toList := by
  obtain ⟨text, node, name⟩ := straddles
  simp [node, name]

theorem not_entangled_of_slashless
    (slashless : ('/' ∉ p.node.toList ∧ '/' ∉ q.node.toList) ∨
      ('/' ∉ p.name.toList ∧ '/' ∉ q.name.toList)) : ¬ p.Entangled q := by
  rintro (straddles | straddles)
  · obtain ⟨in_node, in_name⟩ := straddles.slashes
    exact slashless.elim (fun nodes => nodes.1 in_node) (fun names => names.2 in_name)
  · obtain ⟨in_node, in_name⟩ := straddles.slashes
    exact slashless.elim (fun nodes => nodes.2 in_node) (fun names => names.1 in_name)

end StoragePool

namespace Scenario

variable {s : Scenario} {i j : Nat} {p q : StoragePool} {name : String} {value : Score}

def setScore (s : Scenario) (name : String) (value : Score) : Scenario :=
  { s with scores := s.scores.insert name value }

def poolScore (s : Scenario) (i : Nat) : Option Score :=
  s.allCandidates[s.candidates.length + i]?.map (·.score)

/-- The score of the pool at position `i` depends on the entry of that name. -/
def Determines (s : Scenario) (name : String) (i : Nat) : Prop :=
  ∃ value, (s.setScore name value).poolScore i ≠ s.poolScore i

theorem poolScore_eq (at_i : s.pools[i]? = some p) :
    s.poolScore i = some (s.scores.getD p.entryName .zero) := by
  have behind : s.allCandidates[s.candidates.length + i]? =
      (StoragePool.scored (score s.scores) s.pools)[i]? := by
    rw [allCandidates, List.getElem?_append_right (Nat.le_add_right _ _), Nat.add_sub_cancel_left]
  rw [poolScore, behind, StoragePool.scored, List.getElem?_map, at_i]
  rfl

theorem poolScore_setScore (at_i : s.pools[i]? = some p) :
    (s.setScore name value).poolScore i =
      if name = p.entryName then some value else s.poolScore i := by
  have at_i_still : (s.setScore name value).pools[i]? = some p := at_i
  rw [poolScore_eq at_i_still, poolScore_eq at_i, setScore, Std.ExtTreeMap.getD_insert]
  simp only [Std.LawfulEqCmp.compare_eq_iff_eq]
  split <;> rfl

theorem determines_iff (at_i : s.pools[i]? = some p) :
    s.Determines name i ↔ name = p.entryName := by
  constructor
  · intro ⟨value, changed⟩
    rw [poolScore_setScore at_i] at changed
    exact Classical.byContradiction fun other => changed (if_neg other)
  · rintro rfl
    -- Of two different values one is not the score that is there.
    have set (value : Score) : (s.setScore p.entryName value).poolScore i = some value := by
      rw [poolScore_setScore at_i, if_pos rfl]
    by_cases is_zero : s.poolScore i = some .zero
    · refine ⟨.infinity, ?_⟩
      rw [set, is_zero]
      decide
    · refine ⟨.zero, ?_⟩
      rw [set]
      exact Ne.symm is_zero

/-- The entry of a pool is its score, and it leaves that of another pool as it is exactly if the two
are not entangled. Without slashes in nodes, or without slashes in names, no two are. -/
theorem scores_independent_iff (at_i : s.pools[i]? = some p) (at_j : s.pools[j]? = some q)
    (apart : p.node ≠ q.node ∨ p.name ≠ q.name) :
    (∀ value, (s.setScore p.entryName value).poolScore i = some value) ∧
    ((∀ value, (s.setScore p.entryName value).poolScore j = s.poolScore j) ↔ ¬ p.Entangled q) ∧
    ((∃ name, s.Determines name i ∧ s.Determines name j) ↔ p.Entangled q) ∧
    (('/' ∉ p.node.toList ∧ '/' ∉ q.node.toList) ∨ ('/' ∉ p.name.toList ∧ '/' ∉ q.name.toList) →
      ¬ p.Entangled q) := by
  have entangled_iff := StoragePool.entryName_eq_iff_entangled apart
  refine ⟨?_, ?_, ?_, StoragePool.not_entangled_of_slashless⟩
  · intro value
    rw [poolScore_setScore at_i, if_pos rfl]
  · rw [← entangled_iff, ← determines_iff at_j, Determines, not_exists]
    simp only [ne_eq, Classical.not_not]
  · simp only [determines_iff at_i, determines_iff at_j]
    rw [← entangled_iff]
    constructor
    · rintro ⟨name, of_p, of_q⟩
      exact of_p.symm.trans of_q
    · intro same
      exact ⟨_, rfl, same⟩

def crossing : Scenario where
  pools := [{ node := "rack1/n1", name := "ssd", kind := .lvm },
    { node := "rack1", name := "n1/ssd", kind := .lvm },
    { node := "rack2", name := "hdd", kind := .lvm }]

theorem scores_independent_iff_crossing :
    (¬ ∀ value, (crossing.setScore "rack1/n1/ssd" value).poolScore 1 = crossing.poolScore 1) ∧
      (∃ name, crossing.Determines name 0 ∧ crossing.Determines name 1) ∧
      ∀ value, (crossing.setScore "rack1/n1/ssd" value).poolScore 2 = crossing.poolScore 2 := by
  obtain ⟨-, second_kept_iff, shared_iff, -⟩ :=
    scores_independent_iff (s := crossing) (i := 0) (j := 1) rfl rfl (.inl (by decide))
  obtain ⟨-, third_kept_iff, -, slashless⟩ :=
    scores_independent_iff (s := crossing) (i := 0) (j := 2) rfl rfl (.inl (by decide))
  have entangled : StoragePool.Entangled ⟨"ssd", "rack1/n1", none, .lvm⟩
      ⟨"n1/ssd", "rack1", none, .lvm⟩ := .inl ⟨"n1", by decide, by decide⟩
  refine ⟨?_, shared_iff.mpr entangled, ?_⟩
  · intro kept
    exact second_kept_iff.mp kept entangled
  · exact third_kept_iff.mpr (slashless (.inr (by decide)))

theorem score_taken_from_other_pool :
    let five : Score := ⟨0x4014000000000000⟩
    crossing.pools.map (·.entryName) = ["rack1/n1/ssd", "rack1/n1/ssd", "rack2/hdd"] ∧
      (crossing.pools.map (·.node)).Nodup ∧ (crossing.pools.map (·.name)).Nodup ∧
      (List.range 3).map crossing.poolScore = [some .zero, some .zero, some .zero] ∧
      (List.range 3).map (crossing.setScore "rack1/n1/ssd" five).poolScore =
        [some five, some five, some .zero] := by
  intro five
  refine ⟨by decide, by decide, by decide, ?_, ?_⟩
  · rfl
  · rfl

end Scenario

end ReplicaPlacement
