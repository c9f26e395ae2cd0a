import ReplicaPlacement.Proofs.Search.Complete

namespace ReplicaPlacement

/-- Everything is as in `t`, where the values taken on a key may stand in another order. -/
structure Tracker.Restores (u t : Tracker) : Prop where
  nodes : u.nodes = t.nodes
  sharedNames : u.sharedNames = t.sharedNames
  kinds : u.kinds = t.kinds
  selection : u.selection = t.selection
  same : u.same = t.same
  taken : ∀ key : String, Option.Rel List.Perm u.taken[key]? t.taken[key]?

theorem Tracker.restores_of_view_eq {u t : Tracker} (equality : u.view = t.view)
    (kinds : u.kinds = t.kinds) : u.Restores t where
  nodes := congrArg View.nodes equality
  sharedNames := congrArg View.sharedNames equality
  kinds := kinds
  selection := congrArg View.selection equality
  same := congrArg View.same equality
  taken key := by
    have entries : u.view.taken[key]? = t.view.taken[key]? := by rw [equality]
    rw [getElem?_taken_view, getElem?_taken_view] at entries
    cases first : u.taken[key]? with
    | none =>
        cases second : t.taken[key]? with
        | none => exact .none
        | some values => simp [first, second] at entries
    | some values =>
        cases second : t.taken[key]? with
        | none => simp [first, second] at entries
        | some others =>
            rw [first, second, Option.map_some, Option.map_some, Option.some.injEq] at entries
            exact .some (Multiset.coe_eq_coe.mp entries)

theorem eraseLast_append_singleton (kind : ProviderKind) (kinds : List ProviderKind) :
    eraseLast kind (kinds ++ [kind]) = kinds := by
  rw [eraseLast, List.reverse_append, List.reverse_singleton, List.singleton_append,
    List.erase_cons_head, List.reverse_reverse]

namespace Constraints

variable {k : Constraints} {t u : Tracker} {c : Candidate} {required : Nat}

theorem kinds_of_take? {next : Tracker} (taken : k.take? t c = some next) :
    next.kinds = t.kinds ++ [c.kind] := by
  rw [(take?_eq_some_iff_joins.mp taken).2]
  rfl

theorem kinds_of_unselect {undone : Tracker} (undo : k.unselect u c = (undone, none)) :
    undone.kinds = eraseLast c.kind u.kinds := by
  rw [eq_rebuilt_of_unselect undo]
  rfl

theorem kinds_of_exhausted {candidates : List Candidate}
    (run : (k.complete required candidates t).outcome = .ok (false, u)) : u.kinds = t.kinds := by
  induction candidates generalizing t u with
  | nil =>
      rw [complete, Traced.outcome_pure, Except.ok.injEq] at run
      rw [(Prod.mk.inj run).2]
  | cons c rest induction =>
      cases completeStep_of_complete run with
      | rejected refused others => exact induction others
      | @givenBack next tried undone _ taken unfilled inner undo others =>
          calc
            u.kinds = undone.kinds := induction others
            _ = eraseLast c.kind tried.kinds := kinds_of_unselect undo
            _ = eraseLast c.kind (t.kinds ++ [c.kind]) := by
              rw [induction inner, kinds_of_take? taken]
            _ = t.kinds := eraseLast_append_singleton c.kind t.kinds

theorem restores_of_exhausted {candidates : List Candidate} (sound : k.Sound t)
    (unfinished : t.size < required)
    (run : (k.complete required candidates t).outcome = .ok (false, u)) : u.Restores t :=
  Tracker.restores_of_view_eq (view_of_exhausted sound unfinished run) (kinds_of_exhausted run)

/-- With every look-up answered, completing a selection finds the first picks that complete it, or
comes to nothing, which it does exactly if there are none, and then restores the tracker. -/
theorem complete_finds_first_or_restores
    (answers : ∀ node key, ∃ v, k.properties node key = .ok v) {origin fresh : Tracker}
    (reset : k.reset origin = (fresh, none)) {picks : List Candidate}
    (reached : k.takeAll? fresh picks = some t) (unfinished : t.size < required)
    (ranked : List Candidate) (start : Nat) :
    ∃ found t', (k.complete required (ranked.drop start) t).outcome = .ok (found, t') ∧
      (found = false ↔
        ∀ positions, ¬ k.Combination t ranked (required - t.size) start positions) ∧
      (found = false → t'.Restores t) ∧
      (found = true → ∃ positions,
        k.FirstCombination t ranked (required - t.size) start positions ∧
          t'.selection = t.selection ++ picksAt ranked positions) := by
  have sound : k.Sound t := by
    rw [eq_anew_of_reset reset] at reached
    exact sound_of_takeAll? (sound_anew apart_nil) reached
  obtain ⟨⟨found, t'⟩, run⟩ :=
    exists_complete (readable_of_answers answers) sound unfinished (ranked.drop start)
  refine ⟨found, t', run, ?_⟩
  cases completed_of_complete run sound unfinished with
  | found first extended =>
      refine ⟨⟨nofun, ?_⟩, nofun, fun _ => ⟨_, first, extended⟩⟩
      intro absent
      exact absurd first.toCombination (absent _)
  | exhausted absent =>
      exact ⟨⟨fun _ => absent, fun _ => rfl⟩, fun _ => restores_of_exhausted sound unfinished run,
        nofun⟩

/-- The pool on `n3` shares its rack with that on `n4` and its backend with that on `n5`, so that it
has to be given back. -/
def apartByRack : Constraints where
  filter := { differentRules := [⟨"rack", none⟩] }
  occupied := {}
  properties
    | "n1", "rack" => .ok (some "r1")
    | "n2", "rack" => .ok (some "r2")
    | "n3", "rack" | "n4", "rack" => .ok (some "r3")
    | _, _ => .ok none
  mixing := .standard

def onFive : List Candidate :=
  [{ name := "p", node := "n2", kind := .lvm, score := .zero },
    { name := "p", node := "n1", kind := .lvmThin, score := .zero },
    { name := "p", node := "n3", sharedName := some "san", kind := .lvm, score := .zero },
    { name := "p", node := "n4", kind := .lvm, score := .zero },
    { name := "p", node := "n5", sharedName := some "san", kind := .lvm, score := .zero }]

theorem complete_finds_first_or_restores_apartByRack :
    let fresh := apartByRack.anew []
    let t := (apartByRack.takeAll? fresh (onFive.take 2)).getD fresh
    (∃ u, (apartByRack.complete 4 ((onFive.take 4).drop 2) t).outcome = .ok (false, u) ∧
      u.Restores t ∧ t.taken["rack"]? = some ["r2", "r1"] ∧
        u.taken["rack"]? = some ["r1", "r2"]) ∧
    ∃ u positions, (apartByRack.complete 4 (onFive.drop 2) t).outcome = .ok (true, u) ∧
      apartByRack.FirstCombination t onFive 2 2 positions ∧
        u.selection = t.selection ++ picksAt onFive positions := by
  intro fresh t
  have answers (node key : String) : ∃ v, apartByRack.properties node key = .ok v := by
    unfold apartByRack
    dsimp only
    split <;> exact ⟨_, rfl⟩
  have reset : apartByRack.reset {} = (fresh, none) :=
    (readable_of_answers answers).reset_eq {}
  have reached : apartByRack.takeAll? fresh (onFive.take 2) = some t := by decide +kernel
  have unfinished : t.size < 4 := by decide +kernel
  have after_reset := complete_finds_first_or_restores answers reset reached unfinished
  constructor
  · obtain ⟨found, u, run, -, restores, -⟩ := after_reset (onFive.take 4) 2
    have outcome : (apartByRack.complete 4 ((onFive.take 4).drop 2) t).outcome =
        .ok (false, apartByRack.anew (onFive.take 2)) := by decide +kernel
    rw [run, Except.ok.injEq, Prod.mk.injEq] at outcome
    obtain ⟨rfl, rfl⟩ := outcome
    exact ⟨_, run, restores rfl, by decide +kernel, by decide +kernel⟩
  · obtain ⟨found, u, run, -, -, completes⟩ := after_reset onFive 2
    have outcome : (apartByRack.complete 4 (onFive.drop 2) t).outcome.map Prod.fst = .ok true := by
      decide +kernel
    rw [run] at outcome
    obtain rfl : found = true := Except.ok.inj outcome
    obtain ⟨positions, first, extended⟩ := completes rfl
    exact ⟨u, positions, run, first, extended⟩

end Constraints

end ReplicaPlacement
