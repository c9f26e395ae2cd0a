import ReplicaPlacement.Proofs.Tracker.Stepwise
import ReplicaPlacement.Session

namespace ReplicaPlacement

namespace Constraints

variable (k : Constraints)

def after (t : Tracker) (calls : List Call) : Tracker :=
  calls.foldl (fun t call => (k.reply t call).tracker) t

/-- What a caller has to see to before a call. -/
def Rightful (t : Tracker) : Call → Prop
  | .reset => True
  | .select c => k.admissible t c = .ok true
  | .unselect c => c ∈ t.selection
  | .ask _ => True

instance (t : Tracker) : (call : Call) → Decidable (k.Rightful t call)
  | .reset => inferInstanceAs (Decidable True)
  | .select c => inferInstanceAs (Decidable (k.admissible t c = .ok true))
  | .unselect c => inferInstanceAs (Decidable (c ∈ t.selection))
  | .ask _ => inferInstanceAs (Decidable True)

def Orderly : Tracker → List Call → Prop
  | _, [] => True
  | t, call :: calls =>
    (k.Rightful t call ∧ (k.reply t call).answer.isOk = true) ∧
      Orderly (k.reply t call).tracker calls

instance decidableOrderly : (t : Tracker) → (calls : List Call) → Decidable (k.Orderly t calls)
  | _, [] => inferInstanceAs (Decidable True)
  | t, call :: calls =>
    have := decidableOrderly (k.reply t call).tracker calls
    inferInstanceAs (Decidable ((k.Rightful t call ∧ (k.reply t call).answer.isOk = true) ∧
      k.Orderly (k.reply t call).tracker calls))

/-- A tracker that stands for its picks: besides what was occupied it holds just what is theirs, and
it shows what it shows when rebuilt, and what the fresh one shows that takes the picks in. -/
structure Canonical (fresh t : Tracker) : Prop where
  mem_nodes_iff : ∀ node,
    node ∈ t.nodes ↔ node ∈ k.occupied.nodes ∨ ∃ c ∈ t.selection, c.node = node
  mem_sharedNames_iff : ∀ name,
    name ∈ t.sharedNames ↔
      name ∈ k.occupied.sharedNames ∨ ∃ c ∈ t.selection, c.sharedName = some name
  apart : k.Apart t.selection
  kinds_perm : t.kinds.Perm (k.seedKinds ++ t.selection.map (·.kind))
  rebuilt : ∃ u, k.rebuild t = (u, none) ∧ u.view = t.view
  replayed : ∃ u, k.takeAll? fresh t.selection = some u ∧ u.view = t.view

variable {k} {t t' fresh : Tracker} {c : Candidate}

theorem isOk_done {failure : Option PlacementError} :
    (done failure).isOk = true ↔ failure = none := by
  cases failure <;> simp [done, Except.isOk, Except.toBool]

theorem stepwise_of_unselect (sound : k.Sound t) (stepwise : k.Stepwise t.selection)
    (member : c ∈ t.selection) (run : k.unselect t c = (t', none)) : k.Stepwise t'.selection := by
  have selection_eq : t'.selection = t.selection.erase c := by
    rw [eq_rebuilt_of_unselect run]
    exact erase_eq_filter sound.apart member
  -- The picks after the one given back joined more than what is left.
  rw [selection_eq]
  exact stepwise.of_sublist List.erase_sublist

theorem preserved_of_reply {call : Call} (sound : k.Sound t) (stepwise : k.Stepwise t.selection)
    (rightful : k.Rightful t call) (succeeded : (k.reply t call).answer.isOk = true) :
    k.Sound (k.reply t call).tracker ∧ k.Stepwise (k.reply t call).tracker.selection := by
  cases call with
  | reset =>
      have failure : (k.reset t).2 = none := Option.map_eq_none_iff.mp (isOk_done.mp succeeded)
      have run : k.reset t = ((k.reply t .reset).tracker, none) := Prod.ext rfl failure
      rw [eq_anew_of_reset run]
      exact ⟨sound_anew apart_nil, .nil⟩
  | select c =>
      have failure : (k.select t c).2 = none := Option.map_eq_none_iff.mp (isOk_done.mp succeeded)
      have taken : k.take? t c = some (k.reply t (.select c)).tracker :=
        take?_eq_some_iff.mpr ⟨rightful, Prod.ext rfl failure⟩
      exact ⟨sound_of_take? sound taken, stepwise.of_take? sound taken⟩
  | unselect c =>
      have failure : (k.unselect t c).2 = none := isOk_done.mp succeeded
      have run : k.unselect t c = ((k.reply t (.unselect c)).tracker, none) :=
        Prod.ext rfl failure
      exact ⟨sound_of_unselect sound rightful run,
        stepwise_of_unselect sound stepwise rightful run⟩
  | ask c =>
      have unchanged : (k.reply t (.ask c)).tracker = t := by
        simp only [reply]
        split <;> rfl
      rw [unchanged]
      exact ⟨sound, stepwise⟩

theorem preserved_of_orderly {calls : List Call} (sound : k.Sound t)
    (stepwise : k.Stepwise t.selection) (orderly : k.Orderly t calls) :
    k.Sound (k.after t calls) ∧ k.Stepwise (k.after t calls).selection := by
  induction calls generalizing t with
  | nil => exact ⟨sound, stepwise⟩
  | cons call calls induction =>
      obtain ⟨⟨rightful, succeeded⟩, others⟩ := orderly
      obtain ⟨nextSound, nextStepwise⟩ := preserved_of_reply sound stepwise rightful succeeded
      exact induction nextSound nextStepwise others

theorem canonical_of_stepwise (ready : k.fresh = .ok fresh) (sound : k.Sound t)
    (stepwise : k.Stepwise t.selection) : k.Canonical fresh t := by
  constructor
  case mem_nodes_iff =>
    intro node
    rw [sound.nodes_eq, mem_nodesWith]
  case mem_sharedNames_iff =>
    intro name
    rw [sound.sharedNames_eq, mem_sharedNamesWith]
  case apart => exact sound.apart
  case kinds_perm => exact Multiset.coe_eq_coe.mp sound.kinds_eq
  case rebuilt =>
    have rebuildable := stepwise.rebuildable (rebuildable_of_fresh ready)
    rw [← sound.nodes_eq] at rebuildable
    exact ⟨_, rebuildable.rebuild_eq, sound.view_rebuilt⟩
  case replayed =>
    obtain ⟨u, taken, view_eq⟩ := stepwise.exists_takeAll?
    rw [eq_anew_of_fresh ready]
    exact ⟨u, taken, view_eq.trans sound.view_eq.symm⟩

/-- After an orderly history a tracker is canonical, and what it answers depends on no more than
which picks are left; after any history starting over makes it the fresh one. -/
theorem picks_determine_tracker (ready : k.fresh = .ok fresh) :
    (∀ calls, k.Orderly fresh calls → k.Canonical fresh (k.after fresh calls)) ∧
    (∀ calls others, k.Orderly fresh calls → k.Orderly fresh others →
      (∀ c, c ∈ (k.after fresh calls).selection ↔ c ∈ (k.after fresh others).selection) →
      ∀ c, k.admissible (k.after fresh calls) c = k.admissible (k.after fresh others) c) ∧
    ∀ calls, k.reset (k.after fresh calls) = (fresh, none) := by
  have start : k.Sound fresh ∧ k.Stepwise fresh.selection := by
    rw [eq_anew_of_fresh ready]
    exact ⟨sound_anew apart_nil, .nil⟩
  have preserved (calls : List Call) (orderly : k.Orderly fresh calls) :=
    preserved_of_orderly start.1 start.2 orderly
  refine ⟨?_, ?_, ?_⟩
  · intro calls orderly
    exact canonical_of_stepwise ready (preserved calls orderly).1 (preserved calls orderly).2
  · intro calls others orderly otherOrderly alike c
    exact (preserved calls orderly).1.admissible_eq (preserved others otherOrderly).1 alike c
  · intro calls
    exact reset_eq_of_fresh ready _

/-- The pool on `n3` can be picked only once that on `n1` was given back. -/
def oneSite : Constraints where
  filter := { sameRules := [⟨"site", none⟩], differentRules := [⟨"rack", none⟩] }
  occupied := { nodes := (∅ : NameSet).insert "n0", kinds := [.lvm] }
  properties
    | "n1", "site" | "n2", "site" | "n3", "site" => .ok (some "east")
    | "n1", "rack" | "n3", "rack" => .ok (some "r1")
    | _, _ => .ok none
  mixing := .standard

def poolOn (node : String) : Candidate := { name := "p", node, kind := .lvm, score := .zero }

theorem picks_determine_tracker_oneSite :
    let fresh := oneSite.anew []
    let detour : List Call :=
      [.select (poolOn "n1"), .select (poolOn "n2"), .unselect (poolOn "n1"),
        .select (poolOn "n3")]
    let direct : List Call := [.select (poolOn "n3"), .select (poolOn "n2")]
    oneSite.fresh = .ok fresh ∧ oneSite.Canonical fresh (oneSite.after fresh detour) ∧
      (∀ c, oneSite.admissible (oneSite.after fresh detour) c =
        oneSite.admissible (oneSite.after fresh direct) c) ∧
      oneSite.reset (oneSite.after fresh (detour ++ detour)) = (fresh, none) := by
  intro fresh detour direct
  have ready : oneSite.fresh = .ok fresh := by decide +kernel
  obtain ⟨canonical, alike, restarted⟩ := picks_determine_tracker ready
  have detour_orderly : oneSite.Orderly fresh detour := by decide +kernel
  have direct_orderly : oneSite.Orderly fresh direct := by decide +kernel
  refine ⟨ready, canonical detour detour_orderly, ?_, restarted (detour ++ detour)⟩
  apply alike detour direct detour_orderly direct_orderly
  have detour_picks : (oneSite.after fresh detour).selection = [poolOn "n2", poolOn "n3"] := by
    decide +kernel
  have direct_picks : (oneSite.after fresh direct).selection = [poolOn "n3", poolOn "n2"] := by
    decide +kernel
  intro c
  rw [detour_picks, direct_picks]
  simp [or_comm]

end Constraints

end ReplicaPlacement
