import ReplicaPlacement.Proofs.Search.Complete

namespace ReplicaPlacement

namespace Constraints

/-- Whatever a call of the tracker succeeds with under `k`, it succeeds with under `k'`. -/
structure MatchedBy (k k' : Constraints) : Prop where
  reset {t t' : Tracker} : k.reset t = (t', none) → k'.reset t = (t', none)
  admissible {t : Tracker} {c : Candidate} {b : Bool} :
    k.admissible t c = .ok b → k'.admissible t c = .ok b
  select {t t' : Tracker} {c : Candidate} :
    k.select t c = (t', none) → k'.select t c = (t', none)
  unselect {t t' : Tracker} {c : Candidate} :
    k.unselect t c = (t', none) → k'.unselect t c = (t', none)

namespace MatchedBy

variable {k k' : Constraints}

theorem take? (matched : k.MatchedBy k') {t next : Tracker} {c : Candidate}
    (taken : k.take? t c = some next) : k'.take? t c = some next := by
  obtain ⟨admitted, run⟩ := take?_eq_some_iff.mp taken
  exact take?_eq_some_iff.mpr ⟨matched.admissible admitted, matched.select run⟩

theorem takeAll? (matched : k.MatchedBy k') {t last : Tracker} {picks : List Candidate}
    (taken : k.takeAll? t picks = some last) : k'.takeAll? t picks = some last := by
  induction picks generalizing t with
  | nil => exact taken
  | cons c rest induction =>
      obtain ⟨next, first, others⟩ := Option.bind_eq_some_iff.mp taken
      rw [Constraints.takeAll?, matched.take? first, Option.bind_some, induction others]

theorem stepwise (matched : k.MatchedBy k') (ready : k.Rebuildable k.occupied.nodes)
    {picks : List Candidate} (stepwise : k.Stepwise picks) : k'.Stepwise picks := by
  have fresh_eq : k.anew [] = k'.anew [] := eq_anew_of_reset (matched.reset (ready.reset_eq {}))
  obtain ⟨last, taken, -⟩ := stepwise.exists_takeAll?
  rw [stepwise_iff_isSome_takeAll?, ← fresh_eq, matched.takeAll? taken]
  rfl

theorem restart (matched : k.MatchedBy k') (t : Tracker) :
    (k.restart t).MatchedBy (k'.restart t) :=
  fun _ run => outcome_restart_eq_ok.mpr (matched.reset (outcome_restart_eq_ok.mp run))

theorem consider (matched : k.MatchedBy k') (t : Tracker) (c : Candidate) :
    (k.consider t c).MatchedBy (k'.consider t c) :=
  fun _ run => outcome_consider_eq_ok.mpr (matched.admissible (outcome_consider_eq_ok.mp run))

theorem pick (matched : k.MatchedBy k') (t : Tracker) (c : Candidate) :
    (k.pick t c).MatchedBy (k'.pick t c) :=
  fun _ run => outcome_pick_eq_ok.mpr (matched.select (outcome_pick_eq_ok.mp run))

theorem undo (matched : k.MatchedBy k') (t : Tracker) (c : Candidate) :
    (k.undo t c).MatchedBy (k'.undo t c) :=
  fun _ run => outcome_undo_eq_ok.mpr (matched.unselect (outcome_undo_eq_ok.mp run))

theorem complete (matched : k.MatchedBy k') (required : Nat) (candidates : List Candidate)
    (t : Tracker) :
    (k.complete required candidates t).MatchedBy (k'.complete required candidates t) := by
  induction candidates generalizing t with
  | nil => exact .of_outcome_eq rfl
  | cons c rest induction =>
      rw [Constraints.complete, Constraints.complete]
      refine (matched.consider t c).bind fun admitted => ?_
      cases admitted with
      | false => exact induction t
      | true =>
          refine (matched.pick t c).bind fun next => ?_
          split
          · exact .of_outcome_eq rfl
          · refine (induction next).bind ?_
            rintro ⟨found, u⟩
            cases found with
            | true => exact .of_outcome_eq rfl
            | false => exact (matched.undo u c).bind fun undone => induction undone

theorem search (matched : k.MatchedBy k') (prune : Bool) (required start : Nat)
    (candidates : List Candidate) (t : Tracker) (best : Option Selection) :
    (k.search prune required start candidates t best).MatchedBy
      (k'.search prune required start candidates t best) := by
  induction candidates generalizing start t best with
  | nil => exact .of_outcome_eq rfl
  | cons c rest induction =>
      rw [Constraints.search, Constraints.search]
      split
      · exact .of_outcome_eq rfl
      · refine (matched.restart t).bind fun restarted => ?_
        refine (matched.complete required (c :: rest) restarted).bind ?_
        rintro ⟨found, u⟩
        cases found with
        | false => exact .of_outcome_eq rfl
        | true =>
            -- The cut compares the same scores in both, for the picks are the same.
            refine (Traced.MatchedBy.of_outcome_eq rfl).bind fun best => ?_
            split
            · split
              · exact .of_outcome_eq rfl
              · exact (Traced.MatchedBy.of_outcome_eq rfl).bind fun _ => induction _ u best
            · exact induction _ u best

end MatchedBy

end Constraints

end ReplicaPlacement
