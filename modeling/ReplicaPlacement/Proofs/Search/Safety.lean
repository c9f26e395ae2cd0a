import ReplicaPlacement.Proofs.Search.Attempts

namespace ReplicaPlacement

open Traced (FailsDenied Reports failsDenied_of_eq_ok failsDenied_denied reports_of_silent
  reports_report reports_report_pure)

namespace Event

def bound? : Event → Option (Nat × Score)
  | .cutOff start bound _ => some (start, bound)
  | .continued start bound => some (start, bound)
  | _ => none

/-- The bound, if the event tells one, is summed over candidates at positions in range. -/
def BoundInRange (ranked : List Candidate) (required : Nat) (e : Event) : Prop :=
  ∀ start bound, e.bound? = some (start, bound) →
    start + required ≤ ranked.length ∧
      bound = Candidate.total ((ranked.drop start).take required)

theorem boundInRange_of_none {ranked : List Candidate} {required : Nat} {e : Event}
    (none : e.bound? = none) : e.BoundInRange ranked required := by
  intro start bound told
  rw [none] at told
  contradiction

end Event

namespace Constraints

variable {k : Constraints} {t : Tracker} {c : Candidate} {required start : Nat}

theorem failsDenied_ofReply (p : Tracker × Option AccessDenied) :
    (ofReply .accessDenied p).FailsDenied := by
  obtain ⟨t, failure⟩ := p
  cases failure with
  | none => exact failsDenied_of_eq_ok rfl
  | some cause => exact failsDenied_denied cause

theorem failsDenied_restart (t : Tracker) : (k.restart t).FailsDenied := by
  rw [restart_eq]
  exact failsDenied_ofReply _

theorem failsDenied_consider (t : Tracker) (c : Candidate) : (k.consider t c).FailsDenied := by
  intro e failed
  rw [outcome_consider] at failed
  cases admitted : k.admissible t c with
  | error cause =>
      rw [admitted] at failed
      exact ⟨cause, (Except.error.inj failed).symm⟩
  | ok b =>
      rw [admitted] at failed
      contradiction

theorem failsDenied_pick (t : Tracker) (c : Candidate) : (k.pick t c).FailsDenied := by
  rw [pick_eq]
  exact FailsDenied.bind (failsDenied_of_eq_ok rfl) fun _ _ => failsDenied_ofReply _

/-- Giving a pick back never loses a kind that the selection started with. -/
theorem failsDenied_undo (sound : k.Sound t) (member : c ∈ t.selection) :
    (k.undo t c).FailsDenied := by
  rw [undo_eq]
  refine FailsDenied.bind (failsDenied_of_eq_ok rfl) fun _ _ => ?_
  unfold unselect
  simp only [keepsSeed_withdraw sound member, if_true]
  cases k.rebuild (withdraw t c) with
  | mk u failure =>
      cases failure with
      | none => exact failsDenied_of_eq_ok rfl
      | some cause => exact failsDenied_denied cause

theorem failsDenied_complete (sound : k.Sound t) (unfinished : t.size < required)
    (candidates : List Candidate) : (k.complete required candidates t).FailsDenied := by
  induction candidates generalizing t with
  | nil => exact failsDenied_of_eq_ok rfl
  | cons c rest induction =>
      rw [complete]
      refine (failsDenied_consider t c).bind fun admitted considered => ?_
      cases admitted with
      | false => exact induction sound unfinished
      | true =>
          refine (failsDenied_pick t c).bind fun next picked => ?_
          have taken : k.take? t c = some next :=
            take?_eq_some_iff.mpr
              ⟨outcome_consider_eq_ok.mp considered, outcome_pick_eq_ok.mp picked⟩
          have size_eq := size_of_take? taken
          split
          next => exact failsDenied_of_eq_ok rfl
          next full =>
            have unfilled : next.size < required := by omega
            refine (induction (sound_of_take? sound taken) unfilled).bind ?_
            rintro ⟨found, u⟩ inner
            cases found with
            | true => exact failsDenied_of_eq_ok rfl
            | false =>
                -- The pick given back is one of the tracker's own, so its kind is not the seed's.
                obtain ⟨uSound, member, left⟩ := undone_of_exhausted sound taken unfilled inner
                refine (failsDenied_undo uSound member).bind fun undone undoRun => ?_
                obtain ⟨undoneSound, size_restored⟩ := left undone (outcome_undo_eq_ok.mp undoRun)
                exact induction undoneSound (size_restored.trans_lt unfinished)

theorem failsDenied_search (positive : 0 < required) (prune : Bool) (start : Nat)
    (candidates : List Candidate) (t : Tracker) (best : Option Selection) :
    (k.search prune required start candidates t best).FailsDenied := by
  induction candidates generalizing start t best with
  | nil => exact failsDenied_of_eq_ok rfl
  | cons c rest induction =>
      rw [search]
      split
      · exact failsDenied_of_eq_ok rfl
      · -- Whatever the attempt before left behind, this one starts from a sound tracker.
        refine (failsDenied_restart t).bind fun restarted restart => ?_
        rw [eq_anew_of_reset (outcome_restart_eq_ok.mp restart)]
        refine (failsDenied_complete (sound_anew apart_nil) positive _).bind ?_
        rintro ⟨found, u⟩ -
        cases found with
        | false => exact failsDenied_of_eq_ok rfl
        | true =>
            refine (failsDenied_of_eq_ok (outcome_compete _ _)).bind fun best _ => ?_
            split
            · split
              · exact failsDenied_of_eq_ok rfl
              · exact FailsDenied.bind (failsDenied_of_eq_ok rfl) fun _ _ => induction _ _ _
            · exact induction _ _ _

variable {P : Event → Prop}

theorem reports_ofReply {ε : Type} (fault : ε → PlacementError) (p : Tracker × Option ε) :
    (ofReply fault p).Reports P := by
  obtain ⟨t, failure⟩ := p
  cases failure <;> exact reports_of_silent rfl

theorem reports_restart (t : Tracker) : (k.restart t).Reports P := by
  rw [restart_eq]
  exact reports_ofReply _ _

theorem reports_complete (rejected : ∀ c reason, P (.rejected c reason))
    (added : ∀ c, P (.added c)) (removed : ∀ c, P (.removed c)) (candidates : List Candidate)
    (t : Tracker) : (k.complete required candidates t).Reports P := by
  induction candidates generalizing t with
  | nil => exact reports_of_silent rfl
  | cons c rest induction =>
      have considered : (k.consider t c).Reports P := by
        unfold consider
        split
        · exact reports_of_silent rfl
        · exact reports_of_silent rfl
        · exact reports_report_pure (rejected c _)
      have picked : (k.pick t c).Reports P := by
        rw [pick_eq]
        exact (reports_report (added c)).bind fun _ _ => reports_ofReply _ _
      have undone (u : Tracker) : (k.undo u c).Reports P := by
        rw [undo_eq]
        exact (reports_report (removed c)).bind fun _ _ => reports_ofReply _ _
      rw [complete]
      refine considered.bind fun admitted _ => ?_
      cases admitted with
      | false => exact induction t
      | true =>
          refine picked.bind fun next _ => ?_
          split
          · exact reports_of_silent rfl
          · refine (induction next).bind ?_
            rintro ⟨found, u⟩ -
            cases found with
            | true => exact reports_of_silent rfl
            | false => exact (undone u).bind fun undone _ => induction undone

theorem boundInRange_compete {ranked : List Candidate} (best : Option Selection)
    (current : Selection) :
    (compete best current).Reports (Event.BoundInRange ranked required) := by
  unfold compete
  split <;> exact reports_report_pure (Event.boundInRange_of_none rfl)

theorem boundInRange_of_told {ranked rest : List Candidate} {e : Event}
    (rest_eq : ranked.drop (start + 1) = rest) (possible : required ≤ rest.length)
    (positive : 0 < required)
    (told : e.bound? = some (start + 1, bound required rest)) :
    e.BoundInRange ranked required := by
  intro position sum equality
  rw [told, Option.some.injEq, Prod.mk.injEq] at equality
  obtain ⟨rfl, rfl⟩ := equality
  have length_eq := congrArg List.length rest_eq
  rw [List.length_drop] at length_eq
  exact ⟨by omega, by rw [rest_eq, bound]⟩

theorem boundInRange_search (positive : 0 < required) (ranked : List Candidate) (prune : Bool)
    (start : Nat) (t : Tracker) (best : Option Selection) :
    (k.search prune required start (ranked.drop start) t best).Reports
      (Event.BoundInRange ranked required) := by
  induction candidates : ranked.drop start generalizing start t best with
  | nil =>
      rw [search]
      exact reports_report_pure (Event.boundInRange_of_none rfl)
  | cons c rest induction =>
      obtain ⟨-, rest_eq⟩ := entry_of_drop_eq_cons candidates
      have later (u : Tracker) (best : Option Selection) :
          (k.search prune required (start + 1) rest u best).Reports
            (Event.BoundInRange ranked required) := induction (start + 1) u best rest_eq
      rw [search]
      split
      · exact reports_report_pure (Event.boundInRange_of_none rfl)
      · refine (reports_restart t).bind fun restarted _ => ?_
        have completing : (k.complete required (c :: rest) restarted).Reports
            (Event.BoundInRange ranked required) :=
          reports_complete (fun _ _ => Event.boundInRange_of_none rfl)
            (fun _ => Event.boundInRange_of_none rfl) (fun _ => Event.boundInRange_of_none rfl) _ _
        refine completing.bind ?_
        rintro ⟨found, u⟩ -
        cases found with
        | false => exact reports_report_pure (Event.boundInRange_of_none rfl)
        | true =>
            refine (boundInRange_compete _ _).bind fun best _ => ?_
            split
            next possible =>
              rw [Bool.and_eq_true, decide_eq_true_eq] at possible
              have inRange {e : Event} (told : e.bound? = some (start + 1, bound required rest)) :
                  e.BoundInRange ranked required :=
                boundInRange_of_told rest_eq possible.2 positive told
              split
              · exact reports_report_pure (inRange rfl)
              · exact Reports.bind (reports_report (inRange rfl)) fun _ _ => later u best
            next => exact later u best

end Constraints

end ReplicaPlacement
