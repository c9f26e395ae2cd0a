import ReplicaPlacement.Proofs.Selection.Select
import ReplicaPlacement.Proofs.Tracker.History

namespace ReplicaPlacement

namespace Constraints

def Reaches (k : Constraints) (t u : Tracker) : Prop :=
  ∃ calls, k.Orderly t calls ∧ k.after t calls = u

variable {k : Constraints} {t u v t' next fresh : Tracker} {c d : Candidate}
variable {required start : Nat} {candidates rest : List Candidate}
variable {cause : AccessDenied} {e : PlacementError}

theorem orderly_append {calls others : List Call} :
    k.Orderly t (calls ++ others) ↔ k.Orderly t calls ∧ k.Orderly (k.after t calls) others := by
  induction calls generalizing t with
  | nil => simp [Orderly, after]
  | cons call calls induction =>
      rw [List.cons_append, Orderly, Orderly, induction, and_assoc, and_assoc, and_assoc]
      rfl

namespace Reaches

theorem refl (t : Tracker) : k.Reaches t t := ⟨[], trivial, rfl⟩

theorem trans (first : k.Reaches t u) (second : k.Reaches u v) : k.Reaches t v := by
  obtain ⟨calls, orderly, rfl⟩ := first
  obtain ⟨others, otherOrderly, rfl⟩ := second
  exact ⟨calls ++ others, orderly_append.mpr ⟨orderly, otherOrderly⟩, List.foldl_append⟩

theorem of_take? (taken : k.take? t c = some u) : k.Reaches t u := by
  obtain ⟨admitted, run⟩ := take?_eq_some_iff.mp taken
  refine ⟨[.select c], ?_, ?_⟩
  · simp [Orderly, Rightful, reply, run, admitted, isOk_done]
  · simp [after, reply, run]

theorem of_unselect (member : c ∈ t.selection) (run : k.unselect t c = (u, none)) :
    k.Reaches t u := by
  refine ⟨[.unselect c], ?_, ?_⟩
  · simp [Orderly, Rightful, reply, run, member, isOk_done]
  · simp [after, reply, run]

theorem preserves (reaches : k.Reaches t u) (sound : k.Sound t)
    (stepwise : k.Stepwise t.selection) : k.Sound u ∧ k.Stepwise u.selection := by
  obtain ⟨calls, orderly, rfl⟩ := reaches
  exact preserved_of_orderly sound stepwise orderly

theorem of_givenBack (sound : k.Sound t) (taken : k.take? t c = some next)
    (unfilled : next.size < required)
    (inner : (k.complete required rest next).outcome = .ok (false, v))
    (undo : k.unselect v c = (u, none)) (reached : k.Reaches next v) : k.Reaches t u := by
  obtain ⟨-, member, -⟩ := undone_of_exhausted sound taken unfilled inner
  exact ((of_take? taken).trans reached).trans (of_unselect member undo)

theorem of_complete {r : Bool × Tracker}
    (run : (k.complete required candidates t).outcome = .ok r) (sound : k.Sound t)
    (unfinished : t.size < required) : k.Reaches t r.2 := by
  induction candidates generalizing t r with
  | nil =>
      rw [complete, Traced.outcome_pure, Except.ok.injEq] at run
      rw [← run]
      exact refl t
  | cons c rest induction =>
      cases completeStep_of_complete run with
      | rejected _ others => exact induction others sound unfinished
      | last taken => exact of_take? taken
      | kept taken full inner =>
          have unfilled := size_lt_of_take? taken unfinished full
          exact (of_take? taken).trans (induction inner (sound_of_take? sound taken) unfilled)
      | givenBack taken full inner undo others =>
          have unfilled := size_lt_of_take? taken unfinished full
          obtain ⟨-, -, left⟩ := undone_of_exhausted sound taken unfilled inner
          obtain ⟨undoneSound, size_restored⟩ := left _ undo
          have reached := induction inner (sound_of_take? sound taken) unfilled
          exact (of_givenBack sound taken unfilled inner undo reached).trans
            (induction others undoneSound (size_restored.trans_lt unfinished))

end Reaches

inductive FailedStep (k : Constraints) (required : Nat) (c : Candidate) (rest : List Candidate)
    (t : Tracker) (e : PlacementError) : Prop where
  | considered : (k.consider t c).outcome = .error e → FailedStep k required c rest t e
  | picked :
      k.admissible t c = .ok true → (k.pick t c).outcome = .error e →
      FailedStep k required c rest t e
  | rejected :
      k.admissible t c = .ok false → (k.complete required rest t).outcome = .error e →
      FailedStep k required c rest t e
  | taken {next : Tracker} :
      k.take? t c = some next → next.size ≠ required →
      (k.complete required rest next).outcome = .error e → FailedStep k required c rest t e
  | undone {next v : Tracker} :
      k.take? t c = some next → next.size ≠ required →
      (k.complete required rest next).outcome = .ok (false, v) →
      (k.undo v c).outcome = .error e → FailedStep k required c rest t e
  | givenBack {next v u : Tracker} :
      k.take? t c = some next → next.size ≠ required →
      (k.complete required rest next).outcome = .ok (false, v) → k.unselect v c = (u, none) →
      (k.complete required rest u).outcome = .error e → FailedStep k required c rest t e

theorem failedStep_of_complete
    (failed : (k.complete required (c :: rest) t).outcome = .error e) :
    FailedStep k required c rest t e := by
  rw [complete, Traced.outcome_bind_eq_error] at failed
  rcases failed with failed | ⟨admitted, considered, failed⟩
  · exact .considered failed
  rw [outcome_consider_eq_ok] at considered
  cases admitted with
  | false => exact .rejected considered failed
  | true =>
      dsimp only at failed
      rw [Traced.outcome_bind_eq_error] at failed
      rcases failed with failed | ⟨next, picked, failed⟩
      · exact .picked considered failed
      have taken : k.take? t c = some next :=
        take?_eq_some_iff.mpr ⟨considered, outcome_pick_eq_ok.mp picked⟩
      by_cases full : next.size = required
      · rw [if_pos full] at failed
        contradiction
      rw [if_neg full, Traced.outcome_bind_eq_error] at failed
      rcases failed with failed | ⟨⟨found, v⟩, inner, failed⟩
      · exact .taken taken full failed
      cases found with
      | true => contradiction
      | false =>
          dsimp only at failed
          rw [Traced.outcome_bind_eq_error] at failed
          rcases failed with failed | ⟨u, undo, failed⟩
          · exact .undone taken full inner failed
          · exact .givenBack taken full inner (outcome_undo_eq_ok.mp undo) failed

inductive Considers (k : Constraints) (required : Nat) :
    List Candidate → Tracker → Tracker → Candidate → Prop where
  | here {c : Candidate} {rest : List Candidate} {t : Tracker} :
      Considers k required (c :: rest) t t c
  | rejected {c d : Candidate} {rest : List Candidate} {t u : Tracker} :
      k.admissible t c = .ok false → Considers k required rest t u d →
      Considers k required (c :: rest) t u d
  | taken {c d : Candidate} {rest : List Candidate} {t next u : Tracker} :
      k.take? t c = some next → next.size ≠ required → Considers k required rest next u d →
      Considers k required (c :: rest) t u d
  | givenBack {c d : Candidate} {rest : List Candidate} {t next v undone u : Tracker} :
      k.take? t c = some next → next.size ≠ required →
      (k.complete required rest next).outcome = .ok (false, v) →
      k.unselect v c = (undone, none) → Considers k required rest undone u d →
      Considers k required (c :: rest) t u d

/-- A look-up is refused when the candidate is to be admitted, or to be taken in after it was. -/
inductive Refuses (k : Constraints) (t : Tracker) (c : Candidate) (cause : AccessDenied) :
    Prop where
  | admitting : k.admissible t c = .error cause → Refuses k t c cause
  | adding {left : Tracker} :
      k.admissible t c = .ok true → k.select t c = (left, some cause) → Refuses k t c cause

theorem Considers.reaches (considers : k.Considers required candidates t u d) (sound : k.Sound t)
    (unfinished : t.size < required) : k.Reaches t u := by
  induction considers with
  | here => exact .refl _
  | rejected _ _ induction => exact induction sound unfinished
  | taken taken full _ induction =>
      have unfilled := size_lt_of_take? taken unfinished full
      exact (Reaches.of_take? taken).trans (induction (sound_of_take? sound taken) unfilled)
  | givenBack taken full inner undo _ induction =>
      have unfilled := size_lt_of_take? taken unfinished full
      obtain ⟨-, -, left⟩ := undone_of_exhausted sound taken unfilled inner
      obtain ⟨undoneSound, size_restored⟩ := left _ undo
      have reached := Reaches.of_complete inner (sound_of_take? sound taken) unfilled
      exact (Reaches.of_givenBack sound taken unfilled inner undo reached).trans
        (induction undoneSound (size_restored.trans_lt unfinished))

theorem outcome_ofReply_eq_error {ε : Type} {fault : ε → PlacementError}
    {p : Tracker × Option ε} :
    (ofReply fault p).outcome = .error e ↔ ∃ failure, p.2 = some failure ∧ fault failure = e := by
  obtain ⟨u, failure⟩ := p
  cases failure <;> simp [ofReply]

theorem refuses_of_consider (failed : (k.consider t c).outcome = .error e) :
    ∃ cause, e = .accessDenied cause ∧ k.Refuses t c cause := by
  rw [outcome_consider] at failed
  cases admitted : k.admissible t c with
  | ok b => simp [admitted, Except.mapError] at failed
  | error cause =>
      rw [admitted] at failed
      exact ⟨cause, (Except.error.inj failed).symm, .admitting admitted⟩

theorem refuses_of_pick (admitted : k.admissible t c = .ok true)
    (failed : (k.pick t c).outcome = .error e) :
    ∃ cause, e = .accessDenied cause ∧ k.Refuses t c cause := by
  rw [pick_eq, Traced.outcome_bind_eq_error] at failed
  rcases failed with failed | ⟨-, -, failed⟩
  · contradiction
  · obtain ⟨cause, refused, rfl⟩ := outcome_ofReply_eq_error.mp failed
    exact ⟨cause, rfl, .adding admitted (Prod.ext rfl refused)⟩

theorem considers_of_complete (ready : k.Rebuildable k.occupied.nodes) (sound : k.Sound t)
    (stepwise : k.Stepwise t.selection) (unfinished : t.size < required)
    (failed : (k.complete required candidates t).outcome = .error e) :
    ∃ cause u d, e = .accessDenied cause ∧ k.Considers required candidates t u d ∧
      k.Refuses u d cause := by
  induction candidates generalizing t with
  | nil => contradiction
  | cons c rest induction =>
      cases failedStep_of_complete failed with
      | considered failed =>
          obtain ⟨cause, rfl, refuses⟩ := refuses_of_consider failed
          exact ⟨cause, t, c, rfl, .here, refuses⟩
      | picked admitted failed =>
          obtain ⟨cause, rfl, refuses⟩ := refuses_of_pick admitted failed
          exact ⟨cause, t, c, rfl, .here, refuses⟩
      | rejected refused failed =>
          obtain ⟨cause, u, d, rfl, considers, refuses⟩ :=
            induction sound stepwise unfinished failed
          exact ⟨cause, u, d, rfl, .rejected refused considers, refuses⟩
      | taken taken full failed =>
          obtain ⟨cause, u, d, rfl, considers, refuses⟩ :=
            induction (sound_of_take? sound taken) (stepwise.of_take? sound taken)
              (size_lt_of_take? taken unfinished full) failed
          exact ⟨cause, u, d, rfl, .taken taken full considers, refuses⟩
      | @undone next v taken full inner failed =>
          have nextSound := sound_of_take? sound taken
          have unfilled := size_lt_of_take? taken unfinished full
          obtain ⟨vSound, member, -⟩ := undone_of_exhausted sound taken unfilled inner
          have reached := Reaches.of_complete inner nextSound unfilled
          have vStepwise := (reached.preserves nextSound (stepwise.of_take? sound taken)).2
          -- Giving the pick back succeeds, so this is not how completing fails.
          have run := vStepwise.unselect_eq vSound ready member
          rw [outcome_undo_eq_ok.mpr run] at failed
          contradiction
      | @givenBack next v undone taken full inner undo failed =>
          have unfilled := size_lt_of_take? taken unfinished full
          obtain ⟨-, -, left⟩ := undone_of_exhausted sound taken unfilled inner
          obtain ⟨undoneSound, size_restored⟩ := left undone undo
          have reached := Reaches.of_complete inner (sound_of_take? sound taken) unfilled
          have restored := Reaches.of_givenBack sound taken unfilled inner undo reached
          obtain ⟨cause, u, d, rfl, considers, refuses⟩ :=
            induction undoneSound (restored.preserves sound stepwise).2
              (size_restored.trans_lt unfinished) failed
          exact ⟨cause, u, d, rfl, .givenBack taken full inner undo considers, refuses⟩

theorem considers_of_search {prune : Bool} {best : Option Selection} {ranked : List Candidate}
    (ready : k.fresh = .ok fresh) (positive : 0 < required)
    (failed : (k.search prune required start (ranked.drop start) t best).outcome = .error e) :
    ∃ cause s u d, e = .accessDenied cause ∧ k.Considers required (ranked.drop s) fresh u d ∧
      k.Refuses u d cause := by
  induction candidates : ranked.drop start generalizing start t best with
  | nil =>
      rw [candidates] at failed
      contradiction
  | cons c rest induction =>
      obtain ⟨-, rest_eq⟩ := entry_of_drop_eq_cons candidates
      -- Every attempt starts over with the fresh tracker.
      have restart : (k.restart t).outcome = .ok fresh :=
        outcome_restart_eq_ok.mpr (reset_eq_of_fresh ready t)
      rw [candidates, outcome_search_cons, restart] at failed
      dsimp only at failed
      split at failed
      next => contradiction
      cases attempt : (k.complete required (c :: rest) fresh).outcome with
      | error cause =>
          rw [attempt] at failed
          obtain rfl : cause = e := Except.error.inj failed
          rw [← candidates, eq_anew_of_fresh ready] at attempt
          obtain ⟨cause, u, d, rfl, considers, refuses⟩ :=
            considers_of_complete (rebuildable_of_fresh ready) (sound_anew apart_nil) .nil positive
              attempt
          exact ⟨cause, start, u, d, rfl, eq_anew_of_fresh ready ▸ considers, refuses⟩
      | ok result =>
          obtain ⟨found, u⟩ := result
          rw [attempt] at failed
          cases found with
          | false => contradiction
          | true =>
              dsimp only at failed
              split at failed
              next => contradiction
              next => exact induction (rest_eq ▸ failed) rest_eq

theorem undoing_of_reaches (ready : k.fresh = .ok fresh) (reaches : k.Reaches fresh t) :
    (∀ c ∈ t.selection, k.unselect t c = (k.rebuilt (withdraw t c), none)) ∧
      k.reset t = (fresh, none) := by
  have start : k.Sound fresh ∧ k.Stepwise fresh.selection := by
    rw [eq_anew_of_fresh ready]
    exact ⟨sound_anew apart_nil, .nil⟩
  obtain ⟨sound, stepwise⟩ := reaches.preserves start.1 start.2
  refine ⟨fun c member => ?_, reset_eq_of_fresh ready t⟩
  exact stepwise.unselect_eq sound (rebuildable_of_fresh ready) member

end Constraints

namespace Selector

/-- Giving any pick back and starting over succeed after every orderly history, and a refused
look-up that a call of `select` fails with was made to set the tracker up, or on a candidate that
the search came to consider. -/
theorem undoing_never_refused (s : Selector) (filter : PlacementFilter)
    (resource : Option Resource) (candidates : List Candidate) :
    (∀ (k : Constraints) (fresh : Tracker), k.fresh = .ok fresh →
      ∀ calls, k.Orderly fresh calls →
        (∀ c ∈ (k.after fresh calls).selection,
          ∃ t, k.unselect (k.after fresh calls) c = (t, none)) ∧
        k.reset (k.after fresh calls) = (fresh, none)) ∧
    ∀ cause, (s.select filter resource candidates).outcome = .error (.accessDenied cause) →
      ∃ occupied, Occupancy.ofResource? s.mixing filter resource = .ok occupied ∧
        let k := s.constraints filter occupied
        let required := filter.required (occupied.count filter)
        let ranked := Candidate.rank candidates
        k.fresh = .error cause ∨ ∃ fresh start t c, k.fresh = .ok fresh ∧
          k.Considers required (ranked.drop start) fresh t c ∧ k.Reaches fresh t ∧
          k.Refuses t c cause := by
  constructor
  · intro k fresh ready calls orderly
    obtain ⟨undone, restarted⟩ :=
      Constraints.undoing_of_reaches ready ⟨calls, orderly, rfl⟩
    exact ⟨fun c member => ⟨_, undone c member⟩, restarted⟩
  · intro cause failed
    rcases failures_of_select failed with unscanned | ⟨occupied, scan, positive, denied | searched⟩
    · obtain ⟨_, _, _, -, incompatible⟩ := Occupancy.incompatible_of_ofResource? unscanned
      contradiction
    · obtain ⟨_, refused, equality⟩ := denied
      obtain rfl := PlacementError.accessDenied.inj equality
      exact ⟨occupied, scan, .inl refused⟩
    · obtain ⟨fresh, ready, searched⟩ := searched
      obtain ⟨_, start, t, c, equality, considers, refuses⟩ :=
        Constraints.considers_of_search ready positive searched
      obtain rfl := PlacementError.accessDenied.inj equality
      -- The tracker that met the refusal came about by orderly calls, so it can be undone.
      have reaches : (s.constraints filter occupied).Reaches fresh t := by
        rw [Constraints.eq_anew_of_fresh ready] at considers ⊢
        exact considers.reaches (Constraints.sound_anew Constraints.apart_nil) positive
      exact ⟨occupied, scan, .inr ⟨fresh, start, t, c, ready, considers, reaches, refuses⟩⟩

def rackRefused : PropertyAccess
  | "n3", "rack" => .error (.property "n3" "rack")
  | _, _ => .ok none

def shared : List Candidate :=
  [{ name := "p", node := "n2", sharedName := some "nas", kind := .lvm,
      score := ⟨0x4010000000000000⟩ },
    { name := "q", node := "n2", kind := .lvm, score := ⟨0x4008000000000000⟩ },
    { name := "p", node := "n3", sharedName := some "nas", kind := .lvm,
      score := ⟨0x4000000000000000⟩ }]

theorem undoing_never_refused_shared :
    let s : Selector := { properties := rackRefused, mixing := .standard }
    let filter : PlacementFilter := { replicaCount := some 2, differentRules := [⟨"rack", none⟩] }
    let cause : AccessDenied := .property "n3" "rack"
    let k := s.constraints filter {}
    let picked : List Call := [.select shared[0], .unselect shared[0], .select shared[1]]
    k.Orderly (k.anew []) picked ∧
      (∃ t, k.unselect (k.after (k.anew []) picked) shared[1] = (t, none)) ∧
      k.reset (k.after (k.anew []) picked) = (k.anew [], none) ∧
      (s.select filter none shared).outcome = .error (.accessDenied cause) ∧
      .removed shared[0] ∈ (s.select filter none shared).events ∧
      ∃ start t c, k.Considers 2 (shared.drop start) (k.anew []) t c ∧ k.Reaches (k.anew []) t ∧
        k.Refuses t c cause := by
  intro s filter cause k picked
  have ready : k.fresh = .ok (k.anew []) := by decide +kernel
  have orderly : k.Orderly (k.anew []) picked := by decide +kernel
  have failed : (s.select filter none shared).outcome = .error (.accessDenied cause) := by
    decide +kernel
  have ranked : Candidate.rank shared = shared := by decide +kernel
  obtain ⟨undoing, refused⟩ := undoing_never_refused s filter none shared
  obtain ⟨undone, restarted⟩ := undoing k _ ready picked orderly
  refine ⟨orderly, undone shared[1] (by decide +kernel), restarted, failed, by decide +kernel, ?_⟩
  obtain ⟨occupied, scan, unready | found⟩ := refused cause failed
  · obtain rfl : {} = occupied := Except.ok.inj scan
    rw [show (s.constraints filter {}).fresh = .ok (k.anew []) from ready] at unready
    contradiction
  · obtain rfl : {} = occupied := Except.ok.inj scan
    obtain ⟨fresh, start, t, c, freshRun, considers, reaches, refuses⟩ := found
    obtain rfl : k.anew [] = fresh := Except.ok.inj (ready.symm.trans freshRun)
    rw [ranked] at considers
    exact ⟨start, t, c, considers, reaches, refuses⟩

end Selector

end ReplicaPlacement
