import ReplicaPlacement.Proofs.Runs
import ReplicaPlacement.Proofs.Search.Combination
import ReplicaPlacement.Search

namespace ReplicaPlacement

namespace Constraints

variable {k : Constraints} {t t' : Tracker} {c : Candidate}

def ofReply {ε : Type} (fault : ε → PlacementError) : Tracker × Option ε → Traced Tracker
  | (t, none) => pure t
  | (_, some e) => .ofExcept (.error (fault e))

theorem outcome_ofReply_eq_ok {ε : Type} {fault : ε → PlacementError} {p : Tracker × Option ε} :
    (ofReply fault p).outcome = .ok t' ↔ p = (t', none) := by
  obtain ⟨u, failure⟩ := p
  cases failure <;> simp [ofReply]

theorem restart_eq (t : Tracker) : k.restart t = ofReply .accessDenied (k.reset t) := by
  unfold restart
  cases k.reset t with
  | mk u failure => cases failure <;> rfl

theorem pick_eq (t : Tracker) (c : Candidate) :
    k.pick t c = (do Traced.report (.added c); ofReply .accessDenied (k.select t c)) := by
  unfold pick
  cases k.select t c with
  | mk u failure => cases failure <;> rfl

theorem undo_eq (t : Tracker) (c : Candidate) :
    k.undo t c = (do Traced.report (.removed c); ofReply id (k.unselect t c)) := by
  unfold undo
  cases k.unselect t c with
  | mk u failure => cases failure <;> rfl

theorem outcome_restart_eq_ok :
    (k.restart t).outcome = .ok t' ↔ k.reset t = (t', none) := by
  rw [restart_eq, outcome_ofReply_eq_ok]

theorem outcome_consider (t : Tracker) (c : Candidate) :
    (k.consider t c).outcome = (k.admissible t c).mapError .accessDenied := by
  unfold consider admissible
  cases k.rejection? t c with
  | error e => rfl
  | ok r => cases r <;> rfl

theorem outcome_consider_eq_ok {b : Bool} :
    (k.consider t c).outcome = .ok b ↔ k.admissible t c = .ok b := by
  rw [outcome_consider]
  cases k.admissible t c <;> simp [Except.mapError]

theorem outcome_pick_eq_ok :
    (k.pick t c).outcome = .ok t' ↔ k.select t c = (t', none) := by
  rw [pick_eq, Traced.outcome_bind_eq_ok]
  simp [outcome_ofReply_eq_ok]

theorem outcome_undo_eq_ok :
    (k.undo t c).outcome = .ok t' ↔ k.unselect t c = (t', none) := by
  rw [undo_eq, Traced.outcome_bind_eq_ok]
  simp [outcome_ofReply_eq_ok]

/-- How completing goes on at a candidate: it is rejected, it is the last one needed, the picks
after it complete the selection, or they cannot and it is given back. -/
inductive CompleteStep (k : Constraints) (required : Nat) (c : Candidate) (rest : List Candidate)
    (t : Tracker) : Bool × Tracker → Prop where
  | rejected {r : Bool × Tracker} :
      k.admissible t c = .ok false → (k.complete required rest t).outcome = .ok r →
      CompleteStep k required c rest t r
  | last {next : Tracker} :
      k.take? t c = some next → next.size = required →
      CompleteStep k required c rest t (true, next)
  | kept {next t' : Tracker} :
      k.take? t c = some next → next.size ≠ required →
      (k.complete required rest next).outcome = .ok (true, t') →
      CompleteStep k required c rest t (true, t')
  | givenBack {next u undone : Tracker} {r : Bool × Tracker} :
      k.take? t c = some next → next.size ≠ required →
      (k.complete required rest next).outcome = .ok (false, u) →
      k.unselect u c = (undone, none) → (k.complete required rest undone).outcome = .ok r →
      CompleteStep k required c rest t r

theorem completeStep_of_complete {required : Nat} {rest : List Candidate} {r : Bool × Tracker}
    (run : (k.complete required (c :: rest) t).outcome = .ok r) :
    CompleteStep k required c rest t r := by
  rw [complete, Traced.outcome_bind_eq_ok] at run
  obtain ⟨admitted, considered, run⟩ := run
  rw [outcome_consider_eq_ok] at considered
  cases admitted with
  | false => exact .rejected considered run
  | true =>
      dsimp only at run
      rw [Traced.outcome_bind_eq_ok] at run
      obtain ⟨next, picked, run⟩ := run
      rw [outcome_pick_eq_ok] at picked
      have taken : k.take? t c = some next := take?_eq_some_iff.mpr ⟨considered, picked⟩
      by_cases full : next.size = required
      · rw [if_pos full, Traced.outcome_pure, Except.ok.injEq] at run
        rw [← run]
        exact .last taken full
      · rw [if_neg full, Traced.outcome_bind_eq_ok] at run
        obtain ⟨⟨found, u⟩, inner, run⟩ := run
        cases found with
        | true =>
            rw [Traced.outcome_pure, Except.ok.injEq] at run
            rw [← run]
            exact .kept taken full inner
        | false =>
            rw [Traced.outcome_bind_eq_ok] at run
            obtain ⟨undone, undoRun, run⟩ := run
            rw [outcome_undo_eq_ok] at undoRun
            exact .givenBack taken full inner undoRun run

theorem CompleteStep.outcome_eq {required : Nat} {rest : List Candidate} {r : Bool × Tracker}
    (step : CompleteStep k required c rest t r) :
    (k.complete required (c :: rest) t).outcome = .ok r := by
  rw [complete, Traced.outcome_bind_eq_ok]
  cases step with
  | rejected refused others => exact ⟨false, outcome_consider_eq_ok.mpr refused, others⟩
  | last taken full =>
      obtain ⟨admitted, picked⟩ := take?_eq_some_iff.mp taken
      refine ⟨true, outcome_consider_eq_ok.mpr admitted, ?_⟩
      rw [Traced.outcome_bind_eq_ok]
      exact ⟨_, outcome_pick_eq_ok.mpr picked, by rw [if_pos full]; rfl⟩
  | kept taken unfilled inner =>
      obtain ⟨admitted, picked⟩ := take?_eq_some_iff.mp taken
      refine ⟨true, outcome_consider_eq_ok.mpr admitted, ?_⟩
      rw [Traced.outcome_bind_eq_ok]
      refine ⟨_, outcome_pick_eq_ok.mpr picked, ?_⟩
      rw [if_neg unfilled, Traced.outcome_bind_eq_ok]
      exact ⟨_, inner, rfl⟩
  | givenBack taken unfilled inner undo others =>
      obtain ⟨admitted, picked⟩ := take?_eq_some_iff.mp taken
      refine ⟨true, outcome_consider_eq_ok.mpr admitted, ?_⟩
      rw [Traced.outcome_bind_eq_ok]
      refine ⟨_, outcome_pick_eq_ok.mpr picked, ?_⟩
      rw [if_neg unfilled, Traced.outcome_bind_eq_ok]
      refine ⟨_, inner, ?_⟩
      dsimp only
      rw [Traced.outcome_bind_eq_ok]
      exact ⟨_, outcome_undo_eq_ok.mpr undo, others⟩

/-- What completing a selection from a start position ends with. -/
inductive Completed (k : Constraints) (ranked : List Candidate) (required start : Nat)
    (t : Tracker) : Bool × Tracker → Prop where
  | found {positions : List Nat} {t' : Tracker} :
      k.FirstCombination t ranked (required - t.size) start positions →
      t'.selection = t.selection ++ picksAt ranked positions → k.Sound t' →
      Completed k ranked required start t (true, t')
  | exhausted {t' : Tracker} :
      (∀ positions, ¬ k.Combination t ranked (required - t.size) start positions) →
      t'.view = t.view → Completed k ranked required start t (false, t')

variable {ranked : List Candidate} {required start : Nat} {r : Bool × Tracker}

namespace Completed

theorem skip {u : Tracker} (completed : Completed k ranked required (start + 1) u r)
    (equality : u.view = t.view) (unfinished : t.size < required)
    (none : ∀ rest, ¬ k.Combination t ranked (required - t.size) start (start :: rest)) :
    Completed k ranked required start t r := by
  have selection_eq : u.selection = t.selection := congrArg View.selection equality
  have size_eq : u.size = t.size := congrArg List.length selection_eq
  obtain ⟨count, count_eq⟩ : ∃ count, required - t.size = count + 1 :=
    ⟨required - t.size - 1, by omega⟩
  rw [count_eq] at none
  cases completed with
  | found first extended sound =>
      rw [size_eq, count_eq] at first
      rw [selection_eq] at extended
      refine .found ?_ extended sound
      rw [count_eq]
      exact (first.congr equality).skip none
  | exhausted absent unchanged =>
      rw [size_eq, count_eq] at absent
      refine .exhausted ?_ (unchanged.trans equality)
      rw [count_eq]
      intro positions combination
      rcases combination.head_or_later with ⟨rest, rfl⟩ | later
      · exact none rest combination
      · exact absent positions ((combination_congr equality.symm).mp later)

theorem take {next : Tracker} (entry : ranked[start]? = some c)
    (taken : k.take? t c = some next) {positions : List Nat}
    (first : k.FirstCombination next ranked (required - next.size) (start + 1) positions)
    (extended : t'.selection = next.selection ++ picksAt ranked positions) (sound : k.Sound t')
    (unfinished : t.size < required) : Completed k ranked required start t (true, t') := by
  have selection_eq := selection_of_take? taken
  have size_eq : next.size = t.size + 1 := by
    unfold Tracker.size
    rw [selection_eq, List.length_append, List.length_singleton]
  have count_eq : required - t.size = required - next.size + 1 := by omega
  have extends_first : k.FirstCombination t ranked (required - t.size) start
      (start :: positions) := by
    rw [count_eq]
    exact first.cons entry taken
  refine .found extends_first ?_ sound
  rw [extended, selection_eq, picksAt_cons entry, List.append_assoc, List.singleton_append]

end Completed

theorem size_of_take? {next : Tracker} (taken : k.take? t c = some next) :
    next.size = t.size + 1 := by
  unfold Tracker.size
  rw [selection_of_take? taken, List.length_append, List.length_singleton]

theorem size_lt_of_take? {next : Tracker} {required : Nat} (taken : k.take? t c = some next)
    (unfinished : t.size < required) (full : next.size ≠ required) : next.size < required := by
  have size_eq := size_of_take? taken
  omega

theorem completed_of_complete (run : (k.complete required (ranked.drop start) t).outcome = .ok r)
    (sound : k.Sound t) (unfinished : t.size < required) :
    Completed k ranked required start t r := by
  induction candidates : ranked.drop start generalizing start t r with
  | nil =>
      have past : ranked.length ≤ start := List.drop_eq_nil_iff.mp candidates
      have result : r = (false, t) := by
        rw [candidates, complete, Traced.outcome_pure, Except.ok.injEq] at run
        rw [← run, beq_eq_false_iff_ne.mpr (Nat.ne_of_lt unfinished)]
      rw [result]
      refine .exhausted (fun positions combination => ?_) rfl
      have bound := combination.add_le_length (Nat.sub_pos_of_lt unfinished)
      omega
  | cons c rest induction =>
      obtain ⟨entry, rest_eq⟩ := entry_of_drop_eq_cons candidates
      obtain ⟨count, count_eq⟩ : ∃ count, required - t.size = count + 1 :=
        ⟨required - t.size - 1, by omega⟩
      rw [candidates] at run
      cases completeStep_of_complete run with
      | rejected refused others =>
          apply (induction (rest_eq ▸ others) sound unfinished rest_eq).skip rfl unfinished
          intro positions
          rw [count_eq]
          exact not_combination_of_rejected entry refused
      | @last next taken full =>
          have none_left : required - next.size = 0 := by omega
          have first : k.FirstCombination next ranked (required - next.size) (start + 1) [] :=
            none_left ▸ .of_nil
          exact .take entry taken first (List.append_nil _).symm (sound_of_take? sound taken)
            unfinished
      | @kept next t' taken unfilled inner =>
          have size_eq := size_of_take? taken
          cases induction (rest_eq ▸ inner) (sound_of_take? sound taken) (by omega) rest_eq with
          | found first extended foundSound =>
              exact .take entry taken first extended foundSound unfinished
      | @givenBack next u undone r taken unfilled inner undo others =>
          have size_eq := size_of_take? taken
          cases induction (rest_eq ▸ inner) (sound_of_take? sound taken) (by omega) rest_eq with
          | exhausted absent unchanged =>
              -- The tracker shows what it showed before the pick, as if that was never made.
              have restored := view_of_unselect sound taken unchanged undo
              have restored_size : undone.size = t.size :=
                congrArg (List.length ∘ View.selection) restored
              have undoneSound := sound.of_view_eq restored
              apply (induction (rest_eq ▸ others) undoneSound (by omega) rest_eq).skip restored
                unfinished
              intro positions
              have count_next : required - t.size = required - next.size + 1 := by omega
              rw [count_next]
              exact not_combination_of_taken entry taken absent

theorem view_of_exhausted {u : Tracker} {candidates : List Candidate} (sound : k.Sound t)
    (unfinished : t.size < required)
    (run : (k.complete required candidates t).outcome = .ok (false, u)) : u.view = t.view := by
  rw [← List.drop_zero (l := candidates)] at run
  cases completed_of_complete run sound unfinished with
  | exhausted absent unchanged => exact unchanged

/-- Picks that cannot be completed leave the pick before them to be given back, and what is left
then can go on from where that pick was taken in. -/
theorem undone_of_exhausted {next u : Tracker} {rest : List Candidate} (sound : k.Sound t)
    (taken : k.take? t c = some next) (unfilled : next.size < required)
    (inner : (k.complete required rest next).outcome = .ok (false, u)) :
    k.Sound u ∧ c ∈ u.selection ∧
      ∀ undone, k.unselect u c = (undone, none) → k.Sound undone ∧ undone.size = t.size := by
  have nextSound := sound_of_take? sound taken
  have unchanged := view_of_exhausted nextSound unfilled inner
  have selection_eq : u.selection = t.selection ++ [c] :=
    (congrArg View.selection unchanged).trans (selection_of_take? taken)
  refine ⟨nextSound.of_view_eq unchanged, by simp [selection_eq], ?_⟩
  intro undone undo
  have restored := view_of_unselect sound taken unchanged undo
  exact ⟨sound.of_view_eq restored, congrArg (List.length ∘ View.selection) restored⟩

theorem exists_complete (readable : k.Readable) (sound : k.Sound t)
    (unfinished : t.size < required) (candidates : List Candidate) :
    ∃ r, (k.complete required candidates t).outcome = .ok r := by
  induction candidates generalizing t with
  | nil => exact ⟨_, rfl⟩
  | cons c rest induction =>
      obtain ⟨admitted, considered⟩ := readable.exists_admissible sound c
      cases admitted with
      | false =>
          obtain ⟨r, others⟩ := induction sound unfinished
          exact ⟨r, CompleteStep.outcome_eq (.rejected considered others)⟩
      | true =>
          have picked := readable.select_eq sound c
          have taken : k.take? t c = some (k.joined t c) :=
            take?_eq_some_iff.mpr ⟨considered, picked⟩
          have nextSound := sound_of_take? sound taken
          have size_eq := size_of_take? taken
          by_cases full : (k.joined t c).size = required
          · exact ⟨_, CompleteStep.outcome_eq (.last taken full)⟩
          · have unfilled : (k.joined t c).size < required := by omega
            obtain ⟨⟨found, u⟩, inner⟩ := induction nextSound unfilled
            cases found with
            | true => exact ⟨_, CompleteStep.outcome_eq (.kept taken full inner)⟩
            | false =>
                obtain ⟨uSound, member, left⟩ := undone_of_exhausted sound taken unfilled inner
                have undo := readable.unselect_eq uSound member
                obtain ⟨undoneSound, size_restored⟩ := left _ undo
                obtain ⟨r, others⟩ := induction undoneSound (size_restored.trans_lt unfinished)
                exact ⟨r, CompleteStep.outcome_eq (.givenBack taken full inner undo others)⟩

end Constraints

end ReplicaPlacement
