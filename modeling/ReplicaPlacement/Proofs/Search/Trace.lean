import ReplicaPlacement.Proofs.Search.Safety

namespace ReplicaPlacement

namespace Event

def leftOver? : Event → Option (List Candidate)
  | .improved picks _ => some picks
  | .notImproved picks _ _ => some picks
  | .noCombination _ => some []
  | _ => none

def improvement? : Event → Option Selection
  | .improved picks score => some ⟨picks, score⟩
  | _ => none

/-- The picks held after an event. Only the one added last may be removed. -/
def hold (held : List Candidate) : Event → Option (List Candidate)
  | .added c => some (held ++ [c])
  | .removed c => if held.getLast?.any (·.samePlacement c) then some held.dropLast else none
  | _ => some held

def replay (held : List Candidate) (events : List Event) : Option (List Candidate) :=
  events.foldlM hold held

/-- The events of one attempt and the event that ends it, as they stand in a trace: from its
beginning, or from the end of the attempt before. -/
structure Attempt (trace steps : List Event) (ending : Event) : Prop where
  stands : ∃ before after, trace = before ++ (steps ++ ending :: after) ∧
    ∀ e, before.getLast? = some e → e.leftOver?.isSome = true
  unended : ∀ e ∈ steps, e.leftOver? = none
  ended : ending.leftOver?.isSome = true

structure Idle (e : Event) : Prop where
  unended : e.leftOver? = none
  hold_eq : ∀ held, e.hold held = some held

inductive Explained : List Event → Prop where
  | unended {rest : List Event} : (∀ e ∈ rest, e.leftOver? = none) → Explained rest
  | attempt {steps rest : List Event} {ending : Event} :
      (∀ e ∈ steps, e.leftOver? = none) → ending.leftOver?.isSome = true →
      replay [] steps = ending.leftOver? → Explained rest → Explained (steps ++ ending :: rest)

variable {trace steps events others rest : List Event} {e ending : Event}
variable {held : List Candidate}

theorem replay_append (held : List Candidate) (events others : List Event) :
    replay held (events ++ others) = (replay held events).bind (replay · others) :=
  List.foldlM_append

theorem replay_of_idle (idle : ∀ e ∈ events, e.Idle) : replay held events = some held := by
  induction events with
  | nil => rfl
  | cons e rest induction =>
      have head := (idle e (by simp)).hold_eq held
      have tail := induction fun other member => idle other (by simp [member])
      rw [replay, List.foldlM_cons, head]
      exact tail

theorem Idle.singleton (idle : e.Idle) : ∀ d ∈ [e], d.Idle := by
  simpa using idle

theorem hold_removed (held : List Candidate) (c : Candidate) :
    hold (held ++ [c]) (.removed c) = some held := by
  simp [hold, Candidate.samePlacement]

theorem improvement?_of_unended (unended : e.leftOver? = none) : e.improvement? = none := by
  cases e <;> first | rfl | contradiction

theorem improvements_of_unended (unended : ∀ e ∈ events, e.leftOver? = none) :
    events.filterMap improvement? = [] := by
  rw [List.filterMap_eq_nil_iff]
  exact fun e member => improvement?_of_unended (unended e member)

theorem Explained.idle_append (idle : ∀ e ∈ events, e.Idle) (explained : Explained rest) :
    Explained (events ++ rest) := by
  cases explained with
  | unended none =>
      refine .unended fun e member => ?_
      rcases List.mem_append.mp member with first | second
      · exact (idle e first).unended
      · exact none e second
  | @attempt rest steps ending none ended replayed explained =>
      rw [← List.append_assoc]
      refine .attempt (fun e member => ?_) ended ?_ explained
      · rcases List.mem_append.mp member with first | second
        · exact (idle e first).unended
        · exact none e second
      · rw [replay_append, replay_of_idle idle]
        exact replayed

theorem Explained.append_idle (explained : Explained rest) (idle : ∀ e ∈ events, e.Idle) :
    Explained (rest ++ events) := by
  induction explained with
  | unended none =>
      refine .unended fun e member => ?_
      rcases List.mem_append.mp member with first | second
      · exact none e first
      · exact (idle e second).unended
  | attempt none ended replayed _ induction =>
      rw [List.append_assoc, List.cons_append]
      exact .attempt none ended replayed induction

theorem eq_of_append_cons_eq {after others : List Event} {otherEnding : Event}
    (unended : ∀ e ∈ steps, e.leftOver? = none) (ended : ending.leftOver?.isSome = true)
    (otherUnended : ∀ e ∈ others, e.leftOver? = none)
    (otherEnded : otherEnding.leftOver?.isSome = true)
    (equality : steps ++ ending :: after = others ++ otherEnding :: rest) :
    steps = others ∧ ending = otherEnding := by
  induction steps generalizing others with
  | nil =>
      cases others with
      | nil => exact ⟨rfl, (List.cons.inj equality).1⟩
      | cons e others =>
          rw [(List.cons.inj equality).1, otherUnended e (by simp)] at ended
          contradiction
  | cons d steps induction =>
      cases others with
      | nil =>
          rw [← (List.cons.inj equality).1, unended d (by simp)] at otherEnded
          contradiction
      | cons e others =>
          obtain ⟨head_eq, tail_eq⟩ := List.cons.inj equality
          obtain ⟨rfl, rfl⟩ := induction (fun e member => unended e (by simp [member]))
            (fun e member => otherUnended e (by simp [member])) tail_eq
          exact ⟨by rw [head_eq], rfl⟩

theorem eq_nil_of_unended {before : List Event} (unended : ∀ e ∈ before, e.leftOver? = none)
    (follows : ∀ e, before.getLast? = some e → e.leftOver?.isSome = true) : before = [] := by
  cases last : before.getLast? with
  | none => exact List.getLast?_eq_none_iff.mp last
  | some e =>
      have ended := follows e last
      rw [unended e (List.mem_of_getLast? last)] at ended
      contradiction

theorem Explained.replay_eq (explained : Explained trace) (attempt : Attempt trace steps ending) :
    replay [] steps = ending.leftOver? := by
  induction explained with
  | unended none =>
      obtain ⟨before, after, rfl, -⟩ := attempt.stands
      have ended := attempt.ended
      rw [none ending (by simp)] at ended
      contradiction
  | @attempt first rest firstEnding unended ended replayed _ induction =>
      obtain ⟨before, after, equality, follows⟩ := attempt.stands
      -- An attempt that begins within the first one is the first one.
      have isFirst (within : ∀ e ∈ before, e.leftOver? = none) :
          replay [] steps = ending.leftOver? := by
        rw [eq_nil_of_unended within follows, List.nil_append] at equality
        obtain ⟨rfl, rfl⟩ := eq_of_append_cons_eq unended ended attempt.unended attempt.ended
          equality
        exact replayed
      rcases List.append_eq_append_iff.mp equality with
        ⟨between, before_eq, rest_eq⟩ | ⟨between, first_eq, -⟩
      · cases between with
        | nil =>
            rw [before_eq, List.append_nil] at isFirst
            exact isFirst unended
        | cons d between =>
            obtain ⟨rfl, tail_eq⟩ := List.cons.inj rest_eq
            refine induction ⟨⟨between, after, tail_eq, fun e last => follows e ?_⟩,
              attempt.unended, attempt.ended⟩
            rw [before_eq, List.getLast?_append, List.getLast?_cons, last]
            rfl
      · refine isFirst fun e member => unended e ?_
        rw [first_eq]
        exact List.mem_append_left _ member

/-- The attempts, the improvements, each on the one before it, and the last of them or `best`. -/
structure Tells (best result : Option Selection) (trace : List Event) : Prop where
  explained : Explained trace
  improving : (best.toList ++ trace.filterMap improvement?).IsChain fun a b => a.score < b.score
  result_eq : result = (best.toList ++ trace.filterMap improvement?).getLast?

variable {best result : Option Selection}

theorem getLast?_toList (best : Option Selection) : best.toList.getLast? = best := by
  cases best <;> rfl

namespace Tells

theorem nil : Tells best best [] where
  explained := .unended (by simp)
  improving := by cases best <;> simp
  result_eq := by rw [List.filterMap_nil, List.append_nil, getLast?_toList]

theorem idle_append (idle : ∀ e ∈ events, e.Idle) (tells : Tells best result rest) :
    Tells best result (events ++ rest) := by
  have improvements : (events ++ rest).filterMap improvement? = rest.filterMap improvement? := by
    rw [List.filterMap_append, improvements_of_unended fun e member => (idle e member).unended,
      List.nil_append]
  refine ⟨tells.explained.idle_append idle, ?_, ?_⟩
  · rw [improvements]
    exact tells.improving
  · rw [improvements]
    exact tells.result_eq

theorem idle_cons (idle : e.Idle) (tells : Tells best result rest) :
    Tells best result (e :: rest) :=
  tells.idle_append idle.singleton

theorem append_idle (tells : Tells best result rest) (idle : ∀ e ∈ events, e.Idle) :
    Tells best result (rest ++ events) := by
  have improvements : (rest ++ events).filterMap improvement? = rest.filterMap improvement? := by
    rw [List.filterMap_append, improvements_of_unended fun e member => (idle e member).unended,
      List.append_nil]
  refine ⟨tells.explained.append_idle idle, ?_, ?_⟩
  · rw [improvements]
    exact tells.improving
  · rw [improvements]
    exact tells.result_eq

theorem attempt (unended : ∀ e ∈ steps, e.leftOver? = none)
    (ended : ending.leftOver?.isSome = true) (replayed : replay [] steps = ending.leftOver?)
    (plain : ending.improvement? = none) (tells : Tells best result rest) :
    Tells best result (steps ++ ending :: rest) := by
  have improvements : (steps ++ ending :: rest).filterMap improvement? =
      rest.filterMap improvement? := by
    rw [List.filterMap_append, improvements_of_unended unended, List.filterMap_cons_none plain,
      List.nil_append]
  refine ⟨.attempt unended ended replayed tells.explained, ?_, ?_⟩
  · rw [improvements]
    exact tells.improving
  · rw [improvements]
    exact tells.result_eq

theorem improve {current : Selection} (unended : ∀ e ∈ steps, e.leftOver? = none)
    (replayed : replay [] steps = some current.candidates)
    (wins : Selection.bestScore best < current.score) (tells : Tells (some current) result rest) :
    Tells best result (steps ++ .improved current.candidates current.score :: rest) := by
  have told : (Event.improved current.candidates current.score).improvement? = some current := rfl
  have improvements :
      (steps ++ .improved current.candidates current.score :: rest).filterMap improvement? =
        current :: rest.filterMap improvement? := by
    rw [List.filterMap_append, improvements_of_unended unended, List.filterMap_cons_some told,
      List.nil_append]
  refine ⟨.attempt unended rfl replayed tells.explained, ?_, ?_⟩
  · rw [improvements]
    cases best with
    | none => exact tells.improving
    | some b => exact .cons_cons wins tells.improving
  · rw [improvements, tells.result_eq]
    cases best with
    | none => rfl
    | some b => exact (List.getLast?_cons_cons).symm

end Tells

end Event

namespace Constraints

open Event (replay Tells)

variable {k : Constraints} {t next undone restarted : Tracker} {c : Candidate}
variable {required start : Nat} {events : List Event} {candidates : List Candidate}
variable {best result : Option Selection}

theorem runs_ofReply_iff {ε : Type} {fault : ε → PlacementError} {p : Tracker × Option ε} :
    (ofReply fault p).Runs events t ↔ p = (t, none) ∧ events = [] := by
  obtain ⟨u, failure⟩ := p
  cases failure <;> simp [ofReply, Traced.Runs, eq_comm]

theorem runs_restart_iff :
    (k.restart t).Runs events restarted ↔ k.reset t = (restarted, none) ∧ events = [] := by
  rw [restart_eq, runs_ofReply_iff]

theorem runs_pick_iff :
    (k.pick t c).Runs events next ↔ k.select t c = (next, none) ∧ events = [.added c] := by
  rw [pick_eq, Traced.runs_report_bind_iff]
  simp [runs_ofReply_iff]

theorem runs_undo_iff :
    (k.undo t c).Runs events undone ↔ k.unselect t c = (undone, none) ∧ events = [.removed c] := by
  rw [undo_eq, Traced.runs_report_bind_iff]
  simp [runs_ofReply_iff]

theorem idle_of_consider {admitted : Bool} (run : (k.consider t c).Runs events admitted) :
    k.admissible t c = .ok admitted ∧ ∀ e ∈ events, e.Idle := by
  refine ⟨outcome_consider_eq_ok.mp run.1, ?_⟩
  rw [← run.2]
  unfold consider
  cases k.rejection? t c with
  | error cause => simp
  | ok reason? =>
      cases reason? with
      | none => simp
      | some reason =>
          intro e member
          obtain rfl := List.mem_singleton.mp member
          exact ⟨rfl, fun _ => rfl⟩

theorem replay_of_complete {r : Bool × Tracker} (sound : k.Sound t) (unfinished : t.size < required)
    (run : (k.complete required candidates t).Runs events r) :
    replay t.selection events = some r.2.selection := by
  induction candidates generalizing t events r with
  | nil =>
      rw [complete, Traced.runs_pure_iff] at run
      obtain ⟨rfl, rfl⟩ := run
      rfl
  | cons c rest induction =>
      rw [complete, Traced.runs_bind_iff] at run
      obtain ⟨admitted, before, after, considered, run, rfl⟩ := run
      obtain ⟨admits, idle⟩ := idle_of_consider considered
      rw [Event.replay_append, Event.replay_of_idle idle, Option.bind_some]
      cases admitted with
      | false => exact induction sound unfinished run
      | true =>
          dsimp only at run
          rw [Traced.runs_bind_iff] at run
          obtain ⟨next, _, after, picked, run, rfl⟩ := run
          obtain ⟨selected, rfl⟩ := runs_pick_iff.mp picked
          have taken : k.take? t c = some next := take?_eq_some_iff.mpr ⟨admits, selected⟩
          have held : replay t.selection [.added c] = some next.selection := by
            rw [selection_of_take? taken]
            rfl
          rw [Event.replay_append, held, Option.bind_some]
          by_cases full : next.size = required
          · rw [if_pos full, Traced.runs_pure_iff] at run
            obtain ⟨rfl, rfl⟩ := run
            rfl
          · have unfilled := size_lt_of_take? taken unfinished full
            have nextSound := sound_of_take? sound taken
            rw [if_neg full, Traced.runs_bind_iff] at run
            obtain ⟨⟨found, u⟩, inside, after, inner, run, rfl⟩ := run
            rw [Event.replay_append, induction nextSound unfilled inner, Option.bind_some]
            cases found with
            | true =>
                dsimp only at run
                obtain ⟨rfl, rfl⟩ := Traced.runs_pure_iff.mp run
                rfl
            | false =>
                dsimp only at run
                rw [Traced.runs_bind_iff] at run
                obtain ⟨undone, _, after, undo, run, rfl⟩ := run
                obtain ⟨unselected, rfl⟩ := runs_undo_iff.mp undo
                -- All that was tried after the pick was undone, so the pick is the last one held.
                have unchanged := view_of_exhausted nextSound unfilled inner.1
                have restored := view_of_unselect sound taken unchanged unselected
                have selection_eq : u.selection = t.selection ++ [c] :=
                  (congrArg View.selection unchanged).trans (selection_of_take? taken)
                have restored_eq : undone.selection = t.selection :=
                  congrArg View.selection restored
                have held : replay u.selection [.removed c] = some undone.selection := by
                  rw [selection_eq, restored_eq, replay, List.foldlM_cons, Event.hold_removed]
                  rfl
                rw [Event.replay_append, held, Option.bind_some]
                exact induction (sound.of_view_eq restored)
                  ((congrArg List.length restored_eq).trans_lt unfinished) run

theorem unended_of_complete {r : Bool × Tracker}
    (run : (k.complete required candidates t).Runs events r) :
    ∀ e ∈ events, e.leftOver? = none := by
  rw [← run.2]
  exact reports_complete (fun _ _ => rfl) (fun _ => rfl) (fun _ => rfl) candidates t

theorem replay_of_attempt {found : Bool} {u : Tracker} (positive : 0 < required)
    (run : (k.complete required candidates (k.anew [])).Runs events (found, u)) :
    replay [] events = some u.selection ∧ (found = false → u.selection = []) := by
  have sound : k.Sound (k.anew []) := sound_anew apart_nil
  refine ⟨replay_of_complete sound positive run, ?_⟩
  rintro rfl
  exact congrArg View.selection (view_of_exhausted sound positive run.1)

theorem tells_of_compete {steps rest : List Event} {current : Selection}
    {next : Option Selection} (unended : ∀ e ∈ steps, e.leftOver? = none)
    (replayed : replay [] steps = some current.candidates)
    (run : (compete best current).Runs events next) (tells : Tells next result rest) :
    Tells best result (steps ++ (events ++ rest)) := by
  unfold compete at run
  split at run
  next wins =>
    obtain ⟨rfl, rfl⟩ := Traced.runs_report_pure_iff.mp run
    exact .improve unended replayed wins tells
  next =>
    obtain ⟨rfl, rfl⟩ := Traced.runs_report_pure_iff.mp run
    exact .attempt unended rfl replayed rfl tells

theorem tells_of_search (positive : 0 < required) {prune : Bool}
    (run : (k.search prune required start candidates t best).Runs events result) :
    Tells best result events := by
  induction candidates generalizing start t best events with
  | nil =>
      obtain ⟨rfl, rfl⟩ := Traced.runs_report_pure_iff.mp run
      exact .idle_cons ⟨rfl, fun _ => rfl⟩ .nil
  | cons c rest induction =>
      rw [search] at run
      split at run
      next =>
        obtain ⟨rfl, rfl⟩ := Traced.runs_report_pure_iff.mp run
        exact .idle_cons ⟨rfl, fun _ => rfl⟩ .nil
      next =>
        rw [Traced.runs_bind_iff] at run
        obtain ⟨restarted, _, after, restart, run, rfl⟩ := run
        obtain ⟨reset, rfl⟩ := runs_restart_iff.mp restart
        obtain rfl := eq_anew_of_reset reset
        rw [Traced.runs_bind_iff] at run
        obtain ⟨⟨found, u⟩, steps, after, attempt, run, rfl⟩ := run
        -- Completing ends no attempt itself; what follows it, a combination or a failure, does.
        have unended := unended_of_complete attempt
        obtain ⟨replayed, emptied⟩ := replay_of_attempt positive attempt
        rw [List.nil_append]
        cases found with
        | false =>
            obtain ⟨rfl, rfl⟩ := Traced.runs_report_pure_iff.mp run
            rw [emptied rfl] at replayed
            exact .attempt unended rfl replayed rfl .nil
        | true =>
            dsimp only at run
            rw [Traced.runs_bind_iff] at run
            obtain ⟨next, told, after, competed, run, rfl⟩ := run
            refine tells_of_compete unended replayed competed ?_
            split at run
            next =>
              split at run
              next =>
                obtain ⟨rfl, rfl⟩ := Traced.runs_report_pure_iff.mp run
                exact .idle_cons ⟨rfl, fun _ => rfl⟩ .nil
              next =>
                obtain ⟨others, later, rfl⟩ := Traced.runs_report_bind_iff.mp run
                exact .idle_cons ⟨rfl, fun _ => rfl⟩ (induction later)
            next => exact induction run

end Constraints

end ReplicaPlacement
