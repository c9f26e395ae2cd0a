import ReplicaPlacement.Traced

namespace ReplicaPlacement.Traced

variable {α β : Type} {x y : Traced α} {f g : α → Traced β}

theorem outcome_bind_eq_ok {b : β} :
    (x >>= f).outcome = .ok b ↔ ∃ a, x.outcome = .ok a ∧ (f a).outcome = .ok b := by
  rw [outcome_bind]
  cases x.outcome <;> simp [bind, Except.bind]

theorem outcome_bind_eq_error {e : PlacementError} :
    (x >>= f).outcome = .error e ↔
      x.outcome = .error e ∨ ∃ a, x.outcome = .ok a ∧ (f a).outcome = .error e := by
  rw [outcome_bind]
  cases x.outcome <;> simp [bind, Except.bind]

theorem mem_events_bind {e : Event} :
    e ∈ (x >>= f).events ↔ e ∈ x.events ∨ ∃ a, x.outcome = .ok a ∧ e ∈ (f a).events := by
  cases outcome : x.outcome with
  | error cause => simp [bind, Traced.bind, outcome]
  | ok a => simp [events_bind_of_ok outcome]

def Runs (x : Traced α) (events : List Event) (a : α) : Prop :=
  x.outcome = .ok a ∧ x.events = events

theorem runs_bind_iff {events : List Event} {b : β} :
    (x >>= f).Runs events b ↔
      ∃ a before after, x.Runs before a ∧ (f a).Runs after b ∧ events = before ++ after := by
  constructor
  · rintro ⟨outcome, rfl⟩
    obtain ⟨a, first, second⟩ := outcome_bind_eq_ok.mp outcome
    exact ⟨a, x.events, (f a).events, ⟨first, rfl⟩, ⟨second, rfl⟩, events_bind_of_ok first f⟩
  · rintro ⟨a, _, _, ⟨first, rfl⟩, ⟨second, rfl⟩, rfl⟩
    exact ⟨outcome_bind_eq_ok.mpr ⟨a, first, second⟩, events_bind_of_ok first f⟩

theorem runs_pure_iff {events : List Event} {a b : α} :
    (pure a : Traced α).Runs events b ↔ a = b ∧ events = [] := by
  simp [Runs, eq_comm]

theorem runs_ofExcept_iff {outcome : Except PlacementError α} {events : List Event} {a : α} :
    (ofExcept outcome).Runs events a ↔ outcome = .ok a ∧ events = [] := by
  simp [Runs, eq_comm]

theorem runs_reportAll_bind_iff {es : List Event} {g : Unit → Traced β} {events : List Event}
    {b : β} :
    (reportAll es >>= g).Runs events b ↔ ∃ after, (g ()).Runs after b ∧ events = es ++ after := by
  rw [runs_bind_iff]
  constructor
  · rintro ⟨_, _, after, ⟨-, rfl⟩, others, rfl⟩
    exact ⟨after, others, rfl⟩
  · rintro ⟨after, others, rfl⟩
    exact ⟨(), es, after, ⟨rfl, rfl⟩, others, rfl⟩

theorem runs_report_bind_iff {e : Event} {g : Unit → Traced β} {events : List Event} {b : β} :
    (report e >>= g).Runs events b ↔ ∃ after, (g ()).Runs after b ∧ events = e :: after :=
  runs_reportAll_bind_iff

theorem runs_report_pure_iff {e : Event} {events : List Event} {a b : α} :
    (do report e; pure a : Traced α).Runs events b ↔ a = b ∧ events = [e] := by
  rw [runs_report_bind_iff]
  constructor
  · rintro ⟨after, run, rfl⟩
    obtain ⟨rfl, rfl⟩ := runs_pure_iff.mp run
    exact ⟨rfl, rfl⟩
  · rintro ⟨rfl, rfl⟩
    exact ⟨[], runs_pure_iff.mpr ⟨rfl, rfl⟩, rfl⟩

def FailsDenied (x : Traced α) : Prop :=
  ∀ e, x.outcome = .error e → ∃ cause, e = .accessDenied cause

theorem failsDenied_of_eq_ok {a : α} (outcome : x.outcome = .ok a) : x.FailsDenied := by
  intro e failed
  rw [outcome] at failed
  contradiction

theorem failsDenied_denied (cause : AccessDenied) :
    (ofExcept (.error (.accessDenied cause)) : Traced α).FailsDenied := by
  rintro e ⟨⟩
  exact ⟨cause, rfl⟩

theorem FailsDenied.bind (first : x.FailsDenied)
    (others : ∀ a, x.outcome = .ok a → (f a).FailsDenied) : (x >>= f).FailsDenied := by
  intro e failed
  rcases outcome_bind_eq_error.mp failed with failed | ⟨a, outcome, failed⟩
  · exact first e failed
  · exact others a outcome e failed

def Reports (P : Event → Prop) (x : Traced α) : Prop := ∀ e ∈ x.events, P e

variable {P Q : Event → Prop}

theorem reports_of_silent (silent : x.events = []) : x.Reports P := by
  simp [Reports, silent]

theorem reports_report {e : Event} (holds : P e) : (report e).Reports P := by
  simpa [Reports] using holds

theorem Reports.imp (reports : x.Reports P) (weaker : ∀ e, P e → Q e) : x.Reports Q :=
  fun e member => weaker e (reports e member)

theorem Reports.bind (first : x.Reports P)
    (others : ∀ a, x.outcome = .ok a → (f a).Reports P) : (x >>= f).Reports P := by
  intro e member
  rcases mem_events_bind.mp member with member | ⟨a, outcome, member⟩
  · exact first e member
  · exact others a outcome e member

theorem reports_report_pure {e : Event} {a : α} (holds : P e) :
    (do report e; pure a : Traced α).Reports P :=
  (reports_report holds).bind fun _ _ => reports_of_silent rfl

/-- Both succeed, with results that are related, or both fail with the same error. -/
inductive Agree (R : α → α → Prop) (x y : Traced α) : Prop where
  | done {a b : α} : x.outcome = .ok a → y.outcome = .ok b → R a b → Agree R x y
  | failed {e : PlacementError} : x.outcome = .error e → y.outcome = .error e → Agree R x y

variable {R : α → α → Prop} {S : β → β → Prop}

theorem Agree.bind (first : Agree R x y) (others : ∀ a b, R a b → Agree S (f a) (g b)) :
    Agree S (x >>= f) (y >>= g) := by
  cases first with
  | failed left right =>
      exact .failed (outcome_bind_eq_error.mpr (.inl left)) (outcome_bind_eq_error.mpr (.inl right))
  | @done a b left right related =>
      cases others a b related with
      | done leftRest rightRest results =>
          exact .done (outcome_bind_eq_ok.mpr ⟨a, left, leftRest⟩)
            (outcome_bind_eq_ok.mpr ⟨b, right, rightRest⟩) results
      | failed leftRest rightRest =>
          exact .failed (outcome_bind_eq_error.mpr (.inr ⟨a, left, leftRest⟩))
            (outcome_bind_eq_error.mpr (.inr ⟨b, right, rightRest⟩))

theorem Agree.of_outcome_eq (equality : x.outcome = y.outcome) : Agree (· = ·) x y := by
  cases outcome : x.outcome with
  | ok a => exact .done outcome (equality ▸ outcome) rfl
  | error e => exact .failed outcome (equality ▸ outcome)

theorem Agree.outcome_eq (agree : Agree (· = ·) x y) : x.outcome = y.outcome := by
  cases agree with
  | done left right same => rw [left, right, same]
  | failed left right => rw [left, right]

def MatchedBy (x y : Traced α) : Prop := ∀ a, x.outcome = .ok a → y.outcome = .ok a

theorem MatchedBy.of_outcome_eq (equality : x.outcome = y.outcome) : x.MatchedBy y :=
  fun _ run => equality ▸ run

theorem MatchedBy.bind (first : x.MatchedBy y) (others : ∀ a, (f a).MatchedBy (g a)) :
    (x >>= f).MatchedBy (y >>= g) := by
  intro b run
  obtain ⟨a, outcome, rest⟩ := outcome_bind_eq_ok.mp run
  exact outcome_bind_eq_ok.mpr ⟨a, first a outcome, others a b rest⟩

end ReplicaPlacement.Traced
