import ReplicaPlacement.Event

namespace ReplicaPlacement

structure Traced (α : Type) where
  outcome : Except PlacementError α
  events : List Event := []

namespace Traced

variable {α β : Type}

protected def pure (a : α) : Traced α := { outcome := .ok a }

protected def bind (x : Traced α) (f : α → Traced β) : Traced β :=
  match x.outcome with
  | .error e => { outcome := .error e, events := x.events }
  | .ok a =>
    let y := f a
    { outcome := y.outcome, events := x.events ++ y.events }

instance : Monad Traced where
  pure := Traced.pure
  bind := Traced.bind

def ofExcept (outcome : Except PlacementError α) : Traced α := { outcome }

def report (e : Event) : Traced Unit := { outcome := .ok (), events := [e] }

def reportAll (es : List Event) : Traced Unit := { outcome := .ok (), events := es }

@[simp] theorem outcome_pure (a : α) : (pure a : Traced α).outcome = .ok a := rfl

@[simp] theorem events_pure (a : α) : (pure a : Traced α).events = [] := rfl

@[simp] theorem outcome_ofExcept (x : Except PlacementError α) : (ofExcept x).outcome = x := rfl

@[simp] theorem events_ofExcept (x : Except PlacementError α) : (ofExcept x).events = [] := rfl

@[simp] theorem outcome_report (e : Event) : (report e).outcome = .ok () := rfl

@[simp] theorem events_report (e : Event) : (report e).events = [e] := rfl

theorem outcome_bind (x : Traced α) (f : α → Traced β) :
    (x >>= f).outcome = x.outcome >>= fun a => (f a).outcome := by
  show (Traced.bind x f).outcome = _
  unfold Traced.bind
  cases x.outcome <;> rfl

theorem events_bind_of_ok {x : Traced α} {a : α} (h : x.outcome = .ok a) (f : α → Traced β) :
    (x >>= f).events = x.events ++ (f a).events := by
  show (Traced.bind x f).events = _
  simp [Traced.bind, h]

end Traced

end ReplicaPlacement
