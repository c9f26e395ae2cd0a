import ReplicaPlacement.Tracker

namespace ReplicaPlacement

inductive Call where
  | reset
  | select (c : Candidate)
  | unselect (c : Candidate)
  | ask (c : Candidate)
  deriving DecidableEq

structure Reply where
  tracker : Tracker
  answer : Except PlacementError (Option Bool)
  events : List Event

namespace Constraints

variable (k : Constraints)

def done (failure : Option PlacementError) : Except PlacementError (Option Bool) :=
  match failure with
  | none => .ok none
  | some e => .error e

def reply (t : Tracker) : Call → Reply
  | .reset =>
    let (t, e) := k.reset t
    ⟨t, done (e.map .accessDenied), []⟩
  | .select c =>
    let (t, e) := k.select t c
    ⟨t, done (e.map .accessDenied), [.added c]⟩
  | .unselect c =>
    let (t, e) := k.unselect t c
    ⟨t, done e, [.removed c]⟩
  | .ask c =>
    match k.rejection? t c with
    | .error e => ⟨t, .error (.accessDenied e), []⟩
    | .ok none => ⟨t, .ok (some true), []⟩
    | .ok (some reason) => ⟨t, .ok (some false), [.rejected c reason]⟩

end Constraints

end ReplicaPlacement
