import ReplicaPlacement.Tracker
import ReplicaPlacement.Traced

namespace ReplicaPlacement

structure Selection where
  candidates : List Candidate
  score : Score
  deriving DecidableEq

namespace Selection

def empty : Selection := ⟨[], .zero⟩

def ofPicks (picks : List Candidate) : Selection := ⟨picks, Candidate.total picks⟩

def isEmpty (s : Selection) : Bool := s.candidates.isEmpty

def size (s : Selection) : Nat := s.candidates.length

def nodes (s : Selection) : List String := s.candidates.map (·.node)

def bestScore (best : Option Selection) : Score := best.elim .negInfinity (·.score)

end Selection

namespace Constraints

variable (k : Constraints)

def restart (t : Tracker) : Traced Tracker :=
  match k.reset t with
  | (t, none) => pure t
  | (_, some e) => .ofExcept (.error (.accessDenied e))

def consider (t : Tracker) (c : Candidate) : Traced Bool :=
  match k.rejection? t c with
  | .error e => .ofExcept (.error (.accessDenied e))
  | .ok none => pure true
  | .ok (some reason) => do
    Traced.report (.rejected c reason)
    pure false

def pick (t : Tracker) (c : Candidate) : Traced Tracker := do
  Traced.report (.added c)
  match k.select t c with
  | (t, none) => pure t
  | (_, some e) => .ofExcept (.error (.accessDenied e))

def undo (t : Tracker) (c : Candidate) : Traced Tracker := do
  Traced.report (.removed c)
  match k.unselect t c with
  | (t, none) => pure t
  | (_, some e) => .ofExcept (.error e)

/-- Extends the selection to `required` picks from the candidates given, trying them in order and
undoing each pick that cannot be completed. -/
def complete (required : Nat) : List Candidate → Tracker → Traced (Bool × Tracker)
  | [], t => pure (t.size == required, t)
  | c :: rest, t => do
    match ← k.consider t c with
    | false => complete required rest t
    | true =>
      let t ← k.pick t c
      if t.size = required then pure (true, t)
      else
        match ← complete required rest t with
        | (true, t) => pure (true, t)
        | (false, t) =>
          let t ← k.undo t c
          complete required rest t

def compete (best : Option Selection) (current : Selection) : Traced (Option Selection) :=
  if Selection.bestScore best < current.score then do
    Traced.report (.improved current.candidates current.score)
    pure (some current)
  else do
    Traced.report (.notImproved current.candidates current.score (Selection.bestScore best))
    pure best

/-- The sum of the best scores left, which no combination of that size exceeds. -/
def bound (required : Nat) (rest : List Candidate) : Score := Candidate.total (rest.take required)

/-- Starts with the whole list given, then with the list without its first candidate, and so on;
`start` is the position reached. -/
def search (prune : Bool) (required : Nat) :
    Nat → List Candidate → Tracker → Option Selection → Traced (Option Selection)
  | start, [], _, best => do
    Traced.report (.tooFewLeft start)
    pure best
  | start, c :: rest, t, best =>
    if rest.length + 1 < required then do
      Traced.report (.tooFewLeft start)
      pure best
    else do
      let t ← k.restart t
      match ← k.complete required (c :: rest) t with
      | (false, _) =>
        -- What the whole list cannot complete, no shorter one can.
        Traced.report (.noCombination start)
        pure best
      | (true, t) =>
        let best ← compete best (.ofPicks t.selection)
        if prune && decide (required ≤ rest.length) then
          if bound required rest ≤ Selection.bestScore best then
            Traced.report (.cutOff (start + 1) (bound required rest) (Selection.bestScore best))
            pure best
          else
            Traced.report (.continued (start + 1) (bound required rest))
            search prune required (start + 1) rest t best
        else search prune required (start + 1) rest t best

end Constraints

end ReplicaPlacement
