import ReplicaPlacement.ProviderKind
import ReplicaPlacement.Score

namespace ReplicaPlacement

/-- Pools with one `sharedName` stand on the same physical backend. -/
structure StoragePool where
  name : String
  node : String
  sharedName : Option String := none
  kind : ProviderKind
  deriving DecidableEq, Inhabited

structure Candidate extends StoragePool where
  score : Score
  deriving DecidableEq, Inhabited

namespace StoragePool

def scored (score : StoragePool → Score) (pools : List StoragePool) : List Candidate :=
  pools.map fun p => ⟨p, score p⟩

end StoragePool

namespace Candidate

def samePlacement (a b : Candidate) : Bool := a.node == b.node && a.name == b.name

/-- Best score first, as an ordering: `lt` when `a` has the higher score. -/
def compareRank (a b : Candidate) : Ordering := compare b.score.order a.score.order

def insertRanked (c : Candidate) : List Candidate → List Candidate
  | [] => [c]
  | d :: rest =>
    match c.compareRank d with
    | .gt => d :: insertRanked c rest
    | _ => c :: d :: rest

/-- The candidates with a finite score, best first; equal scores keep their order. -/
def rank : List Candidate → List Candidate
  | [] => []
  | c :: rest => if c.score.isFinite then insertRanked c (rank rest) else rank rest

def total (candidates : List Candidate) : Score := Score.total (candidates.map (·.score))

end Candidate

end ReplicaPlacement
