import ReplicaPlacement.Search

namespace ReplicaPlacement

/-- Without `prune` every start position is tried. -/
structure Selector where
  properties : PropertyAccess
  mixing : MixingPolicy
  prune : Bool := true

def Candidate.rankReported (candidates : List Candidate) : Traced (List Candidate) := do
  Traced.reportAll ((candidates.filter (!·.score.isFinite)).map .scoreNotFinite)
  pure (Candidate.rank candidates)

def Occupancy.events (occupied : Occupancy) (resource : Option Resource) : List Event :=
  match resource with
  | none => []
  | some r =>
    if occupied.nodes.isEmpty then [.notDeployed r.name] else [.deployed r.name occupied]

def Occupancy.scan (mixing : MixingPolicy) (filter : PlacementFilter) (resource : Option Resource) :
    Traced Occupancy := do
  let occupied ← Traced.ofExcept (Occupancy.ofResource? mixing filter resource)
  Traced.reportAll (occupied.events resource)
  pure occupied

namespace Selector

def constraints (s : Selector) (filter : PlacementFilter) (occupied : Occupancy) : Constraints :=
  { filter, occupied, properties := s.properties, mixing := s.mixing }

def select (s : Selector) (filter : PlacementFilter) (resource : Option Resource)
    (candidates : List Candidate) : Traced (Option Selection) := do
  let ranked ← Candidate.rankReported candidates
  Traced.reportAll (ranked.map .ranked)
  let occupied ← Occupancy.scan s.mixing filter resource
  let required := filter.required (occupied.count filter)
  if required = 0 then
    Traced.report .satisfied
    pure (some .empty)
  else
    Traced.report (.started required ranked.length)
    let k := s.constraints filter occupied
    let fresh ← Traced.ofExcept (k.fresh.mapError .accessDenied)
    let best ← k.search s.prune required 0 ranked fresh none
    match best with
    | some selection => Traced.report (.selected selection.candidates selection.score)
    | none => Traced.report (.infeasible required)
    pure best

def selectFor (s : Selector) (filter : PlacementFilter) (name : String) (resources : ResourceAccess)
    (candidates : List Candidate) : Traced (Option Selection) := do
  let resource ← Traced.ofExcept ((resources name).mapError .accessDenied)
  s.select filter resource candidates

end Selector

/-- The node of the lowest ranked among the candidates in use. The fixed nodes are not consulted. -/
def deselect (used : List Candidate) (fixedNodes : List String) : Traced (Option String) := do
  let ranked ← Candidate.rankReported used
  match ranked.getLast? with
  | none => pure none
  | some c =>
    Traced.report (.deselected c fixedNodes.length)
    pure (some c.node)

end ReplicaPlacement
