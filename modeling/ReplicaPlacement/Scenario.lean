import ReplicaPlacement.Configuration
import ReplicaPlacement.Data.Occupancy
import ReplicaPlacement.Selector

namespace ReplicaPlacement

structure Scenario where
  resource : Option String := none
  filter : PlacementFilter := {}
  candidates : List Candidate := []
  pools : List StoragePool := []
  scores : NameMap Score := ∅
  cluster : Cluster := {}
  fixedNodes : List String := []

namespace Scenario

open Data (readText readList readScore readOption readTable readRecord)
open Data.RecordReader (optional)

def ofData : Data.Reader Scenario :=
  readRecord
    (Scenario.mk <$> optional "resource" none (readOption readText)
      <*> optional "filter" {} PlacementFilter.ofData
      <*> optional "candidates" [] (readList Candidate.ofData)
      <*> optional "pools" [] (readList StoragePool.ofData)
      <*> optional "scores" ∅ (readTable readScore)
      <*> optional "cluster" {} Cluster.ofData
      <*> optional "fixed_nodes" [] (readList readText))

def toData (s : Scenario) : Data :=
  .record
    [("resource", Data.ofOption .text s.resource), ("filter", s.filter.toData),
      ("candidates", .list (s.candidates.map Candidate.toData)),
      ("pools", .list (s.pools.map StoragePool.toData)),
      ("scores", Data.ofTable .number s.scores), ("cluster", s.cluster.toData),
      ("fixed_nodes", .list (s.fixedNodes.map .text))]

def ofToml (text : String) : Except ConfigurationError Scenario := do
  let s ← ConfigurationError.decode ofData text
  let filter ← s.filter.checked
  pure { s with filter }

/-- A pool's score stands in the table under its node and its name; without an entry it is zero. -/
def score (scores : NameMap Score) (p : StoragePool) : Score :=
  scores.getD (p.node ++ "/" ++ p.name) .zero

def allCandidates (s : Scenario) : List Candidate :=
  s.candidates ++ StoragePool.scored (score s.scores) s.pools

def select (s : Scenario) : Traced (Option Selection) :=
  let selector : Selector := { properties := s.cluster.property, mixing := MixingPolicy.standard }
  match s.resource with
  | some name => selector.selectFor s.filter name s.cluster.resource s.allCandidates
  | none => selector.select s.filter none s.allCandidates

def deselect (s : Scenario) : Traced (Option String) :=
  ReplicaPlacement.deselect s.allCandidates s.fixedNodes

end Scenario

end ReplicaPlacement
