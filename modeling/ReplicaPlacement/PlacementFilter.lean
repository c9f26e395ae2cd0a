import ReplicaPlacement.PropertyRule

namespace ReplicaPlacement

inductive DisklessType where
  | drbd
  | nvmeInitiator
  deriving DecidableEq, Repr

namespace DisklessType

def name : DisklessType → String
  | .drbd => "drbd"
  | .nvmeInitiator => "nvme_initiator"

def ofName? (s : String) : Option DisklessType := [drbd, nvmeInitiator].find? (·.name == s)

end DisklessType

/-- `replicaCount` is a total to reach and `additionalReplicaCount` a number to add; replicas on the
nodes in `uncountedNodes`, or on all nodes with `countsNothing`, do not count towards the total. -/
structure PlacementFilter where
  replicaCount : Option UInt32 := none
  additionalReplicaCount : Option UInt32 := none
  sameRules : List PropertyRule := []
  differentRules : List PropertyRule := []
  disklessType : Option DisklessType := none
  uncountedNodes : List String := []
  countsNothing : Bool := false
  deriving DecidableEq, Inhabited

inductive InvalidFilter where
  | noReplicas
  | sameAndDifferent (key : String)
  deriving DecidableEq, Repr

def InvalidFilter.message : InvalidFilter → String
  | .noReplicas => "invalid placement filter: replica_count must be at least 1"
  | .sameAndDifferent key =>
    "invalid placement filter: property '" ++ key ++ "' cannot be both same and different"

namespace PlacementFilter

def invalid? (f : PlacementFilter) : Option InvalidFilter :=
  if f.replicaCount = some 0 then some .noReplicas
  else
    (f.sameRules.find? fun r => f.differentRules.any (·.key == r.key)).map
      fun r => .sameAndDifferent r.key

def validate (f : PlacementFilter) : Except InvalidFilter PlacementFilter :=
  match f.invalid? with
  | some e => .error e
  | none => .ok f

def isDiskless (f : PlacementFilter) : Bool := f.disklessType.isSome

def skips (f : PlacementFilter) (node : String) : Bool :=
  f.countsNothing || f.uncountedNodes.contains node

/-- How many replicas to add when `existing` ones count: up to the total if that is not reached yet,
the additional number otherwise. -/
def required (f : PlacementFilter) (existing : Nat) : Nat :=
  let target := (f.replicaCount.getD 0).toNat
  if existing < target then target - existing
  else (f.additionalReplicaCount.getD 0).toNat

end PlacementFilter

end ReplicaPlacement
