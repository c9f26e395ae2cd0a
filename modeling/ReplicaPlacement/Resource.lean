import ReplicaPlacement.ProviderKind

namespace ReplicaPlacement

inductive VolumeRole where
  | data
  | metadata
  | cache
  deriving DecidableEq, Repr

namespace VolumeRole

def name : VolumeRole → String
  | .data => "data"
  | .metadata => "metadata"
  | .cache => "cache"

def ofName? (s : String) : Option VolumeRole := [data, metadata, cache].find? (·.name == s)

end VolumeRole

structure Volume where
  role : VolumeRole := .data
  pool : String
  sharedName : Option String := none
  kind : ProviderKind
  deriving DecidableEq

structure ReplicaFlags where
  diskless : Bool := false
  deleting : Bool := false
  evicted : Bool := false
  evacuating : Bool := false
  deriving DecidableEq, Inhabited

structure Replica where
  node : String
  flags : ReplicaFlags := {}
  nodeEvacuating : Bool := false
  volumes : List Volume := []
  deriving DecidableEq

structure Resource where
  name : String
  replicas : List Replica := []
  deriving DecidableEq

namespace Replica

/-- A replica that is being deleted or was evicted occupies nothing any more. -/
def isPresent (r : Replica) : Bool := !(r.flags.deleting || r.flags.evicted)

def isStaying (r : Replica) : Bool := !(r.flags.evacuating || r.nodeEvacuating)

def dataVolumes (r : Replica) : List Volume := r.volumes.filter (·.role == .data)

end Replica

end ReplicaPlacement
