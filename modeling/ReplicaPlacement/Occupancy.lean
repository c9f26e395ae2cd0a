import ReplicaPlacement.Cluster
import ReplicaPlacement.PlacementFilter

namespace ReplicaPlacement

inductive PlacementError where
  | accessDenied (cause : AccessDenied)
  | incompatibleKinds (resource : String) (existing found : ProviderKind)
  /-- Undoing a pick took a kind away that the replicas deployed already need. -/
  | seedKindLost
  deriving DecidableEq, Repr

def PlacementError.message : PlacementError → String
  | .accessDenied cause => cause.message
  | .incompatibleKinds resource existing found =>
    "internal consistency fault: resource '" ++ resource ++
      "' is deployed with incompatible provider kinds " ++ existing.name ++ " and " ++ found.name
  | .seedKindLost => "selection lost a provider kind required by existing replicas"

/-- The counts are natural numbers. Counters of 32 bits arrive at the same for fewer than `2 ^ 32`
replicas, by `Occupancy.counters_agree_of_ofResource`. -/
structure Occupancy where
  nodes : NameSet := ∅
  diskfulCount : Nat := 0
  disklessCount : Nat := 0
  sharedNames : NameSet := ∅
  kinds : List ProviderKind := []
  deriving DecidableEq

namespace Occupancy

instance : Inhabited Occupancy := ⟨{}⟩

def count (o : Occupancy) (filter : PlacementFilter) : Nat :=
  if filter.isDiskless then o.disklessCount else o.diskfulCount

def addReplica (filter : PlacementFilter) (o : Occupancy) (r : Replica) : Occupancy :=
  let counted := !filter.skips r.node && r.isStaying
  { o with
    nodes := o.nodes.insert r.node
    diskfulCount := if counted && !r.flags.diskless then o.diskfulCount + 1 else o.diskfulCount
    disklessCount := if counted && r.flags.diskless then o.disklessCount + 1 else o.disklessCount }

def addSharedName (o : Occupancy) (v : Volume) : Occupancy :=
  match v.sharedName with
  | none => o
  | some name => { o with sharedNames := o.sharedNames.insert name }

/-- Kinds are kept with multiplicity and in order; the first that refuses the new one is the
fault. -/
def addKind (mixing : MixingPolicy) (resource : String) (o : Occupancy) (kind : ProviderKind) :
    Except PlacementError Occupancy :=
  if kind.isDiskless then .ok o
  else
    match o.kinds.find? fun k => !mixing k kind with
    | some existing => .error (.incompatibleKinds resource existing kind)
    | none => .ok { o with kinds := o.kinds ++ [kind] }

def addVolume (mixing : MixingPolicy) (resource : String) (o : Occupancy) (v : Volume) :
    Except PlacementError Occupancy :=
  addKind mixing resource (o.addSharedName v) v.kind

def add (mixing : MixingPolicy) (filter : PlacementFilter) (resource : String) (o : Occupancy)
    (r : Replica) : Except PlacementError Occupancy :=
  r.dataVolumes.foldlM (addVolume mixing resource) (o.addReplica filter r)

def ofResource (mixing : MixingPolicy) (filter : PlacementFilter) (r : Resource) :
    Except PlacementError Occupancy :=
  (r.replicas.filter Replica.isPresent).foldlM (add mixing filter r.name) {}

def ofResource? (mixing : MixingPolicy) (filter : PlacementFilter) :
    Option Resource → Except PlacementError Occupancy
  | none => .ok {}
  | some r => ofResource mixing filter r

end Occupancy

end ReplicaPlacement
