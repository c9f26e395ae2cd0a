import ReplicaPlacement.PropertyRule
import ReplicaPlacement.Resource

namespace ReplicaPlacement

inductive AccessDenied where
  | property (node key : String)
  | resource (name : String)
  deriving DecidableEq, Repr

def AccessDenied.message : AccessDenied → String
  | .property node key => "access denied: cannot read property '" ++ node ++ "/" ++ key ++ "'"
  | .resource name => "access denied: cannot read resource '" ++ name ++ "'"

abbrev PropertyAccess := String → String → Except AccessDenied (Option String)

abbrev ResourceAccess := String → Except AccessDenied (Option Resource)

structure Cluster where
  properties : NameMap (NameMap String) := ∅
  resources : NameMap (List Replica) := ∅
  deniedKeys : NameSet := ∅
  deriving DecidableEq

namespace Cluster

instance : Inhabited Cluster := ⟨{}⟩

def setProperty (c : Cluster) (node key value : String) : Cluster :=
  { c with properties := c.properties.insert node ((c.properties.getD node ∅).insert key value) }

def denyKey (c : Cluster) (key : String) : Cluster :=
  { c with deniedKeys := c.deniedKeys.insert key }

def setResource (c : Cluster) (name : String) (replicas : List Replica) : Cluster :=
  { c with resources := c.resources.insert name replicas }

def property (c : Cluster) : PropertyAccess := fun node key =>
  if c.deniedKeys.contains key then .error (.property node key)
  else .ok (c.properties[node]?.bind fun exposed => exposed[key]?)

def resource (c : Cluster) : ResourceAccess := fun name =>
  .ok (c.resources[name]?.map fun replicas => ⟨name, replicas⟩)

end Cluster

end ReplicaPlacement
