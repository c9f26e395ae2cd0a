import ReplicaPlacement.Candidate
import ReplicaPlacement.Data.Record
import ReplicaPlacement.Occupancy

namespace ReplicaPlacement

open Data (readText readFlag readCount readScore readChoice readOption readList readSet readTable
  readRecord)
open Data.RecordReader (required optional)

def ProviderKind.ofData : Data.Reader ProviderKind := readChoice ProviderKind.ofName?

def ProviderKind.toData (kind : ProviderKind) : Data := .text kind.name

namespace StoragePool

def reader : Data.RecordReader StoragePool :=
  StoragePool.mk <$> required "stor_pool" readText <*> required "node" readText
    <*> optional "shared_name" none (readOption readText)
    <*> required "provider_kind" ProviderKind.ofData

def ofData : Data.Reader StoragePool := readRecord reader

def fields (p : StoragePool) : Data.Fields :=
  [("stor_pool", .text p.name), ("node", .text p.node),
    ("shared_name", Data.ofOption .text p.sharedName), ("provider_kind", p.kind.toData)]

def toData (p : StoragePool) : Data := .record p.fields

end StoragePool

namespace Candidate

def ofData : Data.Reader Candidate :=
  readRecord (Candidate.mk <$> StoragePool.reader <*> required "score" readScore)

def toData (c : Candidate) : Data :=
  .record (c.toStoragePool.fields ++ [("score", .number c.score)])

end Candidate

def VolumeRole.ofData : Data.Reader VolumeRole := readChoice VolumeRole.ofName?

def VolumeRole.toData (role : VolumeRole) : Data := .text role.name

namespace Volume

def ofData : Data.Reader Volume :=
  readRecord
    (Volume.mk <$> optional "role" .data VolumeRole.ofData <*> required "stor_pool" readText
      <*> optional "shared_name" none (readOption readText)
      <*> required "provider_kind" ProviderKind.ofData)

def toData (v : Volume) : Data :=
  .record
    [("role", v.role.toData), ("stor_pool", .text v.pool),
      ("shared_name", Data.ofOption .text v.sharedName), ("provider_kind", v.kind.toData)]

end Volume

namespace ReplicaFlags

def ofData : Data.Reader ReplicaFlags :=
  readRecord
    (ReplicaFlags.mk <$> optional "diskless" false readFlag <*> optional "deleting" false readFlag
      <*> optional "evicted" false readFlag <*> optional "evacuating" false readFlag)

def toData (f : ReplicaFlags) : Data :=
  .record
    [("diskless", .flag f.diskless), ("deleting", .flag f.deleting), ("evicted", .flag f.evicted),
      ("evacuating", .flag f.evacuating)]

end ReplicaFlags

namespace Replica

def ofData : Data.Reader Replica :=
  readRecord
    (Replica.mk <$> required "node" readText <*> optional "flags" {} ReplicaFlags.ofData
      <*> optional "node_evacuating" false readFlag
      <*> optional "volumes" [] (readList Volume.ofData))

def toData (r : Replica) : Data :=
  .record
    [("node", .text r.node), ("flags", r.flags.toData),
      ("node_evacuating", .flag r.nodeEvacuating), ("volumes", .list (r.volumes.map Volume.toData))]

end Replica

namespace Resource

def ofData : Data.Reader Resource :=
  readRecord
    (Resource.mk <$> required "name" readText
      <*> optional "deployed" [] (readList Replica.ofData))

def toData (r : Resource) : Data :=
  .record [("name", .text r.name), ("deployed", .list (r.replicas.map Replica.toData))]

end Resource

namespace Cluster

def ofData : Data.Reader Cluster :=
  readRecord
    (Cluster.mk <$> optional "node_props" ∅ (readTable (readTable readText))
      <*> optional "resources" ∅ (readTable (readList Replica.ofData))
      <*> optional "denied_props" ∅ readSet)

def toData (c : Cluster) : Data :=
  .record
    [("node_props", Data.ofTable (Data.ofTable .text) c.properties),
      ("resources", Data.ofTable (fun replicas => .list (replicas.map Replica.toData)) c.resources),
      ("denied_props", Data.ofSet c.deniedKeys)]

end Cluster

namespace Occupancy

def readNat : Data.Reader Nat := fun dialect d => UInt32.toNat <$> readCount dialect d

def ofData : Data.Reader Occupancy :=
  readRecord
    (Occupancy.mk <$> optional "already_used_nodes" ∅ readSet
      <*> optional "diskful_count" 0 readNat <*> optional "diskless_count" 0 readNat
      <*> optional "already_used_shared_names" ∅ readSet
      <*> optional "already_used_provider_kinds" [] (readList ProviderKind.ofData))

def toData (o : Occupancy) : Data :=
  .record
    [("already_used_nodes", Data.ofSet o.nodes), ("diskful_count", .integer o.diskfulCount),
      ("diskless_count", .integer o.disklessCount),
      ("already_used_shared_names", Data.ofSet o.sharedNames),
      ("already_used_provider_kinds", .list (o.kinds.map ProviderKind.toData))]

end Occupancy

end ReplicaPlacement
