import ReplicaPlacement.Data.Record
import ReplicaPlacement.PlacementFilter
import ReplicaPlacement.Toml.Document
import ReplicaPlacement.Toml.Writer

namespace ReplicaPlacement

open Data (readText readFlag readCount readChoice readRule readOption readList readRecord)
open Data.RecordReader (optional)

def DisklessType.ofData : Data.Reader DisklessType := readChoice DisklessType.ofName?

def DisklessType.toData (t : DisklessType) : Data := .text t.name

namespace PlacementFilter

def ofData : Data.Reader PlacementFilter :=
  readRecord
    (PlacementFilter.mk <$> optional "replica_count" none (readOption readCount)
      <*> optional "additional_replica_count" none (readOption readCount)
      <*> optional "replicas_on_same" [] (readList readRule)
      <*> optional "replicas_on_different" [] (readList readRule)
      <*> optional "diskless_type" none (readOption DisklessType.ofData)
      <*> optional "skip_already_placed_on_node_names_check" [] (readList readText)
      <*> optional "skip_already_placed_on_all_node_check" false readFlag)

def ofRules (rules : List PropertyRule) : Data := .list (rules.map fun r => .text r.text)

def ofCount (n : UInt32) : Data := .integer n.toNat

def fields (f : PlacementFilter) : Data.Fields :=
  [("replica_count", Data.ofOption ofCount f.replicaCount),
    ("additional_replica_count", Data.ofOption ofCount f.additionalReplicaCount),
    ("replicas_on_same", ofRules f.sameRules),
    ("replicas_on_different", ofRules f.differentRules),
    ("diskless_type", Data.ofOption DisklessType.toData f.disklessType),
    ("skip_already_placed_on_node_names_check", .list (f.uncountedNodes.map .text)),
    ("skip_already_placed_on_all_node_check", .flag f.countsNothing)]

def toData (f : PlacementFilter) : Data := .record f.fields

end PlacementFilter

inductive ConfigurationError where
  | malformed
  | undecodable (cause : DecodeError)
  | invalidFilter (cause : InvalidFilter)
  deriving DecidableEq, Repr

namespace ConfigurationError

def decode {α : Type} (read : Data.Reader α) (text : String) : Except ConfigurationError α :=
  match Toml.read text with
  | none => .error .malformed
  | some d => (read .toml d).mapError .undecodable

end ConfigurationError

namespace PlacementFilter

open Toml (Setting)

def countSetting (name : String) (count : Option UInt32) : List (String × Setting) :=
  count.toList.map fun n => (name, .integer n.toNat)

def ruleSetting (rules : List PropertyRule) : Setting := .texts (rules.map PropertyRule.text)

def settings (f : PlacementFilter) : List (String × Setting) :=
  countSetting "replica_count" f.replicaCount
    ++ countSetting "additional_replica_count" f.additionalReplicaCount
    ++ [("replicas_on_same", ruleSetting f.sameRules),
      ("replicas_on_different", ruleSetting f.differentRules)]
    ++ f.disklessType.toList.map (fun t => ("diskless_type", .text t.name))
    ++ [("skip_already_placed_on_node_names_check", .texts f.uncountedNodes),
      ("skip_already_placed_on_all_node_check", .flag f.countsNothing)]

def toToml (f : PlacementFilter) : Except Toml.WriteError String := Toml.write f.settings

def checked (f : PlacementFilter) : Except ConfigurationError PlacementFilter :=
  f.validate.mapError .invalidFilter

def ofSettings (settings : List (String × Setting)) :
    Except ConfigurationError PlacementFilter := do
  let data : Data := .record (settings.map fun s => (s.1, s.2.toData))
  let f ← (ofData .toml data).mapError .undecodable
  f.checked

def ofToml (text : String) : Except ConfigurationError PlacementFilter := do
  let f ← ConfigurationError.decode ofData text
  f.checked

end PlacementFilter

end ReplicaPlacement
