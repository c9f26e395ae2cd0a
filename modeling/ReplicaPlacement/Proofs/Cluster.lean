import ReplicaPlacement.Data.Occupancy
import ReplicaPlacement.Proofs.Variation

namespace ReplicaPlacement

open Data (Faithful Slot Slots Variation readText readFlag readChoice)
open Data.RecordReader (Finds)

namespace Data.Faithful

theorem text : Faithful readText .text .exact := of_reads fun _ _ => rfl

theorem flag : Faithful readFlag .flag .exact := of_reads fun _ _ => rfl

theorem choice {α : Type} {ofName? : String → Option α} {name : α → String}
    (named : ∀ a, ofName? (name a) = some a) :
    Faithful (readChoice ofName?) (fun a => .text (name a)) .exact := by
  refine of_reads fun dialect a => ?_
  simp only [readChoice, Option.bind_some, named]

end Data.Faithful

theorem ProviderKind.faithful : Faithful ofData toData .exact := .choice ofName?_name

theorem VolumeRole.faithful : Faithful ofData toData .exact :=
  .choice fun role => by cases role <;> rfl

namespace Volume

def slots : Slots :=
  [("role", .optional (.text "data") .exact), ("stor_pool", .required .exact),
    ("shared_name", .optional .null .exact), ("provider_kind", .required .exact)]

theorem faithful : Faithful ofData toData (.record slots) := by
  refine .record fun ⟨role, pool, sharedName, kind⟩ => ⟨_, rfl, ?_⟩
  have distinct : ["role", "stor_pool", "shared_name", "provider_kind"].Nodup := by decide
  refine .seq (.seq (.seq (.map ?role Volume.mk) ?pool) ?sharedName) ?kind
  case role => exact .optional VolumeRole.faithful distinct rfl rfl
  case pool => exact .required .text distinct rfl rfl
  case sharedName => exact .optional (.option .text fun _ => nofun) distinct rfl rfl
  case kind => exact .required ProviderKind.faithful distinct rfl rfl

end Volume

namespace ReplicaFlags

def slots : Slots :=
  [("diskless", .optional (.flag false) .exact), ("deleting", .optional (.flag false) .exact),
    ("evicted", .optional (.flag false) .exact), ("evacuating", .optional (.flag false) .exact)]

theorem faithful : Faithful ofData toData (.record slots) := by
  refine .record fun ⟨diskless, deleting, evicted, evacuating⟩ => ⟨_, rfl, ?_⟩
  have distinct : ["diskless", "deleting", "evicted", "evacuating"].Nodup := by decide
  refine .seq (.seq (.seq (.map ?diskless ReplicaFlags.mk) ?deleting) ?evicted) ?evacuating
  all_goals exact .optional .flag distinct rfl rfl

end ReplicaFlags

namespace Replica

def slots : Slots :=
  [("node", .required .exact),
    ("flags", .optional (ReplicaFlags.toData {}) (.record ReplicaFlags.slots)),
    ("node_evacuating", .optional (.flag false) .exact),
    ("volumes", .optional (.list []) (.each (.record Volume.slots)))]

theorem faithful : Faithful ofData toData (.record slots) := by
  refine .record fun ⟨node, flags, nodeEvacuating, volumes⟩ => ⟨_, rfl, ?_⟩
  have distinct : ["node", "flags", "node_evacuating", "volumes"].Nodup := by decide
  refine .seq (.seq (.seq (.map ?node Replica.mk) ?flags) ?nodeEvacuating) ?volumes
  case node => exact .required .text distinct rfl rfl
  case flags => exact .optional ReplicaFlags.faithful distinct rfl rfl
  case nodeEvacuating => exact .optional .flag distinct rfl rfl
  case volumes => exact .optional (.list Volume.faithful) distinct rfl rfl

end Replica

namespace Resource

def slots : Slots :=
  [("name", .required .exact), ("deployed", .optional (.list []) (.each (.record Replica.slots)))]

theorem faithful : Faithful ofData toData (.record slots) := by
  refine .record fun ⟨name, replicas⟩ => ⟨_, rfl, ?_⟩
  have distinct : ["name", "deployed"].Nodup := by decide
  refine .seq (.map ?name Resource.mk) ?replicas
  case name => exact .required .text distinct rfl rfl
  case replicas => exact .optional (.list Replica.faithful) distinct rfl rfl

end Resource

namespace Cluster

def slots : Slots :=
  [("node_props", .optional (.record []) (.entries (.entries .exact))),
    ("resources", .optional (.record []) (.entries (.each (.record Replica.slots)))),
    ("denied_props", .optional (.list []) .sameItems)]

theorem faithful : Faithful ofData toData (.record slots) := by
  refine .record fun ⟨properties, resources, deniedKeys⟩ => ⟨_, rfl, ?_⟩
  have distinct : ["node_props", "resources", "denied_props"].Nodup := by decide
  refine .seq (.seq (.map ?properties Cluster.mk) ?resources) ?deniedKeys
  case properties => exact .optional (.table (.table .text)) distinct rfl rfl
  case resources => exact .optional (.table (.list Replica.faithful)) distinct rfl rfl
  case deniedKeys => exact .optional .set distinct rfl rfl

/-- A cluster is read back from what was written of it. It is read as well with defaults left out at
any depth, with further fields, and with the keys denied everywhere in another order or repeated. -/
theorem varied_read_back (c : Cluster) :
    ofData .json c.toData = .ok c ∧
      ∀ d, (Variation.record slots).Allows c.toData d → ofData .json d = .ok c := by
  constructor
  · exact faithful.reads .json c
  · intro d allowed
    exact faithful .json c d allowed

def halfLost : Cluster where
  properties := (∅ : NameMap (NameMap String)).insert "n1" ((∅ : NameMap String).insert "rack" "r1")
  resources := (∅ : NameMap (List Replica)).insert "data"
    [{ node := "n1", flags := { evicted := true }, volumes := [{ pool := "p", kind := .lvm }] },
      { node := "n2" }]
  deniedKeys := ((∅ : NameSet).insert "site").insert "zone"

def halfLostAbridged : Data :=
  .record
    [("comment", .null),
      ("node_props", .record [("n1", .record [("rack", .text "r1")])]),
      ("resources", .record
        [("data", .list
          [.record
            [("node", .text "n1"),
              ("flags", .record [("comment", .integer 2), ("evicted", .flag true)]),
              ("comment", .text "lost"),
              ("volumes", .list
                [.record
                  [("comment", .list []), ("stor_pool", .text "p"),
                    ("provider_kind", .text "lvm")]])],
            .record [("node", .text "n2")]])]),
      ("denied_props", .list [.text "zone", .text "site", .text "zone"])]

theorem varied_read_back_halfLost : ofData .json halfLostAbridged = .ok halfLost := by
  have flags : (Variation.record ReplicaFlags.slots).Allows
      (ReplicaFlags.toData { evicted := true })
      (.record [("comment", .integer 2), ("evicted", .flag true)]) :=
    .addFirst rfl <| .leaveOut rfl rfl <| .leaveOut rfl rfl <| .keepFirst rfl rfl <|
      .leaveOut rfl rfl <| .same []
  have volume : (Variation.record Volume.slots).Allows
      (Volume.toData { pool := "p", kind := .lvm })
      (.record
        [("comment", .list []), ("stor_pool", .text "p"), ("provider_kind", .text "lvm")]) :=
    .leaveOut rfl rfl <| .addFirst rfl <| .keepFirst rfl rfl <| .leaveOut rfl rfl <| .same _
  have empty_replica : (Variation.record Replica.slots).Allows (Replica.toData { node := "n2" })
      (.record [("node", .text "n2")]) :=
    .keepFirst rfl rfl <| .leaveOut rfl rfl <| .leaveOut rfl rfl <| .leaveOut rfl rfl <| .same []
  have denied : Variation.sameItems.Allows (.list [.text "site", .text "zone"])
      (.list [.text "zone", .text "site", .text "zone"]) := by
    intro d
    grind
  apply (varied_read_back halfLost).2
  refine .addFirst rfl <| .keepFirst rfl (Variation.refl _ _) <| .keepFirst rfl ?_ <|
    .keepFirst rfl denied <| .same []
  refine ⟨_, ?_, .rfl⟩
  refine .cons ⟨rfl, .cons ?_ (.cons empty_replica .nil)⟩ .nil
  exact .keepFirst rfl rfl <| .keepFirst rfl flags <| .leaveOut rfl rfl <| .addFirst rfl <|
    .keepFirst rfl (.cons volume .nil) <| .same []

end Cluster

end ReplicaPlacement
