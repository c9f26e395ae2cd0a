import ReplicaPlacement.Configuration
import ReplicaPlacement.Proofs.Records
import ReplicaPlacement.Proofs.RuleText
import ReplicaPlacement.Proofs.Toml.Document

namespace ReplicaPlacement

open Data (Dialect Fields Provides readText readFlag readCount readRule readOption readList)

variable {dialect : Dialect}

theorem Data.readOption_toNat (n : UInt32) :
    readOption readCount dialect (.integer n.toNat) = .ok (some n) := by
  have bounded : (n.toNat : Int) < 0x100000000 := by
    have := n.toNat_lt
    omega
  simp [readOption, readCount, bounded]

theorem DisklessType.readOption_name (t : DisklessType) :
    readOption ofData dialect (.text t.name) = .ok (some t) := by
  cases t <;> rfl

namespace Data

variable {rules : List PropertyRule}

theorem readRule_eq_ok_iff {s : String} {r : PropertyRule} :
    readRule dialect (.text s) = .ok r ↔ PropertyRule.parse s = .ok r :=
  mapError_eq_ok_iff

theorem readList_rules_iff :
    readList readRule dialect (.list (rules.map fun r => .text r.text)) = .ok rules ↔
      ∀ r ∈ rules, r.Legible := by
  rw [readList, mapM_map_eq_ok_iff]
  simp only [readRule_eq_ok_iff]
  constructor
  · intro parsed r member
    exact PropertyRule.legible_of_parse (parsed r member)
  · intro legible r member
    exact PropertyRule.parse_text (legible r member)

theorem legible_of_readRule {d : Data} {r : PropertyRule} (read : readRule dialect d = .ok r) :
    r.Legible := by
  cases d with
  | text s => exact PropertyRule.legible_of_parse (readRule_eq_ok_iff.mp read)
  | _ => contradiction

theorem legible_of_readList {d : Data} (read : readList readRule dialect d = .ok rules) :
    ∀ r ∈ rules, r.Legible := by
  cases d with
  | list items => exact forall_of_mapM read fun _ _ => legible_of_readRule
  | _ => contradiction

end Data

namespace PlacementFilter

variable {f g : PlacementFilter} {fields : Fields} {text : String}

structure ReadFrom (dialect : Dialect) (fields : Fields) (f : PlacementFilter) : Prop where
  replicaCount :
    Provides (readOption readCount) dialect fields "replica_count" none f.replicaCount
  additionalReplicaCount :
    Provides (readOption readCount) dialect fields "additional_replica_count" none
      f.additionalReplicaCount
  sameRules : Provides (readList readRule) dialect fields "replicas_on_same" [] f.sameRules
  differentRules :
    Provides (readList readRule) dialect fields "replicas_on_different" [] f.differentRules
  disklessType :
    Provides (readOption DisklessType.ofData) dialect fields "diskless_type" none f.disklessType
  uncountedNodes :
    Provides (readList readText) dialect fields "skip_already_placed_on_node_names_check" []
      f.uncountedNodes
  countsNothing :
    Provides readFlag dialect fields "skip_already_placed_on_all_node_check" false f.countsNothing

theorem ofData_record_eq_ok_iff :
    ofData dialect (.record fields) = .ok f ↔ ReadFrom dialect fields f := by
  rw [ofData, Data.readRecord_eq_ok_iff]
  simp only [Data.RecordReader.named_seq_eq_ok_iff, Data.RecordReader.named_map_eq_ok_iff,
    Data.named_optional_eq_ok_iff]
  constructor
  · rintro ⟨_, _, ⟨_, _, ⟨_, _, ⟨_, _, ⟨_, _, ⟨_, _, ⟨_, count, rfl⟩, additional, rfl⟩, same, rfl⟩,
      different, rfl⟩, diskless, rfl⟩, uncounted, rfl⟩, countsNothing, rfl⟩
    exact ⟨count, additional, same, different, diskless, uncounted, countsNothing⟩
  · intro read
    exact ⟨_, _, ⟨_, _, ⟨_, _, ⟨_, _, ⟨_, _, ⟨_, _, ⟨_, read.replicaCount, rfl⟩,
      read.additionalReplicaCount, rfl⟩, read.sameRules, rfl⟩, read.differentRules, rfl⟩,
      read.disklessType, rfl⟩, read.uncountedNodes, rfl⟩, read.countsNothing, rfl⟩

/-- The filter can be met, and the texts of its rules tell all about them. -/
structure Expressible (f : PlacementFilter) : Prop where
  accepted : f.validate = .ok f
  legible : ∀ r ∈ f.sameRules ++ f.differentRules, r.Legible

theorem ReadFrom.legible (read : ReadFrom dialect fields f) :
    ∀ r ∈ f.sameRules ++ f.differentRules, r.Legible := by
  have of_provides {name : String} {rules : List PropertyRule}
      (provides : Provides (readList readRule) dialect fields name [] rules) :
      ∀ r ∈ rules, r.Legible := by
    unfold Provides at provides
    split at provides
    · exact Data.legible_of_readList provides
    · simp [provides]
  intro r member
  rcases List.mem_append.mp member with same | different
  · exact of_provides read.sameRules r same
  · exact of_provides read.differentRules r different

def writtenFields (f : PlacementFilter) : Fields := f.settings.map fun s => (s.1, s.2.toData)

theorem lookup_writtenFields (f : PlacementFilter) :
    f.writtenFields.lookup "replica_count" = f.replicaCount.map (fun n => .integer n.toNat) ∧
      f.writtenFields.lookup "additional_replica_count" =
        f.additionalReplicaCount.map (fun n => .integer n.toNat) ∧
      f.writtenFields.lookup "replicas_on_same" =
        some (.list (f.sameRules.map fun r => .text r.text)) ∧
      f.writtenFields.lookup "replicas_on_different" =
        some (.list (f.differentRules.map fun r => .text r.text)) ∧
      f.writtenFields.lookup "diskless_type" = f.disklessType.map (fun t => .text t.name) ∧
      f.writtenFields.lookup "skip_already_placed_on_node_names_check" =
        some (.list (f.uncountedNodes.map .text)) ∧
      f.writtenFields.lookup "skip_already_placed_on_all_node_check" =
        some (.flag f.countsNothing) := by
  obtain ⟨count, additional, same, different, diskless, uncounted, countsNothing⟩ := f
  cases count <;> cases additional <;> cases diskless <;>
    simp [writtenFields, settings, countSetting, ruleSetting, Toml.Setting.toData, List.lookup_cons,
      Function.comp_def]

theorem readFrom_writtenFields_iff :
    ReadFrom dialect f.writtenFields f ↔ ∀ r ∈ f.sameRules ++ f.differentRules, r.Legible := by
  obtain ⟨count, additional, same, different, diskless, uncounted, countsNothing⟩ :=
    lookup_writtenFields f
  constructor
  · exact ReadFrom.legible
  · intro legible
    rw [List.forall_mem_append] at legible
    exact {
      replicaCount := Data.provides_option count Data.readOption_toNat
      additionalReplicaCount := Data.provides_option additional Data.readOption_toNat
      sameRules := Data.provides_of_lookup same (Data.readList_rules_iff.mpr legible.1)
      differentRules := Data.provides_of_lookup different (Data.readList_rules_iff.mpr legible.2)
      disklessType := Data.provides_option diskless DisklessType.readOption_name
      uncountedNodes := Data.provides_of_lookup uncounted (Data.readList_texts _)
      countsNothing := Data.provides_of_lookup countsNothing rfl }

theorem checked_eq_ok_iff : g.checked = .ok f ↔ g = f ∧ f.validate = .ok f := by
  rw [checked, Data.mapError_eq_ok_iff]
  constructor
  · intro accepted
    have same : g = f := by
      unfold validate at accepted
      split at accepted
      · contradiction
      · exact Except.ok.inj accepted
    rw [same] at accepted
    exact ⟨same, accepted⟩
  · intro ⟨same, accepted⟩
    rw [same]
    exact accepted

theorem decoded_eq_ok_iff {d : Data} :
    ((ofData .toml d).mapError .undecodable >>= checked) = .ok f ↔
      ofData .toml d = .ok f ∧ f.validate = .ok f := by
  cases ofData .toml d with
  | error e => simp [Except.mapError, bind, Except.bind]
  | ok g => simp [Except.mapError, bind, Except.bind, checked_eq_ok_iff]

theorem ofSettings_settings (f : PlacementFilter) :
    ofSettings f.settings =
      ((ofData .toml (.record f.writtenFields)).mapError .undecodable >>= checked) := rfl

theorem ofSettings_settings_eq_ok_iff : ofSettings f.settings = .ok f ↔ f.Expressible := by
  rw [ofSettings_settings, decoded_eq_ok_iff, ofData_record_eq_ok_iff,
    readFrom_writtenFields_iff]
  constructor
  · intro ⟨legible, accepted⟩
    exact ⟨accepted, legible⟩
  · intro expressible
    exact ⟨expressible.legible, expressible.accepted⟩

def names : List String :=
  ["replica_count", "additional_replica_count", "replicas_on_same", "replicas_on_different",
    "diskless_type", "skip_already_placed_on_node_names_check",
    "skip_already_placed_on_all_node_check"]

theorem keys_sublist (f : PlacementFilter) : (f.settings.map Prod.fst).Sublist names := by
  have at_most_one {α : Type} (o : Option α) (name : String) (g : α → Toml.Setting) :
      ((o.toList.map fun a => (name, g a)).map Prod.fst).Sublist [name] := by
    cases o <;> simp
  simp only [settings, List.map_append]
  exact ((((at_most_one _ _ _).append (at_most_one _ _ _)).append (.refl _)).append
    (at_most_one _ _ _)).append (.refl _)

theorem inRange_settings (f : PlacementFilter) : ∀ field ∈ f.settings, field.2.InRange := by
  have counts (n : UInt32) : (Toml.Setting.integer n.toNat).InRange := by
    have := n.toNat_lt
    constructor <;> omega
  intro field member
  simp [settings, countSetting] at member
  obtain ⟨n, -, rfl⟩ | ⟨n, -, rfl⟩ | rfl | rfl | ⟨t, -, rfl⟩ | rfl | rfl := member
  · exact counts n
  · exact counts n
  all_goals trivial

theorem read_of_toToml (written : f.toToml = .ok text) :
    Toml.read text = some (.record f.writtenFields) := by
  have keys : ∀ key ∈ names, Toml.BareKey key := by
    have bare : ∀ key ∈ names, key.toList ≠ [] ∧ key.toList.all Toml.isBare = true := by decide
    intro key member
    exact ⟨(bare key member).1, List.all_eq_true.mp (bare key member).2⟩
  have distinct : names.Nodup := by decide
  refine Toml.read_write (fun field member => ?_) (distinct.sublist f.keys_sublist)
    f.inRange_settings written
  exact keys field.1 (f.keys_sublist.subset (List.mem_map_of_mem member))

theorem exists_toToml_iff :
    (∃ text, f.toToml = .ok text) ↔
      ∀ field ∈ f.settings, ∀ s ∈ field.2.strings, Toml.hasShortRuns s = true := by
  rw [toToml, Toml.write]
  split
  next short => simpa using short
  next long => simpa using long

theorem ofToml_of_toToml (written : f.toToml = .ok text) : ofToml text = ofSettings f.settings := by
  rw [ofToml, ConfigurationError.decode, read_of_toToml written]
  rfl

theorem expressible_of_ofToml (read : ofToml text = .ok f) : f.Expressible := by
  rw [ofToml, ConfigurationError.decode] at read
  cases document : Toml.read text with
  | none => simp [document, bind, Except.bind] at read
  | some d =>
      rw [document] at read
      obtain ⟨decoded, accepted⟩ := decoded_eq_ok_iff.mp read
      obtain ⟨fields, rfl⟩ : ∃ fields, d = .record fields := by
        simp only [Toml.read, Option.bind_eq_bind, Option.bind_eq_some_iff] at document
        obtain ⟨_, _, entries, _, last⟩ := document
        exact ⟨_, (Option.some.inj last).symm⟩
      exact ⟨accepted, (ofData_record_eq_ok_iff.mp decoded).legible⟩

/-- A filter is read from its settings exactly if it is expressible, and so it is from its document,
which can be written unless too many quotes stand in a row in one of its texts. Whatever was read is
expressible. -/
theorem read_back_iff_expressible (f : PlacementFilter) :
    (ofSettings f.settings = .ok f ↔ f.Expressible) ∧
    ((∃ text, f.toToml = .ok text) ↔
      ∀ field ∈ f.settings, ∀ s ∈ field.2.strings, Toml.hasShortRuns s = true) ∧
    (∀ text, f.toToml = .ok text → (ofToml text = .ok f ↔ f.Expressible)) ∧
    ∀ given, ofToml given = .ok f →
      ofSettings f.settings = .ok f ∧ ∀ text, f.toToml = .ok text → ofToml text = .ok f := by
  refine ⟨ofSettings_settings_eq_ok_iff, exists_toToml_iff, ?_, ?_⟩
  · intro text written
    rw [ofToml_of_toToml written]
    exact ofSettings_settings_eq_ok_iff
  · intro given read
    have again := ofSettings_settings_eq_ok_iff.mpr (expressible_of_ofToml read)
    exact ⟨again, fun text written => (ofToml_of_toToml written).trans again⟩

theorem read_back_iff_expressible_quoted :
    let f : PlacementFilter :=
      { replicaCount := some 3, sameRules := [⟨"zone", some "a=\"b\""⟩],
        differentRules := [⟨"rack", none⟩], disklessType := some .nvmeInitiator,
        uncountedNodes := ["node'1\"", "node\n2"] }
    let padded : PlacementFilter := { sameRules := [⟨" zone", none⟩] }
    (∃ text, f.toToml = .ok text ∧ ofToml text = .ok f ∧ ofSettings f.settings = .ok f) ∧
      ofSettings padded.settings ≠ .ok padded := by
  intro f padded
  have expressible : f.Expressible := by
    refine ⟨by decide, fun r member => PropertyRule.legible_of_parse (s := r.text) ?_⟩
    revert r
    decide
  obtain ⟨-, written, document, again⟩ := read_back_iff_expressible f
  obtain ⟨text, text_eq⟩ := written.mpr (by decide)
  have read := (document text text_eq).mpr expressible
  refine ⟨⟨text, text_eq, read, (again text read).1⟩, ?_⟩
  rw [ne_eq, (read_back_iff_expressible padded).1]
  intro blank
  have trimmed := (blank.legible _ List.mem_cons_self).key_trimmed ' ' (.inl (by decide))
  exact absurd trimmed (by decide)

end PlacementFilter

end ReplicaPlacement
