import ReplicaPlacement.Data.Record
import Mathlib.Data.List.Forall2

namespace ReplicaPlacement.Data

variable {α β : Type} {dialect : Dialect} {fields : Fields}

theorem mapError_eq_ok_iff {ε ε' : Type} {outcome : Except ε α} {g : ε → ε'} {a : α} :
    outcome.mapError g = .ok a ↔ outcome = .ok a := by
  cases outcome <;> simp [Except.mapError]

theorem mapM_eq_ok_iff {ε : Type} {read : β → Except ε α} {items : List β} {as : List α} :
    items.mapM read = .ok as ↔ List.Forall₂ (fun d a => read d = .ok a) items as := by
  induction items generalizing as with
  | nil => cases as <;> simp [pure, Except.pure]
  | cons d items ih =>
      rw [List.mapM_cons]
      cases first : read d with
      | error e => cases as <;> simp [bind, Except.bind, first]
      | ok a =>
          cases others : items.mapM read with
          | error e => cases as <;> simp [bind, Except.bind, first, ← ih, others]
          | ok bs => cases as <;> simp [bind, Except.bind, pure, Except.pure, first, ← ih, others]

theorem mapM_map_eq_ok_iff {ε : Type} {read : β → Except ε α} {write : α → β} {as : List α} :
    (as.map write).mapM read = .ok as ↔ ∀ a ∈ as, read (write a) = .ok a := by
  rw [mapM_eq_ok_iff, List.forall₂_map_left_iff, List.forall₂_same]

theorem readList_texts (texts : List String) :
    readList readText dialect (.list (texts.map .text)) = .ok texts :=
  mapM_map_eq_ok_iff.mpr fun _ _ => rfl

theorem forall_of_mapM {ε : Type} {read : β → Except ε α} {items : List β} {as : List α}
    {P : α → Prop} (done : items.mapM read = .ok as) (each : ∀ d a, read d = .ok a → P a) :
    ∀ a ∈ as, P a := by
  rw [mapM_eq_ok_iff] at done
  induction done with
  | nil => exact List.forall_mem_nil P
  | cons first _ ih => exact List.forall_mem_cons.mpr ⟨each _ _ first, ih⟩

namespace RecordReader

theorem named_pure (a : α) : (pure a : RecordReader α).named dialect fields = .ok a := rfl

theorem named_seq_eq_ok_iff {f : RecordReader (α → β)} {x : RecordReader α} {b : β} :
    (f <*> x).named dialect fields = .ok b ↔
      ∃ g a, f.named dialect fields = .ok g ∧ x.named dialect fields = .ok a ∧ g a = b := by
  change (RecordReader.seq f x).named dialect fields = .ok b ↔ _
  rw [RecordReader.seq]
  dsimp only
  cases f.named dialect fields <;> cases x.named dialect fields <;> simp

theorem named_map_eq_ok_iff {g : α → β} {x : RecordReader α} {b : β} :
    (g <$> x).named dialect fields = .ok b ↔ ∃ a, x.named dialect fields = .ok a ∧ g a = b := by
  change (pure g <*> x : RecordReader β).named dialect fields = .ok b ↔ _
  rw [named_seq_eq_ok_iff]
  simp [named_pure]

theorem map_locate (name : String) (start : Nat) (fields : Fields) :
    (locate name start fields).map Prod.snd = fields.lookup name := by
  induction fields generalizing start with
  | nil => rfl
  | cons field fields ih =>
      rw [locate, List.lookup_cons]
      by_cases found : field.1 = name
      · simp [found]
      · have other : (name == field.1) = false := beq_eq_false_iff_ne.mpr (Ne.symm found)
        simp [found, other, ih]

end RecordReader

/-- The field of that name, if there is one, is read as `a`; otherwise `a` is the default. -/
def Provides (read : Reader α) (dialect : Dialect) (fields : Fields) (name : String)
    (default a : α) : Prop :=
  match fields.lookup name with
  | some d => read dialect d = .ok a
  | none => a = default

section Provides

variable {read : Reader α} {name : String}

theorem provides_of_lookup {default a : α} {d : Data} (found : fields.lookup name = some d)
    (reads : read dialect d = .ok a) : Provides read dialect fields name default a := by
  rw [Provides, found]
  exact reads

theorem provides_option {write : α → Data} {o : Option α}
    (found : fields.lookup name = o.map write)
    (reads : ∀ a, readOption read dialect (write a) = .ok (some a)) :
    Provides (readOption read) dialect fields name none o := by
  cases o with
  | none =>
      rw [Provides, found]
      rfl
  | some a => exact provides_of_lookup found (reads a)

end Provides

theorem named_optional_eq_ok_iff {read : Reader α} {name : String} {default a : α} :
    (RecordReader.optional name default read).named dialect fields = .ok a ↔
      Provides read dialect fields name default a := by
  have found := RecordReader.map_locate name 0 fields
  rw [Provides, ← found, RecordReader.optional, RecordReader.field]
  dsimp only
  cases RecordReader.locate name 0 fields with
  | none =>
      rw [mapError_eq_ok_iff, Except.ok.injEq]
      exact eq_comm
  | some located => exact mapError_eq_ok_iff

theorem named_required_eq_ok_iff {read : Reader α} {name : String} {a : α} :
    (RecordReader.required name read).named dialect fields = .ok a ↔
      ∃ d, fields.lookup name = some d ∧ read dialect d = .ok a := by
  have found := RecordReader.map_locate name 0 fields
  rw [← found, RecordReader.required, RecordReader.field]
  dsimp only
  cases RecordReader.locate name 0 fields with
  | none => simp [Except.mapError]
  | some located => simp [mapError_eq_ok_iff]

theorem readRecord_eq_ok_iff {reader : RecordReader α} {a : α} :
    readRecord reader dialect (.record fields) = .ok a ↔ reader.named dialect fields = .ok a :=
  mapError_eq_ok_iff

end ReplicaPlacement.Data
