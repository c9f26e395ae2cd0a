import ReplicaPlacement.Proofs.Records
import Mathlib.Data.List.Perm.Basic
import Mathlib.Data.Set.List

namespace ReplicaPlacement.Data

variable {α β : Type} {dialect : Dialect}

/-! Data that say the same in other words: a record may leave out what holds its default and may
hold more than is asked for, and a set may name its members in any order and more than once. -/

structure Variation where
  Allows : Data → Data → Prop
  refl (d : Data) : Allows d d

/-- A place for a field of a record: what it may be left out for, and how it may be varied. -/
structure Slot where
  default? : Option Data
  variation : Variation

abbrev Slots := List (String × Slot)

def Slot.required (v : Variation) : Slot := ⟨none, v⟩

def Slot.optional (default : Data) (v : Variation) : Slot := ⟨some default, v⟩

/-- The fields of a record and a variation of them, in any order: a field with a place may be
varied, or left out if it holds its default, and fields that have no place may come in. -/
inductive FieldsVary (slots : Slots) : Fields → Fields → Prop
  | same (fields : Fields) : FieldsVary slots fields fields
  | keep {name : String} {slot : Slot} {d e : Data} {fields left right : Fields}
      (known : slots.lookup name = some slot) (allowed : slot.variation.Allows d e)
      (others : FieldsVary slots fields (left ++ right)) :
      FieldsVary slots ((name, d) :: fields) (left ++ (name, e) :: right)
  | leaveOut {name : String} {slot : Slot} {d : Data} {fields varied : Fields}
      (known : slots.lookup name = some slot) (held : slot.default? = some d)
      (others : FieldsVary slots fields varied) :
      FieldsVary slots ((name, d) :: fields) varied
  | add {name : String} {e : Data} {fields left right : Fields}
      (unknown : slots.lookup name = none) (others : FieldsVary slots fields (left ++ right)) :
      FieldsVary slots fields (left ++ (name, e) :: right)

namespace FieldsVary

variable {slots : Slots} {fields varied : Fields} {name : String} {slot : Slot} {d e : Data}

theorem keepFirst (known : slots.lookup name = some slot) (allowed : slot.variation.Allows d e)
    (others : FieldsVary slots fields varied) :
    FieldsVary slots ((name, d) :: fields) ((name, e) :: varied) :=
  @keep slots name slot d e fields [] varied known allowed others

theorem addFirst (unknown : slots.lookup name = none) (others : FieldsVary slots fields varied) :
    FieldsVary slots fields ((name, e) :: varied) :=
  @add slots name e fields [] varied unknown others

end FieldsVary

section Lookup

variable {slots : Slots} {fields varied left right : Fields} {name other : String} {slot : Slot}
  {d e : Data}

theorem ne_of_known (known : slots.lookup name = some slot) (unknown : slots.lookup other = none) :
    name ≠ other := by
  rintro rfl
  rw [known] at unknown
  contradiction

theorem lookup_cons_eq :
    List.lookup name ((other, d) :: fields) =
      if name = other then some d else fields.lookup name := by
  rw [List.lookup_cons]
  cases here : name == other with
  | true => rw [if_pos (beq_iff_eq.mp here)]
  | false => rw [if_neg (beq_eq_false_iff_ne.mp here)]

theorem lookup_insert_ne (apart : name ≠ other) :
    (left ++ (other, e) :: right).lookup name = (left ++ right).lookup name := by
  rw [List.lookup_append, List.lookup_append, lookup_cons_eq, if_neg apart]

theorem lookup_insert_self (absent : (left ++ right).lookup name = none) :
    (left ++ (name, e) :: right).lookup name = some e := by
  rw [List.lookup_append, Option.or_eq_none_iff] at absent
  rw [List.lookup_append, absent.1, List.lookup_cons_self, Option.none_or]

theorem lookup_tail_eq_none (distinct : (((name, d) :: fields).map Prod.fst).Nodup) :
    fields.lookup name = none := by
  have fresh := (List.nodup_cons.mp distinct).1
  rw [List.lookup_eq_none_iff]
  intro field member
  rw [bne_iff_ne]
  intro same
  exact fresh (List.mem_map.mpr ⟨field, member, same.symm⟩)

theorem FieldsVary.lookup_eq_none (vary : FieldsVary slots fields varied)
    (known : slots.lookup name = some slot) (absent : fields.lookup name = none) :
    varied.lookup name = none := by
  induction vary with
  | same => exact absent
  | keep _ _ _ ih =>
      rw [lookup_cons_eq] at absent
      split at absent
      · contradiction
      · next apart =>
          rw [lookup_insert_ne apart]
          exact ih absent
  | leaveOut _ _ _ ih =>
      rw [lookup_cons_eq] at absent
      split at absent
      · contradiction
      · exact ih absent
  | add unknown _ ih =>
      rw [lookup_insert_ne (ne_of_known known unknown)]
      exact ih absent

theorem FieldsVary.lookup_eq_some (vary : FieldsVary slots fields varied)
    (distinct : (fields.map Prod.fst).Nodup) (known : slots.lookup name = some slot)
    (found : fields.lookup name = some d) :
    (∃ e, varied.lookup name = some e ∧ slot.variation.Allows d e) ∨
      varied.lookup name = none ∧ slot.default? = some d := by
  induction vary with
  | same => exact .inl ⟨d, found, slot.variation.refl d⟩
  | @keep other _ _ e _ _ _ there allowed others ih =>
      rw [lookup_cons_eq] at found
      split at found
      · next here =>
          subst here
          obtain rfl : slot = _ := Option.some.inj (known.symm.trans there)
          obtain rfl := Option.some.inj found
          -- The name comes once, so that nothing stands before the field where it was put.
          have absent := others.lookup_eq_none known (lookup_tail_eq_none distinct)
          exact .inl ⟨e, lookup_insert_self absent, allowed⟩
      · next apart =>
          rw [lookup_insert_ne apart]
          exact ih (List.nodup_cons.mp distinct).2 found
  | leaveOut there held others ih =>
      rw [lookup_cons_eq] at found
      split at found
      · next here =>
          subst here
          obtain rfl : slot = _ := Option.some.inj (known.symm.trans there)
          obtain rfl := Option.some.inj found
          exact .inr ⟨others.lookup_eq_none known (lookup_tail_eq_none distinct), held⟩
      · exact ih (List.nodup_cons.mp distinct).2 found
  | add unknown _ ih =>
      rw [lookup_insert_ne (ne_of_known known unknown)]
      exact ih distinct found

end Lookup

namespace Variation

def exact : Variation := ⟨Eq, Eq.refl⟩

def each (v : Variation) : Variation where
  Allows
    | .list items, .list varied => List.Forall₂ v.Allows items varied
    | d, e => d = e
  refl d := by
    cases d with
    | list items => exact List.forall₂_same.mpr fun d _ => v.refl d
    | _ => rfl

def sameItems : Variation where
  Allows
    | .list items, .list varied => ∀ d, d ∈ items ↔ d ∈ varied
    | d, e => d = e
  refl d := by cases d <;> simp

def entries (v : Variation) : Variation where
  Allows
    | .record fields, .record varied =>
      ∃ each, List.Forall₂ (fun f g => f.1 = g.1 ∧ v.Allows f.2 g.2) fields each ∧
        each.Perm varied
    | d, e => d = e
  refl d := by
    cases d with
    | record fields => exact ⟨fields, List.forall₂_same.mpr fun f _ => ⟨rfl, v.refl f.2⟩, .rfl⟩
    | _ => rfl

def record (slots : Slots) : Variation where
  Allows
    | .record fields, .record varied => FieldsVary slots fields varied
    | d, e => d = e
  refl d := by
    cases d with
    | record fields => exact .same fields
    | _ => rfl

end Variation

theorem readTable_of_entries {read : Reader α} {fields : Fields} {entries : List (String × α)}
    (readable : List.Forall₂ (fun f entry => f.1 = entry.1 ∧ read dialect f.2 = .ok entry.2)
      fields entries) :
    readTable read dialect (.record fields) = .ok (.ofList entries) := by
  rw [Std.ExtTreeMap.ofList_eq_foldl, readTable]
  generalize (∅ : NameMap α) = table
  induction readable generalizing table with
  | nil => rfl
  | cons first _ ih =>
      obtain ⟨same_name, read_first⟩ := first
      rw [List.foldlM_cons, read_first, same_name]
      exact ih _

theorem ofList_eq_of_perm {table : NameMap α} {entries : List (String × α)}
    (reordered : entries.Perm table.toList) : Std.ExtTreeMap.ofList entries = table := by
  have distinct : entries.Pairwise fun f g => ¬ compare f.1 g.1 = .eq :=
    reordered.symm.pairwise Std.ExtTreeMap.distinct_keys_toList fun apart same =>
      apart (Std.OrientedCmp.eq_symm same)
  apply Std.ExtTreeMap.ext_getElem?
  intro name
  cases found : table[name]? with
  | some a =>
      have member := Std.ExtTreeMap.mem_toList_iff_getElem?_eq_some.mpr found
      exact Std.ExtTreeMap.getElem?_ofList_of_mem Std.ReflCmp.compare_self distinct
        (reordered.mem_iff.mpr member)
  | none =>
      apply Std.ExtTreeMap.getElem?_ofList_of_contains_eq_false
      rw [← Bool.not_eq_true, List.contains_iff_mem, List.mem_map]
      intro ⟨entry, member, here⟩
      have there := reordered.mem_iff.mp member
      rw [Std.ExtTreeMap.mem_toList_iff_getElem?_eq_some, here, found] at there
      contradiction

/-- What is written of a value is read as that value, and so is everything that it may be varied
to. -/
def Faithful (read : Reader α) (write : α → Data) (v : Variation) : Prop :=
  ∀ dialect a d, v.Allows (write a) d → read dialect d = .ok a

namespace Faithful

variable {read : Reader α} {write : α → Data} {v : Variation}

theorem reads (faithful : Faithful read write v) (dialect : Dialect) (a : α) :
    read dialect (write a) = .ok a :=
  faithful dialect a (write a) (v.refl (write a))

theorem eq_of_write_eq (faithful : Faithful read write v) {a b : α} (same : write a = write b) :
    a = b := by
  have read_b := faithful.reads .json b
  rw [← same, faithful.reads .json a] at read_b
  exact Except.ok.inj read_b

theorem of_reads (reads : ∀ dialect a, read dialect (write a) = .ok a) :
    Faithful read write .exact := by
  rintro dialect a _ rfl
  exact reads dialect a

theorem option (faithful : Faithful read write .exact) (present : ∀ a, write a ≠ .null) :
    Faithful (readOption read) (ofOption write) .exact := by
  refine of_reads fun dialect o => ?_
  cases o with
  | none => rfl
  | some a =>
      rw [ofOption, readOption, faithful.reads]
      · rfl
      · exact present a

theorem list (faithful : Faithful read write v) :
    Faithful (readList read) (fun as => .list (as.map write)) v.each := by
  intro dialect as d allowed
  cases d with
  | list items =>
      have varied : List.Forall₂ v.Allows (as.map write) items := allowed
      rw [List.forall₂_map_left_iff] at varied
      exact mapM_eq_ok_iff.mpr (varied.imp fun a d => faithful dialect a d).flip
  | _ => cases allowed

theorem set : Faithful readSet ofSet .sameItems := by
  intro dialect names d allowed
  cases d with
  | list items =>
      have same_items : ∀ d, d ∈ names.toList.map .text ↔ d ∈ items := allowed
      obtain ⟨texts, rfl⟩ : items ∈ Set.range (List.map Data.text) := by
        rw [Set.range_list_map]
        intro d member
        obtain ⟨s, -, rfl⟩ := List.mem_map.mp ((same_items d).mpr member)
        exact Set.mem_range_self s
      have same_names : Std.ExtTreeSet.ofList texts = names := by
        apply Std.ExtTreeSet.ext_mem
        intro name
        have same_text := same_items (.text name)
        simp only [List.mem_map, Data.text.injEq, exists_eq_right] at same_text
        rw [Std.ExtTreeSet.mem_ofList, List.contains_iff_mem, ← same_text]
        exact Std.ExtTreeSet.mem_toList
      rw [readSet, readList_texts, ← same_names]
      rfl
  | _ => cases allowed

theorem table (faithful : Faithful read write v) :
    Faithful (readTable read) (ofTable write) v.entries := by
  intro dialect table d allowed
  cases d with
  | record fields =>
      obtain ⟨inOrder, each, reordered⟩ := allowed
      rw [List.forall₂_map_left_iff] at each
      have readable : List.Forall₂ (fun f entry => f.1 = entry.1 ∧ read dialect f.2 = .ok entry.2)
          inOrder table.toList :=
        (each.imp fun entry f varied => ⟨varied.1.symm, faithful dialect _ _ varied.2⟩).flip
      obtain ⟨entries, readable, reordered⟩ := List.perm_comp_forall₂ reordered.symm readable
      rw [readTable_of_entries readable, ofList_eq_of_perm reordered]
  | _ => cases allowed

end Faithful

def RecordReader.Finds (x : RecordReader α) (slots : Slots) (fields : Fields) (a : α) : Prop :=
  ∀ dialect varied, FieldsVary slots fields varied → x.named dialect varied = .ok a

namespace RecordReader.Finds

variable {slots : Slots} {fields : Fields} {name : String} {read : Reader α} {write : α → Data}
  {v : Variation} {a : α}

theorem map {x : RecordReader α} (finds : x.Finds slots fields a) (g : α → β) :
    (g <$> x).Finds slots fields (g a) := by
  intro dialect varied vary
  exact named_map_eq_ok_iff.mpr ⟨a, finds dialect varied vary, rfl⟩

theorem seq {f : RecordReader (α → β)} {g : α → β} {x : RecordReader α}
    (finds_function : f.Finds slots fields g) (finds : x.Finds slots fields a) :
    (f <*> x).Finds slots fields (g a) := by
  intro dialect varied vary
  exact named_seq_eq_ok_iff.mpr
    ⟨g, a, finds_function dialect varied vary, finds dialect varied vary, rfl⟩

theorem required (faithful : Faithful read write v) (distinct : (fields.map Prod.fst).Nodup)
    (known : slots.lookup name = some (.required v)) (found : fields.lookup name = some (write a)) :
    (required name read).Finds slots fields a := by
  intro dialect varied vary
  rw [named_required_eq_ok_iff]
  rcases vary.lookup_eq_some distinct known found with ⟨e, found_still, allowed⟩ | ⟨-, held⟩
  · exact ⟨e, found_still, faithful dialect a e allowed⟩
  · contradiction

theorem optional {default : α} (faithful : Faithful read write v)
    (distinct : (fields.map Prod.fst).Nodup)
    (known : slots.lookup name = some (.optional (write default) v))
    (found : fields.lookup name = some (write a)) :
    (optional name default read).Finds slots fields a := by
  intro dialect varied vary
  rw [named_optional_eq_ok_iff, Provides]
  rcases vary.lookup_eq_some distinct known found with ⟨e, found_still, allowed⟩ | ⟨left_out, held⟩
  · rw [found_still]
    exact faithful dialect a e allowed
  · rw [left_out]
    exact (faithful.eq_of_write_eq (Option.some.inj held)).symm

end RecordReader.Finds

theorem Faithful.record {reader : RecordReader α} {write : α → Data} {slots : Slots}
    (written : ∀ a, ∃ fields, write a = .record fields ∧ reader.Finds slots fields a) :
    Faithful (readRecord reader) write (.record slots) := by
  intro dialect a d allowed
  obtain ⟨fields, written, finds⟩ := written a
  rw [written] at allowed
  cases d with
  | record varied => exact readRecord_eq_ok_iff.mpr (finds dialect varied allowed)
  | _ => cases allowed

end ReplicaPlacement.Data
