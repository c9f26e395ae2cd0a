import ReplicaPlacement.Data

namespace ReplicaPlacement.Data

variable {α β : Type}

structure FieldFault where
  position : Nat
  cause : DecodeError

def FieldFault.earlier (a b : FieldFault) : FieldFault :=
  if b.position < a.position then b else a

/-- `listed` also returns the items that it leaves unread. -/
structure RecordReader (α : Type) where
  named : Dialect → Fields → Except FieldFault α
  listed : Dialect → List Data → Except DecodeError (α × List Data)

namespace RecordReader

protected def pure (a : α) : RecordReader α where
  named _ _ := .ok a
  listed _ items := .ok (a, items)

protected def seq (f : RecordReader (α → β)) (x : RecordReader α) : RecordReader β where
  named dialect fields :=
    match f.named dialect fields, x.named dialect fields with
    | .ok g, .ok a => .ok (g a)
    | .error e, .ok _ => .error e
    | .ok _, .error e => .error e
    -- Of two fields at fault the one that stands first is reported, whichever is asked for first.
    | .error e, .error e' => .error (e.earlier e')
  listed dialect items := do
    let (g, rest) ← f.listed dialect items
    let (a, rest) ← x.listed dialect rest
    pure (g a, rest)

instance : Applicative RecordReader where
  pure := RecordReader.pure
  seq f x := RecordReader.seq f (x ())

def locate (name : String) (start : Nat) : Fields → Option (Nat × Data)
  | [] => none
  | field :: rest => if field.1 = name then some (start, field.2) else locate name (start + 1) rest

def field (name : String) (absent : Except DecodeError α) (read : Reader α) : RecordReader α where
  named dialect fields :=
    match locate name 0 fields with
    | some (position, d) => (read dialect d).mapError (⟨position, ·⟩)
    | none => absent.mapError (⟨fields.length, ·⟩)
  listed dialect items :=
    match items with
    | [] => (·, []) <$> absent
    | d :: rest => (·, rest) <$> read dialect d

def required (name : String) (read : Reader α) : RecordReader α :=
  field name (.error (.missingField name)) read

def optional (name : String) (default : α) (read : Reader α) : RecordReader α :=
  field name (.ok default) read

end RecordReader

/-- A list with more items than there are fields is refused in JSON; in TOML the rest is ignored. -/
def readRecord (reader : RecordReader α) : Reader α
  | dialect, .record fields => (reader.named dialect fields).mapError (·.cause)
  | dialect, .list items => do
    let (a, rest) ← reader.listed dialect items
    if dialect == .json && !rest.isEmpty then .error .mismatch else pure a
  | _, _ => .error .mismatch

end ReplicaPlacement.Data
