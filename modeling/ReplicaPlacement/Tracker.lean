import ReplicaPlacement.Event

namespace ReplicaPlacement

structure Constraints where
  filter : PlacementFilter
  occupied : Occupancy
  properties : PropertyAccess
  mixing : MixingPolicy

namespace Constraints

/-- The kinds that a selection starts with and must keep. -/
def seedKinds (k : Constraints) : List ProviderKind :=
  if k.filter.isDiskless then [.diskless] else k.occupied.kinds

end Constraints

abbrev Lookup := String → Except AccessDenied (Option String)

namespace Lookup

def first (lookup : Lookup) : List String → Except AccessDenied (Option String)
  | [] => .ok none
  | x :: xs => do
    match ← lookup x with
    | some v => pure (some v)
    | none => first lookup xs

def values (lookup : Lookup) : List String → Except AccessDenied (List String)
  | [] => .ok []
  | x :: xs => do
    let found ← lookup x
    let rest ← values lookup xs
    pure (found.toList ++ rest)

end Lookup

/-- Applies one step after another. A failing step ends the run, and what the steps before it did
is kept. -/
def runAll {σ α ε : Type} (step : σ → α → Except ε σ) : σ → List α → σ × Option ε
  | s, [] => (s, none)
  | s, a :: rest =>
    match step s a with
    | .error e => (s, some e)
    | .ok s' => runAll step s' rest

/-- `same` holds, by key, the value that all picks must expose, if one is fixed already; `taken` the
values that no further pick may expose. -/
structure Tracker where
  nodes : NameSet := ∅
  sharedNames : NameSet := ∅
  kinds : List ProviderKind := []
  selection : List Candidate := []
  same : NameMap (Option String) := ∅
  taken : NameMap (List String) := ∅
  deriving DecidableEq

namespace Tracker

instance : Inhabited Tracker := ⟨{}⟩

def size (t : Tracker) : Nat := t.selection.length

end Tracker

def eraseLast (kind : ProviderKind) (kinds : List ProviderKind) : List ProviderKind :=
  (kinds.reverse.erase kind).reverse

namespace Constraints

variable (k : Constraints)

/-- A valued rule expects its value; a plain one that of the first node that exposes the key. -/
def expectation (nodes : NameSet) (rule : PropertyRule) : Except AccessDenied (Option String) :=
  match rule.value with
  | some v => .ok (some v)
  | none => Lookup.first (k.properties · rule.key) nodes.toList

def takenValues (nodes : NameSet) (rule : PropertyRule) : Except AccessDenied (List String) := do
  let exposed ← Lookup.values (k.properties · rule.key) nodes.toList
  pure (rule.value.toList ++ exposed)

def addExpectation (nodes : NameSet) (same : NameMap (Option String)) (rule : PropertyRule) :
    Except AccessDenied (NameMap (Option String)) := do
  let expected ← k.expectation nodes rule
  pure (same.insert rule.key expected)

def addTaken (nodes : NameSet) (taken : NameMap (List String)) (rule : PropertyRule) :
    Except AccessDenied (NameMap (List String)) := do
  let values ← k.takenValues nodes rule
  pure (taken.insert rule.key values)

def rebuild (t : Tracker) : Tracker × Option AccessDenied :=
  match runAll (k.addExpectation t.nodes) ∅ k.filter.sameRules with
  | (same, some e) => ({ t with same }, some e)
  | (same, none) =>
    let (taken, e) := runAll (k.addTaken t.nodes) ∅ k.filter.differentRules
    ({ t with same, taken }, e)

def reset (t : Tracker) : Tracker × Option AccessDenied :=
  k.rebuild
    { t with
      nodes := k.occupied.nodes
      sharedNames := k.occupied.sharedNames
      kinds := k.seedKinds
      selection := [] }

def fresh : Except AccessDenied Tracker :=
  match k.reset {} with
  | (_, some e) => .error e
  | (t, none) => .ok t

def sharedNameTaken (t : Tracker) (c : Candidate) : Option String :=
  c.sharedName.filter t.sharedNames.contains

def objection? (t : Tracker) (c : Candidate) : Option Rejection :=
  if t.nodes.contains c.node then some .nodeTaken
  else
    match sharedNameTaken t c with
    | some name => some (.backendTaken name)
    | none => (t.kinds.find? fun kind => !k.mixing c.kind kind).map .kindClash

def sameObjection? (lookup : Lookup) :
    List (String × Option String) → Except AccessDenied (Option Rejection)
  | [] => .ok none
  | (_, none) :: rest => sameObjection? lookup rest
  | (key, some expected) :: rest => do
    let actual ← lookup key
    if actual = some expected then sameObjection? lookup rest
    else pure (some (.valueDiffers key actual expected))

def takenObjection? (lookup : Lookup) :
    List (String × List String) → Except AccessDenied (Option Rejection)
  | [] => .ok none
  | (key, taken) :: rest => do
    match ← lookup key with
    | none => takenObjection? lookup rest
    | some value =>
      if value ∈ taken then pure (some (.valueTaken key value)) else takenObjection? lookup rest

/-- The first objection; properties are looked up key by key, and only if nothing else objects. -/
def rejection? (t : Tracker) (c : Candidate) : Except AccessDenied (Option Rejection) :=
  match k.objection? t c with
  | some r => .ok (some r)
  | none => do
    match ← sameObjection? (k.properties c.node) t.same.toList with
    | some r => pure (some r)
    | none => takenObjection? (k.properties c.node) t.taken.toList

def admissible (t : Tracker) (c : Candidate) : Except AccessDenied Bool := do
  let r ← k.rejection? t c
  pure r.isNone

def fixExpectation (node : String) (same : NameMap (Option String))
    (entry : String × Option String) : Except AccessDenied (NameMap (Option String)) :=
  match entry.2 with
  | some _ => .ok same
  | none => do
    let value ← k.properties node entry.1
    pure (same.insert entry.1 value)

def takeValue (node : String) (taken : NameMap (List String)) (entry : String × List String) :
    Except AccessDenied (NameMap (List String)) := do
  match ← k.properties node entry.1 with
  | none => pure taken
  | some value => pure (taken.insert entry.1 (entry.2 ++ [value]))

def select (t : Tracker) (c : Candidate) : Tracker × Option AccessDenied :=
  match runAll (k.fixExpectation c.node) t.same t.same.toList with
  -- What was written before a refused look-up stays written.
  | (same, some e) => ({ t with same }, some e)
  | (same, none) =>
    match runAll (k.takeValue c.node) t.taken t.taken.toList with
    | (taken, some e) => ({ t with same, taken }, some e)
    | (taken, none) =>
      ({ nodes := t.nodes.insert c.node
         sharedNames := c.sharedName.elim t.sharedNames t.sharedNames.insert
         kinds := t.kinds ++ [c.kind]
         selection := t.selection ++ [c]
         same, taken }, none)

def withdraw (t : Tracker) (c : Candidate) : Tracker :=
  { t with
    selection := t.selection.filter (!·.samePlacement c)
    nodes := t.nodes.erase c.node
    sharedNames := c.sharedName.elim t.sharedNames t.sharedNames.erase
    kinds := eraseLast c.kind t.kinds }

def keepsSeed (t : Tracker) : Bool := k.seedKinds.all t.kinds.contains

def unselect (t : Tracker) (c : Candidate) : Tracker × Option PlacementError :=
  let t := withdraw t c
  if k.keepsSeed t then
    -- The node that leaves may be the one that fixed a value, so the tables are made anew.
    let (t, e) := k.rebuild t
    (t, e.map .accessDenied)
  else (t, some .seedKindLost)

end Constraints

end ReplicaPlacement
