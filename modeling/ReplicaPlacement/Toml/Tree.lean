import ReplicaPlacement.Data

namespace ReplicaPlacement.Toml

/-- How a table came about. One that is `stated`, under a header or between braces, is complete; one
that a longer header has `implied` can still get a header; a `dotted` one takes dotted keys only. -/
inductive Origin where
  | stated
  | implied
  | dotted
  deriving DecidableEq, Repr

inductive Node where
  | leaf (d : Data)
  | table (origin : Origin) (entries : List (String × Node))
  | tables (elements : List (List (String × Node)))
  deriving Inhabited

abbrev Entries := List (String × Node)

mutual

def Node.toData : Node → Data
  | .leaf d => d
  | .table _ entries => .record (Node.entriesToData entries)
  | .tables elements => .list (Node.elementsToData elements)

def Node.entriesToData : List (String × Node) → List (String × Data)
  | [] => []
  | (key, node) :: rest => (key, node.toData) :: Node.entriesToData rest

def Node.elementsToData : List (List (String × Node)) → List Data
  | [] => []
  | entries :: rest => .record (Node.entriesToData entries) :: Node.elementsToData rest

end

namespace Entries

def get? (key : String) (entries : Entries) : Option Node := entries.lookup key

def erase (key : String) (entries : Entries) : Entries := entries.filter (·.1 != key)

def replace (key : String) (node : Node) (entries : Entries) : Entries :=
  entries.map fun e => if e.1 = key then (key, node) else e

def append (key : String) (node : Node) (entries : Entries) : Entries := entries ++ [(key, node)]

/-- Changes the table at the end of `path`, going through the last element of an array of tables
and making the tables that do not exist yet. The change sees how its table came about. A dotted path
passes through no table that is complete. -/
def modify (isDotted : Bool) (change : Origin → Entries → Option Entries) :
    List String → Origin → Entries → Option Entries
  | [], origin, entries => change origin entries
  | key :: path, _, entries =>
    match entries.get? key with
    | none => do
      let origin := if isDotted then Origin.dotted else .implied
      let inner ← modify isDotted change path origin []
      pure (entries.append key (.table origin inner))
    | some (.leaf _) => none
    | some (.table origin inner) =>
      if isDotted && origin == .stated then none
      else do
        let inner ← modify isDotted change path origin inner
        pure (entries.replace key (.table origin inner))
    | some (.tables elements) =>
      match elements.getLast? with
      | none => none
      | some inner => do
        let inner ← modify isDotted change path .stated inner
        pure (entries.replace key (.tables (elements.dropLast ++ [inner])))

def addValue (entries : Entries) (path : List String) (key : String) (d : Data) : Option Entries :=
  modify (!path.isEmpty)
    (fun origin entries =>
      if !path.isEmpty && origin != .dotted then none
      else if (entries.get? key).isSome then none
      else some (entries.append key (.leaf d)))
    path .stated entries

/-- Adds what stands below a table header. A table that was only implied so far moves to the end. -/
def addTable (entries : Entries) (path : List String) (key : String)
    (fill : Entries → Option Entries) : Option Entries :=
  modify false
    (fun _ entries =>
      match entries.get? key with
      | none => do
        let inner ← fill []
        pure (entries.append key (.table .stated inner))
      | some (.table .implied inner) => do
        let inner ← fill inner
        pure ((entries.erase key).append key (.table .stated inner))
      | some _ => none)
    path .implied entries

def addElement (entries : Entries) (path : List String) (key : String)
    (fill : Entries → Option Entries) : Option Entries :=
  modify false
    (fun _ entries =>
      match entries.get? key with
      | none => do
        let inner ← fill []
        pure (entries.append key (.tables [inner]))
      | some (.tables elements) => do
        let inner ← fill []
        pure (entries.replace key (.tables (elements ++ [inner])))
      | some _ => none)
    path .implied entries

end Entries

end ReplicaPlacement.Toml
