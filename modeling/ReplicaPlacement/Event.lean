import ReplicaPlacement.Candidate
import ReplicaPlacement.Decimal.Text
import ReplicaPlacement.Occupancy
import ReplicaPlacement.Text.Quoted

namespace ReplicaPlacement

inductive Rejection where
  | nodeTaken
  | backendTaken (sharedName : String)
  | kindClash (selected : ProviderKind)
  | valueDiffers (key : String) (actual : Option String) (expected : String)
  | valueTaken (key value : String)
  deriving DecidableEq, Repr

inductive Event where
  | scoreNotFinite (c : Candidate)
  | ranked (c : Candidate)
  | notDeployed (resource : String)
  | deployed (resource : String) (occupied : Occupancy)
  | satisfied
  | started (required candidates : Nat)
  | rejected (c : Candidate) (reason : Rejection)
  | added (c : Candidate)
  | removed (c : Candidate)
  | tooFewLeft (start : Nat)
  | noCombination (start : Nat)
  | improved (picks : List Candidate) (score : Score)
  | notImproved (picks : List Candidate) (score best : Score)
  | cutOff (start : Nat) (bound best : Score)
  | continued (start : Nat) (bound : Score)
  | selected (picks : List Candidate) (score : Score)
  | infeasible (required : Nat)
  | deselected (c : Candidate) (fixedNodes : Nat)
  deriving DecidableEq

namespace Event

inductive Level where
  | trace
  | debug
  | info
  | warn
  deriving DecidableEq, Repr

def Level.name : Level → String
  | .trace => "trace"
  | .debug => "debug"
  | .info => "info"
  | .warn => "warn"

def Level.severity : Level → Nat
  | .trace => 0
  | .debug => 1
  | .info => 2
  | .warn => 3

def Level.atLeast (level least : Level) : Bool := decide (least.severity ≤ level.severity)

def level : Event → Level
  | .scoreNotFinite _ => .warn
  | .selected .. | .infeasible _ => .info
  | .satisfied | .started .. | .deselected .. => .debug
  | _ => .trace

def message : Event → String
  | .scoreNotFinite _ => "ignoring candidate with non-finite score"
  | .ranked _ => "candidate"
  | .notDeployed _ => "resource not deployed yet"
  | .deployed .. => "resource already deployed"
  | .satisfied => "replica count already satisfied, nothing to select"
  | .started .. => "starting selection"
  | .rejected _ .nodeTaken => "rejected: node already holds a selected storage pool"
  | .rejected _ (.backendTaken _) => "rejected: shared backend already selected"
  | .rejected _ (.kindClash _) => "rejected: provider kind cannot mix with selection"
  | .rejected _ (.valueDiffers ..) => "rejected: property differs from selected nodes"
  | .rejected _ (.valueTaken ..) => "rejected: property value already taken by selection"
  | .added _ => "adding storage pool to selection"
  | .removed _ => "removing storage pool from selection"
  | .tooFewLeft _ => "not enough remaining storage pools, search finished"
  | .noCombination _ => "no more candidates found"
  | .improved .. => "found combination"
  | .notImproved .. => "skipping combination, score not higher than best"
  | .cutOff .. => "remaining combinations cannot score higher, search finished"
  | .continued .. => "continuing search for better candidates"
  | .selected .. => "selected storage pools"
  | .infeasible _ => "no feasible selection"
  | .deselected .. => "deselecting lowest scoring storage pool"

inductive Field where
  | string (s : String)
  | count (n : Nat)
  | score (x : Score)
  deriving DecidableEq

def place (c : Candidate) : List (String × Field) :=
  [("node", .string c.node), ("stor_pool", .string c.name)]

def combination (picks : List Candidate) : String :=
  String.intercalate ", "
    (picks.map fun c => c.name ++ "@" ++ c.node ++ " (" ++ Decimal.plain c.score ++ ")")

def quotedOption : Option String → String
  | none => "None"
  | some s => "Some(" ++ Text.quoted s ++ ")"

def rejectionFields (c : Candidate) : Rejection → List (String × Field)
  | .nodeTaken => []
  | .backendTaken sharedName => [("shared_name", .string sharedName)]
  | .kindClash other => [("kind", .string c.kind.name), ("selected_kind", .string other.name)]
  | .valueDiffers key actual expected =>
    [("key", .string key), ("actual", .string (quotedOption actual)),
      ("expected", .string expected)]
  | .valueTaken key value => [("key", .string key), ("value", .string value)]

def fields : Event → List (String × Field)
  | .scoreNotFinite c => place c ++ [("score", .score c.score)]
  | .ranked c => ("score", .score c.score) :: place c
  | .notDeployed resource => [("resource", .string resource)]
  | .deployed resource occupied =>
    [("resource", .string resource), ("nodes", .string (Text.quotedSet occupied.nodes.toList)),
      ("diskful", .count occupied.diskfulCount), ("diskless", .count occupied.disklessCount)]
  | .satisfied => []
  | .started required candidates =>
    [("required", .count required), ("candidates", .count candidates)]
  | .rejected c reason => place c ++ rejectionFields c reason
  | .added c => place c ++ [("score", .score c.score)]
  | .removed c => place c
  | .tooFewLeft start => [("start", .count start)]
  | .noCombination start => [("start", .count start)]
  | .improved picks score => [("combination", .string (combination picks)), ("score", .score score)]
  | .notImproved picks score best =>
    [("combination", .string (combination picks)), ("score", .score score), ("best", .score best)]
  | .cutOff start bound best =>
    [("start", .count start), ("bound", .score bound), ("best", .score best)]
  | .continued start bound => [("start", .count start), ("bound", .score bound)]
  | .selected picks score =>
    [("nodes", .string (Text.quotedList (picks.map (·.node)))), ("score", .score score)]
  | .infeasible required => [("required", .count required)]
  | .deselected c fixedNodes =>
    place c ++ [("score", .score c.score), ("fixed", .count fixedNodes)]

def Field.text : Field → String
  | .string s => s
  | .count n => toString n
  | .score x => Decimal.plain x

def line (e : Event) : String :=
  e.level.name ++ ": " ++ e.message ++
    String.join (e.fields.map fun f => " " ++ f.1 ++ "=" ++ f.2.text)

end Event

end ReplicaPlacement
