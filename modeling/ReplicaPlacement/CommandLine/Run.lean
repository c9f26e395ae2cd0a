import ReplicaPlacement.CommandLine.Arguments
import ReplicaPlacement.Report
import ReplicaPlacement.Scenario

namespace ReplicaPlacement.CommandLine

structure Outcome where
  code : UInt32 := 0
  output : String := ""
  failure : Option String := none
  events : List Event := []

def Outcome.succeed (text : String) (events : List Event) : Outcome :=
  { output := text ++ "\n", events }

def Outcome.fail (report : String) (events : List Event) : Outcome :=
  { code := 1, failure := some report, events }

def usage : String :=
  "Usage: storctl [-v]... <select|deselect> --scenario <FILE> [--format <text|json>]\n\n" ++
  "  select    Select storage pools for new replicas [--timeout-ms <N>]\n" ++
  "  deselect  Pick the node to remove a replica from\n"

def versionText : Option CommandName → String
  | none => programName ++ " " ++ version ++ "\n"
  | some command => programName ++ "-" ++ command.name ++ " " ++ version ++ "\n"

def UsageError.message : UsageError → String
  | .noCommand => "a command is required"
  | .unknownCommand text => "unrecognized command '" ++ text ++ "'"
  | .unexpected text => "unexpected argument '" ++ text ++ "'"
  | .noValue option => "a value is required for '--" ++ option.long ++ "'"
  | .notOnce option => "'--" ++ option.long ++ "' cannot be used multiple times"
  | .invalidValue option text => "invalid value '" ++ text ++ "' for '--" ++ option.long ++ "'"
  | .missing option => "'--" ++ option.long ++ "' is required"

def noPlacement : String := "insufficient eligible storage pools for requested replication"

def answerSelect (s : Scenario) (format : Format) : Outcome :=
  let run := s.select
  match run.outcome with
  | .error e => .fail e.message run.events
  | .ok none => .fail noPlacement run.events
  | .ok (some selection) => .succeed (selection.render format) run.events

def answerDeselect (s : Scenario) (format : Format) : Outcome :=
  let run := s.deselect
  match run.outcome with
  | .error e => .fail e.message run.events
  | .ok node => .succeed (renderDeselected node format) run.events

def Command.scenario : Command → String
  | .select scenario .. => scenario
  | .deselect scenario _ => scenario

def Command.answer (c : Command) (content : Option String) : Outcome :=
  match content with
  | none => .fail ("failed to read scenario " ++ c.scenario) []
  | some text =>
    match Scenario.ofToml text with
    | .error _ => .fail ("invalid scenario " ++ c.scenario) []
    | .ok s =>
      match c with
      | .select _ format _ => answerSelect s (.ofName format)
      | .deselect _ format => answerDeselect s (.ofName format)

def Command.timeout : Command → Option UInt64
  | .select _ _ timeout => timeout
  | .deselect .. => none

def tooLate : Outcome := .fail noPlacement []

def shown (verbosity : Nat) (e : Event) : Bool :=
  match verbosity with
  | 0 => e.level.atLeast .info
  | 1 => e.level.atLeast .debug
  | _ => true

/-- Answers a command line. `load` reads a file, and `limit` does the work within so many
milliseconds or gives it up. -/
def answer {m : Type → Type} [Monad m] (load : String → m (Option String))
    (limit : Option UInt64 → (Unit → Outcome) → m Outcome) (args : List String) : m Outcome :=
  match read args with
  | .error e => pure { code := 2, failure := some e.message }
  | .ok (.version command) => pure { output := versionText command }
  | .ok .help => pure { output := usage }
  | .ok (.run verbosity command) => do
    let content ← load command.scenario
    let outcome ← limit command.timeout fun _ => command.answer content
    pure { outcome with events := outcome.events.filter (shown verbosity) }

end ReplicaPlacement.CommandLine
