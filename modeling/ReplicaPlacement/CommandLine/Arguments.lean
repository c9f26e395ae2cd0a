namespace ReplicaPlacement.CommandLine

def programName : String := "storctl"

def version : String := "0.1.0"

inductive CommandName where
  | select
  | deselect
  deriving DecidableEq, Repr

def CommandName.name : CommandName → String
  | .select => "select"
  | .deselect => "deselect"

def CommandName.ofName? (s : String) : Option CommandName :=
  [CommandName.select, .deselect].find? (·.name == s)

inductive ValueOption where
  | scenario
  | format
  | timeout
  deriving DecidableEq, Repr

def ValueOption.long : ValueOption → String
  | .scenario => "scenario"
  | .format => "format"
  | .timeout => "timeout-ms"

def CommandName.options : CommandName → List ValueOption
  | .select => [.scenario, .format, .timeout]
  | .deselect => [.scenario, .format]

def CommandName.longOption? (command : CommandName) (name : String) : Option ValueOption :=
  command.options.find? (·.long == name)

def CommandName.shortOption? : CommandName → Char → Option ValueOption
  | _, 's' => some .scenario
  | _, 'f' => some .format
  | _, _ => none

inductive UsageError where
  | noCommand
  | unknownCommand (text : String)
  | unexpected (text : String)
  | noValue (option : ValueOption)
  | notOnce (option : ValueOption)
  | invalidValue (option : ValueOption) (text : String)
  | missing (option : ValueOption)
  deriving DecidableEq, Repr

structure Options where
  verbosity : Nat := 0
  scenario : Option String := none
  format : Option String := none
  timeout : Option UInt64 := none

inductive Command where
  | select (scenario format : String) (timeout : Option UInt64)
  | deselect (scenario format : String)
  deriving DecidableEq

inductive Request where
  | version (command : Option CommandName)
  | help
  | run (verbosity : Nat) (command : Command)
  deriving DecidableEq

def readTimeout? (s : String) : Option UInt64 :=
  let digits :=
    match s.toList with
    | '+' :: rest => rest
    | cs => cs
  if digits.isEmpty || !digits.all Char.isDigit then none
  else
    let n := digits.foldl (fun n c => n * 10 + (c.toNat - '0'.toNat)) 0
    if n < 0x10000000000000000 then some (UInt64.ofNat n) else none

def Options.set (o : Options) (option : ValueOption) (value : String) : Except UsageError Options :=
  match option with
  | .scenario =>
    if o.scenario.isSome then .error (.notOnce option) else .ok { o with scenario := some value }
  | .format =>
    if o.format.isSome then .error (.notOnce option) else .ok { o with format := some value }
  | .timeout =>
    if o.timeout.isSome then .error (.notOnce option)
    else
      match readTimeout? value with
      | some ms => .ok { o with timeout := some ms }
      | none => .error (.invalidValue option value)

inductive Step where
  | next (o : Options)
  | enter (command : CommandName)
  | await (option : ValueOption) (o : Options)
  | onlyOperands
  | explain
  | stop (request : Request)

def Options.assign (o : Options) (option : ValueOption) (attached : Option String) :
    Except UsageError Step :=
  match attached with
  | some value => .next <$> o.set option value
  | none => .ok (.await option o)

def readLong (command : Option CommandName) (o : Options) (text : List Char) :
    Except UsageError Step :=
  let name := String.ofList (text.takeWhile (· != '='))
  let attached : Option String :=
    match text.dropWhile (· != '=') with
    | [] => none
    | _ :: value => some (String.ofList value)
  match command.bind (·.longOption? name), attached with
  | some option, _ => o.assign option attached
  | none, some _ => .error (.unexpected name)
  | none, none =>
    if name = "verbose" then .ok (.next { o with verbosity := o.verbosity + 1 })
    else if name = "version" then .ok (.stop (.version command))
    else if name = "help" then .ok (.stop .help)
    else .error (.unexpected name)

/-- Short options in one argument. After one that takes a value the rest is this value, whether or
not an equals sign stands between them. -/
def readShort (command : Option CommandName) (o : Options) : List Char → Except UsageError Step
  | [] => .ok (.next o)
  | c :: rest =>
    match command.bind (·.shortOption? c) with
    | some option =>
      match rest with
      | [] => o.assign option none
      | '=' :: value => o.assign option (some (String.ofList value))
      | value => o.assign option (some (String.ofList value))
    | none =>
      match c with
      | 'v' => readShort command { o with verbosity := o.verbosity + 1 } rest
      | 'V' => .ok (.stop (.version command))
      | 'h' => .ok (.stop .help)
      | _ => .error (.unexpected (String.singleton c))

/-- A single dash is an operand or a value, not an option. -/
def isOptionLike (arg : String) : Bool :=
  match arg.toList with
  | '-' :: _ :: _ => true
  | _ => false

def readArgument (command : Option CommandName) (o : Options) (arg : String) :
    Except UsageError Step :=
  match arg.toList with
  | ['-', '-'] => .ok .onlyOperands
  | '-' :: '-' :: text => readLong command o text
  | '-' :: c :: text => readShort command o (c :: text)
  | _ =>
    match command with
    | some _ => .error (.unexpected arg)
    | none =>
      match CommandName.ofName? arg with
      | some command => .ok (.enter command)
      | none => if arg = "help" then .ok .explain else .error (.unknownCommand arg)

def readTopic : List String → Except UsageError Request
  | [] => .ok .help
  | topic :: rest =>
    if (CommandName.ofName? topic).isSome || topic = "help" then
      match rest with
      | [] => .ok .help
      | operand :: _ => .error (.unknownCommand operand)
    else .error (.unknownCommand topic)

def finish (command : Option CommandName) (o : Options) : Except UsageError Request :=
  match command, o.scenario with
  | none, _ => .error .noCommand
  | some _, none => .error (.missing .scenario)
  | some .select, some scenario =>
    .ok (.run o.verbosity (.select scenario (o.format.getD "text") o.timeout))
  | some .deselect, some scenario =>
    .ok (.run o.verbosity (.deselect scenario (o.format.getD "text")))

def readFrom (command : Option CommandName) (o : Options) :
    List String → Except UsageError Request
  | [] => finish command o
  | arg :: rest =>
    match readArgument command o arg with
    | .error e => .error e
    | .ok (.next o) => readFrom command o rest
    | .ok (.enter command) => readFrom (some command) o rest
    | .ok (.stop request) => .ok request
    | .ok .explain => readTopic rest
    | .ok .onlyOperands =>
      match rest with
      | [] => finish command o
      | operand :: _ => .error (.unexpected operand)
    | .ok (.await option o) =>
      match rest with
      | [] => .error (.noValue option)
      | value :: rest =>
        if isOptionLike value then .error (.noValue option)
        else
          match o.set option value with
          | .error e => .error e
          | .ok o => readFrom command o rest

def read (args : List String) : Except UsageError Request := readFrom none {} args

end ReplicaPlacement.CommandLine
