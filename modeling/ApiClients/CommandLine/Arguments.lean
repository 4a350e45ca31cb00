import ApiClients.CommandLine.SettingText
import ApiClients.Path

/-!
# Arguments

The command line names a command, then the file of a description, and options before or after it. The
arguments are read from left to right. An option that takes a value and the value after it are taken
in together, at the earliest when the next argument that means something has been recognized: of two
faults the one recognized first is reported, and an argument that is not recognized at all comes
before a fault of what waits to be taken in.
-/

namespace ApiClients.CommandLine

/-- What the program is asked to do. -/
inductive Command where
  | inspect (schema : Path) (name : Option String) (json : Bool)
  | check (schema : Path) (name region : Option String) (settings : List (String × Json))

/-- Why arguments make no command. -/
inductive UsageError where
  | helpForNothing
  | help
  | version
  | unknownCommand
  | noCommand
  | noSchema
  | unknownArgument
  | noValue
  | unexpectedValue
  | malformedSetting (cause : SettingError)
  | repeated
deriving DecidableEq, Repr

namespace Arguments

/-- The commands by their names. -/
inductive CommandName where
  | inspect
  | check
deriving DecidableEq, Repr

/-- The command with this name. -/
def CommandName.ofText? (s : String) : Option CommandName :=
  if s = "inspect" then some .inspect else if s = "check" then some .check else none

/-- What takes a value. -/
inductive Slot where
  | schema
  | name
  | region
  | setting
deriving DecidableEq, Repr

/-- What an argument that begins with two hyphens names. -/
inductive LongOption where
  | valued (slot : Slot)
  | json
  | verbose
  | help
deriving DecidableEq, Repr

/-- The options of a command. -/
def longOption? (command : CommandName) (name : String) : Option LongOption :=
  if name = "help" then some .help
  else if name = "verbose" then some .verbose
  else if name = "name" then some (.valued .name)
  else
    match command with
    | .inspect => if name = "json" then some .json else none
    | .check =>
      if name = "region" then some (.valued .region)
      else if name = "set" then some (.valued .setting)
      else none

/-- The form of an argument. -/
inductive Form where
  | rest
  | long (name : String) (value : Option String)
  | short (letters : List Char)
  | plain

/-- The form of an argument. -/
def formOf (argument : String) : Form :=
  match argument.toList with
  | ['-', '-'] => .rest
  | '-' :: '-' :: s =>
    match splitAtFirst? '=' s with
    | some (name, value) => .long (String.ofList name) (some (String.ofList value))
    | none => .long (String.ofList s) none
  | ['-'] => .plain
  | '-' :: s => .short s
  | _ => .plain

/-- What the arguments after the command have given so far. -/
structure Progress where
  command : CommandName
  schema : Option Path := none
  name : Option String := none
  region : Option String := none
  settings : List (String × Json) := []
  json : Bool := false
  /-- What waits to be taken in, with its value if that has come. -/
  pending : Option (Slot × Option String) := none
  hasPath : Bool := false
  onlyPaths : Bool := false

namespace Progress

/-- Takes in a value. -/
def fill (p : Progress) (slot : Slot) (value : String) : Except UsageError Progress :=
  match slot with
  | .schema => if value.isEmpty then .error .noValue else .ok { p with schema := some (.ofText value) }
  | .name => if p.name.isSome then .error .repeated else .ok { p with name := some value }
  | .region => if p.region.isSome then .error .repeated else .ok { p with region := some value }
  | .setting =>
    match readSetting value with
    | .error cause => .error (.malformedSetting cause)
    | .ok s => .ok { p with settings := p.settings ++ [s] }

/-- Takes in what waits. -/
def settle (p : Progress) : Except UsageError Progress :=
  match p.pending with
  | none => .ok p
  | some (_, none) => .error .noValue
  | some (slot, some value) => { p with pending := none }.fill slot value

/-- Reads a path. -/
def path (p : Progress) (argument : String) : Except UsageError Progress :=
  if p.hasPath then
    .error .unknownArgument
  else
    p.settle.map fun p => { p with pending := some (.schema, some argument), hasPath := true }

/-- Reads a long option. -/
def long (p : Progress) (name : String) (value : Option String) : Except UsageError Progress :=
  match longOption? p.command name, value with
  | none, _ => .error .unknownArgument
  | some (.valued slot), some value => p.settle.bind (·.fill slot value)
  | some (.valued slot), none => p.settle.map fun p => { p with pending := some (slot, none) }
  | some _, some _ => .error .unexpectedValue
  | some .json, none =>
    p.settle.bind fun p => if p.json then .error .repeated else .ok { p with json := true }
  | some .verbose, none => p.settle
  | some .help, none => p.settle.bind fun _ => .error .help

/-- Reads short options, one after the other. -/
def short (p : Progress) : List Char → Except UsageError Progress
  | [] => .ok p
  | 'v' :: letters => p.settle.bind (·.short letters)
  | 'h' :: _ => p.settle.bind fun _ => .error .help
  | _ => .error .unknownArgument

/-- Reads an argument after the command. -/
def step (p : Progress) (argument : String) : Except UsageError Progress :=
  if p.onlyPaths then
    p.path argument
  else
    match formOf argument with
    | .rest => .ok { p with onlyPaths := true }
    | .long name value => p.long name value
    | .short letters => p.short letters
    | .plain =>
      match p.pending with
      | some (slot, none) => .ok { p with pending := some (slot, some argument) }
      | _ => p.path argument

/-- The command that the arguments make. -/
def finish (p : Progress) : Except UsageError Command :=
  p.settle.bind fun p =>
    match p.schema, p.command with
    | none, _ => .error .noSchema
    | some schema, .inspect => .ok (.inspect schema p.name p.json)
    | some schema, .check => .ok (.check schema p.name p.region p.settings)

end Progress

/-- Reads the arguments after a command. -/
def ofCommand (command : CommandName) (arguments : List String) : Except UsageError Command :=
  (arguments.foldlM Progress.step { command }).bind Progress.finish

/-- Whether an argument names a command, that of the help included. -/
def isCommand (argument : String) : Bool :=
  argument == "help" || (CommandName.ofText? argument).isSome

/-- Reads short options before the command: the fault they make, if any. -/
def leadingShort? : List Char → Option UsageError
  | [] => none
  | 'v' :: letters => leadingShort? letters
  | 'h' :: _ => some .help
  | 'V' :: _ => some .version
  | _ => some .unknownArgument

/-- Reads a long option before the command: the fault it makes, if any. -/
def leadingLong? (name : String) (value : Option String) : Option UsageError :=
  if name = "help" || name = "version" || name = "verbose" then
    if value.isSome then some .unexpectedValue
    else if name = "help" then some .help
    else if name = "version" then some .version
    else none
  else
    some .unknownArgument

/-- Reads what follows the command `help`. -/
def helpFor : List String → UsageError
  | [] => .help
  | [topic] => if isCommand topic then .help else .unknownCommand
  | _ => .unknownCommand

/-- Reads arguments up to the command; `hasOption` says whether there was an option. -/
def beforeCommand (hasOption : Bool) : List String → Except UsageError Command
  | [] => .error (if hasOption then .noCommand else .helpForNothing)
  | argument :: rest =>
    if argument = "help" then
      .error (helpFor rest)
    else
      match CommandName.ofText? argument, formOf argument with
      | some command, _ => ofCommand command rest
      | none, .rest =>
        match rest with
        | [] => .error (if hasOption then .noCommand else .helpForNothing)
        | path :: _ => .error (if isCommand path then .unknownArgument else .unknownCommand)
      | none, .long name value =>
        match leadingLong? name value with
        | some e => .error e
        | none => beforeCommand true rest
      | none, .short letters =>
        match leadingShort? letters with
        | some e => .error e
        | none => beforeCommand true rest
      | none, .plain => .error .unknownCommand

end Arguments

/-- The command that arguments make. -/
def Command.ofArguments (arguments : List String) : Except UsageError Command :=
  Arguments.beforeCommand false arguments

end ApiClients.CommandLine
