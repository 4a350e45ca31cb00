import ApiClients.CommandLine.Arguments
import ApiClients.CommandLine.Report
import ApiClients.CommandLine.SchemaName
import ApiClients.Context.Basic
import ApiClients.Settings.Environment

/-!
# The program

A command works in a context whose defaults come from the environment. It registers the service that
the description gives, then shows it or makes a client of it.
-/

namespace ApiClients.CommandLine

/-- The version of the program. -/
def version : String := "0.1.0"

/-- Why a command fails. -/
inductive CommandError where
  | usage (cause : UsageError)
  | noServiceName (path : Path)
  | failure (cause : Failure)

/-- The wording of an error; for arguments that make no command a hint at the help. -/
def CommandError.message : CommandError → String
  | usage (.malformedSetting cause) => cause.message
  | usage _ => "the arguments make no command; try --help"
  | noServiceName path => s!"cannot derive a service name from {path}; pass --name"
  | failure cause => cause.message

/-- What a command can see: files, the environment, and whether the terminal shows styles. -/
structure Surroundings where
  files : Files
  environment : Environment
  color : Bool

namespace Surroundings

/-- The context of a command. -/
def context (w : Surroundings) : Context :=
  { defaults := { current := w.environment.settings } }

/-- The service that a description gives, and the context with it. The name comes first, then the
file. -/
def addService (w : Surroundings) (schema : Path) (name : Option String) :
    Except CommandError (Service × Context) :=
  match serviceName? schema name with
  | none => .error (.noServiceName schema)
  | some name =>
    match w.context.addService w.files name (.path schema) with
    | (.error e, _) => .error (.failure e)
    | (.ok service, context) => .ok (service, context)

end Surroundings

/-- The options that a command line gives: the region first, then the settings in their order. -/
def optionsOf (region : Option String) (settings : List (String × Json)) : Settings :=
  .ofAssignments
    (region.toList.map .region ++ settings.map fun (key, value) => .option key value)

/-- What a command prints. -/
def Command.run (w : Surroundings) : Command → Except CommandError String
  | .inspect schema name json =>
    (w.addService schema name).map fun (service, _) =>
      if json then line (summaryJson service).pretty else summaryText w.color service
  | .check schema name region settings => do
    let (service, context) ← w.addService schema name
    let client ← (context.newClient service (optionsOf region settings)).mapError .failure
    return settingsText w.color service.name.text client.settings

/-- What the command that arguments make prints. -/
def run (w : Surroundings) (arguments : List String) : Except CommandError String :=
  match Command.ofArguments arguments with
  | .error cause => .error (.usage cause)
  | .ok command => command.run w

/-! ### Outcome of a process -/

/-- What a process leaves behind. -/
structure Outcome where
  exitCode : UInt32
  output : String := ""
  errorOutput : String := ""
deriving DecidableEq, Repr

/-- The help. -/
def helpText : String :=
  "Materialize service clients from API descriptions at run time\n\n" ++
    "Usage: stratus [-v] inspect SCHEMA [--name NAME] [--json]\n" ++
    "       stratus [-v] check SCHEMA [--name NAME] [--region REGION] [--set KEY=VALUE]...\n"

/-- The outcome of a process with these arguments. -/
def outcome (w : Surroundings) (arguments : List String) : Outcome :=
  match run w arguments with
  | .ok output => { exitCode := 0, output }
  | .error (.usage .help) => { exitCode := 0, output := helpText }
  | .error (.usage .version) => { exitCode := 0, output := line ("stratus " ++ version) }
  | .error (.usage .helpForNothing) => { exitCode := 2, errorOutput := helpText }
  | .error (.usage cause) =>
    { exitCode := 2, errorOutput := line ("error: " ++ (CommandError.usage cause).message) }
  | .error e =>
    { exitCode := 1, errorOutput := line (styled w.color .boldRed "error:" ++ " " ++ e.message) }

end ApiClients.CommandLine
