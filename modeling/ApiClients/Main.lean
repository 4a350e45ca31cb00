import ApiClients.CommandLine.Program

/-!
# The command line

Reads the arguments, the environment and the file that the command names, and prints what the program
answers.
-/

namespace ApiClients.CommandLine

/-- The failure for a reason of the system and its number, which may come with either sign. -/
def readFailure (reason : String) (code : UInt32) : ReadFailure :=
  match min code (0 - code) with
  | 2 => .notFound
  | 20 => .notADirectory
  | 21 => .isDirectory
  | number => .refused s!"{reason} (os error {number})"

/-- The failure behind an error of the operating system. -/
def readFailureOf : IO.Error → ReadFailure
  | .noFileOrDirectory .. => .notFound
  | .inappropriateType _ code reason => readFailure reason code
  | .permissionDenied _ code reason => readFailure reason code
  | .invalidArgument _ code reason => readFailure reason code
  | .resourceExhausted _ code reason => readFailure reason code
  | .otherError code reason => readFailure reason code
  | e => .refused (toString e)

/-- Reads the file at a path as text. Arguments are text, and so are the paths that they name. -/
def readText (path : Path) : IO (Except ReadFailure String) := do
  match Text.ofBytes? path.bytes with
  | none => return .error .notFound
  | some name =>
    try
      let bytes ← IO.FS.readBinFile name
      match String.fromUTF8? bytes with
      | some text => return .ok text
      | none => return .error .invalidText
    catch e =>
      return .error (readFailureOf e)

/-- The files that the arguments make the program read. -/
def filesFor (arguments : List String) : IO Files := do
  match Command.ofArguments arguments with
  | .ok (.inspect path ..) | .ok (.check path ..) =>
    let content ← readText path
    return fun _ => content
  | .error _ => return fun _ => .error .notFound

/-- The variables of the environment that the program looks at. -/
def readEnvironment : IO Environment := do
  let names := [Environment.regionName, Environment.accessKeyIdName,
    Environment.secretAccessKeyName, Environment.sessionTokenName]
  let values ← names.mapM fun name => return (name, ← IO.getEnv name)
  return fun name => (values.lookup name).join

/-- What the program leaves behind when it runs with these arguments. -/
def outcomeHere (arguments : List String) : IO Outcome := do
  let stdout ← IO.getStdout
  return outcome
    { files := ← filesFor arguments
      environment := ← readEnvironment
      color := ← stdout.isTty }
    arguments

end ApiClients.CommandLine

/-- Runs the program. -/
def main (arguments : List String) : IO UInt32 := do
  let result ← ApiClients.CommandLine.outcomeHere arguments
  (← IO.getStdout).putStr result.output
  (← IO.getStderr).putStr result.errorOutput
  return result.exitCode
