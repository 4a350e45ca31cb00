import ApiClients.Json.Reader

/-!
# Settings on the command line

A setting is written `KEY=VALUE`. The value is read as JSON if it is JSON, and stands for itself as a
text otherwise.
-/

namespace ApiClients.CommandLine

/-- Why a text is no setting. -/
inductive SettingError where
  | noValue (text : String)
  | noKey
deriving DecidableEq, Repr

/-- The wording of an error. -/
def SettingError.message : SettingError → String
  | noValue text => s!"expected KEY=VALUE, got '{text}'"
  | noKey => "setting key must not be empty"

/-- The characters before and after the first occurrence of `mark`, if there is one. -/
def splitAtFirst? (mark : Char) : List Char → Option (List Char × List Char)
  | [] => none
  | c :: rest =>
    if c = mark then some ([], rest)
    else (splitAtFirst? mark rest).map fun (before, after) => (c :: before, after)

/-- The value that a text stands for. -/
def valueOfText (s : String) : Json :=
  (Json.read? s).getD (.string s)

/-- Reads a setting. -/
def readSetting (s : String) : Except SettingError (String × Json) :=
  match splitAtFirst? '=' s.toList with
  | none => .error (.noValue s)
  | some ([], _) => .error .noKey
  | some (key, value) => .ok (String.ofList key, valueOfText (String.ofList value))

end ApiClients.CommandLine
