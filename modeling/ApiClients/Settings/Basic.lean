import ApiClients.Settings.Credentials

/-!
# Settings

Settings are a table of JSON values. Three keys have a meaning here; every other key is passed
through. The options of a client are settings made by a list of assignments, of which the last one
for a key counts.
-/

namespace ApiClients

/-- Values under keys, in ascending order of the keys. -/
abbrev Settings : Type := Table Json

/-- The keys with a meaning. -/
inductive SettingKey where
  | region
  | credentials
  | endpoint
deriving DecidableEq, Repr

namespace SettingKey

/-- The name of a key. -/
def name : SettingKey → String
  | region => "region"
  | credentials => "credentials"
  | endpoint => "endpoint"

/-- The key with this name. -/
def ofName? (s : String) : Option SettingKey :=
  if s = "region" then some region
  else if s = "credentials" then some credentials
  else if s = "endpoint" then some endpoint
  else none

end SettingKey

/-- An assignment of a value to a key. -/
inductive Assignment where
  | region (r : String)
  | credentials (c : Credentials)
  | endpoint (e : String)
  | option (key : String) (value : Json)

namespace Assignment

/-- The key that is set. -/
def key : Assignment → String
  | region _ => SettingKey.region.name
  | credentials _ => SettingKey.credentials.name
  | endpoint _ => SettingKey.endpoint.name
  | option k _ => k

/-- The value that it is set to. -/
def value : Assignment → Json
  | region r => .string r
  | credentials c => c.toJson
  | endpoint e => .string e
  | option _ v => v

end Assignment

namespace Settings

/-- Carries out an assignment. -/
def assign (s : Settings) (a : Assignment) : Settings :=
  Members.insert s a.key a.value

/-- The settings that assignments make, one after the other. -/
def ofAssignments (l : List Assignment) : Settings :=
  l.foldl assign ∅

/-- The settings that a JSON value gives, if it is an object; otherwise its kind. -/
def ofJson : Json → Except Json.Kind Settings
  | .object t => .ok t
  | v => .error v.kind

end Settings

end ApiClients
