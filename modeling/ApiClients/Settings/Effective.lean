import ApiClients.Api.Basic
import ApiClients.Settings.Basic

/-!
# Effective settings

The settings of a client are its options laid over the defaults. They are checked key by key, in
ascending order: what has a meaning must be well-formed, and `null` counts as absent there. Then what
the API cannot do without must be present, the region before the credentials.
-/

namespace ApiClients

/-- The checked settings of a client. The keys without a meaning are passed through in `extra`. -/
structure EffectiveSettings where
  region : Option String := none
  credentials : Option Credentials := none
  endpoint : Option String := none
  extra : Table Json := ∅

/-- What is wrong with the value of a key. -/
inductive ValueError where
  | empty
  | notText (kind : Json.Kind)
  | notCredentials (cause : Credentials.DecodeError)

/-- The wording of an error. -/
def ValueError.message : ValueError → String
  | empty => "must not be empty"
  | notText kind => s!"expected a string, got {kind.name}"
  | notCredentials cause => s!"expected access_key_id and secret_access_key: {cause.message}"

/-- Why settings are refused. -/
inductive SettingsError where
  | missingRegion (service : String)
  | missingCredentials (service : String)
  | invalid (key : SettingKey) (cause : ValueError)

namespace SettingsError

/-- The wording of an error. -/
def message : SettingsError → String
  | missingRegion service =>
    s!"missing region for service {service}: set `region` in the defaults or the client options"
  | missingCredentials service => s!"missing credentials for service {service}"
  | invalid key cause => s!"invalid value for `{key.name}`: {cause.message}"

/-- Whether a setting is missing, and not malformed. -/
def isMissing : SettingsError → Bool
  | missingRegion _ => true
  | missingCredentials _ => true
  | invalid .. => false

end SettingsError

namespace EffectiveSettings

/-- A value that must be a text with something in it. -/
def nonEmptyText (key : SettingKey) : Json → Except SettingsError String
  | .string s => if s.isEmpty then .error (.invalid key .empty) else .ok s
  | v => .error (.invalid key (.notText v.kind))

/-- A value that must hold credentials. -/
def decodeCredentials (v : Json) : Except SettingsError Credentials :=
  (Credentials.ofJson v).mapError fun cause => .invalid .credentials (.notCredentials cause)

/-- Takes in the value of a key with a meaning. -/
def accept (s : EffectiveSettings) (key : SettingKey) (v : Json) :
    Except SettingsError EffectiveSettings :=
  if v.isNull then
    .ok s
  else
    match key with
    | .region => (nonEmptyText key v).map fun r => { s with region := some r }
    | .endpoint => (nonEmptyText key v).map fun e => { s with endpoint := some e }
    | .credentials => (decodeCredentials v).map fun c => { s with credentials := some c }

/-- Takes in a member of the settings. -/
def acceptMember (s : EffectiveSettings) (member : String × Json) :
    Except SettingsError EffectiveSettings :=
  match SettingKey.ofName? member.1 with
  | some key => s.accept key member.2
  | none => .ok { s with extra := s.extra.insert member.1 member.2 }

/-- Checks settings, key by key. -/
def ofSettings (settings : Settings) : Except SettingsError EffectiveSettings :=
  (Members.toList settings).foldlM acceptMember {}

/-- Whether there are credentials with both parts of the access key. -/
def hasCredentials (s : EffectiveSettings) : Bool :=
  s.credentials.any (·.isSet)

/-- Checks that what an API cannot do without is present. -/
def require (service : String) (api : Api) (s : EffectiveSettings) :
    Except SettingsError EffectiveSettings :=
  if api.requiresRegion && s.region.isNone then
    .error (.missingRegion service)
  else if api.requiresCredentials && !s.hasCredentials then
    .error (.missingCredentials service)
  else
    .ok s

/-- The settings of a client: options over defaults, checked. -/
def resolve (service : String) (api : Api) (defaults options : Settings) :
    Except SettingsError EffectiveSettings :=
  (ofSettings (Members.overlay defaults options)).bind (require service api)

end EffectiveSettings

end ApiClients
