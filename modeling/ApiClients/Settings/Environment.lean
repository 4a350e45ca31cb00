import ApiClients.Settings.Basic

/-!
# Settings from the environment

Environment variables may supply a region and credentials. An empty region is left out, and so are
credentials of which a part of the access key is empty.
-/

namespace ApiClients

/-- The values of environment variables, where they are set. -/
abbrev Environment : Type := String → Option String

namespace Environment

/-- The variable of the region. -/
def regionName : String := "STRATUS_REGION"

/-- The variable of the id of the access key. -/
def accessKeyIdName : String := "STRATUS_ACCESS_KEY_ID"

/-- The variable of the secret of the access key. -/
def secretAccessKeyName : String := "STRATUS_SECRET_ACCESS_KEY"

/-- The variable of the session token. -/
def sessionTokenName : String := "STRATUS_SESSION_TOKEN"

/-- The region, unless it is empty. -/
def region? (env : Environment) : Option String :=
  (env regionName).filter (!·.isEmpty)

/-- The credentials, if both parts of the access key are set and not empty. -/
def credentials? (env : Environment) : Option Credentials :=
  match env accessKeyIdName, env secretAccessKeyName with
  | some accessKeyId, some secretAccessKey =>
    let c : Credentials :=
      { accessKeyId, secretAccessKey, sessionToken := env sessionTokenName }
    if c.isSet then some c else none
  | _, _ => none

/-- The settings that the environment supplies. -/
def settings (env : Environment) : Settings :=
  .ofAssignments
    (env.region?.toList.map .region ++ env.credentials?.toList.map .credentials)

end Environment

end ApiClients
