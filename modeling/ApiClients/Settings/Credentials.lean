import ApiClients.Json.Printer
import ApiClients.Table.Lemmas

/-!
# Credentials

Credentials are an access key and perhaps a session token. As JSON they are an object with members
of these names, or an array of the same texts in a fixed order, and their object can be read back
(`ofJson_toJson`). A text for logs shows only the key id.
-/

namespace ApiClients

/-- Credentials for signing requests. -/
structure Credentials where
  accessKeyId : String
  secretAccessKey : String
  sessionToken : Option String := none
deriving DecidableEq

namespace Credentials

/-- Whether both parts of the access key are there. -/
def isSet (c : Credentials) : Bool :=
  !c.accessKeyId.isEmpty && !c.secretAccessKey.isEmpty

/-- The credentials as an object; without a session token its member is left out. -/
def toTable (c : Credentials) : Table Json :=
  let key := ((∅ : Table Json).insert "access_key_id" (.string c.accessKeyId)).insert
    "secret_access_key" (.string c.secretAccessKey)
  match c.sessionToken with
  | none => key
  | some token => key.insert "session_token" (.string token)

/-- The credentials as JSON. -/
def toJson (c : Credentials) : Json :=
  .object c.toTable

/-- What stands in place of a secret. -/
def redacted : String := "<redacted>"

/-- A text for logs, without the secrets. -/
def logText (c : Credentials) : String :=
  let token :=
    match c.sessionToken with
    | none => "None"
    | some _ => "Some(" ++ Text.quoted redacted ++ ")"
  "Credentials \x7b access_key_id: " ++ Text.quoted c.accessKeyId ++
    ", secret_access_key: " ++ Text.quoted redacted ++ ", session_token: " ++ token ++ " \x7d"

/-! ### From JSON -/

/-- The parts that credentials cannot do without. -/
inductive Part where
  | accessKeyId
  | secretAccessKey
deriving DecidableEq, Repr

/-- The name of a part as a member of an object. -/
def Part.name : Part → String
  | .accessKeyId => "access_key_id"
  | .secretAccessKey => "secret_access_key"

/-- Why JSON gives no credentials. -/
inductive DecodeError where
  | unexpected (found : Json)
  | notText (found : Json)
  | missing (part : Part)
  | tooShort (length : Nat)
  | tooLong (length : Nat)

/-- A value as an error message names it. -/
def describe : Json → String
  | .null => "null"
  | .bool b => s!"boolean `{Json.boolText b}`"
  | .number n => (if n.isInteger then "integer" else "floating point") ++ s!" `{n.text}`"
  | .string s => s!"string {Text.quoted s}"
  | .array _ => "sequence"
  | .object _ => "map"

/-- The wording of an error. -/
def DecodeError.message : DecodeError → String
  | unexpected found => s!"invalid type: {describe found}, expected struct Credentials"
  | notText found => s!"invalid type: {describe found}, expected a string"
  | missing part => s!"missing field `{part.name}`"
  | tooShort n => s!"invalid length {n}, expected struct Credentials with 3 elements"
  | tooLong n => s!"invalid length {n}, expected fewer elements in array"

/-- A part that must be a text. -/
def text : Json → Except DecodeError String
  | .string s => .ok s
  | v => .error (.notText v)

/-- A part that may be `null` in place of a text. -/
def textOrNull : Json → Except DecodeError (Option String)
  | .null => .ok none
  | v => (text v).map some

/-- The credentials in an object. A member that is no text is reported before one that is missing;
members are looked at in the order of their names, and others are ignored. -/
def ofTable (t : Table Json) : Except DecodeError Credentials := do
  let id ← (t.get? "access_key_id").mapM text
  let secret ← (t.get? "secret_access_key").mapM text
  let token ← (t.get? "session_token").mapM textOrNull
  match id, secret with
  | none, _ => throw (.missing .accessKeyId)
  | some _, none => throw (.missing .secretAccessKey)
  | some accessKeyId, some secretAccessKey =>
    return { accessKeyId, secretAccessKey, sessionToken := token.join }

/-- The credentials in an array: the id, the secret, and perhaps the token. An item that is no text
is reported before the length is judged. -/
def ofItems : List Json → Except DecodeError Credentials
  | [] => throw (.tooShort 0)
  | [id] => do
    let _ ← text id
    throw (.tooShort 1)
  | [id, secret] => do
    return { accessKeyId := ← text id, secretAccessKey := ← text secret }
  | id :: secret :: token :: more => do
    let accessKeyId ← text id
    let secretAccessKey ← text secret
    let sessionToken ← textOrNull token
    if more.isEmpty then
      return { accessKeyId, secretAccessKey, sessionToken }
    else
      throw (.tooLong (more.length + 3))

/-- The credentials that a JSON value holds. -/
def ofJson : Json → Except DecodeError Credentials
  | .object t => ofTable t
  | .array items => ofItems items
  | v => .error (.unexpected v)

/-- Credentials can be read back from their object. -/
theorem ofJson_toJson (c : Credentials) : ofJson c.toJson = .ok c := by
  obtain ⟨id, secret, token⟩ := c
  cases token <;>
    simp [ofJson, toJson, ofTable, toTable, Members.get?_insert, text, textOrNull, bind, Except.bind,
      pure, Except.pure, Except.map, Functor.map]

end Credentials

end ApiClients
