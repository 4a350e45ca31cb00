import ApiClients.CommandLine.Style
import ApiClients.Json.Printer
import ApiClients.Service.Basic

/-!
# Reports

What the program prints: a summary of a service, as text or as JSON, and the settings of a client. Of
credentials only the key id is printed.
-/

namespace ApiClients.CommandLine

/-- A text on a line. -/
def line (s : String) : String :=
  s ++ "\n"

/-! ### Summary of a service -/

/-- The line of an operation. -/
def operationLine (color : Bool) (o : Operation) : String :=
  let input := (o.input.map ("  in: " ++ ·)).getD ""
  let output := (o.output.map ("  out: " ++ ·)).getD ""
  let name := styled color .cyan o.name
  let method := styled color .yellow o.http.method.name
  line s!"  {name} {method} {o.http.uri}{input}{output}"

/-- The line of an error class; the code is left out where it is the name of the class. -/
def classLine (color : Bool) (k : ErrorClass) : String :=
  let code := ((k.code?.filter (· != k.name)).map ("  code: " ++ ·)).getD ""
  line s!"    {styled color .red k.qualifiedName}{code}"

/-- The summary of a service as text. -/
def summaryText (color : Bool) (s : Service) : String :=
  let operations := s.interface.operations.values
  let name := styled color .bold s.name.text
  let title := line s!"{name} ({operations.length} operations, {s.errors.size} error classes)"
  let version :=
    match s.api.metadataText? "apiVersion" with
    | some v => line (styled color .dimmed "api version:" ++ " " ++ v)
    | none => ""
  let none :=
    if operations.isEmpty then line ("  " ++ styled color .dimmed "(none)") else ""
  title ++ version ++
    line ("\n" ++ styled color .underlined "Operations") ++ none ++
    String.join (operations.map (operationLine color)) ++
    line ("\n" ++ styled color .underlined "Errors") ++
    line ("  " ++ styled color .green s.errors.base.qualifiedName) ++
    String.join (s.errors.classes.map (classLine color))

/-- A text that may be missing, as JSON. -/
def textOrNull : Option String → Json
  | some s => .string s
  | none => .null

/-- Texts as JSON. -/
def texts (l : List String) : Json :=
  .array (l.map .string)

/-- An operation as JSON. -/
def operationJson (o : Operation) : Json :=
  .ofMembers
    [("name", .string o.name),
     ("http", .ofMembers
       [("method", .string o.http.method.name), ("requestUri", .string o.http.uri)]),
     ("input", textOrNull o.input),
     ("output", textOrNull o.output),
     ("errors", texts o.errors),
     ("authType", textOrNull o.authType)]

/-- An error class as JSON. -/
def classJson (k : ErrorClass) : Json :=
  .ofMembers
    [("name", .string k.name),
     ("code", textOrNull k.code?),
     ("qualifiedName", .string k.qualifiedName),
     ("ancestors", texts k.ancestors)]

/-- The summary of a service as JSON. -/
def summaryJson (s : Service) : Json :=
  .ofMembers
    [("service", .string s.name.text),
     ("metadata", (s.api.metadata?.map .object).getD .null),
     ("operations", .array (s.interface.operations.values.map operationJson)),
     ("errorBase", .string s.errors.base.qualifiedName),
     ("errorClasses", .array (s.errors.classes.map classJson))]

/-! ### Settings of a client -/

/-- The line of a setting without a meaning of its own. -/
def extraLine (member : String × Json) : String :=
  line s!"  {member.1}: {member.2.compact}"

/-- The settings of a client of a service. -/
def settingsText (color : Bool) (service : String) (s : EffectiveSettings) : String :=
  let region := s.region.getD "-"
  let keyId := (s.credentials.map Credentials.accessKeyId).getD "-"
  let endpoint := (s.endpoint.map fun e => line ("  endpoint: " ++ e)).getD ""
  line (styled color .boldGreen "ok:" ++ s!" {service} client can be constructed") ++
    line s!"  region: {region}" ++ line s!"  credentials: {keyId}" ++ endpoint ++
    String.join (s.extra.toList.map extraLine)

end ApiClients.CommandLine
