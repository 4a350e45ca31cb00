import ApiClients.Api.Description
import ApiClients.Context.Defaults
import ApiClients.Service.Registry

/-!
# Contexts

A context is where services are registered. It holds the defaults that their clients share, and the
transport that services get when they are registered. An operation on a context comes to a result or
to a failure, and either way it leaves a context behind; nothing takes back what an operation did
before it failed.
-/

namespace ApiClients

/-- Services, with the defaults of their clients. -/
structure Context where
  defaults : Defaults := {}
  registry : Registry := ∅
  transport : Transport := .unconfigured
  nextSerial : Nat := 0

/-- Why something that a context is asked for fails. -/
inductive Failure where
  | name (cause : ServiceName.Invalid)
  | description (cause : DescriptionError)
  | errorNamespace (cause : NamespaceError)
  | defaults (kind : Json.Kind)
  | unknownService (name : String)
  | settings (cause : SettingsError)
  | call (cause : CallError)

/-- The wording of a failure. -/
def Failure.message : Failure → String
  | name cause => cause.message
  | description cause => cause.message
  | errorNamespace cause => cause.message
  | defaults kind => s!"configuration defaults must be an object, got {kind.name}"
  | unknownService missing => s!"uninitialized service: {missing}"
  | settings cause => cause.message
  | call cause => cause.message

namespace Context

/-! ### Defaults -/

/-- The settings that clients of a service start from. -/
def defaultsOf (c : Context) (s : Service) : Settings :=
  c.defaults.settingsOf s.generation

/-- Exchanges the defaults as a whole; services that are registered keep the defaults they have. -/
def withDefaults (c : Context) (s : Settings) : Context :=
  { c with defaults := c.defaults.exchange s }

/-- Exchanges the transport; services that are registered keep the transport they have. -/
def withTransport (c : Context) (t : Transport) : Context :=
  { c with transport := t }

/-- Edits the defaults. -/
def editDefaults (c : Context) (f : Settings → Settings) : Context :=
  { c with defaults := c.defaults.edit f }

/-- Sets the defaults to a JSON value, which must be an object. -/
def setDefaults (c : Context) (value : Json) : Except Failure Unit × Context :=
  match Settings.ofJson value with
  | .error kind => (.error (.defaults kind), c)
  | .ok s => (.ok (), c.editDefaults fun _ => s)

/-! ### Services -/

/-- Makes a service of a name and a description. The name is judged before the description is
looked at. -/
def makeService (c : Context) (files : Files) (name : String) (d : Description) :
    Except Failure Service := do
  let name ← (ServiceName.ofString name).mapError .name
  let api ← (d.toApi files c.nextSerial).mapError .description
  (Service.make name api c.transport c.defaults.generation (c.nextSerial + 1)).mapError
    .errorNamespace

/-- Registers a service under its name, in place of the one that was there. -/
def register (c : Context) (s : Service) : Context :=
  { c with registry := c.registry.add s, nextSerial := c.nextSerial + 2 }

/-- Makes a service of a name and a description, and registers it. -/
def addService (c : Context) (files : Files) (name : String) (d : Description) :
    Except Failure Service × Context :=
  match c.makeService files name d with
  | .error e => (.error e, c)
  | .ok s => (.ok s, c.register s)

/-- The service that a look-up of a name has found, if it has found one. -/
def found (name : String) : Option Service → Except Failure Service
  | some s => .ok s
  | none => .error (.unknownService name)

/-- The service of a name. -/
def service (c : Context) (name : String) : Except Failure Service :=
  found name (c.registry.get? name)

/-- Takes the service of a name out of the registry. -/
def removeService (c : Context) (name : String) : Except Failure Service × Context :=
  let (removed, registry) := c.registry.remove name
  (found name removed, { c with registry })

/-- The names of the services, ascending. -/
def serviceNames (c : Context) : List String :=
  c.registry.names

/-- Makes a client of a service with these options. -/
def newClient (c : Context) (s : Service) (options : Settings) : Except Failure Client :=
  (s.newClient (c.defaultsOf s) options).mapError .settings

end Context

end ApiClients
