import ApiClients.Client.Interface
import ApiClients.Client.Params
import ApiClients.Client.Transport
import ApiClients.ErrorClass.Raised

/-!
# Clients

A client belongs to a service and has settings of its own, which never change. A call names an
operation, and only a call that the client accepts is sent. An error that the service reports is
raised in the namespace of the service.
-/

namespace ApiClients

/-- A client of a service. -/
structure Client where
  interface : ClientInterface
  errors : ErrorNamespace
  settings : EffectiveSettings
  transport : Transport

/-- Why a call fails. -/
inductive CallError where
  | unknownOperation (service operation : String)
  | params (cause : ParamsError)
  | transport (cause : TransportError)
  | service (e : ServiceError)

/-- The wording of an error. -/
def CallError.message : CallError → String
  | unknownOperation owner operation => s!"{owner} has no operation named {operation}"
  | params cause => cause.message
  | transport cause => cause.message
  | service e => e.message

namespace Client

/-- The service of a client. -/
def service (c : Client) : String :=
  c.interface.service

/-- The request of a call, if the client accepts it. An unknown operation is reported before the
parameters are looked at. -/
def request (c : Client) (operation : String) (params : Json) : Except CallError Request :=
  match c.interface.operation? operation with
  | none => .error (.unknownOperation c.service operation)
  | some o =>
    match Params.check c.interface.api o params with
    | .error cause => .error (.params cause)
    | .ok () => .ok { service := c.service, operation := o, params, settings := c.settings }

/-- The result of a call to which a reply has come. -/
def conclude (c : Client) (operation : String) (params : Json) : Reply → Except CallError Json
  | .ok answer => .ok answer
  | .error (.service code text) =>
    .error (.service (c.errors.raise code text { service := c.service, operation, params }))
  | .error cause => .error (.transport cause)

/-- Calls an operation: the result, and the script afterwards. -/
def call (c : Client) (s : Script) (operation : String) (params : Json) :
    Except CallError Json × Script :=
  match c.request operation params with
  | .error e => (.error e, s)
  | .ok r =>
    let (reply, s) := c.transport.send s r
    (c.conclude operation params reply, s)

end Client

end ApiClients
