import ApiClients.ErrorClass.Namespace

/-!
# Raised errors

An error that a service has reported, with its class and the call that met it.
-/

namespace ApiClients

/-- The call that met an error. -/
structure CallContext where
  service : String
  operation : String
  params : Json

/-- An error reported by a service. -/
structure ServiceError where
  errorClass : ErrorClass
  code : String
  text : String
  context : CallContext

namespace ServiceError

/-- The wording of the error: its class, the operation, and the text of the service. -/
def message (e : ServiceError) : String :=
  s!"{e.errorClass.qualifiedName} ({e.context.operation}): {e.text}"

/-- Whether the class of the error is `k` or lies below it. -/
def isA (e : ServiceError) (k : ErrorClass) : Bool :=
  e.errorClass.descendsFrom k

end ServiceError

/-- The error with a code and a text that a call has met. -/
def ErrorNamespace.raise (n : ErrorNamespace) (code text : String) (context : CallContext) :
    ServiceError :=
  { errorClass := n.classOf code, code, text, context }

end ApiClients
