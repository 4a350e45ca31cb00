import ApiClients.Api.Basic
import ApiClients.Table.Lemmas

/-!
# Client interfaces

What all clients of a service offer: the operations of its API, under their names.
-/

namespace ApiClients

/-- The interface of the clients of a service. -/
structure ClientInterface where
  service : String
  api : Api
  operations : Table Operation

namespace ClientInterface

/-- What all client interfaces have in common. -/
def commonAncestor : String := "stratus::client::Client"

/-- The interface of a service with an API. -/
def ofApi (service : String) (api : Api) : ClientInterface where
  service
  api
  operations := .ofList (api.operations.map fun o => (o.name, o))

/-- Equality, with equality of definitions for the APIs. -/
def equal (a b : ClientInterface) : Bool :=
  a.service == b.service && a.api == b.api && decide (a.operations = b.operations)

instance : BEq ClientInterface := ⟨equal⟩

/-- The operation with a name. -/
def operation? (i : ClientInterface) (name : String) : Option Operation :=
  i.operations.get? name

/-- Whether there is an operation with a name. -/
def hasOperation (i : ClientInterface) (name : String) : Bool :=
  i.operations.contains name

/-- The names of the operations, ascending. -/
def operationNames (i : ClientInterface) : List String :=
  i.operations.keys

/-- The name of the interface, with the service in front. -/
def qualifiedName (i : ClientInterface) : String :=
  i.service ++ "::Client"

/-- The names of the interface and of what it has in common with others. -/
def ancestors (i : ClientInterface) : List String :=
  [i.qualifiedName, commonAncestor]

end ClientInterface

end ApiClients
