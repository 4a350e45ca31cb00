import ApiClients.Api.Operation

/-!
# APIs

An API is given by its definition, a JSON object of which the members `metadata`, `shapes` and
`operations` matter. Whatever in it does not have the form that is looked for counts as absent.

Two APIs are equal if their definitions are. An API also has a serial number, by which instances with
equal definitions can be told apart.
-/

namespace ApiClients

/-- An API, as an instance with a number of its own. -/
structure Api where
  definition : Table Json
  serial : Nat

namespace Api

/-- Equality of the definitions. -/
def equal (a b : Api) : Bool :=
  Json.equalMembers a.definition b.definition

instance : BEq Api := ⟨equal⟩

/-- Whether two APIs are the same instance. -/
def isSameInstance (a b : Api) : Bool :=
  a.serial == b.serial

/-- Whether the definition has no members. -/
def isEmpty (a : Api) : Bool :=
  a.definition.isEmpty

/-- Whether a value is an object equal to the definition. -/
def equalsJson (a : Api) (j : Json) : Bool :=
  match j with
  | .object t => Json.equalMembers a.definition t
  | _ => false

/-! ### Sections of the definition -/

/-- The members of a section of the definition; none if it is missing or no object. -/
def section? (a : Api) (name : String) : Option (Table Json) :=
  (a.definition.get? name).bind Json.asObject?

/-- The metadata. -/
def metadata? (a : Api) : Option (Table Json) :=
  a.section? "metadata"

/-- A text of the metadata. -/
def metadataText? (a : Api) (key : String) : Option String :=
  (a.metadata?.bind (·.get? key)).bind Json.asString?

/-- The shape with a name. -/
def shape? (a : Api) (name : String) : Option (Table Json) :=
  ((a.section? "shapes").bind (·.get? name)).bind Json.asObject?

/-- The entries of the section of operations, well-formed or not. -/
def operationEntries (a : Api) : Table Json :=
  (a.section? "operations").getD ∅

/-! ### Error codes -/

/-- The error code of a shape: the one it declares, or else its name. -/
def codeOfShape (name : String) (shape : Table Json) : String :=
  (((shape.get? "error").bind (·.member? "code")).bind Json.asString?).getD name

/-- The error code that the name of a shape stands for; the name itself if there is no such shape. -/
def codeOf (a : Api) (name : String) : String :=
  match a.shape? name with
  | some shape => codeOfShape name shape
  | none => name

/-- Whether a shape is marked as an exception. -/
def isException (shape : Table Json) : Bool :=
  (shape.get? "exception").bind Json.asBool? == some true

/-- The codes of the shapes that are marked as exceptions. -/
def exceptionCodes (a : Api) : List String :=
  ((a.section? "shapes").getD ∅).toList.filterMap fun (name, value) =>
    value.asObject?.bind fun shape =>
      if isException shape then some (codeOfShape name shape) else none

/-- The codes of the error shapes that the operations refer to. -/
def referencedCodes (a : Api) : List String :=
  a.operationEntries.values.flatMap fun entry => (Operation.errorShapes entry).map a.codeOf

/-- The texts of a list, ascending and each once. -/
def sortedDistinct (l : List String) : List String :=
  (Members.ofList (l.map fun s => (s, ()))).keys

/-- The error codes that the API declares, ascending and each once. -/
def errorCodes (a : Api) : List String :=
  sortedDistinct (a.exceptionCodes ++ a.referencedCodes)

/-! ### Operations -/

/-- The operations, in ascending order of their names: one for each entry that is an object. -/
def operations (a : Api) : List Operation :=
  a.operationEntries.toList.filterMap fun (name, entry) =>
    entry.asObject?.map (Operation.ofTable name a.codeOf)

/-- The number of operations. -/
def operationCount (a : Api) : Nat :=
  (a.operationEntries.values.filter (·.asObject?.isSome)).length

/-- Whether a client needs a region: whether there is an operation. -/
def requiresRegion (a : Api) : Bool :=
  0 < a.operationCount

/-- Whether a client needs credentials: whether requests are signed and some operation does not opt
out of it. -/
def requiresCredentials (a : Api) : Bool :=
  a.metadataText? "signatureVersion" != some "none" && a.operations.any (!·.isUnsigned)

end Api

end ApiClients
