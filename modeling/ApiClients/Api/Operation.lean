import ApiClients.Json.Basic

/-!
# Operations

An operation is what an API offers to call: where it is sent over HTTP, which shapes describe its
input and output, which error codes it declares, and whether it is signed.
-/

namespace ApiClients

/-- The HTTP methods that an operation can be bound to. -/
inductive HttpMethod where
  | get
  | post
  | put
  | patch
  | delete
  | head
deriving DecidableEq, Repr

namespace HttpMethod

/-- All methods. -/
def all : List HttpMethod :=
  [.get, .post, .put, .patch, .delete, .head]

/-- The name of a method, in upper case. -/
def name : HttpMethod → String
  | .get => "GET"
  | .post => "POST"
  | .put => "PUT"
  | .patch => "PATCH"
  | .delete => "DELETE"
  | .head => "HEAD"

/-- The method with this name. -/
def ofName? (s : String) : Option HttpMethod :=
  all.find? (·.name == s)

/-- The method with this name; the case of ASCII letters does not matter. -/
def ofNameIgnoringCase? (s : String) : Option HttpMethod :=
  ofName? (s.map Char.toUpper)

end HttpMethod

/-- Where an operation is sent over HTTP. -/
structure HttpBinding where
  method : HttpMethod := .post
  uri : String := "/"
deriving DecidableEq, Repr

/-- The HTTP binding that an object describes; what it leaves open or spells wrongly is `POST /`. -/
def HttpBinding.ofTable (t : Table Json) : HttpBinding where
  method := (((t.get? "method").bind Json.asString?).bind HttpMethod.ofNameIgnoringCase?).getD .post
  uri := ((t.get? "requestUri").bind Json.asString?).getD "/"

/-- An operation of an API: its HTTP binding, the names of its shapes, the error codes that it declares,
in their order, and the kind of authentication where it has one of its own. -/
structure Operation where
  name : String
  http : HttpBinding
  input : Option String
  output : Option String
  errors : List String
  authType : Option String
deriving DecidableEq, Repr

namespace Operation

/-- The shape that a reference names. -/
def shapeName? (reference : Json) : Option String :=
  (reference.member? "shape").bind Json.asString?

/-- The names of the error shapes that an operation's definition refers to. -/
def errorShapes (definition : Json) : List String :=
  (((definition.member? "errors").bind Json.asArray?).getD []).filterMap shapeName?

/-- The operation that an object defines under a name; `codeOf` gives the code of an error shape. -/
def ofTable (name : String) (codeOf : String → String) (t : Table Json) : Operation where
  name
  http := (((t.get? "http").bind Json.asObject?).map HttpBinding.ofTable).getD {}
  input := (t.get? "input").bind shapeName?
  output := (t.get? "output").bind shapeName?
  errors := (errorShapes (.object t)).map codeOf
  authType := (t.get? "authtype").bind Json.asString?

/-- Whether requests of the operation are sent without a signature. -/
def isUnsigned (o : Operation) : Bool :=
  o.authType == some "none"

end Operation

end ApiClients
