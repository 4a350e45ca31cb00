import ApiClients.Api.Basic
import ApiClients.ErrorClass.Basic
import ApiClients.ErrorClass.Name
import ApiClients.Table.Lemmas
import ApiClients.Text.Quoted

/-!
# Error namespaces

The namespace of a service holds its declared error classes under their names. It exists only if
every declared code has a name of its own, so that no two codes share a class and none takes the name
of the base class. A code that is not declared still has a class: one made for it, or the base class
where its name is taken or missing.
-/

namespace ApiClients

/-- The error classes of a service. The declared ones are found by their names, and their names by
their codes. -/
structure ErrorNamespace where
  service : String
  base : ErrorClass := .base service
  declared : Table ErrorClass := ∅
  names : Table String := ∅
deriving DecidableEq

/-- Why codes make no namespace. -/
inductive NamespaceError where
  | unnamed (code : String)
  /-- The codes of one class name, if there are several of them or the name is that of the base. -/
  | collision (name : String) (codes : List String)
deriving DecidableEq, Repr

/-- The wording of an error. -/
def NamespaceError.message : NamespaceError → String
  | unnamed code => s!"error code '{code}' does not produce a class name"
  | collision name codes =>
    s!"error class name collision for '{name}': codes {Text.quotedList codes}"

namespace ErrorNamespace

/-! ### Construction -/

/-- Adds a code to the codes with the same class name. -/
def addCode (groups : Table (List String)) (code : String) :
    Except NamespaceError (Table (List String)) :=
  match ErrorClass.name? code with
  | none => .error (.unnamed code)
  | some name => .ok (groups.insert name ((groups.get? name).getD [] ++ [code]))

/-- The codes by their class names. -/
def group (codes : List String) : Except NamespaceError (Table (List String)) :=
  codes.foldlM addCode ∅

/-- Whether the codes of a class name cannot all have it. -/
def isCollision (name : String) (codes : List String) : Bool :=
  name == ErrorClass.baseName || 1 < codes.length

/-- Adds a declared class. -/
def withClass (n : ErrorNamespace) (name code : String) : ErrorNamespace :=
  { n with
    declared := n.declared.insert name (.derived n.service name code true)
    names := n.names.insert code name }

/-- Declares the class of a name, for the one code that has it. -/
def declare (n : ErrorNamespace) (entry : String × List String) :
    Except NamespaceError ErrorNamespace :=
  let (name, codes) := entry
  if isCollision name codes then
    .error (.collision name codes)
  else
    match codes.head? with
    | none => .ok n
    | some code => .ok (n.withClass name code)

/-- The namespace of a service with these codes. A code without name is reported before any
collision, and of several collisions that of the least name. -/
def ofCodes (service : String) (codes : List String) : Except NamespaceError ErrorNamespace := do
  let groups ← group codes
  groups.toList.foldlM declare { service }

/-- The namespace of a service with the codes that an API declares. -/
def ofApi (service : String) (api : Api) : Except NamespaceError ErrorNamespace :=
  ofCodes service api.errorCodes

/-! ### Classes -/

/-- The declared classes, in ascending order of their names. -/
def classes (n : ErrorNamespace) : List ErrorClass :=
  n.declared.values

/-- The names of all classes, that of the base first. -/
def classNames (n : ErrorNamespace) : List String :=
  ErrorClass.baseName :: n.declared.keys

/-- The number of declared classes. -/
def size (n : ErrorNamespace) : Nat :=
  n.declared.size

/-- Whether no class is declared. -/
def isEmpty (n : ErrorNamespace) : Bool :=
  n.declared.isEmpty

/-- The class with a name, the base class included. -/
def class? (n : ErrorNamespace) (name : String) : Option ErrorClass :=
  if name = ErrorClass.baseName then some n.base else n.declared.get? name

/-- The declared class of a code. -/
def declaredClass? (n : ErrorNamespace) (code : String) : Option ErrorClass :=
  (n.names.get? code).bind n.declared.get?

/-- The class made for a code that is not declared, if its name is not taken. -/
def undeclaredClass? (n : ErrorNamespace) (code : String) : Option ErrorClass :=
  match ErrorClass.name? code with
  | none => none
  | some name =>
    if name = ErrorClass.baseName || n.declared.contains name then none
    else some (.derived n.service name code false)

/-- The class of a code: the declared one, else one made for it, else the base. -/
def classOf (n : ErrorNamespace) (code : String) : ErrorClass :=
  match n.declaredClass? code with
  | some k => k
  | none => (n.undeclaredClass? code).getD n.base

end ErrorNamespace

end ApiClients
