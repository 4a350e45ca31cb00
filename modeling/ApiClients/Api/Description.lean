import ApiClients.Api.Basic
import ApiClients.Files
import ApiClients.Json.Reader

/-!
# Descriptions of APIs

An API may be described by a file, by a JSON value, by an API, or not at all. Without a description
there is an API without operations.
-/

namespace ApiClients

/-- The forms of a description. -/
inductive Description where
  | absent
  | path (p : Path)
  | document (value : Json)
  | api (a : Api)

/-- Why a description gives no API. -/
inductive DescriptionError where
  | unreadable (path : Path) (cause : ReadFailure)
  | malformed (path : Path)
  | notAnObject (path : Path) (kind : Json.Kind)
  | unsupported (kind : Json.Kind)
deriving DecidableEq, Repr

/-- The wording of an error. -/
def DescriptionError.message : DescriptionError → String
  | unreadable path cause => s!"failed to read API description '{path}': {cause.message}"
  | malformed path => s!"failed to parse API description '{path}'"
  | notAnObject path kind => s!"API description '{path}' must contain a JSON object, got {kind.name}"
  | unsupported kind =>
    s!"unsupported API description: expected a path, an object or a model, got {kind.name}"

namespace Description

/-- The definition in a file. -/
def load (files : Files) (path : Path) : Except DescriptionError (Table Json) :=
  match files path with
  | .error cause => .error (.unreadable path cause)
  | .ok text =>
    match Json.read? text with
    | none => .error (.malformed path)
    | some (.object definition) => .ok definition
    | some value => .error (.notAnObject path value.kind)

/-- The definition that a JSON value gives. -/
def ofDocument : Json → Except DescriptionError (Table Json)
  | .null => .ok ∅
  | .object definition => .ok definition
  | value => .error (.unsupported value.kind)

/-- The API that a description gives. One that is made anew has the number `serial`. -/
def toApi (files : Files) (serial : Nat) : Description → Except DescriptionError Api
  | absent => .ok ⟨∅, serial⟩
  | path p => if p.isEmpty then .ok ⟨∅, serial⟩ else (load files p).map (⟨·, serial⟩)
  | document value => (ofDocument value).map (⟨·, serial⟩)
  | api a => .ok a

end Description

end ApiClients
