import ApiClients.Api.Basic

/-!
# Parameters of a call

Parameters are an object, and `null` stands for the empty one. An operation without input shape takes
none; otherwise the members that its input shape requires must be there.
-/

namespace ApiClients

/-- Why parameters are refused. -/
inductive ParamsError where
  | notAnObject (operation : String) (kind : Json.Kind)
  | missing (operation member : String)
  | unexpected (operation : String)
deriving DecidableEq, Repr

/-- The wording of an error. -/
def ParamsError.message : ParamsError → String
  | notAnObject operation kind => s!"parameters for {operation} must be an object, got {kind.name}"
  | missing operation member => s!"missing required parameter `{member}` for {operation}"
  | unexpected operation => s!"{operation} does not accept parameters"

namespace Params

/-- The members that the parameters have, if they are an object or `null`. -/
def members? : Json → Option (Table Json)
  | .null => some ∅
  | .object t => some t
  | _ => none

/-- The members that an input shape requires, in the order of declaration. -/
def required (api : Api) (shape : String) : List String :=
  ((((api.shape? shape).bind (·.get? "required")).bind Json.asArray?).getD []).filterMap
    Json.asString?

/-- Checks the parameters of an operation. -/
def check (api : Api) (o : Operation) (params : Json) : Except ParamsError Unit :=
  match members? params with
  | none => .error (.notAnObject o.name params.kind)
  | some members =>
    match o.input with
    | none => if members.isEmpty then .ok () else .error (.unexpected o.name)
    | some shape =>
      match (required api shape).find? (!members.contains ·) with
      | some member => .error (.missing o.name member)
      | none => .ok ()

end Params

end ApiClients
