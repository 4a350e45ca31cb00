/-!
# Names of services

A service is named by a letter of ASCII, followed by letters and digits of ASCII and underscores.
-/

namespace ApiClients

/-- Why a text names no service. -/
inductive ServiceName.Fault where
  | empty
  | start
  | character
deriving DecidableEq, Repr

/-- The wording of a fault. -/
def ServiceName.Fault.message : ServiceName.Fault → String
  | empty => "must not be empty"
  | start => "must start with a letter"
  | character => "may only contain letters, digits and '_'"

/-- Whether a character may stand in a name after the first. -/
def ServiceName.isNameChar (c : Char) : Bool :=
  c.isAlphanum || c == '_'

/-- The fault of a text as the name of a service, if it has one. -/
def ServiceName.fault? (s : String) : Option ServiceName.Fault :=
  match s.toList with
  | [] => some .empty
  | c :: rest =>
    if !c.isAlpha then some .start
    else if !rest.all ServiceName.isNameChar then some .character
    else none

/-- The name of a service. -/
structure ServiceName where
  text : String
  valid : ServiceName.fault? text = none
deriving DecidableEq

namespace ServiceName

/-- Why a text is refused as a name. -/
structure Invalid where
  text : String
  fault : Fault
deriving DecidableEq, Repr

/-- The wording of a refusal. -/
def Invalid.message (e : Invalid) : String :=
  s!"invalid service name '{e.text}': {e.fault.message}"

/-- The name that a text spells. -/
def ofString (s : String) : Except Invalid ServiceName :=
  match h : fault? s with
  | some fault => .error ⟨s, fault⟩
  | none => .ok ⟨s, h⟩

/-- How two names compare, character by character. -/
def compare (a b : ServiceName) : Ordering :=
  if a.text < b.text then .lt else if a.text = b.text then .eq else .gt

end ServiceName

end ApiClients
