import ApiClients.Json.Number
import ApiClients.Table.Basic

/-!
# JSON values

An object is a table, so its members have one order and no key repeats. Equality of values is
equality of all that is in them, with `Number.equal` for numbers.
-/

namespace ApiClients

/-- A JSON value. -/
inductive Json where
  | null
  | bool (b : Bool)
  | number (n : Number)
  | string (s : String)
  | array (items : List Json)
  | object (members : Members Json none)

namespace Json

instance : Inhabited Json := ⟨null⟩

/-- The kinds of JSON values. -/
inductive Kind where
  | null
  | boolean
  | number
  | string
  | array
  | object
deriving DecidableEq, Repr

/-- The word for a kind. -/
def Kind.name : Kind → String
  | .null => "null"
  | .boolean => "boolean"
  | .number => "number"
  | .string => "string"
  | .array => "array"
  | .object => "object"

/-- The kind of a value. -/
def kind : Json → Kind
  | null => .null
  | bool _ => .boolean
  | number _ => .number
  | string _ => .string
  | array _ => .array
  | object _ => .object

/-! ### Views -/

/-- The truth value, if it is one. -/
def asBool? : Json → Option Bool
  | bool b => some b
  | _ => none

/-- The text, if it is a string. -/
def asString? : Json → Option String
  | string s => some s
  | _ => none

/-- The items, if it is an array. -/
def asArray? : Json → Option (List Json)
  | array items => some items
  | _ => none

/-- The members, if it is an object. -/
def asObject? : Json → Option (Table Json)
  | object members => some members
  | _ => none

/-- Whether the value is `null`. -/
def isNull : Json → Bool
  | null => true
  | _ => false

/-- The value of a member, if it is an object with that member. -/
def member? (j : Json) (key : String) : Option Json :=
  j.asObject?.bind (·.get? key)

@[simp] theorem asString?_eq_some_iff {j : Json} {s : String} :
    j.asString? = some s ↔ j = string s := by
  cases j <;> simp [asString?]

@[simp] theorem asArray?_eq_some_iff {j : Json} {items : List Json} :
    j.asArray? = some items ↔ j = array items := by
  cases j <;> simp [asArray?]

@[simp] theorem asObject?_eq_some_iff {j : Json} {t : Table Json} :
    j.asObject? = some t ↔ j = object t := by
  cases j <;> simp [asObject?]

@[simp] theorem isNull_iff {j : Json} : j.isNull = true ↔ j = null := by
  cases j <;> simp [isNull]

/-- The object with these members; of a repeated key the last value counts. -/
def ofMembers (members : List (String × Json)) : Json :=
  object (.ofList members)

/-! ### Equality -/

mutual

/-- Whether two values are equal. -/
def equal : Json → Json → Bool
  | null, null => true
  | bool a, bool b => a == b
  | number m, number n => m.equal n
  | string s, string t => s == t
  | array xs, array ys => equalItems xs ys
  | object t, object u => equalMembers t u
  | _, _ => false

/-- Whether two sequences have equal items at the same places. -/
def equalItems : List Json → List Json → Bool
  | [], [] => true
  | x :: xs, y :: ys => x.equal y && equalItems xs ys
  | _, _ => false

/-- Whether two chains of members have the same keys with equal values. -/
def equalMembers {lo lo' : Option String} : Members Json lo → Members Json lo' → Bool
  | .nil, .nil => true
  | .cons k _ x rest, .cons k' _ y rest' => k == k' && x.equal y && equalMembers rest rest'
  | _, _ => false

end

instance : BEq Json := ⟨equal⟩

end Json

end ApiClients
