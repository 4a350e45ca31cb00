/-!
# Tables

A table maps strings to values and lists its members in ascending order of their keys, compared
code point by code point. The order is part of the type: a chain of members is indexed by the bound
that all its keys exceed, so no operation has to keep tables in order and no theorem has to assume
it. `Table α` is a chain without a bound. A type of trees may hold tables of itself.
-/

namespace ApiClients

universe u

/-- Members in ascending order of their keys, every key above the bound `lo` if there is one. -/
inductive Members (α : Type u) : Option String → Type u
  | nil {lo : Option String} : Members α lo
  | cons {lo : Option String} (key : String) (above : ∀ b ∈ lo, b < key) (value : α)
      (rest : Members α (some key)) : Members α lo

/-- A finite map from strings to `α`, in ascending order of its keys. -/
abbrev Table (α : Type u) : Type u := Members α none

namespace Members

variable {α : Type u} {lo : Option String}

instance : EmptyCollection (Table α) := ⟨.nil⟩

instance : Inhabited (Table α) := ⟨∅⟩

/-! ### Views -/

/-- The members as pairs, in ascending order of their keys. -/
def toList {lo : Option String} : Members α lo → List (String × α)
  | .nil => []
  | .cons key _ value rest => (key, value) :: rest.toList

/-- The value under a key. -/
def get? {lo : Option String} : Members α lo → String → Option α
  | .nil, _ => none
  | .cons key _ value rest, k => if k = key then some value else rest.get? k

/-- Whether a key has a value. -/
def contains (t : Members α lo) (k : String) : Bool :=
  (t.get? k).isSome

/-- The keys, ascending. -/
def keys (t : Members α lo) : List String :=
  t.toList.map Prod.fst

/-- The values, in the order of their keys. -/
def values (t : Members α lo) : List α :=
  t.toList.map Prod.snd

/-- The number of members. -/
def size (t : Members α lo) : Nat :=
  t.toList.length

/-- Whether there is no member. -/
def isEmpty (t : Members α lo) : Bool :=
  t.toList.isEmpty

/-! ### Changes -/

theorem lt_of_not_lt_of_ne {a b : String} (h : ¬ a < b) (ne : a ≠ b) : b < a :=
  Std.lt_of_le_of_ne (String.not_lt.1 h) ne.symm

/-- The same members under a lower bound, or under none. -/
def relax {c : String} (t : Members α (some c)) (h : ∀ b ∈ lo, b < c) : Members α lo :=
  match t with
  | .nil => .nil
  | .cons key above value rest =>
    .cons key (fun b hb => String.lt_trans (h b hb) (above c rfl)) value rest

/-- Puts a value under a key above the bound, in place of the value that was there. -/
def insertAbove (k : String) (v : α) {lo : Option String} :
    Members α lo → (∀ b ∈ lo, b < k) → Members α lo
  | .nil, h => .cons k h v .nil
  | .cons key above value rest, h =>
    if lt : k < key then
      .cons k h v (.cons key (fun _ hb => Option.some.inj hb ▸ lt) value rest)
    else if eq : k = key then
      .cons key above v rest
    else
      .cons key above value
        (rest.insertAbove k v fun _ hb => Option.some.inj hb ▸ lt_of_not_lt_of_ne lt eq)

/-- Puts a value under a key, in place of the value that was there. -/
def insert (t : Table α) (k : String) (v : α) : Table α :=
  t.insertAbove k v nofun

/-- Puts a value under a key that has none. -/
def insertNew (t : Table α) (k : String) (v : α) : Table α :=
  if t.contains k then t else t.insert k v

/-- Takes a key and its value out. -/
def erase {lo : Option String} (t : Members α lo) (k : String) : Members α lo :=
  match t with
  | .nil => .nil
  | .cons key above value rest =>
    if k = key then rest.relax above else .cons key above value (rest.erase k)

/-- The members of a list of pairs; of a repeated key the last value counts. -/
def ofList (l : List (String × α)) : Table α :=
  l.foldr (fun e t => t.insertNew e.1 e.2) ∅

/-- The members of `t` and of `u`; under a key of both stands the value of `u`. -/
def overlay (t u : Table α) : Table α :=
  u.toList.foldl (fun t e => t.insert e.1 e.2) t

end Members

end ApiClients
