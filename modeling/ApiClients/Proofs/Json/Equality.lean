import ApiClients.Proofs.Json.Parts
import Mathlib.Data.List.Basic
import Mathlib.Logic.Basic
import Mathlib.Tactic.ByContra

/-!
# Equality of values

Two values are equal if they are alike in all their parts (`Json.Alike`). They need not be the same
value, as the two zeros among the floating-point numbers are equal. So every value gets a normal form,
in which no zero has a sign (`Json.normal`): values are equal exactly if their normal forms are the
same (`Json.equal_iff`, `Json.alike_iff`), and what does not look at the signs of zeros may be computed
of the normal form as well.
-/

namespace ApiClients

/-! ## Numbers -/

namespace Number

/-- A number without the sign of a zero. -/
def normal : Number → Number
  | .integer n h => .integer n h
  | .float negative x => .float (negative && !x.isZero) x

theorem eq_of_isZero {x y : Binary64} (hx : x.isZero = true) (hy : y.isZero = true) : x = y := by
  obtain ⟨m, e, hm⟩ := x
  obtain ⟨n, f, hn⟩ := y
  obtain rfl : m = 0 := beq_iff_eq.1 hx
  obtain rfl : n = 0 := beq_iff_eq.1 hy
  -- The mantissa of a zero is short, so its exponent is the least one.
  have he : e = -1074 := by simpa using hm
  have hf : f = -1074 := by simpa using hn
  subst he hf
  rfl

theorem equal_iff {m n : Number} : m.equal n = true ↔ m.normal = n.normal := by
  cases m with
  | integer i hi => cases n <;> simp [equal, normal]
  | float s x =>
    cases n with
    | integer => simp [equal, normal]
    | float t y =>
      simp only [equal, normal, Bool.or_eq_true, Bool.and_eq_true, beq_iff_eq, float.injEq]
      constructor
      · rintro (⟨rfl, rfl⟩ | ⟨hx, hy⟩)
        · exact ⟨rfl, rfl⟩
        · obtain rfl := eq_of_isZero hx hy
          simp [hx]
      · rintro ⟨h, rfl⟩
        cases hx : x.isZero with
        | true => exact .inr ⟨rfl, rfl⟩
        | false =>
          rw [hx, Bool.not_false, Bool.and_true, Bool.and_true] at h
          exact .inl ⟨h, rfl⟩

end Number

namespace Json

/-! ## Normal forms -/

mutual

/-- The value with all its zeros without a sign. -/
def normal : Json → Json
  | number n => number n.normal
  | array items => array (normalItems items)
  | object members => object (normalMembers members)
  | x => x

def normalItems : List Json → List Json
  | [] => []
  | x :: xs => x.normal :: normalItems xs

def normalMembers {lo : Option String} : Members Json lo → Members Json lo
  | .nil => .nil
  | .cons k above x rest => .cons k above x.normal (normalMembers rest)

end

variable {x y : Json} {lo : Option String}

theorem normalItems_eq (items : List Json) : normalItems items = items.map normal := by
  induction items with
  | nil => rfl
  | cons x xs ih => rw [normalItems, ih, List.map_cons]

theorem toList_normalMembers (t : Members Json lo) :
    (normalMembers t).toList = t.toList.map fun e => (e.1, e.2.normal) := by
  induction t with
  | nil => rfl
  | cons key above value rest ih =>
    rw [normalMembers, Members.toList_cons, ih, Members.toList_cons, List.map_cons]

@[simp] theorem get?_normalMembers (t : Members Json lo) (k : String) :
    (normalMembers t).get? k = (t.get? k).map normal := by
  induction t with
  | nil => rfl
  | cons key above value rest ih =>
    rw [normalMembers, Members.get?_cons, ih, Members.get?_cons]
    split_ifs <;> rfl

@[simp] theorem normalMembers_empty : normalMembers (∅ : Table Json) = ∅ := rfl

/-! ### Views -/

@[simp] theorem asBool?_normal (x : Json) : x.normal.asBool? = x.asBool? := by
  cases x <;> simp [normal, asBool?]

@[simp] theorem asString?_normal (x : Json) : x.normal.asString? = x.asString? := by
  cases x <;> simp [normal, asString?]

@[simp] theorem asArray?_normal (x : Json) : x.normal.asArray? = x.asArray?.map (·.map normal) := by
  cases x <;> simp [normal, asArray?, normalItems_eq]

@[simp] theorem asObject?_normal (x : Json) : x.normal.asObject? = x.asObject?.map normalMembers := by
  cases x <;> simp [normal, asObject?]

@[simp] theorem member?_normal (x : Json) (k : String) :
    x.normal.member? k = (x.member? k).map normal := by
  cases x <;> simp [normal, member?, asObject?]

/-! ## Equality and normal forms -/

theorem equalItems_iff {xs ys : List Json} (h : ∀ x ∈ xs, ∀ y, x.equal y = true ↔ x.normal = y.normal) :
    equalItems xs ys = true ↔ xs.map normal = ys.map normal := by
  induction xs generalizing ys with
  | nil => cases ys <;> simp [equalItems]
  | cons x xs ih =>
    cases ys with
    | nil => simp [equalItems]
    | cons y ys =>
      rw [equalItems, Bool.and_eq_true, h x (by simp), ih fun z hz => h z (by simp [hz]),
        List.map_cons, List.map_cons, List.cons.injEq]

theorem equalMembers_iff' {hi : Option String} {t : Members Json lo} {u : Members Json hi}
    (h : ∀ e ∈ t.toList, ∀ y, e.2.equal y = true ↔ e.2.normal = y.normal) :
    equalMembers t u = true ↔ (normalMembers t).toList = (normalMembers u).toList := by
  induction t generalizing hi with
  | nil => cases u <;> simp [equalMembers, normalMembers]
  | cons key above value rest ih =>
    cases u with
    | nil => simp [equalMembers, normalMembers]
    | cons key' above' value' rest' =>
      rw [Members.toList_cons, List.forall_mem_cons] at h
      simp only [equalMembers, Bool.and_eq_true, beq_iff_eq, h.1, ih h.2, normalMembers,
        Members.toList_cons, List.cons.injEq, Prod.mk.injEq]

/-- Values are equal if their normal forms are the same. -/
theorem equal_iff : x.equal y = true ↔ x.normal = y.normal := by
  induction x using parts_induction generalizing y with
  | null => cases y <;> simp [equal, normal]
  | bool b => cases y <;> simp [equal, normal]
  | number n => cases y <;> simp [equal, normal, Number.equal_iff]
  | string s => cases y <;> simp [equal, normal]
  | array items ih =>
    cases y with
    | array items' =>
      rw [equal, equalItems_iff fun x hx y => ih x hx, normal, normal, array.injEq, normalItems_eq,
        normalItems_eq]
    | _ => simp [equal, normal]
  | object t ih =>
    cases y with
    | object u =>
      rw [equal, equalMembers_iff' fun e he y => ih e he, normal, normal, object.injEq]
      exact ⟨Members.eq_of_toList_eq, congrArg _⟩
    | _ => simp [equal, normal]

theorem equalMembers_iff {t u : Table Json} :
    equalMembers t u = true ↔ normalMembers t = normalMembers u := by
  rw [equalMembers_iff' fun _ _ _ => equal_iff]
  exact ⟨Members.eq_of_toList_eq, congrArg _⟩

/-! ## Alike values -/

/-- Values that are alike in all their parts. Numbers are alike if they are the same integer or the
same floating-point number, or if both are floating-point zeros. -/
inductive Alike : Json → Json → Prop where
  | null : Alike null null
  | bool (b : Bool) : Alike (bool b) (bool b)
  | string (s : String) : Alike (string s) (string s)
  | number (n : Number) : Alike (number n) (number n)
  | zero {negative negative' : Bool} {x y : Binary64} (hx : x.isZero = true) (hy : y.isZero = true) :
    Alike (number (.float negative x)) (number (.float negative' y))
  | array {xs ys : List Json} (length : xs.length = ys.length)
    (items : ∀ (i : Nat) x y, xs[i]? = some x → ys[i]? = some y → Alike x y) : Alike (array xs) (array ys)
  | object {t u : Table Json} (keys : ∀ k, t.contains k = u.contains k)
    (values : ∀ k x y, t.get? k = some x → u.get? k = some y → Alike x y) :
    Alike (object t) (object u)

theorem Alike.normal_eq (h : Alike x y) : x.normal = y.normal := by
  induction h with
  | null | bool | string | number => rfl
  | zero hx hy =>
    obtain rfl := Number.eq_of_isZero hx hy
    simp [normal, Number.normal, hx]
  | @array xs ys length _ ih =>
    rw [normal, normal, normalItems_eq, normalItems_eq]
    congr 1
    apply List.ext_getElem (by simpa using length)
    intro i hi hi'
    rw [List.length_map] at hi hi'
    rw [List.getElem_map, List.getElem_map]
    exact ih i _ _ (List.getElem?_eq_getElem hi) (List.getElem?_eq_getElem hi')
  | @object t u keys _ ih =>
    rw [normal, normal]
    congr 1
    apply Members.ext_get?
    intro k
    have key := keys k
    rw [Members.contains_eq_isSome, Members.contains_eq_isSome] at key
    rw [get?_normalMembers, get?_normalMembers]
    cases ht : t.get? k with
    | none =>
      cases hu : u.get? k with
      | none => rfl
      | some w =>
        rw [ht, hu] at key
        exact nomatch key
    | some v =>
      cases hu : u.get? k with
      | none =>
        rw [ht, hu] at key
        exact nomatch key
      | some w => rw [Option.map_some, Option.map_some, ih k v w ht hu]

theorem alike_number {m n : Number} (h : m.normal = n.normal) : Alike (number m) (number n) := by
  have same : m.equal n = true := Number.equal_iff.2 h
  cases m with
  | integer =>
    cases n with
    | integer =>
      obtain rfl := beq_iff_eq.1 same
      exact .number _
    | float => exact nomatch same
  | float s x =>
    cases n with
    | integer => exact nomatch same
    | float t y =>
      rw [Number.equal, Bool.or_eq_true, Bool.and_eq_true, Bool.and_eq_true, beq_iff_eq,
        beq_iff_eq] at same
      rcases same with ⟨rfl, rfl⟩ | ⟨hx, hy⟩
      · exact .number _
      · exact .zero hx hy

theorem alike_of_normal_eq (h : x.normal = y.normal) : Alike x y := by
  induction x using parts_induction generalizing y with
  | null =>
    cases y with
    | null => exact .null
    | _ => simp [normal] at h
  | bool b =>
    cases y with
    | bool c =>
      obtain rfl : b = c := by simpa [normal] using h
      exact .bool b
    | _ => simp [normal] at h
  | string s =>
    cases y with
    | string t =>
      obtain rfl : s = t := by simpa [normal] using h
      exact .string s
    | _ => simp [normal] at h
  | number m =>
    cases y with
    | number n =>
      rw [normal, normal, number.injEq] at h
      exact alike_number h
    | _ => simp [normal] at h
  | array xs ih =>
    cases y with
    | array ys =>
      rw [normal, normal, array.injEq, normalItems_eq, normalItems_eq] at h
      refine .array (by simpa using congrArg List.length h) fun i x y hx hy => ?_
      have here : (xs.map normal)[i]? = (ys.map normal)[i]? := congrArg (·[i]?) h
      rw [List.getElem?_map, List.getElem?_map, hx, hy] at here
      exact ih x (List.mem_of_getElem? hx) (Option.some.inj here)
    | _ => simp [normal] at h
  | object t ih =>
    cases y with
    | object u =>
      rw [normal, normal, object.injEq] at h
      have here (k : String) : (t.get? k).map normal = (u.get? k).map normal := by
        rw [← get?_normalMembers, ← get?_normalMembers, h]
      refine .object (fun k => ?_) fun k x y hx hy => ?_
      · have := congrArg Option.isSome (here k)
        rwa [Option.isSome_map, Option.isSome_map] at this
      · have same := here k
        rw [hx, hy] at same
        exact ih (k, x) (t.mem_toList_iff.2 hx) (Option.some.inj same)
    | _ => simp [normal] at h

/-- Values are equal if they are alike. -/
theorem equal_iff_alike : x.equal y = true ↔ Alike x y :=
  equal_iff.trans ⟨alike_of_normal_eq, Alike.normal_eq⟩

end Json

end ApiClients
