import ApiClients.Json.Basic
import ApiClients.Table.Lemmas

/-!
# Values and their parts

`Json.parts_induction` is induction on a value by its items and members. Two measures go with it: the
levels of nesting (`Json.depth`), and whether all numbers are integers (`Json.isIntegral`). For both,
what holds of a container is what holds of its parts.
-/

namespace ApiClients.Json

/-- A property of containers follows from that of their parts. -/
@[elab_as_elim]
theorem parts_induction {p : Json → Prop} (null : p null) (bool : ∀ b, p (bool b))
    (number : ∀ n, p (number n)) (string : ∀ s, p (string s))
    (array : ∀ items, (∀ x ∈ items, p x) → p (array items))
    (object : ∀ t : Table Json, (∀ e ∈ t.toList, p e.2) → p (object t)) (x : Json) : p x := by
  refine Json.rec (motive_1 := p) (motive_2 := fun items => ∀ x ∈ items, p x)
    (motive_3 := fun _ t => ∀ e ∈ t.toList, p e.2) null bool number string array object ?_ ?_ ?_ ?_ x
  · simp
  · intro y ys hy hys x hx
    rcases List.mem_cons.1 hx with rfl | hx
    · exact hy
    · exact hys x hx
  · simp
  · intro lo key above value rest hv hr e he
    rcases List.mem_cons.1 he with rfl | he
    · exact hv
    · exact hr e he

/-! ## Nesting -/

mutual

/-- The levels of nesting: a container is one level above the deepest of its parts. -/
def depth : Json → Nat
  | array items => itemsDepth items + 1
  | object members => membersDepth members + 1
  | _ => 0

def itemsDepth : List Json → Nat
  | [] => 0
  | x :: xs => max x.depth (itemsDepth xs)

def membersDepth {lo : Option String} : Members Json lo → Nat
  | .nil => 0
  | .cons _ _ x rest => max x.depth (membersDepth rest)

end

theorem itemsDepth_le_iff {items : List Json} {n : Nat} :
    itemsDepth items ≤ n ↔ ∀ x ∈ items, x.depth ≤ n := by
  induction items with
  | nil => simp [itemsDepth]
  | cons x xs ih => rw [itemsDepth, Nat.max_le, ih, List.forall_mem_cons]

theorem membersDepth_le_iff {lo : Option String} {t : Members Json lo} {n : Nat} :
    membersDepth t ≤ n ↔ ∀ e ∈ t.toList, e.2.depth ≤ n := by
  induction t with
  | nil => simp [membersDepth]
  | cons key above value rest ih =>
    rw [membersDepth, Nat.max_le, ih, Members.toList_cons, List.forall_mem_cons]

theorem depth_array_le_iff {items : List Json} {n : Nat} :
    (array items).depth ≤ n + 1 ↔ ∀ x ∈ items, x.depth ≤ n := by
  rw [depth, Nat.add_le_add_iff_right, itemsDepth_le_iff]

theorem depth_object_le_iff {t : Table Json} {n : Nat} :
    (object t).depth ≤ n + 1 ↔ ∀ e ∈ t.toList, e.2.depth ≤ n := by
  rw [depth, Nat.add_le_add_iff_right, membersDepth_le_iff]

/-- An object made of a list is no deeper than the values in the list. -/
theorem depth_ofMembers_le {l : List (String × Json)} {n : Nat} (h : ∀ e ∈ l, e.2.depth ≤ n) :
    (ofMembers l).depth ≤ n + 1 := by
  rw [ofMembers, depth_object_le_iff]
  rintro ⟨k, v⟩ he
  exact h (k, v) (Members.mem_of_get?_ofList ((Members.mem_toList_iff _).1 he))

/-! ## Integers -/

mutual

/-- Whether all numbers in a value are integers. -/
def isIntegral : Json → Bool
  | number n => n.isInteger
  | array items => itemsIntegral items
  | object members => membersIntegral members
  | _ => true

def itemsIntegral : List Json → Bool
  | [] => true
  | x :: xs => x.isIntegral && itemsIntegral xs

def membersIntegral {lo : Option String} : Members Json lo → Bool
  | .nil => true
  | .cons _ _ x rest => x.isIntegral && membersIntegral rest

end

theorem isIntegral_array_iff {items : List Json} :
    (array items).isIntegral = true ↔ ∀ x ∈ items, x.isIntegral = true := by
  rw [isIntegral]
  induction items with
  | nil => simp [itemsIntegral]
  | cons x xs ih => simp [itemsIntegral, ih]

theorem isIntegral_object_iff {t : Table Json} :
    (object t).isIntegral = true ↔ ∀ e ∈ t.toList, e.2.isIntegral = true := by
  have chain : ∀ {lo : Option String} (t : Members Json lo),
      membersIntegral t = true ↔ ∀ e ∈ t.toList, e.2.isIntegral = true := by
    intro lo t
    induction t with
    | nil => simp [membersIntegral]
    | cons key above value rest ih => simp [membersIntegral, ih]
  rw [isIntegral, chain]

theorem isIntegral_ofMembers {l : List (String × Json)} (h : ∀ e ∈ l, e.2.isIntegral = true) :
    (ofMembers l).isIntegral = true := by
  rw [ofMembers, isIntegral_object_iff]
  rintro ⟨k, v⟩ he
  exact h (k, v) (Members.mem_of_get?_ofList ((Members.mem_toList_iff _).1 he))

end ApiClients.Json
