import ApiClients.Table.Basic

/-!
# Lemmas about tables

A table is seen through `get?`: two tables with the same values are the same table
(`Members.ext_get?`), and every operation has one equation that says what it does to the look-up.
The list view is its second face: its keys ascend (`Members.pairwise_keys`), and a pair is listed
exactly if the look-up finds it (`Members.mem_toList_iff`).
-/

namespace ApiClients.Members

universe u

variable {α : Type u} {lo : Option String} {k l : String} {x : α}

@[simp] theorem toList_nil : (nil : Members α lo).toList = [] := rfl

@[simp] theorem toList_cons {key : String} {above : ∀ b ∈ lo, b < key} {value : α}
    {rest : Members α (some key)} :
    (cons key above value rest).toList = (key, value) :: rest.toList := rfl

@[simp] theorem toList_empty : (∅ : Table α).toList = [] := rfl

@[simp] theorem get?_nil : (nil : Members α lo).get? k = none := rfl

@[simp] theorem get?_empty : (∅ : Table α).get? k = none := rfl

theorem get?_cons {key : String} {above : ∀ b ∈ lo, b < key} {value : α}
    {rest : Members α (some key)} :
    (cons key above value rest).get? k = if k = key then some value else rest.get? k := rfl

theorem contains_eq_isSome (t : Members α lo) : t.contains k = (t.get? k).isSome := rfl

theorem isEmpty_iff {t : Table α} : t.isEmpty = true ↔ t = ∅ := by
  cases t with
  | nil => exact ⟨fun _ => rfl, fun _ => rfl⟩
  | cons => exact ⟨nofun, nofun⟩

/-! ### Order -/

/-- Every key lies above the bound. -/
theorem lt_of_mem_toList {lo : Option String} (t : Members α lo) {e : String × α}
    (h : e ∈ t.toList) : ∀ b ∈ lo, b < e.1 := by
  induction t with
  | nil => simp at h
  | cons key above value rest ih =>
    intro b hb
    rcases List.mem_cons.1 h with rfl | h
    · exact above b hb
    · exact String.lt_trans (above b hb) (ih h key rfl)

/-- The keys ascend strictly. -/
theorem pairwise_toList {lo : Option String} (t : Members α lo) :
    t.toList.Pairwise (fun d e => d.1 < e.1) := by
  induction t with
  | nil => exact .nil
  | cons key above value rest ih =>
    exact .cons (fun e he => lt_of_mem_toList rest he key rfl) ih

theorem pairwise_keys (t : Members α lo) : t.keys.Pairwise (· < ·) :=
  List.pairwise_map.2 t.pairwise_toList

/-- No text stands twice in an ascending list. -/
theorem nodup_of_pairwise {l : List String} (h : l.Pairwise (· < ·)) : l.Nodup :=
  h.imp fun {s t} lt => (by rintro rfl; exact String.lt_irrefl s lt)

theorem nodup_of_pairwise_fst {l : List (String × α)} (h : l.Pairwise fun d e => d.1 < e.1) :
    l.Nodup :=
  h.imp fun {d e} lt => (by rintro rfl; exact String.lt_irrefl _ lt)

/-- A key is looked up in vain below the first key. -/
theorem get?_eq_none_of_not_lt {lo : Option String} (t : Members α lo) {b : String} (hb : b ∈ lo)
    (h : ¬ b < k) : t.get? k = none := by
  induction t generalizing b with
  | nil => rfl
  | cons key above value rest ih =>
    have lt : b < key := above b hb
    have ne : k ≠ key := fun eq => h (eq ▸ lt)
    rw [get?_cons, if_neg ne]
    exact ih rfl fun lt' => h (String.lt_trans lt lt')

/-- A member of a chain is the first one or one of the others. -/
theorem get?_cons_eq_some_iff {key : String} {above : ∀ b ∈ lo, b < key} {value : α}
    {rest : Members α (some key)} :
    (cons key above value rest).get? k = some x ↔ k = key ∧ value = x ∨ rest.get? k = some x := by
  rw [get?_cons]
  by_cases h : k = key
  · simp [h, get?_eq_none_of_not_lt rest rfl (String.lt_irrefl key)]
  · simp [h]

/-- The first key of a chain is less than the others. -/
theorem lt_of_get?_eq_some {key : String} {rest : Members α (some key)}
    (h : rest.get? k = some x) : key < k := by
  refine Decidable.byContradiction fun not_lt => ?_
  rw [get?_eq_none_of_not_lt rest rfl not_lt] at h
  exact nomatch h

/-! ### Look-up and listing -/

theorem mem_toList_iff {lo : Option String} (t : Members α lo) :
    (k, x) ∈ t.toList ↔ t.get? k = some x := by
  induction t with
  | nil => simp
  | cons key above value rest ih =>
    by_cases h : k = key
    · subst h
      have : (k, x) ∉ rest.toList := fun m =>
        String.lt_irrefl k (lt_of_mem_toList rest m k rfl)
      simp [get?_cons, this, eq_comm]
    · simp [get?_cons, h, ih]

theorem mem_keys_iff (t : Members α lo) : k ∈ t.keys ↔ ∃ x, t.get? k = some x := by
  constructor
  · intro h
    obtain ⟨⟨_, x⟩, m, rfl⟩ := List.mem_map.1 h
    exact ⟨x, t.mem_toList_iff.1 m⟩
  · rintro ⟨x, h⟩
    exact List.mem_map.2 ⟨(k, x), t.mem_toList_iff.2 h, rfl⟩

theorem mem_values_iff (t : Members α lo) : x ∈ t.values ↔ ∃ k, t.get? k = some x := by
  simp [values, mem_toList_iff]

theorem mem_keys_iff_contains (t : Members α lo) : k ∈ t.keys ↔ t.contains k := by
  rw [mem_keys_iff, contains_eq_isSome, Option.isSome_iff_exists]

theorem eq_of_toList_eq {lo : Option String} {t u : Members α lo} (h : t.toList = u.toList) :
    t = u := by
  induction t with
  | nil =>
    cases u with
    | nil => rfl
    | cons => simp at h
  | cons key above value rest ih =>
    cases u with
    | nil => simp at h
    | cons key' above' value' rest' =>
      simp only [toList_cons, List.cons.injEq, Prod.mk.injEq] at h
      obtain ⟨⟨rfl, rfl⟩, h⟩ := h
      rw [ih h]

instance [DecidableEq α] : DecidableEq (Members α lo) := fun t u =>
  if h : t.toList = u.toList then isTrue (eq_of_toList_eq h)
  else isFalse fun eq => h (eq ▸ rfl)

/-- Two tables that give every key the same value are equal. -/
theorem ext_get? {lo : Option String} {t u : Members α lo} (h : ∀ k, t.get? k = u.get? k) :
    t = u := by
  apply eq_of_toList_eq
  refine List.Perm.eq_of_pairwise (fun a b _ _ h₁ h₂ => ?_) t.pairwise_toList u.pairwise_toList ?_
  · exact absurd (String.lt_trans h₁ h₂) (String.lt_irrefl _)
  · refine (List.perm_ext_iff_of_nodup (nodup_of_pairwise_fst t.pairwise_toList)
      (nodup_of_pairwise_fst u.pairwise_toList)).2 ?_
    rintro ⟨k, x⟩
    rw [mem_toList_iff, mem_toList_iff, h]

/-! ### Changes -/

@[simp] theorem get?_relax {c : String} (t : Members α (some c)) (h : ∀ b ∈ lo, b < c) :
    (t.relax h).get? k = t.get? k := by
  cases t <;> rfl

@[simp] theorem toList_relax {c : String} (t : Members α (some c)) (h : ∀ b ∈ lo, b < c) :
    (t.relax h).toList = t.toList := by
  cases t <;> rfl

theorem get?_insertAbove {lo : Option String} (t : Members α lo) (h : ∀ b ∈ lo, b < k) :
    (t.insertAbove k x h).get? l = if l = k then some x else t.get? l := by
  induction t with
  | nil => rfl
  | cons key above value rest ih =>
    rw [insertAbove]
    split
    · rfl
    · split
      · subst k
        simp only [get?_cons]
        split <;> rfl
      · next ne =>
        simp only [get?_cons, ih]
        by_cases hl : l = key
        · simp [hl, Ne.symm ne]
        · simp [hl]

theorem get?_insert (t : Table α) : (t.insert k x).get? l = if l = k then some x else t.get? l :=
  get?_insertAbove t _

@[simp] theorem get?_insert_self (t : Table α) : (t.insert k x).get? k = some x := by
  simp [get?_insert]

theorem get?_insert_of_ne (t : Table α) (h : l ≠ k) : (t.insert k x).get? l = t.get? l := by
  simp [get?_insert, h]

theorem get?_insertNew (t : Table α) :
    (t.insertNew k x).get? l = (t.get? l).or (if l = k then some x else none) := by
  unfold insertNew
  split
  · next h =>
    by_cases hl : l = k
    · subst hl
      obtain ⟨y, hy⟩ := Option.isSome_iff_exists.1 h
      simp [hy]
    · simp [hl]
  · next h =>
    rw [get?_insert]
    by_cases hl : l = k
    · subst hl
      simp [Option.not_isSome_iff_eq_none.1 h]
    · simp [hl]

theorem get?_erase {lo : Option String} (t : Members α lo) :
    (t.erase k).get? l = if l = k then none else t.get? l := by
  induction t with
  | nil => simp [erase]
  | cons key above value rest ih =>
    rw [erase]
    split
    · next h =>
      subst h
      rw [get?_relax, get?_cons]
      split
      · next h =>
        subst h
        exact get?_eq_none_of_not_lt rest rfl (String.lt_irrefl l)
      · rfl
    · next ne =>
      simp only [get?_cons, ih]
      by_cases hl : l = key
      · simp [hl, Ne.symm ne]
      · simp [hl]

/-- Nothing changes when a key is taken out that is not there. -/
theorem erase_eq_self (t : Members α lo) (h : t.get? k = none) : t.erase k = t := by
  apply ext_get?
  intro l
  rw [get?_erase]
  split
  · next eq => rw [eq, h]
  · rfl

/-! ### Properties of all values -/

/-- All values have a property. -/
def All (p : α → Prop) (t : Members α lo) : Prop :=
  ∀ k x, t.get? k = some x → p x

theorem All.empty {p : α → Prop} : All p (∅ : Table α) :=
  nofun

theorem All.insert {p : α → Prop} {t : Table α} (h : All p t) (hx : p x) : All p (t.insert k x) := by
  intro l y hy
  rw [get?_insert] at hy
  split at hy
  · exact Option.some.inj hy ▸ hx
  · exact h l y hy

theorem All.erase {p : α → Prop} {t : Members α lo} (h : All p t) : All p (t.erase k) := by
  intro l y hy
  rw [get?_erase] at hy
  split at hy
  · exact nomatch hy
  · exact h l y hy

/-! ### Lists of pairs -/

@[simp] theorem ofList_nil : (ofList [] : Table α) = ∅ := rfl

@[simp] theorem ofList_cons {e : String × α} {es : List (String × α)} :
    ofList (e :: es) = (ofList es).insertNew e.1 e.2 := rfl

/-- The value of a key is the last one that the list gives it. -/
theorem get?_ofList {es : List (String × α)} :
    (ofList es).get? k = es.reverse.lookup k := by
  induction es with
  | nil => rfl
  | cons e es ih =>
    obtain ⟨key, value⟩ := e
    rw [ofList_cons, get?_insertNew, ih, List.reverse_cons, List.lookup_append]
    congr 1
    by_cases h : k = key
    · simp [h]
    · have : (k == key) = false := by simpa using h
      simp [h, List.lookup_cons, this]

/-- What a table made of a list holds is in the list. -/
theorem mem_of_get?_ofList {es : List (String × α)} (h : (ofList es).get? k = some x) :
    (k, x) ∈ es := by
  rw [get?_ofList] at h
  obtain ⟨l, m, eq, -⟩ := List.lookup_eq_some_iff.1 h
  rw [← List.mem_reverse, eq]
  simp

theorem mem_keys_ofList_iff {es : List (String × α)} :
    k ∈ (ofList es).keys ↔ ∃ x, (k, x) ∈ es := by
  rw [mem_keys_iff]
  constructor
  · rintro ⟨x, hx⟩
    exact ⟨x, mem_of_get?_ofList hx⟩
  · rintro ⟨x, hx⟩
    rw [← Option.isSome_iff_exists, get?_ofList, List.lookup_isSome_iff]
    exact ⟨(k, x), List.mem_reverse.2 hx, by simp⟩

theorem get?_overlay (t u : Table α) : (t.overlay u).get? k = (u.get? k).or (t.get? k) := by
  have step : ∀ {lo : Option String} (u : Members α lo) (t : Table α),
      (u.toList.foldl (fun t e => t.insert e.1 e.2) t).get? k = (u.get? k).or (t.get? k) := by
    intro lo u
    induction u with
    | nil => intro t; rfl
    | cons key above value rest ih =>
      intro t
      rw [toList_cons, List.foldl_cons, ih, get?_insert, get?_cons]
      split
      · next h =>
        subst h
        simp [get?_eq_none_of_not_lt rest rfl (String.lt_irrefl k)]
      · rfl
  exact step u t

/-- Where no key stands twice, the look-up finds what is listed. -/
theorem get?_ofList_eq_some_iff {es : List (String × α)} (nodup : (es.map Prod.fst).Nodup) :
    (ofList es).get? k = some x ↔ (k, x) ∈ es := by
  have nodup' : (es.reverse.map Prod.fst).Nodup := by
    rw [List.map_reverse]
    exact List.pairwise_reverse.2 (nodup.imp Ne.symm)
  rw [get?_ofList, ← List.mem_reverse]
  generalize es.reverse = es at nodup'
  induction es with
  | nil => simp
  | cons e es ih =>
    obtain ⟨key, value⟩ := e
    simp only [List.map_cons, List.nodup_cons] at nodup'
    by_cases h : k = key
    · subst h
      have : (k, x) ∉ es := fun m => nodup'.1 (List.mem_map.2 ⟨_, m, rfl⟩)
      simp [this, eq_comm]
    · have : (k == key) = false := by simpa using h
      simp [List.lookup_cons, this, h, ih nodup'.2]

/-- The pairs of a table make the table again. -/
@[simp] theorem ofList_toList (t : Table α) : ofList t.toList = t := by
  apply ext_get?
  intro k
  apply Option.ext
  intro x
  rw [get?_ofList_eq_some_iff (nodup_of_pairwise t.pairwise_keys), mem_toList_iff]

/-- A list in ascending order of its keys is the list of the table that it makes. -/
theorem toList_ofList {es : List (String × α)} (h : (es.map Prod.fst).Pairwise (· < ·)) :
    (ofList es).toList = es := by
  have ascending : es.Pairwise fun d e => d.1 < e.1 := List.pairwise_map.1 h
  have same : (ofList es).toList.Perm es := by
    refine (List.perm_ext_iff_of_nodup (nodup_of_pairwise_fst (ofList es).pairwise_toList)
      (nodup_of_pairwise_fst ascending)).2 ?_
    rintro ⟨k, x⟩
    rw [mem_toList_iff, get?_ofList_eq_some_iff (nodup_of_pairwise h)]
  refine same.eq_of_pairwise (fun d e _ _ lt gt => ?_) (ofList es).pairwise_toList ascending
  exact absurd (String.lt_trans lt gt) (String.lt_irrefl _)

end ApiClients.Members
