import ApiClients.ErrorClass.Namespace
import ApiClients.Proofs.ErrorClass.Naming
import ApiClients.Proofs.Text.ByteOrder

/-!
# Codes in groups

The first loop that makes an error namespace groups the codes by their names. It stops at the least
code without a name, and otherwise each group holds the codes of one name (`groupedAs_group`). Whether
all codes can have classes of their own (`Separable`) is then a matter of the groups: a name that its
codes cannot all have (`Offends`) is that of a group which is a collision (`Grouped.offends_iff`).

`groupedAs_foldlM` carries what is known of the codes so far through the loop.
-/

namespace ApiClients.ErrorNamespace

open ErrorClass

variable {groups : Table (List String)} {codes l : List String} {c x : String}

/-! ## What the codes decide -/

/-- Every code has a name of its own, and it is not the name of the base class. -/
structure Separable (codes : List String) : Prop where
  hasWord : ∀ c ∈ codes, HasWord c
  injective : ∀ c ∈ codes, ∀ d ∈ codes, name? c = name? d → c = d
  not_base : ∀ c ∈ codes, name? c ≠ some baseName

/-- A name that its codes cannot all have: it is that of the base class, or there are several. -/
def Offends (codes : List String) (x : String) : Prop :=
  ∃ c ∈ codes, name? c = some x ∧ (x = baseName ∨ ∃ d ∈ codes, d ≠ c ∧ name? d = some x)

/-! ## The first loop -/

/-- Under each name that codes have stand the codes with this name, in their order. -/
def Grouped (groups : Table (List String)) (codes : List String) : Prop :=
  ∀ x l, groups.get? x = some l ↔ l ≠ [] ∧ l = codes.filter (name? · == some x)

theorem Grouped.getD (h : Grouped groups codes) :
    (groups.get? x).getD [] = codes.filter (name? · == some x) := by
  cases hg : groups.get? x with
  | some l => exact ((h x l).1 hg).2
  | none =>
    by_contra ne
    rw [(h x _).2 ⟨Ne.symm ne, rfl⟩] at hg
    exact nomatch hg

/-- A code with a name joins the codes that have it. -/
theorem Grouped.insert (h : Grouped groups codes) (hx : name? c = some x) :
    Grouped (groups.insert x ((groups.get? x).getD [] ++ [c])) (codes ++ [c]) := by
  intro y l
  rw [Members.get?_insert, List.filter_append]
  split_ifs with hy
  · subst hy
    have joins : [c].filter (name? · == some y) = [c] := by simp [hx]
    rw [joins, h.getD, Option.some.injEq]
    constructor
    · rintro rfl
      simp
    · exact fun ⟨_, eq⟩ => eq.symm
  · have apart : [c].filter (name? · == some y) = [] := by simp [hx, Ne.symm hy]
    rw [apart, List.append_nil, h y l]

/-- What grouping comes to: the least code without a name, or all codes by their names. -/
def GroupedAs (codes : List String) : Except NamespaceError (Table (List String)) → Prop
  | .error e => ∃ c, e = .unnamed c ∧ Text.Least (fun c => c ∈ codes ∧ ¬ HasWord c) c
  | .ok groups => (∀ c ∈ codes, HasWord c) ∧ Grouped groups codes

/-- The induction is on the codes that are still to come; those seen all have names. -/
theorem groupedAs_foldlM {seen : List String} (rest : List String)
    (ascending : (seen ++ rest).Pairwise (· < ·)) (named : ∀ c ∈ seen, HasWord c)
    (grouped : Grouped groups seen) :
    GroupedAs (seen ++ rest) (rest.foldlM addCode groups) := by
  induction rest generalizing seen groups with
  | nil =>
    rw [List.append_nil]
    exact ⟨named, grouped⟩
  | cons c rest ih =>
    rw [List.foldlM_cons]
    cases hc : name? c with
    | none =>
      have refused : addCode groups c = .error (.unnamed c) := by rw [addCode, hc]
      rw [refused]
      refine ⟨c, rfl, Text.least_iff.2 ⟨⟨by simp, name?_eq_none_iff.1 hc⟩, ?_⟩⟩
      rintro d ⟨hd, unnamed⟩ ne
      have later : d ∈ rest := by
        rcases List.mem_append.1 hd with h | h
        · exact absurd (named d h) unnamed
        · exact (List.mem_cons.1 h).resolve_left ne
      exact (List.pairwise_cons.1 (List.pairwise_append.1 ascending).2.1).1 d later
    | some x =>
      have added : addCode groups c = .ok (groups.insert x ((groups.get? x).getD [] ++ [c])) := by
        rw [addCode, hc]
      rw [added, List.append_cons]
      refine ih (by rwa [← List.append_cons]) ?_ (grouped.insert hc)
      intro d hd
      rcases List.mem_append.1 hd with h | h
      · exact named d h
      · rw [List.mem_singleton.1 h]
        exact exists_name_iff.1 ⟨x, hc⟩

theorem groupedAs_group (ascending : codes.Pairwise (· < ·)) : GroupedAs codes (group codes) := by
  have empty : Grouped ∅ [] := by simp [Grouped]
  show GroupedAs ([] ++ codes) _
  exact groupedAs_foldlM codes ascending (by simp) empty

/-! ## Collisions -/

theorem isCollision_iff : isCollision x l = true ↔ x = baseName ∨ 1 < l.length := by
  simp [isCollision]

theorem eq_singleton_of_not_isCollision (hl : l ≠ []) (h : isCollision x l = false) :
    ∃ c, l = [c] := by
  have short : ¬ 1 < l.length := fun gt => by simp [isCollision_iff.2 (.inr gt)] at h
  have pos : 0 < l.length := List.length_pos_iff.2 hl
  exact List.length_eq_one_iff.1 (by omega)

theorem Grouped.proper (h : Grouped groups codes) (hx : groups.get? x = some l) :
    l ≠ [] ∧ ∀ c ∈ l, name? c = some x := by
  obtain ⟨not_nil, rfl⟩ := (h x l).1 hx
  exact ⟨not_nil, fun c hc => by simpa using (List.mem_filter.1 hc).2⟩

theorem Grouped.mem_iff (h : Grouped groups codes) (hx : groups.get? x = some l) :
    c ∈ l ↔ c ∈ codes ∧ name? c = some x := by
  obtain ⟨-, rfl⟩ := (h x l).1 hx
  simp

/-- A code with a name lies in a group. -/
theorem Grouped.exists_mem (h : Grouped groups codes) (hc : c ∈ codes) (hx : name? c = some x) :
    ∃ l, groups.get? x = some l ∧ c ∈ l := by
  have mem : c ∈ codes.filter (name? · == some x) := by simp [hc, hx]
  exact ⟨_, (h x _).2 ⟨List.ne_nil_of_mem mem, rfl⟩, mem⟩

theorem Grouped.ascending (h : Grouped groups codes) (ascending : codes.Pairwise (· < ·))
    (hx : groups.get? x = some l) : l.Pairwise (· < ·) := by
  obtain ⟨-, rfl⟩ := (h x l).1 hx
  exact ascending.filter _

/-- The names that their codes cannot all have are those of the groups that are collisions. -/
theorem Grouped.offends_iff (h : Grouped groups codes) (ascending : codes.Pairwise (· < ·)) :
    Offends codes x ↔ ∃ l, groups.get? x = some l ∧ isCollision x l = true := by
  constructor
  · rintro ⟨c, hc, hx, reason⟩
    obtain ⟨l, hl, mem⟩ := h.exists_mem hc hx
    refine ⟨l, hl, isCollision_iff.2 (reason.imp_right ?_)⟩
    rintro ⟨d, hd, ne, hxd⟩
    have mem_d : d ∈ l := (h.mem_iff hl).2 ⟨hd, hxd⟩
    match l, mem, mem_d with
    | [e], mem, mem_d =>
      rw [List.mem_singleton] at mem mem_d
      exact absurd (mem_d.trans mem.symm) ne
    | _ :: _ :: _, _, _ => simp
  · rintro ⟨l, hl, collision⟩
    have members : ∀ c ∈ l, c ∈ codes ∧ name? c = some x := fun c => (h.mem_iff hl).1
    have ascending_l := h.ascending ascending hl
    match l, (h.proper hl).1, isCollision_iff.1 collision with
    | c :: _, _, .inl base =>
      obtain ⟨hc, hx⟩ := members c (by simp)
      exact ⟨c, hc, hx, .inl base⟩
    | c :: d :: _, _, .inr _ =>
      obtain ⟨hc, hx⟩ := members c (by simp)
      obtain ⟨hd, hxd⟩ := members d (by simp)
      have lt : c < d := (List.pairwise_cons.1 ascending_l).1 d (by simp)
      have ne : d ≠ c := by
        rintro rfl
        exact String.lt_irrefl d lt
      exact ⟨c, hc, hx, .inr ⟨d, hd, ne, hxd⟩⟩
    | [_], _, .inr long => exact absurd long (by simp)

/-- Groups that are no collisions hold one code each. -/
theorem Grouped.get?_eq_singleton_iff (h : Grouped groups codes)
    (singles : ∀ x l, groups.get? x = some l → isCollision x l = false) :
    groups.get? x = some [c] ↔ c ∈ codes ∧ name? c = some x := by
  constructor
  · intro hg
    exact (h.mem_iff hg).1 (by simp)
  · rintro ⟨hc, hx⟩
    obtain ⟨l, hl, mem⟩ := h.exists_mem hc hx
    obtain ⟨d, rfl⟩ := eq_singleton_of_not_isCollision (h.proper hl).1 (singles x l hl)
    rw [List.mem_singleton.1 mem, hl]

/-- Codes can have classes of their own exactly if all have names and no name offends. -/
theorem separable_iff :
    Separable codes ↔ (∀ c ∈ codes, HasWord c) ∧ ∀ x, ¬ Offends codes x := by
  constructor
  · intro h
    refine ⟨h.hasWord, ?_⟩
    rintro x ⟨c, hc, hx, rfl | ⟨d, hd, ne, hxd⟩⟩
    · exact h.not_base c hc hx
    · exact ne (h.injective d hd c hc (hxd.trans hx.symm))
  · rintro ⟨hasWord, none_offends⟩
    refine ⟨hasWord, fun c hc d hd eq => ?_, fun c hc hx => ?_⟩
    · by_contra ne
      obtain ⟨x, hx⟩ := exists_name_iff.2 (hasWord c hc)
      exact none_offends x ⟨c, hc, hx, .inr ⟨d, hd, Ne.symm ne, eq ▸ hx⟩⟩
    · exact none_offends baseName ⟨c, hc, hx, .inl rfl⟩

end ApiClients.ErrorNamespace
