import ApiClients.Proofs.ErrorClass.Classification

/-!
# Ancestry

A class descends from another by service and name, and it lists the qualified names of its ancestors.
Both come to the same for the classes of services (`OfService`), since a qualified name can be taken
apart again: names of classes have no colon, so the last colon of a qualified name is the one in front
of the name, whatever colons the service has (`qualify_inj`).

1. `colon_not_mem_name`: capitals bring no colon into a name.
2. `OfService.wellNamed`: the names of all classes are without colons, and that of the base is kept for
   the base.
3. `mem_ancestors_iff`: hence the listing names what a class descends from.
-/

namespace ApiClients

/-! ## Names without colons -/

namespace ErrorClass

variable {code x y s t : String}

theorem colon_not_mem_capitalized {w : List Char} (h : ∀ c ∈ w, Text.isAlphanumeric c = true) :
    ':' ∉ capitalized w := by
  have other : ∀ c ∈ w, c ≠ ':' := by
    rintro c hc rfl
    exact absurd (h ':' hc) (by decide)
  cases w with
  | nil => simp [capitalized]
  | cons c rest =>
    intro mem
    rcases List.mem_append.1 mem with first | later
    · exact other c (by simp) (Text.eq_colon_of_mem_capital first)
    · exact other ':' (by simp [later]) rfl

theorem colon_not_mem_nameChars (s : List Char) : ':' ∉ nameChars s := by
  have plain : ':' ∉ joined s := by
    intro mem
    obtain ⟨w, hw, mem⟩ := List.mem_flatMap.1 mem
    exact colon_not_mem_capitalized ((Text.runs_iff.2 rfl).isAlphanumeric w hw) mem
  unfold nameChars
  split
  · simp
  · next c rest eq =>
    rw [eq] at plain
    split
    · exact plain
    · intro mem
      rcases List.mem_append.1 mem with led | later
      · exact absurd led (by decide)
      · exact plain later

/-- No name has a colon. -/
theorem colon_not_mem_name (h : name? code = some x) : ':' ∉ x.toList := by
  unfold name? at h
  split at h
  · exact nomatch h
  · obtain rfl := Option.some.inj h
    rw [String.toList_ofList]
    exact colon_not_mem_nameChars _

/-! ## Qualified names -/

theorem eq_nil_of_cons_colon {m p q : List Char} (hp : ':' ∉ p) (h : ':' :: p = m ++ ':' :: q) :
    m = [] ∧ p = q := by
  cases m with
  | nil => exact ⟨rfl, (List.cons.inj h).2⟩
  | cons c m =>
    have later : p = m ++ ':' :: q := (List.cons.inj h).2
    simp [later] at hp

/-- A text is known from what stands before its last colon and behind it. -/
theorem append_colon_inj {u v p q : List Char} (hp : ':' ∉ p) (hq : ':' ∉ q)
    (h : u ++ ':' :: p = v ++ ':' :: q) : u = v ∧ p = q := by
  rcases List.append_eq_append_iff.1 h with ⟨m, rfl, eq⟩ | ⟨m, rfl, eq⟩
  · obtain ⟨rfl, same⟩ := eq_nil_of_cons_colon hp eq
    exact ⟨(List.append_nil u).symm, same⟩
  · obtain ⟨rfl, same⟩ := eq_nil_of_cons_colon hq eq
    exact ⟨List.append_nil v, same.symm⟩

theorem toList_qualify (s x : String) :
    (qualify s x).toList = (s.toList ++ "::Errors:".toList) ++ ':' :: x.toList := by
  simp [qualify]

theorem qualify_inj (hx : ':' ∉ x.toList) (hy : ':' ∉ y.toList) :
    qualify s x = qualify t y ↔ s = t ∧ x = y := by
  constructor
  · intro h
    have chars := congrArg String.toList h
    rw [toList_qualify, toList_qualify] at chars
    obtain ⟨front, back⟩ := append_colon_inj hx hy chars
    exact ⟨String.toList_inj.1 (List.append_cancel_right front), String.toList_inj.1 back⟩
  · rintro ⟨rfl, rfl⟩
    rfl

/-- No qualified name is one of the names that all services have in common. -/
theorem toList_qualify_ne {p q : List Char} (hx : ':' ∉ x.toList) (hq : ':' ∉ q)
    (other : ¬ "::Errors:".toList <:+ p) : (qualify s x).toList ≠ p ++ ':' :: q := by
  intro h
  rw [toList_qualify] at h
  obtain ⟨front, -⟩ := append_colon_inj hx hq h
  exact other ⟨_, front⟩

theorem qualify_ne_commonAncestor (hx : ':' ∉ x.toList) : qualify s x ≠ commonAncestor := by
  intro h
  have chars : (qualify s x).toList = "stratus::errors:".toList ++ ':' :: "ServiceError".toList := by
    rw [h]
    decide
  exact toList_qualify_ne hx (by decide) (by decide) chars

theorem qualify_ne_rootAncestor (hx : ':' ∉ x.toList) : qualify s x ≠ rootAncestor := by
  intro h
  have chars : (qualify s x).toList = "std::error:".toList ++ ':' :: "Error".toList := by
    rw [h]
    decide
  exact toList_qualify_ne hx (by decide) (by decide) chars

/-! ## Well-named classes -/

/-- The name of a class has no colon, and it is the name of the base only for the base. -/
structure WellNamed (k : ErrorClass) : Prop where
  no_colon : ':' ∉ k.name.toList
  reserved : k.name = baseName ↔ k.isBase = true

theorem wellNamed_base (s : String) : (base s).WellNamed where
  no_colon := by
    show ':' ∉ baseName.toList
    decide
  reserved := by simp [name, isBase]

theorem wellNamed_derived {d : Bool} (named : name? code = some x) (free : x ≠ baseName) :
    (derived s x code d).WellNamed where
  no_colon := colon_not_mem_name named
  reserved := by simp [name, isBase, free]

section WellNamed

variable {k l m : ErrorClass}

/-- The ancestors of a class are listed under their qualified names, and nothing else has such a name. -/
theorem mem_ancestors_iff (hk : k.WellNamed) (hl : l.WellNamed) :
    l.qualifiedName ∈ k.ancestors ↔ k.descendsFrom l = true := by
  have listed : l.qualifiedName ∈ k.ancestors ↔
      l.qualifiedName = k.qualifiedName ∨
        k.isBase = false ∧ l.qualifiedName = qualify k.service baseName := by
    have common : l.qualifiedName ≠ commonAncestor := qualify_ne_commonAncestor hl.no_colon
    have root : l.qualifiedName ≠ rootAncestor := qualify_ne_rootAncestor hl.no_colon
    cases hb : k.isBase <;> simp [ancestors, hb, common, root]
  have base_colon : ':' ∉ baseName.toList := by decide
  rw [listed, qualifiedName, qualifiedName, qualify_inj hl.no_colon hk.no_colon,
    qualify_inj hl.no_colon base_colon, descendsFrom_iff, hl.reserved]
  constructor
  · rintro (⟨owner, same⟩ | ⟨-, owner, base⟩)
    · exact ⟨owner.symm, .inr same.symm⟩
    · exact ⟨owner.symm, .inl base⟩
  · rintro ⟨owner, base | same⟩
    · cases hb : k.isBase with
      | true => exact .inl ⟨owner.symm, (hl.reserved.2 base).trans (hk.reserved.2 hb).symm⟩
      | false => exact .inr ⟨rfl, owner.symm, base⟩
    · exact .inl ⟨owner.symm, same.symm⟩

theorem descendsFrom_refl (k : ErrorClass) : k.descendsFrom k = true :=
  descendsFrom_iff.2 ⟨rfl, .inr rfl⟩

theorem descendsFrom_trans (hl : l.WellNamed) (hm : m.WellNamed) (below : k.descendsFrom l = true)
    (above : l.descendsFrom m = true) : k.descendsFrom m = true := by
  rw [descendsFrom_iff] at below above ⊢
  obtain ⟨owner, below⟩ := below
  obtain ⟨owner', above⟩ := above
  refine ⟨owner.trans owner', ?_⟩
  rcases above with base | same
  · exact .inl base
  · rcases below with base | same'
    -- What is above the base has the name of the base, so it is the base.
    · exact .inl (hm.reserved.1 (same.symm.trans (hl.reserved.2 base)))
    · exact .inr (same'.trans same)

theorem base_descendsFrom (hk : k.WellNamed) (hl : l.WellNamed) (base : k.isBase = true)
    (derived : l.isBase = false) : k.descendsFrom l = false := by
  rw [Bool.eq_false_iff]
  intro below
  have is_base : l.isBase = true := by
    rcases (descendsFrom_iff.1 below).2 with is_base | same
    · exact is_base
    · exact hl.reserved.1 (same.symm.trans (hk.reserved.2 base))
  exact nomatch derived.symm.trans is_base

end WellNamed

/-- The class belongs to a namespace that is made for the service. -/
def OfService (k : ErrorClass) (service : String) : Prop :=
  ∃ a n, ErrorNamespace.ofApi service a = .ok n ∧ n.HasClass k

end ErrorClass

/-! ## The classes of namespaces -/

namespace ErrorNamespace

open ErrorClass

variable {n : ErrorNamespace} {codes : List String} {service : String} {k : ErrorClass}

theorem Holds.wellNamed (h : Holds n service (ownNaming codes)) (separable : Separable codes)
    (hk : n.HasClass k) : k.WellNamed := by
  have base : n.base.WellNamed := by
    rw [h.base]
    exact wellNamed_base service
  have not_base {x c : String} (hc : c ∈ codes) (named : name? c = some x) : x ≠ baseName := by
    rintro rfl
    exact separable.not_base c hc named
  cases hk with
  | base => exact base
  | declared hk =>
    obtain ⟨x, c, ⟨hc, named⟩, rfl⟩ := h.mem_classes_iff.1 hk
    exact wellNamed_derived named (not_base hc named)
  | ofCode code =>
    have classified := h.classified separable code
    generalize n.classOf code = k at classified
    cases classified with
    | declared mem named => exact wellNamed_derived named (not_base mem named)
    | made _ named free =>
      refine wellNamed_derived named ?_
      rintro rfl
      exact free (h.mem_classNames_iff.2 (.inl rfl))
    | base => exact base

end ErrorNamespace

namespace ErrorClass

variable {k : ErrorClass} {s : String}

theorem OfService.service_eq (h : k.OfService s) : k.service = s := by
  obtain ⟨a, n, made, hk⟩ := h
  obtain ⟨separable, holds⟩ := ErrorNamespace.holds_of_ofApi made
  exact holds.service_of_hasClass separable hk

theorem OfService.wellNamed (h : k.OfService s) : k.WellNamed := by
  obtain ⟨a, n, made, hk⟩ := h
  obtain ⟨separable, holds⟩ := ErrorNamespace.holds_of_ofApi made
  exact holds.wellNamed separable hk

/-- A class of a service descends from another one, of any service, exactly if it lists the qualified
name of that one among its ancestors. Then both are of the same service. No base descends from a class
below a base. Descent is reflexive and transitive. -/
theorem descends_as_listed :
    (∀ k l s t, OfService k s → OfService l t →
      (k.descendsFrom l = true ↔ l.qualifiedName ∈ k.ancestors) ∧
      (s ≠ t → k.descendsFrom l = false) ∧
      (k.isBase = true → l.isBase = false → k.descendsFrom l = false)) ∧
    (∀ k s, OfService k s → k.descendsFrom k = true) ∧
    ∀ k l m s t u, OfService k s → OfService l t → OfService m u →
      k.descendsFrom l = true → l.descendsFrom m = true → k.descendsFrom m = true := by
  refine ⟨fun k l s t hk hl => ⟨?_, fun apart => ?_, ?_⟩, fun k s _ => descendsFrom_refl k,
    fun k l m s t u _ hl hm => descendsFrom_trans hl.wellNamed hm.wellNamed⟩
  · exact (mem_ancestors_iff hk.wellNamed hl.wellNamed).symm
  · rw [Bool.eq_false_iff]
    intro below
    have owner : k.service = l.service := (descendsFrom_iff.1 below).1
    rw [hk.service_eq, hl.service_eq] at owner
    exact apart owner
  · exact base_descendsFrom hk.wellNamed hl.wellNamed

/-- The classes of `foo` and `Foo` in the service `S`, and the base of a service with a longer name. -/
theorem descends_as_listed_foo :
    let n (service : String) : ErrorNamespace := { service }
    let foo := (n "S").classOf "foo"
    let other := (n "S").classOf "Foo"
    let base := (n "S::Errors::Foo").base
    foo.OfService "S" ∧ other.OfService "S" ∧ (n "S").base.OfService "S" ∧
      base.OfService "S::Errors::Foo" ∧
      "S::Errors::Foo" ∈ foo.ancestors ∧ foo.descendsFrom other = true ∧
      other.descendsFrom (n "S").base = true ∧ foo.descendsFrom (n "S").base = true ∧
      (n "S").base.descendsFrom foo = false ∧ foo.descendsFrom foo = true ∧
      foo.descendsFrom base = false := by
  intro n foo other base
  have made : ErrorNamespace.ofApi "S" ⟨∅, 0⟩ = .ok (n "S") := by decide +kernel
  have longer : ErrorNamespace.ofApi "S::Errors::Foo" ⟨∅, 0⟩ = .ok (n "S::Errors::Foo") := by
    decide +kernel
  have hfoo : foo.OfService "S" := ⟨_, _, made, .ofCode "foo"⟩
  have hother : other.OfService "S" := ⟨_, _, made, .ofCode "Foo"⟩
  have hbase : (n "S").base.OfService "S" := ⟨_, _, made, .base⟩
  have hlonger : base.OfService "S::Errors::Foo" := ⟨_, _, longer, .base⟩
  have listed : "S::Errors::Foo" ∈ foo.ancestors := by decide +kernel
  have named : other.qualifiedName = "S::Errors::Foo" := by decide +kernel
  have top : other.descendsFrom (n "S").base = true := by decide +kernel
  have derived : foo.isBase = false := by decide +kernel
  obtain ⟨related, refl, trans⟩ := descends_as_listed
  have below : foo.descendsFrom other = true := by
    rw [(related foo other "S" "S" hfoo hother).1, named]
    exact listed
  exact ⟨hfoo, hother, hbase, hlonger, listed, below, top,
    trans foo other _ "S" "S" "S" hfoo hother hbase below top,
    (related _ foo "S" "S" hbase hfoo).2.2 rfl derived, refl foo "S" hfoo,
    (related foo base "S" "S::Errors::Foo" hfoo hlonger).2.1 (by decide)⟩

end ErrorClass

end ApiClients
