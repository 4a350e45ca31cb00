import ApiClients.ErrorClass.Raised
import ApiClients.Proofs.ErrorClass.Construction

/-!
# The classes of a raised error

A namespace raises an error for any code. A declared code has its declared class, and any other code
has a class made for it, or the base class where its name is missing or taken (`Classified`). An error
is asked for its classes by their names, so what it answers depends on how names tell codes apart.
`classes_of_raise` says that they do: of the classes in the namespace an error is of the base class,
of the class with its own code, and of no other.

1. `Holds.classified`: these are all the ways in which a code comes to its class.
2. `Holds.descendsFrom_declared_iff`: a code has a declared class exactly if it is the code of it.
3. `Holds.filter_classNames`: hence the names of the classes that an error is of.
-/

namespace ApiClients

theorem ErrorClass.descendsFrom_iff {k ancestor : ErrorClass} :
    k.descendsFrom ancestor = true ↔
      k.service = ancestor.service ∧ (ancestor.isBase = true ∨ k.name = ancestor.name) := by
  simp [descendsFrom]

/-- Below a class that is not the base class lie the classes with its name. -/
theorem ErrorClass.descendsFrom_derived_iff {k : ErrorClass} {service x c : String} {d : Bool} :
    k.descendsFrom (.derived service x c d) = true ↔ k.service = service ∧ k.name = x := by
  rw [descendsFrom_iff]
  simp [isBase, ErrorClass.service, ErrorClass.name]

namespace ErrorNamespace

open ErrorClass

variable {n : ErrorNamespace} {codes : List String} {service c x : String} {k : ErrorClass}

/-- The classes that belong to a namespace: the base class, those it declares, and those that it
gives to codes. -/
inductive HasClass (n : ErrorNamespace) : ErrorClass → Prop where
  | base : HasClass n n.base
  | declared {k : ErrorClass} (h : k ∈ n.classes) : HasClass n k
  | ofCode (code : String) : HasClass n (n.classOf code)

/-- How a code comes to its class, when `codes` are declared. -/
inductive Classified (n : ErrorNamespace) (codes : List String) (c : String) : ErrorClass → Prop where
  | declared {x : String} (mem : c ∈ codes) (named : name? c = some x) :
      Classified n codes c (.derived n.service x c true)
  | made {x : String} (undeclared : c ∉ codes) (named : name? c = some x)
      (free : x ∉ n.classNames) : Classified n codes c (.derived n.service x c false)
  | base (undeclared : c ∉ codes) (taken : ∀ x, name? c = some x → x ∈ n.classNames) :
      Classified n codes c n.base

/-! ## The class of a code -/

theorem mem_classNames_iff_contains :
    x ∈ n.classNames ↔ x = baseName ∨ n.declared.contains x = true := by
  rw [classNames, List.mem_cons, Members.mem_keys_iff_contains]

/-- A code with a name has a class of its own unless the name is taken. -/
theorem undeclaredClass?_of_name (hx : name? c = some x) :
    n.undeclaredClass? c =
      if x ∈ n.classNames then none else some (.derived n.service x c false) := by
  unfold undeclaredClass?
  rw [hx]
  simp [mem_classNames_iff_contains]

section Holds

variable (h : Holds n service (ownNaming codes)) (separable : Separable codes)

include h

theorem Holds.mem_classes_iff :
    k ∈ n.classes ↔ ∃ x c, ownNaming codes x c ∧ k = .derived service x c true := by
  rw [classes, Members.mem_values_iff]
  simp only [h.declared]

theorem Holds.mem_classNames_iff : x ∈ n.classNames ↔ x = baseName ∨ ∃ k ∈ n.classes, k.name = x := by
  rw [classNames, List.mem_cons, h.mem_keys_iff]
  refine or_congr_right ⟨?_, ?_⟩
  · rintro ⟨c, hc⟩
    exact ⟨_, h.mem_classes_iff.2 ⟨x, c, hc, rfl⟩, rfl⟩
  · rintro ⟨k, hk, rfl⟩
    obtain ⟨x, c, hc, rfl⟩ := h.mem_classes_iff.1 hk
    exact ⟨c, hc⟩

include separable

theorem Holds.declaredClass?_eq_none (hc : c ∉ codes) : n.declaredClass? c = none := by
  apply Option.eq_none_iff_forall_ne_some.2
  intro k hk
  obtain ⟨x, hx, -⟩ := (h.declaredClass?_eq_some_iff separable).1 hk
  exact hc hx.1

theorem Holds.classified (c : String) : Classified n codes c (n.classOf c) := by
  by_cases hc : c ∈ codes
  · obtain ⟨x, hx⟩ := exists_name_iff.2 (separable.hasWord c hc)
    have found : n.declaredClass? c = some (.derived n.service x c true) := by
      rw [h.declaredClass?_eq_some_iff separable, h.owner]
      exact ⟨x, ⟨hc, hx⟩, rfl⟩
    have eq : n.classOf c = .derived n.service x c true := by rw [classOf, found]
    rw [eq]
    exact .declared hc hx
  · have eq : n.classOf c = (n.undeclaredClass? c).getD n.base := by
      rw [classOf, h.declaredClass?_eq_none separable hc]
    rw [eq]
    cases hx : name? c with
    | none =>
      have nothing : n.undeclaredClass? c = none := by rw [undeclaredClass?, hx]
      rw [nothing]
      exact .base hc fun x hx' => nomatch hx.symm.trans hx'
    | some x =>
      rw [undeclaredClass?_of_name hx]
      split_ifs with taken
      · refine .base hc fun y hy => ?_
        obtain rfl : x = y := Option.some.inj (hx.symm.trans hy)
        exact taken
      · exact .made hc hx taken

/-! ## Ancestry -/

theorem Holds.service_classOf (c : String) : (n.classOf c).service = service := by
  have classified := h.classified separable c
  generalize n.classOf c = k at classified
  cases classified with
  | base => rw [h.base]; rfl
  | _ => exact h.owner

theorem Holds.service_of_hasClass (hk : n.HasClass k) : k.service = service := by
  cases hk with
  | base => rw [h.base]; rfl
  | declared hk =>
    obtain ⟨x, c, -, rfl⟩ := h.mem_classes_iff.1 hk
    rfl
  | ofCode code => exact h.service_classOf separable code

theorem Holds.descendsFrom_base (c : String) : (n.classOf c).descendsFrom n.base = true := by
  rw [descendsFrom_iff, h.service_classOf separable, h.base]
  exact ⟨rfl, .inl rfl⟩

/-- The names of declared classes are all different and none is that of the base class. A class made
for a code has yet another name, so names decide as codes do. -/
theorem Holds.descendsFrom_declared_iff (hk : k ∈ n.classes) :
    (n.classOf c).descendsFrom k = true ↔ k.code? = some c := by
  obtain ⟨y, d, hd, rfl⟩ := h.mem_classes_iff.1 hk
  have taken : y ∈ n.classNames := h.mem_classNames_iff.2 (.inr ⟨_, hk, rfl⟩)
  have code : (ErrorClass.derived service y d true).code? = some c ↔ d = c := by simp [code?]
  rw [descendsFrom_derived_iff, and_iff_right (h.service_classOf separable c), code]
  have classified := h.classified separable c
  generalize n.classOf c = j at classified
  cases classified with
  | @declared x mem named =>
    show x = y ↔ d = c
    constructor
    · rintro rfl
      exact separable.injective d hd.1 c mem (hd.2.trans named.symm)
    · rintro rfl
      exact Option.some.inj (named.symm.trans hd.2)
  | @made x undeclared named free =>
    have other_name : x ≠ y := fun eq => free (eq ▸ taken)
    have other_code : d ≠ c := fun eq => undeclared (eq ▸ hd.1)
    exact ⟨fun eq => absurd eq other_name, fun eq => absurd eq other_code⟩
  | base undeclared =>
    have other_name : n.base.name ≠ y := by
      rw [h.base]
      rintro rfl
      exact separable.not_base d hd.1 hd.2
    have other_code : d ≠ c := fun eq => undeclared (eq ▸ hd.1)
    exact ⟨fun eq => absurd eq other_name, fun eq => absurd eq other_code⟩

/-- The names of the classes that a code has, among all names. -/
theorem Holds.filter_classNames (c : String) :
    n.classNames.filter (fun x => (n.class? x).any (n.classOf c).descendsFrom) =
      baseName :: ((n.declaredClass? c).map name).toList := by
  have first : (n.class? baseName).any (n.classOf c).descendsFrom = true := by
    rw [class?, if_pos rfl]
    exact h.descendsFrom_base separable c
  rw [classNames, List.filter_cons, if_pos first]
  congr 1
  refine Text.Ascending.eq_of_mem_iff ?_ ?_ fun x => ?_
  · exact Text.ascending_iff.2 (n.declared.pairwise_keys.filter _)
  · rw [Text.ascending_iff]
    cases n.declaredClass? c <;> simp
  rw [List.mem_filter, h.mem_keys_iff, Option.mem_toList, Option.map_eq_some_iff]
  constructor
  · rintro ⟨⟨d, hd⟩, below⟩
    have hk : .derived service x d true ∈ n.classes := h.mem_classes_iff.2 ⟨x, d, hd, rfl⟩
    rw [h.class?_eq separable hd, Option.any_some, h.descendsFrom_declared_iff separable hk] at below
    obtain rfl : d = c := Option.some.inj below
    exact ⟨_, (h.declaredClass?_eq_some_iff separable).2 ⟨x, hd, rfl⟩, rfl⟩
  · rintro ⟨k, found, rfl⟩
    obtain ⟨x, hx, rfl⟩ := (h.declaredClass?_eq_some_iff separable).1 found
    have hk : .derived service x c true ∈ n.classes := h.mem_classes_iff.2 ⟨x, c, hx, rfl⟩
    refine ⟨⟨c, hx⟩, ?_⟩
    show (n.class? x).any (n.classOf c).descendsFrom = true
    rw [h.class?_eq separable hx, Option.any_some, h.descendsFrom_declared_iff separable hk]
    rfl

/-- A code that is not declared has the base class exactly if its name is missing or taken. -/
theorem Holds.classOf_eq_base_iff (hc : c ∉ codes) :
    n.classOf c = n.base ↔
      name? c = none ∨ name? c = some baseName ∨ ∃ k ∈ n.classes, name? c = some k.name := by
  have taken_iff : (∀ x, name? c = some x → x ∈ n.classNames) ↔
      name? c = none ∨ name? c = some baseName ∨ ∃ k ∈ n.classes, name? c = some k.name := by
    cases name? c with
    | none => simp
    | some x => simp [h.mem_classNames_iff, eq_comm]
  rw [← taken_iff]
  have classified := h.classified separable c
  generalize n.classOf c = k at classified
  cases classified with
  | declared mem => exact absurd mem hc
  | @made x _ named free =>
    rw [h.base]
    exact ⟨nofun, fun taken => absurd (taken x named) free⟩
  | base _ taken => exact ⟨fun _ => taken, fun _ => rfl⟩

theorem Holds.classOf_of_undeclared (hc : c ∉ codes) :
    n.classOf c = n.base ∨ ∃ x, x ∉ n.classNames ∧ n.classOf c = .derived service x c false := by
  have classified := h.classified separable c
  generalize n.classOf c = k at classified
  cases classified with
  | declared mem => exact absurd mem hc
  | made _ _ free => exact .inr ⟨_, free, by rw [h.owner]⟩
  | base => exact .inl rfl

end Holds

/-! ## Raised errors -/

theorem holds_of_ofApi {a : Api} (h : ofApi service a = .ok n) :
    Separable a.errorCodes ∧ Holds n service (ownNaming a.errorCodes) :=
  holds_of_ofCodes a.pairwise_errorCodes h

/-- The classes of an error that a namespace raises for a code. The code and what else is known of the
error are kept. Of the classes in the namespace the error is of the base class and of the one with its
code. If the code is not declared, its class is a new one, or the base class where a new one would have
no name or the name of another. The error is of no class of another service. -/
theorem classes_of_raise {a : Api} (h : ofApi service a = .ok n) (code text : String)
    (context : CallContext) :
    let e := n.raise code text context
    (e.code = code ∧ e.text = text ∧ e.context = context) ∧
    e.isA n.base = true ∧
    (∀ k ∈ n.classes, e.isA k = true ↔ k.code? = some code) ∧
    n.classNames.filter (fun x => (n.class? x).any e.isA) =
      baseName :: ((n.declaredClass? code).map name).toList ∧
    ((n.declaredClass? code).isSome = true ↔ code ∈ a.errorCodes) ∧
    (code ∉ a.errorCodes →
      (e.errorClass = n.base ∨
        ∃ x, x ∉ n.classNames ∧ e.errorClass = .derived service x code false) ∧
      (e.errorClass = n.base ↔ name? code = none ∨ name? code = some baseName ∨
        ∃ k ∈ n.classes, name? code = some k.name)) ∧
    ∀ other b m, other ≠ service → ofApi other b = .ok m →
      ∀ k, m.HasClass k → e.isA k = false := by
  intro e
  obtain ⟨separable, holds⟩ := holds_of_ofApi h
  refine ⟨⟨rfl, rfl, rfl⟩, holds.descendsFrom_base separable code,
    fun k => holds.descendsFrom_declared_iff separable, holds.filter_classNames separable code,
    (holds.covers separable a.pairwise_errorCodes).isSome_iff code, fun undeclared => ⟨?_, ?_⟩,
    fun other b m ne hm k hk => ?_⟩
  · exact holds.classOf_of_undeclared separable undeclared
  · exact holds.classOf_eq_base_iff separable undeclared
  · obtain ⟨separable', holds'⟩ := holds_of_ofApi hm
    have apart : e.errorClass.service ≠ k.service := by
      rw [holds'.service_of_hasClass separable' hk]
      exact fun eq => ne (eq.symm.trans (holds.service_classOf separable code))
    rw [Bool.eq_false_iff]
    exact fun below => apart (descendsFrom_iff.1 below).1

/-- The code `foo-bar` would give the name that the class of `Foo.Bar` has, so its errors are of the
base class alone. They are not of the class of `Foo.Bar` in another service either. -/
theorem classes_of_raise_foo_bar :
    let a : Api := ⟨.ofList [("shapes",
      .ofMembers [("Foo.Bar", .ofMembers [("exception", .bool true)])])], 0⟩
    let n (service : String) : ErrorNamespace :=
      { service, names := .ofList [("Foo.Bar", "FooBar")],
        declared := .ofList [("FooBar", .derived service "FooBar" "Foo.Bar" true)] }
    let k : ErrorClass := .derived "T" "FooBar" "Foo.Bar" true
    let e := (n "S").raise "foo-bar" "no bar" ⟨"S", "Op", .null⟩
    ofApi "S" a = .ok (n "S") ∧ ofApi "T" a = .ok (n "T") ∧ (n "T").HasClass k ∧
      "foo-bar" ∉ a.errorCodes ∧ name? "foo-bar" = some "FooBar" ∧
      e.errorClass = (n "S").base ∧
      (n "S").classNames.filter (fun x => ((n "S").class? x).any e.isA) = [baseName] ∧
      e.isA k = false := by
  intro a n k e
  have made : ofApi "S" a = .ok (n "S") := by decide +kernel
  have other : ofApi "T" a = .ok (n "T") := by decide +kernel
  have undeclared : "foo-bar" ∉ a.errorCodes := by decide +kernel
  have foreign : (n "T").HasClass k := .declared (by decide)
  have named : name? "foo-bar" = some "FooBar" := by decide +kernel
  obtain ⟨-, -, -, names, -, unlisted, apart⟩ :=
    classes_of_raise made "foo-bar" "no bar" ⟨"S", "Op", .null⟩
  refine ⟨made, other, foreign, undeclared, named, ?_, names, apart "T" a _ (by decide) other k foreign⟩
  exact (unlisted undeclared).2.2 (.inr (.inr ⟨.derived "S" "FooBar" "Foo.Bar" true, by decide, named⟩))

end ErrorNamespace

end ApiClients
