import ApiClients.Proofs.Api.Definition
import Mathlib.Logic.ExistsUnique

/-!
# Error codes of a definition

An API declares error codes in two places of its definition: with the shapes that are marked as
exceptions (`Marks`), and with the references of its operations (`RefersTo`). Either place gives the
name of a shape, and the name stands for a code (`StandsFor`), whether there is such a shape or not.

1. `codeOf_eq_iff`: the code of a shape is the one that its name stands for.
2. `mem_exceptionCodes_iff`, `mem_referencedCodes_iff`: the two places.
3. `lists_iff`: the references of one operation, one by one.
4. `errorCodes_from_definition`: the error codes of the API and those of each operation.
-/

namespace ApiClients.Api

variable {a : Api} {name code : String} {shape : Table Json} {ref : Json} {items : List Json}
  {codes : List String}

/-! ## Shapes and their codes -/

/-- The object that stands under a name in the section of shapes. -/
def HasShape (a : Api) (name : String) (shape : Table Json) : Prop :=
  ∃ shapes, a.definition.get? "shapes" = some (.object shapes) ∧
    shapes.get? name = some (.object shape)

/-- The member `error` of a shape is an object with this text for its code. -/
def DeclaresCode (shape : Table Json) (code : String) : Prop :=
  ∃ error, shape.get? "error" = some (.object error) ∧ error.get? "code" = some (.string code)

/-- The name of a shape stands for the code that the shape declares, and else for itself. -/
inductive StandsFor (a : Api) (name : String) : String → Prop where
  | declared {shape : Table Json} {code : String} (there : a.HasShape name shape)
      (declares : DeclaresCode shape code) : StandsFor a name code
  | itself (none : ∀ shape code, a.HasShape name shape → ¬ DeclaresCode shape code) :
      StandsFor a name name

theorem hasShape_iff : a.HasShape name shape ↔ a.shape? name = some shape :=
  shape?_eq_some_iff.symm

theorem HasShape.codeOf_eq (h : a.HasShape name shape) : a.codeOf name = codeOfShape name shape := by
  rw [codeOf, hasShape_iff.1 h]

theorem DeclaresCode.codeOfShape_eq (h : DeclaresCode shape code) : codeOfShape name shape = code := by
  obtain ⟨error, he, hc⟩ := h
  simp [codeOfShape, he, hc, Json.member?, Json.asObject?, Json.asString?]

theorem codeOfShape_of_none (h : ∀ code, ¬ DeclaresCode shape code) : codeOfShape name shape = name := by
  unfold codeOfShape
  cases hc : ((shape.get? "error").bind (·.member? "code")).bind Json.asString? with
  | none => rfl
  | some code =>
    simp only [Json.member?, Option.bind_eq_some_iff, Json.asObject?_eq_some_iff,
      Json.asString?_eq_some_iff] at hc
    obtain ⟨_, ⟨_, he, error, rfl, hc⟩, rfl⟩ := hc
    exact absurd ⟨error, he, hc⟩ (h code)

theorem StandsFor.codeOf_eq (h : a.StandsFor name code) : a.codeOf name = code := by
  cases h with
  | declared there declares => rw [there.codeOf_eq, declares.codeOfShape_eq]
  | itself none =>
    cases hs : a.shape? name with
    | none => rw [codeOf, hs]
    | some shape =>
      have there : a.HasShape name shape := hasShape_iff.2 hs
      rw [there.codeOf_eq, codeOfShape_of_none fun code => none shape code there]

theorem exists_standsFor (a : Api) (name : String) : ∃ code, a.StandsFor name code := by
  by_cases h : ∃ shape code, a.HasShape name shape ∧ DeclaresCode shape code
  · obtain ⟨shape, code, there, declares⟩ := h
    exact ⟨code, .declared there declares⟩
  · exact ⟨name, .itself fun shape code there declares => h ⟨shape, code, there, declares⟩⟩

theorem codeOf_eq_iff : a.codeOf name = code ↔ a.StandsFor name code := by
  constructor
  · rintro rfl
    obtain ⟨code, h⟩ := exists_standsFor a name
    rwa [h.codeOf_eq]
  · exact StandsFor.codeOf_eq

/-! ## The two sources -/

/-- The shape with this name is marked as an exception. -/
def Marks (a : Api) (name : String) : Prop :=
  ∃ shape, a.HasShape name shape ∧ shape.get? "exception" = some (.bool true)

/-- A value is a reference to the shape with this name. -/
def IsReference (ref : Json) (name : String) : Prop :=
  ∃ t, ref = .object t ∧ t.get? "shape" = some (.string name)

/-- An entry of the section of operations has a list of errors with a reference to this name. -/
def RefersTo (a : Api) (name : String) : Prop :=
  ∃ operation entry items ref, a.Defines operation entry ∧
    entry.get? "errors" = some (.array items) ∧ ref ∈ items ∧ IsReference ref name

theorem isException_iff : isException shape = true ↔ shape.get? "exception" = some (.bool true) := by
  have bool (j : Json) : j.asBool? = some true ↔ j = .bool true := by
    cases j <;> simp [Json.asBool?]
  simp [isException, Option.bind_eq_some_iff, bool]

theorem mem_exceptionCodes_iff :
    code ∈ a.exceptionCodes ↔ ∃ name, a.Marks name ∧ a.StandsFor name code := by
  simp only [exceptionCodes, List.mem_filterMap, Prod.exists, Members.mem_toList_iff,
    get?_getD_section?, Option.bind_eq_some_iff, Json.asObject?_eq_some_iff,
    Option.ite_none_right_eq_some, isException_iff, Option.some.injEq]
  constructor
  · rintro ⟨name, _, ⟨shapes, hs, there⟩, shape, rfl, marked, rfl⟩
    have has : a.HasShape name shape := ⟨shapes, hs, there⟩
    exact ⟨name, ⟨shape, has, marked⟩, codeOf_eq_iff.1 has.codeOf_eq⟩
  · rintro ⟨name, ⟨shape, ⟨shapes, hs, there⟩, marked⟩, stands⟩
    have has : a.HasShape name shape := ⟨shapes, hs, there⟩
    exact ⟨name, _, ⟨shapes, hs, there⟩, shape, rfl, marked, has.codeOf_eq ▸ stands.codeOf_eq⟩

theorem shapeName?_eq_some_iff : Operation.shapeName? ref = some name ↔ IsReference ref name := by
  simp [Operation.shapeName?, Json.member?, IsReference, Option.bind_eq_some_iff]

/-- The references of an operation are those of its list of errors, if it has one. -/
theorem errorShapes_cases (entry : Table Json) :
    (∃ items, entry.get? "errors" = some (.array items) ∧
      Operation.errorShapes (.object entry) = items.filterMap Operation.shapeName?) ∨
    (∀ items, entry.get? "errors" ≠ some (.array items)) ∧
      Operation.errorShapes (.object entry) = [] := by
  have eq : Operation.errorShapes (.object entry) =
      (((entry.get? "errors").bind Json.asArray?).getD []).filterMap Operation.shapeName? := rfl
  rw [eq]
  cases h : (entry.get? "errors").bind Json.asArray? with
  | none =>
    refine .inr ⟨fun items there => ?_, rfl⟩
    rw [there] at h
    exact nomatch h
  | some items =>
    simp only [Option.bind_eq_some_iff, Json.asArray?_eq_some_iff] at h
    obtain ⟨_, there, rfl⟩ := h
    exact .inl ⟨items, there, rfl⟩

theorem mem_errorShapes_iff {entry : Json} :
    name ∈ Operation.errorShapes entry ↔ ∃ t items ref, entry = .object t ∧
      t.get? "errors" = some (.array items) ∧ ref ∈ items ∧ IsReference ref name := by
  cases entry with
  | object t =>
    rcases errorShapes_cases t with ⟨items, listed, eq⟩ | ⟨unlisted, eq⟩
    · simp [eq, listed, shapeName?_eq_some_iff]
    · simp [eq, unlisted]
  | _ => simp [Operation.errorShapes, Json.member?, Json.asObject?]

theorem mem_referencedCodes_iff :
    code ∈ a.referencedCodes ↔ ∃ name, a.RefersTo name ∧ a.StandsFor name code := by
  simp only [referencedCodes, List.mem_flatMap, List.mem_map, Members.mem_values_iff,
    mem_errorShapes_iff, codeOf_eq_iff]
  constructor
  · rintro ⟨_, ⟨operation, there⟩, name, ⟨entry, items, ref, rfl, listed⟩, stands⟩
    exact ⟨name, ⟨operation, entry, items, ref, defines_iff.2 there, listed⟩, stands⟩
  · rintro ⟨name, ⟨operation, entry, items, ref, there, listed⟩, stands⟩
    exact ⟨_, ⟨operation, defines_iff.1 there⟩, name, ⟨entry, items, ref, rfl, listed⟩, stands⟩

/-! ## The references of an operation -/

/-- The codes for the references among the items of a list, in their order. What is no reference is
passed over. -/
inductive Lists (a : Api) : List Json → List String → Prop where
  | nil : Lists a [] []
  | reference {ref : Json} {name code : String} {items : List Json} {codes : List String}
      (refers : IsReference ref name) (stands : a.StandsFor name code) (rest : Lists a items codes) :
      Lists a (ref :: items) (code :: codes)
  | other {ref : Json} {items : List Json} {codes : List String}
      (none : ∀ name, ¬ IsReference ref name) (rest : Lists a items codes) :
      Lists a (ref :: items) codes

theorem lists_iff :
    a.Lists items codes ↔ (items.filterMap Operation.shapeName?).map a.codeOf = codes := by
  constructor
  · intro h
    induction h with
    | nil => rfl
    | reference refers stands _ ih =>
      rw [List.filterMap_cons_some (shapeName?_eq_some_iff.2 refers), List.map_cons, ih,
        stands.codeOf_eq]
    | @other ref items codes none _ ih =>
      have skipped : Operation.shapeName? ref = Option.none :=
        Option.eq_none_iff_forall_ne_some.2 fun name h => none name (shapeName?_eq_some_iff.1 h)
      rw [List.filterMap_cons_none skipped, ih]
  · rintro rfl
    induction items with
    | nil => exact .nil
    | cons ref items ih =>
      cases h : Operation.shapeName? ref with
      | none =>
        rw [List.filterMap_cons_none h]
        refine .other (fun name refers => ?_) ih
        rw [shapeName?_eq_some_iff.2 refers] at h
        exact nomatch h
      | some name =>
        rw [List.filterMap_cons_some h, List.map_cons]
        exact .reference (shapeName?_eq_some_iff.1 h) (codeOf_eq_iff.1 rfl) ih

/-- The errors that an object lists for an operation: the codes for its references, or none if it has
no list of them. -/
def ListsErrors (a : Api) (entry : Table Json) (codes : List String) : Prop :=
  (∃ items, entry.get? "errors" = some (.array items) ∧ a.Lists items codes) ∨
    (∀ items, entry.get? "errors" ≠ some (.array items)) ∧ codes = []

theorem ListsErrors.unique {entry : Table Json} {codes' : List String}
    (h : a.ListsErrors entry codes) (h' : a.ListsErrors entry codes') : codes = codes' := by
  rcases h with ⟨items, listed, lists⟩ | ⟨unlisted, rfl⟩ <;>
    rcases h' with ⟨items', listed', lists'⟩ | ⟨unlisted', rfl⟩
  · obtain rfl : items = items' := Json.array.inj (Option.some.inj (listed.symm.trans listed'))
    exact (lists_iff.1 lists).symm.trans (lists_iff.1 lists')
  · exact absurd listed (unlisted' items)
  · exact absurd listed' (unlisted items')
  · rfl

theorem listsErrors_ofTable (a : Api) (name : String) (entry : Table Json) :
    a.ListsErrors entry (Operation.ofTable name a.codeOf entry).errors := by
  show a.ListsErrors entry ((Operation.errorShapes (.object entry)).map a.codeOf)
  rcases errorShapes_cases entry with ⟨items, listed, eq⟩ | ⟨unlisted, eq⟩
  · exact .inl ⟨items, listed, lists_iff.2 (by rw [eq])⟩
  · exact .inr ⟨unlisted, by rw [eq, List.map_nil]⟩

/-- Every name of a shape stands for one code. The error codes of an API ascend, and they are those of
the shapes that are marked as exceptions and of the shapes that operations refer to. The errors of an
operation are the codes for its references, in the order of the list and as often as they stand there. -/
theorem errorCodes_from_definition (a : Api) :
    (∀ name, ∃! code, a.StandsFor name code) ∧
    Text.Ascending a.errorCodes ∧
    (∀ code, code ∈ a.errorCodes ↔
      (∃ name, a.Marks name ∧ a.StandsFor name code) ∨
        ∃ name, a.RefersTo name ∧ a.StandsFor name code) ∧
    ∀ o ∈ a.operations, ∃ entry, a.Defines o.name entry ∧ a.ListsErrors entry o.errors := by
  refine ⟨fun name => ?_, Text.ascending_iff.2 a.pairwise_errorCodes, fun code => ?_, fun o ho => ?_⟩
  · obtain ⟨code, stands⟩ := exists_standsFor a name
    exact ⟨code, stands, fun other h => h.codeOf_eq.symm.trans stands.codeOf_eq⟩
  · rw [errorCodes, mem_sortedDistinct_iff, List.mem_append, mem_exceptionCodes_iff,
      mem_referencedCodes_iff]
  · obtain ⟨entry, defined, eq⟩ := mem_operations_iff.1 ho
    refine ⟨entry, defined, ?_⟩
    rw [eq]
    exact listsErrors_ofTable a o.name entry

/-- An operation that refers twice to a shape with a code of its own, once to a shape that is missing,
and once to nothing. -/
theorem errorCodes_from_definition_get :
    let reference (name : String) : Json := .ofMembers [("shape", .string name)]
    let a : Api := ⟨.ofList [
      ("operations", .ofMembers [("Get", .ofMembers [("errors", .array
        [reference "NotFoundException", .bool true, reference "Gone", reference "NotFoundException"])])]),
      ("shapes", .ofMembers [
        ("NotFoundException", .ofMembers [("error", .ofMembers [("code", .string "NotFound")])]),
        ("Throttled", .ofMembers [("exception", .bool true), ("error", .null)])])], 0⟩
    let get : Operation := ⟨"Get", {}, none, none, ["NotFound", "Gone", "NotFound"], none⟩
    a.errorCodes = ["Gone", "NotFound", "Throttled"] ∧ get ∈ a.operations ∧
      ∃ entry, a.Defines "Get" entry ∧ a.ListsErrors entry ["NotFound", "Gone", "NotFound"] := by
  intro reference a get
  have listed : get ∈ a.operations := by decide +kernel
  exact ⟨by decide +kernel, listed, (errorCodes_from_definition a).2.2.2 get listed⟩

end ApiClients.Api
