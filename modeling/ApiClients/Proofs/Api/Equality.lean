import ApiClients.Client.Interface
import ApiClients.Client.Params
import ApiClients.ErrorClass.Namespace
import ApiClients.Proofs.Json.Equality
import ApiClients.Settings.Effective
import Mathlib.Data.Option.Basic

/-!
# Equal APIs

Equality of APIs is an equivalence, and equal APIs cannot be told apart by what is made of them
(`Api.Agree`). Their definitions may differ in the signs of zeros. Nothing that is read off a
definition depends on these, so it is the same for an API and for its normal form (`Api.normal`).
-/

namespace ApiClients

open Json (normalMembers)

/-! ## Normal forms -/

/-- The API with the normal form of the definition. All instances have the same one. -/
def Api.normal (a : Api) : Api :=
  ⟨normalMembers a.definition, 0⟩

namespace Operation

@[simp] theorem shapeName?_normal (x : Json) : shapeName? x.normal = shapeName? x := by
  simp [shapeName?, Option.bind_map]

@[simp] theorem errorShapes_normal (x : Json) : errorShapes x.normal = errorShapes x := by
  have items : (x.normal.member? "errors").bind Json.asArray? =
      ((x.member? "errors").bind Json.asArray?).map (·.map Json.normal) := by
    simp [Option.bind_map, Option.map_bind]
  unfold errorShapes
  rw [items]
  cases (x.member? "errors").bind Json.asArray? with
  | none => rfl
  | some items => simp [List.filterMap_map]

theorem http_normal (t : Table Json) : HttpBinding.ofTable (normalMembers t) = .ofTable t := by
  simp [HttpBinding.ofTable, Option.bind_map]

theorem ofTable_normal (name : String) (codeOf : String → String) (t : Table Json) :
    ofTable name codeOf (normalMembers t) = ofTable name codeOf t := by
  have errors : errorShapes (.object (normalMembers t)) = errorShapes (.object t) :=
    errorShapes_normal (.object t)
  have http : (((normalMembers t).get? "http").bind Json.asObject?).map HttpBinding.ofTable =
      ((t.get? "http").bind Json.asObject?).map HttpBinding.ofTable := by
    simp [Option.bind_map, Option.map_bind, Function.comp_def, http_normal]
  unfold ofTable
  rw [errors, http]
  simp [Option.bind_map]

end Operation

namespace Api

variable {a b : Api}

theorem section?_normal (a : Api) (name : String) :
    a.normal.section? name = (a.section? name).map normalMembers := by
  simp [section?, normal, Option.bind_map, Option.map_bind]

theorem metadataText?_normal (a : Api) (key : String) :
    a.normal.metadataText? key = a.metadataText? key := by
  simp [metadataText?, metadata?, section?_normal, Option.bind_map,
    Option.bind_assoc]

theorem shape?_normal (a : Api) (name : String) :
    a.normal.shape? name = (a.shape? name).map normalMembers := by
  simp [shape?, section?_normal, Option.bind_map, Option.map_bind,
    Option.bind_assoc]

theorem operationEntries_normal (a : Api) :
    a.normal.operationEntries = normalMembers a.operationEntries := by
  unfold operationEntries
  rw [section?_normal]
  cases a.section? "operations" <;> rfl

/-! ### Error codes -/

theorem codeOfShape_normal (name : String) (shape : Table Json) :
    codeOfShape name (normalMembers shape) = codeOfShape name shape := by
  simp [codeOfShape, Option.bind_map, Option.bind_assoc]

theorem codeOf_normal (a : Api) : a.normal.codeOf = a.codeOf := by
  funext name
  unfold codeOf
  rw [shape?_normal]
  cases a.shape? name with
  | none => rfl
  | some shape => exact codeOfShape_normal name shape

theorem isException_normal (shape : Table Json) :
    isException (normalMembers shape) = isException shape := by
  simp [isException, Option.bind_map]

theorem exceptionCodes_normal (a : Api) : a.normal.exceptionCodes = a.exceptionCodes := by
  have shapes : (a.normal.section? "shapes").getD ∅ =
      normalMembers ((a.section? "shapes").getD ∅) := by
    rw [section?_normal]
    cases a.section? "shapes" <;> rfl
  unfold exceptionCodes
  rw [shapes, Json.toList_normalMembers, List.filterMap_map]
  congr 1
  funext e
  simp [Option.bind_map, isException_normal, codeOfShape_normal]

theorem referencedCodes_normal (a : Api) : a.normal.referencedCodes = a.referencedCodes := by
  unfold referencedCodes Members.values
  rw [operationEntries_normal, Json.toList_normalMembers, codeOf_normal, List.map_map,
    List.flatMap_map, List.flatMap_map]
  simp

theorem errorCodes_normal (a : Api) : a.normal.errorCodes = a.errorCodes := by
  unfold errorCodes
  rw [exceptionCodes_normal, referencedCodes_normal]

/-! ### Operations -/

theorem operations_normal (a : Api) : a.normal.operations = a.operations := by
  unfold operations
  rw [operationEntries_normal, Json.toList_normalMembers, codeOf_normal, List.filterMap_map]
  congr 1
  funext e
  simp [Function.comp_def, Operation.ofTable_normal]

theorem operationCount_normal (a : Api) : a.normal.operationCount = a.operationCount := by
  unfold operationCount Members.values
  rw [operationEntries_normal, Json.toList_normalMembers, List.map_map, List.filter_map,
    List.length_map, List.filter_map, List.length_map]
  simp [Function.comp_def]

theorem requiresRegion_normal (a : Api) : a.normal.requiresRegion = a.requiresRegion := by
  unfold requiresRegion
  rw [operationCount_normal]

theorem requiresCredentials_normal (a : Api) :
    a.normal.requiresCredentials = a.requiresCredentials := by
  unfold requiresCredentials
  rw [metadataText?_normal, operations_normal]

theorem required_normal (a : Api) (shape : String) :
    Params.required a.normal shape = Params.required a shape := by
  have items : ((a.normal.shape? shape).bind (·.get? "required")).bind Json.asArray? =
      (((a.shape? shape).bind (·.get? "required")).bind Json.asArray?).map (·.map Json.normal) := by
    simp [shape?_normal, Option.bind_map, Option.map_bind, Option.bind_assoc]
  unfold Params.required
  rw [items]
  cases ((a.shape? shape).bind (·.get? "required")).bind Json.asArray? with
  | none => rfl
  | some items => simp [List.filterMap_map]

theorem check_normal (a : Api) (o : Operation) (params : Json) :
    Params.check a.normal o params = Params.check a o params := by
  unfold Params.check
  simp only [required_normal]

/-! ## Equality -/

theorem equal_iff : (a == b) = true ↔ a.normal = b.normal := by
  have definitions : (a == b) = true ↔ normalMembers a.definition = normalMembers b.definition :=
    Json.equalMembers_iff
  rw [definitions, normal, normal, Api.mk.injEq, and_iff_left rfl]

/-- What does not depend on the signs of zeros is the same for equal APIs. -/
theorem eq_of_equal {α : Type} {f : Api → α} (invariant : ∀ a, f a.normal = f a)
    (h : (a == b) = true) : f a = f b := by
  rw [← invariant a, equal_iff.1 h, invariant b]

/-- Two APIs that cannot be told apart: in what they offer and ask for, in the error classes and the
client interfaces that are made of them, and in the parameters and settings that they accept. -/
structure Agree (a b : Api) : Prop where
  operations : a.operations = b.operations
  operationCount : a.operationCount = b.operationCount
  errorCodes : a.errorCodes = b.errorCodes
  requiresRegion : a.requiresRegion = b.requiresRegion
  requiresCredentials : a.requiresCredentials = b.requiresCredentials
  errors : ∀ service, ErrorNamespace.ofApi service a = ErrorNamespace.ofApi service b
  interface : ∀ service, (ClientInterface.ofApi service a == ClientInterface.ofApi service b) = true
  params : ∀ o params, Params.check a o params = Params.check b o params
  settings : ∀ service defaults options, EffectiveSettings.resolve service a defaults options =
    EffectiveSettings.resolve service b defaults options

theorem agree_of_equal (h : (a == b) = true) : a.Agree b where
  operations := eq_of_equal operations_normal h
  operationCount := eq_of_equal operationCount_normal h
  errorCodes := eq_of_equal errorCodes_normal h
  requiresRegion := eq_of_equal requiresRegion_normal h
  requiresCredentials := eq_of_equal requiresCredentials_normal h
  errors service := congrArg (ErrorNamespace.ofCodes service) (eq_of_equal errorCodes_normal h)
  interface service := by
    have operations : a.operations = b.operations := eq_of_equal operations_normal h
    show ClientInterface.equal _ _ = true
    unfold ClientInterface.equal ClientInterface.ofApi
    simp [operations, h]
  params o params :=
    eq_of_equal (f := fun a => Params.check a o params) (fun a => check_normal a o params) h
  settings service defaults options := by
    have region : a.requiresRegion = b.requiresRegion := eq_of_equal requiresRegion_normal h
    have credentials : a.requiresCredentials = b.requiresCredentials :=
      eq_of_equal requiresCredentials_normal h
    unfold EffectiveSettings.resolve EffectiveSettings.require
    rw [region, credentials]

theorem equal_iff_alike :
    (a == b) = true ↔ Json.Alike (.object a.definition) (.object b.definition) := by
  rw [← Json.equal_iff_alike]
  rfl

/-- APIs are equal if their definitions are alike in all their parts. This is an equivalence, it is
also what decides whether a JSON value is equal to an API, and equal APIs agree in everything. -/
theorem equality_respected :
    (∀ a b : Api, (a == b) = true ↔ Json.Alike (.object a.definition) (.object b.definition)) ∧
      Equivalence (fun a b : Api => (a == b) = true) ∧
      (∀ (a : Api) (j : Json), a.equalsJson j = true ↔
        ∃ t, j = .object t ∧ ∀ serial, (a == ⟨t, serial⟩) = true) ∧
      ∀ a b : Api, (a == b) = true → a.Agree b := by
  refine ⟨fun a b => equal_iff_alike, ⟨fun a => ?_, fun h => ?_, fun h h' => ?_⟩, fun a j => ?_,
    fun a b => agree_of_equal⟩
  · exact equal_iff.2 rfl
  · exact equal_iff.2 (equal_iff.1 h).symm
  · exact equal_iff.2 ((equal_iff.1 h).trans (equal_iff.1 h'))
  · cases j with
    | object t =>
      constructor
      · intro h
        exact ⟨t, rfl, fun _ => h⟩
      · rintro ⟨u, eq, h⟩
        obtain rfl := Json.object.inj eq
        exact h 0
    | _ => simp [equalsJson]

/-- The definition `{"metadata": {"scale": [0.0, 1]}}`, with a zero of this sign. -/
def scaled (negative : Bool) : Table Json :=
  .ofList [("metadata", .ofMembers [("scale",
    .array [.number (.float negative .zero), .number (.integer 1 (by decide))])])]

theorem equality_respected_scaled :
    (⟨scaled false, 0⟩ == (⟨scaled true, 1⟩ : Api)) = true ∧
      (⟨scaled false, 0⟩ : Api).Agree ⟨scaled true, 1⟩ := by
  have equal : (⟨scaled false, 0⟩ == (⟨scaled true, 1⟩ : Api)) = true := by decide
  exact ⟨equal, equality_respected.2.2.2 _ _ equal⟩

end Api

end ApiClients
