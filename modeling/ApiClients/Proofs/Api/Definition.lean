import ApiClients.Client.Params
import ApiClients.Proofs.Text.ByteOrder
import ApiClients.Table.Lemmas

/-!
# What a definition says

The rules of an API, read off its JSON definition: which entries define operations (`Api.Defines`),
whether signing is disabled for the whole API (`Api.DisablesSigning`) or for one operation
(`Api.OptsOut`), and which members an input shape asks for (`Api.Asks`). What the API computes from
its definition is stated in these words: `mem_operations_iff`, `requiresRegion_iff`,
`requiresCredentials_iff`, `mem_required_iff`.
-/

namespace ApiClients.Api

variable {a : Api} {name : String} {entry : Table Json}

/-! ## Rules of a definition -/

/-- The object that stands under a name in the section of operations. -/
def Defines (a : Api) (name : String) (entry : Table Json) : Prop :=
  ∃ entries, a.definition.get? "operations" = some (.object entries) ∧
    entries.get? name = some (.object entry)

/-- The metadata have `none` for the version of signatures. -/
def DisablesSigning (a : Api) : Prop :=
  ∃ metadata, a.definition.get? "metadata" = some (.object metadata) ∧
    metadata.get? "signatureVersion" = some (.string "none")

/-- The entry of an operation has `none` for its kind of authentication. -/
def OptsOut (entry : Table Json) : Prop :=
  entry.get? "authtype" = some (.string "none")

/-- The list `required` of a shape has a member among its texts. -/
def Asks (a : Api) (shape member : String) : Prop :=
  ∃ shapes t items, a.definition.get? "shapes" = some (.object shapes) ∧
    shapes.get? shape = some (.object t) ∧ t.get? "required" = some (.array items) ∧
    .string member ∈ items

/-! ## Sections -/

theorem section?_eq_some_iff {t : Table Json} :
    a.section? name = some t ↔ a.definition.get? name = some (.object t) := by
  simp [section?, Option.bind_eq_some_iff]

/-- What stands in a section that may be missing. -/
theorem get?_getD_section? {key : String} {v : Json} :
    ((a.section? key).getD ∅).get? name = some v ↔
      ∃ entries, a.definition.get? key = some (.object entries) ∧ entries.get? name = some v := by
  cases h : a.section? key with
  | none =>
    simp only [Option.getD_none, Members.get?_empty, reduceCtorEq, false_iff, not_exists, not_and]
    intro entries he
    rw [section?_eq_some_iff.2 he] at h
    exact absurd h (by simp)
  | some entries =>
    rw [section?_eq_some_iff] at h
    simp [h]

theorem get?_operationEntries {v : Json} :
    a.operationEntries.get? name = some v ↔
      ∃ entries, a.definition.get? "operations" = some (.object entries) ∧
        entries.get? name = some v :=
  get?_getD_section?

theorem defines_iff : a.Defines name entry ↔ a.operationEntries.get? name = some (.object entry) :=
  get?_operationEntries.symm

theorem shape?_eq_some_iff {shape : String} {t : Table Json} :
    a.shape? shape = some t ↔ ∃ shapes, a.definition.get? "shapes" = some (.object shapes) ∧
      shapes.get? shape = some (.object t) := by
  simp [shape?, Option.bind_eq_some_iff, section?_eq_some_iff]

theorem metadataText?_eq_some_iff {key text : String} :
    a.metadataText? key = some text ↔
      ∃ metadata, a.definition.get? "metadata" = some (.object metadata) ∧
        metadata.get? key = some (.string text) := by
  simp [metadataText?, metadata?, Option.bind_eq_some_iff, section?_eq_some_iff]

/-! ## Operations -/

/-- The operations are those that the entries define, each under the name of its entry. -/
theorem mem_operations_iff {o : Operation} :
    o ∈ a.operations ↔ ∃ entry, a.Defines o.name entry ∧ o = .ofTable o.name a.codeOf entry := by
  simp only [operations, List.mem_filterMap, Prod.exists, Members.mem_toList_iff,
    Option.map_eq_some_iff, Json.asObject?_eq_some_iff, defines_iff]
  constructor
  · rintro ⟨name, _, h, entry, rfl, rfl⟩
    exact ⟨entry, h, rfl⟩
  · rintro ⟨entry, h, eq⟩
    exact ⟨o.name, .object entry, h, entry, rfl, eq.symm⟩

/-- The names of the operations ascend. -/
theorem pairwise_operations (a : Api) : (a.operations.map (·.name)).Pairwise (· < ·) := by
  rw [List.pairwise_map, operations, List.pairwise_filterMap]
  refine a.operationEntries.pairwise_toList.imp fun {d e} lt o ho p hp => ?_
  obtain ⟨_, -, rfl⟩ := Option.map_eq_some_iff.1 ho
  obtain ⟨_, -, rfl⟩ := Option.map_eq_some_iff.1 hp
  exact lt

theorem isUnsigned_ofTable (codeOf : String → String) :
    (Operation.ofTable name codeOf entry).isUnsigned = true ↔ OptsOut entry := by
  simp [Operation.isUnsigned, Operation.ofTable, OptsOut, Option.bind_eq_some_iff]

theorem requiresRegion_iff : a.requiresRegion = true ↔ ∃ name entry, a.Defines name entry := by
  have h : a.requiresRegion = true ↔ 0 < a.operationCount := decide_eq_true_iff
  rw [h, operationCount, List.length_pos_iff_exists_mem]
  simp only [List.mem_filter, Option.isSome_iff_exists, Json.asObject?_eq_some_iff,
    Members.mem_values_iff, defines_iff]
  constructor
  · rintro ⟨_, ⟨name, h⟩, entry, rfl⟩
    exact ⟨name, entry, h⟩
  · rintro ⟨name, entry, h⟩
    exact ⟨_, ⟨name, h⟩, entry, rfl⟩

theorem requiresCredentials_iff :
    a.requiresCredentials = true ↔
      ¬ a.DisablesSigning ∧ ∃ name entry, a.Defines name entry ∧ ¬ OptsOut entry := by
  simp only [requiresCredentials, Bool.and_eq_true, bne_iff_ne, ne_eq, metadataText?_eq_some_iff,
    DisablesSigning, List.any_eq_true, Bool.not_eq_true', ← Bool.not_eq_true, mem_operations_iff]
  refine and_congr_right fun _ => ⟨?_, ?_⟩
  · rintro ⟨o, ⟨entry, h, eq⟩, signed⟩
    rw [eq, isUnsigned_ofTable] at signed
    exact ⟨o.name, entry, h, signed⟩
  · rintro ⟨name, entry, h, signed⟩
    exact ⟨.ofTable name a.codeOf entry, ⟨entry, h, rfl⟩, by rwa [isUnsigned_ofTable]⟩

/-! ## Required members -/

theorem mem_required_iff {shape member : String} :
    member ∈ Params.required a shape ↔ a.Asks shape member := by
  unfold Params.required Asks
  rw [List.mem_filterMap]
  simp only [Json.asString?_eq_some_iff, exists_eq_right]
  cases h : ((a.shape? shape).bind (·.get? "required")).bind Json.asArray? with
  | none =>
    simp only [Option.getD_none, List.not_mem_nil, false_iff, not_exists]
    rintro shapes t items ⟨h₁, h₂, h₃, -⟩
    rw [shape?_eq_some_iff.2 ⟨shapes, h₁, h₂⟩] at h
    simp [h₃, Json.asArray?] at h
  | some items =>
    simp only [Option.bind_eq_some_iff, Json.asArray?_eq_some_iff, shape?_eq_some_iff] at h
    obtain ⟨_, ⟨t, ⟨shapes, h₁, h₂⟩, h₃⟩, rfl⟩ := h
    simp [h₁, h₂, h₃]

/-! ## Error codes -/

/-- The error codes ascend. -/
theorem pairwise_errorCodes (a : Api) : a.errorCodes.Pairwise (· < ·) :=
  Members.pairwise_keys _

theorem mem_sortedDistinct_iff {l : List String} {s : String} : s ∈ sortedDistinct l ↔ s ∈ l := by
  rw [sortedDistinct, Members.mem_keys_ofList_iff]
  simp

/-- The codes that an operation declares are resolved one by one, those of the API all at once, but
they are the same. -/
theorem mem_errorCodes_of_mem_errors {o : Operation} {code : String} (ho : o ∈ a.operations)
    (hc : code ∈ o.errors) : code ∈ a.errorCodes := by
  obtain ⟨entry, defined, eq⟩ := mem_operations_iff.1 ho
  rw [eq] at hc
  obtain ⟨shape, hs, rfl⟩ := List.mem_map.1 hc
  have mem : .object entry ∈ a.operationEntries.values :=
    (Members.mem_values_iff _).2 ⟨o.name, defines_iff.1 defined⟩
  rw [errorCodes, mem_sortedDistinct_iff]
  apply List.mem_append_right
  exact List.mem_flatMap.2 ⟨_, mem, List.mem_map.2 ⟨shape, hs, rfl⟩⟩

end ApiClients.Api
