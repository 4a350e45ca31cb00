import ApiClients.Client.Interface
import ApiClients.Proofs.Api.Descriptor

/-!
# Operations of an interface

The interface that is made of an API has one operation for each entry that the definition has for it
(`Api.Defines`), under the key of the entry. The entries are gone through three times: for the operations
of the API, for their number, and for the table of the interface. `ofApi_operations` says that no entry
is lost, merged or renamed on the way. The name that an entry may hold itself is not looked at
(`Operation.ofTable_congr`).
-/

namespace ApiClients

variable {a : Api} {name service : String} {o : Operation}

/-- An operation is read off five members of its entry. -/
theorem Operation.ofTable_congr {t u : Table Json} (codeOf : String → String)
    (h : ∀ key ∈ ["http", "input", "output", "errors", "authtype"], t.get? key = u.get? key) :
    ofTable name codeOf t = ofTable name codeOf u := by
  simp only [List.forall_mem_cons] at h
  obtain ⟨http, input, output, errors, authtype, -⟩ := h
  have shapes : errorShapes (.object t) = errorShapes (.object u) := by
    simp only [errorShapes, Json.member?, Json.asObject?, Option.bind_some, errors]
  unfold ofTable
  rw [http, input, output, shapes, authtype]

/-- Every entry that is an object is counted. -/
theorem Api.length_operations (a : Api) : a.operations.length = a.operationCount := by
  rw [operations, List.length_filterMap_eq_countP, operationCount, ← List.countP_eq_length_filter,
    Members.values, List.countP_map]
  congr 1
  funext e
  simp

namespace ClientInterface

theorem pairwise_entries (a : Api) :
    ((a.operations.map fun o => (o.name, o)).map Prod.fst).Pairwise (· < ·) := by
  rw [List.map_map]
  exact a.pairwise_operations

theorem toList_ofApi (service : String) (a : Api) :
    (ofApi service a).operations.toList = a.operations.map fun o => (o.name, o) :=
  Members.toList_ofList (pairwise_entries a)

theorem values_ofApi (service : String) (a : Api) : (ofApi service a).operations.values = a.operations := by
  rw [Members.values, toList_ofApi, List.map_map]
  exact List.map_id _

theorem operationNames_ofApi (service : String) (a : Api) :
    (ofApi service a).operationNames = a.operations.map (·.name) := by
  rw [operationNames, Members.keys, toList_ofApi, List.map_map]
  rfl

theorem operation?_ofApi_eq_some_iff :
    (ofApi service a).operation? name = some o ↔
      ∃ entry, a.Defines name entry ∧ o = .ofTable name a.codeOf entry := by
  rw [operation?, ← Members.mem_toList_iff, toList_ofApi, List.mem_map]
  constructor
  · rintro ⟨p, mem, eq⟩
    obtain ⟨rfl, rfl⟩ := Prod.mk.inj eq
    exact Api.mem_operations_iff.1 mem
  · rintro ⟨entry, defined, rfl⟩
    exact ⟨.ofTable name a.codeOf entry, Api.mem_operations_iff.2 ⟨entry, defined, rfl⟩, rfl⟩

theorem mem_operationNames_iff :
    name ∈ (ofApi service a).operationNames ↔ ∃ entry, a.Defines name entry := by
  rw [operationNames, Members.mem_keys_iff]
  constructor
  · rintro ⟨o, found⟩
    obtain ⟨entry, defined, -⟩ := operation?_ofApi_eq_some_iff.1 found
    exact ⟨entry, defined⟩
  · rintro ⟨entry, defined⟩
    exact ⟨_, operation?_ofApi_eq_some_iff.2 ⟨entry, defined, rfl⟩⟩

/-- The operations of an interface are those that the definition describes. -/
theorem operation_of_ofApi (h : (ofApi service a).operation? name = some o) :
    ∃ entry, a.Defines o.name entry ∧ o = .ofTable o.name a.codeOf entry := by
  obtain ⟨entry, defined, rfl⟩ := operation?_ofApi_eq_some_iff.1 h
  exact ⟨entry, defined, rfl⟩

/-- The names of the operations ascend, and they are the keys of the entries that are objects. There
are as many as the API counts, and none exactly if it needs no region. Under the key of an entry stands
the operation that the entry describes, and no other; it has this key for its name, whatever name the entry
may hold itself. The operations are listed as the API lists them. -/
theorem ofApi_operations (service : String) (a : Api) :
    let i := ofApi service a
    Text.Ascending i.operationNames ∧
    (∀ name, name ∈ i.operationNames ↔ ∃ entry, a.Defines name entry) ∧
    i.operationNames.length = a.operationCount ∧
    (i.operationNames = [] ↔ a.requiresRegion = false) ∧
    (∀ name o, i.operation? name = some o ↔
      o.name = name ∧ ∃ entry, a.Defines name entry ∧ a.Describes name entry o) ∧
    (∀ name entry value o, a.Describes name (entry.insert "name" value) o ↔
      a.Describes name entry o) ∧
    i.operations.values = a.operations := by
  intro i
  have names : ∀ name, name ∈ i.operationNames ↔ ∃ entry, a.Defines name entry :=
    fun name => mem_operationNames_iff
  refine ⟨Text.ascending_iff.2 i.operations.pairwise_keys, names, ?_, ?_,
    fun name o => ?_, fun name entry value o => ?_, values_ofApi service a⟩
  · rw [operationNames_ofApi, List.length_map, Api.length_operations]
  · rw [Bool.eq_false_iff, ne_eq, Api.requiresRegion_iff, List.eq_nil_iff_forall_not_mem]
    simp only [names, not_exists]
  · rw [operation?_ofApi_eq_some_iff]
    simp only [Api.describes_iff]
    refine ⟨fun h => ⟨?_, h⟩, And.right⟩
    obtain ⟨entry, -, rfl⟩ := h
    rfl
  · have same : Operation.ofTable name a.codeOf (entry.insert "name" value) =
        .ofTable name a.codeOf entry := by
      refine Operation.ofTable_congr a.codeOf fun key there => Members.get?_insert_of_ne entry ?_
      rintro rfl
      exact absurd there (by decide)
    rw [Api.describes_iff, Api.describes_iff, same]

end ClientInterface

end ApiClients
