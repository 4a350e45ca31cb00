import ApiClients.Proofs.Client.Interface
import ApiClients.Proofs.CommandLine.Stages
import ApiClients.Proofs.ErrorClass.Classification
import ApiClients.Proofs.Service.Forms

/-!
# Summaries as JSON

The summary of a service that the program prints as JSON can be read again, and what is read says all
that there is to say about the service (`Summary`). So services with the same summary have the same
operations and the same error classes.

1. `Summary.ofJson?_summaryJson`: a summary is decoded to the parts that it was made of.
2. `readable_summaryJson`: the reader takes the text, as nothing in it is deep but the metadata, which
   were read from a file themselves.
3. `errors_eq_of_entries`: an error namespace is known from the codes of its classes.
-/

namespace ApiClients.CommandLine

open Results

/-! ## What a summary says -/

/-- What a summary says of an error class. -/
structure ClassEntry where
  name : String
  code : Option String
  qualifiedName : String
  ancestors : List String
deriving DecidableEq

/-- What a summary says of a service. -/
structure Summary where
  service : String
  metadata : Option (Table Json)
  operations : List Operation
  errorBase : String
  errorClasses : List ClassEntry

def ClassEntry.ofClass (k : ErrorClass) : ClassEntry :=
  ⟨k.name, k.code?, k.qualifiedName, k.ancestors⟩

/-- The summary of a service, taken from its API and its error classes. -/
def Summary.ofService (s : Service) : Summary where
  service := s.name.text
  metadata := s.api.metadata?
  operations := s.api.operations
  errorBase := s.errors.base.qualifiedName
  errorClasses := s.errors.classes.map .ofClass

/-! ## Decoding -/

def optionalText? : Json → Option (Option String)
  | .null => some none
  | .string s => some (some s)
  | _ => none

def optionalObject? : Json → Option (Option (Table Json))
  | .null => some none
  | .object t => some (some t)
  | _ => none

def listOf? {α : Type} (item? : Json → Option α) (j : Json) : Option (List α) :=
  j.asArray?.bind (·.mapM item?)

def operation? (j : Json) : Option Operation := do
  let http ← j.member? "http"
  return {
    name := ← (← j.member? "name").asString?
    http := {
      method := ← HttpMethod.ofName? (← (← http.member? "method").asString?)
      uri := ← (← http.member? "requestUri").asString? }
    input := ← optionalText? (← j.member? "input")
    output := ← optionalText? (← j.member? "output")
    errors := ← listOf? Json.asString? (← j.member? "errors")
    authType := ← optionalText? (← j.member? "authType") }

def ClassEntry.ofJson? (j : Json) : Option ClassEntry := do
  return {
    name := ← (← j.member? "name").asString?
    code := ← optionalText? (← j.member? "code")
    qualifiedName := ← (← j.member? "qualifiedName").asString?
    ancestors := ← listOf? Json.asString? (← j.member? "ancestors") }

/-- The summary that a JSON value holds. -/
def Summary.ofJson? (j : Json) : Option Summary := do
  return {
    service := ← (← j.member? "service").asString?
    metadata := ← optionalObject? (← j.member? "metadata")
    operations := ← listOf? operation? (← j.member? "operations")
    errorBase := ← (← j.member? "errorBase").asString?
    errorClasses := ← listOf? ClassEntry.ofJson? (← j.member? "errorClasses") }

@[simp] theorem optionalText?_textOrNull (s : Option String) :
    optionalText? (textOrNull s) = some s := by
  cases s <;> rfl

theorem listOf?_map {α β : Type} {item? : Json → Option β} {toJson : α → Json} {f : α → β}
    (h : ∀ x, item? (toJson x) = some (f x)) (l : List α) :
    listOf? item? (.array (l.map toJson)) = some (l.map f) := by
  show (l.map toJson).mapM item? = some (l.map f)
  induction l with
  | nil => rfl
  | cons x l ih => simp [List.mapM_cons, h, ih]

@[simp] theorem listOf?_texts (l : List String) : listOf? Json.asString? (texts l) = some l := by
  have item (s : String) : (Json.string s).asString? = some (id s) := rfl
  have read := listOf?_map item l
  rwa [List.map_id] at read

theorem member?_ofMembers (members : List (String × Json)) (k : String) :
    (Json.ofMembers members).member? k = members.reverse.lookup k :=
  Members.get?_ofList

theorem operation?_operationJson (o : Operation) : operation? (operationJson o) = some o := by
  simp [operation?, operationJson, member?_ofMembers, Json.asString?, HttpMethod.ofName?_name, List.lookup_cons]

theorem ofJson?_classJson (k : ErrorClass) : ClassEntry.ofJson? (classJson k) = some (.ofClass k) := by
  simp [ClassEntry.ofJson?, classJson, member?_ofMembers, Json.asString?, List.lookup_cons,
    ClassEntry.ofClass]

/-- A summary is decoded to what the service is made of. -/
theorem Summary.ofJson?_summaryJson {s : Service} (h : s.Coherent) :
    Summary.ofJson? (summaryJson s) = some (.ofService s) := by
  have operations : listOf? operation? (.array (s.interface.operations.values.map operationJson)) =
      some s.api.operations := by
    rw [listOf?_map operation?_operationJson, List.map_id', h.interface,
      ClientInterface.values_ofApi]
  have classes : listOf? ClassEntry.ofJson? (.array (s.errors.classes.map classJson)) =
      some (s.errors.classes.map .ofClass) :=
    listOf?_map ofJson?_classJson _
  have metadata : optionalObject? ((s.api.metadata?.map Json.object).getD .null) =
      some s.api.metadata? := by
    cases s.api.metadata? <;> rfl
  simp [Summary.ofJson?, summaryJson, member?_ofMembers, Json.asString?, List.lookup_cons, operations,
    classes, metadata, Summary.ofService]

/-! ## What the reader takes -/

/-- The value nests at most `n` levels deep and has no floating-point numbers. -/
def Readable (n : Nat) (x : Json) : Prop :=
  x.depth ≤ n ∧ x.isIntegral = true

section Readable

variable {n m : Nat}

theorem Readable.mono {x : Json} (h : Readable n x) (le : n ≤ m) : Readable m x :=
  ⟨h.1.trans le, h.2⟩

theorem readable_null : Readable n .null :=
  ⟨Nat.zero_le n, rfl⟩

theorem readable_string (s : String) : Readable n (.string s) :=
  ⟨Nat.zero_le n, rfl⟩

theorem readable_textOrNull (s : Option String) : Readable n (textOrNull s) := by
  cases s with
  | none => exact readable_null
  | some s => exact readable_string s

theorem readable_array {α : Type} {f : α → Json} (h : ∀ a, Readable n (f a)) (l : List α) :
    Readable (n + 1) (.array (l.map f)) := by
  refine ⟨Json.depth_array_le_iff.2 fun x hx => ?_, Json.isIntegral_array_iff.2 fun x hx => ?_⟩
  · obtain ⟨a, -, rfl⟩ := List.mem_map.1 hx
    exact (h a).1
  · obtain ⟨a, -, rfl⟩ := List.mem_map.1 hx
    exact (h a).2

theorem readable_ofMembers {l : List (String × Json)} (h : ∀ e ∈ l, Readable n e.2) :
    Readable (n + 1) (.ofMembers l) :=
  ⟨Json.depth_ofMembers_le fun e he => (h e he).1, Json.isIntegral_ofMembers fun e he => (h e he).2⟩

theorem readable_texts (l : List String) : Readable (n + 1) (texts l) :=
  readable_array readable_string l

theorem readable_operationJson (o : Operation) : Readable 2 (operationJson o) := by
  have http : Readable 1 (.ofMembers [("method", .string o.http.method.name),
      ("requestUri", .string o.http.uri)]) :=
    readable_ofMembers (by simp [readable_string])
  exact readable_ofMembers (by simp [readable_string, readable_textOrNull, readable_texts, http])

theorem readable_classJson (k : ErrorClass) : Readable 2 (classJson k) :=
  readable_ofMembers (by simp [readable_string, readable_textOrNull, readable_texts])

end Readable

variable {s t : Service}

/-- The metadata are one level below the top, and all else is shallow. -/
theorem readable_summaryJson {n : Nat} (hn : 3 ≤ n)
    (h : ∀ m, s.api.metadata? = some m → Readable n (.object m)) :
    Readable (n + 1) (summaryJson s) := by
  have metadata : Readable n ((s.api.metadata?.map Json.object).getD .null) := by
    cases hm : s.api.metadata? with
    | none => exact readable_null
    | some m => exact h m hm
  have operations : Readable n (.array (s.interface.operations.values.map operationJson)) :=
    (readable_array readable_operationJson _).mono hn
  have classes : Readable n (.array (s.errors.classes.map classJson)) :=
    (readable_array readable_classJson _).mono hn
  exact readable_ofMembers (by simp [readable_string, metadata, operations, classes])

/-! ## Services from files -/

/-- The API of a file nests no deeper than what is read. -/
theorem depth_of_toApi {files : Files} {p : Path} {serial : Nat} {a : Api}
    (h : (Description.path p).toApi files serial = .ok a) :
    (Json.object a.definition).depth ≤ Json.maxDepth := by
  obtain ⟨definition, loads, rfl⟩ := Description.toApi_path_eq_ok_iff.1 h
  cases loads with
  | nothing => exact (by decide : (Json.object ∅).depth ≤ Json.maxDepth)
  | object _ _ read => exact Json.depth_le_of_read? read

theorem depth_metadata_le {a : Api} {n : Nat} (h : (Json.object a.definition).depth ≤ n + 1)
    {m : Table Json} (hm : a.metadata? = some m) : (Json.object m).depth ≤ n := by
  have found : a.definition.get? "metadata" = some (.object m) := Api.section?_eq_some_iff.1 hm
  exact Json.depth_object_le_iff.1 h _ (a.definition.mem_toList_iff.2 found)

/-! ## Error classes -/

/-- The names of the declared classes ascend. -/
theorem pairwise_classes {n : ErrorNamespace} {service : String} {codes : List String}
    (h : n.Holds service (ErrorNamespace.ownNaming codes)) :
    (n.classes.map ErrorClass.name).Pairwise (· < ·) := by
  have keys : n.classes.map ErrorClass.name = n.declared.keys := by
    unfold ErrorNamespace.classes Members.values Members.keys
    rw [List.map_map]
    refine List.map_congr_left fun e he => ?_
    obtain ⟨x, k⟩ := e
    obtain ⟨c, -, rfl⟩ := (h.declared x k).1 (n.declared.mem_toList_iff.1 he)
    rfl
  rw [keys]
  exact n.declared.pairwise_keys

/-- The codes of the declared classes are those that the API declares. -/
theorem mem_errorCodes_iff {n : ErrorNamespace} {service : String} {a : Api}
    (h : ErrorNamespace.ofApi service a = .ok n) {c : String} :
    c ∈ a.errorCodes ↔ ∃ k ∈ n.classes, k.code? = some c := by
  obtain ⟨separable, holds⟩ := ErrorNamespace.holds_of_ofApi h
  simp only [holds.mem_classes_iff]
  constructor
  · intro hc
    obtain ⟨x, hx⟩ := ErrorClass.exists_name_iff.2 (separable.hasWord c hc)
    exact ⟨_, ⟨x, c, ⟨hc, hx⟩, rfl⟩, rfl⟩
  · rintro ⟨_, ⟨x, d, hd, rfl⟩, code⟩
    obtain rfl : d = c := Option.some.inj code
    exact hd.1

/-- Error namespaces of one service are equal if the same is said of their classes. -/
theorem errors_eq_of_entries {service : String} {a b : Api} {n m : ErrorNamespace}
    (hn : ErrorNamespace.ofApi service a = .ok n) (hm : ErrorNamespace.ofApi service b = .ok m)
    (entries : n.classes.map ClassEntry.ofClass = m.classes.map ClassEntry.ofClass) : n = m := by
  have code_of_entry {l : List ErrorClass} {c : String} :
      (∃ k ∈ l, k.code? = some c) ↔ ∃ e ∈ l.map ClassEntry.ofClass, e.code = some c := by
    simp [ClassEntry.ofClass]
  have codes : a.errorCodes = b.errorCodes := by
    refine Text.Ascending.eq_of_mem_iff (Text.ascending_iff.2 a.pairwise_errorCodes)
      (Text.ascending_iff.2 b.pairwise_errorCodes) fun c => ?_
    rw [mem_errorCodes_iff hn, mem_errorCodes_iff hm, code_of_entry, code_of_entry, entries]
  unfold ErrorNamespace.ofApi at hn hm
  rw [codes] at hn
  exact Except.ok.inj (hn.symm.trans hm)

/-- Services are equal in all that a summary is about if their summaries are the same. -/
theorem eq_of_summary_eq (hs : s.Coherent) (ht : t.Coherent)
    (h : Summary.ofService s = Summary.ofService t) :
    s.name.text = t.name.text ∧ s.api.metadata? = t.api.metadata? ∧
      s.api.operations = t.api.operations ∧ s.errors = t.errors := by
  simp only [Summary.ofService, Summary.mk.injEq] at h
  obtain ⟨name, metadata, operations, -, classes⟩ := h
  have errors : ErrorNamespace.ofApi s.name.text t.api = .ok t.errors := by
    rw [name]
    exact ht.errors
  exact ⟨name, metadata, operations, errors_eq_of_entries hs.errors errors classes⟩

/-! ## The printed summary -/

variable {w : Surroundings} {schema : Path} {name : Option String} {c : Context}

theorem run_inspect (h : w.addService schema name = .ok (s, c)) :
    (Command.inspect schema name true).run w = .ok (line (summaryJson s).pretty) := by
  show (w.addService schema name).map _ = _
  rw [h]
  rfl

/-- The printed summary is read as the summary. -/
theorem readWithin?_summary (h : w.addService schema name = .ok (s, c))
    (integral : ∀ m, s.api.metadata? = some m → (Json.object m).isIntegral = true) {limit : Nat}
    (hl : 127 ≤ limit) :
    Json.readWithin? limit (line (summaryJson s).pretty) = some (summaryJson s) := by
  obtain ⟨-, described⟩ := Surroundings.coherent_of_addService h
  obtain ⟨depth, integral⟩ : Readable (126 + 1) (summaryJson s) :=
    readable_summaryJson (by decide) fun m hm =>
      ⟨depth_metadata_le (depth_of_toApi described) hm, integral m hm⟩
  exact Json.readWithin?_pretty_line integral (by omega)

theorem member?_metadata (s : Service) : (summaryJson s).member? "metadata" = some .null ↔
    ∀ m, s.api.definition.get? "metadata" ≠ some (.object m) := by
  have printed : (summaryJson s).member? "metadata" =
      some ((s.api.metadata?.map Json.object).getD .null) := by
    simp [summaryJson, member?_ofMembers, List.lookup_cons]
  have missing : (∀ m, s.api.definition.get? "metadata" ≠ some (.object m)) ↔
      s.api.metadata? = none := by
    rw [Option.eq_none_iff_forall_ne_some]
    exact forall_congr' fun m => not_congr Api.section?_eq_some_iff.symm
  rw [printed, missing]
  cases s.api.metadata? <;> simp

/-- When `inspect --json` finds a service whose metadata hold no floating-point numbers, the text that
it prints can be read again, and what is read is decoded to the summary of the service. The metadata
are `null` exactly if the definition has no object for them, operations and error classes ascend by
their names, and there is a class for every code that is declared. Another service for which the same
text is printed has the same name, the same metadata, the same operations and the same error classes. -/
theorem inspect_json_faithful (accepted : w.addService schema name = .ok (s, c))
    (integral : ∀ m, s.api.metadata? = some m → (Json.object m).isIntegral = true) :
    ∃ text j, (Command.inspect schema name true).run w = .ok text ∧
      (∀ limit, 127 ≤ limit → Json.readWithin? limit text = some j) ∧
      Summary.ofJson? j = some (Summary.ofService s) ∧
      (j.member? "metadata" = some .null ↔
        ∀ m, s.api.definition.get? "metadata" ≠ some (.object m)) ∧
      Text.Ascending (s.api.operations.map (·.name)) ∧
      Text.Ascending (s.errors.classes.map (·.name)) ∧
      (∀ code, code ∈ s.api.errorCodes ↔ ∃ k ∈ s.errors.classes, k.code? = some code) ∧
      ∀ (w' : Surroundings) (schema' : Path) (name' : Option String) (t : Service) (c' : Context),
        w'.addService schema' name' = .ok (t, c') →
        (∀ m, t.api.metadata? = some m → (Json.object m).isIntegral = true) →
        (Command.inspect schema' name' true).run w' = .ok text →
        s.name.text = t.name.text ∧ s.api.metadata? = t.api.metadata? ∧
          s.api.operations = t.api.operations ∧ s.errors = t.errors := by
  obtain ⟨coherent, -⟩ := Surroundings.coherent_of_addService accepted
  obtain ⟨-, holds⟩ := ErrorNamespace.holds_of_ofApi coherent.errors
  refine ⟨_, summaryJson s, run_inspect accepted, fun limit => readWithin?_summary accepted integral,
    Summary.ofJson?_summaryJson coherent, member?_metadata s,
    Text.ascending_iff.2 s.api.pairwise_operations, Text.ascending_iff.2 (pairwise_classes holds),
    fun code => mem_errorCodes_iff coherent.errors, ?_⟩
  intro w' schema' name' t c' accepted' integral' printed
  obtain ⟨coherent', -⟩ := Surroundings.coherent_of_addService accepted'
  rw [run_inspect accepted', Except.ok.injEq] at printed
  -- The reader takes both texts, so the same value was printed.
  have read := readWithin?_summary accepted integral (Nat.le_refl 127)
  rw [← printed, readWithin?_summary accepted' integral' (Nat.le_refl 127)] at read
  have decoded := Summary.ofJson?_summaryJson coherent
  rw [← Option.some.inj read, Summary.ofJson?_summaryJson coherent'] at decoded
  exact eq_of_summary_eq coherent coherent' (Option.some.inj decoded).symm

theorem inspect_json_faithful_sample :
    let w : Surroundings :=
      { files := fun _ => .ok (Json.object sampleDefinition).compact, environment := fun _ => none,
        color := false }
    ∃ s c text j, w.addService "sample.json" (some "Sample") = .ok (s, c) ∧
      s.api.definition = sampleDefinition ∧
      (Command.inspect "sample.json" (some "Sample") true).run w = .ok text ∧
      Json.read? text = some j ∧ Summary.ofJson? j = some (.ofService s) := by
  intro w
  have integral : (Json.object sampleDefinition).isIntegral = true := by decide
  have loads : Description.Loads w.files "sample.json" (.ok sampleDefinition) :=
    .object (by decide) rfl (Json.read?_compact integral (by decide))
  have codes : (ErrorNamespace.ofApi "Sample" ⟨sampleDefinition, 0⟩).toOption.isSome = true := by
    decide
  obtain ⟨errors, built⟩ := Option.isSome_iff_exists.1 codes
  let name : ServiceName := ⟨"Sample", by decide⟩
  have spelled : ServiceName.Spelled name.text := ServiceName.fault?_eq_none_iff.1 name.valid
  have found : w.Finds "sample.json" (some "Sample") _ :=
    .found .given spelled loads (toOption_eq_some_iff.1 built)
  obtain ⟨⟨s, c⟩, accepted, made⟩ := map_eq_ok_iff.1 (Surroundings.finds_iff.2 found)
  have definition : s.api.definition = sampleDefinition := congrArg (·.api.definition) made
  have metadata (m : Table Json) (hm : s.api.metadata? = some m) :
      (Json.object m).isIntegral = true := by
    have listed := Members.mem_toList_iff _ |>.2 (Api.section?_eq_some_iff.1 hm)
    rw [definition] at listed
    exact Json.isIntegral_object_iff.1 integral _ listed
  obtain ⟨text, j, printed, read, decoded, -⟩ := inspect_json_faithful accepted metadata
  exact ⟨s, c, text, j, accepted, definition, printed, read 127 (Nat.le_refl 127), decoded⟩

end ApiClients.CommandLine
