import ApiClients.Proofs.Api.Description
import ApiClients.Proofs.Api.Equality
import ApiClients.Proofs.Json.Reading
import ApiClients.Proofs.Service.Coherent

/-!
# Forms of one description

A definition may come as the text of a file, printed in either way, as a JSON value, or as an API
(`Description.Gives`). All these forms describe APIs with this definition
(`Description.toApi_of_gives`): where there is a text, the reader undoes the printer. So a context
makes the same of them, be it a service or a failure.
-/

namespace ApiClients

variable {files : Files} {d : Table Json}

/-- A description that holds the definition `d` in one of its forms. An empty path names no file. -/
inductive Description.Gives (files : Files) (d : Table Json) : Description → Prop where
  | compact {p : Path} (named : p ≠ "") (text : files p = .ok (Json.object d).compact) :
    Gives files d (.path p)
  | pretty {p : Path} (named : p ≠ "") (text : files p = .ok (Json.object d).pretty) :
    Gives files d (.path p)
  | document : Gives files d (.document (.object d))
  | api (serial : Nat) : Gives files d (.api ⟨d, serial⟩)

/-- A description in any form gives an API with this definition, which may be an instance made
anew. -/
theorem Description.toApi_of_gives {x : Description} (h : x.Gives files d)
    (integral : (Json.object d).isIntegral = true) (depth : (Json.object d).depth ≤ Json.maxDepth)
    (serial : Nat) : ∃ n, x.toApi files serial = .ok ⟨d, n⟩ := by
  have file {p : Path} {text : String} (named : p ≠ "") (content : files p = .ok text)
      (read : Json.read? text = some (.object d)) :
      (Description.path p).toApi files serial = .ok ⟨d, serial⟩ :=
    toApi_of_loads (.object named content read) serial
  cases h with
  | compact named text => exact ⟨serial, file named text (Json.read?_compact integral depth)⟩
  | pretty named text => exact ⟨serial, file named text (Json.read?_pretty integral depth)⟩
  | document => exact ⟨serial, rfl⟩
  | api n => exact ⟨n, rfl⟩

/-- Two ways to add a service that come to the same. Each outcome is a result and the context that it
leaves behind: services with equal parts, which are registered there, or the same failure, which lies
in the name or in the error codes. -/
inductive SameOutcome (name : String) (d : Table Json) :
    Except Failure Service × Context → Except Failure Service × Context → Prop where
  | added {s t : Service} {c c' : Context} (definition : s.api.equalsJson (.object d) = true)
    (api : (s.api == t.api) = true) (interface : (s.interface == t.interface) = true)
    (errors : s.errors = t.errors) (registered : c.service name = .ok s)
    (registered' : c'.service name = .ok t) : SameOutcome name d (.ok s, c) (.ok t, c')
  | invalidName (e : ServiceName.Invalid) {c c' : Context} :
    SameOutcome name d (.error (.name e), c) (.error (.name e), c')
  | noNamespace (e : NamespaceError) {c c' : Context} :
    SameOutcome name d (.error (.errorNamespace e), c) (.error (.errorNamespace e), c')

/-- A definition with nested containers, empty ones among them, and with a key that needs
escapes. -/
def sampleDefinition : Table Json :=
  .ofList
    [("metadata", .ofMembers [("apiVersion", .string "2024-01-01")]),
     ("operations", .ofMembers [("Get", .ofMembers
      [("errors", .array [.ofMembers [("shape", .string "Gone")]])])]),
     ("shapes", .ofMembers [("Gone", .ofMembers
      [("exception", .bool true), ("status", .number (.integer (-404) (by decide)))])]),
     ("notes\n\x01\"", .array [.array [], .ofMembers [], .null])]

namespace Context

variable {c : Context} {name : String} {x : Description}

theorem service_register (c : Context) (s : Service) :
    (c.register s).service s.name.text = .ok s :=
  service_eq_ok_iff.2 (Members.get?_insert_self _)

/-- A context makes the same of a definition in all its forms. -/
theorem addService_forms {c' : Context} {files' : Files} {x' : Description}
    (integral : (Json.object d).isIntegral = true) (depth : (Json.object d).depth ≤ 127)
    (form : x.Gives files d) (form' : x'.Gives files' d) :
    SameOutcome name d (c.addService files name x) (c'.addService files' name x') := by
  obtain ⟨n, described⟩ := Description.toApi_of_gives form integral depth c.nextSerial
  obtain ⟨n', described'⟩ := Description.toApi_of_gives form' integral depth c'.nextSerial
  have same : ((⟨d, n⟩ : Api) == ⟨d, n'⟩) = true := Api.equal_iff.2 rfl
  cases spelled : ServiceName.ofString name with
  | error e =>
    rw [addService_of_error (makeService_of_invalid spelled),
      addService_of_error (makeService_of_invalid spelled)]
    exact .invalidName e
  | ok valid =>
    have owner : valid.text = name := ServiceName.text_of_ofString spelled
    have made := makeService_of_described (c := c) spelled described
    have made' := makeService_of_described (c := c') spelled described'
    -- Both namespaces are made of the same codes.
    have codes := (Api.agree_of_equal same).errors valid.text
    unfold Service.make at made made'
    rw [← codes] at made'
    cases built : ErrorNamespace.ofApi valid.text ⟨d, n⟩ with
    | error e =>
      rw [built] at made made'
      rw [addService_of_error made, addService_of_error made']
      exact .noNamespace e
    | ok errors =>
      rw [built] at made made'
      rw [addService_of_ok made, addService_of_ok made']
      refine .added (Api.equal_iff.2 rfl) same ((Api.agree_of_equal same).interface _) rfl ?_ ?_
      · exact owner ▸ service_register c _
      · exact owner ▸ service_register c' _

theorem addService_forms_sample :
    (({} : Context).addService (fun _ => .error .notFound) "Sample"
      (.document (.object sampleDefinition))).1.toOption.isSome = true ∧
    SameOutcome "Sample" sampleDefinition
      (({} : Context).addService (fun _ => .error .notFound) "Sample"
        (.document (.object sampleDefinition)))
      (({} : Context).addService (fun _ => .ok (Json.object sampleDefinition).pretty) "Sample"
        (.path "sample.json")) :=
  ⟨by decide, addService_forms (by decide) (by decide) .document (.pretty (by decide) rfl)⟩

end Context

end ApiClients
