import ApiClients.CommandLine.Program
import ApiClients.Proofs.Api.Description
import ApiClients.Proofs.CommandLine.SchemaName
import ApiClients.Proofs.Service.Coherent

/-!
# The stages of a command

A command first finds the service that it is about. It derives a name (`Named`), judges it, loads the
description (`Description.Loads`) and builds the error classes, in this order, and the first of these stages
that fails gives the error (`Surroundings.Finds`, `finds_iff`). A command never gets further than the
service if it is not found.
-/

namespace ApiClients.CommandLine.Surroundings

variable {w : Surroundings} {schema : Path} {given : Option String} {s : Service} {c : Context}

/-- How a command finds its service: each stage with those that it comes after. -/
inductive Finds (w : Surroundings) (schema : Path) (given : Option String) :
    Except CommandError Service → Prop where
  | nameless (none : ∀ name, ¬ Named schema given name) :
    Finds w schema given (.error (.noServiceName schema))
  | invalidName {name : String} {fault : ServiceName.Fault} (named : Named schema given name)
    (faulty : ServiceName.Faulty name fault) :
    Finds w schema given (.error (.failure (.name ⟨name, fault⟩)))
  | undescribed {name : String} {e : DescriptionError} (named : Named schema given name)
    (spelled : ServiceName.Spelled name) (fails : Description.Loads w.files schema (.error e)) :
    Finds w schema given (.error (.failure (.description e)))
  | noNamespace {name : String} {definition : Table Json} {e : NamespaceError}
    (named : Named schema given name) (spelled : ServiceName.Spelled name)
    (loads : Description.Loads w.files schema (.ok definition))
    (fails : ErrorNamespace.ofApi name ⟨definition, 0⟩ = .error e) :
    Finds w schema given (.error (.failure (.errorNamespace e)))
  | found {name : ServiceName} {definition : Table Json} {errors : ErrorNamespace}
    (named : Named schema given name.text) (spelled : ServiceName.Spelled name.text)
    (loads : Description.Loads w.files schema (.ok definition))
    (built : ErrorNamespace.ofApi name.text ⟨definition, 0⟩ = .ok errors) :
    Finds w schema given (.ok
      { name, interface := .ofApi name.text ⟨definition, 0⟩, errors, transport := .unconfigured,
        generation := 0, serial := 1 })

/-- No case is left out. -/
theorem exists_finds (w : Surroundings) (schema : Path) (given : Option String) :
    ∃ r, w.Finds schema given r := by
  by_cases has_name : ∃ name, Named schema given name
  · obtain ⟨name, named⟩ := has_name
    cases judged : ServiceName.ofString name with
    | error e =>
      obtain ⟨rfl, faulty⟩ := ServiceName.ofString_eq_error_iff.1 judged
      exact ⟨_, .invalidName named faulty⟩
    | ok valid =>
      obtain rfl := ServiceName.text_of_ofString judged
      have spelled : ServiceName.Spelled valid.text := ServiceName.exists_ofString_iff.1 ⟨_, judged⟩
      obtain ⟨r, loads⟩ := Description.exists_loads w.files schema
      cases r with
      | error e => exact ⟨_, .undescribed named spelled loads⟩
      | ok definition =>
        cases built : ErrorNamespace.ofApi valid.text ⟨definition, 0⟩ with
        | error e => exact ⟨_, .noNamespace named spelled loads built⟩
        | ok errors => exact ⟨_, .found named spelled loads built⟩
  · exact ⟨_, .nameless fun name named => has_name ⟨name, named⟩⟩

theorem addService_of_named {name : String} (named : Named schema given name) :
    (w.addService schema given).map Prod.fst =
      (w.context.makeService w.files name (.path schema)).mapError .failure := by
  unfold addService Context.addService
  rw [serviceName?_eq_some_iff.2 named]
  dsimp only
  cases w.context.makeService w.files name (.path schema) <;> rfl

theorem makeService_of_loads {name : ServiceName} {definition : Table Json}
    (loads : Description.Loads w.files schema (.ok definition)) :
    w.context.makeService w.files name.text (.path schema) =
      ((ErrorNamespace.ofApi name.text ⟨definition, 0⟩).map fun errors =>
        { name, interface := .ofApi name.text ⟨definition, 0⟩, errors, transport := .unconfigured,
          generation := 0, serial := 1 }).mapError .errorNamespace := by
  have described : (Description.path schema).toApi w.files w.context.nextSerial =
      .ok ⟨definition, 0⟩ :=
    Description.toApi_of_loads loads 0
  rw [Context.makeService_of_described ServiceName.ofString_text described]
  rfl

theorem addService_of_finds {r : Except CommandError Service} (h : w.Finds schema given r) :
    (w.addService schema given).map Prod.fst = r := by
  cases h with
  | nameless none =>
    unfold addService
    rw [serviceName?_eq_none_iff.2 none]
    rfl
  | @invalidName name fault named faulty =>
    have invalid : ServiceName.ofString name = .error ⟨name, fault⟩ :=
      ServiceName.ofString_eq_error_iff.2 ⟨rfl, faulty⟩
    rw [addService_of_named named, Context.makeService_of_invalid invalid]
    rfl
  | undescribed named spelled fails =>
    obtain ⟨valid, accepted⟩ := ServiceName.exists_ofString_iff.2 spelled
    rw [addService_of_named named,
      Context.makeService_of_undescribed accepted (Description.toApi_of_loads fails _)]
    rfl
  | noNamespace named spelled loads fails =>
    obtain ⟨valid, accepted⟩ := ServiceName.exists_ofString_iff.2 spelled
    obtain rfl := ServiceName.text_of_ofString accepted
    rw [addService_of_named named, makeService_of_loads loads, fails]
    rfl
  | found named spelled loads built =>
    rw [addService_of_named named, makeService_of_loads loads, built]
    rfl

/-- The program goes through the stages. -/
theorem finds_iff {r : Except CommandError Service} :
    (w.addService schema given).map Prod.fst = r ↔ w.Finds schema given r := by
  refine ⟨?_, addService_of_finds⟩
  rintro rfl
  obtain ⟨r, found⟩ := exists_finds w schema given
  rwa [addService_of_finds found]

/-- A service that the program finds fits together, and its API is the one of the file. -/
theorem coherent_of_addService (h : w.addService schema given = .ok (s, c)) :
    s.Coherent ∧ (Description.path schema).toApi w.files 0 = .ok s.api := by
  have found : w.Finds schema given (.ok s) := finds_iff.1 (by rw [h]; rfl)
  cases found with
  | found named spelled loads built =>
    exact ⟨⟨rfl, built⟩, Description.toApi_of_loads loads 0⟩

/-- The settings that clients of the service start from are those of the environment. -/
theorem defaultsOf_of_addService (h : w.addService schema given = .ok (s, c)) :
    c.defaultsOf s = w.environment.settings := by
  have found : w.Finds schema given (.ok s) := finds_iff.1 (by rw [h]; rfl)
  have generation : s.generation = 0 := by
    cases found
    rfl
  have context : c = w.context.register s := by
    unfold addService at h
    split at h
    · exact nomatch h
    · next name _ =>
      cases made : w.context.makeService w.files name (.path schema) with
      | error e =>
        rw [Context.addService_of_error made] at h
        exact nomatch h
      | ok t =>
        rw [Context.addService_of_ok made] at h
        obtain ⟨rfl, rfl⟩ := Prod.mk.inj (Except.ok.inj h)
        rfl
  rw [context, Context.defaultsOf, generation]
  rfl

end ApiClients.CommandLine.Surroundings
