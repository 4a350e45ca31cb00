import ApiClients.Context.Basic
import ApiClients.Proofs.Results
import ApiClients.Proofs.Service.Name

/-!
# Services that fit together

The parts of a service are made of its name and its API (`Service.Coherent`), and so are those of its
clients, whose settings have been checked against the same API (`Client.Gated`). Every service that a
context makes fits together in this way, and so does every client of such a service.
-/

namespace ApiClients

open Results

/-- The interface and the error classes of a service are those of its API, under its name. -/
structure Service.Coherent (s : Service) : Prop where
  interface : s.interface = .ofApi s.name.text s.api
  errors : ErrorNamespace.ofApi s.name.text s.api = .ok s.errors

/-- The interface and the error classes of a client are those of its API, and its settings have been
resolved for this API. -/
structure Client.Gated (c : Client) : Prop where
  interface : c.interface = .ofApi c.service c.interface.api
  errors : ErrorNamespace.ofApi c.service c.interface.api = .ok c.errors
  settings : ∃ defaults options,
    EffectiveSettings.resolve c.service c.interface.api defaults options = .ok c.settings

theorem Context.service_eq_ok_iff {c : Context} {name : String} {service : Service} :
    c.service name = .ok service ↔ c.registry.get? name = some service := by
  unfold Context.service
  cases c.registry.get? name <;> simp [found]

theorem Context.service_eq_error_iff {c : Context} {name : String} {e : Failure} :
    c.service name = .error e ↔
      e = .unknownService name ∧ ∀ service, c.registry.get? name ≠ some service := by
  unfold Context.service
  cases c.registry.get? name <;> simp [found, eq_comm]

theorem Service.coherent_make {name : ServiceName} {api : Api} {transport : Transport}
    {generation serial : Nat} {service : Service}
    (h : make name api transport generation serial = .ok service) :
    service.Coherent ∧ service.name = name := by
  obtain ⟨errors, he, rfl⟩ := map_eq_ok_iff.1 h
  exact ⟨⟨rfl, he⟩, rfl⟩

/-- A service that a context makes fits together, and it has the name that was asked for. -/
theorem Context.coherent_makeService {c : Context} {files : Files} {name : String} {d : Description}
    {service : Service} (h : c.makeService files name d = .ok service) :
    service.Coherent ∧ service.name.text = name := by
  obtain ⟨valid, hn, h⟩ := bind_eq_ok_iff.1 h
  obtain ⟨api, -, h⟩ := bind_eq_ok_iff.1 h
  obtain ⟨coherent, eq⟩ := Service.coherent_make (mapError_eq_ok_iff.1 h)
  refine ⟨coherent, ?_⟩
  rw [eq]
  exact ServiceName.text_of_ofString (mapError_eq_ok_iff.1 hn)

namespace Context

variable {c : Context} {files : Files} {name : String} {d : Description}

/-! ### Stages of making a service -/

theorem makeService_of_invalid {e : ServiceName.Invalid} (h : ServiceName.ofString name = .error e) :
    c.makeService files name d = .error (.name e) := by
  unfold makeService
  rw [h]
  rfl

theorem makeService_of_undescribed {valid : ServiceName} {e : DescriptionError}
    (h : ServiceName.ofString name = .ok valid) (fails : d.toApi files c.nextSerial = .error e) :
    c.makeService files name d = .error (.description e) := by
  unfold makeService
  rw [h, fails]
  rfl

theorem makeService_of_described {valid : ServiceName} {api : Api}
    (h : ServiceName.ofString name = .ok valid) (described : d.toApi files c.nextSerial = .ok api) :
    c.makeService files name d =
      (Service.make valid api c.transport c.defaults.generation (c.nextSerial + 1)).mapError
        .errorNamespace := by
  unfold makeService
  rw [h, described]
  rfl

theorem addService_of_ok {s : Service} (h : c.makeService files name d = .ok s) :
    c.addService files name d = (.ok s, c.register s) := by
  unfold addService
  rw [h]

theorem addService_of_error {e : Failure} (h : c.makeService files name d = .error e) :
    c.addService files name d = (.error e, c) := by
  unfold addService
  rw [h]

end Context

/-- The clients of a service that fits together are checked against its API. -/
theorem Service.Coherent.gated {s : Service} {defaults options : Settings} {c : Client}
    (hs : s.Coherent) (h : s.newClient defaults options = .ok c) : c.Gated := by
  obtain ⟨settings, hr, rfl⟩ := map_eq_ok_iff.1 h
  have owner : s.interface.service = s.name.text := by rw [hs.interface]; rfl
  refine ⟨?_, ?_, defaults, options, ?_⟩
  · show s.interface = .ofApi s.interface.service s.api
    rw [owner]
    exact hs.interface
  · show ErrorNamespace.ofApi s.interface.service s.api = .ok s.errors
    rw [owner]
    exact hs.errors
  · show EffectiveSettings.resolve s.interface.service s.api defaults options = .ok settings
    rw [owner]
    exact hr

end ApiClients
