import ApiClients.Proofs.Client.Request
import ApiClients.Proofs.ErrorClass.Classification
import ApiClients.Proofs.Service.Name

/-!
# Parts that match

The parts of a service match if they are made of one API under one name (`Matching`), and the same is
asked of a client. A service that fits together has matching parts (`Service.Coherent.matching`), and
so have its clients (`Service.Coherent.matching_newClient`). In particular each code that one of its
operations declares has a declared class: operations and error classes read the definition of the API
each in their own way, but they find the same codes.
-/

namespace ApiClients

open Results

/-! ## Operations and error classes -/

variable {a : Api} {n : ErrorNamespace} {service name code : String}

theorem ErrorNamespace.exists_declaredClass (h : ofApi service a = .ok n) (hc : code ∈ a.errorCodes) :
    ∃ k, n.declaredClass? code = some k ∧ k.code? = some code ∧ k.descendsFrom n.base = true := by
  obtain ⟨separable, holds⟩ := holds_of_ofApi h
  obtain ⟨x, hx⟩ := ErrorClass.exists_name_iff.2 (separable.hasWord code hc)
  refine ⟨_, (holds.declaredClass?_eq_some_iff separable).2 ⟨x, ⟨hc, hx⟩, rfl⟩, rfl, ?_⟩
  rw [ErrorClass.descendsFrom_iff, holds.base]
  exact ⟨rfl, .inl rfl⟩

/-! ## Services and clients -/

/-- An interface and error classes are made of one API under a name. -/
structure Matching (name : String) (i : ClientInterface) (e : ErrorNamespace) : Prop where
  spelled : ServiceName.Spelled name
  interface_service : i.service = name
  errors_service : e.service = name
  interface : i = .ofApi name i.api
  errors : ErrorNamespace.ofApi name i.api = .ok e
  declared : ∀ operation o, i.operation? operation = some o → ∀ code ∈ o.errors,
    ∃ k, e.declaredClass? code = some k ∧ k.code? = some code ∧ k.descendsFrom e.base = true

theorem Service.Coherent.matching {s : Service} (h : s.Coherent) :
    Matching s.name.text s.interface s.errors where
  spelled := ServiceName.fault?_eq_none_iff.1 s.name.valid
  interface_service := by rw [h.interface]; rfl
  errors_service := (ErrorNamespace.holds_of_ofApi h.errors).2.owner
  interface := h.interface
  errors := h.errors
  declared operation o ho code hc := by
    rw [h.interface] at ho
    have mem := Api.mem_operations_iff.2 (ClientInterface.operation_of_ofApi ho)
    exact ErrorNamespace.exists_declaredClass h.errors (Api.mem_errorCodes_of_mem_errors mem hc)

/-- A client has the interface and the error classes of its service. -/
theorem Service.Coherent.matching_newClient {s : Service} {defaults options : Settings} {c : Client}
    (hs : s.Coherent) (h : s.newClient defaults options = .ok c) :
    Matching c.service c.interface c.errors := by
  obtain ⟨settings, -, rfl⟩ := map_eq_ok_iff.1 h
  show Matching s.interface.service s.interface s.errors
  rw [hs.matching.interface_service]
  exact hs.matching

/-- A service that is made of an API holds this very API. -/
theorem Context.api_of_makeService {c : Context} {files : Files} {s : Service}
    (h : c.makeService files name (.api a) = .ok s) : s.api = a := by
  obtain ⟨_, -, h⟩ := bind_eq_ok_iff.1 h
  obtain ⟨_, given, h⟩ := bind_eq_ok_iff.1 h
  obtain rfl := Except.ok.inj given
  obtain ⟨_, -, rfl⟩ := map_eq_ok_iff.1 (mapError_eq_ok_iff.1 h)
  rfl

end ApiClients
