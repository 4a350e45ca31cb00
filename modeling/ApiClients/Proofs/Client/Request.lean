import ApiClients.Proofs.Client.Interface
import ApiClients.Proofs.Client.Params
import ApiClients.Proofs.Service.Coherent
import ApiClients.Proofs.Settings.Gate

/-!
# Requests that fit an API

A request fits an API (`Request.Fits`) if nothing in it goes against the definition: it is for an
operation that the definition has, the parameters are those that the operation takes, and the settings
are complete and well-formed. Every request of a client that has been checked against its API fits
this API (`Client.Gated.fits`): the operation comes from the interface, the parameters are checked by
the call, and the settings were checked when the client was made.
-/

namespace ApiClients

/-- Nothing in a request goes against the definition of an API. -/
structure Request.Fits (r : Request) (a : Api) : Prop where
  operation : ∃ entry, a.Defines r.operation.name entry ∧
    a.Describes r.operation.name entry r.operation
  params : r.params = .null ∨ ∃ t, r.params = .object t
  no_input : r.operation.input = none → r.params = .null ∨ r.params = .object ∅
  required : ∀ shape member, r.operation.input = some shape → a.Asks shape member →
    ∃ t, r.params = .object t ∧ t.contains member = true
  region : ∃ region, r.settings.region = some region ∧ region ≠ ""
  endpoint : ∀ endpoint, r.settings.endpoint = some endpoint → endpoint ≠ ""
  credentials : ∀ entry, a.Defines r.operation.name entry → ¬ a.DisablesSigning →
    ¬ Api.OptsOut entry →
      ∃ c, r.settings.credentials = some c ∧ c.accessKeyId ≠ "" ∧ c.secretAccessKey ≠ ""

variable {a : Api} {o : Operation} {c : Client} {r : Request} {service operation : String}
  {params : Json}

/-! ## Requests -/

/-- What a client that accepts a call sends. -/
theorem Client.request_eq_ok_iff :
    c.request operation params = .ok r ↔ ∃ o, c.interface.operation? operation = some o ∧
      Params.check c.interface.api o params = .ok () ∧
      r = { service := c.service, operation := o, params, settings := c.settings } := by
  unfold request
  cases c.interface.operation? operation with
  | none => simp
  | some o =>
    cases h : Params.check c.interface.api o params <;> simp [h, eq_comm]

/-- Settings that have been resolved for an API with an operation have a region. -/
theorem EffectiveSettings.exists_region {s : EffectiveSettings} {values : Values} {name : String}
    {entry : Table Json} (h : Resolved service a values (.ok s)) (defined : a.Defines name entry) :
    ∃ region, s.region = some region ∧ region ≠ "" := by
  obtain ⟨wf, region_there, -, holds⟩ := h
  cases hr : s.region with
  | none =>
    have blank := (isNone_region_iff wf holds).1 (Option.isNone_iff_eq_none.2 hr)
    exact absurd ⟨⟨name, entry, defined⟩, blank⟩ region_there
  | some region => exact ⟨region, rfl, holds.region_ne_empty wf hr⟩

/-- Settings that have been resolved for an API with a signed operation have credentials. -/
theorem EffectiveSettings.exists_credentials {s : EffectiveSettings} {values : Values}
    {name : String} {entry : Table Json} (h : Resolved service a values (.ok s))
    (defined : a.Defines name entry) (enabled : ¬ a.DisablesSigning) (signed : ¬ Api.OptsOut entry) :
    ∃ c, s.credentials = some c ∧ c.accessKeyId ≠ "" ∧ c.secretAccessKey ≠ "" := by
  obtain ⟨wf, -, credentials_there, holds⟩ := h
  have present : s.hasCredentials = true := by
    by_contra none
    rw [Bool.not_eq_true, not_hasCredentials_iff wf holds] at none
    exact credentials_there ⟨enabled, ⟨name, entry, defined, signed⟩, none⟩
  obtain ⟨c, hc, set⟩ := (Option.any_eq_true ..).1 present
  rw [Credentials.isSet, Bool.and_eq_true] at set
  exact ⟨c, hc, by simpa using set.1, by simpa using set.2⟩

/-- A request of a client that is checked against its API fits this API. -/
theorem Client.Gated.fits (gated : c.Gated) (h : c.request operation params = .ok r) :
    r.Fits c.interface.api := by
  obtain ⟨o, ho, checked, rfl⟩ := request_eq_ok_iff.1 h
  obtain ⟨t, members, no_input, required⟩ := Params.check_eq_ok_iff.1 checked
  obtain ⟨defaults, options, resolves⟩ := gated.settings
  have resolved := EffectiveSettings.resolved_resolve c.service c.interface.api defaults options
  rw [resolves] at resolved
  rw [gated.interface] at ho
  obtain ⟨entry, defined, eq⟩ := ClientInterface.operation_of_ofApi ho
  rw [Params.members?_eq_some_iff] at members
  refine ⟨⟨entry, defined, Api.describes_iff.2 eq⟩, ?_, fun none => ?_, fun shape member hs asked => ?_,
    EffectiveSettings.exists_region resolved defined, fun endpoint he => ?_,
    fun entry defined => EffectiveSettings.exists_credentials resolved defined⟩
  · exact members.imp And.left fun eq => ⟨t, eq⟩
  · obtain rfl := no_input none
    exact members.imp And.left id
  · have there := required shape hs member asked
    rcases members with ⟨-, rfl⟩ | eq
    · exact nomatch there
    · exact ⟨t, eq, there⟩
  · exact resolved.2.2.2.endpoint_ne_empty resolved.1 he

end ApiClients
