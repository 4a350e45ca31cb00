import ApiClients.Proofs.Results
import ApiClients.Proofs.Settings.Sources

/-!
# Options made by assignments

Of the assignments that options are made by, the last one for a key counts (`Assignment.LastIn`). Its
value is what the options have for the key, and what the defaults have for it has no influence. Typed
assignments are never refused, but for an empty region or endpoint: the credentials, the region and the
endpoint that were assigned last are those of the settings (`resolve_ofAssignments`).
-/

namespace ApiClients

variable {l : List Assignment} {a : Assignment} {k r : String} {v : Json}
  {defaults defaults' options : Settings}

/-! ## The last assignment -/

/-- The assignment is the last one of a list for its key. -/
def Assignment.LastIn (a : Assignment) (l : List Assignment) : Prop :=
  ∃ before after, l = before ++ a :: after ∧ ∀ b ∈ after, b.key ≠ a.key

namespace Settings

theorem get?_ofAssignments_eq_some_iff : Members.get? (ofAssignments l) k = some v ↔
    ∃ a : Assignment, a.LastIn l ∧ a.key = k ∧ a.value = v := by
  rw [get?_ofAssignments, lookup_reverse_eq_some_iff]
  constructor
  · rintro ⟨_, _, eq, last⟩
    obtain ⟨before, rest, rfl, rfl, eq'⟩ := List.map_eq_append_iff.1 eq
    obtain ⟨a, after, rfl, pair, rfl⟩ := List.map_eq_cons_iff.1 eq'
    obtain ⟨rfl, rfl⟩ := Prod.mk.inj pair
    refine ⟨a, ⟨before, after, rfl, fun b hb => ?_⟩, rfl, rfl⟩
    exact last _ (List.mem_map_of_mem hb)
  · rintro ⟨a, ⟨before, after, rfl, last⟩, rfl, rfl⟩
    refine ⟨_, _, List.map_append, fun e he => ?_⟩
    obtain ⟨b, hb, rfl⟩ := List.mem_map.1 he
    exact last b hb

theorem get?_ofAssignments_eq_none_iff :
    Members.get? (ofAssignments l) k = none ↔ ∀ a ∈ l, a.key ≠ k := by
  rw [get?_ofAssignments, lookup_reverse_eq_none_iff, List.forall_mem_map]

theorem effective?_of_lastIn (defaults : Settings) (h : a.LastIn l) :
    effective? defaults (ofAssignments l) a.key = some a.value := by
  rw [effective?_eq_or, get?_ofAssignments_eq_some_iff.2 ⟨a, h, rfl, rfl⟩, Option.some_or]

/-- What the defaults have for a key that is assigned does not count. -/
theorem effective?_congr_defaults
    (agree : ∀ k, (∀ a ∈ l, a.key ≠ k) → Members.get? defaults k = Members.get? defaults' k) :
    effective? defaults (ofAssignments l) = effective? defaults' (ofAssignments l) := by
  funext k
  rw [effective?_eq_or, effective?_eq_or]
  cases h : Members.get? (ofAssignments l) k with
  | some v => rfl
  | none => rw [agree k (get?_ofAssignments_eq_none_iff.1 h)]

end Settings

/-! ## What is resolved -/

namespace EffectiveSettings

variable {values : Values} {key : SettingKey} {cause : ValueError} {c : Credentials}
  {s : EffectiveSettings} {service : String} {api : Api}

theorem not_refused_of_toJson (h : values SettingKey.credentials.name = some c.toJson) :
    ¬ Refused values .credentials cause := by
  rintro ⟨v, hv, -, malformed⟩
  obtain rfl := Option.some.inj (h.symm.trans hv)
  cases malformed with
  | notText not_credentials => exact not_credentials rfl
  | notCredentials undecoded => exact nomatch (Credentials.ofJson_toJson c).symm.trans undecoded

/-- A text is refused only if it is empty. -/
theorem Refused.of_string (h : Refused values key cause) (text : key ≠ .credentials)
    (given : values key.name = some (.string r)) : r = "" ∧ cause = .empty := by
  obtain ⟨v, hv, -, malformed⟩ := h
  obtain rfl := Option.some.inj (given.symm.trans hv)
  cases malformed with
  | empty => exact ⟨rfl, rfl⟩
  | notText _ not_string => exact absurd rfl not_string
  | notCredentials => exact absurd rfl text

theorem refused_of_resolve
    (h : resolve service api defaults options = .error (.invalid key cause)) :
    Refused (Settings.effective? defaults options) key cause := by
  have first : FirstFault (Settings.effective? defaults options) key cause := resolve_eq_iff.1 h
  exact first.1

theorem holds_of_resolve (h : resolve service api defaults options = .ok s) :
    WellFormed (Settings.effective? defaults options) ∧
      Holds (Settings.effective? defaults options) s := by
  obtain ⟨wf, -, -, holds⟩ := resolve_eq_iff.1 h
  exact ⟨wf, holds⟩

/-- Values decide the outcome, whatever they come from. -/
theorem resolve_congr {options' : Settings}
    (h : Settings.effective? defaults options = Settings.effective? defaults' options') :
    resolve service api defaults options = resolve service api defaults' options' := by
  rw [resolve_eq_iff, h]
  exact resolved_resolve service api defaults' options'

/-- What comes of the assignments that options are made by: the last one for a key decides what the
options have for it, and what the defaults have for it is not looked at. Credentials are taken over as
they were assigned, and so are a region and an endpoint, which are refused only if they are empty. -/
theorem resolve_ofAssignments (l : List Assignment) (service : String) (api : Api)
    (defaults : Settings) :
    let options := Settings.ofAssignments l
    let outcome := resolve service api defaults options
    (∀ k v, Members.get? options k = some v ↔
      ∃ a : Assignment, a.LastIn l ∧ a.key = k ∧ a.value = v) ∧
    (∀ k, Members.get? options k = none ↔ ∀ a ∈ l, a.key ≠ k) ∧
    (∀ c, (Assignment.credentials c).LastIn l →
      (∀ cause, outcome ≠ .error (.invalid .credentials cause)) ∧
      ∀ s, outcome = .ok s → s.credentials = some c) ∧
    (∀ r, (Assignment.region r).LastIn l →
      (∀ cause, outcome = .error (.invalid .region cause) → r = "" ∧ cause = .empty) ∧
      ∀ s, outcome = .ok s → r ≠ "" ∧ s.region = some r) ∧
    (∀ e, (Assignment.endpoint e).LastIn l →
      (∀ cause, outcome = .error (.invalid .endpoint cause) → e = "" ∧ cause = .empty) ∧
      ∀ s, outcome = .ok s → e ≠ "" ∧ s.endpoint = some e) ∧
    ∀ defaults' : Settings, (∀ k, (∀ a ∈ l, a.key ≠ k) →
      Members.get? defaults k = Members.get? defaults' k) →
        resolve service api defaults' options = outcome := by
  intro options outcome
  refine ⟨fun k v => Settings.get?_ofAssignments_eq_some_iff,
    fun k => Settings.get?_ofAssignments_eq_none_iff, fun c last => ?_, fun r last => ?_,
    fun e last => ?_, fun defaults' agree => ?_⟩
  · have given := Settings.effective?_of_lastIn defaults last
    refine ⟨fun cause refused => not_refused_of_toJson given (refused_of_resolve refused),
      fun s ok => ?_⟩
    obtain ⟨-, holds⟩ := holds_of_resolve ok
    exact (holds.credentials c).2 ⟨_, given, Credentials.ofJson_toJson c⟩
  · have given := Settings.effective?_of_lastIn defaults last
    refine ⟨fun cause refused => (refused_of_resolve refused).of_string nofun given,
      fun s ok => ?_⟩
    obtain ⟨wf, holds⟩ := holds_of_resolve ok
    have region := (holds.region r).2 given
    exact ⟨holds.region_ne_empty wf region, region⟩
  · have given := Settings.effective?_of_lastIn defaults last
    refine ⟨fun cause refused => (refused_of_resolve refused).of_string nofun given,
      fun s ok => ?_⟩
    obtain ⟨wf, holds⟩ := holds_of_resolve ok
    have endpoint := (holds.endpoint e).2 given
    exact ⟨holds.endpoint_ne_empty wf endpoint, endpoint⟩
  · exact (resolve_congr (Settings.effective?_congr_defaults agree)).symm

/-- Credentials with an empty part, after a value that is none and before a region that is set anew. -/
theorem resolve_ofAssignments_anonymous :
    let c : Credentials := ⟨"", "secret", some ""⟩
    let l : List Assignment := [.region "", .option "credentials" (.bool true), .credentials c,
      .option "region" .null, .endpoint "local", .region "eu"]
    let defaults : Settings := .ofList [("region", .bool true), ("stage", .string "test")]
    let defaults' : Settings := .ofList [("endpoint", .string "x"), ("stage", .string "test")]
    Members.get? (Settings.ofAssignments l) "region" = some (.string "eu") ∧
      Members.get? (Settings.ofAssignments l) "stage" = none ∧
      ∃ s, resolve "S" ⟨∅, 0⟩ defaults (Settings.ofAssignments l) = .ok s ∧
        resolve "S" ⟨∅, 0⟩ defaults' (Settings.ofAssignments l) = .ok s ∧
        s.credentials = some c ∧ s.region = some "eu" ∧ s.endpoint = some "local" := by
  intro c l defaults defaults'
  have region : (Assignment.region "eu").LastIn l := ⟨l.take 5, [], rfl, nofun⟩
  have endpoint : (Assignment.endpoint "local").LastIn l := ⟨l.take 4, l.drop 5, rfl, by decide⟩
  have credentials : (Assignment.credentials c).LastIn l :=
    ⟨l.take 2, l.drop 3, rfl, by decide⟩
  obtain ⟨get, unset, taken, set, addressed, congr⟩ :=
    resolve_ofAssignments l "S" ⟨∅, 0⟩ defaults
  have same : resolve "S" ⟨∅, 0⟩ defaults' (Settings.ofAssignments l) =
      resolve "S" ⟨∅, 0⟩ defaults (Settings.ofAssignments l) := by
    refine congr defaults' fun k free => ?_
    have not_region : k ≠ "region" := (free (.region "eu") (by simp [l])).symm
    have not_endpoint : k ≠ "endpoint" := (free (.endpoint "local") (by simp [l])).symm
    simp [defaults, defaults', Members.get?_insertNew, not_region, not_endpoint]
  obtain ⟨s, ok⟩ : ∃ s, resolve "S" ⟨∅, 0⟩ defaults (Settings.ofAssignments l) = .ok s := by
    have accepted : (resolve "S" ⟨∅, 0⟩ defaults (Settings.ofAssignments l)).toOption.isSome := by
      decide +kernel
    obtain ⟨s, ok⟩ := Option.isSome_iff_exists.1 accepted
    exact ⟨s, Results.toOption_eq_some_iff.1 ok⟩
  exact ⟨(get _ _).2 ⟨_, region, rfl, rfl⟩, (unset _).2 (by decide), s, ok, same.trans ok,
    (taken c credentials).2 s ok, ((set _ region).2 s ok).2, ((addressed _ endpoint).2 s ok).2⟩

end EffectiveSettings

end ApiClients
