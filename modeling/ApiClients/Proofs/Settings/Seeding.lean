import ApiClients.Proofs.Settings.Options

/-!
# Settings from the environment alone

The environment supplies a region if its variable holds something, and credentials if the variables of
both parts of the key hold something. What it supplies is never malformed (`wellFormed_settings`): what
would be refused is left out when the settings are made. So without options a client is refused only
for what its API requires and the environment lacks, and otherwise its settings are those of the
variables and nothing else (`resolve_environment`).
-/

namespace ApiClients

open EffectiveSettings

namespace Environment

variable {env : Environment} {x k r : String} {c : Credentials} {s : EffectiveSettings} {a : Api}

/-- A variable is unset, or it is empty. -/
def Lacks (env : Environment) (x : String) : Prop :=
  ∀ s, env x = some s → s = ""

/-- The settings that the variables spell: the region and the credentials that are there, the session
token as it is set, and nothing else. -/
structure Supplies (env : Environment) (s : EffectiveSettings) : Prop where
  region : ∀ r, s.region = some r ↔ env "STRATUS_REGION" = some r ∧ r ≠ ""
  credentials : ∀ c, s.credentials = some c ↔
    env "STRATUS_ACCESS_KEY_ID" = some c.accessKeyId ∧ c.accessKeyId ≠ "" ∧
      env "STRATUS_SECRET_ACCESS_KEY" = some c.secretAccessKey ∧ c.secretAccessKey ≠ "" ∧
      env "STRATUS_SESSION_TOKEN" = c.sessionToken
  endpoint : s.endpoint = none
  extra : s.extra = ∅

/-! ## What is left out -/

theorem region?_eq_none_iff : env.region? = none ↔ env.Lacks "STRATUS_REGION" := by
  rw [Option.eq_none_iff_forall_ne_some]
  simp only [ne_eq, region?_eq_some_iff, not_and, not_not]
  rfl

/-- The credentials that are supplied, part by part. -/
theorem credentials?_eq_some_iff_parts : env.credentials? = some c ↔
    env "STRATUS_ACCESS_KEY_ID" = some c.accessKeyId ∧ c.accessKeyId ≠ "" ∧
      env "STRATUS_SECRET_ACCESS_KEY" = some c.secretAccessKey ∧ c.secretAccessKey ≠ "" ∧
      env "STRATUS_SESSION_TOKEN" = c.sessionToken := by
  rw [credentials?_eq_some_iff]
  constructor
  · rintro ⟨id, secret, hid, hsecret, id_ne, secret_ne, rfl⟩
    exact ⟨hid, id_ne, hsecret, secret_ne, rfl⟩
  · rintro ⟨hid, id_ne, hsecret, secret_ne, token⟩
    exact ⟨_, _, hid, hsecret, id_ne, secret_ne, by rw [token]⟩

theorem credentials?_eq_none_iff : env.credentials? = none ↔
    env.Lacks "STRATUS_ACCESS_KEY_ID" ∨ env.Lacks "STRATUS_SECRET_ACCESS_KEY" := by
  constructor
  · intro h
    by_contra held
    simp only [Lacks, not_or, not_forall] at held
    obtain ⟨⟨id, hid, id_ne⟩, secret, hsecret, secret_ne⟩ := held
    have := credentials?_eq_some_iff.2 ⟨id, secret, hid, hsecret, id_ne, secret_ne, rfl⟩
    exact nomatch h.symm.trans this
  · intro h
    rw [Option.eq_none_iff_forall_ne_some]
    intro c hc
    obtain ⟨hid, id_ne, hsecret, secret_ne, -⟩ := credentials?_eq_some_iff_parts.1 hc
    rcases h with lacks | lacks
    · exact id_ne (lacks _ hid)
    · exact secret_ne (lacks _ hsecret)

/-! ## The values of the keys -/

theorem get?_settings_region : Members.get? env.settings "region" = env.region?.map .string := by
  simp [get?_settings]

theorem get?_settings_credentials :
    Members.get? env.settings "credentials" = env.credentials?.map Credentials.toJson := by
  simp [get?_settings]

theorem get?_settings_of_ne (not_region : k ≠ "region") (not_credentials : k ≠ "credentials") :
    Members.get? env.settings k = none := by
  simp [get?_settings, not_region, not_credentials]

theorem exists_decoded_iff :
    (∃ v, Members.get? env.settings "credentials" = some v ∧ Credentials.ofJson v = .ok c) ↔
      env.credentials? = some c := by
  rw [get?_settings_credentials]
  constructor
  · rintro ⟨v, hv, decoded⟩
    obtain ⟨d, hd, rfl⟩ := Option.map_eq_some_iff.1 hv
    rw [Credentials.ofJson_toJson] at decoded
    rw [hd, Except.ok.inj decoded]
  · intro h
    exact ⟨c.toJson, by rw [h]; rfl, Credentials.ofJson_toJson c⟩

/-! ## The rules -/

theorem wellFormed_settings : WellFormed (Settings.effective? env.settings ∅) := by
  intro key cause refused
  have ⟨v, hv, _⟩ := refused
  have seeds : env.Seeds key.name v := get?_settings_eq_some_iff.1 hv
  generalize hk : key.name = k at seeds
  cases seeds with
  | region set not_empty =>
    obtain rfl : key = .region := SettingKey.name_injective hk
    exact not_empty (refused.of_string nofun hv).1
  | credentials =>
    obtain rfl : key = .credentials := SettingKey.name_injective hk
    exact not_refused_of_toJson hv refused

theorem lacksRegion_iff : LacksRegion a (Settings.effective? env.settings ∅) ↔
    a.requiresRegion = true ∧ env.Lacks "STRATUS_REGION" := by
  have blank : Blank (Settings.effective? env.settings ∅) .region ↔ env.region? = none := by
    show Members.get? env.settings "region" = none ∨ Members.get? env.settings "region" = some .null ↔ _
    rw [get?_settings_region]
    cases env.region? <;> simp
  rw [LacksRegion, ← Api.requiresRegion_iff, blank, region?_eq_none_iff]

theorem lacksCredentials_iff : LacksCredentials a (Settings.effective? env.settings ∅) ↔
    a.requiresCredentials = true ∧
      (env.Lacks "STRATUS_ACCESS_KEY_ID" ∨ env.Lacks "STRATUS_SECRET_ACCESS_KEY") := by
  have blank : Blank (Settings.effective? env.settings ∅) .credentials ↔ env.credentials? = none := by
    show Members.get? env.settings "credentials" = none ∨
      Members.get? env.settings "credentials" = some .null ↔ _
    rw [get?_settings_credentials]
    cases env.credentials? <;> simp [Credentials.toJson]
  -- Credentials that are supplied have both parts of the key.
  have whole : ¬ ∃ v c, Settings.effective? env.settings ∅ SettingKey.credentials.name = some v ∧
      Credentials.ofJson v = .ok c ∧ (c.accessKeyId = "" ∨ c.secretAccessKey = "") := by
    rintro ⟨v, c, hv, decoded, empty⟩
    have supplied := exists_decoded_iff.1 ⟨v, hv, decoded⟩
    obtain ⟨-, id_ne, -, secret_ne, -⟩ := credentials?_eq_some_iff_parts.1 supplied
    exact empty.elim id_ne secret_ne
  rw [LacksCredentials, or_iff_left whole, blank, credentials?_eq_none_iff, ← and_assoc,
    ← Api.requiresCredentials_iff]

theorem holds_iff_supplies :
    Holds (Settings.effective? env.settings ∅) s ↔ env.Supplies s := by
  have region (r : String) : Settings.effective? env.settings ∅ SettingKey.region.name =
      some (.string r) ↔ env "STRATUS_REGION" = some r ∧ r ≠ "" := by
    show Members.get? env.settings "region" = _ ↔ _
    rw [get?_settings_region, ← region?_eq_some_iff]
    simp
  have credentials (c : Credentials) :=
    (@exists_decoded_iff env c).trans credentials?_eq_some_iff_parts
  have other {k : String} (not_region : k ≠ "region") (not_credentials : k ≠ "credentials") :
      Settings.effective? env.settings ∅ k = none :=
    get?_settings_of_ne not_region not_credentials
  constructor
  · intro holds
    refine ⟨fun r => (holds.region r).trans (region r),
      fun c => (holds.credentials c).trans (credentials c), ?_, ?_⟩
    · rw [Option.eq_none_iff_forall_ne_some]
      intro e he
      have := (holds.endpoint e).1 he
      rw [other (by decide) (by decide)] at this
      exact nomatch this
    · apply Members.ext_get?
      intro k
      cases hk : SettingKey.ofName? k with
      | some key => rw [SettingKey.ofName?_eq_some_iff.1 hk, holds.recognized, Members.get?_empty]
      | none =>
        have unnamed := SettingKey.ofName?_eq_none_iff.1 hk
        rw [holds.extra k unnamed, other (unnamed .region).symm (unnamed .credentials).symm]
        rfl
  · intro supplies
    refine ⟨fun r => (supplies.region r).trans (region r).symm, fun e => ?_,
      fun c => (supplies.credentials c).trans (credentials c).symm, fun key => ?_, fun k hk => ?_⟩
    · rw [supplies.endpoint, other (by decide) (by decide)]
      simp
    · rw [supplies.extra, Members.get?_empty]
    · rw [supplies.extra, other (hk .region).symm (hk .credentials).symm, Members.get?_empty]

end Environment

/-! ## The outcome -/

/-- What a client without options comes to, whose defaults are those of the environment. No value is
malformed. A region is missing if the API requires one and its variable is unset or empty. Otherwise
credentials are missing if the API requires them and one of the variables of the key is unset or empty.
Otherwise there are settings, and they are what the variables spell. -/
theorem EffectiveSettings.resolve_environment (service : String) (a : Api) (env : Environment) :
    let outcome := resolve service a env.settings ∅
    let noRegion := a.requiresRegion = true ∧ env.Lacks "STRATUS_REGION"
    let noCredentials := a.requiresCredentials = true ∧
      (env.Lacks "STRATUS_ACCESS_KEY_ID" ∨ env.Lacks "STRATUS_SECRET_ACCESS_KEY")
    (∀ key cause, outcome ≠ .error (.invalid key cause)) ∧
    (∀ owner, outcome = .error (.missingRegion owner) ↔ owner = service ∧ noRegion) ∧
    (∀ owner, outcome = .error (.missingCredentials owner) ↔
      owner = service ∧ ¬ noRegion ∧ noCredentials) ∧
    ((∃ s, outcome = .ok s) ↔ ¬ noRegion ∧ ¬ noCredentials) ∧
    ∀ s, outcome = .ok s ↔ ¬ noRegion ∧ ¬ noCredentials ∧ env.Supplies s := by
  intro outcome noRegion noCredentials
  have wf : WellFormed (Settings.effective? env.settings ∅) := Environment.wellFormed_settings
  have well_formed (key cause) : outcome ≠ .error (.invalid key cause) := by
    intro h
    have first : FirstFault _ key cause := resolve_eq_iff.1 h
    exact first.not_wellFormed wf
  have region (owner) : outcome = .error (.missingRegion owner) ↔ owner = service ∧ noRegion := by
    rw [resolve_eq_iff, Resolved, Environment.lacksRegion_iff]
    simp only [wf, true_and, noRegion]
  have credentials (owner) : outcome = .error (.missingCredentials owner) ↔
      owner = service ∧ ¬ noRegion ∧ noCredentials := by
    rw [resolve_eq_iff, Resolved, Environment.lacksRegion_iff, Environment.lacksCredentials_iff]
    simp only [wf, true_and, noRegion, noCredentials]
  have settings (s) : outcome = .ok s ↔ ¬ noRegion ∧ ¬ noCredentials ∧ env.Supplies s := by
    rw [resolve_eq_iff, Resolved, Environment.lacksRegion_iff, Environment.lacksCredentials_iff,
      Environment.holds_iff_supplies]
    simp only [wf, true_and, noRegion, noCredentials]
  refine ⟨well_formed, region, credentials, ⟨?_, ?_⟩, settings⟩
  · rintro ⟨s, ok⟩
    exact ⟨((settings s).1 ok).1, ((settings s).1 ok).2.1⟩
  · rintro ⟨has_region, has_credentials⟩
    cases h : outcome with
    | ok s => exact ⟨s, rfl⟩
    | error e =>
      cases e with
      | invalid key cause => exact absurd h (well_formed key cause)
      | missingRegion owner => exact absurd ((region owner).1 h).2 has_region
      | missingCredentials owner => exact absurd ((credentials owner).1 h).2.2 has_credentials

end ApiClients
