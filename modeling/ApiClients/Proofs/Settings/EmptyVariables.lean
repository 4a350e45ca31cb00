import ApiClients.Proofs.Settings.Secrets
import ApiClients.Proofs.Settings.Seeding

/-!
# Empty variables

Does an empty variable count as one that is unset? An empty region is left out, and so are credentials
of which a part of the key is empty, but next to a whole key an empty session token is taken in
(`empty_token_kept`). This is the only difference that empty variables make (`resolve_withoutEmpty`):
clients are refused for the same reasons with them and without them, and their settings are the same
but for this token.
-/

namespace ApiClients

open Credentials EffectiveSettings

variable {env env' : Environment} {x t : String} {c : Credentials} {options : Settings}

/-! ## Without empty texts -/

theorem filter_not_isEmpty_eq_some_iff {o : Option String} :
    o.filter (!·.isEmpty) = some t ↔ o = some t ∧ t ≠ "" := by
  rw [Option.filter_eq_some_iff]
  simp

/-- The credentials without a session token that is empty. -/
def Credentials.withoutEmptyToken (c : Credentials) : Credentials :=
  { c with sessionToken := c.sessionToken.filter (!·.isEmpty) }

theorem Credentials.withoutEmptyToken_eq_self_iff :
    c.withoutEmptyToken = c ↔ c.sessionToken ≠ some "" := by
  obtain ⟨id, secret, token⟩ := c
  cases token with
  | none => simp [withoutEmptyToken]
  | some s => by_cases h : s = "" <;> simp [withoutEmptyToken, h]

namespace Environment

/-- The environment without the variables that are empty. -/
def withoutEmpty (env : Environment) : Environment :=
  fun x => (env x).filter (!·.isEmpty)

theorem withoutEmpty_eq_some_iff : env.withoutEmpty x = some t ↔ env x = some t ∧ t ≠ "" :=
  filter_not_isEmpty_eq_some_iff

theorem region?_withoutEmpty : env.withoutEmpty.region? = env.region? := by
  ext r
  rw [region?_eq_some_iff, region?_eq_some_iff, withoutEmpty_eq_some_iff, and_assoc, and_self]

/-- The two parts of the key are supplied as before, and a token only if it is not empty. -/
theorem credentials?_withoutEmpty :
    env.withoutEmpty.credentials? = env.credentials?.map withoutEmptyToken := by
  ext c
  rw [credentials?_eq_some_iff, Option.map_eq_some_iff]
  constructor
  · rintro ⟨id, secret, hid, hsecret, id_ne, secret_ne, rfl⟩
    have hid := (withoutEmpty_eq_some_iff.1 hid).1
    have hsecret := (withoutEmpty_eq_some_iff.1 hsecret).1
    exact ⟨_, credentials?_eq_some_iff.2 ⟨id, secret, hid, hsecret, id_ne, secret_ne, rfl⟩, rfl⟩
  · rintro ⟨d, hd, rfl⟩
    obtain ⟨id, secret, hid, hsecret, id_ne, secret_ne, rfl⟩ := credentials?_eq_some_iff.1 hd
    exact ⟨id, secret, withoutEmpty_eq_some_iff.2 ⟨hid, id_ne⟩,
      withoutEmpty_eq_some_iff.2 ⟨hsecret, secret_ne⟩, id_ne, secret_ne, rfl⟩

/-! ## The settings that are supplied -/

theorem settings_eq_iff : env.settings = env'.settings ↔
    env.region? = env'.region? ∧ env.credentials? = env'.credentials? := by
  constructor
  · intro h
    have region := congrArg (fun s => Members.get? s "region") h
    have credentials := congrArg (fun s => Members.get? s "credentials") h
    simp only [get?_settings_region, get?_settings_credentials] at region credentials
    refine ⟨?_, ?_⟩
    · exact Option.map_injective (fun _ _ => Json.string.inj) region
    · exact Option.map_injective (fun _ _ => toJson_injective) credentials
  · rintro ⟨region, credentials⟩
    apply Members.ext_get?
    intro k
    rw [get?_settings, get?_settings, region, credentials]

theorem settings_withoutEmpty_iff : env.withoutEmpty.settings = env.settings ↔
    env.Lacks "STRATUS_ACCESS_KEY_ID" ∨ env.Lacks "STRATUS_SECRET_ACCESS_KEY" ∨
      env "STRATUS_SESSION_TOKEN" ≠ some "" := by
  rw [settings_eq_iff, credentials?_withoutEmpty, ← or_assoc, ← credentials?_eq_none_iff]
  cases h : env.credentials? with
  | none => simp [region?_withoutEmpty]
  | some c =>
    obtain ⟨-, -, -, -, token⟩ := credentials?_eq_some_iff_parts.1 h
    simp [region?_withoutEmpty, withoutEmptyToken_eq_self_iff, token]

theorem agree_withoutEmpty : env.settings.Agree env.withoutEmpty.settings := by
  refine Settings.agree_environment region?_withoutEmpty.symm ?_
  rw [credentials?_withoutEmpty]
  cases h : env.credentials? with
  | none => exact .same rfl
  | some c =>
    obtain ⟨-, -, -, secret_ne, -⟩ := credentials?_eq_some_iff_parts.1 h
    exact .credentials rfl rfl rfl (written_toJson c) (written_toJson _) ⟨rfl, secret_ne, secret_ne⟩

end Environment

/-! ## The settings of clients -/

namespace EffectiveSettings

variable {s : EffectiveSettings}

/-- Where the options have no credentials, those of the environment are the ones that hold. -/
theorem exists_effective_iff (unset : Members.get? options "credentials" = none) :
    (∃ v, Settings.effective? env.settings options SettingKey.credentials.name = some v ∧
      Credentials.ofJson v = .ok c) ↔ env.credentials? = some c := by
  have value : Settings.effective? env.settings options SettingKey.credentials.name =
      Members.get? env.settings "credentials" := by
    rw [Settings.effective?_eq_or]
    show (Members.get? options "credentials").or _ = _
    rw [unset]
    rfl
  rw [value, Environment.exists_decoded_iff]

/-- What settings hold when the empty variables are taken away. -/
theorem Holds.withoutEmpty (unset : Members.get? options "credentials" = none)
    (holds : Holds (Settings.effective? env.settings options) s) :
    Holds (Settings.effective? env.withoutEmpty.settings options)
      { s with credentials := s.credentials.map withoutEmptyToken } := by
  have same {k : String} (other : k ≠ "credentials") : Settings.effective? env.settings options k =
      Settings.effective? env.withoutEmpty.settings options k :=
    (env.agree_withoutEmpty.effective? (fun _ => .same rfl) k).eq_of_ne other
  refine ⟨fun r => ?_, fun e => ?_, fun c => ?_, holds.recognized, fun k hk => ?_⟩
  · rw [← same (by decide)]
    exact holds.region r
  · rw [← same (by decide)]
    exact holds.endpoint e
  · have credentials : s.credentials = env.credentials? := by
      ext d
      rw [holds.credentials, exists_effective_iff unset]
    show s.credentials.map withoutEmptyToken = some c ↔ _
    rw [exists_effective_iff unset, Environment.credentials?_withoutEmpty, credentials]
  · rw [← same (hk .credentials).symm]
    exact holds.extra k hk

/-- Empty variables make no difference but for one. The settings that the environment supplies are the
same without them, unless neither part of the access key is missing and the session token is empty. And
whatever a client asks for, what it comes to is the same without them, but that an empty token of
credentials from the environment is not there. -/
theorem resolve_withoutEmpty (env : Environment) :
    (env.withoutEmpty.settings = env.settings ↔
      env.Lacks "STRATUS_ACCESS_KEY_ID" ∨ env.Lacks "STRATUS_SECRET_ACCESS_KEY" ∨
        env "STRATUS_SESSION_TOKEN" ≠ some "") ∧
    ∀ (service : String) (a : Api) (options : Settings),
      resolve service a env.withoutEmpty.settings options =
        (resolve service a env.settings options).map fun s =>
          if Members.contains options "credentials" then s
          else { s with credentials := s.credentials.map withoutEmptyToken } := by
  refine ⟨Environment.settings_withoutEmpty_iff, fun service a options => ?_⟩
  have agree : Agree (Settings.effective? env.settings options)
      (Settings.effective? env.withoutEmpty.settings options) :=
    env.agree_withoutEmpty.effective? fun _ => .same rfl
  have resolved := resolved_resolve service a env.settings options
  rw [resolve_eq_iff]
  generalize resolve service a env.settings options = outcome at resolved ⊢
  cases outcome with
  | error e => exact agree.resolved_error resolved
  | ok s =>
    obtain ⟨wf, region, credentials, holds⟩ := resolved
    refine ⟨agree.wellFormed_iff.1 wf, mt agree.lacksRegion_iff.2 region,
      mt agree.symm.lacksCredentials credentials, ?_⟩
    rw [Members.contains_eq_isSome]
    cases set : Members.get? options "credentials" with
    | none => exact holds.withoutEmpty set
    | some v =>
      -- The options hide what the environment supplies.
      have same : Settings.effective? env.settings options =
          Settings.effective? env.withoutEmpty.settings options := by
        funext k
        by_cases key : k = "credentials"
        · rw [key, Settings.effective?_eq_or, Settings.effective?_eq_or, set]
          rfl
        · exact (agree k).eq_of_ne key
      rw [← same]
      exact holds

/-- An empty session token is kept next to a whole key, so it does not count as one that is unset. -/
theorem empty_token_kept :
    let env : Environment := fun x =>
      if x = "STRATUS_ACCESS_KEY_ID" then some "id"
      else if x = "STRATUS_SECRET_ACCESS_KEY" then some "sec"
      else if x = "STRATUS_SESSION_TOKEN" then some ""
      else none
    let client (env : Environment) := resolve "S" ⟨∅, 0⟩ env.settings ∅
    env.settings ≠ env.withoutEmpty.settings ∧
      client env = .ok { credentials := some ⟨"id", "sec", some ""⟩ } ∧
      client env.withoutEmpty = .ok { credentials := some ⟨"id", "sec", none⟩ } := by
  intro env client
  refine ⟨fun h => ?_, rfl, rfl⟩
  exact absurd (Environment.settings_eq_iff.1 h).2 (by decide)

end EffectiveSettings

end ApiClients
