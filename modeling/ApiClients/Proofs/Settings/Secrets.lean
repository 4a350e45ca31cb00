import ApiClients.Proofs.Settings.Decoding
import ApiClients.Proofs.Settings.Sources

/-!
# Settings that differ in secrets

Sources of settings may differ in nothing but the secret and the session token of the credentials that
they hold (`Settings.AgreeAt`). Then all that is decided about them is the same (`resolve_agrees`): they
are refused with the same error, or they come to settings with the same key id and the same rest. The
rules ask of a secret that it is there and not empty, and nothing else (`Agree.resolved_error`).
-/

namespace ApiClients

/-- Two credentials are of the same key, and neither lacks a secret. -/
structure Credentials.SameKey (c d : Credentials) : Prop where
  id : c.accessKeyId = d.accessKeyId
  left : c.secretAccessKey ≠ ""
  right : d.secretAccessKey ≠ ""

theorem Credentials.SameKey.symm {c d : Credentials} (h : c.SameKey d) : d.SameKey c :=
  ⟨h.id.symm, h.right, h.left⟩

/-! ## Sources -/

namespace Settings

open Credentials

variable {k : String} {o p o' p' : Option Json} {defaults defaults' options options' : Settings}

/-- Two values of a setting are the same, or they are credentials of the same key in writing. -/
inductive AgreeAt (k : String) (o p : Option Json) : Prop where
  | same (eq : o = p)
  | credentials {v w : Json} {c d : Credentials} (key : k = "credentials") (left : o = some v)
      (right : p = some w) (written : Written v c) (written' : Written w d) (same_key : c.SameKey d)

theorem AgreeAt.symm (h : AgreeAt k o p) : AgreeAt k p o := by
  cases h with
  | same eq => exact .same eq.symm
  | credentials key left right written written' same_key =>
    exact .credentials key right left written' written same_key.symm

theorem AgreeAt.eq_of_ne (h : AgreeAt k o p) (other : k ≠ "credentials") : o = p := by
  cases h with
  | same eq => exact eq
  | credentials key => exact absurd key other

theorem AgreeAt.or (h : AgreeAt k o p) (h' : AgreeAt k o' p') : AgreeAt k (o.or o') (p.or p') := by
  cases h with
  | same eq =>
    subst eq
    cases o with
    | none => exact h'
    | some v => exact .same rfl
  | credentials key left right written written' same_key =>
    subst left right
    exact .credentials key rfl rfl written written' same_key

/-- Two tables of settings agree key by key. -/
def Agree (s t : Settings) : Prop :=
  ∀ k, AgreeAt k (Members.get? s k) (Members.get? t k)

theorem Agree.symm (h : Agree options options') : Agree options' options :=
  fun k => (h k).symm

theorem Agree.assign_credentials {c d : Credentials} (h : Agree options options')
    (same_key : c.SameKey d) :
    Agree (options.assign (.credentials c)) (options'.assign (.credentials d)) := by
  intro k
  show AgreeAt k (Members.get? (Members.insert options "credentials" c.toJson) k)
    (Members.get? (Members.insert options' "credentials" d.toJson) k)
  rw [Members.get?_insert, Members.get?_insert]
  split_ifs with key
  · exact .credentials key rfl rfl (written_toJson c) (written_toJson d) same_key
  · exact h k

theorem Agree.effective? (h : Agree defaults defaults') (h' : Agree options options') (k : String) :
    AgreeAt k (effective? defaults options k) (Settings.effective? defaults' options' k) := by
  rw [effective?_eq_or, effective?_eq_or]
  exact (h' k).or (h k)

/-- The settings of two environments agree if they supply the same region and credentials that agree. -/
theorem agree_environment {env env' : Environment} (region : env.region? = env'.region?)
    (credentials : AgreeAt "credentials" (env.credentials?.map toJson)
      (env'.credentials?.map toJson)) : Agree env.settings env'.settings := by
  intro k
  rw [Environment.get?_settings, Environment.get?_settings, region]
  refine .or ?_ (.same rfl)
  by_cases key : k = "credentials"
  · rw [if_pos key, if_pos key, key]
    exact credentials
  · rw [if_neg key, if_neg key]
    exact .same rfl

end Settings

namespace EffectiveSettings

open Credentials
open Settings (AgreeAt)

variable {x y : Values} {service : String} {a : Api} {key : SettingKey} {cause : ValueError}
  {s s' : EffectiveSettings}

/-! ## Rules -/

/-- Two families of values agree key by key. -/
def Agree (x y : Values) : Prop :=
  ∀ k, AgreeAt k (x k) (y k)

theorem Agree.symm (h : Agree x y) : Agree y x :=
  fun k => (h k).symm

section Agree

variable (h : Agree x y)

include h

/-- Only values that are no credentials are refused, and these are the same. -/
theorem Agree.refused (refused : Refused x key cause) : Refused y key cause := by
  obtain ⟨v, hv, not_null, malformed⟩ := refused
  cases h key.name with
  | same eq => exact ⟨v, eq ▸ hv, not_null, malformed⟩
  | credentials name left right written =>
    obtain rfl : key = .credentials := SettingKey.name_injective name
    obtain rfl := Option.some.inj (hv.symm.trans left)
    cases malformed with
    | empty other => exact absurd rfl other
    | notText other => exact absurd rfl other
    | notCredentials error => exact nomatch error.symm.trans (ofJson_eq_ok_iff.2 written)

theorem Agree.refused_iff : Refused x key cause ↔ Refused y key cause :=
  ⟨h.refused, h.symm.refused⟩

theorem Agree.wellFormed_iff : WellFormed x ↔ WellFormed y := by
  unfold WellFormed
  simp only [h.refused_iff]

theorem Agree.firstFault_iff : FirstFault x key cause ↔ FirstFault y key cause := by
  unfold FirstFault
  simp only [h.refused_iff]

theorem Agree.blank (blank : Blank x key) : Blank y key := by
  cases h key.name with
  | same eq =>
    unfold Blank
    rwa [← eq]
  | credentials _ left right written =>
    rcases blank with blank | blank
    · exact nomatch left.symm.trans blank
    · obtain rfl := Option.some.inj (left.symm.trans blank)
      exact nomatch written

theorem Agree.blank_iff : Blank x key ↔ Blank y key :=
  ⟨h.blank, h.symm.blank⟩

theorem Agree.lacksRegion_iff : LacksRegion a x ↔ LacksRegion a y := by
  unfold LacksRegion
  rw [h.blank_iff]

theorem Agree.lacksCredentials (lacks : LacksCredentials a x) : LacksCredentials a y := by
  obtain ⟨signs, operation, blank | ⟨v, c, hv, hc, empty⟩⟩ := lacks
  · exact ⟨signs, operation, .inl (h.blank blank)⟩
  refine ⟨signs, operation, .inr ?_⟩
  cases h SettingKey.credentials.name with
  | same eq => exact ⟨v, c, eq ▸ hv, hc, empty⟩
  | credentials _ left right written written' same_key =>
    obtain rfl := Option.some.inj (hv.symm.trans left)
    obtain rfl := Except.ok.inj (hc.symm.trans (ofJson_eq_ok_iff.2 written))
    have empty_id := empty.resolve_right same_key.left
    exact ⟨_, _, right, ofJson_eq_ok_iff.2 written', .inl (same_key.id ▸ empty_id)⟩

/-- An error says nothing of secrets. -/
theorem Agree.resolved_error {e : SettingsError} (resolved : Resolved service a x (.error e)) :
    Resolved service a y (.error e) := by
  cases e with
  | invalid key cause => exact h.firstFault_iff.1 resolved
  | missingRegion owner =>
    obtain ⟨own, wf, lacks⟩ := resolved
    exact ⟨own, h.wellFormed_iff.1 wf, h.lacksRegion_iff.1 lacks⟩
  | missingCredentials owner =>
    obtain ⟨own, wf, region, lacks⟩ := resolved
    exact ⟨own, h.wellFormed_iff.1 wf, mt h.lacksRegion_iff.2 region, h.lacksCredentials lacks⟩

end Agree

/-! ## Outcomes -/

/-- Two settings are the same but for their credentials, and these are of the same key. -/
structure SameButSecrets (s s' : EffectiveSettings) : Prop where
  region : s.region = s'.region
  endpoint : s.endpoint = s'.endpoint
  extra : s.extra = s'.extra
  keyId : s.credentials.map accessKeyId = s'.credentials.map accessKeyId

/-- Values without credentials. -/
def forget (values : Values) : Values :=
  fun k => if k = "credentials" then none else values k

theorem Holds.forget (holds : Holds x s) : Holds (forget x) { s with credentials := none } where
  region := holds.region
  endpoint := holds.endpoint
  credentials c := ⟨nofun, nofun⟩
  recognized := holds.recognized
  extra k other := by
    show _ = if k = "credentials" then none else x k
    rw [if_neg fun eq => other .credentials eq.symm]
    exact holds.extra k other

theorem Agree.forget_eq (h : Agree x y) : forget x = forget y := by
  funext k
  unfold forget
  split_ifs with key
  · rfl
  · exact (h k).eq_of_ne key

theorem Holds.credentials_eq {v : Json} {c : Credentials} (holds : Holds x s)
    (hv : x "credentials" = some v) (written : Written v c) : s.credentials = some c :=
  (holds.credentials c).2 ⟨v, hv, ofJson_eq_ok_iff.2 written⟩

theorem Agree.keyId_eq (h : Agree x y) (holds : Holds x s) (holds' : Holds y s') :
    s.credentials.map accessKeyId = s'.credentials.map accessKeyId := by
  cases h "credentials" with
  | same eq =>
    have credentials : s.credentials = s'.credentials := by
      ext c : 1
      rw [holds.credentials, holds'.credentials]
      show (∃ v, x "credentials" = some v ∧ _) ↔ ∃ v, y "credentials" = some v ∧ _
      rw [eq]
    rw [credentials]
  | credentials _ left right written written' same_key =>
    rw [holds.credentials_eq left written, holds'.credentials_eq right written']
    exact congrArg some same_key.id

theorem Agree.sameButSecrets (h : Agree x y) (holds : Holds x s) (holds' : Holds y s') :
    SameButSecrets s s' := by
  have rest : { s with credentials := none } = { s' with credentials := none } :=
    holds.forget.unique (h.forget_eq ▸ holds'.forget)
  obtain ⟨region, -, endpoint, extra⟩ := EffectiveSettings.mk.inj rest
  exact ⟨region, endpoint, extra, h.keyId_eq holds holds'⟩

/-- Two outcomes are the same but for secrets. -/
inductive AgreeingOutcomes :
    Except SettingsError EffectiveSettings → Except SettingsError EffectiveSettings → Prop where
  | refused (e : SettingsError) : AgreeingOutcomes (.error e) (.error e)
  | accepted {s s' : EffectiveSettings} (h : s.SameButSecrets s') : AgreeingOutcomes (.ok s) (.ok s')

theorem Agree.outcomes {r r' : Except SettingsError EffectiveSettings} (h : Agree x y)
    (left : Resolved service a x r) (right : Resolved service a y r') : AgreeingOutcomes r r' := by
  cases r with
  | error e =>
    obtain rfl := right.unique (h.resolved_error left)
    exact .refused e
  | ok s =>
    cases r' with
    | error e => exact nomatch left.unique (h.symm.resolved_error right)
    | ok s' => exact .accepted (h.sameButSecrets left.2.2.2 right.2.2.2)

/-- Settings that agree but for secrets resolve to outcomes that agree but for secrets. -/
theorem resolve_agrees {defaults defaults' options options' : Settings} (service : String) (a : Api)
    (h : defaults.Agree defaults') (h' : options.Agree options') :
    AgreeingOutcomes (resolve service a defaults options) (resolve service a defaults' options') :=
  Agree.outcomes (h.effective? h') (resolved_resolve ..) (resolved_resolve ..)

end EffectiveSettings

end ApiClients
