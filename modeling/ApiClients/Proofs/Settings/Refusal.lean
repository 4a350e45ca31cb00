import ApiClients.Proofs.Settings.Decoding
import ApiClients.Proofs.Settings.Sources

/-!
# Refused credentials

What does an error about credentials tell of them? Two objects that agree in all but the values of the
secret and the session token, which are of the same kinds, are refused for the same member
(`AgreeButSecrets.offends`). The wording of the error names the kind of the value found there, and also
the value itself if it is a number or a truth value: `refusals_agree_iff` says when the wordings are the
same, and `refusals_show_numbers` is a case where they are not.
-/

namespace ApiClients

namespace Credentials

variable {t u : Table Json} {k : String} {v w : Json} {c : Credentials} {e e' : DecodeError}

/-- Two objects are the same but for the values of the secret and the session token, which are of the
same kinds. -/
structure AgreeButSecrets (t u : Table Json) : Prop where
  same : ∀ k, k ≠ "secret_access_key" → k ≠ "session_token" → t.get? k = u.get? k
  kinds : ∀ k, (t.get? k).map Json.kind = (u.get? k).map Json.kind

theorem agreeButSecrets_insert (t : Table Json) (key : k = "secret_access_key" ∨ k = "session_token")
    (kind : v.kind = w.kind) : AgreeButSecrets (t.insert k v) (t.insert k w) where
  same l not_secret not_token := by
    have other : l ≠ k := by
      rintro rfl
      exact key.elim not_secret not_token
    rw [Members.get?_insert, Members.get?_insert, if_neg other, if_neg other]
  kinds l := by
    rw [Members.get?_insert, Members.get?_insert]
    split_ifs
    · exact congrArg some kind
    · rfl

/-! ## The same member is refused -/

namespace AgreeButSecrets

variable (h : AgreeButSecrets t u)

include h

theorem symm : AgreeButSecrets u t :=
  ⟨fun k hs ht => (h.same k hs ht).symm, fun k => (h.kinds k).symm⟩

theorem exists_get? (hv : t.get? k = some v) : ∃ w, u.get? k = some w ∧ v.kind = w.kind := by
  have kinds := h.kinds k
  rw [hv] at kinds
  obtain ⟨w, hw, eq⟩ := Option.map_eq_some_iff.1 kinds.symm
  exact ⟨w, hw, eq.symm⟩

theorem get?_eq_none (hk : t.get? k = none) : u.get? k = none := by
  have kinds := h.kinds k
  rw [hk] at kinds
  exact Option.map_eq_none_iff.1 kinds.symm

theorem textIfAny (text : TextIfAny (t.get? k)) : TextIfAny (u.get? k) := by
  intro w hw
  obtain ⟨v, hv, eq⟩ := h.symm.exists_get? hw
  rw [eq]
  exact text v hv

theorem tokenWritten (written : ∃ token, TokenWritten (t.get? k) token) :
    ∃ token, TokenWritten (u.get? k) token := by
  rw [exists_tokenWritten_iff] at written ⊢
  intro w hw
  obtain ⟨v, hv, eq⟩ := h.symm.exists_get? hw
  rw [eq]
  exact written v hv

theorem proper (proper : Proper t) : Proper u :=
  ⟨h.textIfAny proper.id, h.textIfAny proper.secret, h.tokenWritten proper.token⟩

theorem offends (offends : Offends t v) : ∃ w, Offends u w ∧ v.kind = w.kind := by
  cases offends with
  | id here no_text =>
    obtain ⟨w, hw, eq⟩ := h.exists_get? here
    exact ⟨w, .id hw (eq ▸ no_text), eq⟩
  | secret id here no_text =>
    obtain ⟨w, hw, eq⟩ := h.exists_get? here
    exact ⟨w, .secret (h.textIfAny id) hw (eq ▸ no_text), eq⟩
  | token id secret here not_null no_text =>
    obtain ⟨w, hw, eq⟩ := h.exists_get? here
    exact ⟨w, .token (h.textIfAny id) (h.textIfAny secret) hw (eq ▸ not_null) (eq ▸ no_text), eq⟩

theorem written (written : Written (.object t) c) : ∃ d, Written (.object u) d := by
  cases written with
  | object has_id has_secret has_token =>
    rw [h.same _ (by decide) (by decide)] at has_id
    obtain ⟨w, hw, kind⟩ := h.exists_get? has_secret
    obtain ⟨token, has_token⟩ := h.tokenWritten ⟨_, has_token⟩
    cases w with
    | string s => exact ⟨_, .object has_id hw has_token⟩
    | _ => exact nomatch kind

theorem eq_of_proper (proper : Proper t) (ht : Faulty t e) (hu : Faulty u e') : e = e' := by
  have proper' := h.proper proper
  cases ht with
  | offended offends => exact absurd proper offends.not_proper
  | noId _ absent =>
    cases hu with
    | offended offends => exact absurd proper' offends.not_proper
    | noId => rfl
    | noSecret _ present => exact absurd (h.get?_eq_none absent) present
  | noSecret _ present =>
    cases hu with
    | offended offends => exact absurd proper' offends.not_proper
    | noId _ absent => exact absurd (h.symm.get?_eq_none absent) present
    | noSecret => rfl

end AgreeButSecrets

/-! ## What is shown of it -/

/-- Only of texts, numbers and truth values more than the kind is shown. -/
theorem describe_eq_of_kind (kind : v.kind = w.kind) (no_text : v.kind ≠ .string)
    (no_number : v.kind ≠ .number) (no_bool : v.kind ≠ .boolean) : describe v = describe w := by
  cases v <;> cases w <;> simp_all [Json.kind, describe]

theorem message_notText_eq_iff :
    (DecodeError.notText v).message = (DecodeError.notText w).message ↔ describe v = describe w := by
  unfold DecodeError.message
  rw [String.append_left_inj]
  exact String.append_right_inj _

theorem AgreeButSecrets.message_eq_iff (h : AgreeButSecrets t u) (ht : Faulty t e)
    (hu : Faulty u e') :
    e.message = e'.message ↔ ∀ v w, Offends t v → Offends u w → describe v = describe w := by
  by_cases proper : Proper t
  · rw [h.eq_of_proper proper ht hu]
    exact ⟨fun _ v w hv => absurd proper hv.not_proper, fun _ => rfl⟩
  · obtain ⟨v, hv⟩ := ht.exists_offends proper
    obtain ⟨w, hw, -⟩ := h.offends hv
    rw [ht.eq_of_offends hv, hu.eq_of_offends hw, message_notText_eq_iff]
    constructor
    · intro eq v' w' hv' hw'
      rwa [hv'.unique hv, hw'.unique hw]
    · intro all
      exact all v w hv hw

theorem AgreeButSecrets.shown_of_message_ne (h : AgreeButSecrets t u) (ht : Faulty t e)
    (hu : Faulty u e') (ne : e.message ≠ e'.message) :
    ∃ v, Offends t v ∧ (v.kind = .number ∨ v.kind = .boolean) := by
  rw [ne_eq, h.message_eq_iff ht hu] at ne
  push Not at ne
  obtain ⟨v, w, hv, hw, ne⟩ := ne
  obtain ⟨w', hw', kind⟩ := h.offends hv
  rw [hw'.unique hw] at kind
  refine ⟨v, hv, ?_⟩
  by_contra other
  rw [not_or] at other
  exact ne (describe_eq_of_kind kind hv.kind_ne other.1 other.2)

end Credentials

/-! ## The errors of settings -/

namespace EffectiveSettings

open Credentials

variable {t u : Table Json} {service service' : String} {a a' : Api}
  {defaults defaults' options options' : Settings}

/-- Credentials that cannot be decoded are refused before all else. -/
theorem resolve_of_malformed {v : Json} {cause : DecodeError}
    (given : Settings.effective? defaults options "credentials" = some v) (not_null : v ≠ .null)
    (malformed : Credentials.ofJson v = .error cause) :
    resolve service a defaults options = .error (.invalid .credentials (.notCredentials cause)) := by
  have first : FirstFault (Settings.effective? defaults options) .credentials
      (.notCredentials cause) :=
    ⟨⟨v, given, not_null, .notCredentials malformed⟩, fun _ lt => nomatch lt⟩
  exact resolve_eq_iff.2 first

theorem message_invalid_eq_iff {e e' : DecodeError} :
    (SettingsError.invalid .credentials (.notCredentials e)).message =
      (SettingsError.invalid .credentials (.notCredentials e')).message ↔ e.message = e'.message := by
  unfold SettingsError.message
  rw [String.append_right_inj]
  exact String.append_right_inj _

/-- Two objects that agree but for their secrets, and of which one gives no credentials, are both
refused, whatever else is set and whatever the API needs. The errors read the same exactly if the first
members that are no texts are described alike, and if they do not, then a number or a truth value
stands there. -/
theorem refusals_agree_iff (agree : AgreeButSecrets t u)
    (malformed : ∀ c, Credentials.ofJson (.object t) ≠ .ok c)
    (given : Settings.effective? defaults options "credentials" = some (.object t))
    (given' : Settings.effective? defaults' options' "credentials" = some (.object u)) :
    ∃ cause cause',
      resolve service a defaults options = .error (.invalid .credentials cause) ∧
      resolve service' a' defaults' options' = .error (.invalid .credentials cause') ∧
      ((SettingsError.invalid .credentials cause).message =
          (SettingsError.invalid .credentials cause').message ↔
        ∀ v w, Offends t v → Offends u w → describe v = describe w) ∧
      ((SettingsError.invalid .credentials cause).message ≠
          (SettingsError.invalid .credentials cause').message →
        ∃ v, Offends t v ∧ (v.kind = .number ∨ v.kind = .boolean)) := by
  have malformed' : ∀ c, Credentials.ofJson (.object u) ≠ .ok c := by
    intro c hc
    obtain ⟨d, hd⟩ := agree.symm.written (ofJson_eq_ok_iff.1 hc)
    exact malformed d (ofJson_eq_ok_iff.2 hd)
  cases ht : Credentials.ofJson (.object t) with
  | ok c => exact absurd ht (malformed c)
  | error e =>
    cases hu : Credentials.ofJson (.object u) with
    | ok c => exact absurd hu (malformed' c)
    | error e' =>
      have faulty : Faulty t e := faulty_of_ofTable ht
      have faulty' : Faulty u e' := faulty_of_ofTable hu
      refine ⟨_, _, resolve_of_malformed given nofun ht, resolve_of_malformed given' nofun hu, ?_, ?_⟩
      · rw [message_invalid_eq_iff, agree.message_eq_iff faulty faulty']
      · rw [ne_eq, message_invalid_eq_iff]
        exact agree.shown_of_message_ne faulty faulty'

/-- Credentials with the key id `AK` and what stands for the secret. -/
def keyed (secret : Json) : Table Json :=
  ((∅ : Table Json).insert "access_key_id" (.string "AK")).insert "secret_access_key" secret

theorem offends_keyed {secret : Json} (no_text : secret.kind ≠ .string) :
    Offends (keyed secret) secret := by
  have id : TextIfAny ((keyed secret).get? "access_key_id") := by
    intro v hv
    obtain rfl := Option.some.inj hv
    rfl
  exact .secret id rfl no_text

/-- Nothing is shown of lists in place of the secret. -/
theorem refusals_agree_iff_of_lists :
    let secret (s : String) : Json := .array [.string s]
    let options (s : String) : Settings :=
      (∅ : Settings).insert "credentials" (.object (keyed (secret s)))
    AgreeButSecrets (keyed (secret "x")) (keyed (secret "y")) ∧
      ∃ cause cause',
        resolve "S" ⟨∅, 0⟩ ∅ (options "x") = .error (.invalid .credentials cause) ∧
        resolve "S" ⟨∅, 0⟩ ∅ (options "y") = .error (.invalid .credentials cause') ∧
        (SettingsError.invalid .credentials cause).message =
          (SettingsError.invalid .credentials cause').message := by
  intro secret options
  have agree : AgreeButSecrets (keyed (secret "x")) (keyed (secret "y")) :=
    agreeButSecrets_insert _ (.inl rfl) rfl
  have malformed : ∀ c, Credentials.ofJson (.object (keyed (secret "x"))) ≠ .ok c := fun c => nofun
  obtain ⟨cause, cause', refused, refused', same, -⟩ :=
    @refusals_agree_iff _ _ "S" "S" ⟨∅, 0⟩ ⟨∅, 0⟩ ∅ ∅ (options "x") (options "y") agree malformed
      rfl rfl
  refine ⟨agree, cause, cause', refused, refused', same.2 fun v w hv hw => ?_⟩
  rw [hv.unique (offends_keyed nofun), hw.unique (offends_keyed nofun)]
  rfl

/-- A number in place of the secret is shown, so the errors for two secrets differ. -/
theorem refusals_show_numbers :
    let secret (n : Int) (h : -Int.pow 2 63 ≤ n ∧ n < Int.pow 2 64) : Json := .number (.integer n h)
    let one := secret 1 (by decide)
    let two := secret 2 (by decide)
    let options (secret : Json) : Settings :=
      (∅ : Settings).insert "credentials" (.object (keyed secret))
    let refusal (secret : Json) : SettingsError :=
      .invalid .credentials (.notCredentials (.notText secret))
    AgreeButSecrets (keyed one) (keyed two) ∧
      resolve "S" ⟨∅, 0⟩ ∅ (options one) = .error (refusal one) ∧
      resolve "S" ⟨∅, 0⟩ ∅ (options two) = .error (refusal two) ∧
      (refusal one).message = "invalid value for `credentials`: expected access_key_id and " ++
        "secret_access_key: invalid type: integer `1`, expected a string" ∧
      (refusal one).message ≠ (refusal two).message := by
  intro secret one two options refusal
  exact ⟨agreeButSecrets_insert _ (.inl rfl) rfl, rfl, rfl, rfl, by decide⟩

end EffectiveSettings

end ApiClients
