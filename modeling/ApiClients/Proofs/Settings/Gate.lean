import ApiClients.Proofs.Results
import ApiClients.Proofs.Settings.Rules

/-!
# The settings of a client

`resolve_iff` says of every outcome of `EffectiveSettings.resolve` exactly when it comes about:

1. The first key whose value is malformed is refused, whatever the API needs.
2. Otherwise a missing region is refused, then missing credentials.
3. Otherwise the settings hold what the values say.

The members are taken in one after the other in the order of their keys. `judged_foldlM` carries what
is known of the members so far to the end of the table; `resolved_require` adds what the API needs.
-/

namespace ApiClients.EffectiveSettings

open Results
open SettingKey (ofName?_eq_some_iff ofName?_eq_none_iff name_injective turn_lt_iff)

variable {values : Values} {key : SettingKey} {cause : ValueError} {s e : EffectiveSettings}
  {k : String} {v : Json}

/-! ## One value -/

theorem nonEmptyText_ok_iff {r : String} :
    nonEmptyText key v = .ok r ↔ v = .string r ∧ r ≠ "" := by
  cases v with
  | string t =>
    simp only [nonEmptyText]
    split_ifs with h <;> simp_all
    rintro rfl; exact h
  | _ => simp [nonEmptyText]

theorem nonEmptyText_error_iff {err : SettingsError} (h : key ≠ .credentials) :
    nonEmptyText key v = .error err ↔ ∃ cause, err = .invalid key cause ∧ Malformed key v cause := by
  constructor
  · intro hv
    cases v with
    | string t =>
      simp only [nonEmptyText] at hv
      split_ifs at hv with ht
      obtain rfl : t = "" := by simpa using ht
      exact ⟨_, (Except.error.inj hv).symm, .empty h⟩
    | _ => exact ⟨_, (Except.error.inj hv).symm, .notText h nofun⟩
  · rintro ⟨cause, rfl, m⟩
    cases m with
    | empty => rfl
    | notText _ hv => cases v <;> first | rfl | exact absurd rfl hv
    | notCredentials => exact absurd rfl h

theorem decodeCredentials_error_iff {err : SettingsError} :
    decodeCredentials v = .error err ↔
      ∃ cause, err = .invalid .credentials cause ∧ Malformed .credentials v cause := by
  rw [decodeCredentials, mapError_eq_error_iff]
  constructor
  · rintro ⟨cause, h, rfl⟩
    exact ⟨_, rfl, .notCredentials h⟩
  · rintro ⟨cause, rfl, m⟩
    cases m with
    | empty h => exact absurd rfl h
    | notText h => exact absurd rfl h
    | notCredentials h => exact ⟨_, h, rfl⟩

/-- A value is refused exactly if it is malformed. -/
theorem accept_error_iff {err : SettingsError} :
    s.accept key v = .error err ↔
      v ≠ .null ∧ ∃ cause, err = .invalid key cause ∧ Malformed key v cause := by
  unfold accept
  by_cases hv : v = .null
  · simp [hv]
  rw [if_neg (by rwa [Json.isNull_iff])]
  cases key with
  | region => simp [map_eq_error_iff, nonEmptyText_error_iff, hv]
  | endpoint => simp [map_eq_error_iff, nonEmptyText_error_iff, hv]
  | credentials => simp [map_eq_error_iff, decodeCredentials_error_iff, hv]

theorem acceptMember_error {err : SettingsError} (h : s.acceptMember (k, v) = .error err) :
    ∃ key cause, key.name = k ∧ err = .invalid key cause ∧ v ≠ .null ∧ Malformed key v cause := by
  unfold acceptMember at h
  split at h
  · next key hk =>
    obtain ⟨hv, cause, rfl, m⟩ := accept_error_iff.1 h
    exact ⟨key, cause, (ofName?_eq_some_iff.1 hk).symm, rfl, hv, m⟩
  · exact nomatch h

/-- A member that is taken in is not malformed. -/
theorem not_malformed_of_acceptMember (h : s.acceptMember (key.name, v) = .ok e) (hv : v ≠ .null) :
    ¬ Malformed key v cause := by
  intro m
  rw [acceptMember, ofName?_eq_some_iff.2 rfl] at h
  have refused : s.accept key v = .error (.invalid key cause) :=
    accept_error_iff.2 ⟨hv, cause, rfl, m⟩
  exact nomatch refused.symm.trans h

/-! ## One member after the other -/

/-- Values with one value more. -/
def put (values : Values) (k : String) (v : Json) : Values :=
  fun l => if l = k then some v else values l

/-- The values of members, with other values for the keys that the members lack. -/
def extend {lo : Option String} (t : Members Json lo) (values : Values) : Values :=
  fun k => (t.get? k).or (values k)

theorem extend_cons {lo : Option String} {above : ∀ b ∈ lo, b < k} {rest : Members Json (some k)} :
    extend (.cons k above v rest) values = extend rest (put values k v) := by
  funext l
  unfold extend put
  rw [Members.get?_cons]
  split_ifs with h
  · rw [h, Members.get?_eq_none_of_not_lt rest rfl (String.lt_irrefl k)]
    rfl
  · rfl

theorem wellFormed_put (wf : WellFormed values)
    (h : ∀ key cause, key.name = k → v ≠ .null → ¬ Malformed key v cause) :
    WellFormed (put values k v) := by
  rintro key cause ⟨w, hw, not_null, m⟩
  unfold put at hw
  split_ifs at hw with hk
  · obtain rfl := Option.some.inj hw
    exact h key cause hk not_null m
  · exact wf key cause ⟨w, hw, not_null, m⟩

/-- What a value that is not refused does to the settings. -/
theorem accept_ok (h : s.accept key v = .ok e) :
    v = .null ∧ e = s ∨
    (∃ r, key = .region ∧ v = .string r ∧ e = { s with region := some r }) ∨
    (∃ r, key = .endpoint ∧ v = .string r ∧ e = { s with endpoint := some r }) ∨
    ∃ c, key = .credentials ∧ Credentials.ofJson v = .ok c ∧
      e = { s with credentials := some c } := by
  unfold accept at h
  split_ifs at h with hv
  · exact .inl ⟨Json.isNull_iff.1 hv, (Except.ok.inj h).symm⟩
  cases key with
  | region =>
    obtain ⟨r, hr, rfl⟩ := map_eq_ok_iff.1 h
    exact .inr (.inl ⟨r, rfl, (nonEmptyText_ok_iff.1 hr).1, rfl⟩)
  | endpoint =>
    obtain ⟨r, hr, rfl⟩ := map_eq_ok_iff.1 h
    exact .inr (.inr (.inl ⟨r, rfl, (nonEmptyText_ok_iff.1 hr).1, rfl⟩))
  | credentials =>
    obtain ⟨c, hc, rfl⟩ := map_eq_ok_iff.1 h
    exact .inr (.inr (.inr ⟨c, rfl, mapError_eq_ok_iff.1 hc, rfl⟩))

theorem put_name (l : SettingKey) :
    put values key.name v l.name = if l = key then some v else values l.name := by
  unfold put
  simp only [show l.name = key.name ↔ l = key from ⟨name_injective, congrArg _⟩]

/-- A value under a key with a meaning changes nothing in what is passed through. -/
theorem Holds.extra_put (holds : Holds values s) (hk : ∀ key : SettingKey, key.name ≠ k) :
    s.extra.get? k = put values key.name v k := by
  rw [holds.extra k hk, put, if_neg (Ne.symm (hk key))]

/-- A key that is `null` counts as absent. -/
theorem Holds.put_null (holds : Holds values s) (fresh : values key.name = none) :
    Holds (put values key.name .null) s := by
  refine ⟨fun r => ?_, fun r => ?_, fun c => ?_, holds.recognized, fun k hk => holds.extra_put hk⟩
  · rw [holds.region, put_name]
    split_ifs with h
    · simp [h, fresh]
    · rfl
  · rw [holds.endpoint, put_name]
    split_ifs with h
    · simp [h, fresh]
    · rfl
  · rw [holds.credentials, put_name]
    split_ifs with h
    · simp [h, fresh, Credentials.ofJson]
    · rfl

/-- What is taken in next to settings that hold the values before holds one value more. -/
theorem Holds.acceptMember (holds : Holds values s) (fresh : values k = none)
    (h : s.acceptMember (k, v) = .ok e) : Holds (put values k v) e := by
  unfold EffectiveSettings.acceptMember at h
  split at h
  · next key hk =>
    obtain rfl : k = key.name := ofName?_eq_some_iff.1 hk
    rcases accept_ok h with ⟨rfl, rfl⟩ | ⟨r, rfl, rfl, rfl⟩ | ⟨r, rfl, rfl, rfl⟩ | ⟨c, rfl, hc, rfl⟩
    · exact holds.put_null fresh
    · refine ⟨fun r => ?_, fun r => ?_, fun c => ?_, holds.recognized,
        fun k hk => holds.extra_put hk⟩
      · simp [put_name]
      · simp [put_name, holds.endpoint]
      · simp [put_name, holds.credentials]
    · refine ⟨fun r => ?_, fun r => ?_, fun c => ?_, holds.recognized,
        fun k hk => holds.extra_put hk⟩
      · simp [put_name, holds.region]
      · simp [put_name]
      · simp [put_name, holds.credentials]
    · refine ⟨fun r => ?_, fun r => ?_, fun c => ?_, holds.recognized,
        fun k hk => holds.extra_put hk⟩
      · simp [put_name, holds.region]
      · simp [put_name, holds.endpoint]
      · simp [put_name, hc, eq_comm]
  · next hk =>
    have other : ∀ key : SettingKey, key.name ≠ k := ofName?_eq_none_iff.1 hk
    have unchanged : ∀ key : SettingKey, put values k v key.name = values key.name :=
      fun key => if_neg (other key)
    obtain rfl := Except.ok.inj h
    refine ⟨fun r => ?_, fun r => ?_, fun c => ?_, fun key => ?_, fun l hl => ?_⟩
    · rw [unchanged, ← holds.region]
    · rw [unchanged, ← holds.endpoint]
    · rw [unchanged, ← holds.credentials]
    · rw [Members.get?_insert_of_ne _ (other key), holds.recognized]
    · rw [Members.get?_insert, holds.extra l hl, put]

/-- What the check of values comes to: a fault that is the first one, or settings that hold them. -/
def Judged (values : Values) : Except SettingsError EffectiveSettings → Prop
  | .error err => ∃ key cause, err = .invalid key cause ∧ FirstFault values key cause
  | .ok s => WellFormed values ∧ Holds values s

/-- A malformed value at the least key of a chain is the first fault of all. -/
theorem firstFault_extend_cons {lo : Option String} {above : ∀ b ∈ lo, b < key.name}
    {rest : Members Json (some key.name)} (wf : WellFormed values) (hv : v ≠ .null)
    (m : Malformed key v cause) :
    FirstFault (extend (.cons key.name above v rest) values) key cause := by
  refine ⟨⟨v, by simp [extend, Members.get?_cons], hv, m⟩, fun other lt c => ?_⟩
  rintro ⟨w, hw, not_null, m'⟩
  have lt_name : other.name < key.name := turn_lt_iff.1 lt
  have ne : other.name ≠ key.name := fun eq => String.lt_irrefl _ (eq ▸ lt_name)
  have absent : rest.get? other.name = none :=
    Members.get?_eq_none_of_not_lt rest rfl fun gt => String.lt_irrefl _ (String.lt_trans gt lt_name)
  rw [extend, Members.get?_cons, if_neg ne, absent, Option.none_or] at hw
  exact wf other c ⟨w, hw, not_null, m'⟩

/-- The induction is on the chain of members that are still to be taken in; `values` are those of the
members before, all of them at lesser keys. -/
theorem judged_foldlM {lo : Option String} (t : Members Json lo) {values : Values}
    {s : EffectiveSettings} (wf : WellFormed values) (holds : Holds values s)
    (fresh : ∀ k v, t.get? k = some v → values k = none) :
    Judged (extend t values) (t.toList.foldlM EffectiveSettings.acceptMember s) := by
  induction t generalizing values s with
  | nil => exact ⟨wf, holds⟩
  | cons k above v rest ih =>
    rw [Members.toList_cons, List.foldlM_cons]
    cases h : s.acceptMember (k, v) with
    | error err =>
      obtain ⟨key, cause, rfl, rfl, hv, m⟩ := acceptMember_error h
      exact ⟨key, cause, rfl, firstFault_extend_cons wf hv m⟩
    | ok e =>
      have fresh_k : values k = none := fresh k v (by rw [Members.get?_cons, if_pos rfl])
      rw [extend_cons]
      refine ih (wellFormed_put wf ?_) (holds.acceptMember fresh_k h) ?_
      · rintro key cause rfl hv
        exact not_malformed_of_acceptMember h hv
      · intro l w hw
        have ne : l ≠ k := by
          rintro rfl
          rw [Members.get?_eq_none_of_not_lt rest rfl (String.lt_irrefl l)] at hw
          exact nomatch hw
        rw [put, if_neg ne]
        exact fresh l w (by rw [Members.get?_cons, if_neg ne, hw])

theorem judged_ofSettings (settings : Settings) :
    Judged (fun k => Members.get? settings k) (ofSettings settings) := by
  have wf : WellFormed fun _ => none := by
    rintro key cause ⟨v, hv, -⟩
    exact nomatch hv
  have holds : Holds (fun _ => none) {} :=
    ⟨by simp, by simp, by simp, fun _ => rfl, fun _ _ => rfl⟩
  have h := judged_foldlM settings wf holds fun _ _ _ => rfl
  have eq : extend settings (fun _ => none) = fun k => Members.get? settings k :=
    funext fun k => Option.or_none
  rwa [eq] at h

/-! ## What is missing -/

/-- A key for a text has a text or nothing. -/
theorem WellFormed.blank_of_no_text (wf : WellFormed values) (hk : key ≠ .credentials)
    (no_text : ∀ r, values key.name ≠ some (.string r)) : Blank values key := by
  cases hv : values key.name with
  | none => exact .inl hv
  | some v =>
    by_contra h
    have not_null : v ≠ .null := fun eq => h (.inr (eq ▸ hv))
    have not_text : v.kind ≠ .string := by
      intro kind
      cases v with
      | string r => exact no_text r hv
      | _ => exact nomatch kind
    exact wf key _ ⟨v, hv, not_null, .notText hk not_text⟩

/-- The key for credentials has credentials or nothing. -/
theorem WellFormed.blank_of_no_credentials (wf : WellFormed values)
    (no_credentials : ∀ v c, values SettingKey.credentials.name = some v →
      Credentials.ofJson v ≠ .ok c) : Blank values .credentials := by
  cases hv : values SettingKey.credentials.name with
  | none => exact .inl hv
  | some v =>
    by_contra h
    have not_null : v ≠ .null := fun eq => h (.inr (eq ▸ hv))
    cases hd : Credentials.ofJson v with
    | error cause => exact wf .credentials _ ⟨v, hv, not_null, .notCredentials hd⟩
    | ok c => exact no_credentials v c hv hd

theorem isNone_region_iff (wf : WellFormed values) (holds : Holds values s) :
    s.region.isNone = true ↔ Blank values .region := by
  rw [Option.isNone_iff_eq_none, Option.eq_none_iff_forall_ne_some]
  simp only [ne_eq, holds.region]
  constructor
  · exact wf.blank_of_no_text nofun
  · rintro (h | h) r hr
    all_goals simp [h] at hr

theorem not_isSet_iff {c : Credentials} :
    c.isSet = false ↔ c.accessKeyId = "" ∨ c.secretAccessKey = "" := by
  simp only [Credentials.isSet, Bool.and_eq_false_iff, Bool.not_eq_false',
    String.isEmpty_iff]

theorem not_hasCredentials_iff (wf : WellFormed values) (holds : Holds values s) :
    s.hasCredentials = false ↔ Blank values .credentials ∨
      ∃ v c, values SettingKey.credentials.name = some v ∧ Credentials.ofJson v = .ok c ∧
        (c.accessKeyId = "" ∨ c.secretAccessKey = "") := by
  unfold hasCredentials
  constructor
  · intro h
    cases hc : s.credentials with
    | some c =>
      obtain ⟨v, hv, hd⟩ := (holds.credentials c).1 hc
      rw [hc, Option.any_some] at h
      exact .inr ⟨v, c, hv, hd, not_isSet_iff.1 h⟩
    | none =>
      refine .inl (wf.blank_of_no_credentials fun v c hv hd => ?_)
      rw [(holds.credentials c).2 ⟨v, hv, hd⟩] at hc
      exact nomatch hc
  · rintro ((h | h) | ⟨v, c, hv, hd, empty⟩)
    · have : s.credentials = none := by
        rw [Option.eq_none_iff_forall_ne_some]
        simp [holds.credentials, h]
      rw [this, Option.any_none]
    · have : s.credentials = none := by
        rw [Option.eq_none_iff_forall_ne_some]
        simp [holds.credentials, h, Credentials.ofJson]
      rw [this, Option.any_none]
    · rw [(holds.credentials c).2 ⟨v, hv, hd⟩, Option.any_some]
      exact not_isSet_iff.2 empty

theorem lacksRegion_iff {a : Api} (wf : WellFormed values) (holds : Holds values s) :
    (a.requiresRegion && s.region.isNone) = true ↔ LacksRegion a values := by
  rw [Bool.and_eq_true, Api.requiresRegion_iff, isNone_region_iff wf holds, LacksRegion]

theorem lacksCredentials_iff {a : Api} (wf : WellFormed values) (holds : Holds values s) :
    (a.requiresCredentials && !s.hasCredentials) = true ↔ LacksCredentials a values := by
  rw [Bool.and_eq_true, Api.requiresCredentials_iff, Bool.not_eq_true',
    not_hasCredentials_iff wf holds, LacksCredentials, and_assoc]

/-! ## The outcome -/

/-- What resolving the settings of a client comes to. -/
def Resolved (service : String) (a : Api) (values : Values) :
    Except SettingsError EffectiveSettings → Prop
  | .error (.invalid key cause) => FirstFault values key cause
  | .error (.missingRegion owner) => owner = service ∧ WellFormed values ∧ LacksRegion a values
  | .error (.missingCredentials owner) =>
    owner = service ∧ WellFormed values ∧ ¬ LacksRegion a values ∧ LacksCredentials a values
  | .ok s => WellFormed values ∧ ¬ LacksRegion a values ∧ ¬ LacksCredentials a values ∧
      Holds values s

theorem resolved_require {service : String} {a : Api} (wf : WellFormed values)
    (holds : Holds values s) : Resolved service a values (require service a s) := by
  unfold require
  split_ifs with region credentials
  · exact ⟨rfl, wf, (lacksRegion_iff wf holds).1 region⟩
  · exact ⟨rfl, wf, mt (lacksRegion_iff wf holds).2 region,
      (lacksCredentials_iff wf holds).1 credentials⟩
  · exact ⟨wf, mt (lacksRegion_iff wf holds).2 region,
      mt (lacksCredentials_iff wf holds).2 credentials, holds⟩

variable (service : String) (a : Api) (defaults options : Settings)

theorem get?_overlay_eq :
    (fun k => Members.get? (Members.overlay defaults options) k) =
      Settings.effective? defaults options := by
  funext k
  rw [Members.get?_overlay, Settings.effective?_eq_or]

theorem resolved_resolve :
    Resolved service a (Settings.effective? defaults options)
      (resolve service a defaults options) := by
  have judged := judged_ofSettings (Members.overlay defaults options)
  rw [get?_overlay_eq] at judged
  unfold resolve
  cases h : ofSettings (Members.overlay defaults options) with
  | error err =>
    rw [h] at judged
    obtain ⟨key, cause, rfl, first⟩ := judged
    exact first
  | ok s =>
    rw [h] at judged
    exact resolved_require judged.1 judged.2

/-- Every outcome of resolving settings, with what it depends on: the values key by key, and the
definition of the API. -/
theorem resolve_iff :
    let values := Settings.effective? defaults options
    let outcome := resolve service a defaults options
    (∀ key cause, outcome = .error (.invalid key cause) ↔ FirstFault values key cause) ∧
    (∀ owner, outcome = .error (.missingRegion owner) ↔
      owner = service ∧ WellFormed values ∧ LacksRegion a values) ∧
    (∀ owner, outcome = .error (.missingCredentials owner) ↔
      owner = service ∧ WellFormed values ∧ ¬ LacksRegion a values ∧ LacksCredentials a values) ∧
    (∀ s, outcome = .ok s ↔
      WellFormed values ∧ ¬ LacksRegion a values ∧ ¬ LacksCredentials a values ∧
        Holds values s) := by
  intro values outcome
  have resolved : Resolved service a values outcome := resolved_resolve service a defaults options
  generalize outcome = result at resolved
  have no_fault : WellFormed values → ∀ key cause, ¬ FirstFault values key cause :=
    fun wf key cause first => first.not_wellFormed wf
  cases result with
  | error err =>
    cases err with
    | invalid key cause =>
      have first : FirstFault values key cause := resolved
      have not_wf := first.not_wellFormed
      refine ⟨fun key' cause' => ⟨?_, ?_⟩, by simp [not_wf], by simp [not_wf], by simp [not_wf]⟩
      · intro h
        obtain ⟨rfl, rfl⟩ := SettingsError.invalid.inj (Except.error.inj h)
        exact first
      · intro h
        obtain ⟨rfl, rfl⟩ := first.unique h
        rfl
    | missingRegion owner =>
      obtain ⟨rfl, wf, region⟩ := resolved
      simp [wf, region, no_fault wf, @eq_comm _ owner]
    | missingCredentials owner =>
      obtain ⟨rfl, wf, region, credentials⟩ := resolved
      simp [wf, region, credentials, no_fault wf, @eq_comm _ owner]
  | ok s =>
    obtain ⟨wf, region, credentials, holds⟩ := resolved
    have held : ∀ e, Holds values e ↔ s = e := fun e => ⟨holds.unique, fun eq => eq ▸ holds⟩
    simp [wf, region, credentials, no_fault wf, held]

end ApiClients.EffectiveSettings
