import ApiClients.Proofs.Api.Definition
import ApiClients.Settings.Effective

/-!
# Rules for the settings of a client

What holds for a key is what the options say of it, or else the defaults (`Settings.effective?`). The
rules are about such values, key by key, and about the definition of the API: which values are
malformed (`Malformed`) and which of them is judged first (`FirstFault`), when a region or credentials
are missing (`LacksRegion`, `LacksCredentials`), and which settings hold the values (`Holds`). Values
have at most one first fault, and at most one settings hold them.
-/

namespace ApiClients

/-- What the options say of a key, `null` included, or else what the defaults say. -/
def Settings.effective? (defaults options : Settings) (key : String) : Option Json :=
  match Members.get? options key with
  | some v => some v
  | none => Members.get? defaults key

theorem Settings.effective?_eq_or (defaults options : Settings) (k : String) :
    effective? defaults options k = (Members.get? options k).or (Members.get? defaults k) := by
  unfold effective?
  cases Members.get? options k <;> rfl

/-! ## Keys with a meaning -/

namespace SettingKey

variable {key l : SettingKey} {k : String}

/-- The turn in which a key is judged. -/
def turn : SettingKey → Nat
  | credentials => 0
  | endpoint => 1
  | region => 2

theorem ofName?_eq_some_iff : ofName? k = some key ↔ k = key.name := by
  unfold ofName?
  split_ifs with h₁ h₂ h₃
  all_goals cases key <;> simp_all [name]

theorem ofName?_eq_none_iff : ofName? k = none ↔ ∀ key : SettingKey, key.name ≠ k := by
  rw [Option.eq_none_iff_forall_ne_some]
  simp only [ne_eq, ofName?_eq_some_iff]
  exact forall_congr' fun key => not_congr eq_comm

theorem name_injective (h : key.name = l.name) : key = l := by
  have := ofName?_eq_some_iff.2 h
  rw [ofName?_eq_some_iff.2 rfl] at this
  exact Option.some.inj this

/-- The turns of the keys are the order of their names. -/
theorem turn_lt_iff : key.turn < l.turn ↔ key.name < l.name := by
  cases key <;> cases l <;> decide +kernel

theorem turn_injective (h : key.turn = l.turn) : key = l := by
  cases key <;> cases l <;> first | rfl | exact nomatch h

end SettingKey

namespace EffectiveSettings

/-! ## Rules -/

/-- What makes the value of a key malformed: a region or an endpoint that is no text or an empty one,
and credentials that cannot be decoded. -/
inductive Malformed : SettingKey → Json → ValueError → Prop where
  | empty {key : SettingKey} (h : key ≠ .credentials) : Malformed key (.string "") .empty
  | notText {key : SettingKey} {v : Json} (h : key ≠ .credentials) (hv : v.kind ≠ .string) :
    Malformed key v (.notText v.kind)
  | notCredentials {v : Json} {cause : Credentials.DecodeError}
      (h : Credentials.ofJson v = .error cause) :
    Malformed .credentials v (.notCredentials cause)

/-- Values by their keys. -/
abbrev Values : Type := String → Option Json

variable {values : Values} {key : SettingKey} {cause : ValueError} {s e : EffectiveSettings}
  {k : String} {v : Json}

/-- A key has a malformed value, `null` aside. -/
def Refused (values : Values) (key : SettingKey) (cause : ValueError) : Prop :=
  ∃ v, values key.name = some v ∧ v ≠ .null ∧ Malformed key v cause

/-- The key is the first one, in the order of their turns, that has a malformed value. -/
def FirstFault (values : Values) (key : SettingKey) (cause : ValueError) : Prop :=
  Refused values key cause ∧ ∀ other, other.turn < key.turn → ∀ c, ¬ Refused values other c

/-- No key has a malformed value. -/
def WellFormed (values : Values) : Prop :=
  ∀ key cause, ¬ Refused values key cause

/-- A key has no value, or `null`. -/
def Blank (values : Values) (key : SettingKey) : Prop :=
  values key.name = none ∨ values key.name = some .null

/-- The API has an operation, and there is no region. -/
def LacksRegion (a : Api) (values : Values) : Prop :=
  (∃ name entry, a.Defines name entry) ∧ Blank values .region

/-- The API has an operation whose requests are signed, and there are no credentials, or credentials
with an empty part of the access key. -/
def LacksCredentials (a : Api) (values : Values) : Prop :=
  ¬ a.DisablesSigning ∧ (∃ name entry, a.Defines name entry ∧ ¬ Api.OptsOut entry) ∧
    (Blank values .credentials ∨
      ∃ v c, values SettingKey.credentials.name = some v ∧ Credentials.ofJson v = .ok c ∧
        (c.accessKeyId = "" ∨ c.secretAccessKey = ""))

/-- The settings are what the values say: under the keys with a meaning what is decoded from them,
`null` aside, and all other values as they are. -/
structure Holds (values : Values) (s : EffectiveSettings) : Prop where
  region : ∀ r, s.region = some r ↔ values SettingKey.region.name = some (.string r)
  endpoint : ∀ r, s.endpoint = some r ↔ values SettingKey.endpoint.name = some (.string r)
  credentials : ∀ c, s.credentials = some c ↔
    ∃ v, values SettingKey.credentials.name = some v ∧ Credentials.ofJson v = .ok c
  recognized : ∀ key : SettingKey, s.extra.get? key.name = none
  extra : ∀ k, (∀ key : SettingKey, key.name ≠ k) → s.extra.get? k = values k

theorem Holds.region_ne_empty {r : String} (holds : Holds values s) (wf : WellFormed values)
    (h : s.region = some r) : r ≠ "" := by
  rintro rfl
  exact wf .region _ ⟨_, (holds.region "").1 h, nofun, .empty nofun⟩

theorem Holds.endpoint_ne_empty {r : String} (holds : Holds values s) (wf : WellFormed values)
    (h : s.endpoint = some r) : r ≠ "" := by
  rintro rfl
  exact wf .endpoint _ ⟨_, (holds.endpoint "").1 h, nofun, .empty nofun⟩

/-! ## Uniqueness -/

theorem Malformed.unique {cause' : ValueError} (h : Malformed key v cause)
    (h' : Malformed key v cause') : cause = cause' := by
  cases h with
  | empty hk =>
    cases h' with
    | empty => rfl
    | notText _ hv => exact absurd rfl hv
    | notCredentials => exact absurd rfl hk
  | notText hk hv =>
    cases h' with
    | empty => exact absurd rfl hv
    | notText => rfl
    | notCredentials => exact absurd rfl hk
  | notCredentials h =>
    cases h' with
    | empty hk => exact absurd rfl hk
    | notText hk => exact absurd rfl hk
    | notCredentials h' => rw [Except.error.inj (h.symm.trans h')]

theorem FirstFault.unique {key' : SettingKey} {cause' : ValueError}
    (h : FirstFault values key cause) (h' : FirstFault values key' cause') :
    key = key' ∧ cause = cause' := by
  have not_lt : ¬ key.turn < key'.turn := fun lt => h'.2 key lt cause h.1
  have not_gt : ¬ key'.turn < key.turn := fun lt => h.2 key' lt cause' h'.1
  obtain rfl : key = key' := SettingKey.turn_injective (by omega)
  obtain ⟨⟨v, hv, -, m⟩, -⟩ := h
  obtain ⟨⟨w, hw, -, m'⟩, -⟩ := h'
  obtain rfl : v = w := Option.some.inj (hv.symm.trans hw)
  exact ⟨rfl, m.unique m'⟩

theorem FirstFault.not_wellFormed (h : FirstFault values key cause) : ¬ WellFormed values :=
  fun wf => wf key cause h.1

theorem Holds.unique (h : Holds values s) (h' : Holds values e) : s = e := by
  have region : s.region = e.region := Option.ext fun r => by rw [h.region, h'.region]
  have endpoint : s.endpoint = e.endpoint := Option.ext fun r => by rw [h.endpoint, h'.endpoint]
  have credentials : s.credentials = e.credentials :=
    Option.ext fun c => by rw [h.credentials, h'.credentials]
  have extra : s.extra = e.extra := by
    refine Members.ext_get? fun k => ?_
    cases hk : SettingKey.ofName? k with
    | none =>
      have other := SettingKey.ofName?_eq_none_iff.1 hk
      rw [h.extra k other, h'.extra k other]
    | some key => rw [SettingKey.ofName?_eq_some_iff.1 hk, h.recognized, h'.recognized]
  cases s
  cases e
  simp_all

end EffectiveSettings

end ApiClients
