import ApiClients.Proofs.Results
import ApiClients.Settings.Credentials

/-!
# Credentials in writing

Credentials are written as an object or as an array (`Written`), and a value is decoded exactly when it
is credentials in writing (`ofJson_eq_ok_iff`). An object that is not decoded has a member that is no
text, of which the first one is reported (`Offends`), or else a part of the access key is missing
(`Faulty`, `faulty_of_ofTable`).
-/

namespace ApiClients.Credentials

open Results

variable {t : Table Json} {v w : Json} {o : Option Json} {c : Credentials} {e : DecodeError}
  {s : String} {token : Option String}

/-! ## The parts -/

/-- A session token in writing: nothing, `null`, or a text. -/
inductive TokenWritten : Option Json → Option String → Prop where
  | absent : TokenWritten none none
  | null : TokenWritten (some .null) none
  | text (s : String) : TokenWritten (some (.string s)) (some s)

theorem text_eq_ok_iff : text v = .ok s ↔ v = .string s := by
  cases v <;> simp [text]

theorem text_eq_error_iff : text v = .error e ↔ v.kind ≠ .string ∧ e = .notText v := by
  cases v <;> simp [text, Json.kind, eq_comm]

theorem textOrNull_eq_ok_iff : textOrNull v = .ok token ↔ TokenWritten (some v) token := by
  constructor
  · intro h
    cases v with
    | null =>
      obtain rfl := Except.ok.inj h
      exact .null
    | string s =>
      obtain rfl := Except.ok.inj h
      exact .text s
    | _ => exact nomatch h
  · intro h
    cases h <;> rfl

theorem textOrNull_eq_error_iff :
    textOrNull v = .error e ↔ v.kind ≠ .null ∧ v.kind ≠ .string ∧ e = .notText v := by
  cases v <;> simp [textOrNull, text, Json.kind, Except.map, eq_comm]

theorem mapM_text_eq_ok_iff {x : Option String} : o.mapM text = .ok x ↔ o = x.map .string := by
  cases o with
  | none => cases x <;> simp [pure, Except.pure]
  | some v =>
    show (text v).map some = .ok x ↔ _
    rw [map_eq_ok_iff]
    cases x <;> simp [text_eq_ok_iff]

theorem mapM_text_eq_error_iff :
    o.mapM text = .error e ↔ ∃ v, o = some v ∧ v.kind ≠ .string ∧ e = .notText v := by
  cases o with
  | none => simp [pure, Except.pure]
  | some v =>
    show (text v).map some = .error e ↔ _
    rw [map_eq_error_iff, text_eq_error_iff]
    simp

theorem mapM_textOrNull_eq_ok_iff :
    (∃ x, o.mapM textOrNull = .ok x ∧ x.join = token) ↔ TokenWritten o token := by
  cases o with
  | none =>
    constructor
    · rintro ⟨x, hx, rfl⟩
      obtain rfl := Except.ok.inj hx
      exact .absent
    · rintro ⟨⟩
      exact ⟨none, rfl, rfl⟩
  | some v =>
    rw [← textOrNull_eq_ok_iff]
    show (∃ x, (textOrNull v).map some = .ok x ∧ x.join = token) ↔ _
    cases textOrNull v <;> simp [Except.map]

theorem mapM_textOrNull_eq_error_iff : o.mapM textOrNull = .error e ↔
    ∃ v, o = some v ∧ v.kind ≠ .null ∧ v.kind ≠ .string ∧ e = .notText v := by
  cases o with
  | none => simp [pure, Except.pure]
  | some v =>
    show (textOrNull v).map some = .error e ↔ _
    rw [map_eq_error_iff, textOrNull_eq_error_iff]
    simp

/-- What stands for a session token, if anything, is `null` or a text. -/
theorem exists_tokenWritten_iff :
    (∃ token, TokenWritten o token) ↔ ∀ v, o = some v → v.kind = .null ∨ v.kind = .string := by
  cases o with
  | none => exact ⟨fun _ v => nofun, fun _ => ⟨none, .absent⟩⟩
  | some v =>
    constructor
    · rintro ⟨token, written⟩ v h
      obtain rfl := Option.some.inj h
      cases written with
      | null => exact .inl rfl
      | text => exact .inr rfl
    · intro h
      cases v with
      | null => exact ⟨none, .null⟩
      | string s => exact ⟨some s, .text s⟩
      | _ => exact absurd (h _ rfl) (by simp [Json.kind])

/-! ## Decoding -/

/-- Credentials in writing. An object may have further members; an array has nothing else. -/
inductive Written : Json → Credentials → Prop where
  | object {t : Table Json} {id secret : String} {token : Option String}
      (has_id : t.get? "access_key_id" = some (.string id))
      (has_secret : t.get? "secret_access_key" = some (.string secret))
      (has_token : TokenWritten (t.get? "session_token") token) :
      Written (.object t) ⟨id, secret, token⟩
  | array {id secret : String} {last : Option Json} {token : Option String}
      (has_token : TokenWritten last token) :
      Written (.array (.string id :: .string secret :: last.toList)) ⟨id, secret, token⟩

theorem ofTable_eq_ok_iff : ofTable t = .ok c ↔ Written (.object t) c := by
  constructor
  · intro h
    obtain ⟨id, hid, h⟩ := bind_eq_ok_iff.1 h
    obtain ⟨secret, hsecret, h⟩ := bind_eq_ok_iff.1 h
    obtain ⟨token, htoken, h⟩ := bind_eq_ok_iff.1 h
    rw [mapM_text_eq_ok_iff] at hid hsecret
    have written := mapM_textOrNull_eq_ok_iff.1 ⟨token, htoken, rfl⟩
    rcases id with _ | id
    · exact nomatch h
    rcases secret with _ | secret
    · exact nomatch h
    obtain rfl := Except.ok.inj h
    exact .object hid hsecret written
  · intro h
    cases h with
    | object has_id has_secret has_token =>
      obtain ⟨x, hx, rfl⟩ := mapM_textOrNull_eq_ok_iff.2 has_token
      unfold ofTable
      rw [has_id, has_secret, hx]
      rfl

theorem ofItems_eq_ok_iff {items : List Json} :
    ofItems items = .ok c ↔ Written (.array items) c := by
  constructor
  · intro h
    match items, h with
    | [], h => exact nomatch h
    | [id], h =>
      obtain ⟨id, hid, h⟩ := bind_eq_ok_iff.1 h
      exact nomatch h
    | [id, secret], h =>
      obtain ⟨id, hid, h⟩ := bind_eq_ok_iff.1 h
      obtain ⟨secret, hsecret, h⟩ := bind_eq_ok_iff.1 h
      obtain rfl := Except.ok.inj h
      rw [text_eq_ok_iff.1 hid, text_eq_ok_iff.1 hsecret]
      exact @Written.array id secret none none .absent
    | id :: secret :: token :: more, h =>
      obtain ⟨id, hid, h⟩ := bind_eq_ok_iff.1 h
      obtain ⟨secret, hsecret, h⟩ := bind_eq_ok_iff.1 h
      obtain ⟨token, htoken, h⟩ := bind_eq_ok_iff.1 h
      rw [text_eq_ok_iff.1 hid, text_eq_ok_iff.1 hsecret]
      cases more with
      | nil =>
        obtain rfl := Except.ok.inj h
        exact .array (textOrNull_eq_ok_iff.1 htoken)
      | cons => exact nomatch h
  · intro h
    cases h with
    | array has_token => cases has_token <;> rfl

/-- What is decoded is credentials in writing. -/
theorem ofJson_eq_ok_iff : ofJson v = .ok c ↔ Written v c := by
  cases v with
  | object t => exact ofTable_eq_ok_iff
  | array items => exact ofItems_eq_ok_iff
  | _ => exact ⟨nofun, nofun⟩

theorem written_toJson (c : Credentials) : Written c.toJson c :=
  ofJson_eq_ok_iff.1 (ofJson_toJson c)

theorem toJson_injective {c d : Credentials} (h : c.toJson = d.toJson) : c = d := by
  have decoded := ofJson_toJson c
  rw [h, ofJson_toJson] at decoded
  exact (Except.ok.inj decoded).symm

/-! ## What is wrong with an object -/

/-- A member is a text if it is there. -/
def TextIfAny (o : Option Json) : Prop :=
  ∀ v, o = some v → v.kind = .string

theorem textIfAny_of_mapM {x : Option String} (h : o.mapM text = .ok x) : TextIfAny o := by
  obtain rfl := mapM_text_eq_ok_iff.1 h
  intro v hv
  obtain ⟨s, -, rfl⟩ := Option.map_eq_some_iff.1 hv
  rfl

/-- The value is that of the first member, in the order of their names, that is no text. -/
inductive Offends (t : Table Json) : Json → Prop where
  | id {v : Json} (here : t.get? "access_key_id" = some v) (no_text : v.kind ≠ .string) : Offends t v
  | secret {v : Json} (id : TextIfAny (t.get? "access_key_id"))
      (here : t.get? "secret_access_key" = some v) (no_text : v.kind ≠ .string) : Offends t v
  | token {v : Json} (id : TextIfAny (t.get? "access_key_id"))
      (secret : TextIfAny (t.get? "secret_access_key")) (here : t.get? "session_token" = some v)
      (not_null : v.kind ≠ .null) (no_text : v.kind ≠ .string) : Offends t v

/-- Every member is what it has to be if it is there. -/
structure Proper (t : Table Json) : Prop where
  id : TextIfAny (t.get? "access_key_id")
  secret : TextIfAny (t.get? "secret_access_key")
  token : ∃ token, TokenWritten (t.get? "session_token") token

theorem Offends.kind_ne (h : Offends t v) : v.kind ≠ .string := by
  cases h <;> assumption

theorem Offends.not_proper (h : Offends t v) : ¬ Proper t := by
  intro proper
  cases h with
  | id here no_text => exact no_text (proper.id v here)
  | secret _ here no_text => exact no_text (proper.secret v here)
  | token _ _ here not_null no_text =>
    exact (exists_tokenWritten_iff.1 proper.token v here).elim not_null no_text

theorem Offends.unique (hv : Offends t v) (hw : Offends t w) : v = w := by
  cases hv <;> cases hw <;> simp_all [TextIfAny]

/-- What is wrong with an object that gives no credentials. -/
inductive Faulty (t : Table Json) : DecodeError → Prop where
  | offended {v : Json} (h : Offends t v) : Faulty t (.notText v)
  | noId (proper : Proper t) (absent : t.get? "access_key_id" = none) :
      Faulty t (.missing .accessKeyId)
  | noSecret (proper : Proper t) (id : t.get? "access_key_id" ≠ none)
      (absent : t.get? "secret_access_key" = none) : Faulty t (.missing .secretAccessKey)

theorem Faulty.eq_of_offends (h : Faulty t e) (offends : Offends t v) : e = .notText v := by
  cases h with
  | offended other => rw [other.unique offends]
  | noId proper | noSecret proper => exact absurd proper offends.not_proper

theorem Faulty.exists_offends (h : Faulty t e) (improper : ¬ Proper t) : ∃ v, Offends t v := by
  cases h with
  | offended offends => exact ⟨_, offends⟩
  | noId proper | noSecret proper => exact absurd proper improper

/-- An error of decoding an object says what is wrong with it. -/
theorem faulty_of_ofTable (h : ofTable t = .error e) : Faulty t e := by
  rcases bind_eq_error_iff.1 h with h | ⟨id, hid, h⟩
  · obtain ⟨v, here, no_text, rfl⟩ := mapM_text_eq_error_iff.1 h
    exact .offended (.id here no_text)
  have id_text := textIfAny_of_mapM hid
  rcases bind_eq_error_iff.1 h with h | ⟨secret, hsecret, h⟩
  · obtain ⟨v, here, no_text, rfl⟩ := mapM_text_eq_error_iff.1 h
    exact .offended (.secret id_text here no_text)
  have secret_text := textIfAny_of_mapM hsecret
  rcases bind_eq_error_iff.1 h with h | ⟨token, htoken, h⟩
  · obtain ⟨v, here, not_null, no_text, rfl⟩ := mapM_textOrNull_eq_error_iff.1 h
    exact .offended (.token id_text secret_text here not_null no_text)
  -- All members are what they have to be, so one of the two parts is missing.
  have proper : Proper t :=
    ⟨id_text, secret_text, _, mapM_textOrNull_eq_ok_iff.1 ⟨token, htoken, rfl⟩⟩
  rw [mapM_text_eq_ok_iff] at hid hsecret
  rcases id with _ | id
  · obtain rfl := Except.error.inj h
    exact .noId proper hid
  rcases secret with _ | secret
  · obtain rfl := Except.error.inj h
    exact .noSecret proper (by simp [hid]) hsecret
  · exact absurd h (by simp [pure, Except.pure])

end ApiClients.Credentials
