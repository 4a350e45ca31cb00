import ApiClients.Proofs.Settings.Decoding
import Mathlib.Tactic.SplitIfs

/-!
# Two forms of credentials

Credentials stand in an object or in an array, and both forms are decoded to the parts that they hold
(`Written`). Encoding chooses one of the many writings: the object without further members, which has
no member for a session token where there is none (`Plain`). Among plain objects decoding undoes
encoding and encoding undoes decoding (`toTable_eq_iff`), so `ofJson_forms` leaves no room for the two
to drift apart.
-/

namespace ApiClients.Credentials

variable {t : Table Json} {k : String} {o : Option Json} {c : Credentials} {token : Option String}

/-- An object has no members but the parts of credentials, and no `null` in place of a session token. -/
structure Plain (t : Table Json) : Prop where
  known : ∀ k, t.contains k = true →
    k = "access_key_id" ∨ k = "secret_access_key" ∨ k = "session_token"
  no_null : t.get? "session_token" ≠ some .null

/-! ## What is encoded -/

theorem get?_toTable (c : Credentials) : c.toTable.get? k =
    if k = "session_token" then c.sessionToken.map .string
    else if k = "secret_access_key" then some (.string c.secretAccessKey)
    else if k = "access_key_id" then some (.string c.accessKeyId)
    else none := by
  unfold toTable
  cases c.sessionToken with
  | some token =>
    simp only [Members.get?_insert, Members.get?_empty]
    rfl
  | none =>
    simp only [Members.get?_insert, Members.get?_empty]
    -- Nothing is put under the name of the token, and the two other names are not this one.
    by_cases h : k = "session_token"
    · subst h
      rfl
    · rw [if_neg h]

theorem plain_toTable (c : Credentials) : Plain c.toTable where
  known k hk := by
    rw [Members.contains_eq_isSome, get?_toTable] at hk
    split_ifs at hk with is_token is_secret is_id
    · exact .inr (.inr is_token)
    · exact .inr (.inl is_secret)
    · exact .inl is_id
    · exact nomatch hk
  no_null := by
    rw [get?_toTable, if_pos rfl]
    cases c.sessionToken <;> simp

/-! ## What is decoded -/

/-- A token that is not written as `null` is written in one way only. -/
theorem TokenWritten.eq_map (h : TokenWritten o token) (no_null : o ≠ some .null) :
    o = token.map .string := by
  cases h with
  | absent => rfl
  | null => exact absurd rfl no_null
  | text s => rfl

/-- The object that encoding makes is the plain one among all that are decoded to the credentials. -/
theorem toTable_eq_iff : c.toTable = t ↔ Plain t ∧ ofTable t = .ok c := by
  constructor
  · rintro rfl
    exact ⟨plain_toTable c, ofJson_toJson c⟩
  · rintro ⟨plain, decoded⟩
    have written : Written (.object t) c := ofTable_eq_ok_iff.1 decoded
    cases written with
    | @object _ id secret token has_id has_secret has_token =>
      apply Members.ext_get?
      intro k
      rw [get?_toTable]
      split_ifs with is_token is_secret is_id
      · rw [is_token]
        exact (has_token.eq_map plain.no_null).symm
      · rw [is_secret, has_secret]
      · rw [is_id, has_id]
      · -- A plain object has no other members.
        cases h : t.get? k with
        | none => rfl
        | some v =>
          have there : t.contains k = true := by
            rw [Members.contains_eq_isSome, h]
            rfl
          rcases plain.known k there with eq | eq | eq
          · exact absurd eq is_id
          · exact absurd eq is_secret
          · exact absurd eq is_token

/-- An array is decoded to the parts that stand in its places. -/
theorem ofItems_eq_ok_iff_tokenWritten {last : Option Json} :
    ofItems (.string c.accessKeyId :: .string c.secretAccessKey :: last.toList) = .ok c ↔
      TokenWritten last c.sessionToken := by
  rw [ofItems_eq_ok_iff]
  constructor
  · intro h
    generalize eq : Json.string c.accessKeyId :: .string c.secretAccessKey :: last.toList = items at h
    cases h with
    | @array id secret last' token has_token =>
      have items_eq : last.toList = last'.toList := (List.cons.inj (List.cons.inj eq).2).2
      have same : last = last' := by
        ext v
        rw [← Option.mem_toList, items_eq, Option.mem_toList]
      rwa [same]
  · intro has_token
    exact .array has_token

/-- What decoding and encoding have to do with each other, for all values and all credentials. Decoding
accepts what is credentials in writing and nothing else. It undoes encoding, and it takes the three
parts from an array as well, whose last item may be missing or `null` if there is no token. Of all
objects that are decoded to some credentials the plain one, and no other, is their encoding. -/
theorem ofJson_forms :
    (∀ v c, ofJson v = .ok c ↔ Written v c) ∧
    (∀ c, ofJson c.toJson = .ok c) ∧
    (∀ (c : Credentials) (last : Option Json),
      ofJson (.array (.string c.accessKeyId :: .string c.secretAccessKey :: last.toList)) = .ok c ↔
        TokenWritten last c.sessionToken) ∧
    ∀ (c : Credentials) (t : Table Json),
      c.toJson = .object t ↔ Plain t ∧ ofJson (.object t) = .ok c := by
  refine ⟨fun v c => ofJson_eq_ok_iff, ofJson_toJson, fun c last => ofItems_eq_ok_iff_tokenWritten,
    fun c t => ?_⟩
  show Json.object c.toTable = .object t ↔ Plain t ∧ ofTable t = .ok c
  rw [Json.object.injEq]
  exact toTable_eq_iff

/-- Other members and a `null` are passed over, so this object is decoded without being an encoding. -/
example : ofJson (.ofMembers [("access_key_id", .string "AK"), ("note", .bool true),
    ("secret_access_key", .string "x"), ("session_token", .null)]) = .ok ⟨"AK", "x", none⟩ :=
  rfl

end ApiClients.Credentials
