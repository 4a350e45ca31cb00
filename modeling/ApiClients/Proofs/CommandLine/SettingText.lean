import ApiClients.CommandLine.SettingText
import ApiClients.Proofs.Json.Reading

/-!
# Settings in writing

A setting is written as a key, an equals sign and a text for the value (`Sets`), and only such texts are
settings (`readSetting_eq_ok_iff`). The value may hold more equals signs, as the first one ends the key.
A value is read back from its compact text where the reader accepts this text, which it does for values
without floating-point numbers and within its limit of nesting (`readSetting_compact`).
-/

namespace ApiClients.CommandLine

variable {raw text key : String} {v : Json} {e : String × Json}

/-! ## The first mark -/

section Split

variable {mark : Char} {l before after : List Char}

theorem splitAtFirst?_eq_none_iff : splitAtFirst? mark l = none ↔ mark ∉ l := by
  induction l with
  | nil => simp [splitAtFirst?]
  | cons c rest ih =>
    unfold splitAtFirst?
    by_cases h : c = mark
    · simp [h]
    · rw [if_neg h, Option.map_eq_none_iff, ih, List.mem_cons, not_or]
      exact ⟨fun not_rest => ⟨Ne.symm h, not_rest⟩, And.right⟩

theorem splitAtFirst?_eq_some_iff : splitAtFirst? mark l = some (before, after) ↔
    l = before ++ mark :: after ∧ mark ∉ before := by
  induction l generalizing before with
  | nil => simp [splitAtFirst?]
  | cons c rest ih =>
    unfold splitAtFirst?
    by_cases h : c = mark
    · rw [if_pos h, h]
      cases before with
      | nil => simp
      | cons d before =>
        -- A mark at the beginning is the first one, so nothing stands before it.
        refine ⟨nofun, fun ⟨eq, absent⟩ => ?_⟩
        obtain ⟨rfl, -⟩ := List.cons.inj eq
        exact absurd List.mem_cons_self absent
    · rw [if_neg h, Option.map_eq_some_iff]
      constructor
      · rintro ⟨⟨before', _⟩, split, eq⟩
        obtain ⟨rfl, rfl⟩ := Prod.mk.inj eq
        obtain ⟨rfl, absent⟩ := ih.1 split
        refine ⟨rfl, ?_⟩
        rw [List.mem_cons, not_or]
        exact ⟨Ne.symm h, absent⟩
      · rintro ⟨eq, absent⟩
        cases before with
        | nil => exact absurd (List.cons.inj eq).1 h
        | cons d before =>
          obtain ⟨rfl, rfl⟩ := List.cons.inj eq
          exact ⟨_, ih.2 ⟨rfl, fun present => absent (List.mem_cons_of_mem _ present)⟩, rfl⟩

end Split

/-! ## Values -/

/-- What a text stands for: the value that the reader finds in it, or the text itself if the reader
refuses it. -/
inductive Denotes (text : String) : Json → Prop where
  | value {v : Json} (read : Json.read? text = some v) : Denotes text v
  | text (unread : Json.read? text = none) : Denotes text (.string text)

theorem valueOfText_eq_iff : valueOfText text = v ↔ Denotes text v := by
  unfold valueOfText
  constructor
  · rintro rfl
    cases h : Json.read? text with
    | some w => exact .value h
    | none => exact .text h
  · intro h
    cases h with
    | value read =>
      rw [read]
      rfl
    | text unread =>
      rw [unread]
      rfl

theorem Denotes.depth_le (h : Denotes text v) : v.depth ≤ Json.maxDepth := by
  cases h with
  | value read => exact Json.depth_le_of_read? read
  | text => exact Nat.zero_le _

/-! ## Settings -/

/-- A setting in writing: the key ends at the first equals sign, and it is not empty. -/
inductive Sets : String → String × Json → Prop where
  | mk {key text : String} {v : Json} (not_empty : key ≠ "") (no_mark : '=' ∉ key.toList)
    (denotes : Denotes text v) : Sets (key ++ "=" ++ text) (key, v)

/-- A text is cut at an equals sign. -/
theorem toList_eq_append_iff {before after : List Char} : raw.toList = before ++ '=' :: after ↔
    raw = String.ofList before ++ "=" ++ String.ofList after := by
  rw [← String.toList_inj]
  simp

theorem readSetting_eq_ok_iff : readSetting raw = .ok e ↔ Sets raw e := by
  unfold readSetting
  constructor
  · intro h
    split at h
    · exact nomatch h
    · exact nomatch h
    · next before after not_nil split =>
      obtain ⟨cut, absent⟩ := splitAtFirst?_eq_some_iff.1 split
      rw [toList_eq_append_iff.1 cut, ← Except.ok.inj h]
      refine .mk (fun empty => ?_) (by rwa [String.toList_ofList]) (valueOfText_eq_iff.1 rfl)
      exact not_nil (String.ofList_eq_empty_iff.1 empty)
  · intro h
    cases h with
    | @mk key text v not_empty no_mark denotes =>
      have split : splitAtFirst? '=' (key ++ "=" ++ text).toList = some (key.toList, text.toList) := by
        rw [splitAtFirst?_eq_some_iff]
        exact ⟨by simp, no_mark⟩
      rw [split]
      cases hk : key.toList with
      | nil => exact absurd (String.toList_eq_nil_iff.1 hk) not_empty
      | cons c rest =>
        show Except.ok (String.ofList (c :: rest), valueOfText (String.ofList text.toList)) = _
        rw [← hk, String.ofList_toList, String.ofList_toList, valueOfText_eq_iff.2 denotes]

theorem readSetting_eq_error_iff {err : SettingError} : readSetting raw = .error err ↔
    '=' ∉ raw.toList ∧ err = .noValue raw ∨ (∃ text, raw = "=" ++ text) ∧ err = .noKey := by
  unfold readSetting
  split
  · next unsplit =>
    have absent : '=' ∉ raw.toList := splitAtFirst?_eq_none_iff.1 unsplit
    have no_start : ¬ ∃ text, raw = "=" ++ text := by
      rintro ⟨text, rfl⟩
      simp at absent
    simp [absent, no_start, eq_comm]
  · next after split =>
    obtain ⟨cut, -⟩ := splitAtFirst?_eq_some_iff.1 split
    have start : ∃ text, raw = "=" ++ text := ⟨_, toList_eq_append_iff.1 cut⟩
    have present : '=' ∈ raw.toList := by simp [cut]
    simp [present, start, eq_comm]
  · next before after not_nil split =>
    obtain ⟨cut, absent⟩ := splitAtFirst?_eq_some_iff.1 split
    have present : '=' ∈ raw.toList := by simp [cut]
    have no_start : ¬ ∃ text, raw = "=" ++ text := by
      rintro ⟨text, rfl⟩
      cases before with
      | nil => exact not_nil rfl
      | cons c before => simp_all
    simp [present, no_start]

/-- A setting is read back from its key and the compact text of its value. -/
theorem readSetting_compact (not_empty : key ≠ "") (no_mark : '=' ∉ key.toList)
    (integral : v.isIntegral = true) (depth : v.depth ≤ Json.maxDepth) :
    readSetting (key ++ "=" ++ v.compact) = .ok (key, v) :=
  readSetting_eq_ok_iff.2 (.mk not_empty no_mark (.value (Json.read?_compact integral depth)))

end ApiClients.CommandLine
