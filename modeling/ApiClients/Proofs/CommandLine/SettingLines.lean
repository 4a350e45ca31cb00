import ApiClients.Proofs.CommandLine.Arguments
import ApiClients.Proofs.CommandLine.Check

/-!
# Settings are given back

A setting without a meaning of its own comes from `--set` only (`Given.mem_settings`), and `check` prints
it on a line of its own (`exists_line`). Its key and its value have come from a text, so they are within
the limits of `readSetting_compact`: what stands on the line is a setting again, and the same one.
-/

namespace ApiClients.CommandLine

open EffectiveSettings

variable {w : Surroundings} {env : Environment} {schema : Path} {name region : Option String}
  {settings : List (String × Json)} {k text : String} {v : Json}

theorem Given.mem_settings (given : Given env region settings k (some v))
    (other : ∀ key : SettingKey, key.name ≠ k) : (k, v) ∈ settings := by
  cases given with
  | set here => simp [here]
  | region _ key => exact absurd key.symm (other .region)
  | seeded _ _ seeds =>
    cases seeds with
    | region => exact absurd rfl (other .region)
    | credentials => exact absurd rfl (other .credentials)

theorem exists_line (ran : (Command.check schema name region settings).run w = .ok text)
    (given : Given w.environment region settings k (some v))
    (other : ∀ key : SettingKey, key.name ≠ k) :
    ∃ before after, text = before ++ ("  " ++ k ++ ": " ++ v.compact ++ "\n") ++ after := by
  obtain ⟨r, checks⟩ := exists_checks w schema name region settings
  obtain rfl : r = .ok text := (run_of_checks checks).symm.trans ran
  cases checks with
  | accepted found given' gate printed =>
    obtain rfl := eq_effective? given'
    obtain ⟨_, _, _, extra, lines, -, -, -, -, mem, written, rfl⟩ := printed
    have printed : (k, v) ∈ extra := (mem k v).2 ⟨given_iff.2 given, other⟩
    obtain ⟨above, below, rfl⟩ := List.append_of_mem printed
    obtain rfl := forall₂_printsMember_iff.1 written
    rw [List.map_append, List.map_cons, extraLine_spelled, String.join_append, String.join_cons,
      ← String.append_assoc, ← String.append_assoc]
    exact ⟨_, _, rfl⟩

/-- Settings survive being written and read. A text is no setting exactly if it has no equals sign or
begins with one; else the key is what stands before the first equals sign, and the value is what the text
after it denotes. A key that is not empty and has no equals sign, and a value without floating-point
numbers and within the limit of nesting, are read from the key, an equals sign and the compact text of the
value. So whenever `check` succeeds, each setting without a meaning of its own whose value is such stands
on a line of what is printed, and the key and the text on this line give the same setting again. -/
theorem settings_round_trip :
    (∀ raw err, readSetting raw = .error err ↔
      '=' ∉ raw.toList ∧ err = .noValue raw ∨ (∃ text, raw = "=" ++ text) ∧ err = .noKey) ∧
    (∀ raw e, readSetting raw = .ok e ↔ Sets raw e) ∧
    (∀ (key : String) (v : Json), key ≠ "" → '=' ∉ key.toList → v.isIntegral = true →
      v.depth ≤ 127 → readSetting (key ++ "=" ++ v.compact) = .ok (key, v)) ∧
    ∀ (w : Surroundings) (arguments : List String) (schema : Path) (name region : Option String)
      (settings : List (String × Json)) (text : String),
      Command.ofArguments arguments = .ok (.check schema name region settings) →
      run w arguments = .ok text →
      ∀ (k : String) (v : Json), (∀ key : SettingKey, key.name ≠ k) →
        Given w.environment region settings k (some v) → v.isIntegral = true →
        (∃ before after, text = before ++ ("  " ++ k ++ ": " ++ v.compact ++ "\n") ++ after) ∧
        readSetting (k ++ "=" ++ v.compact) = .ok (k, v) ∧
        ∃ path : String, schema = path ∧
          Command.ofArguments ["check", "--set=" ++ (k ++ "=" ++ v.compact), "--", path] =
            .ok (.check schema none none [(k, v)]) := by
  refine ⟨fun raw err => readSetting_eq_error_iff, fun raw e => readSetting_eq_ok_iff,
    fun key v not_empty no_mark integral depth => readSetting_compact not_empty no_mark integral depth,
    ?_⟩
  intro w arguments schema name region settings text made ran k v other given integral
  obtain ⟨⟨path, not_empty, rfl⟩, read⟩ := wellFormed_of_ofArguments made
  obtain ⟨raw, sets⟩ := read (k, v) (given.mem_settings other)
  cases sets with
  | mk has_key no_mark denotes =>
    have again : readSetting (k ++ "=" ++ v.compact) = .ok (k, v) :=
      readSetting_compact has_key no_mark integral denotes.depth_le
    have printed : (Command.check path name region settings).run w = .ok text := by
      rw [← run_eq_of_ofArguments made]
      exact ran
    exact ⟨exists_line printed given other, again, path, rfl,
      ofArguments_attached not_empty (readSetting_eq_ok_iff.1 again)⟩

/-- A run with a setting whose value holds an equals sign, a quote and a line break. -/
theorem settings_round_trip_note :
    let w : Surroundings := ⟨fun _ => .ok "\x7b\x7d", fun _ => none, false⟩
    let v : Json := .array [.string "=\"\n", .number (.integer (-1) (by decide))]
    let arguments := ["check", "api.json", "--name", "S", "--set", "note=[\"=\\\"\\n\", -1]"]
    let text := "ok: S client can be constructed\n  region: -\n  credentials: -\n" ++
      "  note: [\"=\\\"\\n\",-1]\n"
    run w arguments = .ok text ∧ v.compact = "[\"=\\\"\\n\",-1]" ∧
      readSetting ("note" ++ "=" ++ v.compact) = .ok ("note", v) := by
  intro w v arguments text
  have made : Command.ofArguments arguments = .ok (.check "api.json" (some "S") none [("note", v)]) := by
    rfl
  have ran : run w arguments = .ok text := by
    rw [run_eq_of_ofArguments made]
    rfl
  have other : ∀ key : SettingKey, key.name ≠ "note" := by
    intro key
    cases key <;> decide
  have given : Given w.environment none [("note", v)] "note" (some v) :=
    @Given.set _ _ _ _ [] [] v rfl nofun
  obtain ⟨-, -, -, lines⟩ := settings_round_trip
  obtain ⟨-, again, -⟩ :=
    lines w arguments "api.json" (some "S") none [("note", v)] text made ran "note" v other given rfl
  exact ⟨ran, rfl, again⟩

end ApiClients.CommandLine
