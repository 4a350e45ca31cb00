import ApiClients.Proofs.CommandLine.Stages
import ApiClients.Proofs.Json.Compact
import ApiClients.Proofs.Settings.Decoding
import ApiClients.Proofs.Settings.Sources
import Mathlib.Logic.ExistsUnique

/-!
# Checking settings

The command `check` finds a service and resolves settings for it. What it comes to is decided by the
stages of finding the service, then by the rules for settings (`Checks`, `check_iff`). The rules are
applied to one value for each key, which comes from the first source that has one (`Given`): the last
`--set` for the key, `--region` for the region, the environment. What is printed of the settings are
these values again (`Prints`).
-/

namespace ApiClients.CommandLine

open Results EffectiveSettings

variable {env : Environment} {region : Option String} {settings : List (String × Json)} {k : String}
  {values : Values} {cfg : EffectiveSettings}

/-! ## Sources -/

/-- What a command is given for a key. An option that is set hides all that is set before it, and all
other sources. -/
inductive Given (env : Environment) (region : Option String) (settings : List (String × Json))
    (k : String) : Option Json → Prop where
  | set {before after : List (String × Json)} {v : Json} (here : settings = before ++ (k, v) :: after)
    (last : ∀ e ∈ after, e.1 ≠ k) : Given env region settings k (some v)
  | region {r : String} (unset : ∀ e ∈ settings, e.1 ≠ k) (key : k = "region")
    (option : region = some r) : Given env region settings k (some (.string r))
  | seeded {v : Json} (unset : ∀ e ∈ settings, e.1 ≠ k) (no_option : k = "region" → region = none)
    (seeds : env.Seeds k v) : Given env region settings k (some v)
  | nothing (unset : ∀ e ∈ settings, e.1 ≠ k) (no_option : k = "region" → region = none)
    (no_seed : ∀ v, ¬ env.Seeds k v) : Given env region settings k none

theorem get?_optionsOf : Members.get? (optionsOf region settings) k =
    (settings.reverse.lookup k).or (if k = "region" then region.map Json.string else none) := by
  have pairs : (settings.map fun e => Assignment.option e.1 e.2).map (fun a => (a.key, a.value)) =
      settings := by
    rw [List.map_map]
    exact List.map_id _
  unfold optionsOf
  rw [Settings.get?_ofAssignments, List.map_append, List.reverse_append, List.lookup_append, pairs,
    List.map_map]
  exact congrArg _ (lookup_toList ..)

/-- The sources in their order. -/
theorem effective?_eq : Settings.effective? env.settings (optionsOf region settings) k =
    (settings.reverse.lookup k).or
      ((if k = "region" then region.map Json.string else none).or (Members.get? env.settings k)) := by
  rw [Settings.effective?_eq_or, get?_optionsOf, Option.or_assoc]

/-- What neither `--set` nor `--region` is given for comes from the environment. -/
theorem effective?_of_unset (unset : ∀ e ∈ settings, e.1 ≠ k)
    (no_option : k = "region" → region = none) :
    Settings.effective? env.settings (optionsOf region settings) k = Members.get? env.settings k := by
  have option : (if k = "region" then region.map Json.string else none) = none := by
    split_ifs with key
    · rw [no_option key]
      rfl
    · rfl
  rw [effective?_eq, lookup_reverse_eq_none_iff.2 unset, option]
  rfl

/-- The options of a command over the settings of the environment give what the command is given. -/
theorem given_iff {x : Option Json} :
    Settings.effective? env.settings (optionsOf region settings) k = x ↔
      Given env region settings k x := by
  constructor
  · rintro rfl
    cases hs : settings.reverse.lookup k with
    | some v =>
      obtain ⟨before, after, here, last⟩ := lookup_reverse_eq_some_iff.1 hs
      rw [effective?_eq, hs]
      exact .set here last
    | none =>
      have unset := lookup_reverse_eq_none_iff.1 hs
      cases ho : (if k = "region" then region.map Json.string else none) with
      | some v =>
        obtain ⟨key, mapped⟩ := Option.ite_none_right_eq_some.1 ho
        obtain ⟨r, option, rfl⟩ := Option.map_eq_some_iff.1 mapped
        rw [effective?_eq, hs, ho]
        exact .region unset key option
      | none =>
        have no_option : k = "region" → region = none := by
          intro key
          rwa [if_pos key, Option.map_eq_none_iff] at ho
        rw [effective?_of_unset unset no_option]
        cases hv : Members.get? env.settings k with
        | some v => exact .seeded unset no_option (Environment.get?_settings_eq_some_iff.1 hv)
        | none =>
          refine .nothing unset no_option fun v seeds => ?_
          rw [Environment.get?_settings_eq_some_iff.2 seeds] at hv
          exact nomatch hv
  · intro h
    cases h with
    | set here last =>
      rw [effective?_eq, lookup_reverse_eq_some_iff.2 ⟨_, _, here, last⟩]
      rfl
    | region unset key option =>
      rw [effective?_eq, lookup_reverse_eq_none_iff.2 unset, if_pos key, option]
      rfl
    | seeded unset no_option seeds =>
      rw [effective?_of_unset unset no_option]
      exact Environment.get?_settings_eq_some_iff.2 seeds
    | nothing unset no_option no_seed =>
      rw [effective?_of_unset unset no_option, Option.eq_none_iff_forall_ne_some]
      exact fun v hv => no_seed v (Environment.get?_settings_eq_some_iff.1 hv)

/-! ## Printed settings -/

/-- What is shown of a key with a meaning: a text that is a part of its value, or nothing where it has
no value or `null`. -/
inductive Shown (values : Values) (key : SettingKey) (part : Json → String → Prop) :
    Option String → Prop where
  | value {v : Json} {t : String} (found : values key.name = some v) (taken : part v t) :
    Shown values key part (some t)
  | blank (h : Blank values key) : Shown values key part none

def IsText (v : Json) (t : String) : Prop :=
  v = .string t

def HasKeyId (v : Json) (t : String) : Prop :=
  ∃ c, Credentials.Written v c ∧ c.accessKeyId = t

/-- A value without a meaning of its own, and the line for it. -/
inductive PrintsMember : String × Json → String → Prop where
  | mk {key text : String} {v : Json} (written : Json.Compact v text) :
    PrintsMember (key, v) ("  " ++ key ++ ": " ++ text ++ "\n")

/-- The text that is printed for values: a title, in which one word is bold and green where the terminal
shows styles, then lines for the region, the id of the access key, the endpoint if there is one, and all
other values, in ascending order of their keys. -/
def Prints (color : Bool) (name : String) (values : Values) (text : String) : Prop :=
  ∃ (region keyId endpoint : Option String) (extra : List (String × Json)) (lines : List String),
    Shown values .region IsText region ∧ Shown values .credentials HasKeyId keyId ∧
    Shown values .endpoint IsText endpoint ∧ Text.Ascending (extra.map Prod.fst) ∧
    (∀ k v, (k, v) ∈ extra ↔ values k = some v ∧ ∀ key : SettingKey, key.name ≠ k) ∧
    List.Forall₂ PrintsMember extra lines ∧
    text = (if color then "\x1b[1;32mok:\x1b[0m" else "ok:") ++ " " ++ name ++
      " client can be constructed\n" ++
      "  region: " ++ region.getD "-" ++ "\n" ++
      "  credentials: " ++ keyId.getD "-" ++ "\n" ++
      (endpoint.elim "" fun e => "  endpoint: " ++ e ++ "\n") ++ String.join lines

/-- A part of the settings is what is shown of its key. -/
theorem shown_iff {key : SettingKey} {part : Json → String → Prop} {o x : Option String}
    (holds : ∀ t, o = some t ↔ ∃ v, values key.name = some v ∧ part v t)
    (no_part : ∀ t, ¬ part .null t) (blank : o = none → Blank values key) :
    Shown values key part x ↔ x = o := by
  constructor
  · rintro (⟨found, taken⟩ | h)
    · exact ((holds _).2 ⟨_, found, taken⟩).symm
    · symm
      rw [Option.eq_none_iff_forall_ne_some]
      intro t ht
      obtain ⟨v, found, taken⟩ := (holds t).1 ht
      rcases h with h | h
      · exact nomatch found.symm.trans h
      · obtain rfl := Option.some.inj (found.symm.trans h)
        exact no_part t taken
  · rintro rfl
    cases x with
    | none => exact .blank (blank rfl)
    | some t =>
      obtain ⟨v, found, taken⟩ := (holds t).1 rfl
      exact .value found taken

theorem shown_text_iff {key : SettingKey} {o x : Option String} (wf : WellFormed values)
    (hk : key ≠ .credentials) (holds : ∀ t, o = some t ↔ values key.name = some (.string t)) :
    Shown values key IsText x ↔ x = o := by
  refine shown_iff (fun t => ?_) (fun _ => nofun) fun none => wf.blank_of_no_text hk fun r hr => ?_
  · simp [holds, IsText]
  · rw [(holds r).2 hr] at none
    exact nomatch none

theorem shown_region_iff {x : Option String} (wf : WellFormed values) (holds : Holds values cfg) :
    Shown values .region IsText x ↔ x = cfg.region :=
  shown_text_iff wf nofun holds.region

theorem shown_endpoint_iff {x : Option String} (wf : WellFormed values) (holds : Holds values cfg) :
    Shown values .endpoint IsText x ↔ x = cfg.endpoint :=
  shown_text_iff wf nofun holds.endpoint

theorem shown_keyId_iff {x : Option String} (wf : WellFormed values) (holds : Holds values cfg) :
    Shown values .credentials HasKeyId x ↔ x = cfg.credentials.map Credentials.accessKeyId := by
  refine shown_iff (fun t => ?_) ?_ fun none => wf.blank_of_no_credentials fun v c hv hd => ?_
  · rw [Option.map_eq_some_iff]
    simp only [holds.credentials, HasKeyId, ← Credentials.ofJson_eq_ok_iff]
    constructor
    · rintro ⟨c, ⟨v, hv, hd⟩, rfl⟩
      exact ⟨v, hv, c, hd, rfl⟩
    · rintro ⟨v, hv, c, hd, rfl⟩
      exact ⟨c, ⟨v, hv, hd⟩, rfl⟩
  · rintro t ⟨c, written, -⟩
    exact nomatch written
  · rw [Option.map_eq_none_iff] at none
    rw [(holds.credentials c).2 ⟨v, hv, hd⟩] at none
    exact nomatch none

/-- The values that are passed through. -/
theorem mem_extra_iff (holds : Holds values cfg) {v : Json} :
    (k, v) ∈ cfg.extra.toList ↔ values k = some v ∧ ∀ key : SettingKey, key.name ≠ k := by
  rw [Members.mem_toList_iff]
  cases hk : SettingKey.ofName? k with
  | none =>
    have other := SettingKey.ofName?_eq_none_iff.1 hk
    simp [holds.extra k other, other]
  | some key =>
    obtain rfl := SettingKey.ofName?_eq_some_iff.1 hk
    rw [holds.recognized]
    exact ⟨nofun, fun h => absurd rfl (h.2 key)⟩

theorem eq_extra {extra : List (String × Json)} (holds : Holds values cfg)
    (ascending : Text.Ascending (extra.map Prod.fst))
    (mem : ∀ k v, (k, v) ∈ extra ↔ values k = some v ∧ ∀ key : SettingKey, key.name ≠ k) :
    extra = cfg.extra.toList := by
  rw [Text.ascending_iff] at ascending
  have table : Members.ofList extra = cfg.extra := by
    refine Members.ext_get? fun k => Option.ext fun v => ?_
    rw [Members.get?_ofList_eq_some_iff (Members.nodup_of_pairwise ascending), mem,
      ← mem_extra_iff holds, Members.mem_toList_iff]
  rw [← table, Members.toList_ofList ascending]

theorem extraLine_spelled (e : String × Json) :
    extraLine e = "  " ++ e.1 ++ ": " ++ e.2.compact ++ "\n" := by
  simp only [extraLine, line, toString, String.append_assoc]

theorem printsMember_iff (e : String × Json) (text : String) :
    PrintsMember e text ↔ text = extraLine e := by
  rw [extraLine_spelled]
  constructor
  · rintro ⟨written⟩
    rw [Json.compact_iff.1 written]
  · rintro rfl
    exact .mk (Json.compact_iff.2 rfl)

theorem forall₂_printsMember_iff {extra : List (String × Json)} {lines : List String} :
    List.Forall₂ PrintsMember extra lines ↔ lines = extra.map extraLine :=
  Json.forall₂_iff_eq_map fun e _ => printsMember_iff e

theorem settingsText_spelled (color : Bool) (name : String) (cfg : EffectiveSettings) :
    settingsText color name cfg =
      (if color then "\x1b[1;32mok:\x1b[0m" else "ok:") ++ " " ++ name ++
        " client can be constructed\n" ++
        "  region: " ++ cfg.region.getD "-" ++ "\n" ++
        "  credentials: " ++ (cfg.credentials.map Credentials.accessKeyId).getD "-" ++ "\n" ++
        (cfg.endpoint.elim "" fun e => "  endpoint: " ++ e ++ "\n") ++
        String.join (cfg.extra.toList.map extraLine) := by
  have title : styled color .boldGreen "ok:" = if color then "\x1b[1;32mok:\x1b[0m" else "ok:" := by
    cases color <;> rfl
  have first : " client can be constructed\n" = " client can be constructed" ++ "\n" := by rfl
  have endpoint : (cfg.endpoint.elim "" fun e => "  endpoint: " ++ e ++ "\n") =
      (cfg.endpoint.map fun e => line ("  endpoint: " ++ e)).getD "" := by
    cases cfg.endpoint <;> rfl
  unfold settingsText
  rw [title, first, endpoint]
  simp only [line, toString, String.append_assoc]

/-- The text for settings that hold values is the text for the values. -/
theorem prints_iff {color : Bool} {name text : String} (wf : WellFormed values)
    (holds : Holds values cfg) :
    Prints color name values text ↔ text = settingsText color name cfg := by
  rw [settingsText_spelled]
  constructor
  · rintro ⟨region, keyId, endpoint, extra, lines, hr, hc, he, ascending, mem, written, rfl⟩
    rw [(shown_region_iff wf holds).1 hr, (shown_keyId_iff wf holds).1 hc,
      (shown_endpoint_iff wf holds).1 he, forall₂_printsMember_iff.1 written,
      eq_extra holds ascending mem]
  · intro h
    exact ⟨cfg.region, cfg.credentials.map Credentials.accessKeyId, cfg.endpoint, cfg.extra.toList,
      _, (shown_region_iff wf holds).2 rfl, (shown_keyId_iff wf holds).2 rfl,
      (shown_endpoint_iff wf holds).2 rfl, Text.ascending_iff.2 cfg.extra.pairwise_keys,
      fun k v => mem_extra_iff holds, forall₂_printsMember_iff.2 rfl, h⟩

/-! ## The command -/

variable {w : Surroundings} {schema : Path} {name : Option String} {s : Service}

/-- What the command comes to: the error of finding the service, the error of the settings, or the text
for the values that it is given. -/
inductive Checks (w : Surroundings) (schema : Path) (name region : Option String)
    (settings : List (String × Json)) : Except CommandError String → Prop where
  | unfound {e : CommandError} (h : w.Finds schema name (.error e)) :
    Checks w schema name region settings (.error e)
  | refused {s : Service} {values : Values} {e : SettingsError}
    (found : w.Finds schema name (.ok s))
    (given : ∀ k, Given w.environment region settings k (values k))
    (gate : Resolved s.name.text s.api values (.error e)) :
    Checks w schema name region settings (.error (.failure (.settings e)))
  | accepted {s : Service} {values : Values} {cfg : EffectiveSettings} {text : String}
    (found : w.Finds schema name (.ok s))
    (given : ∀ k, Given w.environment region settings k (values k))
    (gate : Resolved s.name.text s.api values (.ok cfg))
    (printed : Prints w.color s.name.text values text) :
    Checks w schema name region settings (.ok text)

theorem run_eq_of_ofArguments {arguments : List String} {command : Command}
    (made : Command.ofArguments arguments = .ok command) : run w arguments = command.run w := by
  unfold run
  simp only [made]

theorem run_check_of_error {e : CommandError} (h : w.addService schema name = .error e) :
    (Command.check schema name region settings).run w = .error e := by
  show (w.addService schema name).bind _ = _
  rw [h]
  rfl

theorem run_check_of_ok {c : Context} (h : w.addService schema name = .ok (s, c)) :
    (Command.check schema name region settings).run w =
      ((resolve s.name.text s.api w.environment.settings (optionsOf region settings)).map
        (settingsText w.color s.name.text)).mapError fun e => .failure (.settings e) := by
  have client : c.newClient s (optionsOf region settings) =
      (s.newClient w.environment.settings (optionsOf region settings)).mapError .settings := by
    unfold Context.newClient
    rw [Surroundings.defaultsOf_of_addService h]
  show (w.addService schema name).bind _ = _
  rw [h]
  show ((c.newClient s (optionsOf region settings)).mapError CommandError.failure).bind _ = _
  rw [client, Service.newClient]
  cases resolve s.name.text s.api w.environment.settings (optionsOf region settings) <;> rfl

/-- The values that a command is given are those that it resolves. -/
theorem eq_effective? (given : ∀ k, Given env region settings k (values k)) :
    values = Settings.effective? env.settings (optionsOf region settings) := by
  funext k
  exact (given_iff.2 (given k)).symm

/-- No case is left out. -/
theorem exists_checks (w : Surroundings) (schema : Path) (name region : Option String)
    (settings : List (String × Json)) : ∃ r, Checks w schema name region settings r := by
  obtain ⟨r, found⟩ := Surroundings.exists_finds w schema name
  cases r with
  | error e => exact ⟨_, .unfound found⟩
  | ok s =>
    have given (k : String) : Given w.environment region settings k
        (Settings.effective? w.environment.settings (optionsOf region settings) k) :=
      given_iff.1 rfl
    have gate := resolved_resolve s.name.text s.api w.environment.settings
      (optionsOf region settings)
    cases hr : resolve s.name.text s.api w.environment.settings (optionsOf region settings) with
    | error e =>
      rw [hr] at gate
      exact ⟨_, .refused found given gate⟩
    | ok cfg =>
      rw [hr] at gate
      exact ⟨_, .accepted found given gate ((prints_iff gate.1 gate.2.2.2).2 rfl)⟩

theorem run_of_checks {r : Except CommandError String}
    (h : Checks w schema name region settings r) :
    (Command.check schema name region settings).run w = r := by
  cases h with
  | unfound found => exact run_check_of_error (map_eq_error_iff.1 (Surroundings.finds_iff.2 found))
  | refused found given gate =>
    obtain ⟨⟨s, c⟩, added, rfl⟩ := map_eq_ok_iff.1 (Surroundings.finds_iff.2 found)
    obtain rfl := eq_effective? given
    rw [run_check_of_ok added, resolve_eq_iff.2 gate]
    rfl
  | accepted found given gate printed =>
    obtain ⟨⟨s, c⟩, added, rfl⟩ := map_eq_ok_iff.1 (Surroundings.finds_iff.2 found)
    obtain rfl := eq_effective? given
    rw [run_check_of_ok added, resolve_eq_iff.2 gate,
      (prints_iff gate.1 gate.2.2.2).1 printed]
    rfl

end ApiClients.CommandLine
