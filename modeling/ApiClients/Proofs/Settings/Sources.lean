import ApiClients.Proofs.Settings.Gate
import ApiClients.Settings.Environment

/-!
# Where settings come from

Settings are made by assignments, of which the last one for a key counts (`Settings.get?_ofAssignments`).
The environment supplies a region and credentials where the variables for them hold something
(`Environment.Seeds`). Values that come from more than one source are resolved in one way only
(`EffectiveSettings.Resolved.unique`).
-/

namespace ApiClients

variable {k : String} {v : Json}

/-! ## Lists of entries -/

section

variable {α : Type} {entries : List (String × α)} {x : α}

/-- The look-up from the end finds the last entry for a key. -/
theorem lookup_reverse_eq_some_iff : entries.reverse.lookup k = some x ↔
    ∃ before after, entries = before ++ (k, x) :: after ∧ ∀ e ∈ after, e.1 ≠ k := by
  rw [List.lookup_eq_some_iff]
  constructor
  · rintro ⟨after, before, eq, other⟩
    refine ⟨before.reverse, after.reverse, ?_, fun e he => ?_⟩
    · rw [← List.reverse_reverse entries, eq]
      simp
    · exact (bne_iff_ne.1 (other e (List.mem_reverse.1 he))).symm
  · rintro ⟨before, after, rfl, other⟩
    refine ⟨after.reverse, before.reverse, by simp, fun e he => ?_⟩
    exact bne_iff_ne.2 (other e (List.mem_reverse.1 he)).symm

theorem lookup_reverse_eq_none_iff :
    entries.reverse.lookup k = none ↔ ∀ e ∈ entries, e.1 ≠ k := by
  rw [List.lookup_eq_none_iff]
  simp only [List.mem_reverse]
  refine forall₂_congr fun e _ => ?_
  rw [bne_iff_ne, ne_comm]

/-- The look-up in the list of one pair, or of none. -/
theorem lookup_toList (key : String) (f : α → Json) (o : Option α) :
    (o.toList.map fun x => (key, f x)).reverse.lookup k = if k = key then o.map f else none := by
  cases o with
  | none => simp
  | some x =>
    by_cases h : k = key
    · simp [h]
    · have other : (k == key) = false := by simpa using h
      simp [h, List.lookup_cons, other]

end

/-! ## Assignments -/

namespace Settings

theorem get?_foldl_assign (l : List Assignment) (s : Settings) :
    Members.get? (l.foldl assign s) k =
      ((l.map fun a => (a.key, a.value)).reverse.lookup k).or (Members.get? s k) := by
  induction l generalizing s with
  | nil => rfl
  | cons a l ih =>
    have first : Members.get? (s.assign a) k =
        if k = a.key then some a.value else Members.get? s k :=
      Members.get?_insert s
    rw [List.foldl_cons, ih, first, List.map_cons, List.reverse_cons, List.lookup_append,
      Option.or_assoc]
    by_cases h : k = a.key
    · simp [h]
    · have other : (k == a.key) = false := by simpa using h
      simp [h, List.lookup_cons, other]

theorem get?_ofAssignments (l : List Assignment) : Members.get? (ofAssignments l) k =
    (l.map fun a => (a.key, a.value)).reverse.lookup k := by
  unfold ofAssignments
  rw [get?_foldl_assign, Members.get?_empty, Option.or_none]

end Settings

/-! ## The environment -/

namespace Environment

variable {env : Environment}

/-- What the environment supplies: a region that is not empty, and credentials if neither part of
the access key is empty. -/
inductive Seeds (env : Environment) : String → Json → Prop where
  | region {r : String} (set : env "STRATUS_REGION" = some r) (not_empty : r ≠ "") :
    Seeds env "region" (.string r)
  | credentials {id secret : String} (id_set : env "STRATUS_ACCESS_KEY_ID" = some id)
    (secret_set : env "STRATUS_SECRET_ACCESS_KEY" = some secret) (id_not_empty : id ≠ "")
    (secret_not_empty : secret ≠ "") :
    Seeds env "credentials" (Credentials.toJson ⟨id, secret, env "STRATUS_SESSION_TOKEN"⟩)

theorem region?_eq_some_iff {r : String} :
    env.region? = some r ↔ env "STRATUS_REGION" = some r ∧ r ≠ "" := by
  unfold region?
  rw [Option.filter_eq_some_iff]
  simp [regionName]

theorem credentials?_eq_some_iff {c : Credentials} :
    env.credentials? = some c ↔ ∃ id secret, env "STRATUS_ACCESS_KEY_ID" = some id ∧
      env "STRATUS_SECRET_ACCESS_KEY" = some secret ∧ id ≠ "" ∧ secret ≠ "" ∧
      ⟨id, secret, env "STRATUS_SESSION_TOKEN"⟩ = c := by
  unfold credentials?
  rw [accessKeyIdName, secretAccessKeyName, sessionTokenName]
  cases env "STRATUS_ACCESS_KEY_ID" with
  | none => simp
  | some id =>
    cases env "STRATUS_SECRET_ACCESS_KEY" with
    | none => simp
    | some secret => simp [Credentials.isSet, and_assoc]

theorem get?_settings : Members.get? env.settings k =
    (if k = "credentials" then env.credentials?.map Credentials.toJson else none).or
      (if k = "region" then env.region?.map Json.string else none) := by
  unfold settings
  rw [Settings.get?_ofAssignments, List.map_append, List.reverse_append, List.lookup_append,
    List.map_map, List.map_map]
  exact congrArg₂ Option.or (lookup_toList ..) (lookup_toList ..)

theorem get?_settings_eq_some_iff : Members.get? env.settings k = some v ↔ env.Seeds k v := by
  rw [get?_settings, Option.or_eq_some_iff]
  constructor
  · rintro (h | ⟨-, h⟩)
    · obtain ⟨rfl, h⟩ := Option.ite_none_right_eq_some.1 h
      obtain ⟨c, hc, rfl⟩ := Option.map_eq_some_iff.1 h
      obtain ⟨id, secret, hid, hsecret, id_ne, secret_ne, rfl⟩ := credentials?_eq_some_iff.1 hc
      exact .credentials hid hsecret id_ne secret_ne
    · obtain ⟨rfl, h⟩ := Option.ite_none_right_eq_some.1 h
      obtain ⟨r, hr, rfl⟩ := Option.map_eq_some_iff.1 h
      obtain ⟨set, ne⟩ := region?_eq_some_iff.1 hr
      exact .region set ne
  · rintro (⟨set, ne⟩ | ⟨hid, hsecret, id_ne, secret_ne⟩)
    · refine .inr ⟨if_neg (by decide), ?_⟩
      rw [if_pos rfl, region?_eq_some_iff.2 ⟨set, ne⟩]
      rfl
    · refine .inl ?_
      rw [if_pos rfl, credentials?_eq_some_iff.2 ⟨_, _, hid, hsecret, id_ne, secret_ne, rfl⟩]
      rfl

end Environment

/-! ## The outcome -/

namespace EffectiveSettings

variable {values : Values} {service : String} {a : Api}

/-- Values are resolved in one way only. -/
theorem Resolved.unique {r r' : Except SettingsError EffectiveSettings}
    (h : Resolved service a values r) (h' : Resolved service a values r') : r = r' := by
  -- A fault comes before all else, then the region, then the credentials.
  have not_both {key : SettingKey} {cause : ValueError} (first : FirstFault values key cause)
      (wf : WellFormed values) : False :=
    first.not_wellFormed wf
  rcases r with (owner | owner | ⟨key, cause⟩) | s <;>
    rcases r' with (owner' | owner' | ⟨key', cause'⟩) | s'
  case error.missingRegion.error.missingRegion => rw [h.1, h'.1]
  case error.missingRegion.error.missingCredentials => exact absurd h.2.2 h'.2.2.1
  case error.missingRegion.error.invalid => exact (not_both h' h.2.1).elim
  case error.missingRegion.ok => exact absurd h.2.2 h'.2.1
  case error.missingCredentials.error.missingRegion => exact absurd h'.2.2 h.2.2.1
  case error.missingCredentials.error.missingCredentials => rw [h.1, h'.1]
  case error.missingCredentials.error.invalid => exact (not_both h' h.2.1).elim
  case error.missingCredentials.ok => exact absurd h.2.2.2 h'.2.2.1
  case error.invalid.error.missingRegion => exact (not_both h h'.2.1).elim
  case error.invalid.error.missingCredentials => exact (not_both h h'.2.1).elim
  case error.invalid.error.invalid =>
    obtain ⟨rfl, rfl⟩ := FirstFault.unique h h'
    rfl
  case error.invalid.ok => exact (not_both h h'.1).elim
  case ok.error.missingRegion => exact absurd h'.2.2 h.2.1
  case ok.error.missingCredentials => exact absurd h'.2.2.2 h.2.2.1
  case ok.error.invalid => exact (not_both h' h.1).elim
  case ok.ok => rw [h.2.2.2.unique h'.2.2.2]

theorem resolve_eq_iff {defaults options : Settings} {r : Except SettingsError EffectiveSettings} :
    resolve service a defaults options = r ↔
      Resolved service a (Settings.effective? defaults options) r := by
  constructor
  · rintro rfl
    exact resolved_resolve service a defaults options
  · exact (resolved_resolve service a defaults options).unique

end EffectiveSettings

end ApiClients
