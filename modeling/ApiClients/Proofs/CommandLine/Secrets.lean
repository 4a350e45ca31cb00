import ApiClients.Proofs.CommandLine.Check
import ApiClients.Proofs.Settings.Secrets
import Mathlib.Data.List.Forall2

/-!
# Secrets are not printed

Two runs of the program may be given credentials that differ in nothing but the secret and the session
token, by the environment (`Environment.AgreeButSecrets`) or by `--set` (`AgreeingMembers`). From both
sources come settings that agree (`AgreeButSecrets.settings`, `agree_optionsOf`), so they resolve in the
same way, and what is printed of them does not show where they differ (`settingsText_eq`).
`secrets_not_printed` says this of the whole outcome of a process, of new clients, and of the text for
logs.
-/

namespace ApiClients

open Credentials Settings

/-! ## The environment -/

namespace Environment

variable {env env' : Environment} {c : Credentials}

/-- Two environments are the same but for the secret, which is empty or unset in both or in neither, and
the session token. -/
structure AgreeButSecrets (env env' : Environment) : Prop where
  others : ∀ x, x ≠ "STRATUS_SECRET_ACCESS_KEY" → x ≠ "STRATUS_SESSION_TOKEN" → env x = env' x
  secret : env "STRATUS_SECRET_ACCESS_KEY" = env' "STRATUS_SECRET_ACCESS_KEY" ∨
    ∃ s t, env "STRATUS_SECRET_ACCESS_KEY" = some s ∧ env' "STRATUS_SECRET_ACCESS_KEY" = some t ∧
      s ≠ "" ∧ t ≠ ""

theorem AgreeButSecrets.symm (h : AgreeButSecrets env env') : AgreeButSecrets env' env where
  others x not_secret not_token := (h.others x not_secret not_token).symm
  secret := by
    rcases h.secret with eq | ⟨s, t, hs, ht, s_ne, t_ne⟩
    · exact .inl eq.symm
    · exact .inr ⟨t, s, ht, hs, t_ne, s_ne⟩

theorem AgreeButSecrets.exists_credentials (h : AgreeButSecrets env env')
    (hc : env.credentials? = some c) : ∃ d, env'.credentials? = some d ∧ c.SameKey d := by
  obtain ⟨id, secret, hid, hsecret, id_ne, secret_ne, rfl⟩ := credentials?_eq_some_iff.1 hc
  obtain ⟨other, hother, other_ne⟩ :
      ∃ t, env' "STRATUS_SECRET_ACCESS_KEY" = some t ∧ t ≠ "" := by
    rcases h.secret with eq | ⟨-, t, -, ht, -, t_ne⟩
    · exact ⟨secret, eq ▸ hsecret, secret_ne⟩
    · exact ⟨t, ht, t_ne⟩
  rw [h.others _ (by decide) (by decide)] at hid
  exact ⟨_, credentials?_eq_some_iff.2 ⟨id, other, hid, hother, id_ne, other_ne, rfl⟩,
    rfl, secret_ne, other_ne⟩

theorem AgreeButSecrets.agreeAt_credentials (h : AgreeButSecrets env env') :
    AgreeAt "credentials" (env.credentials?.map toJson) (env'.credentials?.map toJson) := by
  cases hc : env.credentials? with
  | some c =>
    obtain ⟨d, hd, same_key⟩ := h.exists_credentials hc
    rw [hd]
    exact .credentials rfl rfl rfl (written_toJson c) (written_toJson d) same_key
  | none =>
    cases hd : env'.credentials? with
    | none => exact .same rfl
    | some d =>
      obtain ⟨c, hc', -⟩ := h.symm.exists_credentials hd
      exact nomatch hc.symm.trans hc'

theorem AgreeButSecrets.settings (h : AgreeButSecrets env env') : env.settings.Agree env'.settings := by
  have region : env.region? = env'.region? :=
    congrArg (Option.filter _) (h.others _ (by decide) (by decide))
  exact agree_environment region h.agreeAt_credentials

end Environment

namespace CommandLine

open EffectiveSettings Results

/-! ## The command line -/

section Members

variable {settings settings' : List (String × Json)} {k : String}

/-- Two settings on the command line are for the same key, and their values are the same or credentials
of the same key. -/
def AgreeingMembers (e f : String × Json) : Prop :=
  e.1 = f.1 ∧ AgreeAt e.1 (some e.2) (some f.2)

theorem agreeAt_lookup (h : List.Forall₂ AgreeingMembers settings settings') :
    AgreeAt k (settings.lookup k) (settings'.lookup k) := by
  induction h with
  | nil => exact .same rfl
  | @cons e f _ _ agree _ ih =>
    obtain ⟨l, v⟩ := e
    obtain ⟨l', w⟩ := f
    obtain ⟨rfl, agree⟩ := agree
    by_cases key : k = l
    · subst key
      rw [List.lookup_cons_self, List.lookup_cons_self]
      exact agree
    · have other : (k == l) = false := by simpa using key
      rw [List.lookup_cons, List.lookup_cons, other]
      exact ih

theorem agree_optionsOf (region : Option String)
    (h : List.Forall₂ AgreeingMembers settings settings') :
    (optionsOf region settings).Agree (optionsOf region settings') := by
  intro k
  rw [get?_optionsOf, get?_optionsOf]
  exact .or (agreeAt_lookup (List.forall₂_reverse_iff.2 h)) (.same rfl)

end Members

/-! ## What is printed -/

theorem settingsText_eq {s s' : EffectiveSettings} (color : Bool) (name : String)
    (h : s.SameButSecrets s') : settingsText color name s = settingsText color name s' := by
  unfold settingsText
  rw [h.region, h.keyId, h.endpoint, h.extra]

theorem logText_eq {c d : Credentials} (id : c.accessKeyId = d.accessKeyId)
    (token : c.sessionToken.isSome = d.sessionToken.isSome) : c.logText = d.logText := by
  obtain ⟨_, _, t⟩ := c
  obtain ⟨_, _, t'⟩ := d
  obtain rfl := id
  cases t with
  | none =>
    cases t' with
    | none => rfl
    | some => exact nomatch token
  | some =>
    cases t' with
    | none => exact nomatch token
    | some => rfl

variable {files : Files} {env env' : Environment} {color : Bool} {schema : Path}
  {name region : Option String} {settings settings' : List (String × Json)}

/-- Finding a service takes nothing from the environment. -/
theorem finds_of_files {r : Except CommandError Service}
    (h : Surroundings.Finds ⟨files, env, color⟩ schema name r) :
    Surroundings.Finds ⟨files, env', color⟩ schema name r := by
  cases h with
  | nameless none => exact .nameless none
  | invalidName named faulty => exact .invalidName named faulty
  | undescribed named spelled fails => exact .undescribed named spelled fails
  | noNamespace named spelled loads fails => exact .noNamespace named spelled loads fails
  | found named spelled loads built => exact .found named spelled loads built

theorem run_check_eq (seeded : env.AgreeButSecrets env')
    (set : List.Forall₂ AgreeingMembers settings settings') :
    (Command.check schema name region settings).run ⟨files, env, color⟩ =
      (Command.check schema name region settings').run ⟨files, env', color⟩ := by
  obtain ⟨r, found⟩ := Surroundings.exists_finds ⟨files, env, color⟩ schema name
  have found' : Surroundings.Finds ⟨files, env', color⟩ schema name r := finds_of_files found
  cases r with
  | error e =>
    rw [run_check_of_error (map_eq_error_iff.1 (Surroundings.finds_iff.2 found)),
      run_check_of_error (map_eq_error_iff.1 (Surroundings.finds_iff.2 found'))]
  | ok s =>
    obtain ⟨⟨t, c⟩, added, rfl⟩ := map_eq_ok_iff.1 (Surroundings.finds_iff.2 found)
    obtain ⟨⟨t', c'⟩, added', same⟩ := map_eq_ok_iff.1 (Surroundings.finds_iff.2 found')
    obtain rfl : t' = t := same
    rw [run_check_of_ok added, run_check_of_ok added']
    dsimp only
    have agree := resolve_agrees t'.name.text t'.api seeded.settings (agree_optionsOf region set)
    generalize resolve t'.name.text t'.api env.settings _ = outcome,
      resolve t'.name.text t'.api env'.settings _ = outcome' at agree ⊢
    cases agree with
    | refused e => rfl
    | accepted same =>
      show Except.ok (settingsText _ _ _) = .ok (settingsText _ _ _)
      rw [settingsText_eq _ _ same]

theorem newClient_error_of_agree {c c' : Context} {s : Service} {options options' : Settings}
    {e : Failure} (defaults : (c.defaultsOf s).Agree (c'.defaultsOf s))
    (agree : options.Agree options') (h : c.newClient s options = .error e) :
    c'.newClient s options' = .error e := by
  unfold Context.newClient Service.newClient at h ⊢
  have outcomes := resolve_agrees s.name.text s.api defaults agree
  generalize resolve s.name.text s.api (c.defaultsOf s) _ = outcome,
    resolve s.name.text s.api (c'.defaultsOf s) _ = outcome' at outcomes h ⊢
  cases outcomes with
  | refused => exact h
  | accepted => exact nomatch h

/-- Well-formed secrets never show. Two runs of `check` that find the same files, and are given the same
but for the secrets and session tokens of credentials in the environment and in the settings, leave
behind the same exit code and the same texts. Clients whose settings differ in the same way only are
refused together and with the same error, and the text of credentials for logs depends on nothing but
the key id and on whether there is a token. -/
theorem secrets_not_printed :
    (∀ (files : Files) (env env' : Environment) (color : Bool) (schema : Path)
      (name region : Option String) (settings settings' : List (String × Json))
      (arguments arguments' : List String),
      env.AgreeButSecrets env' → List.Forall₂ AgreeingMembers settings settings' →
      Command.ofArguments arguments = .ok (.check schema name region settings) →
      Command.ofArguments arguments' = .ok (.check schema name region settings') →
      outcome ⟨files, env, color⟩ arguments = outcome ⟨files, env', color⟩ arguments') ∧
    (∀ (c c' : Context) (s : Service) (options options' : Settings),
      (c.defaultsOf s).Agree (c'.defaultsOf s) → options.Agree options' →
      ∀ e, c.newClient s options = .error e ↔ c'.newClient s options' = .error e) ∧
    ∀ c d : Credentials, c.accessKeyId = d.accessKeyId →
      c.sessionToken.isSome = d.sessionToken.isSome → c.logText = d.logText := by
  refine ⟨?_, ?_, fun c d id token => logText_eq id token⟩
  · intro files env env' color schema name region settings settings' arguments arguments'
      seeded set made made'
    have ran : run ⟨files, env, color⟩ arguments = run ⟨files, env', color⟩ arguments' := by
      rw [run_eq_of_ofArguments made, run_eq_of_ofArguments made']
      exact run_check_eq seeded set
    unfold outcome
    simp only [ran]
  · intro c c' s options options' defaults agree e
    exact ⟨newClient_error_of_agree defaults agree,
      newClient_error_of_agree defaults.symm agree.symm⟩

/-- Runs with an array and with an object, in environments with other secrets. -/
theorem secrets_not_printed_sample :
    let env (secret : String) : Environment := fun x =>
      if x = "STRATUS_ACCESS_KEY_ID" then some "AK"
      else if x = "STRATUS_SECRET_ACCESS_KEY" then some secret
      else none
    let w (secret : String) : Surroundings := ⟨fun _ => .ok "\x7b\x7d", env secret, false⟩
    let list := ["check", "api.json", "--set", "credentials=[\"AK\",\"x\"]"]
    let object := ["check", "api.json", "--set",
      "credentials=\x7b\"access_key_id\":\"AK\",\"secret_access_key\":\"y\"\x7d"]
    let s : Service :=
      { name := ⟨"S", by decide⟩, interface := .ofApi "S" ⟨∅, 0⟩, errors := { service := "S" },
        transport := .unconfigured, generation := 0, serial := 1 }
    let c : Credentials := ⟨"AK", "x", some "t"⟩
    let d : Credentials := ⟨"AK", "y", some "u"⟩
    let client (c : Credentials) : Except Failure Client :=
      ({} : Context).newClient s (.ofAssignments [.credentials c])
    outcome (w "x") list = outcome (w "y") object ∧
      (∀ e, client c = .error e ↔ client d = .error e) ∧ c.logText = d.logText := by
  intro env w list object s c d client
  let v : Json := .array [.string "AK", .string "x"]
  let b : Credentials := ⟨"AK", "y", none⟩
  have made : Command.ofArguments list = .ok (.check "api.json" none none [("credentials", v)]) := by
    rfl
  have made' : Command.ofArguments object =
      .ok (.check "api.json" none none [("credentials", b.toJson)]) := by
    rfl
  have seeded : (env "x").AgreeButSecrets (env "y") := by
    refine ⟨fun x not_secret _ => ?_, .inr ⟨"x", "y", rfl, rfl, by decide, by decide⟩⟩
    show (if _ then _ else if _ then _ else _) = if _ then _ else if _ then _ else _
    rw [if_neg not_secret, if_neg not_secret]
  have written : Written v ⟨"AK", "x", none⟩ := @Written.array "AK" "x" none none .absent
  have set : AgreeingMembers ("credentials", v) ("credentials", b.toJson) :=
    ⟨rfl, .credentials rfl rfl rfl written (written_toJson b) ⟨rfl, by decide, by decide⟩⟩
  have same_key : c.SameKey d := ⟨rfl, by decide, by decide⟩
  have empty : Settings.Agree ∅ ∅ := fun _ => .same rfl
  obtain ⟨runs, clients, logs⟩ := secrets_not_printed
  have outcomes : outcome (w "x") list = outcome (w "y") object :=
    runs (fun _ => .ok "\x7b\x7d") (env "x") (env "y") false "api.json" none none
      [("credentials", v)] [("credentials", b.toJson)] list object seeded (.cons set .nil) made made'
  exact ⟨outcomes, clients {} {} s _ _ empty (empty.assign_credentials same_key), logs c d rfl rfl⟩

end CommandLine

end ApiClients
