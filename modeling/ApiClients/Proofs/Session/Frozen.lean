import ApiClients.Proofs.Session.Dispatch
import ApiClients.Proofs.Session.History

/-!
# Clients and the defaults of their time

A client starts from the defaults that are in force when it is made, and it never changes afterwards.
What these defaults are can be read off the history: they are the defaults of the start with all
successful edits since (`editedBy`). It does not matter when the service was added, or whether its
name has gone to another service since. `clients_frozen` says both for all runs in which the defaults
are edited but not exchanged.

1. `defaults_of_effect`, `defaults_run`: the defaults follow the edits, and all services share them.
2. `step_newClient`: a client is made by resolving the defaults and its own options.
3. `clients_run`: a client stays under its handle until another one is made under it.
-/

namespace ApiClients.Session

variable {s s' : Session} {t : Step} {r : Except StepError Answer} {handle : String}

/-! ## The defaults -/

/-- What an event makes of the defaults. -/
def Event.edit (e : Event) (d : Settings) : Settings :=
  match e with
  | (t, .ok _) => (t.edit?.getD id) d
  | (_, .error _) => d

/-- The defaults after all successful edits of a history. -/
def editedBy (d : Settings) (h : List Event) : Settings :=
  h.foldl (fun d e => e.edit d) d

theorem edit?_of_asks (h : t.asks = true) : t.edit? = none := by
  cases t <;> first | rfl | exact nomatch h

theorem defaults_of_effect (effect : Effect s t r s') (ht : ∀ d, t ≠ .exchangeDefaults d) :
    s'.context.defaults =
      { s.context.defaults with current := Event.edit (t, r) s.context.defaults.current } := by
  cases effect with
  | asked asks =>
    rw [Event.edit, edit?_of_asks asks]
    rfl
  | edited edits =>
    rw [Event.edit, edits]
    rfl
  | exchanged d => exact absurd rfl (ht d)
  | _ => rfl

/-- Without an exchange there is one generation of defaults, and all services share it. -/
theorem defaults_run (files : Files) (transport : Transport) (defaults : Settings) (l : List Step)
    (kept : ∀ d, .exchangeDefaults d ∉ l) :
    ((start files transport defaults).run l).context.defaults =
      { current := editedBy defaults ((start files transport defaults).history l) } := by
  induction l using List.reverseRecOn with
  | nil => rfl
  | append_singleton l t ih =>
    have not_exchange : ∀ d, t ≠ .exchangeDefaults d := by
      rintro d rfl
      exact kept d (by simp)
    have shared := ih fun d hd => kept d (List.mem_append_left _ hd)
    rw [run_append, defaults_of_effect (effect_step _ t) not_exchange, shared, history_append,
      editedBy, editedBy, List.foldl_append]
    rfl

/-! ## Making a client -/

variable {service : Service}

/-- The client of a service with these settings. -/
def clientOf (service : Service) (settings : EffectiveSettings) : Client where
  interface := service.interface
  errors := service.errors
  settings
  transport := service.transport

theorem step_newClient (hs : s.services.get? handle = some service) (options : Settings)
    (clientHandle : String) :
    s.step (.newClient handle options clientHandle) =
      match EffectiveSettings.resolve service.name.text service.api
        (s.context.defaultsOf service) options with
      | .error e => (.error (.failure (.settings e)), s)
      | .ok settings => (.ok (.settings settings),
          { s with clients := s.clients.insert clientHandle (clientOf service settings) }) := by
  have found : held s.services handle = .ok service := held_eq_ok_iff.2 hs
  show s.newClient handle options clientHandle = _
  rw [newClient, found]
  show s.withValue ((s.context.newClient service options).mapError .failure) _ = _
  rw [Context.newClient, Service.newClient]
  cases EffectiveSettings.resolve service.name.text service.api (s.context.defaultsOf service)
    options <;> rfl

/-! ## Keeping a client -/

/-- A client was made under a handle. -/
def Event.MakesClient (handle : String) (e : Event) : Prop :=
  ∃ service options a, e = (.newClient service options handle, .ok a)

theorem clients_of_effect (effect : Effect s t r s') (quiet : ¬ Event.MakesClient handle (t, r)) :
    s'.clients.get? handle = s.clients.get? handle := by
  cases effect with
  | madeClient other =>
    have ne : handle ≠ other := by
      rintro rfl
      exact quiet ⟨_, _, _, rfl⟩
    exact Members.get?_insert_of_ne _ ne
  | _ => rfl

theorem clients_run {l : List Step} (quiet : ∀ e ∈ s.history l, ¬ e.MakesClient handle) :
    (s.run l).clients.get? handle = s.clients.get? handle := by
  induction l generalizing s with
  | nil => rfl
  | cons t l ih =>
    have here := clients_of_effect (effect_step s t) (quiet _ List.mem_cons_self)
    have later := ih (s := (s.step t).2) fun e he => quiet e (List.mem_cons_of_mem _ he)
    exact later.trans here

/-! ## Runs -/

/-- The client that is made of a service after any run, from the defaults of the start with all edits
of this run. If it is refused, nothing is changed. Otherwise it is the same client after any further
run, and what its calls send is decided by it alone. -/
theorem clients_frozen (files : Files) (transport : Transport) (defaults : Settings)
    (before after : List Step) (handle clientHandle : String) (options : Settings)
    (service : Service) (kept : ∀ d, .exchangeDefaults d ∉ before)
    (obtained : ((start files transport defaults).run before).services.get? handle = some service) :
    let s := (start files transport defaults).run before
    let edited := editedBy defaults ((start files transport defaults).history before)
    let made := s.step (.newClient handle options clientHandle)
    let later := made.2.run after
    (∀ e, EffectiveSettings.resolve service.name.text service.api edited options = .error e →
      made = (.error (.failure (.settings e)), s)) ∧
    ∀ settings,
      EffectiveSettings.resolve service.name.text service.api edited options = .ok settings →
        made.1 = .ok (.settings settings) ∧
        ((∀ e ∈ made.2.history after, ¬ e.MakesClient clientHandle) →
          later.clients.get? clientHandle = some (clientOf service settings) ∧
          ∀ operation params reply classes,
            let t : Step := .call clientHandle operation params reply classes
            later.dispatched? t =
              ((clientOf service settings).request operation params).toOption.map
                (fun q => (clientOf service settings, q)) ∧
            (later.step t).2.script.sent =
              later.script.sent ++ scripted (later.dispatched? t).toList) := by
  intro s edited made later
  have shared : s.context.defaultsOf service = edited := by
    show s.context.defaults.settingsOf service.generation = edited
    rw [defaults_run files transport defaults before kept]
    rfl
  have outcome := step_newClient obtained options clientHandle
  rw [shared] at outcome
  refine ⟨fun e he => ?_, fun settings hr => ?_⟩
  · rw [he] at outcome
    exact outcome
  · rw [hr] at outcome
    have answer : made.1 = .ok (.settings settings) := congrArg Prod.fst outcome
    refine ⟨answer, fun quiet => ?_⟩
    have there : later.clients.get? clientHandle = some (clientOf service settings) := by
      rw [clients_run quiet]
      show (s.step (.newClient handle options clientHandle)).2.clients.get? clientHandle = _
      rw [outcome]
      exact Members.get?_insert_self _
    refine ⟨there, fun operation params reply classes => ⟨?_, sent_step later _⟩⟩
    show (later.clients.get? clientHandle).bind _ = _
    rw [there]
    rfl

theorem fst_mem_of_mem_history {l : List Step} {e : Event} (he : e ∈ s.history l) : e.1 ∈ l := by
  induction l generalizing s with
  | nil => exact nomatch he
  | cons t l ih =>
    rcases List.mem_cons.1 he with rfl | he
    · exact List.mem_cons_self
    · exact List.mem_cons_of_mem _ (ih he)

/-- A client of a service whose name has gone to another service has the region that the last
successful edit before it has set, and keeps it when the region is edited and the name is removed. -/
theorem clients_frozen_replaced :
    let s := start (fun _ => .error .notFound) .scripted ∅
    let before : List Step := [
      .insertDefault "region" (.string "one"),
      .add "S" (.document (.ofMembers [("operations", .ofMembers
        [("Op", .ofMembers [("authtype", .string "none")])])])) "s",
      .setDefaults (.ofMembers [("region", .string "two")]),
      .setDefaults .null,
      .add "S" .absent "other"]
    let after : List Step := [.insertDefault "region" (.string "three"), .remove "S" "gone"]
    let made := (s.run before).step (.newClient "s" ∅ "c")
    (∀ d, .exchangeDefaults d ∉ before) ∧ (∀ e ∈ made.2.history after, ¬ e.MakesClient "c") ∧
      ∃ service settings, (s.run before).services.get? "s" = some service ∧
        EffectiveSettings.resolve service.name.text service.api (editedBy ∅ (s.history before)) ∅ =
          .ok settings ∧
        settings.region = some "two" ∧
        (made.2.run after).clients.get? "c" = some (clientOf service settings) := by
  intro s before after made
  have kept : ∀ d, .exchangeDefaults d ∉ before := by simp [before]
  have quiet : ∀ e ∈ made.2.history after, ¬ e.MakesClient "c" := by
    rintro e he ⟨_, _, _, rfl⟩
    simpa [after] using fst_mem_of_mem_history he
  have resolves : ((s.run before).services.get? "s").map (fun service =>
      (EffectiveSettings.resolve service.name.text service.api (editedBy ∅ (s.history before))
        ∅).toOption.map EffectiveSettings.region) = some (some (some "two")) := by
    decide +kernel
  obtain ⟨service, obtained, hr⟩ := Option.map_eq_some_iff.1 resolves
  obtain ⟨settings, hr, region⟩ := Option.map_eq_some_iff.1 hr
  have resolved := Results.toOption_eq_some_iff.1 hr
  have frozen := clients_frozen (fun _ => .error .notFound) .scripted ∅ before after "s" "c" ∅ service
    kept obtained
  exact ⟨kept, quiet, service, settings, obtained, resolved, region,
    ((frozen.2 settings resolved).2 quiet).1⟩

end ApiClients.Session
