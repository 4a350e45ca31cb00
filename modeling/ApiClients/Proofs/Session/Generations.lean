import ApiClients.Proofs.Session.Frozen

/-!
# Defaults that are exchanged

A service keeps to the generation of defaults in which it was added. Its clients follow every edit of the
defaults up to the next exchange, and nothing after it, whatever the defaults of the context are by then
(`newClient_of_generation`). So the defaults of a context govern all its services only as long as they are
not exchanged; `exchange_leaves_services` is a run after which they do not.

1. `settingsOf_of_effect`: no step touches the settings of a generation that is over.
2. `settingsOf_run_of_current`: by induction on the run, the settings of the generation in which it
   starts are those after the edits up to the first exchange.
-/

namespace ApiClients

namespace Defaults

variable {d : Defaults} {g : Nat}

theorem settingsOf_generation (d : Defaults) : d.settingsOf d.generation = d.current := by
  unfold settingsOf generation
  rw [List.getElem?_eq_none (Nat.le_refl _)]
  rfl

theorem settingsOf_edit (past : g < d.generation) (f : Settings → Settings) :
    (d.edit f).settingsOf g = d.settingsOf g := by
  unfold settingsOf edit
  rw [List.getElem?_eq_getElem past]
  rfl

theorem generation_exchange (d : Defaults) (s : Settings) :
    (d.exchange s).generation = d.generation + 1 := by
  unfold generation exchange
  rw [List.length_append]
  rfl

/-- An exchange keeps the settings of all generations that there have been. -/
theorem settingsOf_exchange (begun : g ≤ d.generation) (s : Settings) :
    (d.exchange s).settingsOf g = d.settingsOf g := by
  unfold settingsOf exchange
  rcases Nat.lt_or_eq_of_le begun with past | rfl
  · rw [List.getElem?_append_left past, List.getElem?_eq_getElem past]
    rfl
  · rw [generation, List.getElem?_concat_length, List.getElem?_eq_none (Nat.le_refl _)]
    rfl

end Defaults

namespace Session

variable {s s' : Session} {t : Step} {r : Except StepError Answer} {g : Nat}

/-- Whether a step begins a new generation of defaults. -/
def Step.exchanges : Step → Bool
  | .exchangeDefaults _ => true
  | _ => false

/-- The defaults after the edits of a history up to its first exchange. -/
def editedUntilExchange (d : Settings) (h : List Event) : Settings :=
  editedBy d (h.takeWhile fun e => !e.1.exchanges)

/-! ## A generation that is over -/

theorem settingsOf_of_effect (effect : Effect s t r s') (past : g < s.context.defaults.generation) :
    g < s'.context.defaults.generation ∧
      s'.context.defaults.settingsOf g = s.context.defaults.settingsOf g := by
  cases effect with
  | edited => exact ⟨past, Defaults.settingsOf_edit past _⟩
  | exchanged d =>
    refine ⟨?_, Defaults.settingsOf_exchange (Nat.le_of_lt past) d⟩
    show g < (s.context.defaults.exchange d).generation
    rw [Defaults.generation_exchange]
    omega
  | _ => exact ⟨past, rfl⟩

theorem settingsOf_run_of_past (past : g < s.context.defaults.generation) (l : List Step) :
    g < (s.run l).context.defaults.generation ∧
      (s.run l).context.defaults.settingsOf g = s.context.defaults.settingsOf g := by
  refine run_induction (I := fun s' => g < s'.context.defaults.generation ∧
    s'.context.defaults.settingsOf g = s.context.defaults.settingsOf g) ⟨past, rfl⟩ ?_ l
  rintro s' t r s'' ⟨past', same'⟩ effect
  obtain ⟨past'', same''⟩ := settingsOf_of_effect effect past'
  exact ⟨past'', same''.trans same'⟩

/-! ## The generation in which a run starts -/

theorem generation_of_effect (effect : Effect s t r s') (stays : ∀ d, t ≠ .exchangeDefaults d) :
    s'.context.defaults.generation = s.context.defaults.generation := by
  rw [defaults_of_effect effect stays]
  rfl

theorem settingsOf_run_of_current (l : List Step) :
    (s.run l).context.defaults.settingsOf s.context.defaults.generation =
      editedUntilExchange s.context.defaults.current (s.history l) := by
  induction l generalizing s with
  | nil => exact s.context.defaults.settingsOf_generation
  | cons t l ih =>
    show ((s.step t).2.run l).context.defaults.settingsOf _ = editedBy _ (List.takeWhile _ (_ :: _))
    rw [List.takeWhile_cons]
    cases exchanges : t.exchanges with
    | true =>
      obtain ⟨d, rfl⟩ : ∃ d, t = .exchangeDefaults d := by
        cases t <;> first | exact ⟨_, rfl⟩ | exact nomatch exchanges
      have past : s.context.defaults.generation < (s.context.defaults.exchange d).generation := by
        rw [Defaults.generation_exchange]
        omega
      rw [(settingsOf_run_of_past past l).2]
      show (s.context.defaults.exchange d).settingsOf _ = s.context.defaults.current
      rw [Defaults.settingsOf_exchange (Nat.le_refl _), Defaults.settingsOf_generation]
    | false =>
      have stays : ∀ d, t ≠ .exchangeDefaults d := by
        rintro d rfl
        exact nomatch exchanges
      rw [← generation_of_effect (effect_step s t) stays, ih,
        defaults_of_effect (effect_step s t) stays]
      rfl

theorem generation_run {l : List Step} (kept : ∀ d, .exchangeDefaults d ∉ l) :
    (s.run l).context.defaults.generation = s.context.defaults.generation := by
  induction l generalizing s with
  | nil => rfl
  | cons t l ih =>
    have stays : ∀ d, t ≠ .exchangeDefaults d := by
      rintro d rfl
      exact kept d List.mem_cons_self
    have later := ih (s := (s.step t).2) fun d hd => kept d (List.mem_cons_of_mem _ hd)
    exact later.trans (generation_of_effect (effect_step s t) stays)

/-! ## Services -/

variable {service : Service} {name handle : String} {source : Source} {same : Option Bool}

theorem generation_of_makeService {c : Context} {files : Files} {d : Description}
    (h : c.makeService files name d = .ok service) : service.generation = c.defaults.generation := by
  obtain ⟨valid, -, h⟩ := Results.bind_eq_ok_iff.1 h
  obtain ⟨api, -, h⟩ := Results.bind_eq_ok_iff.1 h
  obtain ⟨errors, -, rfl⟩ := Results.map_eq_ok_iff.1 (Results.mapError_eq_ok_iff.1 h)
  rfl

theorem generation_of_added
    (added : (s.step (.add name source handle)).1 = .ok (.added service same)) :
    service.generation = s.context.defaults.generation ∧
      (s.step (.add name source handle)).2.context.defaults = s.context.defaults := by
  have effect := effect_step s (.add name source handle)
  rw [added] at effect
  generalize (s.step (.add name source handle)).2 = s' at effect
  cases effect with
  | asked asks => exact nomatch asks
  | edited edits => exact nomatch edits
  | added _ _ h => exact ⟨generation_of_makeService h, rfl⟩

/-- A client of a service starts from the defaults of the time when the service was added, with all
edits up to the first exchange after that. If there is no exchange, these are the defaults that the
context shows. -/
theorem newClient_of_generation (l : List Step) (options : Settings)
    (added : (s.step (.add name source handle)).1 = .ok (.added service same)) :
    let begun := (s.step (.add name source handle)).2
    let later := begun.run l
    let defaults := editedUntilExchange s.context.defaults.current (begun.history l)
    later.context.newClient service options =
        ((EffectiveSettings.resolve service.name.text service.api defaults options).map
          (clientOf service)).mapError .settings ∧
      ((∀ d, .exchangeDefaults d ∉ l) → defaults = later.context.defaults.current) := by
  intro begun later defaults
  obtain ⟨generation, unchanged⟩ := generation_of_added added
  have governed : later.context.defaults.settingsOf begun.context.defaults.generation = defaults := by
    rw [settingsOf_run_of_current, unchanged]
  constructor
  · unfold Context.newClient Context.defaultsOf
    rw [generation, ← unchanged, governed]
    rfl
  · intro kept
    rw [← governed, ← generation_run kept]
    exact later.context.defaults.settingsOf_generation

/-- After an exchange a service that is still registered makes clients from the defaults before it, and
not from those that the context shows. -/
theorem exchange_leaves_services :
    let s := start (fun _ => .error .notFound) .scripted ∅
    let l : List Step := [
      .insertDefault "region" (.string "one"),
      .add "S" (.document .null) "s",
      .exchangeDefaults ((∅ : Settings).insert "region" (.string "two"))]
    ((s.run l).context.defaults.current.get? "region").bind Json.asString? = some "two" ∧
      ((s.run l).context.service "S").toOption.bind (fun service =>
        ((s.run l).context.newClient service ∅).toOption.map (·.settings.region)) =
        some (some "one") := by
  decide +kernel

end Session

end ApiClients
