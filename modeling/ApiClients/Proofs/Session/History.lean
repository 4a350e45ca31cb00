import ApiClients.Proofs.Session.Effect
import ApiClients.Proofs.Text.ByteOrder
import Mathlib.Data.List.Induction

/-!
# The registry and its history

The history of a run lists its steps with what they came to. What is registered at the end can be read
off it without looking at any state (`LastAdded`): under a name stands the service that was last added
under it, unless it has been removed since. `run_refines_history` says this of all runs from a start,
and also that a step that fails leaves behind what it found.

1. `get?_of_effect`: one step registers what it adds, takes out what it removes, and leaves the other
   names alone.
2. `lastAdded_append`: one event more changes the last addition in the same way.
3. `get?_run_iff`: by induction on the run, the registry agrees with the history.
-/

namespace ApiClients.Session

/-- A step, with its answer or its error. -/
abbrev Event : Type := Step × Except StepError Answer

/-- The steps of a run, with what they come to. -/
def history (s : Session) : List Step → List Event
  | [] => []
  | t :: l => (t, (s.step t).1) :: (s.step t).2.history l

namespace Event

/-- A service was added under a name. -/
def Adds (n : String) (service : Service) (e : Event) : Prop :=
  ∃ source handle same, e = (.add n source handle, .ok (.added service same))

/-- The service of a name was removed. -/
def Removes (n : String) (e : Event) : Prop :=
  ∃ handle a, e = (.remove n handle, .ok a)

/-- Something was added under a name, or removed. -/
def Concerns (n : String) (e : Event) : Prop :=
  (∃ service, Adds n service e) ∨ Removes n e

end Event

/-- The last event that concerns a name has added the service. -/
def LastAdded (h : List Event) (n : String) (service : Service) : Prop :=
  ∃ before e after, h = before ++ e :: after ∧ e.Adds n service ∧ ∀ e ∈ after, ¬ e.Concerns n

variable {s s' : Session} {t : Step} {r : Except StepError Answer} {n : String} {service : Service}

/-! ## One step -/

/-- An event of another kind does not concern any name. -/
theorem Event.not_concerns (add : ∀ m source handle, t ≠ .add m source handle)
    (remove : ∀ m handle, t ≠ .remove m handle) : ¬ Concerns n (t, r) := by
  rintro (⟨_, _, _, _, eq⟩ | ⟨_, _, eq⟩)
  · exact add _ _ _ (congrArg Prod.fst eq)
  · exact remove _ _ (congrArg Prod.fst eq)

theorem Event.not_concerns_error (e : StepError) : ¬ Concerns n (t, .error e) := by
  rintro (⟨_, _, _, _, eq⟩ | ⟨_, _, eq⟩)
  · exact nomatch congrArg Prod.snd eq
  · exact nomatch congrArg Prod.snd eq

/-- Under a name stands afterwards what a step has added; if it has neither added nor removed
anything under the name, what stood there before. -/
theorem get?_of_effect (effect : Effect s t r s') :
    s'.context.registry.get? n = some service ↔
      Event.Adds n service (t, r) ∨
        ¬ Event.Concerns n (t, r) ∧ s.context.registry.get? n = some service := by
  have of_quiet : ¬ Event.Concerns n (t, r) →
      (s.context.registry.get? n = some service ↔ Event.Adds n service (t, r) ∨
        ¬ Event.Concerns n (t, r) ∧ s.context.registry.get? n = some service) := by
    intro quiet
    have not_added : ¬ Event.Adds n service (t, r) := fun h => quiet (.inl ⟨service, h⟩)
    rw [or_iff_right not_added, and_iff_right quiet]
  cases effect with
  | @added name source d made handle hd h =>
    show (Members.insert s.context.registry made.name.text made).get? n = some service ↔ _
    rw [(Context.coherent_makeService h).2, Members.get?_insert]
    split_ifs with hn
    · subst hn
      have concerns : Event.Concerns n
          (.add n source handle, .ok (.added made (isGivenApi made.api d))) :=
        .inl ⟨made, _, _, _, rfl⟩
      simp [Event.Adds, concerns]
    · exact of_quiet (by simp [Event.Concerns, Event.Adds, Event.Removes, Ne.symm hn])
  | @removed name found handle h =>
    show (Members.erase s.context.registry name).get? n = some service ↔ _
    rw [Members.get?_erase]
    split_ifs with hn
    · subst hn
      have concerns : Event.Concerns n (.remove n handle, .ok (.service found)) :=
        .inr ⟨_, _, rfl⟩
      simp [Event.Adds, concerns]
    · exact of_quiet (by simp [Event.Concerns, Event.Adds, Event.Removes, Ne.symm hn])
  | refused t e => exact of_quiet (Event.not_concerns_error e)
  | asked ht | edited ht =>
    refine of_quiet (Event.not_concerns ?_ ?_)
    · rintro _ _ _ rfl
      exact nomatch ht
    · rintro _ _ rfl
      exact nomatch ht
  | _ => exact of_quiet (Event.not_concerns nofun nofun)

/-! ## One event -/

theorem lastAdded_nil : ¬ LastAdded [] n service := by
  rintro ⟨before, e, after, eq, -⟩
  exact List.append_ne_nil_of_right_ne_nil before (List.cons_ne_nil e after) eq.symm

theorem lastAdded_append {h : List Event} {e : Event} :
    LastAdded (h ++ [e]) n service ↔
      e.Adds n service ∨ ¬ e.Concerns n ∧ LastAdded h n service := by
  constructor
  · rintro ⟨before, d, after, eq, adds, quiet⟩
    rcases List.eq_nil_or_concat after with rfl | ⟨after, last, rfl⟩
    · obtain ⟨-, last_eq⟩ := List.append_inj' eq rfl
      obtain rfl := List.singleton_inj.1 last_eq
      exact .inl adds
    · rw [List.concat_eq_append, ← List.cons_append, ← List.append_assoc] at eq
      obtain ⟨rfl, last_eq⟩ := List.append_inj' eq rfl
      obtain rfl := List.singleton_inj.1 last_eq
      refine .inr ⟨quiet e (by simp), before, d, after, rfl, adds, fun e he => quiet e ?_⟩
      simp [he]
  · rintro (adds | ⟨quiet, before, d, after, rfl, adds, quiet'⟩)
    · exact ⟨h, e, [], rfl, adds, by simp⟩
    · refine ⟨before, d, after ++ [e], by simp, adds, fun f hf => ?_⟩
      rcases List.mem_append.1 hf with hf | hf
      · exact quiet' f hf
      · rwa [List.mem_singleton.1 hf]

/-! ## Runs -/

theorem history_append (s : Session) (l : List Step) (t : Step) :
    s.history (l ++ [t]) = s.history l ++ [(t, ((s.run l).step t).1)] := by
  induction l generalizing s with
  | nil => rfl
  | cons u l ih =>
    show (u, (s.step u).1) :: (s.step u).2.history (l ++ [t]) = _
    rw [ih]
    rfl

variable (files : Files) (transport : Transport) (defaults : Settings)

/-- The induction is on the run from its end: its last step does to the registry what its last event
does to the last additions. -/
theorem get?_run_iff (l : List Step) :
    ((start files transport defaults).run l).context.registry.get? n = some service ↔
      LastAdded ((start files transport defaults).history l) n service := by
  induction l using List.reverseRecOn generalizing service with
  | nil => exact ⟨nofun, fun h => (lastAdded_nil h).elim⟩
  | append_singleton l t ih =>
    rw [run_append, history_append, get?_of_effect (effect_step _ t), lastAdded_append, ih]

/-- After every run the services are those that the history names, and a step that fails changes
nothing but the script of the transport. -/
theorem run_refines_history (l : List Step) :
    let s := (start files transport defaults).run l
    let h := (start files transport defaults).history l
    Text.Ascending s.context.serviceNames ∧
    (∀ n, n ∈ s.context.serviceNames ↔ ∃ service, LastAdded h n service) ∧
    (∀ n service, s.context.service n = .ok service ↔ LastAdded h n service) ∧
    (∀ n e, s.context.service n = .error e ↔
      e = .unknownService n ∧ ∀ service, ¬ LastAdded h n service) ∧
    ∀ t, Failed (s.step t).1 → (s.step t).2 = { s with script := (s.step t).2.script } := by
  intro s h
  have registered : ∀ n service, s.context.registry.get? n = some service ↔ LastAdded h n service :=
    fun n service => get?_run_iff files transport defaults l
  refine ⟨?_, fun n => ?_, fun n service => ?_, fun n e => ?_, fun t => unchanged_of_failed⟩
  · exact Text.ascending_iff.2 (Members.pairwise_keys _)
  · simp only [Context.serviceNames, Registry.names, Members.mem_keys_iff, registered]
  · rw [Context.service_eq_ok_iff, registered]
  · simp only [Context.service_eq_error_iff, ne_eq, registered]

end ApiClients.Session
