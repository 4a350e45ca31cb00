import ApiClients.Proofs.Service.Coherent
import ApiClients.Session
import ApiClients.Table.Lemmas

/-!
# What a step does

`Effect` lists all that a step of a session can do, with what makes it do so, and `effect_step` says
that every step does one of these things. What steps keep is proved by cases on `Effect`, and
`run_induction` carries it through a run. A step that fails leaves the session as it was, except for
what a transport has noted down (`unchanged_of_failed`).
-/

namespace ApiClients.Session

open Results

variable {s s' : Session} {t : Step} {r : Except StepError Answer}

/-- The edit of the defaults that a step stands for, if it is one. -/
def Step.edit? : Step → Option (Settings → Settings)
  | .setDefaults (.object settings) => some fun _ => settings
  | .insertDefault key value => some (Members.insert · key value)
  | .eraseDefault key => some (Members.erase · key)
  | .clearDefaults => some fun _ => ∅
  | _ => none

/-- Whether a step only asks for what is there. -/
def Step.asks : Step → Bool
  | .describe _ | .compare .. | .getDefault _ | .describeClient _ => true
  | .findShelved _ | .isShelved _ | .shelvedNames => true
  | _ => false

/-- Whether an answer is that of a call that has failed. -/
def Answer.isFailedCall : Answer → Bool
  | .called (.error _) _ _ => true
  | _ => false

/-- A step comes to an error, or to a call that fails. -/
def Failed : Except StepError Answer → Prop
  | .error _ => True
  | .ok a => a.isFailedCall = true

/-- All that a step can do to a session: its answer or its error, and the session afterwards. -/
inductive Effect (s : Session) : Step → Except StepError Answer → Session → Prop where
  | refused (t : Step) (e : StepError) : Effect s t (.error e) s
  | asked {t : Step} {a : Answer} (ht : t.asks = true) (ha : a.isFailedCall = false) :
      Effect s t (.ok a) s
  | madeApi {document : Json} {api : Api} (handle : String)
      (h : (Description.document document).toApi s.files s.context.nextSerial = .ok api) :
      Effect s (.makeApi handle document) (.ok .done)
        { s with
          context := { s.context with nextSerial := s.context.nextSerial + 1 }
          apis := s.apis.insert handle api }
  | added {name : String} {source : Source} {d : Description} {service : Service} (handle : String)
      (hd : s.descriptionOf source = .ok d)
      (h : s.context.makeService s.files name d = .ok service) :
      Effect s (.add name source handle) (.ok (.added service (isGivenApi service.api d)))
        (keep { s with context := s.context.register service } handle service)
  | removed {name : String} {service : Service} (handle : String)
      (h : s.context.registry.get? name = some service) :
      Effect s (.remove name handle) (.ok (.service service))
        (keep { s with context := { s.context with registry := s.context.registry.erase name } }
          handle service)
  | found {name : String} {service : Service} (handle : String)
      (h : s.context.registry.get? name = some service) :
      Effect s (.find name handle) (.ok (.service service)) (s.keep handle service)
  | edited {t : Step} {f : Settings → Settings} {a : Answer} (ht : t.edit? = some f)
      (ha : a.isFailedCall = false) :
      Effect s t (.ok a) { s with context := s.context.editDefaults f }
  | exchanged (settings : Settings) :
      Effect s (.exchangeDefaults settings) (.ok .done)
        { s with context := s.context.withDefaults settings }
  | changedFiles (files : Files) : Effect s (.changeFiles files) (.ok .done) { s with files }
  | madeClient {handle : String} {options : Settings} {service : Service} {client : Client}
      (clientHandle : String) (hs : s.services.get? handle = some service)
      (h : s.context.newClient service options = .ok client) :
      Effect s (.newClient handle options clientHandle) (.ok (.settings client.settings))
        { s with clients := s.clients.insert clientHandle client }
  | called {handle operation : String} {client : Client} {params : Json} {reply : Reply}
      {result : Except CallError Json} {script : Script} (classes : List (String × String))
      (sent : Option Request) (isA : Option (List (Option Bool)))
      (hc : s.clients.get? handle = some client)
      (h : client.call { s.script with replies := [reply] } operation params = (result, script)) :
      Effect s (.call handle operation params reply classes) (.ok (.called result sent isA))
        { s with script }
  | shelved {handle : String} {service : Service} (h : s.services.get? handle = some service) :
      Effect s (.shelve handle) (.ok (.shelved (s.shelf.get? service.name.text)))
        { s with shelf := s.shelf.add service }
  | unshelved {name : String} {service : Service} (h : s.shelf.get? name = some service) :
      Effect s (.removeShelved name) (.ok (.service service))
        { s with shelf := s.shelf.erase name }

/-! ## Parts of a step -/

/-- The session and the answer of an outcome come about by a step. -/
def Outcome.IsEffect (s : Session) (t : Step) (o : Outcome) : Prop :=
  Effect s t o.1 o.2

theorem isEffect_withValue {α : Type} {x : Except StepError α} {next : α → Outcome}
    (h : ∀ a, x = .ok a → (next a).IsEffect s t) : (s.withValue x next).IsEffect s t := by
  cases x with
  | error e => exact .refused t e
  | ok a => exact h a rfl

theorem isEffect_asked {x : Except StepError Answer} (ht : t.asks = true)
    (ha : ∀ a, x = .ok a → a.isFailedCall = false) : Outcome.IsEffect s t (x, s) := by
  cases x with
  | error e => exact .refused t e
  | ok a => exact .asked ht (ha a rfl)

theorem held_eq_ok_iff {α : Type} {table : Table α} {handle : String} {x : α} :
    held table handle = .ok x ↔ table.get? handle = some x := by
  unfold held
  cases table.get? handle <;> simp

theorem isEffect_add (name : String) (source : Source) (handle : String) :
    (s.add name source handle).IsEffect s (.add name source handle) := by
  refine isEffect_withValue fun d hd => ?_
  rw [Context.addService]
  cases h : s.context.makeService s.files name d with
  | error e => exact .refused _ (.failure e)
  | ok service => exact .added handle hd h

/-- A name that is not registered is not taken out either. -/
theorem isEffect_remove (name handle : String) :
    (s.remove name handle).IsEffect s (.remove name handle) := by
  rw [remove, Context.removeService, Registry.remove]
  cases h : s.context.registry.get? name with
  | none =>
    rw [Members.erase_eq_self _ h]
    exact .refused _ (.failure (.unknownService name))
  | some service => exact .removed handle h

theorem isEffect_removeShelved (name : String) :
    (s.removeShelved name).IsEffect s (.removeShelved name) := by
  rw [removeShelved, Registry.remove]
  cases h : s.shelf.get? name with
  | none =>
    rw [Members.erase_eq_self _ h]
    exact .refused _ (.failure (.unknownService name))
  | some service => exact .unshelved h

theorem isEffect_setDefaults (value : Json) :
    (s.step (.setDefaults value)).IsEffect s (.setDefaults value) := by
  cases value with
  | object settings => exact .edited rfl rfl
  | _ => exact .refused _ (.failure (.defaults _))

theorem isEffect_makeApi (handle : String) (document : Json) :
    (s.makeApi handle document).IsEffect s (.makeApi handle document) :=
  isEffect_withValue fun _ h => .madeApi handle (mapError_eq_ok_iff.1 h)

theorem isEffect_find (name handle : String) :
    (s.find name handle).IsEffect s (.find name handle) :=
  isEffect_withValue fun _ h =>
    .found handle (Context.service_eq_ok_iff.1 (mapError_eq_ok_iff.1 h))

theorem isEffect_newClient (handle : String) (options : Settings) (clientHandle : String) :
    (s.newClient handle options clientHandle).IsEffect s
      (.newClient handle options clientHandle) := by
  refine isEffect_withValue fun service hs => isEffect_withValue fun client hc => ?_
  exact .madeClient clientHandle (held_eq_ok_iff.1 hs) (mapError_eq_ok_iff.1 hc)

theorem isEffect_compare (a b : String) : (s.compare a b).IsEffect s (.compare a b) := by
  refine isEffect_withValue fun x _ => isEffect_withValue fun y _ => ?_
  exact .asked rfl rfl

theorem isEffect_call (handle operation : String) (params : Json) (reply : Reply)
    (classes : List (String × String)) :
    (s.call handle operation params reply classes).IsEffect s
      (.call handle operation params reply classes) :=
  isEffect_withValue fun _ hc => .called classes _ _ (held_eq_ok_iff.1 hc) rfl

theorem isEffect_shelve (handle : String) :
    (s.step (.shelve handle)).IsEffect s (.shelve handle) :=
  isEffect_withValue fun _ h => .shelved (held_eq_ok_iff.1 h)

theorem isFailedCall_of_map {α : Type} {x : Except StepError α} {f : α → Answer} {a : Answer}
    (hf : ∀ y, (f y).isFailedCall = false) (h : x.map f = .ok a) : a.isFailedCall = false := by
  obtain ⟨y, -, rfl⟩ := map_eq_ok_iff.1 h
  exact hf y

/-! ## Steps -/

/-- A step does one of the things that are listed. -/
theorem effect_step (s : Session) (t : Step) : Effect s t (s.step t).1 (s.step t).2 := by
  cases t with
  | makeApi handle document => exact isEffect_makeApi handle document
  | add name source handle => exact isEffect_add name source handle
  | remove name handle => exact isEffect_remove name handle
  | find name handle => exact isEffect_find name handle
  | describe handle => exact isEffect_asked rfl fun _ => isFailedCall_of_map fun _ => rfl
  | compare a b => exact isEffect_compare a b
  | setDefaults value => exact isEffect_setDefaults value
  | insertDefault key value => exact .edited rfl rfl
  | eraseDefault key => exact .edited rfl rfl
  | getDefault key => exact .asked rfl rfl
  | clearDefaults => exact .edited rfl rfl
  | exchangeDefaults settings => exact .exchanged settings
  | changeFiles files => exact .changedFiles files
  | newClient handle options clientHandle => exact isEffect_newClient handle options clientHandle
  | describeClient handle => exact isEffect_asked rfl fun _ => isFailedCall_of_map fun _ => rfl
  | call handle operation params reply classes =>
    exact isEffect_call handle operation params reply classes
  | shelve handle => exact isEffect_shelve handle
  | findShelved name => exact isEffect_asked rfl fun _ => isFailedCall_of_map fun _ => rfl
  | removeShelved name => exact isEffect_removeShelved name
  | isShelved name => exact .asked rfl rfl
  | shelvedNames => exact .asked rfl rfl

/-- A step that fails leaves everything as it was but the script of the transport. -/
theorem unchanged_of_failed (h : Failed (s.step t).1) :
    (s.step t).2 = { s with script := (s.step t).2.script } := by
  have effect := effect_step s t
  generalize (s.step t).1 = r, (s.step t).2 = s' at effect h
  cases effect with
  | refused => rfl
  | called => rfl
  | asked _ ha => exact absurd h (by simp [Failed, ha])
  | edited _ ha => exact absurd h (by simp [Failed, ha])
  | _ => exact absurd h (by simp [Failed, Answer.isFailedCall])

/-! ## Runs -/

theorem run_append (s : Session) (l : List Step) (t : Step) :
    s.run (l ++ [t]) = ((s.run l).step t).2 := by
  rw [run, run, List.foldl_append, List.foldl_cons, List.foldl_nil]

/-- What holds at the start of a run and is kept by every effect holds at its end. -/
theorem run_induction {I : Session → Prop} (start : I s)
    (keep : ∀ {s t r s'}, I s → Effect s t r s' → I s') (l : List Step) : I (s.run l) := by
  induction l generalizing s with
  | nil => exact start
  | cons t l ih => exact ih (keep start (effect_step s t))

end ApiClients.Session
