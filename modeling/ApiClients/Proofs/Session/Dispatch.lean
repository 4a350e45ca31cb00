import ApiClients.Proofs.Client.Request
import ApiClients.Proofs.Session.Effect

/-!
# What reaches the transport

A call that its client accepts hands a request over to the transport of the client
(`Session.dispatched?`). Whatever a session has gone through, such a request fits the API of the client
that sends it. `dispatches_fit` says this of all runs from a start, and that the scripted transport has
noted down these requests and no others.

1. `Session.Coherent` is the invariant: services fit together, and clients are checked against their
   APIs. It is kept by every effect (`coherent_of_effect`), hence by every run (`coherent_run`).
2. Requests of checked clients fit (`Client.Gated.fits`).
3. `sent_run` follows what is noted down through a run.
-/

namespace ApiClients

/-- The request of a call, if the client accepts it, is what the transport notes down. -/
theorem Client.sent_call (c : Client) (script : Script) (operation : String) (params : Json) :
    (c.call script operation params).2.sent = script.sent ++
      ((c.request operation params).toOption.toList.filter fun _ => c.transport = .scripted) := by
  unfold call
  cases c.request operation params with
  | error e => simp [Except.toOption]
  | ok r =>
    cases h : c.transport <;> simp [Transport.send, Script.send, Except.toOption]

namespace Session

variable {s s' : Session} {t : Step} {r : Except StepError Answer} {c : Client} {q : Request}

/-- The request that a step hands over to a transport, if it does, with the client that sends it. -/
def dispatched? (s : Session) : Step → Option (Client × Request)
  | .call handle operation params _ _ =>
    (s.clients.get? handle).bind fun c =>
      (c.request operation params).toOption.map fun q => (c, q)
  | _ => none

/-- The requests that a run hands over to transports, with the clients that send them. -/
def dispatches (s : Session) : List Step → List (Client × Request)
  | [] => []
  | t :: l => (s.dispatched? t).toList ++ (s.step t).2.dispatches l

/-! ## The invariant -/

/-- All services fit together, and all clients are checked against their APIs. -/
structure Coherent (s : Session) : Prop where
  registry : Members.All Service.Coherent s.context.registry
  services : Members.All Service.Coherent s.services
  clients : Members.All Client.Gated s.clients

theorem coherent_start (files : Files) (transport : Transport) (defaults : Settings) :
    (start files transport defaults).Coherent :=
  ⟨Members.All.empty, Members.All.empty, Members.All.empty⟩

theorem coherent_of_effect (h : s.Coherent) (effect : Effect s t r s') : s'.Coherent := by
  cases effect with
  | added handle hd hm =>
    have made := (Context.coherent_makeService hm).1
    exact ⟨h.registry.insert made, h.services.insert made, h.clients⟩
  | removed handle hr =>
    exact ⟨h.registry.erase, h.services.insert (h.registry _ _ hr), h.clients⟩
  | found handle hr => exact ⟨h.registry, h.services.insert (h.registry _ _ hr), h.clients⟩
  | madeClient handle hs hc =>
    have gated := (h.services _ _ hs).gated (Results.mapError_eq_ok_iff.1 hc)
    exact ⟨h.registry, h.services, h.clients.insert gated⟩
  | _ => exact ⟨h.registry, h.services, h.clients⟩

theorem coherent_run (files : Files) (transport : Transport) (defaults : Settings) (l : List Step) :
    ((start files transport defaults).run l).Coherent :=
  run_induction (coherent_start files transport defaults) coherent_of_effect l

/-! ## Requests -/

theorem dispatched?_eq_some_iff : s.dispatched? t = some (c, q) ↔
    ∃ handle operation params reply classes, t = .call handle operation params reply classes ∧
      s.clients.get? handle = some c ∧ c.request operation params = .ok q := by
  cases t with
  | call handle operation params reply classes =>
    have sends : s.dispatched? (.call handle operation params reply classes) = some (c, q) ↔
        s.clients.get? handle = some c ∧ c.request operation params = .ok q := by
      simp [dispatched?, Option.bind_eq_some_iff, Option.map_eq_some_iff,
        Results.toOption_eq_some_iff]
    rw [sends]
    constructor
    · exact fun h => ⟨_, _, _, _, _, rfl, h⟩
    · rintro ⟨_, _, _, _, _, ⟨⟩, h⟩
      exact h
  | _ => simp [dispatched?]

theorem fits_of_dispatched (h : s.Coherent) (hd : s.dispatched? t = some (c, q)) :
    q.Fits c.interface.api := by
  obtain ⟨_, _, _, _, _, rfl, hc, hq⟩ := dispatched?_eq_some_iff.1 hd
  exact (h.clients _ _ hc).fits hq

theorem fits_of_mem_dispatches (h : s.Coherent) {l : List Step} (mem : (c, q) ∈ s.dispatches l) :
    q.Fits c.interface.api := by
  induction l generalizing s with
  | nil => exact nomatch mem
  | cons t l ih =>
    rcases List.mem_append.1 mem with now | later
    · exact fits_of_dispatched h (Option.mem_toList.1 now)
    · exact ih (coherent_of_effect h (effect_step s t)) later

/-! ## What is noted down -/

/-- The requests for the scripted transport. -/
def scripted (l : List (Client × Request)) : List Request :=
  (l.filter fun d => d.1.transport = .scripted).map Prod.snd

theorem sent_call (s : Session) (handle operation : String) (params : Json) (reply : Reply)
    (classes : List (String × String)) :
    (s.call handle operation params reply classes).2.script.sent = s.script.sent ++
      scripted (s.dispatched? (.call handle operation params reply classes)).toList := by
  simp only [call, dispatched?, held]
  cases s.clients.get? handle with
  | none => simp [withValue, scripted]
  | some c =>
    show (c.call { s.script with replies := [reply] } operation params).2.sent = _
    rw [Client.sent_call]
    cases hq : c.request operation params <;> cases ht : c.transport <;>
      simp [Except.toOption, scripted, hq, ht]

/-- Only a call adds to what is noted down. -/
theorem script_of_effect (effect : Effect s t r s')
    (h : ∀ handle operation params reply classes, t ≠ .call handle operation params reply classes) :
    s'.script = s.script := by
  cases effect with
  | called => exact absurd rfl (h _ _ _ _ _)
  | _ => rfl

theorem sent_step (s : Session) (t : Step) :
    (s.step t).2.script.sent = s.script.sent ++ scripted (s.dispatched? t).toList := by
  cases t with
  | call handle operation params reply classes =>
    exact s.sent_call handle operation params reply classes
  | _ =>
    rw [script_of_effect (effect_step s _) (by simp)]
    simp [dispatched?, scripted]

theorem sent_run (s : Session) (l : List Step) :
    (s.run l).script.sent = s.script.sent ++ scripted (s.dispatches l) := by
  induction l generalizing s with
  | nil => simp [run, dispatches, scripted]
  | cons t l ih =>
    show ((s.step t).2.run l).script.sent = _
    rw [ih, sent_step, dispatches, scripted, scripted, scripted, List.filter_append, List.map_append,
      List.append_assoc]

/-- Every request that reaches a transport fits the API of the client that sends it, and the requests
that the scripted transport has noted down are those that have reached it. -/
theorem dispatches_fit (files : Files) (transport : Transport) (defaults : Settings)
    (l : List Step) :
    let s := start files transport defaults
    (∀ c q, (c, q) ∈ s.dispatches l → q.Fits c.interface.api) ∧
    (s.run l).script.sent = scripted (s.dispatches l) := by
  intro s
  refine ⟨fun c q => fits_of_mem_dispatches (coherent_start files transport defaults), ?_⟩
  rw [sent_run]
  rfl

/-- A call of an operation that there is reaches the transport, and one of an operation that there is
not does not. -/
example :
    ((start (fun _ => .error .notFound) .scripted ∅).dispatches
      [.add "S" (.document (.ofMembers [("operations", .ofMembers [("Op", .ofMembers [])])])) "s",
        .newClient "s" (Settings.ofAssignments [.region "r", .credentials ⟨"id", "key", none⟩]) "c",
        .call "c" "Op" .null (.ok .null) [],
        .call "c" "Other" .null (.ok .null) []]).length = 1 := by
  decide +kernel

end Session

end ApiClients
