import ApiClients.Client.Basic

/-!
# Calls over one transport

Clients of any services make calls over one scripted transport. A call whose operation exists and whose
parameters are accepted has a request (`Call.request?`); any other is refused (`Call.Refused`).
`exchange_corresponds` says that requests and replies go with the calls that have requests, one each and
in their order, and what each call comes to: a refused one has its reason, and any other is decided by
its reply (`Call.Answered`).

1. `Call.perform_of_refused`, `Call.perform_of_request`: what one call does.
2. `script_exchange`: by induction on the calls, what all of them have done to the script.
3. `results_exchange`: each call meets the script that the calls before it have left.
-/

namespace ApiClients

/-- A call of a client. -/
structure Call where
  client : Client
  operation : String
  params : Json

namespace Call

variable {c : Call} {s : Script} {q : Request} {e : CallError} {reply : Reply}

/-! ## One call -/

/-- The request of a call, if there is its operation and the parameters are accepted. -/
def request? (c : Call) : Option Request :=
  (c.client.interface.operation? c.operation).bind fun o =>
    match Params.check c.client.interface.api o c.params with
    | .ok () => some
        { service := c.client.service, operation := o, params := c.params,
          settings := c.client.settings }
    | .error _ => none

/-- The reason for which a call is refused. The parameters are only looked at if there is the
operation. -/
inductive Refused (c : Call) : CallError → Prop where
  | unknown (h : c.client.interface.operation? c.operation = none) :
      Refused c (.unknownOperation c.client.service c.operation)
  | params {o : Operation} {cause : ParamsError}
      (ho : c.client.interface.operation? c.operation = some o)
      (h : Params.check c.client.interface.api o c.params = .error cause) :
      Refused c (.params cause)

/-- What a reply makes of a call. -/
inductive Answered (c : Call) : Reply → Except CallError Json → Prop where
  | ok (v : Json) : Answered c (.ok v) (.ok v)
  | service (code text : String) : Answered c (.error (.service code text))
      (.error (.service
        { errorClass := c.client.errors.classOf code, code, text,
          context := ⟨c.client.service, c.operation, c.params⟩ }))
  | failed (cause : TransportError) (h : ∀ code text, cause ≠ .service code text) :
      Answered c (.error cause) (.error (.transport cause))

/-- Makes a call over the scripted transport. -/
def perform (c : Call) (s : Script) : Except CallError Json × Script :=
  c.client.call s c.operation c.params

theorem Refused.unique {e' : CallError} (h : c.Refused e) (h' : c.Refused e') : e = e' := by
  cases h with
  | unknown none =>
    cases h' with
    | unknown => rfl
    | params ho => exact nomatch none.symm.trans ho
  | params ho checked =>
    cases h' with
    | unknown none => exact nomatch none.symm.trans ho
    | params ho' checked' =>
      obtain rfl := Option.some.inj (ho.symm.trans ho')
      rw [Except.error.inj (checked.symm.trans checked')]

/-- The reply alone decides the result. -/
theorem answered_iff {r : Except CallError Json} :
    c.Answered reply r ↔ r = c.client.conclude c.operation c.params reply := by
  constructor
  · rintro (_ | _ | ⟨cause, other⟩)
    · rfl
    · rfl
    · cases cause with
      | service code text => exact absurd rfl (other code text)
      | _ => rfl
  · rintro rfl
    match reply with
    | .ok v => exact .ok v
    | .error (.service code text) => exact .service code text
    | .error (.network text) => exact .failed _ nofun
    | .error (.notConfigured operation) => exact .failed _ nofun

theorem request_of_request? (h : c.request? = some q) :
    c.client.request c.operation c.params = .ok q := by
  obtain ⟨o, ho, h⟩ := Option.bind_eq_some_iff.1 h
  rw [Client.request, ho]
  dsimp only
  cases hc : Params.check c.client.interface.api o c.params with
  | error cause =>
    rw [hc] at h
    exact nomatch h
  | ok =>
    rw [hc] at h
    exact congrArg Except.ok (Option.some.inj h)

theorem refused_of_request? (h : c.request? = none) :
    ∃ e, c.client.request c.operation c.params = .error e ∧ c.Refused e := by
  unfold request? at h
  unfold Client.request
  cases ho : c.client.interface.operation? c.operation with
  | none => exact ⟨_, rfl, .unknown ho⟩
  | some o =>
    rw [ho, Option.bind_some] at h
    dsimp only
    cases hc : Params.check c.client.interface.api o c.params with
    | ok =>
      rw [hc] at h
      exact nomatch h
    | error cause => exact ⟨_, rfl, .params ho hc⟩

/-- A call without a request leaves the script as it is. -/
theorem perform_of_refused (h : c.request? = none) :
    ∃ e, c.perform s = (.error e, s) ∧ c.Refused e := by
  obtain ⟨e, he, refused⟩ := refused_of_request? h
  refine ⟨e, ?_, refused⟩
  rw [perform, Client.call, he]

/-- A call with a request takes the next reply for it. -/
theorem perform_of_request (h : c.request? = some q) (ht : c.client.transport = .scripted) :
    c.perform s = (c.client.conclude c.operation c.params (s.replies.headD (.ok .null)),
      { replies := s.replies.tail, sent := s.sent ++ [q] }) := by
  rw [perform, Client.call, request_of_request? h, ht]
  rfl

end Call

/-! ## Calls one after the other -/

/-- Makes calls one after the other: their results, and the script afterwards. -/
def Script.exchange (s : Script) : List Call → List (Except CallError Json) × Script
  | [] => ([], s)
  | c :: calls =>
    let (r, s) := c.perform s
    let (results, s) := s.exchange calls
    (r :: results, s)

/-- The requests of calls, in their order. -/
def Call.requests (calls : List Call) : List Request :=
  calls.filterMap Call.request?

variable {s : Script} {calls : List Call} {c : Call} {q : Request} {i : Nat}

theorem Call.requests_cons_of_none (h : c.request? = none) : requests (c :: calls) = requests calls :=
  List.filterMap_cons_none h

theorem Call.requests_cons_of_some (h : c.request? = some q) :
    requests (c :: calls) = q :: requests calls :=
  List.filterMap_cons_some h

theorem exchange_cons : s.exchange (c :: calls) =
    ((c.perform s).1 :: ((c.perform s).2.exchange calls).1, ((c.perform s).2.exchange calls).2) :=
  rfl

theorem length_exchange : (s.exchange calls).1.length = calls.length := by
  induction calls generalizing s with
  | nil => rfl
  | cons c calls ih => rw [exchange_cons, List.length_cons, List.length_cons, ih]

/-- The requests are noted down, and as many replies are taken. -/
theorem script_exchange (ht : ∀ c ∈ calls, c.client.transport = .scripted) :
    (s.exchange calls).2 =
      { replies := s.replies.drop (Call.requests calls).length
        sent := s.sent ++ Call.requests calls } := by
  induction calls generalizing s with
  | nil => simp [Script.exchange, Call.requests]
  | cons c calls ih =>
    have later := fun d hd => ht d (List.mem_cons_of_mem c hd)
    rw [exchange_cons, ih later]
    cases hq : c.request? with
    | none =>
      obtain ⟨e, he, -⟩ := Call.perform_of_refused (s := s) hq
      rw [he, Call.requests_cons_of_none hq]
    | some q =>
      rw [Call.perform_of_request hq (ht c List.mem_cons_self), Call.requests_cons_of_some hq]
      dsimp only
      rw [List.drop_tail, List.length_cons, List.append_assoc, List.singleton_append]

theorem results_exchange (hc : calls[i]? = some c) :
    (s.exchange calls).1[i]? = some (c.perform (s.exchange (calls.take i)).2).1 := by
  induction calls generalizing s i with
  | nil => exact nomatch hc
  | cons d calls ih =>
    cases i with
    | zero =>
      obtain rfl : d = c := Option.some.inj hc
      rfl
    | succ i =>
      rw [exchange_cons, List.getElem?_cons_succ, List.take_succ_cons, exchange_cons]
      exact ih hc

/-- Calls are split at one that has a request, and so are their requests. -/
theorem requests_eq_append (hc : calls[i]? = some c) (hq : c.request? = some q) :
    Call.requests calls =
      Call.requests (calls.take i) ++ q :: Call.requests (calls.drop (i + 1)) := by
  obtain ⟨lt, rfl⟩ := List.getElem?_eq_some_iff.1 hc
  rw [← Call.requests_cons_of_some hq, List.getElem_cons_drop, Call.requests, Call.requests,
    Call.requests, ← List.filterMap_append, List.take_append_drop]

section Places

variable (ht : ∀ c ∈ calls, c.client.transport = .scripted) (hc : calls[i]? = some c)

include ht hc

theorem exchange_of_refused (none : c.request? = none) :
    (s.exchange (calls.take (i + 1))).2 = (s.exchange (calls.take i)).2 ∧
    ∀ r, (s.exchange calls).1[i]? = some r ↔ ∃ e, c.Refused e ∧ r = .error e := by
  have before := fun d hd => ht d (List.mem_of_mem_take (i := i) hd)
  have upto := fun d hd => ht d (List.mem_of_mem_take (i := i + 1) hd)
  constructor
  · have same : Call.requests (calls.take (i + 1)) = Call.requests (calls.take i) := by
      rw [List.take_add_one, hc, Call.requests, List.filterMap_append]
      simp [none, Call.requests]
    rw [script_exchange upto, script_exchange before, same]
  · intro r
    obtain ⟨e, he, refused⟩ := Call.perform_of_refused (s := (s.exchange (calls.take i)).2) none
    rw [results_exchange hc, he, Option.some.injEq]
    constructor
    · rintro rfl
      exact ⟨e, refused, rfl⟩
    · rintro ⟨d, hd, rfl⟩
      rw [refused.unique hd]

/-- The replies that are left when a call is made begin with the one in its place. -/
theorem exchange_of_request (hq : c.request? = some q) (r : Except CallError Json) :
    (s.exchange calls).1[i]? = some r ↔
      c.Answered (s.replies.getD (Call.requests (calls.take i)).length (.ok .null)) r := by
  have before := fun d hd => ht d (List.mem_of_mem_take (i := i) hd)
  have scripted := ht c (List.mem_of_getElem? hc)
  rw [results_exchange hc, Call.perform_of_request hq scripted, script_exchange before,
    Option.some.injEq, Call.answered_iff, eq_comm, List.headD_eq_head?_getD, List.head?_drop,
    List.getD_eq_getElem?_getD]

end Places

/-- Calls over one scripted transport. What is noted down are the requests of the calls that have one,
and each takes one reply. A call without a request is refused and changes nothing. A call with a request
is decided by the reply in the same place among the replies as its request has among the requests. -/
theorem exchange_corresponds (s : Script) (calls : List Call)
    (ht : ∀ c ∈ calls, c.client.transport = .scripted) :
    let results := (s.exchange calls).1
    let after := (s.exchange calls).2
    after.sent = s.sent ++ Call.requests calls ∧
    after.replies = s.replies.drop (Call.requests calls).length ∧
    results.length = calls.length ∧
    ∀ i c, calls[i]? = some c →
      let k := (Call.requests (calls.take i)).length
      (c.request? = none →
        (s.exchange (calls.take (i + 1))).2 = (s.exchange (calls.take i)).2 ∧
        ∀ r, results[i]? = some r ↔ ∃ e, c.Refused e ∧ r = .error e) ∧
      ∀ q, c.request? = some q →
        (Call.requests calls)[k]? = some q ∧
        ∀ r, results[i]? = some r ↔ c.Answered (s.replies.getD k (.ok .null)) r := by
  intro results after
  have script : after = _ := script_exchange ht
  refine ⟨by rw [script], by rw [script], length_exchange, fun i c hc => ?_⟩
  refine ⟨exchange_of_refused ht hc, fun q hq => ⟨?_, exchange_of_request ht hc hq⟩⟩
  rw [requests_eq_append hc hq, List.getElem?_append_right (Nat.le_refl _), Nat.sub_self]
  rfl

/-- Calls of two clients that alternate. Those in the middle are refused, so the last one gets the
second reply. -/
theorem exchange_corresponds_alternating :
    let a : Api := ⟨.ofList [
      ("operations", .ofMembers [("Op", .ofMembers [("input", .ofMembers [("shape", .string "In")])])]),
      ("shapes", .ofMembers [("In", .ofMembers [("required", .array [.string "Id"])])])], 0⟩
    let client (service : String) : Client :=
      { interface := .ofApi service a, errors := { service }, settings := {}, transport := .scripted }
    let params : Json := .ofMembers [("Id", .string "1")]
    let calls : List Call := [⟨client "S", "Op", params⟩, ⟨client "T", "Other", .null⟩,
      ⟨client "S", "Op", .null⟩, ⟨client "T", "Op", params⟩]
    let s : Script := { replies := [.error (.service "Gone" "no more"), .ok (.string "done")] }
    (∀ c ∈ calls, c.client.transport = .scripted) ∧
      (s.exchange calls).2.sent.map Request.service = ["S", "T"] ∧
      (s.exchange calls).2.replies = [] ∧
      (s.exchange calls).1[1]? = some (.error (.unknownOperation "T" "Other")) ∧
      (s.exchange calls).1[3]? = some (.ok (.string "done")) := by
  intro a client params calls s
  have ht : ∀ c ∈ calls, c.client.transport = .scripted := by simp [calls, client]
  have services : (Call.requests calls).map Request.service = ["S", "T"] := by decide +kernel
  have length : (Call.requests calls).length = 2 := by simpa using congrArg List.length services
  have place : (Call.requests (calls.take 3)).length = 1 := by decide +kernel
  have accepted : (Call.request? ⟨client "T", "Op", params⟩).isSome = true := by decide +kernel
  obtain ⟨q, hq⟩ := Option.isSome_iff_exists.1 accepted
  have unknown : (client "T").interface.operation? "Other" = none := by decide +kernel
  have refused : Call.request? ⟨client "T", "Other", .null⟩ = none := by
    rw [Call.request?, unknown, Option.bind_none]
  obtain ⟨sent, left, -, each⟩ := exchange_corresponds s calls ht
  refine ⟨ht, ?_, ?_, ?_, ?_⟩
  · rw [sent]
    exact services
  · rw [left, length]
    rfl
  · exact (((each 1 _ rfl).1 refused).2 _).2 ⟨_, .unknown unknown, rfl⟩
  · rw [((each 3 _ rfl).2 q hq).2, place]
    exact .ok _

end ApiClients
