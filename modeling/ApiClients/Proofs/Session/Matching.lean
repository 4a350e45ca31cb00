import ApiClients.Proofs.Service.Matching
import ApiClients.Proofs.Session.Dispatch

/-!
# Services and clients in a session

Whatever a session has gone through, the parts of its services and clients match, be they registered,
on the shelf, or only kept under a handle because their name has gone to another service or to none.
`parts_match` says this of all runs from a start. It adds that services are registered under their own
names, and that a service which is given an API holds this very API.

`Orderly` is the invariant. It extends `Session.Coherent` to the shelf, to the names under which
services stand, and to what clients are made of.
-/

namespace ApiClients

open Results

/-! ## Registries -/

/-- Every service stands under its own name. -/
def Registry.Keyed (r : Registry) : Prop :=
  ∀ n service, r.get? n = some service → n = service.name.text

variable {r : Registry}

theorem Registry.Keyed.empty : Keyed ∅ :=
  nofun

theorem Registry.Keyed.add (h : r.Keyed) (s : Service) : (r.add s).Keyed := by
  intro n service hn
  rw [Registry.add, Members.get?_insert] at hn
  split_ifs at hn with eq
  · rw [eq, Option.some.inj hn]
  · exact h n service hn

theorem Registry.Keyed.erase (h : r.Keyed) (name : String) : Keyed (Members.erase r name) := by
  intro n service hn
  rw [Members.get?_erase] at hn
  split_ifs at hn
  exact h n service hn

namespace Session

variable {s s' : Session} {t : Step} {r : Except StepError Answer}

/-! ## The invariant -/

/-- A service that can still be reached. -/
inductive Has (s : Session) (service : Service) : Prop where
  | registered {n : String} (h : s.context.registry.get? n = some service)
  | shelved {n : String} (h : s.shelf.get? n = some service)
  | kept {handle : String} (h : s.services.get? handle = some service)

structure Orderly (s : Session) : Prop where
  coherent : s.Coherent
  shelved : Members.All Service.Coherent s.shelf
  registry : s.context.registry.Keyed
  shelf : s.shelf.Keyed
  clients : Members.All (fun c => Matching c.service c.interface c.errors) s.clients

theorem orderly_start (files : Files) (transport : Transport) (defaults : Settings) :
    (start files transport defaults).Orderly :=
  ⟨coherent_start files transport defaults, Members.All.empty, .empty, .empty, Members.All.empty⟩

theorem orderly_of_effect (h : s.Orderly) (effect : Effect s t r s') : s'.Orderly := by
  have coherent := coherent_of_effect h.coherent effect
  cases effect with
  | added handle hd hm => exact ⟨coherent, h.shelved, h.registry.add _, h.shelf, h.clients⟩
  | removed handle hr => exact ⟨coherent, h.shelved, h.registry.erase _, h.shelf, h.clients⟩
  | madeClient handle hs hc =>
    have matching := (h.coherent.services _ _ hs).matching_newClient (mapError_eq_ok_iff.1 hc)
    exact ⟨coherent, h.shelved, h.registry, h.shelf, h.clients.insert matching⟩
  | shelved hs =>
    have kept := h.coherent.services _ _ hs
    exact ⟨coherent, h.shelved.insert kept, h.registry, h.shelf.add _, h.clients⟩
  | unshelved hs => exact ⟨coherent, h.shelved.erase, h.registry, h.shelf.erase _, h.clients⟩
  | _ => exact ⟨coherent, h.shelved, h.registry, h.shelf, h.clients⟩

theorem orderly_run (files : Files) (transport : Transport) (defaults : Settings) (l : List Step) :
    ((start files transport defaults).run l).Orderly :=
  run_induction (orderly_start files transport defaults) orderly_of_effect l

theorem Orderly.coherent_of_has (h : s.Orderly) {service : Service} (has : s.Has service) :
    service.Coherent := by
  cases has with
  | registered hn => exact h.coherent.registry _ _ hn
  | shelved hn => exact h.shelved _ _ hn
  | kept hn => exact h.coherent.services _ _ hn

/-! ## Given APIs -/

/-- A service that is added with the API of a handle holds this API and is registered with it. -/
theorem added_of_handle {name given handle : String} {service : Service} {same : Option Bool}
    (h : (s.step (.add name (.handle given) handle)).1 = .ok (.added service same)) :
    ∃ a, s.apiOf given = .ok a ∧ service.api = a ∧ same = some true ∧
      (s.step (.add name (.handle given) handle)).2.context.registry.get? name = some service := by
  have effect := effect_step s (.add name (.handle given) handle)
  generalize (s.step (.add name (.handle given) handle)).1 = r,
    (s.step (.add name (.handle given) handle)).2 = s' at effect h
  cases h
  cases effect with
  | asked ht => exact nomatch ht
  | edited ht => exact nomatch ht
  | added handle hd hm =>
    obtain ⟨a, ha, rfl⟩ := map_eq_ok_iff.1 hd
    have api := Context.api_of_makeService hm
    refine ⟨a, ha, api, ?_, ?_⟩
    · rw [isGivenApi, api, Api.isSameInstance, beq_self_eq_true]
    · show (Members.insert s.context.registry service.name.text service).get? name = some service
      rw [(Context.coherent_makeService hm).2, Members.get?_insert_self]

/-! ## Runs -/

/-- After every run, services are registered and shelved under their own names, and the parts of all
services and clients match. When a service is added with an API of the session, it is this instance
that the service holds. -/
theorem parts_match (files : Files) (transport : Transport) (defaults : Settings) (l : List Step) :
    let s := (start files transport defaults).run l
    (∀ n service, s.context.registry.get? n = some service → n = service.name.text) ∧
    (∀ n service, s.shelf.get? n = some service → n = service.name.text) ∧
    (∀ service, s.Has service → Matching service.name.text service.interface service.errors) ∧
    (∀ handle c, s.clients.get? handle = some c → Matching c.service c.interface c.errors) ∧
    ∀ name given handle service same,
      (s.step (.add name (.handle given) handle)).1 = .ok (.added service same) →
        ∃ a, s.apiOf given = .ok a ∧ service.api = a ∧ same = some true ∧
          (s.step (.add name (.handle given) handle)).2.context.registry.get? name =
            some service := by
  intro s
  have orderly : s.Orderly := orderly_run files transport defaults l
  exact ⟨orderly.registry, orderly.shelf,
    fun service has => (orderly.coherent_of_has has).matching, orderly.clients,
    fun name given handle service same => added_of_handle⟩

/-- The handle of a service outlives its name, first given to another service and then removed. -/
example :
    let s := (start (fun _ => .error .notFound) .unconfigured ∅).run [
      .makeApi "api" (.ofMembers [("operations", .ofMembers
        [("Op", .ofMembers [("errors", .array [.ofMembers [("shape", .string "Gone")]])])])]),
      .add "S" (.handle "api") "old", .add "S" .absent "new", .remove "S" "removed"]
    s.context.serviceNames = [] ∧
      (s.services.get? "old").map (fun service => (service.name.text, service.errors.classNames)) =
        some ("S", ["ServiceError", "Gone"]) := by
  decide +kernel

end Session

end ApiClients
