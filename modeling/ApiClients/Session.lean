import ApiClients.Context.Basic

/-!
# Sessions

A session is a context in use: a sequence of steps that register services, edit defaults, make clients
and call operations. What a step produces is kept under a handle, and later steps refer to it by that
handle even when the context has moved on. Beside the context there is a shelf, a registry on its own.

A step comes to an answer or an error, and either way it leaves a session behind. A call that fails
has been made all the same: its result, whichever it is, is what the step answers.
-/

namespace ApiClients

/-- A context in use. -/
structure Session where
  files : Files
  context : Context
  shelf : Registry := ∅
  apis : Table Api := ∅
  services : Table Service := ∅
  clients : Table Client := ∅
  script : Script := {}

namespace Session

/-- A description in a step, where an API is given by its handle. -/
inductive Source where
  | absent
  | path (p : Path)
  | document (value : Json)
  | handle (h : String)

/-- A step of a session. -/
inductive Step where
  | makeApi (handle : String) (document : Json)
  | add (name : String) (source : Source) (handle : String)
  | remove (name handle : String)
  | find (name handle : String)
  | describe (handle : String)
  | compare (a b : String)
  | setDefaults (value : Json)
  | insertDefault (key : String) (value : Json)
  | eraseDefault (key : String)
  | getDefault (key : String)
  | clearDefaults
  | exchangeDefaults (settings : Settings)
  | changeFiles (files : Files)
  | newClient (service : String) (options : Settings) (handle : String)
  | describeClient (handle : String)
  /-- Calls an operation. The service answers with `reply`; `classes` names error classes, each by
  the handle of a service and its own name, and an error is asked whether it is one of them. -/
  | call (client operation : String) (params : Json) (reply : Reply)
      (classes : List (String × String))
  | shelve (service : String)
  | findShelved (name : String)
  | removeShelved (name : String)
  | isShelved (name : String)
  | shelvedNames

/-- What two services have in common. -/
structure ServiceComparison where
  same : Bool
  interfacesEqual : Bool
  errorsEqual : Bool

/-- What a step answers. -/
inductive Answer where
  | done
  | service (s : Service)
  /-- A service that was added, and whether its API is the instance that was given for it. -/
  | added (s : Service) (sameApi : Option Bool)
  | comparison (equal same : Bool) (services : Option ServiceComparison)
  | before (value : Option Json)
  | value (value : Option Json)
  | settings (s : EffectiveSettings)
  | client (c : Client)
  /-- The result of a call, the request that was sent, and for an error of the service the answer
  for each class that was asked for. -/
  | called (result : Except CallError Json) (sent : Option Request)
      (isA : Option (List (Option Bool)))
  | shelved (before : Option Service)
  | truth (b : Bool)
  | names (l : List String)

/-- Why a step fails. -/
inductive StepError where
  | noHandle (handle : String)
  | failure (cause : Failure)

/-- The wording of an error. -/
def StepError.message : StepError → String
  | noHandle handle => handle
  | failure cause => cause.message

/-! ### Handles -/

/-- What a table of handles holds under a handle. -/
def held {α : Type} (t : Table α) (handle : String) : Except StepError α :=
  match t.get? handle with
  | some x => .ok x
  | none => .error (.noHandle handle)

/-- The API that a handle stands for: an API, or else that of a client or of a service. -/
def apiOf (s : Session) (handle : String) : Except StepError Api :=
  match s.apis.get? handle, s.clients.get? handle with
  | some a, _ => .ok a
  | none, some c => .ok c.interface.api
  | none, none => (held s.services handle).map Service.api

/-- The description that a source gives. -/
def descriptionOf (s : Session) : Source → Except StepError Description
  | .absent => .ok .absent
  | .path p => .ok (.path p)
  | .document v => .ok (.document v)
  | .handle h => (s.apiOf h).map .api

/-- Whether an API is the instance that a description gives. -/
def isGivenApi (a : Api) : Description → Option Bool
  | .api b => some (a.isSameInstance b)
  | _ => none

/-- Keeps a service under a handle. -/
def keep (s : Session) (handle : String) (service : Service) : Session :=
  { s with services := s.services.insert handle service }

/-- Compares two services. -/
def compareServices (a b : Service) : ServiceComparison where
  same := a.isSameInstance b
  interfacesEqual := a.interface == b.interface
  errorsEqual := decide (a.errors = b.errors)

/-- For each class, by the handle of a service and its name, whether an error is one of that class;
`none` where there is no such service or class. -/
def classAnswers (s : Session) (e : ServiceError) (classes : List (String × String)) :
    List (Option Bool) :=
  classes.map fun (handle, name) =>
    ((s.services.get? handle).bind (·.errors.class? name)).map e.isA

/-! ### Steps -/

/-- What a step comes to: its answer or its error, and the session afterwards. -/
abbrev Outcome : Type := Except StepError Answer × Session

/-- Goes on with a value, or ends with the error that came in its place. -/
def withValue {α : Type} (s : Session) (x : Except StepError α) (next : α → Outcome) : Outcome :=
  match x with
  | .error e => (.error e, s)
  | .ok a => next a

/-- Goes on with what an operation on the context came to, or ends with its failure. Either way the
context is the one that the operation has left. -/
def withContext {α : Type} (s : Session) (x : Except Failure α × Context)
    (next : α → Session → Outcome) : Outcome :=
  match x with
  | (.error e, context) => (.error (.failure e), { s with context })
  | (.ok a, context) => next a { s with context }

/-- Makes an API of a JSON value and keeps it under a handle. -/
def makeApi (s : Session) (handle : String) (document : Json) : Outcome :=
  let made := (Description.document document).toApi s.files s.context.nextSerial
  s.withValue (made.mapError fun e => .failure (.description e)) fun api =>
    let context := { s.context with nextSerial := s.context.nextSerial + 1 }
    (.ok .done, { s with context, apis := s.apis.insert handle api })

/-- Registers a service and keeps it under a handle. -/
def add (s : Session) (name : String) (source : Source) (handle : String) : Outcome :=
  s.withValue (s.descriptionOf source) fun d =>
    s.withContext (s.context.addService s.files name d) fun service s =>
      (.ok (.added service (isGivenApi service.api d)), s.keep handle service)

/-- Removes a service and keeps it under a handle. -/
def remove (s : Session) (name handle : String) : Outcome :=
  s.withContext (s.context.removeService name) fun service s =>
    (.ok (.service service), s.keep handle service)

/-- Looks a service up and keeps it under a handle. -/
def find (s : Session) (name handle : String) : Outcome :=
  s.withValue ((s.context.service name).mapError .failure) fun service =>
    (.ok (.service service), s.keep handle service)

/-- Compares what two handles stand for. -/
def compare (s : Session) (a b : String) : Outcome :=
  s.withValue (s.apiOf a) fun x =>
    s.withValue (s.apiOf b) fun y =>
      let services :=
        match s.services.get? a, s.services.get? b with
        | some m, some n => some (compareServices m n)
        | _, _ => none
      (.ok (.comparison (x == y) (x.isSameInstance y) services), s)

/-- Edits the defaults; the answer is the value that a key had before. -/
def editDefault (s : Session) (key : String) (f : Settings → Settings) : Outcome :=
  (.ok (.before (Members.get? s.context.defaults.current key)),
    { s with context := s.context.editDefaults f })

/-- Makes a client of a service and keeps it under a handle. -/
def newClient (s : Session) (handle : String) (options : Settings) (clientHandle : String) :
    Outcome :=
  s.withValue (held s.services handle) fun service =>
    s.withValue ((s.context.newClient service options).mapError .failure) fun client =>
      (.ok (.settings client.settings),
        { s with clients := s.clients.insert clientHandle client })

/-- Calls an operation of a client, to which the service answers with `reply`. -/
def call (s : Session) (handle operation : String) (params : Json) (reply : Reply)
    (classes : List (String × String)) : Outcome :=
  s.withValue (held s.clients handle) fun client =>
    let (result, script) := client.call { s.script with replies := [reply] } operation params
    let isA :=
      match result with
      | .error (.service e) => some (s.classAnswers e classes)
      | _ => none
    (.ok (.called result (script.sent.drop s.script.sent.length).head? isA), { s with script })

/-- The service that a look-up of a name on the shelf has found, if it has found one. -/
def shelfResult (name : String) (found : Option Service) : Except StepError Service :=
  (Context.found name found).mapError .failure

/-- Takes a service from the shelf. -/
def removeShelved (s : Session) (name : String) : Outcome :=
  let (removed, shelf) := s.shelf.remove name
  ((shelfResult name removed).map .service, { s with shelf })

/-- Carries out a step. -/
def step (s : Session) : Step → Outcome
  | .makeApi handle document => s.makeApi handle document
  | .add name source handle => s.add name source handle
  | .remove name handle => s.remove name handle
  | .find name handle => s.find name handle
  | .describe handle => ((held s.services handle).map .service, s)
  | .compare a b => s.compare a b
  | .setDefaults value => s.withContext (s.context.setDefaults value) fun _ s => (.ok .done, s)
  | .insertDefault key value => s.editDefault key (Members.insert · key value)
  | .eraseDefault key => s.editDefault key (Members.erase · key)
  | .getDefault key => (.ok (.value (Members.get? s.context.defaults.current key)), s)
  | .clearDefaults => (.ok .done, { s with context := s.context.editDefaults fun _ => ∅ })
  | .exchangeDefaults settings =>
    (.ok .done, { s with context := s.context.withDefaults settings })
  | .changeFiles files => (.ok .done, { s with files })
  | .newClient handle options clientHandle => s.newClient handle options clientHandle
  | .describeClient handle => ((held s.clients handle).map .client, s)
  | .call handle operation params reply classes => s.call handle operation params reply classes
  | .shelve handle =>
    s.withValue (held s.services handle) fun service =>
      (.ok (.shelved (s.shelf.get? service.name.text)), { s with shelf := s.shelf.add service })
  | .findShelved name => ((shelfResult name (s.shelf.get? name)).map .service, s)
  | .removeShelved name => s.removeShelved name
  | .isShelved name => (.ok (.truth (s.shelf.contains name)), s)
  | .shelvedNames => (.ok (.names s.shelf.names), s)

/-- Carries out steps, one after the other. -/
def run (s : Session) (l : List Step) : Session :=
  l.foldl (fun s t => (s.step t).2) s

/-- A session at its start: a context with these defaults and this transport. -/
def start (files : Files) (transport : Transport) (defaults : Settings) : Session where
  files
  context := { defaults := { current := defaults }, transport }

end Session

end ApiClients
