import NetworkGateway.Api.Handlers
import NetworkGateway.Library.Interleaving

/-! The running application: requests whose routes take turns on the store, the batch service behind
them, and restarts of the process. -/

namespace NetworkGateway.Api

open Auth Library Library.Result Library.Interaction Management Store

section

variable {Token : Type} (app : Application Token)

/-- A service call, unless the database cannot be reached. -/
def performCall : Interleaving.Semantics ServiceCommand Batches.Input (Db Token)
  | _, .list resource, input, db => Batches.reach input.available db (Store.list app.platform app.store db resource, db)
  | _, .get resource itemId, input, db =>
      Batches.reach input.available db (Store.get app.platform app.store db resource itemId, db)
  | _, .save resource payload itemId, input, db =>
      Batches.reach input.available db (Store.save app.platform app.store db input.fresh resource payload itemId)
  | _, .delete resource itemId, input, db => Batches.reach input.available db (Store.delete app.store db resource itemId)
  | _, .resolveConnection itemId, input, db =>
      Batches.reach input.available db (Store.resolve app.platform app.store db itemId, db)
  | _, .getConfig name, input, db =>
      Batches.reach input.available db (Store.getConfig app.platform app.store db name, db)
  | _, .saveConfig name payload, input, db =>
      Batches.reach input.available db (Store.saveConfig app.platform app.store db name payload)
  | _, .listStaticRoutes connectionId, input, db =>
      Batches.reach input.available db (transaction app.store db
        (Store.listStaticRoutes app.platform app.store db input.fresh connectionId))
  | _, .createStaticRouteAudited connectionId payload audit, input, db =>
      Batches.reach input.available db
        (Store.createStaticRouteAudited app.platform app.store db input.fresh connectionId payload audit)
  | _, .updateStaticRouteAudited connectionId routeId payload audit, input, db =>
      Batches.reach input.available db
        (Store.updateStaticRouteAudited app.platform app.store db input.fresh connectionId routeId payload audit)
  | _, .deleteStaticRouteAudited connectionId routeId audit, input, db =>
      Batches.reach input.available db
        (Store.deleteStaticRouteAudited app.platform app.store db input.fresh connectionId routeId audit)
  | _, .appendTransaction payload, input, db =>
      Batches.reach input.available db (Store.appendTransaction app.store db input.fresh payload)
  | _, .listTransactions filters limit offset, input, db =>
      Batches.reach input.available db (Store.listTransactions app.backend app.store db filters limit offset, db)
  | _, .getJob jobId, input, db => Batches.reach input.available db (Store.getJob app.store db jobId, db)
  | _, .test _, input, db => (input.answer, db)

/-- A request that arrives, and how `require_role` ended for it. -/
structure Arrival where
  request : HttpRequest
  now : Rat
  events : List (Event AuthCommand)
  outcome : Except AuthError AuthenticatedUser
  authenticated : Program.Runs (requireRole app.auth app.settings request.endpoint.requiredRole
    (authRequest app request) now) events outcome
  /-- The number `uuid4` draws. -/
  uuid4 : Nat
  /-- The database can be reached. -/
  available : Bool

/-- A request whose route runs, with its user and its validated body. -/
structure Admitted where
  arrival : Arrival app
  user : AuthenticatedUser
  payload : Value

inductive Task where
  | route (program : Handler Response)
  /-- `BatchService.start`, which waits for the lock. -/
  | batch (ids : List String)

def Admitted.task (admitted : Admitted app) : Task :=
  match admitted.arrival.request.endpoint with
  | .createBatch => .batch (connectionIds (entriesOf admitted.payload))
  | _ => .route (handler app admitted.arrival.request admitted.user admitted.arrival.uuid4 admitted.payload)

structure State where
  /-- The batch service, and the database under it. -/
  batches : Batches.State Token
  /-- `get_store` has opened the store. -/
  opened : Bool
  /-- Every request that was admitted so far. -/
  admitted : List (Admitted app)
  /-- The requests that run, by their place among the admitted ones. -/
  running : List (Nat × Task)
  /-- How admitted requests were answered, by their place too. -/
  answers : List (Nat × Except RouteError Response)
  /-- The requests that were answered without being admitted. -/
  refusals : List (HttpRequest × RouteError)

variable {app}

def State.db (s : State app) : Db Token := s.batches.db

def State.start (db : Db Token) : State app := ⟨.start db, false, [], [], [], []⟩

def State.refuses (s : State app) (request : HttpRequest) (error : RouteError) : State app :=
  { s with refusals := s.refusals ++ [(request, error)] }

/-- `get_store`. -/
def State.opens (s : State app) (available : Bool) : State app :=
  if s.opened then s
  else match Batches.reach available s.db (openStore app.platform s.db app.key) with
    | (.ok _, db) => { s with batches := .start db, opened := true }
    | (.error _, db) => { s with batches := { s.batches with db } }

def Arrival.checked (arrival : Arrival app) : Except RouteError (AuthenticatedUser × Value) := do
  checkBrowserMutation app arrival.request
  let body ← parsedBody app arrival.request
  let user ← arrival.outcome.mapError authRefusal
  return (user, body)

def State.admits (s : State app) (arrival : Arrival app) (user : AuthenticatedUser) (payload : Value) : State app :=
  let admitted : Admitted app := ⟨arrival, user, payload⟩
  { s with admitted := s.admitted ++ [admitted], running := s.running ++ [(s.admitted.length, admitted.task)] }

def State.arrives (s : State app) (arrival : Arrival app) : State app :=
  match arrival.checked with
  | .error error => s.refuses arrival.request error
  | .ok (user, body) =>
      let s := s.opens arrival.available
      if s.opened then
        match bodyOf app arrival.request.endpoint body with
        | .ok payload => s.admits arrival user payload
        | .error error => s.refuses arrival.request error
      else s.refuses arrival.request (.management ⟨"Management storage is unavailable.", 503⟩)

def State.turn (s : State app) (place id : Nat) (input : Batches.Input) : Task → State app
  | .route (.done outcome) =>
      { s with running := s.running.eraseIdx place, answers := s.answers ++ [(id, outcome)] }
  | .route program =>
      let next := Interleaving.advance (performCall app) input s.db program
      { s with batches := { s.batches with db := next.2 }, running := s.running.set place (id, .route next.1) }
  | .batch ids =>
      if s.batches.holder = .free then
        { s with batches := s.batches.starts ids, running := s.running.eraseIdx place }
      else s

def State.advances (s : State app) (place : Nat) (input : Batches.Input) : State app :=
  match s.running[place]? with
  | some (id, task) => s.turn place id input task
  | none => s

/-- The steps of the batch service that no request of the list takes. -/
def ownAction : Batches.Action → Bool
  | .advance _ | .work _ | .shutdown => true
  | .request _ | .start _ => false

variable (app)

inductive Step where
  | arrive (arrival : Arrival app)
  | advance (place : Nat) (input : Batches.Input)
  | batches (action : Batches.Action)
  /-- The process ends, wherever its threads are, and is started again. -/
  | restart

def step : Step app → State app → State app
  | .arrive arrival, s => s.arrives arrival
  | .advance place input, s => s.advances place input
  | .batches action, s =>
      if s.opened && ownAction action then { s with batches := Batches.step app.service action s.batches } else s
  | .restart, s => { s with batches := .start s.db, opened := false, running := [] }

end

end NetworkGateway.Api
