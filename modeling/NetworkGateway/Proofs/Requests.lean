import NetworkGateway.Api.Server
import NetworkGateway.Proofs.BatchEffects

/-! What the route of a request may write, whatever other requests do between its calls. -/

namespace NetworkGateway.Api

open Auth Library.Result Library.Interaction Management Pydantic Store

def ServiceCommand.writes : {β : Type} → ServiceCommand β → Option Op
  | _, .save resource payload itemId => some (.save resource payload itemId)
  | _, .delete resource itemId => some (.delete resource itemId)
  | _, .saveConfig name payload => some (.saveConfig name payload)
  | _, .listStaticRoutes connectionId => some (.listStaticRoutes connectionId)
  | _, .createStaticRouteAudited connectionId payload audit => some (.createStaticRouteAudited connectionId payload audit)
  | _, .updateStaticRouteAudited connectionId routeId payload audit =>
      some (.updateStaticRouteAudited connectionId routeId payload audit)
  | _, .deleteStaticRouteAudited connectionId routeId audit => some (.deleteStaticRouteAudited connectionId routeId audit)
  | _, .appendTransaction payload => some (.appendTransaction payload)
  | _, _ => none

section

variable {Token : Type} {app : Application Token}

theorem performCall_writes {β : Type} (command : ServiceCommand β) (input : Batches.Input) (db : Db Token) :
    (performCall app β command input db).2 = db ∨ ∃ op, command.writes = some op ∧
      (performCall app β command input db).2 = after app.platform ⟨app.store, input.fresh, op⟩ db := by
  cases command with
  | save | delete | saveConfig | listStaticRoutes | createStaticRouteAudited | updateStaticRouteAudited
  | deleteStaticRouteAudited | appendTransaction =>
      rcases Batches.reach_writes input.available db _ with same | written
      · exact .inl same
      · exact .inr ⟨_, rfl, written⟩
  | list | get | resolveConnection | getConfig | listTransactions | getJob =>
      exact .inl (Batches.reach_reads input.available db _)
  | test => exact .inl rfl

/-! The writes of each route. -/

def Admitted.attempt (admitted : Admitted app) : DeviceData.Attempt :=
  ⟨admitted.user, resolveCorrelationId admitted.arrival.request.correlationId admitted.arrival.uuid4,
    admitted.arrival.request.endpoint.method, admitted.arrival.request.path⟩

def Admitted.change (admitted : Admitted app) : Option (String × DeviceData.Change) :=
  match admitted.arrival.request.endpoint with
  | .createStaticRoute connectionId => some (connectionId, .create admitted.payload)
  | .updateStaticRoute connectionId routeId => some (connectionId, .update routeId admitted.payload)
  | .deleteStaticRoute connectionId routeId => some (connectionId, .delete routeId)
  | _ => none

def changeOp (connectionId : String) (audit : Value) : DeviceData.Change → Op
  | .create payload => .createStaticRouteAudited connectionId payload audit
  | .update routeId payload => .updateStaticRouteAudited connectionId routeId payload audit
  | .delete routeId => .deleteStaticRouteAudited connectionId routeId audit

/-- The store calls an admitted request may write with. -/
inductive Permits (admitted : Admitted app) : Op → Prop where
  | create {resource : Resource} (endpoint : admitted.arrival.request.endpoint = .create resource) :
      Permits admitted (.save (resourceName resource) admitted.payload none)
  | update {resource : Resource} {itemId : String} (endpoint : admitted.arrival.request.endpoint = .update resource itemId) :
      Permits admitted (.save (resourceName resource) admitted.payload (some itemId))
  | delete {resource : Resource} {itemId : String} (endpoint : admitted.arrival.request.endpoint = .delete resource itemId) :
      Permits admitted (.delete (resourceName resource) itemId)
  | settings {name : String} {known : ConfigName} {validated : Value}
      (endpoint : admitted.arrival.request.endpoint = .updateSettings name) (named : configName name = .ok known)
      (accepted : settingsModel app.platform known admitted.payload = .ok validated) :
      Permits admitted (.saveConfig known.text validated)
  | seeds {connectionId : String} (endpoint : admitted.arrival.request.endpoint = .listStaticRoutes connectionId) :
      Permits admitted (.listStaticRoutes connectionId)
  | changes {connectionId : String} {change : DeviceData.Change} (asked : admitted.change = some (connectionId, change)) :
      Permits admitted (changeOp connectionId
        (DeviceData.withDetail (DeviceData.auditContext admitted.attempt change.action) change.detail) change)
  | starts (endpoint : admitted.arrival.request.endpoint = .createBatch) :
      Permits admitted (.createJob (.list ((connectionIds (entriesOf admitted.payload)).map .str)))
  | records {connectionId : String} {change : DeviceData.Change} (detail : String)
      (asked : admitted.change = some (connectionId, change)) :
      Permits admitted (.appendTransaction (.dict (DeviceData.failurePayload
        (DeviceData.auditContext admitted.attempt change.action) change.resourceId connectionId detail)))

def Within (permits : Op → Prop) (β : Type) (command : ServiceCommand β) : Prop :=
  ∀ op, command.writes = some op → permits op

section Handlers

variable {permits : Op → Prop}

theorem within_reads {β : Type} {command : ServiceCommand β} (reads : command.writes = none) :
    Within permits β command := by
  intro op writes
  rw [reads] at writes
  cases writes

theorem within_writes {β : Type} {command : ServiceCommand β} {op : Op} (writes : command.writes = some op)
    (permitted : permits op) : Within permits β command := by
  intro other same
  rw [writes] at same
  cases same
  exact permitted

theorem storeCall_confined {α : Type} {command : ServiceCommand (Except PyError α)}
    (within : Within permits _ command) : (Handler.storeCall command).Confined (Within permits) :=
  (Program.Confined.ask within).bind fun _ => .lift _

theorem management_confined {α : Type} (outcome : Except ManagementError α) :
    (Handler.management outcome).Confined (Within permits) :=
  .lift _

theorem answer_confined {α : Type} (outcome : Except RouteError α) (response : α → Response) :
    (do let body ← Program.lift outcome
        return response body : Handler Response).Confined (Within permits) :=
  (Program.Confined.lift _).bind fun _ => .pure _

theorem listResource_confined (resource : Resource) : (listResource resource).Confined (Within permits) :=
  (storeCall_confined (within_reads rfl)).bind fun _ => answer_confined _ _

theorem getResource_confined (resource : Resource) (itemId : String) :
    (getResource resource itemId).Confined (Within permits) :=
  (storeCall_confined (within_reads rfl)).bind fun _ => answer_confined _ _

theorem saveResource_confined {statusCode : Nat} {resource : Resource} {payload : Value} {itemId : Option String}
    (permitted : permits (.save (resourceName resource) payload itemId)) :
    (saveResource statusCode resource payload itemId).Confined (Within permits) :=
  (storeCall_confined (within_writes rfl permitted)).bind fun _ => answer_confined _ _

theorem deleteResource_confined {resource : Resource} {itemId : String}
    (permitted : permits (.delete (resourceName resource) itemId)) :
    (deleteResource resource itemId).Confined (Within permits) :=
  (storeCall_confined (within_writes rfl permitted)).bind fun _ => .pure _

theorem getBatch_confined (jobId : String) : (getBatch jobId).Confined (Within permits) :=
  (storeCall_confined (within_reads rfl)).bind fun _ => answer_confined _ _

theorem testConnection_confined (itemId : String) : (testConnection app itemId).Confined (Within permits) :=
  (storeCall_confined (within_reads rfl)).bind fun _ => (management_confined _).bind fun _ =>
    (Program.Confined.ask (within_reads rfl)).bind fun _ => (management_confined _).bind fun _ => answer_confined _ _

theorem exportBatch_confined (jobId format : String) : (exportBatch app jobId format).Confined (Within permits) :=
  (management_confined _).bind fun _ => (storeCall_confined (within_reads rfl)).bind fun _ => answer_confined _ _

theorem readSettings_confined (name : String) : (readSettings app name).Confined (Within permits) :=
  (Program.Confined.lift _).bind fun _ => (storeCall_confined (within_reads rfl)).bind fun _ => answer_confined _ _

theorem mapError_ok {ε η α : Type} {outcome : Except ε α} {f : ε → η} {a : α} :
    outcome.mapError f = .ok a ↔ outcome = .ok a := by
  cases outcome <;> simp [Except.mapError]

theorem writeSettings_confined {name : String} {payload : Value}
    (permitted : ∀ known validated, configName name = .ok known →
      settingsModel app.platform known payload = .ok validated → permits (.saveConfig known.text validated)) :
    (writeSettings app name payload).Confined (Within permits) := by
  apply Program.Confined.lift_bind
  intro known named
  apply Program.Confined.lift_bind
  intro validated accepted
  exact (storeCall_confined (within_writes rfl
    (permitted known validated (mapError_ok.mp named) (mapError_ok.mp accepted)))).bind fun _ => answer_confined _ _

theorem deviceClient_confined (connectionId : String) : (deviceClient app connectionId).Confined (Within permits) :=
  (management_confined _).bind fun _ => (storeCall_confined (within_reads rfl)).bind fun _ => management_confined _

theorem devicePath_confined (connectionId : String) : (devicePath connectionId).Confined (Within permits) :=
  (storeCall_confined (within_reads rfl)).bind fun _ => (Program.Confined.lift _).bind fun _ => .pure _

theorem getInventory_confined (connectionId : String) : (getInventory app connectionId).Confined (Within permits) :=
  (deviceClient_confined connectionId).bind fun _ => (devicePath_confined connectionId).bind fun _ =>
    (Program.Confined.lift _).bind fun _ => answer_confined _ _

theorem listRoutes_confined {connectionId : String} (permitted : permits (.listStaticRoutes connectionId)) :
    (listRoutes app connectionId).Confined (Within permits) :=
  (deviceClient_confined connectionId).bind fun _ => (devicePath_confined connectionId).bind fun _ =>
    (storeCall_confined (within_writes rfl permitted)).bind fun _ => answer_confined _ _

theorem mutateRoute_confined {connectionId : String} {audit : Dict} {change : DeviceData.Change}
    (permitted : permits (changeOp connectionId (DeviceData.withDetail audit change.detail) change)) :
    (mutateRoute connectionId audit change).Confined (Within permits) := by
  cases change with
  | create payload => exact (storeCall_confined (within_writes rfl permitted)).bind fun _ => .pure _
  | update routeId payload => exact (storeCall_confined (within_writes rfl permitted)).bind fun _ => .pure _
  | delete routeId => exact (storeCall_confined (within_writes rfl permitted)).bind fun _ => .pure _

theorem recordAttempt_confined {connectionId : String} {audit : Dict} {change : DeviceData.Change}
    (permitted : ∀ detail, permits (.appendTransaction
      (.dict (DeviceData.failurePayload audit change.resourceId connectionId detail)))) (error : RouteError) :
    (recordAttempt connectionId audit change error).Confined (Within permits) := by
  cases error with
  | management error =>
      exact (Program.Confined.ask (within_writes rfl (permitted error.message))).bind fun _ => .raise _
  | http statusCode detail => exact .raise _

theorem routeChange_confined {statusCode : Nat} {attempt : DeviceData.Attempt} {connectionId : String}
    {change : DeviceData.Change}
    (changes : permits (changeOp connectionId
      (DeviceData.withDetail (DeviceData.auditContext attempt change.action) change.detail) change))
    (records : ∀ detail, permits (.appendTransaction (.dict (DeviceData.failurePayload
      (DeviceData.auditContext attempt change.action) change.resourceId connectionId detail)))) :
    (routeChange app statusCode attempt connectionId change).Confined (Within permits) := by
  apply Program.Confined.bind
  · apply Program.Confined.catching
    · exact (deviceClient_confined connectionId).bind fun _ => (devicePath_confined connectionId).bind fun _ =>
        mutateRoute_confined changes
    · exact recordAttempt_confined records
  · exact fun _ => answer_confined _ _

theorem listTransactions_confined (query : Transactions.Query) :
    (listTransactions query).Confined (Within permits) :=
  (Program.Confined.lift _).bind fun _ => (storeCall_confined (within_reads rfl)).bind fun _ => answer_confined _ _

end Handlers

/-- The route of an admitted request writes only what the request permits. -/
theorem handler_confined (admitted : Admitted app) :
    (handler app admitted.arrival.request admitted.user admitted.arrival.uuid4 admitted.payload).Confined
      (Within (Permits admitted)) := by
  unfold handler
  have changes : ∀ statusCode {connectionId : String} {change : DeviceData.Change},
      admitted.change = some (connectionId, change) →
        (routeChange app statusCode admitted.attempt connectionId change).Confined (Within (Permits admitted)) :=
    fun _ _ _ asked => routeChange_confined (.changes asked) (fun detail => .records detail asked)
  cases endpoint : admitted.arrival.request.endpoint with
  | list resource => exact listResource_confined resource
  | get resource itemId => exact getResource_confined resource itemId
  | create resource => exact saveResource_confined (.create endpoint)
  | update resource itemId => exact saveResource_confined (.update endpoint)
  | delete resource itemId => exact deleteResource_confined (.delete endpoint)
  | testConnection itemId => exact testConnection_confined itemId
  | createBatch => exact .raise _
  | getBatch jobId => exact getBatch_confined jobId
  | exportBatch jobId format => exact exportBatch_confined jobId format
  | getSettings name => exact readSettings_confined name
  | updateSettings name => exact writeSettings_confined fun _ _ named accepted => .settings endpoint named accepted
  | getInventory connectionId => exact getInventory_confined connectionId
  | listStaticRoutes connectionId => exact listRoutes_confined (.seeds endpoint)
  | createStaticRoute connectionId =>
      have asked : admitted.change = some (connectionId, .create admitted.payload) := by
        rw [Admitted.change, endpoint]
      simpa only [Admitted.attempt, endpoint] using changes 201 asked
  | updateStaticRoute connectionId routeId =>
      have asked : admitted.change = some (connectionId, .update routeId admitted.payload) := by
        rw [Admitted.change, endpoint]
      simpa only [Admitted.attempt, endpoint] using changes 200 asked
  | deleteStaticRoute connectionId routeId =>
      have asked : admitted.change = some (connectionId, .delete routeId) := by
        rw [Admitted.change, endpoint]
      simpa only [Admitted.attempt, endpoint] using changes 204 asked
  | listTransactions query => exact listTransactions_confined query

end

end NetworkGateway.Api
