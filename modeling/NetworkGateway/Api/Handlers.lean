import NetworkGateway.Api.Requests
import NetworkGateway.Api.Responses
import NetworkGateway.Dal.FakeInventory

/-! `app/api/routes/management.py`, `device_data.py` and `transactions.py`: the routes, as programs whose
calls on the store may have those of other requests between them. -/

namespace NetworkGateway.Api

open Auth Library.Result Library.Interaction Management Pydantic Store

/-- A store call, or a test of a resolved profile. -/
inductive ServiceCommand : Type → Type where
  | list (resource : String) : ServiceCommand (Except PyError (List Value))
  | get (resource itemId : String) : ServiceCommand (Except PyError Value)
  | save (resource : String) (payload : Value) (itemId : Option String) : ServiceCommand (Except PyError Value)
  | delete (resource itemId : String) : ServiceCommand (Except PyError Unit)
  | resolveConnection (itemId : String) : ServiceCommand (Except PyError Dict)
  | getConfig (name : String) : ServiceCommand (Except PyError Value)
  | saveConfig (name : String) (payload : Value) : ServiceCommand (Except PyError Value)
  | listStaticRoutes (connectionId : String) : ServiceCommand (Except PyError (List StaticRouteRow))
  | createStaticRouteAudited (connectionId : String) (payload audit : Value) :
      ServiceCommand (Except PyError StaticRouteRow)
  | updateStaticRouteAudited (connectionId routeId : String) (payload audit : Value) :
      ServiceCommand (Except PyError StaticRouteRow)
  | deleteStaticRouteAudited (connectionId routeId : String) (audit : Value) : ServiceCommand (Except PyError Unit)
  | appendTransaction (payload : Value) : ServiceCommand (Except PyError TransactionRow)
  | listTransactions (filters limit offset : Value) : ServiceCommand (Except PyError Page)
  | getJob (jobId : String) : ServiceCommand (Except PyError PublicJob)
  | test (profile : Dict) : ServiceCommand Batches.Answer

/-- A route's function: its calls, and what it returns or raises. -/
abbrev Handler := Program ServiceCommand RouteError

inductive Content where
  | json (body : Value)
  | file (exported : Batches.Export)
  | empty
  deriving DecidableEq

structure Response where
  statusCode : Nat
  content : Content
  /-- `X-Correlation-ID`. -/
  correlationId : Option String
  deriving DecidableEq

namespace Handler

def storeCall {α : Type} (command : ServiceCommand (Except PyError α)) : Handler α := do
  let outcome ← Program.ask command
  Program.lift (serviceCall outcome)

def management {α : Type} (outcome : Except ManagementError α) : Handler α :=
  Program.lift (outcome.mapError .management)

end Handler

/-! The routes. -/

/-- `list_connections`, `list_proxies` and `list_roles`. -/
def listResource (resource : Resource) : Handler Response := do
  let items ← Handler.storeCall (.list (resourceName resource))
  let body ← Program.lift (collection resource items)
  return ⟨200, .json body, none⟩

/-- `get_connection`, `get_proxy` and `get_role`. -/
def getResource (resource : Resource) (itemId : String) : Handler Response := do
  let view ← Handler.storeCall (.get (resourceName resource) itemId)
  let body ← Program.lift (modelled (responseModel (resourceFields resource)) view)
  return ⟨200, .json body, none⟩

/-- `create_connection` and `update_connection`, and those of proxies and roles. -/
def saveResource (statusCode : Nat) (resource : Resource) (payload : Value) (itemId : Option String) :
    Handler Response := do
  let view ← Handler.storeCall (.save (resourceName resource) payload itemId)
  let body ← Program.lift (modelled (responseModel (resourceFields resource)) view)
  return ⟨statusCode, .json body, none⟩

/-- `delete_connection`, `delete_proxy` and `delete_role`. -/
def deleteResource (resource : Resource) (itemId : String) : Handler Response := do
  Handler.storeCall (.delete (resourceName resource) itemId)
  return ⟨204, .empty, none⟩

def getBatch (jobId : String) : Handler Response := do
  let job ← Handler.storeCall (.getJob jobId)
  let body ← Program.lift (modelled publicJobModel (.dict (jobEntries job)))
  return ⟨200, .json body, none⟩

section

variable {Token : Type} (app : Application Token)

def testConnection (itemId : String) : Handler Response := do
  let profile ← Handler.storeCall (.resolveConnection itemId)
  Handler.management (checkTestProvider app.provider profile)
  let answer ← Program.ask (.test profile)
  let result ← Handler.management (Batches.testProfile app.service profile answer)
  let body ← Program.lift (modelled (responseModel testResultFields) (.dict result))
  return ⟨200, .json body, none⟩

/-- What `export` makes of a finished job. -/
def exported (format : String) (job : PublicJob) : Except Batches.ExportError Batches.Export := do
  raiseWhen (job.status != .completed && job.status != .failed) (.management ⟨"The batch has not finished.", 409⟩)
  let results ← each (fun result => each (Batches.exportEntry (Batches.resultColumns result)) Batches.exportFields) job.results
  let filename := "connection-tests-" ++ Batches.safeId job.id ++ "." ++ format
  if format = "json" then
    match app.dumps (.dict (Batches.exportedJob job results)) with
    | some text => return ⟨text, "application/json", filename⟩
    | none => throw .value
  else
    let rows := results.map
      (fun result => Batches.exportFields.map (fun field => Batches.spreadsheetCell app.platform (Dict.get result field)))
    return ⟨Batches.csvText (Batches.exportFields :: rows), "text/csv", filename⟩

/-- An exception that is no `ManagementError` is answered by the server. -/
def exportRefusal : Batches.ExportError → RouteError
  | .management error => .management error
  | .key | .value => .http 500 "Internal Server Error"

def exportBatch (jobId format : String) : Handler Response := do
  Handler.management (raiseWhen (format != "csv" && format != "json") ⟨"Choose CSV or JSON export.", 422⟩)
  let job ← Handler.storeCall (.getJob jobId)
  let file ← Program.lift ((exported app format job).mapError exportRefusal)
  return ⟨200, .file file, none⟩

def settingsName (name : String) : Handler ConfigName :=
  Program.lift ((configName name).mapError (fun _ => invalidRequest))

/-- The route of `get_settings`. -/
def readSettings (name : String) : Handler Response := do
  let name ← settingsName name
  let payload ← Handler.storeCall (.getConfig name.text)
  let settings ← Program.lift (publicSettings app.platform name payload)
  return ⟨200, .json settings, none⟩

/-- The route of `update_settings`. -/
def writeSettings (name : String) (payload : Value) : Handler Response := do
  let name ← settingsName name
  let validated ← Program.lift ((settingsModel app.platform name payload).mapError
    (fun _ => .http 422 "Invalid settings fields for the selected configuration."))
  let saved ← Handler.storeCall (.saveConfig name.text validated)
  let settings ← Program.lift (publicSettings app.platform name saved)
  return ⟨200, .json settings, none⟩

/-- `_client` of the device data service. -/
def deviceClient (connectionId : String) : Handler Unit := do
  Handler.management (raiseWhen (app.provider != "fake") ⟨"Simulated device access is disabled.", 503⟩)
  let view ← Handler.storeCall (.get "connections" connectionId)
  Handler.management (raiseWhen (Dict.getOr (entriesOf view) "client_type" (.str "network") != .str "fake")
    ⟨"Device data is unsupported for network profiles.", 501⟩)

/-- `_profile` of the simulated device, inside `store_call`. -/
def devicePath (connectionId : String) : Handler Dict := do
  let profile ← Handler.storeCall (.resolveConnection connectionId)
  Program.lift (serviceCall (FakeClient.validateFakePath profile))
  return profile

def getInventory (connectionId : String) : Handler Response := do
  deviceClient app connectionId
  let profile ← devicePath connectionId
  let inventory ← Program.lift (serviceCall (FakeClient.readInventory profile))
  let body ← Program.lift (modelled deviceInventory inventory)
  return ⟨200, .json body, none⟩

/-- `list_static_routes`. -/
def listRoutes (connectionId : String) : Handler Response := do
  deviceClient app connectionId
  let _ ← devicePath connectionId
  let rows ← Handler.storeCall (.listStaticRoutes connectionId)
  let body ← Program.lift (routeCollection app.platform rows)
  return ⟨200, .json body, none⟩

/-- The client's call for a change; a deletion returns no row. -/
def mutateRoute (connectionId : String) (audit : Dict) (change : DeviceData.Change) : Handler (Option StaticRouteRow) := do
  let audit := DeviceData.withDetail audit change.detail
  match change with
  | .create payload =>
      let row ← Handler.storeCall (.createStaticRouteAudited connectionId payload audit)
      return some row
  | .update routeId payload =>
      let row ← Handler.storeCall (.updateStaticRouteAudited connectionId routeId payload audit)
      return some row
  | .delete routeId =>
      Handler.storeCall (.deleteStaticRouteAudited connectionId routeId audit)
      return none

/-- `_record_failure`, and the error again. -/
def recordAttempt (connectionId : String) (audit : Dict) (change : DeviceData.Change) :
    RouteError → Handler (Option StaticRouteRow)
  | .management error => do
      let _ ← Program.ask (.appendTransaction
        (.dict (DeviceData.failurePayload audit change.resourceId connectionId error.message)))
      Program.raise (.management error)
  | error => Program.raise error

/-- `create_static_route`, `update_static_route` and `delete_static_route` of the service. -/
def changeRoute (attempt : DeviceData.Attempt) (connectionId : String) (change : DeviceData.Change) :
    Handler (Option StaticRouteRow) :=
  let audit := DeviceData.auditContext attempt change.action
  Program.catching (do
      deviceClient app connectionId
      let _ ← devicePath connectionId
      mutateRoute connectionId audit change)
    (recordAttempt connectionId audit change)

def routeContent : Option StaticRouteRow → Except RouteError Content
  | some row => do
      let body ← routeItem app.platform row
      return .json body
  | none => .ok .empty

/-- `create_static_route`, `update_static_route` and `delete_static_route`. -/
def routeChange (statusCode : Nat) (attempt : DeviceData.Attempt) (connectionId : String)
    (change : DeviceData.Change) : Handler Response := do
  let row ← changeRoute app attempt connectionId change
  let content ← Program.lift (routeContent app row)
  return ⟨statusCode, content, some attempt.correlationId⟩

instance (query : Transactions.Query) : Decidable query.Accepted :=
  decidable_of_iff
    (((∀ value ∈ query.connectionId, value.length ≤ 128) ∧ (∀ value ∈ query.action, value.length ≤ 128)) ∧
      ((∀ value ∈ query.actorSubject, value.length ≤ 255) ∧
        (∀ value ∈ query.outcome, value = "succeeded" ∨ value = "failed")) ∧
      ((∀ value ∈ query.fromTime, value.length ≤ 64) ∧ (∀ value ∈ query.toTime, value.length ≤ 64)) ∧
      (1 ≤ query.limit ∧ query.limit ≤ 200) ∧ 0 ≤ query.offset)
    ⟨fun ⟨⟨a, b⟩, ⟨c, d⟩, ⟨e, f⟩, g, h⟩ => ⟨a, b, c, d, e, f, g, h⟩,
      fun accepted => ⟨⟨accepted.connectionId, accepted.action⟩, ⟨accepted.actorSubject, accepted.outcome⟩,
        ⟨accepted.fromTime, accepted.toTime⟩, accepted.limit, accepted.offset⟩⟩

def listTransactions (query : Transactions.Query) : Handler Response := do
  Program.lift (raiseWhen (!decide query.Accepted) invalidRequest)
  let page ← Handler.storeCall (.listTransactions (.dict query.filters) (.int query.limit) (.int query.offset))
  let body ← Program.lift (transactionCollection page)
  return ⟨200, .json body, none⟩

/-- The route of a request from `user`, with its validated body and the number `uuid4` draws. Starting a
batch is left to the batch service. -/
def handler (request : HttpRequest) (user : AuthenticatedUser) (uuid4 : Nat) (payload : Value) : Handler Response :=
  let attempt : DeviceData.Attempt :=
    ⟨user, resolveCorrelationId request.correlationId uuid4, request.endpoint.method, request.path⟩
  match request.endpoint with
  | .list resource => listResource resource
  | .get resource itemId => getResource resource itemId
  | .create resource => saveResource 201 resource payload none
  | .update resource itemId => saveResource 200 resource payload (some itemId)
  | .delete resource itemId => deleteResource resource itemId
  | .testConnection itemId => testConnection app itemId
  | .createBatch => Program.raise invalidRequest
  | .getBatch jobId => getBatch jobId
  | .exportBatch jobId format => exportBatch app jobId format
  | .getSettings name => readSettings app name
  | .updateSettings name => writeSettings app name payload
  | .getInventory connectionId => getInventory app connectionId
  | .listStaticRoutes connectionId => listRoutes app connectionId
  | .createStaticRoute connectionId => routeChange app 201 attempt connectionId (.create payload)
  | .updateStaticRoute connectionId routeId => routeChange app 200 attempt connectionId (.update routeId payload)
  | .deleteStaticRoute connectionId routeId => routeChange app 204 attempt connectionId (.delete routeId)
  | .listTransactions query => listTransactions query

end

end NetworkGateway.Api
