import NetworkGateway.Api.PublicProfiles
import NetworkGateway.Api.StaticRoutes
import NetworkGateway.Bl.Batches
import NetworkGateway.Dal.TransactionLog

/-! `app/api/schemas/management.py`, `device_data.py` and `transactions.py`: what the routes answer with. -/

namespace NetworkGateway.Api

open Library.Result Pydantic Store

/-- The fields of `PublicRoleAccount`. -/
def roleAccountFields : List Field :=
  [⟨"id", laxString, none⟩, ⟨"name", laxString, none⟩, ⟨"username", laxString, none⟩,
   ⟨"authentication_type", literal ["password", "ssh_key"], none⟩,
   ⟨"password_configured", boolean, some (.bool false)⟩, ⟨"private_key_configured", boolean, some (.bool false)⟩]

def resourceFields : Store.Resource → List Field
  | .roleAccounts => roleAccountFields
  | .proxies => proxyFields
  | .connections => connectionFields

def modelled (schema : Schema) (value : Value) : Except RouteError Value :=
  match schema value with
  | .ok body => .ok body
  | .error _ => .error (.http 500 "Invalid management response.")

/-- `ConnectionCollection`, `ProxyCollection` and `RoleAccountCollection`. -/
def collection (resource : Resource) (items : List Value) : Except RouteError Value := do
  let bodies ← each (modelled (responseModel (resourceFields resource))) items
  return .dict [("items", .list bodies)]

/-- `float` outside strict mode, with `ge=0` and `allow_inf_nan=False`. -/
def durationModel : Schema
  | .int n => if 0 ≤ n then .ok (.float (.finite n)) else .error .invalid
  | .float (.finite q) => if 0 ≤ q then .ok (.float (.finite q)) else .error .invalid
  | _ => .error .invalid

/-- `TestResult`. -/
def testResultFields : List Field :=
  [⟨"success", boolean, none⟩, ⟨"simulated", boolean, some (.bool false)⟩, ⟨"stage", laxString, none⟩,
   ⟨"detail", laxString, none⟩, ⟨"duration_ms", durationModel, none⟩]

/-- `BatchResult`. -/
def batchResultFields : List Field :=
  testResultFields ++
    [⟨"connection_id", laxString, none⟩, ⟨"name", laxString, none⟩,
     ⟨"protocol", literal ["ssh", "netconf", "telnet"], none⟩, ⟨"host", laxString, none⟩, ⟨"port", laxInteger, none⟩,
     ⟨"connector_type", literal connectorTypes, none⟩]

/-- `get_job` as a `dict`. -/
def jobEntries (job : PublicJob) : Dict :=
  [("id", .str job.id), ("status", .str job.status.text), ("total", .int job.total),
   ("completed", .int job.completed), ("results", .list (job.results.map (fun result => .dict (Batches.resultColumns result)))),
   ("error", .ofOption job.error)]

/-- `list[schema]`. -/
def listOf (schema : Schema) : Schema
  | .list items => do
      let bodies ← each schema items
      return .list bodies
  | _ => .error .invalid

/-- `int` with `ge=0`. -/
def countModel : Schema
  | .int n => if 0 ≤ n then .ok (.int n) else .error .invalid
  | _ => .error .invalid

def literalTrue : Schema
  | .bool true => .ok (.bool true)
  | _ => .error .invalid

def texts (names : List String) : List Field := names.map (fun name => ⟨name, laxString, none⟩)
def numbers (names : List String) : List Field := names.map (fun name => ⟨name, laxInteger, none⟩)
def counts (names : List String) : List Field := names.map (fun name => ⟨name, countModel, none⟩)

def deviceIdentity : Schema :=
  responseModel (texts ["id", "name"] ++ [⟨"protocol", literal ["ssh", "netconf", "telnet"], none⟩] ++
    texts ["host"] ++ numbers ["port"])

def deviceAccess : Schema :=
  responseModel (texts ["role_account_id", "proxy_id", "proxy_role_account_id"] ++
    [⟨"connector_type", literal connectorTypes, none⟩])

def systemInventory : Schema :=
  responseModel (texts ["hostname", "model", "software_version", "serial_number"] ++ counts ["uptime_seconds"])

def interfaceInventory : Schema :=
  responseModel (texts ["name", "description", "admin_status", "oper_status"] ++ numbers ["mtu"] ++
    texts ["mac_address"] ++ [⟨"addresses", listOf laxString, none⟩] ++ counts ["rx_bytes", "tx_bytes"])

/-- `BGPInventory`, with `BGPNeighbor`. -/
def bgpInventory : Schema :=
  let neighbor := responseModel (texts ["address"] ++ numbers ["remote_asn"] ++ texts ["state"] ++
    counts ["uptime_seconds", "prefixes_received", "prefixes_sent"])
  responseModel (numbers ["local_asn"] ++ texts ["router_id"] ++ [⟨"neighbors", listOf neighbor, none⟩])

/-- `MPLSInventory`, with `MPLSInterface`, `LDPNeighbor` and `LabelSwitchedPath`. -/
def mplsInventory : Schema :=
  let interface := responseModel (texts ["name"] ++ [⟨"enabled", boolean, none⟩])
  let neighbor := responseModel (texts ["router_id", "address", "state"] ++ counts ["uptime_seconds"])
  let path := responseModel (texts ["name", "source", "destination", "state"] ++ numbers ["label"])
  responseModel [⟨"interfaces", listOf interface, none⟩, ⟨"ldp_neighbors", listOf neighbor, none⟩,
    ⟨"lsps", listOf path, none⟩]

def deviceInventory : Schema :=
  responseModel [⟨"provider", literal ["fake"], none⟩, ⟨"simulated", literalTrue, none⟩,
    ⟨"device", deviceIdentity, none⟩, ⟨"access", deviceAccess, none⟩, ⟨"system", systemInventory, none⟩,
    ⟨"interfaces", listOf interfaceInventory, none⟩, ⟨"bgp", bgpInventory, none⟩, ⟨"mpls", mplsInventory, none⟩]

/-- `PublicJob`. -/
def publicJobModel : Schema :=
  responseModel
    [⟨"id", laxString, none⟩, ⟨"status", literal ["queued", "running", "completed", "failed"], none⟩,
     ⟨"total", countModel, none⟩, ⟨"completed", countModel, none⟩,
     ⟨"results", listOf (responseModel batchResultFields), none⟩, ⟨"error", optional laxString, some .none⟩]

section

variable {Token : Type} (P : Platform Token)

/-- `StaticRoute`: a `StaticRouteWrite` with its identifiers, validated again. -/
def staticRouteModel : Schema :=
  model (routeFields ++ [⟨"id", laxString, none⟩, ⟨"connection_id", laxString, none⟩]) (networkFamily P)

/-- The `provider` and `simulated` of a `SimulatedResponse`. -/
def simulated (entries : Dict) : Value :=
  .dict ([("provider", .str "fake"), ("simulated", .bool true)] ++ entries)

/-- `StaticRouteCollection`. -/
def routeCollection (rows : List StaticRouteRow) : Except RouteError Value := do
  let items ← each (fun row => modelled (staticRouteModel P) (.dict row.columns)) rows
  return simulated [("items", .list items)]

/-- `StaticRouteItem`. -/
def routeItem (row : StaticRouteRow) : Except RouteError Value := do
  let item ← modelled (staticRouteModel P) (.dict row.columns)
  return simulated [("item", item)]

end

/-- `dict(row)` of a record. -/
def recordColumns (record : TransactionRow) : Dict :=
  [("id", .str record.id), ("timestamp_utc", .str record.timestampUtc), ("correlation_id", .str record.correlationId),
   ("actor_subject", .str record.actorSubject), ("actor_tenant_id", .ofOption record.actorTenantId),
   ("actor_name", .str record.actorName), ("actor_email", .ofOption record.actorEmail),
   ("actor_roles", .list (record.actorRoles.map .str)), ("auth_mode", .str record.authMode.text),
   ("action", .str record.action), ("resource_type", .str record.resourceType),
   ("resource_id", .ofOption record.resourceId), ("connection_id", .ofOption record.connectionId),
   ("outcome", .str record.outcome.text), ("before_state", record.beforeState), ("after_state", record.afterState),
   ("detail", record.detail), ("request_method", .ofOption record.requestMethod),
   ("request_path", .ofOption record.requestPath)]

/-- `TransactionRecord`. -/
def transactionFields : List Field :=
  [⟨"id", laxString, none⟩, ⟨"timestamp_utc", laxString, none⟩, ⟨"correlation_id", laxString, none⟩,
   ⟨"actor_subject", laxString, none⟩, ⟨"actor_tenant_id", optional laxString, some .none⟩,
   ⟨"actor_name", laxString, none⟩, ⟨"actor_email", optional laxString, some .none⟩,
   ⟨"actor_roles", listOf laxString, none⟩, ⟨"auth_mode", literal ["entra", "demo"], none⟩,
   ⟨"action", laxString, none⟩, ⟨"resource_type", laxString, none⟩,
   ⟨"resource_id", optional laxString, some .none⟩, ⟨"connection_id", optional laxString, some .none⟩,
   ⟨"outcome", literal ["succeeded", "failed"], none⟩, ⟨"before_state", .ok, some .none⟩,
   ⟨"after_state", .ok, some .none⟩, ⟨"detail", optional laxString, some .none⟩,
   ⟨"request_method", optional laxString, some .none⟩, ⟨"request_path", optional laxString, some .none⟩]

def transactionCollection (page : Page) : Except RouteError Value := do
  let items ← each (fun record => modelled (responseModel transactionFields) (.dict (recordColumns record))) page.items
  return .dict [("items", .list items), ("total", .int page.total)]

end NetworkGateway.Api
