import NetworkGateway.Bl.Auth
import NetworkGateway.Bl.Management
import NetworkGateway.Dal.FakeClient

/-! `app/bl/services/device_data.py`: audited static-route changes on simulated devices. -/

namespace NetworkGateway.DeviceData

open Auth Library Library.Result Management

structure Attempt where
  actor : AuthenticatedUser
  correlationId : String
  requestMethod : String
  requestPath : String

def auditContext (attempt : Attempt) (action : String) : Dict :=
  let actor := attempt.actor
  [("correlation_id", .str attempt.correlationId), ("actor_subject", .str actor.subject),
   ("actor_tenant_id", .ofOption actor.tenantId), ("actor_name", .str actor.name),
   ("actor_email", .ofOption actor.email),
   ("actor_roles", .list ((GatewayRole.sorted actor.roles).map (fun role => .str role.text))),
   ("auth_mode", .str actor.authMode.text), ("action", .str action),
   ("request_method", .str attempt.requestMethod), ("request_path", .str attempt.requestPath)]

/-- `{**audit, "detail": ...}`. -/
def withDetail (audit : Dict) (detail : String) : Value := .dict (Dict.merge audit [("detail", .str detail)])

def failurePayload (audit : Dict) (resourceId : Option String) (connectionId detail : String) : Dict :=
  Dict.merge audit
    [("resource_type", .str "static_route"), ("resource_id", .ofOption resourceId),
     ("connection_id", .str connectionId), ("outcome", .str "failed"), ("detail", .str detail),
     ("before_state", .none), ("after_state", .none)]

inductive Change where
  | create (payload : Value)
  | update (routeId : String) (payload : Value)
  | delete (routeId : String)

namespace Change

def action : Change → String
  | create _ => "static_route.create"
  | update _ _ => "static_route.update"
  | delete _ => "static_route.delete"

def detail : Change → String
  | create _ => "Static route created."
  | update _ _ => "Static route updated."
  | delete _ => "Static route deleted."

/-- The route a failed attempt names. -/
def resourceId : Change → Option String
  | create _ => none
  | update routeId _ => some routeId
  | delete routeId => some routeId

end Change

/-- `{"provider": "fake", "simulated": True, "item": item}`; a deletion answers nothing. -/
def item (row : StaticRouteRow) : Value :=
  .dict [("provider", .str "fake"), ("simulated", .bool true), ("item", .dict row.columns)]

/-- `DeviceDataService`: its store and whether simulated devices are enabled. -/
structure DeviceDataService where
  store : GatewayStore
  provider : String

section

variable {Token : Type} (P : Platform Token) (service : DeviceDataService)

/-- `_client`: the checks before a `FakeDeviceClient` is made. -/
def client (db : Db Token) (connectionId : String) : Except ManagementError Unit := do
  raiseWhen (service.provider != "fake") ⟨"Simulated device access is disabled.", 503⟩
  let view ← storeCall (Store.get P service.store db "connections" connectionId)
  raiseWhen (Dict.getOr (entriesOf view) "client_type" (.str "network") != .str "fake")
    ⟨"Device data is unsupported for network profiles.", 501⟩

def mutate (db : Db Token) (fresh : Fresh) (connectionId : String) (audit : Dict) (change : Change) :
    Except PyError Value × Db Token :=
  let audit := withDetail audit change.detail
  match change with
  | .create payload =>
      let outcome := FakeClient.createStaticRoute P service.store db fresh connectionId payload audit
      (outcome.1.map item, outcome.2)
  | .update routeId payload =>
      let outcome := FakeClient.updateStaticRoute P service.store db fresh connectionId routeId payload audit
      (outcome.1.map item, outcome.2)
  | .delete routeId =>
      let outcome := FakeClient.deleteStaticRoute P service.store db fresh connectionId routeId audit
      (outcome.1.map (fun _ => .none), outcome.2)

/-- The `try` block of a service call. -/
def attempted (db : Db Token) (fresh : Fresh) (connectionId : String) (audit : Dict) (change : Change) :
    Except ManagementError Value × Db Token :=
  match client P service db connectionId with
  | .error error => (.error error, db)
  | .ok _ =>
      let outcome := mutate P service db fresh connectionId audit change
      (storeCall outcome.1, outcome.2)

/-- `_record_failure`: a record that is refused is only logged. -/
def recordFailure (db : Db Token) (fresh : Fresh) (audit : Dict) (resourceId : Option String)
    (connectionId detail : String) : Db Token :=
  (Store.appendTransaction service.store db fresh
    (.dict (failurePayload audit resourceId connectionId detail))).2

/-- `create_static_route`, `update_static_route` and `delete_static_route`. The values a failed
attempt's record draws are `failure`. -/
def perform (db : Db Token) (fresh failure : Fresh) (attempt : Attempt) (connectionId : String)
    (change : Change) : Except ManagementError Value × Db Token :=
  let audit := auditContext attempt change.action
  match attempted P service db fresh connectionId audit change with
  | (.ok answer, written) => (.ok answer, written)
  | (.error error, written) =>
      (.error error,
        recordFailure service written failure audit change.resourceId connectionId error.message)

def createStaticRoute (db : Db Token) (fresh failure : Fresh) (attempt : Attempt) (connectionId : String)
    (payload : Value) : Except ManagementError Value × Db Token :=
  perform P service db fresh failure attempt connectionId (.create payload)

def updateStaticRoute (db : Db Token) (fresh failure : Fresh) (attempt : Attempt)
    (connectionId routeId : String) (payload : Value) : Except ManagementError Value × Db Token :=
  perform P service db fresh failure attempt connectionId (.update routeId payload)

def deleteStaticRoute (db : Db Token) (fresh failure : Fresh) (attempt : Attempt)
    (connectionId routeId : String) : Except ManagementError Value × Db Token :=
  perform P service db fresh failure attempt connectionId (.delete routeId)

end

end NetworkGateway.DeviceData
