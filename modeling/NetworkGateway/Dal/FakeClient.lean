import NetworkGateway.Dal.Transactions

/-! `app/dal/device/fake_client.py`: simulated devices behind their saved roles and proxy. -/

namespace NetworkGateway.FakeClient

open Library.Result

def deviceUsername : String := "fake-device-user"
def devicePassword : String := "fake-device-password"
def deviceHost : String := "fake-device.invalid"
def devicePort : Int := 22
def deviceProtocol : String := "ssh"
def proxyUsername : String := "fake-proxy-user"
def proxyPassword : String := "fake-proxy-password"
def proxyHost : String := "fake-bastion.invalid"
def proxyPort : Int := 22
def proxyType : String := "ssh_tunnel"

def holds (profile : Dict) (key : String) (expected : Value) : Bool := Dict.get profile key == expected

/-- The device part of `_validate_fake_path`. -/
def deviceAccess (profile : Dict) : Bool :=
  (Dict.get profile "id").truthy && (Dict.get profile "role_account_id").truthy &&
    holds profile "protocol" (.str deviceProtocol) && holds profile "host" (.str deviceHost) &&
    holds profile "port" (.int devicePort) && holds profile "authentication_type" (.str "password") &&
    holds profile "username" (.str deviceUsername) && holds profile "password" (.str devicePassword)

/-- The proxy part of `_validate_fake_path`. -/
def proxyAccess (profile connector : Dict) : Bool :=
  (Dict.get profile "proxy_id").truthy && holds connector "id" (Dict.get profile "proxy_id") &&
    (Dict.get connector "role_account_id").truthy &&
    holds connector "type" (.str proxyType) && holds connector "host" (.str proxyHost) &&
    holds connector "port" (.int proxyPort) && holds connector "authentication_type" (.str "password") &&
    holds connector "username" (.str proxyUsername) && holds connector "password" (.str proxyPassword)

def validateFakePath (profile : Dict) : Except PyError Unit := do
  raiseWhen (Dict.getOr profile "client_type" (.str "network") != .str "fake")
    (.store "Device-data simulation requires a fake connection." 501)
  match Dict.get profile "connector" with
  | .dict connector => do
      raiseWhen (!deviceAccess profile) (.store "Simulated device access validation failed." 403)
      raiseWhen (!proxyAccess profile connector) (.store "Simulated proxy access validation failed." 403)
  | _ => .error (.store "Simulated proxy access validation failed." 403)

section

variable {Token : Type} (P : Platform Token) (self : GatewayStore)

def profile (db : Db Token) (connectionId : String) : Except PyError Dict := do
  let profile ← Store.resolve P self db connectionId
  validateFakePath profile
  return profile

def guarded {α : Type} (db : Db Token) (connectionId : String) (call : Except PyError α × Db Token) :
    Except PyError α × Db Token :=
  match profile P self db connectionId with
  | .ok _ => call
  | .error error => (.error error, db)

/-- `create_static_route` with audit metadata. -/
def createStaticRoute (db : Db Token) (fresh : Fresh) (connectionId : String) (payload audit : Value) :
    Except PyError StaticRouteRow × Db Token :=
  guarded P self db connectionId (Store.createStaticRouteAudited P self db fresh connectionId payload audit)

/-- `update_static_route` with audit metadata. -/
def updateStaticRoute (db : Db Token) (fresh : Fresh) (connectionId routeId : String)
    (payload audit : Value) : Except PyError StaticRouteRow × Db Token :=
  guarded P self db connectionId
    (Store.updateStaticRouteAudited P self db fresh connectionId routeId payload audit)

/-- `delete_static_route` with audit metadata. -/
def deleteStaticRoute (db : Db Token) (fresh : Fresh) (connectionId routeId : String) (audit : Value) :
    Except PyError Unit × Db Token :=
  guarded P self db connectionId (Store.deleteStaticRouteAudited P self db fresh connectionId routeId audit)

end

end NetworkGateway.FakeClient
