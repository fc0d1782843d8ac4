import NetworkGateway.Api.StaticRoutes
import NetworkGateway.Api.Writes
import NetworkGateway.Bl.BatchWorker
import NetworkGateway.Bl.DeviceData
import NetworkGateway.Bl.Login
import NetworkGateway.Bl.Transactions

/-! `app/api/routes/management.py`, `device_data.py` and `transactions.py`: what a request has to pass
before its route runs, and the calls the route makes on the store. -/

namespace NetworkGateway.Api

open Auth Library Library.Result Library.Interaction Management Pydantic Store

/-- What `_origin` reads of `urlsplit(value)`. -/
structure OriginUrl extends Settings.SplitUrl where
  path : String
  query : String
  /-- `none` when it raises. -/
  port : Option (Option Nat)

structure Application (Token : Type) where
  libraries : Libraries Token
  /-- The key of the store. -/
  key : String
  /-- `app.state.device_data_provider` and `app.state.demo_mode`. -/
  provider : String
  demoMode : Bool
  backend : Backend
  auth : AuthPlatform
  settings : AuthSettings
  urlsplit : String → Option OriginUrl
  /-- `json.dumps` of an export, unless it raises. -/
  dumps : Value → Option String

section

variable {Token : Type} (app : Application Token)

def Application.platform : Platform Token := app.libraries.toPlatform

/-- The store `get_store` answers once it could be opened. -/
def Application.store : GatewayStore := ⟨app.key, false⟩

def Application.service : Batches.Service Token := ⟨app.libraries, app.store, app.provider, app.demoMode⟩

end

/-! Routes. -/

def resourceName : Resource → String
  | .roleAccounts => "role_accounts"
  | .proxies => "proxies"
  | .connections => "connections"

inductive Endpoint where
  | list (resource : Resource)
  | get (resource : Resource) (itemId : String)
  | create (resource : Resource)
  | update (resource : Resource) (itemId : String)
  | delete (resource : Resource) (itemId : String)
  | testConnection (itemId : String)
  | createBatch
  | getBatch (jobId : String)
  | exportBatch (jobId format : String)
  | getSettings (name : String)
  | updateSettings (name : String)
  | getInventory (connectionId : String)
  | listStaticRoutes (connectionId : String)
  | createStaticRoute (connectionId : String)
  | updateStaticRoute (connectionId routeId : String)
  | deleteStaticRoute (connectionId routeId : String)
  | listTransactions (query : Transactions.Query)

namespace Endpoint

def method : Endpoint → String
  | create _ | testConnection _ | createBatch | createStaticRoute _ => "POST"
  | update _ _ | updateSettings _ | updateStaticRoute _ _ => "PUT"
  | delete _ _ | deleteStaticRoute _ _ => "DELETE"
  | _ => "GET"

def requiredRole : Endpoint → GatewayRole
  | create _ | update _ _ | delete _ _ | getSettings _ | updateSettings _ => .administrator
  | testConnection _ | createBatch | getBatch _ | exportBatch _ _ | createStaticRoute _ | updateStaticRoute _ _
  | deleteStaticRoute _ _ => .operator
  | list _ | get _ _ | getInventory _ | listStaticRoutes _ | listTransactions _ => .viewer

end Endpoint

inductive Body where
  | absent
  /-- The JSON of the body cannot be parsed. -/
  | malformed
  | json (value : Value)

structure HttpRequest where
  endpoint : Endpoint
  baseUrl : String
  /-- `request.url.path`. -/
  path : String
  origin : Option String
  secFetchSite : Option String
  contentType : Option String
  correlationId : Option String
  authorization : Option String
  gatewaySession : Option String
  body : Body

/-! The guard of every route. -/

section

variable {Token : Type} (app : Application Token)

/-- `_origin`. -/
def originOf (value : String) : Option (String × String × Nat) := do
  let parsed ← app.urlsplit value
  if !(["http", "https"].contains parsed.scheme) || parsed.hostname.getD "" == "" || parsed.username.getD "" != "" ||
      parsed.password.getD "" != "" then none
  else if !(["", "/"].contains parsed.path) || parsed.query != "" || parsed.fragment != "" then none
  else
    let port ← parsed.port
    let standard := if parsed.scheme == "https" then 443 else 80
    return (parsed.scheme, app.libraries.lower (parsed.hostname.getD ""),
      if port.getD 0 = 0 then standard else port.getD 0)

/-- `content_type` without its parameters. -/
def mediaType (request : HttpRequest) : String :=
  Text.lower (Text.strip (String.ofList ((request.contentType.getD "").toList.takeWhile (· != ';'))))

def checkBrowserMutation (request : HttpRequest) : Except RouteError Unit :=
  if ["GET", "HEAD", "OPTIONS"].contains request.endpoint.method then .ok ()
  else do
    let crossOrigin := RouteError.http 403 "Cross-origin administrative requests are not allowed."
    raiseWhen (["cross-site", "same-site"].contains (Text.lower (request.secFetchSite.getD ""))) crossOrigin
    raiseWhen (request.origin.any (fun origin => originOf app origin == none ||
      originOf app origin != originOf app request.baseUrl)) crossOrigin
    raiseWhen (["POST", "PUT", "PATCH"].contains request.endpoint.method && mediaType request != "application/json")
      (.http 415 "Administrative requests require application/json.")

/-- `SafeManagementRoute` answers so for whatever FastAPI finds wrong with a request. -/
def invalidRequest : RouteError := .http 422 "Invalid request fields."

def Endpoint.bodyModel : Endpoint → Option Schema
  | .create resource | .update resource _ => some (resourceWrite resource)
  | .testConnection _ => some connectionTestWrite
  | .createBatch => some batchWrite
  | .updateSettings _ => some (settingsPayload app.platform)
  | .createStaticRoute _ | .updateStaticRoute _ _ => some (staticRouteWrite app.platform)
  | _ => none

/-- FastAPI reads the body of a route that has one before its dependencies. -/
def parsedBody (request : HttpRequest) : Except RouteError Value :=
  match request.endpoint.bodyModel app, request.body with
  | some _, .malformed => .error invalidRequest
  | _, .json value => .ok value
  | _, _ => .ok .none

def Endpoint.bodyDefault : Endpoint → Except RouteError Value
  | .testConnection _ => .ok (.dict [])
  | _ => .error invalidRequest

/-- The value of the body's parameter; `null` counts as no body. -/
def bodyOf (endpoint : Endpoint) (body : Value) : Except RouteError Value :=
  match endpoint.bodyModel app with
  | some schema => if body = .none then endpoint.bodyDefault else (schema body).mapError (fun _ => invalidRequest)
  | none => .ok .none

/-- What `current_user` reads of a request. -/
def authRequest (request : HttpRequest) : Auth.Request :=
  ⟨request.authorization, request.gatewaySession, app.demoMode⟩

/-- The answer to an exception of `current_user` or `require_role`. -/
def authRefusal : AuthError → RouteError
  | .http statusCode detail => .http statusCode detail
  | _ => .http 500 "Internal Server Error"

end

end NetworkGateway.Api
