import NetworkGateway.Dal.Resources

/-! `app/dal/db/store.py`: simulated static routes, seeded on the first route
operation of a connection. -/

namespace NetworkGateway.Store

open Library.Dict Library.Result Library.Table

def staticRouteFields : List String :=
  ["destination", "next_hop", "interface", "metric", "description", "enabled"]

/-- The columns `_validate_static_route` returns. -/
structure RouteValues where
  destination : String
  nextHop : String
  interface : Option Interface
  metric : Metric
  description : String
  enabled : Bool
  deriving DecidableEq

def RouteValues.row (values : RouteValues) (id connectionId : String) : StaticRouteRow :=
  ⟨id, connectionId, values.destination, values.nextHop, values.interface, values.metric,
    values.description, values.enabled⟩

/-- `re.fullmatch(r"[^/]+/[0-9]{1,3}", text)`. -/
def prefixShape (text : String) : Bool :=
  let network := text.toList.takeWhile (· != '/')
  match text.toList.dropWhile (· != '/') with
  | '/' :: length =>
      !network.isEmpty && !length.isEmpty && length.length ≤ 3 && length.all Char.isDigit
  | _ => false

def prefixError : PyError := invalid "A valid network prefix and next-hop address are required."

def routeInterface (value : Value) : Except PyError (Option Interface) :=
  match value with
  | .none => .ok none
  | .str name => match Interface.ofText name with
    | some interface => .ok (some interface)
    | none => .error (invalid "Unsupported simulated interface.")
  | _ => .error (invalid "Unsupported simulated interface.")

def metric (value : Value) : Except PyError Metric :=
  match value with
  | .int n =>
      if inRange : 0 ≤ n ∧ n ≤ 65535 then .ok ⟨n, inRange⟩
      else .error (invalid "Metric must be an integer between 0 and 65535.")
  | _ => .error (invalid "Metric must be an integer between 0 and 65535.")

def routeEnabled (value : Value) : Except PyError Bool :=
  match value with
  | .bool b => .ok b
  | _ => .error (invalid "Route enabled must be a boolean.")

section

variable {Token : Type} (P : Platform Token) (self : GatewayStore)

def routeAddresses (destination nextHop : Value) : Except PyError (String × String) :=
  match destination, nextHop with
  | .str destination, .str nextHop =>
      if prefixShape destination && !destination.toList.contains '%' &&
          !nextHop.toList.contains '%' then
        match P.ipNetwork destination, P.ipAddress nextHop with
        | some network, some address =>
            if network.version = address.version then
              .ok (P.strNetwork network, P.strAddress address)
            else .error (invalid "Destination and next hop must use the same address family.")
        | _, _ => .error prefixError
      else .error prefixError
  | _, _ => .error prefixError

def validateStaticRoute (payload : Value) : Except PyError RouteValues :=
  match payload with
  | .dict entries => do
      raiseWhen (!(entries.all (fun e => staticRouteFields.contains e.1) &&
          staticRouteFields.all (Dict.has entries)))
        (invalid "Static routes require destination, next_hop, interface, metric, description and enabled.")
      let (destination, nextHop) ←
        routeAddresses P (Dict.get entries "destination") (Dict.get entries "next_hop")
      let interface ← routeInterface (Dict.get entries "interface")
      let number ← metric (Dict.get entries "metric")
      let description ← text (Dict.get entries "description") "route description" false 200
      let enabled ← routeEnabled (Dict.get entries "enabled")
      return ⟨destination, nextHop, interface, number, description, enabled⟩
  | _ => .error (invalid "Static routes require destination, next_hop, interface, metric, description and enabled.")

/-- The first seed payload of `_initialize_static_routes`. -/
def seedRoute4 : Value := .dict
  [("destination", .str "198.51.100.0/24"), ("next_hop", .str "192.0.2.1"),
   ("interface", .str "eth0"), ("metric", .int 10),
   ("description", .str "Simulated documentation route"), ("enabled", .bool true)]

/-- The second seed payload of `_initialize_static_routes`. -/
def seedRoute6 : Value := .dict
  [("destination", .str "2001:db8:2::/64"), ("next_hop", .str "2001:db8:1::1"),
   ("interface", .str "eth1"), ("metric", .int 20),
   ("description", .str "Simulated IPv6 documentation route"), ("enabled", .bool true)]

/-- Two rows of one connection with one destination violate UNIQUE. -/
def sameDestination (a b : StaticRouteRow) : Bool :=
  a.connectionId == b.connectionId && a.destination == b.destination

/-- `INSERT` into `gateway_static_routes`, under its primary key and UNIQUE constraint. -/
def insertRoute (routes : List StaticRouteRow) (route : StaticRouteRow) :
    Except PyError (List StaticRouteRow) :=
  if routes.any (fun held => held.id == route.id || sameDestination held route) then
    .error .integrity
  else .ok (routes ++ [route])

/-- `UPDATE` of the row with the route's id, under the UNIQUE constraint. -/
def updateRoute (routes : List StaticRouteRow) (route : StaticRouteRow) :
    Except PyError (List StaticRouteRow) :=
  if routes.any (fun held => held.id != route.id && sameDestination held route) then
    .error .integrity
  else .ok (replace StaticRouteRow.id routes route.id (fun _ => route))

/-- The write part of `_initialize_static_routes`. -/
def seedStaticRoutes (db : Db Token) (fresh : Fresh) (connectionId : String) :
    Except PyError (Db Token) := do
  let first ← validateStaticRoute P seedRoute4
  let staticRoutes ← insertRoute db.staticRoutes (first.row fresh.seedIds.1 connectionId)
  let second ← validateStaticRoute P seedRoute6
  let staticRoutes ← insertRoute staticRoutes (second.row fresh.seedIds.2 connectionId)
  return { db with
    staticRouteInitializations := db.staticRouteInitializations ++ [connectionId]
    staticRoutes }

def initializeStaticRoutes (db : Db Token) (fresh : Fresh) (connectionId : String) :
    Except PyError (Db Token) := do
  let connection ← row (find ConnectionRow.id db.connections connectionId)
  let profile ← storedProfile P self connection.columns connection.configuration connection.secrets
  raiseWhen (Dict.getOr profile "client_type" (.str "network") != .str "fake")
    (.store "Static-route simulation requires a fake connection." 501)
  if db.staticRouteInitializations.contains connectionId then return db
  else seedStaticRoutes P db fresh connectionId

def ownedStaticRoute (db : Db Token) (connectionId routeId : String) :
    Except PyError StaticRouteRow := do
  let route ← row (find StaticRouteRow.id db.staticRoutes routeId)
  raiseWhen (route.connectionId != connectionId) notFound
  return route

/-- `list_static_routes`, in `ORDER BY destination, id`. -/
def listStaticRoutes (db : Db Token) (fresh : Fresh) (connectionId : String) :
    Except PyError (List StaticRouteRow × Db Token) := do
  let db ← initializeStaticRoutes P self db fresh connectionId
  let routes := db.staticRoutes.filter (fun route => route.connectionId = connectionId)
  return (byName StaticRouteRow.destination StaticRouteRow.id routes, db)

def createStaticRouteRow (db : Db Token) (fresh : Fresh) (connectionId : String) (payload : Value) :
    Except PyError (StaticRouteRow × Db Token) := do
  let db ← initializeStaticRoutes P self db fresh connectionId
  let values ← validateStaticRoute P payload
  let route := values.row fresh.id connectionId
  let staticRoutes ← insertRoute db.staticRoutes route
  return (route, { db with staticRoutes })

/-- `_update_static_route_row`: the row before and after. -/
def updateStaticRouteRow (db : Db Token) (fresh : Fresh) (connectionId routeId : String)
    (payload : Value) : Except PyError ((StaticRouteRow × StaticRouteRow) × Db Token) := do
  let db ← initializeStaticRoutes P self db fresh connectionId
  let before ← ownedStaticRoute db connectionId routeId
  let values ← validateStaticRoute P payload
  let route := values.row before.id before.connectionId
  let staticRoutes ← updateRoute db.staticRoutes route
  return ((before, route), { db with staticRoutes })

/-- `_delete_static_route_row`: the row before. -/
def deleteStaticRouteRow (db : Db Token) (fresh : Fresh) (connectionId routeId : String) :
    Except PyError (StaticRouteRow × Db Token) := do
  let db ← initializeStaticRoutes P self db fresh connectionId
  let before ← ownedStaticRoute db connectionId routeId
  return (before, { db with staticRoutes := remove StaticRouteRow.id db.staticRoutes routeId })

end

end NetworkGateway.Store
