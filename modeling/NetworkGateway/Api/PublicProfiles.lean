import NetworkGateway.Api.Settings

/-! `app/api/schemas/management.py`: the public models of connections and proxies;
`app/api/routes/management.py`: the routes that read one. -/

namespace NetworkGateway.Api

open Library.Result Pydantic Store

/-- `str` outside strict mode: a number is no text either. -/
def laxString : Schema
  | .str s => .ok (.str s)
  | _ => .error .invalid

/-- `int` outside strict mode, of the numbers a profile holds: a `float` must have no fraction. -/
def laxInteger : Schema
  | .int n => .ok (.int n)
  | .float (.finite q) => if q.den = 1 then .ok (.int q.num) else .error .invalid
  | _ => .error .invalid

/-- A response model: what it does not name is left out. -/
def responseModel (fields : List Field) : Schema
  | .dict entries => do
      let values ← each (Field.read entries) fields
      return .dict values
  | _ => .error .invalid

/-- The fields of `PublicAuthentication`. -/
def publicAuthentication : List Field :=
  [⟨"username", optional laxString, some .none⟩,
   ⟨"private_key_path", optional laxString, some .none⟩,
   ⟨"known_hosts_path", optional laxString, some .none⟩,
   ⟨"role_account_id", optional laxString, some .none⟩,
   ⟨"password_configured", boolean, some (.bool false)⟩,
   ⟨"private_key_configured", boolean, some (.bool false)⟩]

def connectorTypes : List String := ["direct", "ssh_tunnel", "ssh_shell", "socks5", "http_connect"]

def publicConnector : Schema :=
  responseModel (publicAuthentication ++
    [⟨"type", literal connectorTypes, none⟩, ⟨"host", optional laxString, some .none⟩,
     ⟨"port", optional laxInteger, some .none⟩])

/-- `PublicConnector(type="direct")`. -/
def directConnector : Value := .dict
  [("username", .none), ("private_key_path", .none), ("known_hosts_path", .none), ("role_account_id", .none),
   ("password_configured", .bool false), ("private_key_configured", .bool false), ("type", .str "direct"),
   ("host", .none), ("port", .none)]

/-- The fields of `PublicConnection`. -/
def connectionFields : List Field :=
  publicAuthentication ++
    [⟨"id", laxString, none⟩, ⟨"name", laxString, none⟩,
     ⟨"client_type", literal ["network", "fake"], some (.str "network")⟩,
     ⟨"protocol", literal ["ssh", "netconf", "telnet"], none⟩, ⟨"host", laxString, none⟩, ⟨"port", laxInteger, none⟩,
     ⟨"timeout_seconds", laxInteger, some (.int 10)⟩, ⟨"proxy_id", optional laxString, some .none⟩,
     ⟨"connector", publicConnector, some directConnector⟩]

/-- The fields of `PublicProxy`. -/
def proxyFields : List Field :=
  publicAuthentication ++
    [⟨"id", laxString, none⟩, ⟨"name", laxString, none⟩,
     ⟨"type", literal ["ssh_tunnel", "ssh_shell", "socks5", "http_connect"], none⟩, ⟨"host", laxString, none⟩,
     ⟨"port", laxInteger, none⟩]

/-! The routes. -/

def respond (fields : List Field) (result : Except RouteError Value) : Except RouteError Value := do
  let value ← result
  match responseModel fields value with
  | .ok body => .ok body
  | .error _ => .error (.http 500 "Invalid management response.")

section

variable {Token : Type} (P : Platform Token) (self : GatewayStore) (db : Db Token)

def getConnection (itemId : String) : Except RouteError Value :=
  respond connectionFields (serviceCall (get P self db "connections" itemId))

def getProxy (itemId : String) : Except RouteError Value :=
  respond proxyFields (serviceCall (get P self db "proxies" itemId))

end

end NetworkGateway.Api
