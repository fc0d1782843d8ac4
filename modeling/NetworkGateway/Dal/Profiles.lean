import NetworkGateway.Dal.Storage

/-! `app/dal/db/store.py`: decoding stored rows into profiles, resolving their
references and the public views of the results. -/

namespace NetworkGateway.Store

open Library.Dict Library.Result Library.Table

inductive Resource where
  | roleAccounts
  | proxies
  | connections
  deriving DecidableEq, Repr

def notFound : PyError := .store "Resource not found." 404

def table (resource : String) : Except PyError Resource :=
  match resource with
  | "role_accounts" => .ok .roleAccounts
  | "proxies" => .ok .proxies
  | "connections" => .ok .connections
  | _ => .error (.store "Unknown resource." 404)

/-- `_row`, applied to the outcome of the lookup. -/
def row {ρ : Type} : Option ρ → Except PyError ρ
  | some found => .ok found
  | none => .error notFound

/-- A value that is unpacked with `**` or whose dictionary methods are called. -/
def asDict : Value → Except PyError Dict
  | .dict entries => .ok entries
  | _ => .error .type

@[simp] theorem row_ok {ρ : Type} (found : Option ρ) (r : ρ) : row found = .ok r ↔ found = some r := by
  cases found <;> simp [row]

@[simp] theorem asDict_ok (value : Value) (entries : Dict) :
    asDict value = .ok entries ↔ value = .dict entries := by
  cases value <;> simp [asDict]

section

variable {Token : Type} (P : Platform Token) (self : GatewayStore)

/-- `result.setdefault("connector", {}).update(connector_secrets)`. -/
def addConnectorSecrets (result : Dict) (connectorSecrets : Value) : Except PyError Dict :=
  if connectorSecrets.truthy then do
    let connector ← asDict (Dict.getOr result "connector" (.dict []))
    let connectorSecrets ← asDict connectorSecrets
    return set result "connector" (.dict (merge connector connectorSecrets))
  else .ok result

/-- `_stored_profile` on a row with the given columns. -/
def storedProfile (columns configuration : Dict) (secrets : Token) : Except PyError Dict := do
  let secrets ← asDict (← Secrets.decrypt P self secrets)
  let result := merge (merge columns configuration) (erase secrets "connector")
  addConnectorSecrets result (Dict.get secrets "connector")

def roleCredentials (db : Db Token) (roleId : Value) : Except PyError Dict :=
  match roleId with
  | .str id => do
      let role ← row (find RoleAccountRow.id db.roleAccounts id)
      let secrets ← asDict (← Secrets.decrypt P self role.secrets)
      return merge [("username", .str role.username),
        ("authentication_type", .str role.authenticationType.text)] secrets
  | _ => .error notFound

/-- `if profile.get("role_account_id"): profile.update(self._role_credentials(...))`. -/
def withRole (db : Db Token) (profile : Dict) : Except PyError Dict :=
  if (Dict.get profile "role_account_id").truthy then do
    let credentials ← roleCredentials P self db (Dict.get profile "role_account_id")
    return merge profile credentials
  else .ok profile

def resolveProxy (db : Db Token) (proxy : ProxyRow Token) : Except PyError Dict := do
  let profile ← storedProfile P self proxy.columns proxy.configuration proxy.secrets
  withRole P self db profile

def findProxy (db : Db Token) : Value → Except PyError (ProxyRow Token)
  | .str id => row (find ProxyRow.id db.proxies id)
  | _ => .error notFound

/-- `if profile.get("proxy_id"): profile["connector"] = self._resolve_proxy(...)`. -/
def withProxy (db : Db Token) (profile : Dict) : Except PyError Dict :=
  if (Dict.get profile "proxy_id").truthy then do
    let proxy ← findProxy db (Dict.get profile "proxy_id")
    let connector ← resolveProxy P self db proxy
    return set profile "connector" (.dict connector)
  else .ok profile

def resolveConnection (db : Db Token) (itemId : String) : Except PyError Dict := do
  let connection ← row (find ConnectionRow.id db.connections itemId)
  let profile ← storedProfile P self connection.columns connection.configuration connection.secrets
  let profile := setDefault profile "client_type" (.str "network")
  let profile ← withRole P self db profile
  let profile ← withProxy P self db profile
  return setDefault profile "connector" (.dict [("type", .str "direct")])

mutual
def publicRuntime : Value → Except PyError Value
  | .dict entries => do
      let connector ← publicConnector entries
      let result := set (Secrets.publicEntries entries) "password_configured"
        (.bool (Dict.get entries "password").truthy)
      match connector with
      | some connector => return .dict (set result "connector" connector)
      | none => return .dict result
  | _ => .error .type
/-- The public view of `profile["connector"]`, when there is one. -/
def publicConnector : Dict → Except PyError (Option Value)
  | [] => .ok none
  | (k, v) :: rest =>
      if k = "connector" then do
        let connector ← publicRuntime v
        return some connector
      else publicConnector rest
end

/-- `_public` for a role account. -/
def publicRole (role : RoleAccountRow Token) : Except PyError Value := do
  let secrets ← asDict (← Secrets.decrypt P self role.secrets)
  return .dict (merge role.columns
    [("password_configured", .bool (Dict.get secrets "password").truthy),
     ("private_key_configured", .bool (Dict.get secrets "private_key").truthy)])

/-- `_public` for a proxy. -/
def publicProxy (db : Db Token) (proxy : ProxyRow Token) : Except PyError Value := do
  publicRuntime (.dict (← resolveProxy P self db proxy))

/-- `_public` for a connection. -/
def publicConnection (db : Db Token) (connection : ConnectionRow Token) : Except PyError Value := do
  publicRuntime (.dict (← resolveConnection P self db connection.id))

end

end NetworkGateway.Store
