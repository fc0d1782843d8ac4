import NetworkGateway.Dal.Profiles

/-! `app/dal/db/store.py`: validation, saving and deletion of role accounts,
proxies and connections, one transaction per call. -/

namespace NetworkGateway.Store

open Library.Dict Library.Result Library.Table

def invalid (message : String) : PyError := .store message 400

def text (value : Value) (label : String) (required : Bool) (limit : Nat) : Except PyError String :=
  match value with
  | .str s =>
      if limit < s.length || s.toList.contains (Char.ofNat 0) then
        .error (invalid ("Invalid " ++ label ++ "."))
      else if required then
        if Text.strip s = "" then .error (invalid (Text.capitalize label ++ " is required."))
        else .ok (Text.strip s)
      else .ok s
  | _ => .error (invalid ("Invalid " ++ label ++ "."))

def port (value : Value) : Except PyError Port :=
  match value with
  | .int n =>
      if inRange : 1 ≤ n ∧ n ≤ 65535 then .ok ⟨n, inRange⟩
      else .error (invalid "Port must be an integer between 1 and 65535.")
  | _ => .error (invalid "Port must be an integer between 1 and 65535.")

def seconds (q : Rat) : Except PyError Timeout :=
  if inRange : 1 ≤ q ∧ q ≤ 30 then .ok ⟨q, inRange⟩
  else .error (invalid "Timeout must be between 1 and 30 seconds.")

/-- `_timeout`, as the number the FLOAT column stores. -/
def timeout (value : Value) : Except PyError Timeout :=
  match value with
  | .int n => seconds n
  | .float (.finite q) => seconds q
  | _ => .error (invalid "Timeout must be between 1 and 30 seconds.")

def checkFields (payload : Value) (allowed : List String) : Except PyError Dict :=
  match payload with
  | .dict entries =>
      if entries.all (fun e => allowed.contains e.1) then .ok entries
      else .error (invalid "Invalid or unsupported profile fields.")
  | _ => .error (invalid "Invalid or unsupported profile fields.")

def inlineFields : List String :=
  ["username", "password", "private_key", "private_key_path", "key_passphrase"]

def trustPaths : List String := ["private_key_path", "known_hosts_path"]

def commonFields : List String :=
  ["name", "host", "port", "username", "password", "private_key_path", "known_hosts_path",
   "role_account_id"]

def fields : Resource → List String
  | .roleAccounts =>
      ["name", "username", "authentication_type", "password", "private_key", "key_passphrase"]
  | .proxies => commonFields ++ ["type"]
  | .connections =>
      commonFields ++ ["protocol", "timeout_seconds", "proxy_id", "connector", "client_type"]

def connectorFields : List String :=
  ["type", "host", "port", "username", "password", "private_key_path", "known_hosts_path",
   "private_key", "key_passphrase", "timeout_seconds"]

/-- The credential entries of a payload that are present must be texts. -/
def credentialText (payload : Dict) (label key : String) : Except PyError Unit :=
  match payload.lookup key with
  | none => .ok ()
  | some value => do
      let _ ← text value label false 65536
      return ()

/-- A vault-facing check whose `SecretError` becomes a `StoreError`. -/
def storeError {α : Type} : Except PyError α → Except PyError α
  | .error (.secret message) => .error (invalid message)
  | result => result

section

variable {Token : Type} (P : Platform Token) (self : GatewayStore)

def authenticationType (value : Value) : Except PyError AuthenticationType :=
  if value = .str "password" then .ok .password
  else if value = .str "ssh_key" then .ok .sshKey
  else .error (invalid "Authentication type must be password or ssh_key.")

/-- The secrets `_save_role` stores for password authentication. -/
def passwordSecrets (payload profile : Dict) (switched : Bool) : Except PyError Dict := do
  raiseWhen ((Dict.get payload "private_key").truthy || (Dict.get payload "key_passphrase").truthy)
    (invalid "Password authentication cannot include SSH key credentials.")
  let password := if switched then Dict.get payload "password" else Dict.get profile "password"
  raiseWhen (!password.truthy) (invalid "Password authentication requires a password.")
  return [("password", password)]

/-- The secrets `_save_role` stores for SSH key authentication. -/
def keySecrets (payload previous profile : Dict) (switched : Bool) : Except PyError Dict := do
  raiseWhen (Dict.get payload "password").truthy
    (invalid "SSH key authentication cannot include a password.")
  let privateKey :=
    if switched then Dict.get payload "private_key" else Dict.get profile "private_key"
  let passphrase := Dict.getOr payload "key_passphrase"
    (if switched then .str "" else Dict.getOr previous "key_passphrase" (.str ""))
  raiseWhen (!privateKey.truthy) (invalid "SSH key authentication requires a private key.")
  storeError (Secrets.validatePrivateKey P privateKey passphrase)
  return ("private_key", privateKey) ::
    (if passphrase.truthy then [("key_passphrase", passphrase)] else [])

def roleSecrets (method : AuthenticationType) (payload previous profile : Dict) (switched : Bool) :
    Except PyError Dict :=
  match method with
  | .password => passwordSecrets payload profile switched
  | .sshKey => keySecrets P payload previous profile switched

/-- `_save_role`, writing to the row with the given id. -/
def saveRole (iv : Nat) (id : String) (payload previous : Dict) :
    Except PyError (RoleAccountRow Token) := do
  let profile := merge previous payload
  let name ← text (Dict.get profile "name") "name" true 200
  let username ← text (Dict.get profile "username") "username" true 255
  let method ← authenticationType (Dict.get profile "authentication_type")
  credentialText payload "credential" "password"
  credentialText payload "credential" "private_key"
  credentialText payload "credential" "key_passphrase"
  let switched := Dict.get previous "authentication_type" != .str method.text
  let secrets ← roleSecrets P method payload previous profile switched
  return ⟨id, name, username, method, Secrets.encrypt P self iv (.dict secrets)⟩

/-- One turn of the loop in `_inline_credentials`: an explicit `null` clears a path. -/
def inlineField (payload profile : Dict) (key : String) : Except PyError Dict :=
  match payload.lookup key with
  | none => .ok profile
  | some value =>
      if trustPaths.contains key && value == .none then .ok (erase profile key)
      else do
        let _ ← text value "credential or trust field" false 65536
        return profile

/-- `_inline_credentials`, returning the profile it mutates. -/
def inlineCredentials (profile payload : Dict) : Except PyError Dict := do
  let profile ← (inlineFields ++ ["known_hosts_path"]).foldlM (inlineField payload) profile
  let keyed := (Dict.get profile "private_key_path").truthy || (Dict.get profile "private_key").truthy
  raiseWhen ((Dict.get profile "password").truthy && keyed)
    (invalid "Choose password or SSH key authentication, not both.")
  raiseWhen ((Dict.get profile "key_passphrase").truthy && !keyed)
    (invalid "A key passphrase requires an SSH key.")
  return profile

/-- The connector's `type`: `none` is `direct`. -/
def connectorKind (value : Value) : Except PyError (Option ProxyType) :=
  match value with
  | .str "direct" => .ok none
  | .str kind =>
      match ProxyType.ofText kind with
      | some kind => .ok (some kind)
      | none => .error (invalid "Unsupported connector type.")
  | _ => .error (invalid "Unsupported connector type.")

/-- `previous or {}`. -/
def orEmpty (previous : Value) : Except PyError Dict :=
  if previous.truthy then asDict previous else .ok []

def kindText : Option ProxyType → String
  | none => "direct"
  | some kind => kind.text

def connectorTimeout (profile : Dict) : Except PyError Unit :=
  match profile.lookup "timeout_seconds" with
  | some value => do
      let _ ← timeout value
      return ()
  | none => .ok ()

def connectorKey (profile : Dict) : Except PyError Unit :=
  if (Dict.get profile "private_key").truthy then
    storeError (Secrets.validatePrivateKey P (Dict.get profile "private_key")
      (Dict.get profile "key_passphrase"))
  else .ok ()

/-- The part of `_connector` after the type is known to be a proxy type. -/
def proxyConnector (kind : ProxyType) (profile value : Dict) : Except PyError Dict := do
  let profile := set profile "type" (.str kind.text)
  let host ← text (Dict.get profile "host") "proxy host" true 255
  let profile := set profile "host" (.str host)
  let number ← port (Dict.get profile "port")
  let profile := set profile "port" (.int number.1)
  connectorTimeout profile
  let profile ← inlineCredentials profile value
  connectorKey P profile
  return profile

def connector (value previous : Value) : Except PyError Dict := do
  let value ← checkFields value connectorFields
  let previous ← orEmpty previous
  let profile := merge previous value
  let kind ← connectorKind (Dict.getOr profile "type" (.str "direct"))
  let profile :=
    if !previous.isEmpty && Dict.get previous "type" != .str (kindText kind) then value else profile
  match kind with
  | none => do
      raiseWhen (value.any (fun e => e.1 != "type" && e.2 != .none && e.2 != .str ""))
        (invalid "Direct connections cannot include proxy settings.")
      return [("type", .str "direct")]
  | some kind => proxyConnector P kind profile value

/-- A reference column of `_save_profile`: a stored id, or `None`. -/
def reference (value : Value) (label : String) (present : String → Bool) :
    Except PyError (Option String) :=
  match value with
  | .none => .ok none
  | .str id => do
      let _ ← text (.str id) label true 36
      raiseWhen (!present id) notFound
      return some id
  | _ => .error (invalid ("Invalid " ++ label ++ "."))

def applyRole (payload profile : Dict) (roleId : Option String) : Except PyError Dict :=
  if roleId.isSome then do
    raiseWhen (inlineFields.any (fun field => (Dict.get payload field).truthy))
      (invalid "A role reference cannot include inline credentials.")
    return without profile inlineFields
  else .ok profile

/-- What `_save_profile` computes for proxies and connections alike. -/
structure CommonValues where
  name : String
  host : String
  port : Port
  roleAccountId : Option String
  profile : Dict

/-- The part of `_save_profile` before the resource is looked at. -/
def saveCommon (db : Db Token) (payload previous : Dict) : Except PyError CommonValues := do
  let profile := merge previous payload
  let name ← text (Dict.get profile "name") "name" true 200
  let host ← text (Dict.get profile "host") "host" true 255
  let number ← port (Dict.get profile "port")
  let roleId ← reference (Dict.get profile "role_account_id") "role reference"
    (fun id => (find RoleAccountRow.id db.roleAccounts id).isSome)
  let profile ← applyRole payload profile roleId
  let profile ← inlineCredentials profile payload
  return ⟨name, host, number, roleId, profile⟩

/-- `{k: profile[k] for k in (...) if k in profile}`. -/
def configurationOf (profile : Dict) : Dict :=
  select ["username", "private_key_path", "known_hosts_path"] profile

/-- `{k: profile[k] for k in SECRET_FIELDS if k in profile and profile[k]}`. -/
def secretData (profile : Dict) : Dict :=
  (select Secrets.secretFields profile).filter (fun e => e.2.truthy)

def proxyType (value : Value) : Except PyError ProxyType :=
  match value with
  | .str kind => match ProxyType.ofText kind with
    | some kind => .ok kind
    | none => .error (invalid "Unsupported proxy type.")
  | _ => .error (invalid "Unsupported proxy type.")

/-- `_save_profile` for a proxy. -/
def saveProxy (db : Db Token) (iv : Nat) (id : String) (payload previous : Dict) :
    Except PyError (ProxyRow Token) := do
  let common ← saveCommon db payload previous
  let kind ← proxyType (Dict.get common.profile "type")
  return ⟨id, common.name, kind, common.host, common.port, common.roleAccountId,
    configurationOf common.profile,
    Secrets.encrypt P self iv (.dict (secretData common.profile))⟩

def protocol (value : Value) : Except PyError Protocol :=
  match value with
  | .str name => match Protocol.ofText name with
    | some protocol => .ok protocol
    | none => .error (invalid "Unsupported protocol.")
  | _ => .error (invalid "Unsupported protocol.")

def clientType (value : Value) : Except PyError Value :=
  if value.isOneOf ["network", "fake"] then .ok value
  else .error (invalid "Client type must be network or fake.")

/-- The access part of `_save_profile` for a connection: the configuration and
secret entries of its connector, if no saved proxy is selected. -/
def saveAccess (payload previous profile : Dict) (proxyId : Option String) :
    Except PyError (Dict × Dict) := do
  if proxyId.isSome then
    raiseWhen (Dict.has payload "connector")
      (invalid "A saved proxy cannot include an inline connector.")
    return ([], [])
  else
    let connector ← connector P
      (Dict.getOr payload "connector" (Dict.getOr profile "connector" (.dict [("type", .str "direct")])))
      (if Dict.has payload "connector" then Dict.get previous "connector" else .none)
    let connectorSecrets := secretData connector
    return ([("connector", .dict (Secrets.publicEntries connector))],
      if connectorSecrets.isEmpty then [] else [("connector", .dict connectorSecrets)])

/-- `_save_profile` for a connection. -/
def saveConnection (db : Db Token) (iv : Nat) (id : String) (payload previous : Dict) :
    Except PyError (ConnectionRow Token) := do
  let common ← saveCommon db payload previous
  let kind ← protocol (Dict.get common.profile "protocol")
  let client ← clientType (Dict.getOr common.profile "client_type" (.str "network"))
  let seconds ← timeout (Dict.getOr common.profile "timeout_seconds" (.int 10))
  let proxyId ← reference (Dict.get common.profile "proxy_id") "proxy reference"
    (fun id => (find ProxyRow.id db.proxies id).isSome)
  let (connector, connectorSecrets) ← saveAccess P payload previous common.profile proxyId
  return ⟨id, common.name, kind, common.host, common.port, seconds, common.roleAccountId, proxyId,
    configurationOf common.profile ++ ("client_type", client) :: connector,
    Secrets.encrypt P self iv (.dict (secretData common.profile ++ connectorSecrets))⟩

end

end NetworkGateway.Store
