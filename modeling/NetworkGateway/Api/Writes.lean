import NetworkGateway.Api.PublicProfiles

/-! `app/api/schemas/management.py`: the bodies of the management requests. -/

namespace NetworkGateway.Api

open Library.Result Pydantic

/-- `str` with its lengths alone. -/
def bounded (minLength maxLength : Nat) : Schema := string ⟨minLength, maxLength, fun _ => true⟩

/-- A `WriteModel`, as `model_dump(exclude_unset=True)` shows it: the fields the body names. -/
def writeModel (fields : List Field) (validator : Dict → Except ValidationError Dict) : Schema
  | .dict entries =>
      match model fields validator (.dict entries) with
      | .ok (.dict values) => .ok (.dict (values.filter (fun held => (entries.lookup held.1).isSome)))
      | .ok _ => .error .invalid
      | .error error => .error error
  | _ => .error .invalid

/-- The fields of `AuthenticationWrite`. -/
def authenticationWrite : List Field :=
  [⟨"username", optional (bounded 0 255), some .none⟩, ⟨"password", optional (bounded 0 16384), some .none⟩,
   ⟨"private_key_path", optional (bounded 0 4096), some .none⟩,
   ⟨"known_hosts_path", optional (bounded 0 4096), some .none⟩,
   ⟨"role_account_id", optional (bounded 1 128), some .none⟩]

def exclusiveRole (values : Dict) : Except ValidationError Dict := do
  raiseWhen ((Dict.get values "role_account_id").truthy &&
    ["username", "password", "private_key_path"].any (fun key => Dict.get values key != .none)) .invalid
  return values

/-- `ConnectorWrite.endpoint`. -/
def connectorEndpoint (values : Dict) : Except ValidationError Dict := do
  raiseWhen (Dict.get values "type" != .str "direct" &&
    (!(Dict.get values "host").truthy || Dict.get values "port" == .none)) .invalid
  return values

def connectorWrite : Schema :=
  writeModel (authenticationWrite ++
    [⟨"type", literal connectorTypes, some (.str "direct")⟩, ⟨"host", optional (bounded 1 255), some .none⟩,
     ⟨"port", optional (integer 1 65535), some .none⟩])
    (fun values => do connectorEndpoint (← exclusiveRole values))

def exclusiveProxy (values : Dict) : Except ValidationError Dict := do
  raiseWhen ((Dict.get values "proxy_id").truthy && Dict.get values "connector" != .none) .invalid
  return values

def connectionWrite : Schema :=
  writeModel (authenticationWrite ++
    [⟨"name", bounded 1 255, none⟩, ⟨"client_type", literal ["network", "fake"], some (.str "network")⟩,
     ⟨"protocol", literal ["ssh", "netconf", "telnet"], none⟩, ⟨"host", bounded 1 255, none⟩,
     ⟨"port", integer 1 65535, none⟩, ⟨"timeout_seconds", integer 1 30, some (.int 10)⟩,
     ⟨"proxy_id", optional (bounded 1 128), some .none⟩, ⟨"connector", optional connectorWrite, some .none⟩])
    (fun values => do exclusiveProxy (← exclusiveRole values))

def proxyWrite : Schema :=
  writeModel (authenticationWrite ++
    [⟨"name", bounded 1 255, none⟩,
     ⟨"type", literal ["ssh_tunnel", "ssh_shell", "socks5", "http_connect"], none⟩, ⟨"host", bounded 1 255, none⟩,
     ⟨"port", integer 1 65535, none⟩])
    exclusiveRole

def exclusiveAuthentication (values : Dict) : Except ValidationError Dict := do
  let given := fun key => Dict.get values key != .none
  raiseWhen (Dict.get values "authentication_type" == .str "password" &&
    (given "private_key" || given "key_passphrase")) .invalid
  raiseWhen (Dict.get values "authentication_type" == .str "ssh_key" && given "password") .invalid
  raiseWhen (given "key_passphrase" && !given "private_key") .invalid
  return values

def roleAccountWrite : Schema :=
  writeModel
    [⟨"name", bounded 1 255, none⟩, ⟨"username", bounded 1 255, none⟩,
     ⟨"authentication_type", literal ["password", "ssh_key"], none⟩,
     ⟨"password", optional (bounded 0 16384), some .none⟩, ⟨"private_key", optional (bounded 0 65536), some .none⟩,
     ⟨"key_passphrase", optional (bounded 0 16384), some .none⟩]
    exclusiveAuthentication

def connectionTestWrite : Schema := model [] .ok

/-- The identifiers of a `BatchWrite`. -/
def connectionIds (values : Dict) : List String :=
  match Dict.get values "connection_ids" with
  | .list items => (Value.strings items).getD []
  | _ => []

def uniqueIds (values : Dict) : Except ValidationError Dict := do
  raiseWhen ((connectionIds values).any (fun id => id == "" || decide (128 < id.length))) .invalid
  raiseWhen (!decide (connectionIds values).Nodup) .invalid
  return values

def batchWrite : Schema := model [⟨"connection_ids", list 1 1000 laxString, none⟩] uniqueIds

def resourceWrite : Store.Resource → Schema
  | .roleAccounts => roleAccountWrite
  | .proxies => proxyWrite
  | .connections => connectionWrite

section

variable {Token : Type} (P : Platform Token)

/-- `SettingsPayload`: the models that accept a body dump it alike. -/
def settingsPayload : Schema := fun value =>
  match deviceLookupSettings value, clientMappingSettings P value, proxyMappingSettings P value with
  | .ok settings, _, _ => .ok settings
  | _, .ok settings, _ => .ok settings
  | _, _, outcome => outcome

end

end NetworkGateway.Api
