import NetworkGateway.Python.Uuid
import NetworkGateway.Dal.StaticRoutes

/-! `app/dal/db/store.py`: the append-only transaction log and the static-route
mutations that are audited in their own transaction. -/

namespace NetworkGateway.Store

open Library.Dict Library.Result Library.Scan Library.Table

/-! Redaction of audit state and detail. -/

def sensitiveKeyNames : List String :=
  Secrets.secretFields ++
    ["secret", "secrets", "token", "access_token", "refresh_token", "id_token", "authorization",
     "client_secret", "api_key", "apikey", "connection_string", "database_url", "db_url", "dsn"]

/-- The words `_SENSITIVE_KEY_RE` searches for, its optional separators written out. -/
def sensitiveKeyWords : List String :=
  ["password", "passphrase", "secret", "token", "privatekey", "private_key", "private-key",
   "apikey", "api_key", "api-key", "authorization", "credential", "connectionstring",
   "connection_string", "connection-string", "databaseurl", "database_url", "database-url",
   "dburl", "db_url", "db-url", "dsn"]

/-- A lower-case word under `re.IGNORECASE`. -/
def foldWord (text : List Char) : Matcher Char := fun input =>
  if (input.take text.length).map Text.foldCase = text then some text.length else none

def sensitiveKey (key : String) : Bool :=
  sensitiveKeyNames.contains (Text.lower key) ||
    sensitiveKeyWords.any (fun w => occurs (foldWord w.toList) key.toList)

/-- `[A-Za-z0-9\-_.=]` under `re.IGNORECASE`. -/
def tokenChar (c : Char) : Bool :=
  c.isAlphanum || c == '-' || c == '_' || c == '.' || c == '=' ||
    [0x130, 0x131, 0x17F, 0x212A].contains c.toNat

/-- `_BEARER_RE`. -/
def bearer : Matcher Char := fun input =>
  match foldWord "bearer".toList input with
  | none => none
  | some scheme =>
      let spaces := (input.drop scheme).takeWhile Text.isSpace
      let credential := (input.drop (scheme + spaces.length)).takeWhile tokenChar
      if spaces.isEmpty || credential.isEmpty then none
      else some (scheme + spaces.length + credential.length)

/-- `.*?(?:-----END [^-]*PRIVATE KEY-----|\$)`: the second alternative is the
dollar character itself. -/
def pemKeyBody : List Char → Option Nat
  | [] => none
  | c :: rest =>
      match Secrets.pemLabel "END" (c :: rest) with
      | some n => some n
      | none => if c = '$' then some 1 else (pemKeyBody rest).map (1 + ·)

/-- `_PEM_KEY_RE`. -/
def pemKey : Matcher Char := fun input =>
  match Secrets.pemLabel "BEGIN" input with
  | some n => (pemKeyBody (input.drop n)).map (n + ·)
  | none => none

def redactText (value : String) : String :=
  let value := subst bearer "Bearer [redacted]".toList value.toList
  let value := subst pemKey "[redacted]".toList value
  Text.truncate (String.ofList value) 4000

mutual
def redactRecursive : Value → Value
  | .dict entries => .dict (redactEntries entries)
  | .list items => .list (redactItems items)
  | .str s => .str (redactText s)
  | value => value
def redactEntries : Dict → Dict
  | [] => []
  | (k, v) :: rest =>
      (k, if sensitiveKey k then .str "[redacted]" else redactRecursive v) :: redactEntries rest
def redactItems : List Value → List Value
  | [] => []
  | v :: rest => redactRecursive v :: redactItems rest
end

/-! Validation of a record. -/

def validateUuid (value : Value) (label : String) : Except PyError String :=
  let error := invalid ("Invalid " ++ label ++ "; must be a UUID string.")
  match value with
  | .str s => match Uuid.parse s with
    | some parsed => .ok parsed
    | none => .error error
  | _ => .error error

/-- `_text` on a field that may be `None`. -/
def optionalText (value : Value) (label : String) (limit : Nat) : Except PyError (Option String) :=
  if value = .none then .ok none else do
    let text ← text value label false limit
    return some text

def optionalUuid (value : Value) (label : String) : Except PyError (Option String) :=
  if value = .none then .ok none else do
    let parsed ← validateUuid value label
    return some parsed

/-- `_GATEWAY_ROLES`, sorted. -/
def gatewayRoles : List String := ["Administrator", "Operator", "Viewer"]

/-- `sorted(set(actor_roles))` after its checks. -/
def actorRoles (value : Value) : Except PyError (List String) :=
  let error := invalid "actor_roles must be a list of role names."
  match value with
  | .list items => match Value.strings items with
    | some roles =>
        if roles.all gatewayRoles.contains then .ok (gatewayRoles.filter roles.contains)
        else .error (invalid "actor_roles must only contain Viewer, Operator, or Administrator.")
    | none => .error error
  | _ => .error error

/-- Membership in a `frozenset` of texts: an unhashable value raises. -/
def hashable : Value → Except PyError Unit
  | .list _ | .dict _ => .error .type
  | _ => .ok ()

def authMode (value : Value) : Except PyError AuthMode := do
  hashable value
  if value = .str "entra" then return .entra
  else if value = .str "demo" then return .demo
  else throw (invalid "auth_mode must be entra or demo.")

def outcome (value : Value) : Except PyError Outcome := do
  hashable value
  if value = .str "succeeded" then return .succeeded
  else if value = .str "failed" then return .failed
  else throw (invalid "outcome must be succeeded or failed.")

def auditState (value : Value) (label : String) : Except PyError Value :=
  match value with
  | .none | .dict _ | .list _ => .ok value
  | _ => .error (invalid (label ++ " must be an object, array, or null."))

/-- A caller's correlation id, or a new one. -/
def correlation (fresh : Fresh) (value : Value) : Except PyError String :=
  if value.truthy then validateUuid value "correlation_id" else .ok fresh.correlationId

def validateTransaction (fresh : Fresh) (payload : Value) : Except PyError TransactionRow :=
  match payload with
  | .dict payload => do
      let correlationId ← correlation fresh (Dict.get payload "correlation_id")
      let actorSubject ← text (Dict.get payload "actor_subject") "actor_subject" true 255
      let actorTenantId ← optionalUuid (Dict.get payload "actor_tenant_id") "actor_tenant_id"
      let actorName ← text (Dict.get payload "actor_name") "actor_name" true 200
      let actorEmail ← optionalText (Dict.get payload "actor_email") "actor_email" 320
      let roles ← actorRoles (Dict.get payload "actor_roles")
      let mode ← authMode (Dict.get payload "auth_mode")
      let action ← text (Dict.get payload "action") "action" true 100
      let resourceType ← text (Dict.get payload "resource_type") "resource_type" true 64
      let resourceId ← optionalText (Dict.get payload "resource_id") "resource_id" 64
      let connectionId ← optionalUuid (Dict.get payload "connection_id") "connection_id"
      let result ← outcome (Dict.get payload "outcome")
      let beforeState ← auditState (Dict.get payload "before_state") "before_state"
      let afterState ← auditState (Dict.get payload "after_state") "after_state"
      let detail ← optionalText (Dict.get payload "detail") "detail" 4000
      let requestMethod ← optionalText (Dict.get payload "request_method") "request_method" 10
      let requestPath ← optionalText (Dict.get payload "request_path") "request_path" 2048
      return {
        id := fresh.recordId
        timestampUtc := fresh.now.format
        correlationId, actorSubject, actorTenantId, actorName, actorEmail
        actorRoles := roles
        authMode := mode
        action, resourceType, resourceId, connectionId
        outcome := result
        beforeState := redactRecursive beforeState
        afterState := redactRecursive afterState
        detail := redactRecursive (Value.ofOption detail)
        requestMethod, requestPath }
  | _ => .error (invalid "Transaction payload must be an object.")

section

variable {Token : Type} (P : Platform Token) (self : GatewayStore)

/-- The database may refuse the audit insert. -/
def auditInsert (fresh : Fresh) : Except PyError Unit :=
  match fresh.auditFault with
  | some fault => .error fault
  | none => .ok ()

def insertTransaction (db : Db Token) (fresh : Fresh) (payload : Value) :
    Except PyError (TransactionRow × Db Token) := do
  let record ← validateTransaction fresh payload
  auditInsert fresh
  raiseWhen (db.transactions.any (fun held => held.id == record.id)) .integrity
  return (record, { db with transactions := db.transactions ++ [record] })

def auditPayload (audit : Value) (resourceId connectionId : String) (before after : Value) :
    Except PyError Value := do
  let audit ← asDict audit
  return .dict (merge audit
    [("resource_type", .str "static_route"), ("resource_id", .str resourceId),
     ("connection_id", .str connectionId), ("outcome", .str "succeeded"),
     ("before_state", before), ("after_state", after)])

def appendTransaction (db : Db Token) (fresh : Fresh) (payload : Value) :
    Except PyError TransactionRow × Db Token :=
  transaction self db (insertTransaction db fresh payload)

def createAudited (db : Db Token) (fresh : Fresh) (connectionId : String) (payload audit : Value) :
    Except PyError (StaticRouteRow × Db Token) := do
  let (route, db) ← createStaticRouteRow P self db fresh connectionId payload
  let record ← auditPayload audit route.id connectionId .none (.dict route.columns)
  let (_, db) ← insertTransaction db fresh record
  return (route, db)

def updateAudited (db : Db Token) (fresh : Fresh) (connectionId routeId : String)
    (payload audit : Value) : Except PyError (StaticRouteRow × Db Token) := do
  let ((before, after), db) ← updateStaticRouteRow P self db fresh connectionId routeId payload
  let record ← auditPayload audit routeId connectionId (.dict before.columns) (.dict after.columns)
  let (_, db) ← insertTransaction db fresh record
  return (after, db)

def deleteAudited (db : Db Token) (fresh : Fresh) (connectionId routeId : String) (audit : Value) :
    Except PyError (Unit × Db Token) := do
  let (before, db) ← deleteStaticRouteRow P self db fresh connectionId routeId
  let record ← auditPayload audit routeId connectionId (.dict before.columns) .none
  let (_, db) ← insertTransaction db fresh record
  return ((), db)

def createStaticRouteAudited (db : Db Token) (fresh : Fresh) (connectionId : String)
    (payload audit : Value) : Except PyError StaticRouteRow × Db Token :=
  transaction self db (createAudited P self db fresh connectionId payload audit)

def updateStaticRouteAudited (db : Db Token) (fresh : Fresh) (connectionId routeId : String)
    (payload audit : Value) : Except PyError StaticRouteRow × Db Token :=
  transaction self db (updateAudited P self db fresh connectionId routeId payload audit)

def deleteStaticRouteAudited (db : Db Token) (fresh : Fresh) (connectionId routeId : String)
    (audit : Value) : Except PyError Unit × Db Token :=
  transaction self db (deleteAudited P self db fresh connectionId routeId audit)

end

end NetworkGateway.Store
