import NetworkGateway.Dal.Inventory

/-! `app/dal/db/store.py`: transactions, and the calls `list`, `get`, `save`,
`delete` and `resolve_connection` made in them. -/

namespace NetworkGateway.Store

open Library.Dict Library.Result Library.Table

def closedError : PyError := .store "Gateway store is closed." 503

/-- The exceptions `_transaction` replaces. -/
def translate : PyError → PyError
  | .secret message => .store message 503
  | .integrity => .store "Operation conflicts with a reference or an active job." 409
  | .database => .store "Gateway database operation failed." 503
  | error => error

section

variable {Token : Type} {α : Type}

/-- `with self._transaction() as db`: the body's writes are kept only if it returns. -/
def transaction (self : GatewayStore) (db : Db Token) (body : Except PyError (α × Db Token)) :
    Except PyError α × Db Token :=
  if self.closed then (.error closedError, db)
  else match body with
    | .ok (result, written) => (.ok result, written)
    | .error error => (.error (translate error), db)

def reading (self : GatewayStore) (body : Except PyError α) : Except PyError α :=
  if self.closed then .error closedError
  else match body with
    | .ok result => .ok result
    | .error error => .error (translate error)

def checked {β : Type} (db : Db Token) (check : Except PyError β)
    (call : β → Except PyError α × Db Token) : Except PyError α × Db Token :=
  match check with
  | .ok value => call value
  | .error error => (.error error, db)

theorem transaction_ok {self : GatewayStore} {db written : Db Token}
    {body : Except PyError (α × Db Token)} {result : α} :
    transaction self db body = (.ok result, written) ↔
      self.closed = false ∧ body = .ok (result, written) := by
  unfold transaction
  cases self.closed with
  | true => simp
  | false =>
      rcases body with error | ⟨held, kept⟩ <;> simp

theorem checked_ok {β : Type} {db written : Db Token} {check : Except PyError β}
    {call : β → Except PyError α × Db Token} {result : α}
    (returned : checked db check call = (.ok result, written)) :
    ∃ value, check = .ok value ∧ call value = (.ok result, written) := by
  unfold checked at returned
  cases check with
  | ok value => exact ⟨value, rfl, returned⟩
  | error error => cases returned

theorem transaction_error {self : GatewayStore} {db written : Db Token}
    {body : Except PyError (α × Db Token)} {error : PyError}
    (raised : transaction self db body = (.error error, written)) : written = db := by
  unfold transaction at raised
  cases closed : self.closed with
  | true => simp_all
  | false => rcases body with e | ⟨held, kept⟩ <;> simp_all

theorem reading_ok {self : GatewayStore} {body : Except PyError α} {result : α} :
    reading self body = .ok result ↔ self.closed = false ∧ body = .ok result := by
  unfold reading
  cases self.closed <;> cases body <;> simp

end

section

variable {Token : Type} (P : Platform Token) (self : GatewayStore)

/-- `UPDATE` of the row with the written row's key, or `INSERT` under its primary key. -/
def write {ρ : Type} (key : ρ → String) (rows : List ρ) (update : Bool) (written : ρ) :
    Except PyError (List ρ) :=
  if update then .ok (replace key rows (key written) (fun _ => written))
  else if (find key rows (key written)).isSome then .error .integrity
  else .ok (rows ++ [written])

/-- The row an update starts from: an absent or empty id asks for a new row. -/
def target {ρ : Type} (key : ρ → String) (rows : List ρ) (itemId : Option String) :
    Except PyError (Option ρ) :=
  match itemId with
  | none => .ok none
  | some id => if id = "" then .ok none else do
      let found ← row (find key rows id)
      return some found

def previousRole : Option (RoleAccountRow Token) → Except PyError Dict
  | some role => storedProfile P self role.columns [] role.secrets
  | none => .ok []

def previousProxy : Option (ProxyRow Token) → Except PyError Dict
  | some proxy => storedProfile P self proxy.columns proxy.configuration proxy.secrets
  | none => .ok []

def previousConnection : Option (ConnectionRow Token) → Except PyError Dict
  | some connection =>
      storedProfile P self connection.columns connection.configuration connection.secrets
  | none => .ok []

def saveRoleAccount (db : Db Token) (fresh : Fresh) (payload : Dict) (itemId : Option String) :
    Except PyError (Value × Db Token) := do
  let held ← target RoleAccountRow.id db.roleAccounts itemId
  let previous ← previousRole P self held
  let id := (held.map RoleAccountRow.id).getD fresh.id
  let role ← saveRole P self fresh.iv id payload previous
  let roleAccounts ← write RoleAccountRow.id db.roleAccounts held.isSome role
  let view ← publicRole P self role
  return (view, { db with roleAccounts })

def saveProxyResource (db : Db Token) (fresh : Fresh) (payload : Dict) (itemId : Option String) :
    Except PyError (Value × Db Token) := do
  let held ← target ProxyRow.id db.proxies itemId
  let previous ← previousProxy P self held
  let id := (held.map ProxyRow.id).getD fresh.id
  let proxy ← saveProxy P self db fresh.iv id payload previous
  let proxies ← write ProxyRow.id db.proxies held.isSome proxy
  let view ← publicProxy P self { db with proxies } proxy
  return (view, { db with proxies })

def saveConnectionResource (db : Db Token) (fresh : Fresh) (payload : Dict)
    (itemId : Option String) : Except PyError (Value × Db Token) := do
  let held ← target ConnectionRow.id db.connections itemId
  let previous ← previousConnection P self held
  let id := (held.map ConnectionRow.id).getD fresh.id
  let connection ← saveConnection P self db fresh.iv id payload previous
  let connections ← write ConnectionRow.id db.connections held.isSome connection
  let view ← publicConnection P self { db with connections } connection
  return (view, { db with connections })

def save (db : Db Token) (fresh : Fresh) (resource : String) (payload : Value)
    (itemId : Option String) : Except PyError Value × Db Token :=
  checked db (table resource) fun resource =>
  checked db (checkFields payload (fields resource)) fun payload =>
  transaction self db <| match resource with
    | .roleAccounts => saveRoleAccount P self db fresh payload itemId
    | .proxies => saveProxyResource P self db fresh payload itemId
    | .connections => saveConnectionResource P self db fresh payload itemId

def referencedError : PyError := .store "Resource is still referenced." 409

def roleReferenced (db : Db Token) (id : String) : Bool :=
  db.connections.any (fun row => row.roleAccountId == some id) ||
    db.proxies.any (fun row => row.roleAccountId == some id)

def proxyReferenced (db : Db Token) (id : String) : Bool :=
  db.connections.any (fun row => row.proxyId == some id)

def deleteRole (db : Db Token) (id : String) : Except PyError (Unit × Db Token) := do
  let _ ← row (find RoleAccountRow.id db.roleAccounts id)
  raiseWhen (roleReferenced db id) referencedError
  return ((), { db with roleAccounts := remove RoleAccountRow.id db.roleAccounts id })

def deleteProxy (db : Db Token) (id : String) : Except PyError (Unit × Db Token) := do
  let _ ← row (find ProxyRow.id db.proxies id)
  raiseWhen (proxyReferenced db id) referencedError
  return ((), { db with proxies := remove ProxyRow.id db.proxies id })

/-- The static routes and the seed marker of a connection go with it (ON DELETE CASCADE). -/
def deleteConnection (db : Db Token) (id : String) : Except PyError (Unit × Db Token) := do
  let _ ← row (find ConnectionRow.id db.connections id)
  return ((), { db with
    connections := remove ConnectionRow.id db.connections id
    staticRouteInitializations := db.staticRouteInitializations.filter (· ≠ id)
    staticRoutes := db.staticRoutes.filter (fun route => route.connectionId ≠ id) })

def delete (db : Db Token) (resource itemId : String) : Except PyError Unit × Db Token :=
  checked db (table resource) fun resource =>
  transaction self db <| match resource with
    | .roleAccounts => deleteRole db itemId
    | .proxies => deleteProxy db itemId
    | .connections => deleteConnection db itemId

/-- `ORDER BY name, id`. -/
def byName {ρ : Type} (name id : ρ → String) (rows : List ρ) : List ρ :=
  rows.insertionSort (fun a b => name a < name b ∨ name a = name b ∧ id a ≤ id b)

theorem mem_byName {ρ : Type} {name id : ρ → String} {rows : List ρ} {row : ρ} :
    row ∈ byName name id rows ↔ row ∈ rows :=
  List.mem_insertionSort _

def list (db : Db Token) (resource : String) : Except PyError (List Value) := do
  let resource ← table resource
  reading self <| match resource with
    | .roleAccounts => each (publicRole P self) (byName RoleAccountRow.name RoleAccountRow.id db.roleAccounts)
    | .proxies => each (publicProxy P self db) (byName ProxyRow.name ProxyRow.id db.proxies)
    | .connections =>
        each (publicConnection P self db) (byName ConnectionRow.name ConnectionRow.id db.connections)

def get (db : Db Token) (resource itemId : String) : Except PyError Value := do
  let resource ← table resource
  reading self <| match resource with
    | .roleAccounts => do publicRole P self (← row (find RoleAccountRow.id db.roleAccounts itemId))
    | .proxies => do publicProxy P self db (← row (find ProxyRow.id db.proxies itemId))
    | .connections => do
        publicConnection P self db (← row (find ConnectionRow.id db.connections itemId))

/-- `resolve_connection`. -/
def resolve (db : Db Token) (itemId : String) : Except PyError Dict :=
  reading self (resolveConnection P self db itemId)

end

end NetworkGateway.Store
