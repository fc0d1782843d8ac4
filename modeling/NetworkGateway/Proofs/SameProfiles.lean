import NetworkGateway.Library.Related
import NetworkGateway.Proofs.ResolvedCredentials

/-! Profiles that are equal as Python dictionaries: the order of their keys does not matter. -/

namespace NetworkGateway.Store

open Library.Dict Library.Result Library.Table

def SameConnector (one other : Option Value) : Prop :=
  one = other ∨ ∃ a b, one = some (.dict a) ∧ other = some (.dict b) ∧ Same a b

structure SameProfile (a b : Dict) : Prop where
  fields : ∀ key ≠ "connector", a.lookup key = b.lookup key
  connector : SameConnector (a.lookup "connector") (b.lookup "connector")

theorem SameProfile.of_same {a b : Dict} (same : Same a b) : SameProfile a b :=
  ⟨fun key _ => same key, .inl (same "connector")⟩

theorem SameProfile.refl (a : Dict) : SameProfile a a := SameProfile.of_same (fun _ => rfl)

theorem SameProfile.symm {a b : Dict} (same : SameProfile a b) : SameProfile b a := by
  refine ⟨fun key other => (same.fields key other).symm, ?_⟩
  rcases same.connector with equal | ⟨c, d, left, right, inner⟩
  · exact .inl equal.symm
  · exact .inr ⟨d, c, right, left, fun key => (inner key).symm⟩

theorem Same.merge {a b : Dict} (same : Same a b) (c : Dict) : Same (merge a c) (merge b c) := by
  intro key
  rw [lookup_merge, lookup_merge, same]

theorem SameProfile.merge {a b : Dict} (same : SameProfile a b) (c : Dict) : SameProfile (merge a c) (merge b c) := by
  constructor
  · intro key other
    rw [lookup_merge, lookup_merge, same.fields key other]
  · rw [lookup_merge, lookup_merge]
    cases c.lookup "connector" with
    | none => exact same.connector
    | some value => exact .inl rfl

theorem SameProfile.setDefault {a b : Dict} (same : SameProfile a b) (key : String) (value : Value) :
    SameProfile (setDefault a key value) (setDefault b key value) := by
  constructor
  · intro field other
    rw [lookup_setDefault, lookup_setDefault, same.fields field other]
  · rw [lookup_setDefault, lookup_setDefault]
    rcases same.connector with equal | ⟨c, d, left, right, inner⟩
    · exact .inl (by rw [equal])
    · rw [left, right]
      exact .inr ⟨c, d, rfl, rfl, inner⟩

theorem SameProfile.setConnector {a b c d : Dict} (same : SameProfile a b) (inner : Same c d) :
    SameProfile (set a "connector" (.dict c)) (set b "connector" (.dict d)) := by
  constructor
  · intro key other
    rw [lookup_set, if_neg other, lookup_set, if_neg other]
    exact same.fields key other
  · rw [lookup_set, if_pos rfl, lookup_set, if_pos rfl]
    exact .inr ⟨c, d, rfl, rfl, inner⟩

section

variable {Token : Type} (P : Platform Token) (self : GatewayStore) (db : Db Token)

def decodedProxy (id : String) : Except PyError Dict := do
  let proxy ← row (find ProxyRow.id db.proxies id)
  storedProfile P self proxy.columns proxy.configuration proxy.secrets

def decodedConnection (id : String) : Except PyError Dict := do
  let connection ← row (find ConnectionRow.id db.connections id)
  storedProfile P self connection.columns connection.configuration connection.secrets

/-- `_resolve_proxy` of the row with the given id. -/
def resolvedProxy (id : String) : Except PyError Dict := do
  let proxy ← row (find ProxyRow.id db.proxies id)
  resolveProxy P self db proxy

/-- Rows that decode to equal profiles, under the same role accounts. -/
structure InventorySame {Token : Type} (P : Platform Token) (store : GatewayStore) (db other : Db Token) : Prop where
  roleAccounts : other.roleAccounts = db.roleAccounts
  proxies : ∀ id, Agree Same (decodedProxy P store db id) (decodedProxy P store other id)
  connections : ∀ id, Agree SameProfile (decodedConnection P store db id) (decodedConnection P store other id)

/-- Nothing a reader could tell the two states by: every profile resolves the same, and the rest is equal. -/
structure Unchanged {Token : Type} (P : Platform Token) (store : GatewayStore) (db other : Db Token) : Prop where
  proxies : ∀ id, Agree Same (resolvedProxy P store db id) (resolvedProxy P store other id)
  connections : ∀ id, Agree SameProfile (resolveConnection P store db id) (resolveConnection P store other id)
  elsewhere : { other with proxies := db.proxies, connections := db.connections } = db

variable {P self db} {other : Db Token}

theorem agree_refl {R : Dict → Dict → Prop} (reflexive : ∀ a, R a a) (x : Except PyError Dict) : Agree R x x := by
  cases x with
  | ok a => exact .ok (reflexive a)
  | error e => exact .error e

theorem Unchanged.refl (P : Platform Token) (self : GatewayStore) (db : Db Token) : Unchanged P self db db :=
  ⟨fun _ => agree_refl (fun _ _ => rfl) _, fun _ => agree_refl SameProfile.refl _, rfl⟩

theorem resolvedProxy_decoded (id : String) :
    resolvedProxy P self db id = decodedProxy P self db id >>= withRole P self db := by
  unfold resolvedProxy decodedProxy
  cases find ProxyRow.id db.proxies id with
  | none => rfl
  | some proxy => rfl

theorem roleCredentials_same (roles : other.roleAccounts = db.roleAccounts) (roleId : Value) :
    roleCredentials P self other roleId = roleCredentials P self db roleId := by
  unfold roleCredentials
  rw [roles]

theorem withRole_same {R : Dict → Dict → Prop}
    (reads : ∀ a b, R a b → a.lookup "role_account_id" = b.lookup "role_account_id")
    (merges : ∀ a b c, R a b → R (merge a c) (merge b c)) (roles : other.roleAccounts = db.roleAccounts) {a b : Dict}
    (same : R a b) : Agree R (withRole P self db a) (withRole P self other b) := by
  have reference : Dict.get a "role_account_id" = Dict.get b "role_account_id" := by
    rw [Dict.get_eq, Dict.get_eq, reads a b same]
  unfold withRole
  rw [reference, roleCredentials_same roles]
  split
  · cases roleCredentials P self db (Dict.get b "role_account_id") with
    | error raised => exact .error raised
    | ok credentials => exact .ok (merges a b credentials same)
  · exact .ok same

theorem InventorySame.resolvedProxy (same : InventorySame P self db other) (id : String) :
    Agree Same (resolvedProxy P self db id) (resolvedProxy P self other id) := by
  rw [resolvedProxy_decoded, resolvedProxy_decoded]
  apply (same.proxies id).bind
  intro a b profiles
  exact withRole_same (fun _ _ equal => equal "role_account_id") (fun _ _ c equal => Same.merge equal c)
    same.roleAccounts profiles

theorem withProxy_eq (profile : Dict) : withProxy P self db profile =
    if (Dict.get profile "proxy_id").truthy then
      match Dict.get profile "proxy_id" with
      | .str id => do
          let connector ← resolvedProxy P self db id
          return set profile "connector" (.dict connector)
      | _ => .error notFound
    else .ok profile := by
  unfold withProxy
  split
  · cases Dict.get profile "proxy_id" with
    | str id =>
        dsimp only [findProxy, Store.resolvedProxy]
        cases find ProxyRow.id db.proxies id with
        | none => rfl
        | some proxy => rfl
    | none | bool | int | float | list | dict => rfl
  · rfl

theorem InventorySame.withProxy (same : InventorySame P self db other) {a b : Dict} (profiles : SameProfile a b) :
    Agree SameProfile (withProxy P self db a) (withProxy P self other b) := by
  have reference : Dict.get a "proxy_id" = Dict.get b "proxy_id" := by
    rw [Dict.get_eq, Dict.get_eq, profiles.fields "proxy_id" (by decide)]
  rw [withProxy_eq, withProxy_eq, reference]
  split
  · split
    · apply (same.resolvedProxy _).bind
      intro c d connectors
      exact .ok (profiles.setConnector connectors)
    · exact .error notFound
  · exact .ok profiles

theorem InventorySame.resolveConnection (same : InventorySame P self db other) (id : String) :
    Agree SameProfile (resolveConnection P self db id) (resolveConnection P self other id) := by
  have steps : ∀ held : Db Token, Store.resolveConnection P self held id = decodedConnection P self held id >>= fun stored => do
      let credentialed ← withRole P self held (setDefault stored "client_type" (.str "network"))
      let accessed ← Store.withProxy P self held credentialed
      return setDefault accessed "connector" (.dict [("type", .str "direct")]) := by
    intro held
    unfold Store.resolveConnection decodedConnection
    cases find ConnectionRow.id held.connections id with
    | none => rfl
    | some connection => rfl
  rw [steps, steps]
  apply (same.connections id).bind
  intro a b stored
  have credentials : Agree SameProfile (withRole P self db (setDefault a "client_type" (.str "network")))
      (withRole P self other (setDefault b "client_type" (.str "network"))) :=
    withRole_same (fun _ _ equal => equal.fields _ (by decide)) (fun _ _ c equal => equal.merge c)
      same.roleAccounts (stored.setDefault _ _)
  apply credentials.bind
  intro c d credentialed
  apply (same.withProxy credentialed).bind
  intro e f accessed
  exact .ok (accessed.setDefault _ _)

theorem InventorySame.unchanged (same : InventorySame P self db other)
    (elsewhere : { other with proxies := db.proxies, connections := db.connections } = db) : Unchanged P self db other :=
  ⟨same.resolvedProxy, same.resolveConnection, elsewhere⟩

end

end NetworkGateway.Store
