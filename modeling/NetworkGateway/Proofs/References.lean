import NetworkGateway.Dal.Bench
import NetworkGateway.Proofs.RouteHistory
import NetworkGateway.Proofs.RowShapes

/-! References between the tables of the inventory, over whole runs. -/

namespace NetworkGateway.Store

open Library.Dict Library.Result Library.Run Library.Table

section

variable {Token : Type} {P : Platform Token} {self : GatewayStore} {fresh : Fresh} {db written : Db Token}

structure InventorySound (P : Platform Token) (db : Db Token) : Prop where
  roleKeys : Keyed RoleAccountRow.id db.roleAccounts
  proxyKeys : Keyed ProxyRow.id db.proxies
  connectionKeys : Keyed ConnectionRow.id db.connections
  roles : ∀ role ∈ db.roleAccounts, SecretsWithin P role.secrets Secrets.secretFields
  proxies : ∀ proxy ∈ db.proxies, ProxySound P db.roleAccounts proxy
  connections : ∀ connection ∈ db.connections, ConnectionSound P db.roleAccounts db.proxies connection

/-! A reference survives what keeps its row. -/

theorem References.put {ρ : Type} {key : ρ → String} {rows : List ρ} {reference : Option String}
    (references : References key rows reference) (row : ρ) : References key (put key rows row) reference := by
  intro id named
  have held := references id named
  refine ⟨held.1, ?_⟩
  rw [find_put]
  split
  · rfl
  · exact held.2

theorem References.remove {ρ : Type} {key : ρ → String} {rows : List ρ} {reference : Option String}
    {deleted : String} (references : References key rows reference) (free : reference ≠ some deleted) :
    References key (remove key rows deleted) reference := by
  intro id named
  have held := references id named
  have apart : id ≠ deleted := fun same => free (same ▸ named)
  refine ⟨held.1, ?_⟩
  rw [find_remove, if_neg apart]
  exact held.2

theorem roleReferenced_false {id : String} (free : roleReferenced db id = false) :
    (∀ connection ∈ db.connections, connection.roleAccountId ≠ some id) ∧
      ∀ proxy ∈ db.proxies, proxy.roleAccountId ≠ some id := by
  have both := (Bool.or_eq_false_iff).mp free
  constructor
  · intro connection member same
    have differs := List.any_eq_false.mp both.1 connection member
    exact differs (by rw [same]; exact beq_self_eq_true _)
  · intro proxy member same
    have differs := List.any_eq_false.mp both.2 proxy member
    exact differs (by rw [same]; exact beq_self_eq_true _)

theorem proxyReferenced_false {id : String} (free : proxyReferenced db id = false) :
    ∀ connection ∈ db.connections, connection.proxyId ≠ some id := by
  intro connection member same
  have differs := List.any_eq_false.mp free connection member
  exact differs (by rw [same]; exact beq_self_eq_true _)

/-! The invariant over one change. -/

theorem inventory_of_same (roleAccounts : written.roleAccounts = db.roleAccounts)
    (proxies : written.proxies = db.proxies) (connections : written.connections = db.connections)
    (sound : InventorySound P db) : InventorySound P written := by
  constructor
  · rw [roleAccounts]; exact sound.roleKeys
  · rw [proxies]; exact sound.proxyKeys
  · rw [connections]; exact sound.connectionKeys
  · rw [roleAccounts]; exact sound.roles
  · rw [roleAccounts, proxies]; exact sound.proxies
  · rw [roleAccounts, proxies, connections]; exact sound.connections

theorem inventory_saveRole {role : RoleAccountRow Token}
    (secrets : SecretsWithin P role.secrets Secrets.secretFields) (sound : InventorySound P db) :
    InventorySound P { db with roleAccounts := put RoleAccountRow.id db.roleAccounts role } := by
  refine ⟨keyed_put sound.roleKeys role, sound.proxyKeys, sound.connectionKeys, ?_, ?_, ?_⟩
  · intro held member
    rcases mem_put.mp member with same | kept
    · rw [same]
      exact secrets
    · exact sound.roles held kept.1
  · intro proxy member
    have held := sound.proxies proxy member
    exact ⟨held.role.put role, held.configuration, held.secrets⟩
  · intro connection member
    have held := sound.connections connection member
    exact { held with role := held.role.put role }

theorem inventory_saveProxy {proxy : ProxyRow Token} (shape : ProxySound P db.roleAccounts proxy)
    (sound : InventorySound P db) :
    InventorySound P { db with proxies := put ProxyRow.id db.proxies proxy } := by
  refine ⟨sound.roleKeys, keyed_put sound.proxyKeys proxy, sound.connectionKeys, sound.roles, ?_, ?_⟩
  · intro held member
    rcases mem_put.mp member with same | kept
    · rw [same]
      exact shape
    · exact sound.proxies held kept.1
  · intro connection member
    have held := sound.connections connection member
    exact { held with proxy := held.proxy.put proxy }

theorem inventory_saveConnection {connection : ConnectionRow Token}
    (shape : ConnectionSound P db.roleAccounts db.proxies connection) (sound : InventorySound P db) :
    InventorySound P { db with connections := put ConnectionRow.id db.connections connection } := by
  refine ⟨sound.roleKeys, sound.proxyKeys, keyed_put sound.connectionKeys connection, sound.roles,
    sound.proxies, ?_⟩
  intro held member
  rcases mem_put.mp member with same | kept
  · rw [same]
    exact shape
  · exact sound.connections held kept.1

theorem inventory_deleteRole {id : String} (free : roleReferenced db id = false) (sound : InventorySound P db) :
    InventorySound P { db with roleAccounts := remove RoleAccountRow.id db.roleAccounts id } := by
  have others := roleReferenced_false free
  refine ⟨keyed_remove sound.roleKeys id, sound.proxyKeys, sound.connectionKeys, ?_, ?_, ?_⟩
  · intro role member
    exact sound.roles role (mem_remove.mp member).1
  · intro proxy member
    have held := sound.proxies proxy member
    exact ⟨held.role.remove (others.2 proxy member), held.configuration, held.secrets⟩
  · intro connection member
    have held := sound.connections connection member
    exact { held with role := held.role.remove (others.1 connection member) }

theorem inventory_deleteProxy {id : String} (free : proxyReferenced db id = false)
    (sound : InventorySound P db) :
    InventorySound P { db with proxies := remove ProxyRow.id db.proxies id } := by
  refine ⟨sound.roleKeys, keyed_remove sound.proxyKeys id, sound.connectionKeys, sound.roles, ?_, ?_⟩
  · intro proxy member
    exact sound.proxies proxy (mem_remove.mp member).1
  · intro connection member
    have held := sound.connections connection member
    exact { held with proxy := held.proxy.remove (proxyReferenced_false free connection member) }

theorem effect_inventory (effect : Effect P self fresh db written) (sound : InventorySound P db) :
    InventorySound P written := by
  cases effect with
  | elsewhere roleAccounts proxies connections _ => exact inventory_of_same roleAccounts proxies connections sound
  | jobs _ roleAccounts proxies connections => exact inventory_of_same roleAccounts proxies connections sound
  | savedRole payload itemId view returned =>
      rcases saveRoleAccount_ok returned with ⟨_, _, role, _, _, saved, _, rfl⟩
      exact inventory_saveRole (saveRole_secrets saved) sound
  | savedProxy payload itemId view returned =>
      rcases saveProxyResource_ok returned with ⟨_, _, proxy, _, _, saved, _, same⟩
      rw [same]
      exact inventory_saveProxy (saveProxy_sound saved) sound
  | savedConnection payload itemId view returned =>
      rcases saveConnectionResource_ok returned with ⟨_, _, connection, _, _, saved, _, same⟩
      rw [same]
      exact inventory_saveConnection (saveConnection_sound saved) sound
  | deletedRole id returned =>
      rcases deleteRole_ok.mp returned with ⟨_, free, rfl⟩
      exact inventory_deleteRole free sound
  | deletedProxy id returned =>
      rcases deleteProxy_ok.mp returned with ⟨_, free, rfl⟩
      exact inventory_deleteProxy free sound
  | deletedConnection id returned =>
      rcases deleteConnection_ok.mp returned with ⟨_, rfl⟩
      refine ⟨sound.roleKeys, sound.proxyKeys, keyed_remove sound.connectionKeys id, sound.roles,
        sound.proxies, ?_⟩
      intro connection member
      exact sound.connections connection (mem_remove.mp member).1

theorem inventorySound_empty : InventorySound P (Db.empty : Db Token) :=
  ⟨List.nodup_nil, List.nodup_nil, List.nodup_nil, nofun, nofun, nofun⟩

theorem run_inventory (calls : List Call) : InventorySound P (run (after P) Db.empty calls) :=
  run_invariant (InventorySound P) (fun call db => effect_inventory (after_change P call db).effect)
    inventorySound_empty calls

/-! Reading what exists never ends in `Resource not found.` -/

/-- The exceptions of a vault that cannot open a token and of JSON of another shape. -/
def Unreadable (error : PyError) : Prop := error = .type ∨ ∃ message, error = .secret message

theorem decrypt_error {token : Token} {error : PyError} (raised : Secrets.decrypt P self token = .error error) :
    Unreadable error := by
  unfold Secrets.decrypt at raised
  split at raised
  · cases raised
  · exact .inr ⟨_, (Except.error.inj raised).symm⟩

theorem asDict_error {value : Value} {error : PyError} (raised : asDict value = .error error) :
    Unreadable error := by
  unfold asDict at raised
  split at raised
  · cases raised
  · exact .inl (Except.error.inj raised).symm

theorem addConnectorSecrets_error {result : Dict} {secrets : Value} {error : PyError}
    (raised : addConnectorSecrets result secrets = .error error) : Unreadable error := by
  unfold addConnectorSecrets at raised
  split at raised
  · rw [bind_eq_error] at raised
    rcases raised with raised | ⟨_, _, raised⟩
    · exact asDict_error raised
    · rw [bind_eq_error] at raised
      rcases raised with raised | ⟨_, _, raised⟩
      · exact asDict_error raised
      · cases raised
  · cases raised

theorem opened_error {α : Type} {token : Token} {next : Dict → Except PyError α} {error : PyError}
    (raised : (do let secrets ← asDict (← Secrets.decrypt P self token); next secrets) = .error error) :
    Unreadable error ∨ ∃ secrets, next secrets = .error error := by
  rw [bind_eq_error] at raised
  rcases raised with raised | ⟨_, _, raised⟩
  · exact .inl (decrypt_error raised)
  · rw [bind_eq_error] at raised
    rcases raised with raised | ⟨secrets, _, raised⟩
    · exact .inl (asDict_error raised)
    · exact .inr ⟨secrets, raised⟩

theorem storedProfile_error {columns configuration : Dict} {secrets : Token} {error : PyError}
    (raised : storedProfile P self columns configuration secrets = .error error) : Unreadable error := by
  rcases opened_error raised with unreadable | ⟨_, raised⟩
  · exact unreadable
  · exact addConnectorSecrets_error raised

theorem roleCredentials_error {id : String} (present : (find RoleAccountRow.id db.roleAccounts id).isSome)
    {error : PyError} (raised : roleCredentials P self db (.str id) = .error error) : Unreadable error := by
  rcases Option.isSome_iff_exists.mp present with ⟨role, found⟩
  simp only [roleCredentials, found, row, ok_bind] at raised
  rcases opened_error raised with unreadable | ⟨_, raised⟩
  · exact unreadable
  · cases raised

theorem withRole_error {profile : Dict} {reference : Option String}
    (named : profile.lookup "role_account_id" = some (Value.ofOption reference))
    (references : References RoleAccountRow.id db.roleAccounts reference) {error : PyError}
    (raised : withRole P self db profile = .error error) : Unreadable error := by
  unfold withRole at raised
  rw [Dict.get_eq, named, Option.getD_some] at raised
  cases reference with
  | none => cases raised
  | some id =>
      have present := references id rfl
      have truthy : (Value.ofOption (some id)).truthy = true := by simpa using present.1
      rw [if_pos truthy, bind_eq_error] at raised
      rcases raised with raised | ⟨_, _, raised⟩
      · exact roleCredentials_error present.2 raised
      · cases raised

theorem SecretsWithin.opened (laws : P.VaultLaws) {token : Token} {keys : List String} {held : Dict}
    (within : SecretsWithin P token keys) (opened : Secrets.decrypt P self token = .ok (.dict held)) :
    Within held keys := by
  rcases within with ⟨key, iv, stored, rfl, listed⟩
  have same := Value.dict.inj (Secrets.decrypt_authentic self laws opened)
  rw [same]
  exact listed

theorem ProxySound.column (laws : P.VaultLaws) {roles : List (RoleAccountRow Token)} {proxy : ProxyRow Token}
    (sound : ProxySound P roles proxy) {profile : Dict}
    (decoded : storedProfile P self proxy.columns proxy.configuration proxy.secrets = .ok profile)
    (key : String) (plain : key ∉ "connector" :: configurationFields ++ Secrets.secretFields) :
    profile.lookup key = proxy.columns.lookup key := by
  rcases storedProfile_ok.mp decoded with ⟨held, opened, _⟩
  have secrets := sound.secrets.opened laws opened
  simp only [configurationFields, List.cons_append, List.nil_append, List.mem_cons, not_or] at plain
  rw [storedProfile_lookup decoded opened plain.1, secrets.lookup, sound.configuration.lookup, Option.none_or,
    Option.none_or]
  · simp only [List.mem_cons, List.not_mem_nil, or_false, not_or]
    exact ⟨plain.2.1, plain.2.2.1, plain.2.2.2.1⟩
  · exact plain.2.2.2.2.2.2

theorem ConnectionSound.column (laws : P.VaultLaws) {roles : List (RoleAccountRow Token)}
    {proxies : List (ProxyRow Token)} {connection : ConnectionRow Token}
    (sound : ConnectionSound P roles proxies connection) {profile : Dict}
    (decoded : storedProfile P self connection.columns connection.configuration connection.secrets = .ok profile)
    (key : String) (plain : key ∉ "connector" :: configurationFields ++ Secrets.secretFields) :
    profile.lookup key = connection.columns.lookup key := by
  rcases storedProfile_ok.mp decoded with ⟨held, opened, _⟩
  rcases sound.secrets with ⟨_, _, stored, same, listed, _⟩
  rw [same] at opened
  have equal := Value.dict.inj (Secrets.decrypt_authentic self laws opened)
  rw [← same] at opened
  rw [List.cons_append, List.mem_cons, List.mem_append, not_or, not_or] at plain
  rw [storedProfile_lookup decoded opened plain.1, equal, listed.lookup, sound.configuration.lookup plain.2.1,
    Option.none_or, Option.none_or]
  rw [List.mem_cons, not_or]
  exact ⟨plain.1, plain.2.2⟩

theorem resolveProxy_error (laws : P.VaultLaws) {proxy : ProxyRow Token}
    (sound : ProxySound P db.roleAccounts proxy) {error : PyError}
    (raised : resolveProxy P self db proxy = .error error) : Unreadable error := by
  rw [resolveProxy, bind_eq_error] at raised
  rcases raised with raised | ⟨profile, decoded, raised⟩
  · exact storedProfile_error raised
  · have named := sound.column laws decoded "role_account_id" (by decide)
    exact withRole_error named sound.role raised

theorem findProxy_known {id : String} (present : (find ProxyRow.id db.proxies id).isSome) :
    ∃ proxy, findProxy db (.str id) = .ok proxy ∧ proxy ∈ db.proxies ∧ proxy.id = id := by
  rcases Option.isSome_iff_exists.mp present with ⟨proxy, found⟩
  exact ⟨proxy, by simp [findProxy, found], find_mem found⟩

def credentialFields : List String := "username" :: "authentication_type" :: Secrets.secretFields

theorem Within.merge {first second : Dict} {keys : List String} (left : Within first keys)
    (right : Within second keys) : Within (merge first second) keys := by
  apply Within.append
  · intro entry member
    rcases List.mem_map.mp member with ⟨held, heldMember, same⟩
    rw [← same]
    exact left held heldMember
  · intro entry member
    exact right entry (List.mem_of_mem_filter member)

theorem roleCredentials_within (laws : P.VaultLaws) (sound : InventorySound P db) {roleId : Value}
    {credentials : Dict} (returned : roleCredentials P self db roleId = .ok credentials) :
    Within credentials credentialFields := by
  unfold roleCredentials at returned
  split at returned
  · simp only [bind_eq_ok, row_ok, asDict_ok, pure_eq, Except.ok.injEq] at returned
    rcases returned with ⟨role, found, _, opened, held, rfl, rfl⟩
    have secrets := (sound.roles role (find_mem found).1).opened laws opened
    refine Within.merge ?_ (secrets.mono (by decide))
    exact Within.cons _ (by decide) (Within.cons _ (by decide) (Within.nil _))
  · cases returned

theorem withRole_lookup (laws : P.VaultLaws) (sound : InventorySound P db) {profile resolved : Dict}
    (returned : withRole P self db profile = .ok resolved) {key : String} (plain : key ∉ credentialFields) :
    resolved.lookup key = profile.lookup key := by
  rcases withRole_ok.mp returned with ⟨_, rfl⟩ | ⟨credentials, _, found, rfl⟩
  · rfl
  · rw [lookup_merge, (roleCredentials_within laws sound found).lookup plain, Option.none_or]

theorem resolveConnection_error (laws : P.VaultLaws) (sound : InventorySound P db) {itemId : String}
    (present : (find ConnectionRow.id db.connections itemId).isSome) {error : PyError}
    (raised : resolveConnection P self db itemId = .error error) : Unreadable error := by
  rcases Option.isSome_iff_exists.mp present with ⟨connection, found⟩
  have shape := sound.connections connection (find_mem found).1
  simp only [resolveConnection, found, row, ok_bind] at raised
  rw [bind_eq_error] at raised
  rcases raised with raised | ⟨stored, decoded, raised⟩
  · exact storedProfile_error raised
  have role := shape.column laws decoded "role_account_id" (by decide)
  have proxy := shape.column laws decoded "proxy_id" (by decide)
  rw [bind_eq_error] at raised
  rcases raised with raised | ⟨credentialed, credentials, raised⟩
  · refine withRole_error ?_ shape.role raised
    rw [lookup_setDefault, role]
    rfl
  rw [bind_eq_error] at raised
  rcases raised with raised | ⟨_, _, raised⟩
  · have named : credentialed.lookup "proxy_id" = some (Value.ofOption connection.proxyId) := by
      rw [withRole_lookup laws sound credentials (by decide), lookup_setDefault, proxy]
      rfl
    unfold withProxy at raised
    rw [Dict.get_eq, named, Option.getD_some] at raised
    cases unset : connection.proxyId with
    | none =>
        rw [unset] at raised
        cases raised
    | some id =>
        rw [unset] at raised
        have known := shape.proxy id unset
        rcases findProxy_known known.2 with ⟨held, located, member, _⟩
        have truthy : (Value.ofOption (some id)).truthy = true := by simpa using known.1
        rw [if_pos truthy] at raised
        simp only [Value.ofOption, located, ok_bind] at raised
        rw [bind_eq_error] at raised
        rcases raised with raised | ⟨_, _, raised⟩
        · exact resolveProxy_error laws (sound.proxies held member) raised
        · cases raised
  · cases raised

mutual
theorem publicRuntime_error (value : Value) {error : PyError} (raised : publicRuntime value = .error error) :
    Unreadable error := by
  cases value with
  | dict entries =>
      rw [publicRuntime, bind_eq_error] at raised
      rcases raised with raised | ⟨connector, _, raised⟩
      · exact publicConnector_error entries raised
      · cases connector <;> cases raised
  | none | bool | int | float | str | list =>
      rw [publicRuntime] at raised
      · exact .inl (Except.error.inj raised).symm
      · nofun
theorem publicConnector_error (entries : Dict) {error : PyError}
    (raised : publicConnector entries = .error error) : Unreadable error := by
  cases entries with
  | nil => cases raised
  | cons head tail =>
      rcases head with ⟨key, value⟩
      rw [publicConnector] at raised
      split at raised
      · rw [bind_eq_error] at raised
        rcases raised with raised | ⟨_, _, raised⟩
        · exact publicRuntime_error value raised
        · cases raised
      · exact publicConnector_error tail raised
end

theorem publicRole_error {role : RoleAccountRow Token} {error : PyError}
    (raised : publicRole P self role = .error error) : Unreadable error := by
  rcases opened_error raised with unreadable | ⟨_, raised⟩
  · exact unreadable
  · cases raised

theorem publicProxy_error (laws : P.VaultLaws) (sound : InventorySound P db) {proxy : ProxyRow Token}
    (member : proxy ∈ db.proxies) {error : PyError} (raised : publicProxy P self db proxy = .error error) :
    Unreadable error := by
  rw [publicProxy, bind_eq_error] at raised
  rcases raised with raised | ⟨_, _, raised⟩
  · exact resolveProxy_error laws (sound.proxies proxy member) raised
  · exact publicRuntime_error _ raised

theorem publicConnection_error (laws : P.VaultLaws) (sound : InventorySound P db)
    {connection : ConnectionRow Token} (member : connection ∈ db.connections) {error : PyError}
    (raised : publicConnection P self db connection = .error error) : Unreadable error := by
  rw [publicConnection, bind_eq_error] at raised
  rcases raised with raised | ⟨_, _, raised⟩
  · refine resolveConnection_error laws sound ?_ raised
    rw [find_of_mem sound.connectionKeys member]
    rfl
  · exact publicRuntime_error _ raised

/-- A read whose body can only fail to open what is stored does not answer 404. -/
theorem reading_found {α : Type} {body : Except PyError α} {message : String}
    (unreadable : ∀ error, body = .error error → Unreadable error) :
    reading self body ≠ .error (.store message 404) := by
  unfold reading
  cases self.closed with
  | true => simp [closedError]
  | false =>
      cases outcome : body with
      | ok result => nofun
      | error error =>
          rcases unreadable error outcome with rfl | ⟨_, rfl⟩
          · simp [translate]
          · simp [translate]

theorem resolve_found (laws : P.VaultLaws) (sound : InventorySound P db) {id message : String}
    (present : (find ConnectionRow.id db.connections id).isSome) :
    resolve P self db id ≠ .error (.store message 404) :=
  reading_found (fun _ raised => resolveConnection_error laws sound present raised)

theorem get_found (laws : P.VaultLaws) (sound : InventorySound P db) {resource id message : String}
    (present : resource = "connections" ∧ (find ConnectionRow.id db.connections id).isSome ∨
      resource = "proxies" ∧ (find ProxyRow.id db.proxies id).isSome ∨
      resource = "role_accounts" ∧ (find RoleAccountRow.id db.roleAccounts id).isSome) :
    get P self db resource id ≠ .error (.store message 404) := by
  rcases present with ⟨rfl, held⟩ | ⟨rfl, held⟩ | ⟨rfl, held⟩ <;>
    rcases Option.isSome_iff_exists.mp held with ⟨found, located⟩
  · refine reading_found (fun error raised => ?_)
    simp only [located, row, ok_bind] at raised
    exact publicConnection_error laws sound (find_mem located).1 raised
  · refine reading_found (fun error raised => ?_)
    simp only [located, row, ok_bind] at raised
    exact publicProxy_error laws sound (find_mem located).1 raised
  · refine reading_found (fun error raised => ?_)
    simp only [located, row, ok_bind] at raised
    exact publicRole_error raised

theorem list_found (laws : P.VaultLaws) (sound : InventorySound P db) {resource message : String}
    (known : resource ∈ ["role_accounts", "proxies", "connections"]) :
    list P self db resource ≠ .error (.store message 404) := by
  simp only [List.mem_cons, List.not_mem_nil, or_false] at known
  rcases known with rfl | rfl | rfl
  · refine reading_found (fun error raised => ?_)
    rcases each_error _ _ _ raised with ⟨role, _, raised⟩
    exact publicRole_error raised
  · refine reading_found (fun error raised => ?_)
    rcases each_error _ _ _ raised with ⟨proxy, member, raised⟩
    exact publicProxy_error laws sound (mem_byName.mp member) raised
  · refine reading_found (fun error raised => ?_)
    rcases each_error _ _ _ raised with ⟨connection, member, raised⟩
    exact publicConnection_error laws sound (mem_byName.mp member) raised

/-! Deletion. -/

def Referenced (db : Db Token) (resource id : String) : Prop :=
  resource = "role_accounts" ∧ ((∃ connection ∈ db.connections, connection.roleAccountId = some id) ∨
    ∃ proxy ∈ db.proxies, proxy.roleAccountId = some id) ∨
  resource = "proxies" ∧ ∃ connection ∈ db.connections, connection.proxyId = some id

theorem roleReferenced_iff {id : String} : roleReferenced db id = true ↔
    (∃ connection ∈ db.connections, connection.roleAccountId = some id) ∨
      ∃ proxy ∈ db.proxies, proxy.roleAccountId = some id := by
  simp [roleReferenced]

theorem proxyReferenced_iff {id : String} :
    proxyReferenced db id = true ↔ ∃ connection ∈ db.connections, connection.proxyId = some id := by
  simp [proxyReferenced]

/-- A guarded removal answers 409 exactly when its guard holds. -/
theorem guarded_conflict {ρ α : Type} {found : Option ρ} {guarded : Bool} {result : α × Db Token}
    (open_ : self.closed = false) (held : guarded = true → found.isSome) :
    (∃ message, (transaction self db (do
        let _ ← row found
        raiseWhen guarded referencedError
        return result)).1 = .error (.store message 409)) ↔ guarded = true := by
  unfold transaction
  rw [open_]
  cases guarded with
  | true =>
      rcases Option.isSome_iff_exists.mp (held rfl) with ⟨row, rfl⟩
      simp [Store.row, referencedError, translate]
  | false => cases found <;> simp [Store.row, notFound, translate]

theorem delete_conflict (sound : InventorySound P db) (resource id : String) (open_ : self.closed = false) :
    (∃ message, (delete self db resource id).1 = .error (.store message 409)) ↔ Referenced db resource id := by
  by_cases roles : resource = "role_accounts"
  · subst roles
    have held : roleReferenced db id = true → (find RoleAccountRow.id db.roleAccounts id).isSome := by
      intro referenced
      rcases roleReferenced_iff.mp referenced with ⟨connection, member, same⟩ | ⟨proxy, member, same⟩
      · exact ((sound.connections connection member).role id same).2
      · exact ((sound.proxies proxy member).role id same).2
    refine (guarded_conflict open_ held).trans (roleReferenced_iff.trans ?_)
    simp [Referenced]
  by_cases proxies : resource = "proxies"
  · subst proxies
    have held : proxyReferenced db id = true → (find ProxyRow.id db.proxies id).isSome := by
      intro referenced
      rcases proxyReferenced_iff.mp referenced with ⟨connection, member, same⟩
      exact ((sound.connections connection member).proxy id same).2
    refine (guarded_conflict open_ held).trans (proxyReferenced_iff.trans ?_)
    simp [Referenced]
  have unreferenced : ¬ Referenced db resource id := by simp [Referenced, roles, proxies]
  refine iff_of_false ?_ unreferenced
  rintro ⟨message, refused⟩
  by_cases connections : resource = "connections"
  · subst connections
    unfold delete checked at refused
    simp only [table, transaction, open_, deleteConnection, Bool.false_eq_true, if_false] at refused
    cases found : find ConnectionRow.id db.connections id with
    | none => simp [found, row, notFound, translate] at refused
    | some connection => simp [found, row] at refused
  · have unknown : table resource = .error (.store "Unknown resource." 404) := by
      unfold table
      split <;> simp_all
    simp [delete, checked, unknown] at refused

/-! Both halves at every reachable state. -/

/-- Every reference of the database names a row. -/
structure ReferencesHold (db : Db Token) : Prop where
  proxyRole : ∀ proxy ∈ db.proxies, ∀ id, proxy.roleAccountId = some id →
    (find RoleAccountRow.id db.roleAccounts id).isSome
  connectionRole : ∀ connection ∈ db.connections, ∀ id, connection.roleAccountId = some id →
    (find RoleAccountRow.id db.roleAccounts id).isSome
  connectionProxy : ∀ connection ∈ db.connections, ∀ id, connection.proxyId = some id →
    (find ProxyRow.id db.proxies id).isSome
  route : ∀ route ∈ db.staticRoutes, (find ConnectionRow.id db.connections route.connectionId).isSome
  marker : ∀ id ∈ db.staticRouteInitializations, (find ConnectionRow.id db.connections id).isSome

/-- What follows for callers: reads of existing rows are never answered with 404, and
409 tells that the target of a delete is in use. -/
structure ReferencesServe (P : Platform Token) (db : Db Token) : Prop where
  resolve : ∀ self id message, (find ConnectionRow.id db.connections id).isSome →
    resolve P self db id ≠ .error (.store message 404)
  connection : ∀ self id message, (find ConnectionRow.id db.connections id).isSome →
    get P self db "connections" id ≠ .error (.store message 404)
  proxy : ∀ self id message, (find ProxyRow.id db.proxies id).isSome →
    get P self db "proxies" id ≠ .error (.store message 404)
  list : ∀ self resource message, resource ∈ ["role_accounts", "proxies", "connections"] →
    list P self db resource ≠ .error (.store message 404)
  delete : ∀ self resource id, self.closed = false →
    ((∃ message, (delete self db resource id).1 = .error (.store message 409)) ↔ Referenced db resource id)

theorem references_intact (laws : P.VaultLaws) (calls : List Call) :
    ReferencesHold (run (after P) Db.empty calls) ∧ ReferencesServe P (run (after P) Db.empty calls) := by
  have sound : InventorySound P (run (after P) Db.empty calls) := run_inventory calls
  have routes : RoutesSound P (run (after P) Db.empty calls) := run_routesSound calls
  constructor
  · constructor
    · intro proxy member id same
      exact ((sound.proxies proxy member).role id same).2
    · intro connection member id same
      exact ((sound.connections connection member).role id same).2
    · intro connection member id same
      exact ((sound.connections connection member).proxy id same).2
    · intro route member
      exact routes.exist _ (routes.marked route member)
    · exact routes.exist
  · constructor
    · intro self id message present
      exact resolve_found laws sound present
    · intro self id message present
      exact get_found laws sound (.inl ⟨rfl, present⟩)
    · intro self id message present
      exact get_found laws sound (.inr (.inl ⟨rfl, present⟩))
    · intro self resource message known
      exact list_found laws sound known
    · intro self resource id open_
      exact delete_conflict sound resource id open_

def proxiedDevice : List Call :=
  [⟨Bench.store, Bench.fresh "role", .save "role_accounts" Bench.operator none⟩,
   ⟨Bench.store, Bench.fresh "bastion", .save "proxies" (Bench.bastion "role") none⟩,
   ⟨Bench.store, Bench.fresh "device", .save "connections" (Bench.proxied "bastion") none⟩]

theorem references_intact_proxied :
    (∃ message, (delete Bench.store (run (after Platform.bench) Db.empty proxiedDevice) "proxies" "bastion").1 =
      .error (.store message 409)) ∧
    resolve Platform.bench Bench.store (run (after Platform.bench) Db.empty proxiedDevice) "device" ≠
      .error (.store "Resource not found." 404) := by
  have serve := (references_intact Platform.bench_vaultLaws proxiedDevice).2
  constructor
  · apply (serve.delete Bench.store "proxies" "bastion" rfl).mpr
    refine .inr ⟨rfl, ?_⟩
    exact proxyReferenced_iff.mp rfl
  · exact serve.resolve Bench.store "device" _ rfl

end

end NetworkGateway.Store
