import NetworkGateway.Dal.Bench
import NetworkGateway.Dal.FakeClientCalls
import NetworkGateway.Proofs.AccessPaths

/-! Route mutations and the access path they were pending on. -/

namespace NetworkGateway.FakeClient

open Library.Dict Library.Result Library.Run Library.Table Store

section

variable {Token : Type} (P : Platform Token)

/-- `_validate_fake_path` accepts the connection as the client's store resolves it. -/
def Access (request : Request) (db : Db Token) : Prop :=
  ∃ profile, resolve P request.store db request.connectionId = .ok profile ∧ validateFakePath profile = .ok ()

/-- A save on the connection, its role, its proxy or the proxy's role gives what the check reads of
them no other value than it has. -/
structure Spares (call : Store.Call) (request : Request) (profile connector : Dict) : Prop where
  connection : ∀ payload, call.op = .save "connections" (.dict payload) (some request.connectionId) →
    Leaves connectionPath payload profile
  role : ∀ payload id, call.op = .save "role_accounts" (.dict payload) (some id) →
    profile.lookup "role_account_id" = some (.str id) → Leaves passwordLogin payload profile
  proxy : ∀ payload id, call.op = .save "proxies" (.dict payload) (some id) →
    profile.lookup "proxy_id" = some (.str id) → Leaves proxyPath payload connector
  proxyRole : ∀ payload id, call.op = .save "role_accounts" (.dict payload) (some id) →
    connector.lookup "role_account_id" = some (.str id) → Leaves passwordLogin payload connector

/-- The call's store has the vault key of the client's, gives no new connection the client's id, and
spares the client's path. -/
structure KeepsPath (call : Store.Call) (request : Request) (db : Db Token) : Prop where
  key : call.self.key = request.store.key
  unused : ∀ payload itemId, call.op = .save "connections" payload itemId → itemId.getD "" = "" →
    call.fresh.id ≠ request.connectionId
  spares : ∀ profile connector, resolve P request.store db request.connectionId = .ok profile →
    profile.lookup "connector" = some (.dict connector) → Spares call request profile connector

/-- A call of another client that commits keeps the path of every waiting mutation. -/
def KeepsPaths (event : Event) (state : State Token) : Prop :=
  ∀ call reply, event = .store call → (perform P call state.db).1 = .ok reply →
    ∀ request ∈ state.waiting, KeepsPath P call request state.db

variable {P}
variable {db written : Db Token} {request : Request}

theorem profile_ok {self : GatewayStore} {connectionId : String} {found : Dict} :
    profile P self db connectionId = .ok found ↔
      resolve P self db connectionId = .ok found ∧ validateFakePath found = .ok () := by
  simp only [profile, bind_eq_ok, pure_eq, Except.ok.injEq]
  constructor
  · rintro ⟨resolved, read, _, accepted, rfl⟩
    exact ⟨read, accepted⟩
  · rintro ⟨read, accepted⟩
    exact ⟨found, read, (), accepted, rfl⟩

theorem not_access {error : PyError} (raised : profile P request.store db request.connectionId = .error error) :
    ¬Access P request db := by
  rintro ⟨found, valid⟩
  rw [profile_ok.mpr valid] at raised
  cases raised

/-! What the check reads. -/

theorem validateFakePath_ok {profile : Dict} : validateFakePath profile = .ok () ↔
    Dict.getOr profile "client_type" (.str "network") = .str "fake" ∧
      ∃ connector, Dict.get profile "connector" = .dict connector ∧ deviceAccess profile = true ∧
        proxyAccess profile connector = true := by
  unfold validateFakePath
  rw [bind_eq_ok]
  simp only [raiseWhen_ok, exists_const, bne_eq_false_iff_eq]
  cases Dict.get profile "connector" with
  | dict connector => simp
  | none | bool | int | float | str | list => simp

/-- The check reads the path of the profile and of its proxy only. -/
theorem validateFakePath_same {before after connector connector' : Dict}
    (outer : SameFields (connectionPath ++ loginFields) before after) (old : before.lookup "connector" = some (.dict connector))
    (new : after.lookup "connector" = some (.dict connector'))
    (inner : SameFields (proxyPath ++ loginFields) connector connector') (valid : validateFakePath before = .ok ()) :
    validateFakePath after = .ok () := by
  have get : ∀ key ∈ connectionPath ++ loginFields, Dict.get after key = Dict.get before key := by
    intro key member
    rw [Dict.get_eq, Dict.get_eq, outer key member]
  have proxied : ∀ key ∈ proxyPath ++ loginFields, Dict.get connector' key = Dict.get connector key := by
    intro key member
    rw [Dict.get_eq, Dict.get_eq, inner key member]
  have device : deviceAccess after = deviceAccess before := by
    unfold deviceAccess holds
    rw [get "id" (by decide), get "role_account_id" (by decide), get "protocol" (by decide), get "host" (by decide),
      get "port" (by decide), get "authentication_type" (by decide), get "username" (by decide), get "password" (by decide)]
  have proxy : proxyAccess after connector' = proxyAccess before connector := by
    unfold proxyAccess holds
    rw [get "proxy_id" (by decide), proxied "id" (by decide), proxied "role_account_id" (by decide),
      proxied "type" (by decide), proxied "host" (by decide), proxied "port" (by decide),
      proxied "authentication_type" (by decide), proxied "username" (by decide), proxied "password" (by decide)]
  rcases validateFakePath_ok.mp valid with ⟨simulated, held, there, accepted, through⟩
  rw [Dict.get_eq, old] at there
  cases there
  apply validateFakePath_ok.mpr
  refine ⟨?_, connector', by rw [Dict.get_eq, new]; rfl, device.trans accepted, proxy.trans through⟩
  rw [Dict.getOr, outer _ (by decide)]
  exact simulated

structure Path (P : Platform Token) (request : Request) (db : Db Token) (connection : ConnectionRow Token)
    (proxy : ProxyRow Token) (role proxyId proxyRole : String) (profile connector : Dict) : Prop where
  opened : request.store.closed = false
  resolves : resolveConnection P request.store db request.connectionId = .ok profile
  valid : validateFakePath profile = .ok ()
  found : find ConnectionRow.id db.connections request.connectionId = some connection
  roled : connection.roleAccountId = some role
  login : RoleLogin P request.store db (some role) profile
  proxied : connection.proxyId = some proxyId
  selected : profile.lookup "proxy_id" = some (.str proxyId)
  through : resolvedProxy P request.store db proxyId = .ok connector
  inner : profile.lookup "connector" = some (.dict connector)
  located : find ProxyRow.id db.proxies proxyId = some proxy
  proxyRoled : proxy.roleAccountId = some proxyRole
  proxyLogin : RoleLogin P request.store db (some proxyRole) connector

theorem truthy_reference {reference : Option String} {profile : Dict} {key : String}
    (held : profile.lookup key = some (Value.ofOption reference)) (truthy : (Dict.get profile key).truthy = true) :
    ∃ id, reference = some id := by
  cases reference with
  | none =>
      rw [Dict.get_eq, held] at truthy
      cases truthy
  | some id => exact ⟨id, rfl⟩

theorem Access.path (laws : P.VaultLaws) (kept : InventoryKept P db) (access : Access P request db) :
    ∃ connection proxy role proxyId proxyRole profile connector,
      Path P request db connection proxy role proxyId proxyRole profile connector := by
  rcases access with ⟨profile, resolved, valid⟩
  rcases reading_ok.mp resolved with ⟨opened, resolves⟩
  rcases validateFakePath_ok.mp valid with ⟨-, connector, held, device, proxied⟩
  rcases resolveConnection_login laws kept resolves with ⟨connection, found, login, reference, saved⟩
  simp only [deviceAccess, proxyAccess, Bool.and_eq_true] at device proxied
  rcases truthy_reference login.1 device.1.1.1.1.1.1.2 with ⟨role, roled⟩
  rcases truthy_reference reference proxied.1.1.1.1.1.1.1.1 with ⟨proxyId, selected⟩
  rcases saved proxyId selected with ⟨inner, through, bound⟩
  rw [Dict.get_eq, bound] at held
  cases held
  rcases resolvedProxy_login laws kept through with ⟨proxy, located, proxyLogin⟩
  rcases truthy_reference proxyLogin.1 proxied.1.1.1.1.1.1.2 with ⟨proxyRole, proxyRoled⟩
  rw [roled] at login
  rw [selected] at reference
  rw [proxyRoled] at proxyLogin
  exact ⟨connection, proxy, role, proxyId, proxyRole, profile, connector, opened, resolves, valid, found, roled, login, selected,
    reference, through, bound, located, proxyRoled, proxyLogin⟩

/-! What a call leaves of the path. -/

section

variable {fresh : Fresh} {payload : Dict} {itemId : Option String} {view : Value} {connection : ConnectionRow Token}
  {proxy : ProxyRow Token} {role proxyId proxyRole : String} {profile connector : Dict}

theorem credentials_kept (laws : P.VaultLaws) (kept : InventoryKept P db) {self : GatewayStore}
    (returned : saveRoleAccount P self db fresh payload itemId = .ok (view, written)) {references : Option String}
    (known : References RoleAccountRow.id db.roleAccounts references) (named : references = some role) {held : Dict}
    (login : RoleLogin P self db (some role) held) (leaves : itemId = some role → Leaves passwordLogin payload held)
    {username password : String} (user : FakeClient.holds held "username" (.str username) = true) (bare : Text.strip username = username)
    (method : FakeClient.holds held "authentication_type" (.str "password") = true)
    (secret : FakeClient.holds held "password" (.str password) = true) :
    roleCredentials P self written (.str role) = roleCredentials P self db (.str role) := by
  have present := known role named
  by_cases aimed : itemId = some role
  · rcases login.2 role rfl with ⟨credentials, found, same⟩
    have read : ∀ key ∈ passwordLogin, held.lookup key = credentials.lookup key := by
      intro key member
      have listed : ∀ key ∈ passwordLogin, key ∈ loginFields := by decide
      exact same key (listed key member)
    have left : Leaves passwordLogin payload credentials := by
      intro key member value given
      rw [← read key member]
      exact leaves aimed key member value given
    have bound : ∀ key text, key ∈ passwordLogin → FakeClient.holds held key (.str text) = true →
        credentials.lookup key = some (.str text) := by
      intro key text member holding
      rw [← read key member]
      exact lookup_of_get (by simpa [FakeClient.holds] using holding) (by simp)
    rw [aimed] at returned
    rw [found, saveRoleAccount_leaves laws kept.roles present.1 returned found left (bound _ _ (by decide) user) bare
      (bound _ _ (by decide) method) (bound _ _ (by decide) secret)]
  · exact saveRoleAccount_elsewhere returned (fun same => absurd same aimed) present.2

theorem Path.access (path : Path P request db connection proxy role proxyId proxyRole profile connector)
    (resolves : resolveConnection P request.store written request.connectionId = .ok profile) : Access P request written :=
  ⟨profile, reading_ok.mpr ⟨path.opened, resolves⟩, path.valid⟩

theorem Path.logins (path : Path P request db connection proxy role proxyId proxyRole profile connector) :
    (FakeClient.holds profile "username" (.str deviceUsername) = true ∧
      FakeClient.holds profile "authentication_type" (.str "password") = true ∧
      FakeClient.holds profile "password" (.str devicePassword) = true) ∧
    FakeClient.holds connector "username" (.str proxyUsername) = true ∧
      FakeClient.holds connector "authentication_type" (.str "password") = true ∧
      FakeClient.holds connector "password" (.str proxyPassword) = true := by
  rcases validateFakePath_ok.mp path.valid with ⟨-, held, there, device, proxied⟩
  rw [Dict.get_eq, path.inner] at there
  cases there
  simp only [deviceAccess, proxyAccess, Bool.and_eq_true] at device proxied
  exact ⟨⟨device.1.2, device.1.1.2, device.2⟩, proxied.1.2, proxied.1.1.2, proxied.2⟩

theorem Path.same (laws : P.VaultLaws) (kept : InventoryKept P db)
    (path : Path P request db connection proxy role proxyId proxyRole profile connector)
    (roles : ∀ id ∈ [role, proxyRole], find RoleAccountRow.id written.roleAccounts id = find RoleAccountRow.id db.roleAccounts id)
    (proxies : find ProxyRow.id written.proxies proxyId = find ProxyRow.id db.proxies proxyId)
    (connections : find ConnectionRow.id written.connections request.connectionId =
      find ConnectionRow.id db.connections request.connectionId) : Access P request written := by
  have credentials : ∀ id ∈ [role, proxyRole],
      roleCredentials P request.store written (.str id) = roleCredentials P request.store db (.str id) := by
    intro id member
    simp only [roleCredentials, roles id member]
  apply path.access
  apply resolveConnection_agreeing laws kept.sound connections _ _ path.resolves
  · intro held id found named
    cases path.found.symm.trans found
    cases path.roled.symm.trans named
    exact credentials role (by simp)
  · intro held id found named
    cases path.found.symm.trans found
    cases path.proxied.symm.trans named
    apply resolvedProxy_agreeing laws kept.sound proxies
    intro held id located named
    cases path.located.symm.trans located
    cases path.proxyRoled.symm.trans named
    exact credentials proxyRole (by simp)

variable {call : Store.Call}

theorem Path.savedRole (laws : P.VaultLaws) (kept : InventoryKept P db)
    (path : Path P request db connection proxy role proxyId proxyRole profile connector)
    (op : call.op = .save "role_accounts" (.dict payload) itemId) (spares : Spares call request profile connector)
    (returned : saveRoleAccount P request.store db fresh payload itemId = .ok (view, written)) : Access P request written := by
  rcases saveRoleAccount_ok returned with ⟨-, -, _, -, -, -, -, rows⟩
  have device := kept.sound.connections connection (find_mem path.found).1
  have through := kept.sound.proxies proxy (find_mem path.located).1
  rcases path.logins with ⟨deviceLogin, proxyLogin⟩
  apply path.access
  apply resolveConnection_agreeing laws kept.sound _ _ _ path.resolves
  · rw [rows]
  · intro held id found named
    cases path.found.symm.trans found
    cases path.roled.symm.trans named
    apply credentials_kept laws kept returned device.role path.roled path.login _ deviceLogin.1 rfl deviceLogin.2.1
      deviceLogin.2.2
    intro aimed
    exact spares.role payload role (aimed ▸ op) path.login.1
  · intro held id found named
    cases path.found.symm.trans found
    cases path.proxied.symm.trans named
    apply resolvedProxy_agreeing laws kept.sound (by rw [rows])
    intro held id located named
    cases path.located.symm.trans located
    cases path.proxyRoled.symm.trans named
    apply credentials_kept laws kept returned through.role path.proxyRoled path.proxyLogin _ proxyLogin.1 rfl proxyLogin.2.1
      proxyLogin.2.2
    intro aimed
    exact spares.proxyRole payload proxyRole (aimed ▸ op) path.proxyLogin.1

theorem Path.savedProxy (laws : P.VaultLaws) (kept : InventoryKept P db)
    (path : Path P request db connection proxy role proxyId proxyRole profile connector)
    (op : call.op = .save "proxies" (.dict payload) itemId) (spares : Spares call request profile connector)
    (listed : Within payload (fields .proxies))
    (returned : saveProxyResource P request.store db fresh payload itemId = .ok (view, written)) : Access P request written := by
  rcases saveProxyResource_ok returned with ⟨-, -, _, -, -, -, -, rows⟩
  have known := (kept.sound.connections connection (find_mem path.found).1).proxy proxyId path.proxied
  by_cases aimed : itemId = some proxyId
  · rw [aimed] at returned
    rcases saveProxyResource_update known.1 returned with ⟨update⟩
    have leaves := spares.proxy payload proxyId (aimed ▸ op) path.selected
    rcases update.leaves laws kept listed path.through path.proxyLogin.1 leaves with ⟨resolved, same⟩
    rcases resolveConnection_proxied laws kept.sound (by rw [rows]) (by rw [rows]) path.found path.proxied path.through
      resolved same path.resolves with ⟨after, resolves, outer, inner, inner', old, new, agree⟩
    cases path.inner.symm.trans old
    have plain : SameFields (connectionPath ++ loginFields) profile after := by
      intro key member
      have apart : ∀ key ∈ connectionPath ++ loginFields, key ≠ "connector" := by decide
      exact outer key (apart key member)
    exact ⟨after, reading_ok.mpr ⟨path.opened, resolves⟩, validateFakePath_same plain old new agree path.valid⟩
  · apply path.same laws kept _ (saveProxyResource_elsewhere returned (fun there => absurd there aimed) known.2) (by rw [rows])
    intro _ _
    rw [rows]

theorem Path.savedConnection (laws : P.VaultLaws) (kept : InventoryKept P db)
    (path : Path P request db connection proxy role proxyId proxyRole profile connector)
    (op : call.op = .save "connections" (.dict payload) itemId) (spares : Spares call request profile connector)
    (listed : Within payload (fields .connections))
    (returned : saveConnectionResource P request.store db fresh payload itemId = .ok (view, written)) :
    Access P request written := by
  rcases saveConnectionResource_ok returned with ⟨-, -, _, -, -, -, -, rows⟩
  by_cases aimed : itemId = some request.connectionId ∧ request.connectionId ≠ ""
  · rw [aimed.1] at returned
    rcases saveConnectionResource_update aimed.2 returned with ⟨update⟩
    have leaves := spares.connection payload (aimed.1 ▸ op)
    have same := update.leaves laws kept listed path.resolves path.login.1 path.selected leaves
    have plain : SameFields (connectionPath ++ loginFields) profile update.resolved :=
      fun key member => same key (List.mem_cons_of_mem _ member)
    have inner := (same "connector" List.mem_cons_self).trans path.inner
    exact ⟨update.resolved, reading_ok.mpr ⟨path.opened, update.resolves⟩,
      validateFakePath_same plain path.inner inner (fun _ _ => rfl) path.valid⟩
  · apply path.same laws kept (fun _ _ => by rw [rows]) (by rw [rows])
    apply saveConnectionResource_elsewhere returned
    · intro there
      by_contra named
      exact aimed ⟨there, named⟩
    · intro _ _
      rw [path.found]
      rfl

theorem table_named {resource : String} {kind : Resource} (known : table resource = .ok kind) :
    (resource, kind) ∈ [("role_accounts", .roleAccounts), ("proxies", .proxies), ("connections", .connections)] := by
  unfold table at known
  split at known
  all_goals cases known
  all_goals simp

theorem Access.of_tables (laws : P.VaultLaws) (kept : InventoryKept P db) (access : Access P request db)
    (roleAccounts : written.roleAccounts = db.roleAccounts) (proxies : written.proxies = db.proxies)
    (connections : written.connections = db.connections) : Access P request written := by
  rcases access.path laws kept with ⟨_, _, _, _, _, _, _, path⟩
  apply path.same laws kept
  · intro _ _
    rw [roleAccounts]
  · rw [proxies]
  · rw [connections]

theorem store_ext {one other : GatewayStore} (key : one.key = other.key) (closed : one.closed = other.closed) :
    one = other := by
  cases one
  cases other
  cases key
  cases closed
  rfl

/-- A role or a proxy that is referred to cannot be deleted. -/
theorem Path.deleted (laws : P.VaultLaws) (kept : InventoryKept P db)
    (path : Path P request db connection proxy role proxyId proxyRole profile connector) {resource id : String}
    {self : GatewayStore} (apart : resource = "connections" → id ≠ request.connectionId) :
    Access P request (Store.delete self db resource id).2 := by
  have device := (find_mem path.found).1
  have through := (find_mem path.located).1
  have start := path.access path.resolves
  unfold Store.delete
  cases known : table resource with
  | error raised => exact start
  | ok kind =>
      apply transaction_holds (p := Access P request) start
      intro u written returned
      cases kind with
      | roleAccounts =>
          rcases deleteRole_ok.mp returned with ⟨-, free, rfl⟩
          have unreferenced := roleReferenced_false free
          apply path.same laws kept
          · intro held member
            rw [find_remove, if_neg]
            intro same
            rw [same] at member
            simp only [List.mem_cons, List.not_mem_nil, or_false] at member
            rcases member with own | own
            · exact unreferenced.1 connection device (path.roled.trans (congrArg some own.symm))
            · exact unreferenced.2 proxy through (path.proxyRoled.trans (congrArg some own.symm))
          · rfl
          · rfl
      | proxies =>
          rcases deleteProxy_ok.mp returned with ⟨-, free, rfl⟩
          apply path.same laws kept
          · intro _ _
            rfl
          · rw [find_remove, if_neg]
            intro same
            exact proxyReferenced_false free connection device (path.proxied.trans (congrArg some same))
          · rfl
      | connections =>
          rcases deleteConnection_ok.mp returned with ⟨-, rfl⟩
          apply path.same laws kept
          · intro _ _
            rfl
          · rfl
          · rw [find_remove, if_neg]
            intro same
            exact apart (by simpa using table_named known) same.symm

def Gone (request : Request) (db : Db Token) : Prop :=
  find ConnectionRow.id db.connections request.connectionId = none

theorem named_connections {resource : String} (named : Store.named resource .connections = true) :
    resource = "connections" := by
  unfold Store.named at named
  cases known : table resource with
  | error raised =>
      rw [known] at named
      cases named
  | ok kind =>
      rw [known] at named
      have same : kind = .connections := by simpa using named
      simpa [same] using table_named known

theorem delete_connections {p : List (ConnectionRow Token) → Prop} {self : GatewayStore} {resource id : String}
    (start : p db.connections) (removed : resource = "connections" → p (remove ConnectionRow.id db.connections id)) :
    p (Store.delete self db resource id).2.connections := by
  unfold Store.delete
  cases known : table resource with
  | error raised => exact start
  | ok kind =>
      apply transaction_holds (p := fun written => p written.connections) start
      intro u written returned
      cases kind with
      | roleAccounts =>
          rcases deleteRole_ok.mp returned with ⟨-, -, rfl⟩
          exact start
      | proxies =>
          rcases deleteProxy_ok.mp returned with ⟨-, -, rfl⟩
          exact start
      | connections =>
          rcases deleteConnection_ok.mp returned with ⟨-, rfl⟩
          exact removed (by simpa using table_named known)

theorem Gone.kept (gone : Gone request db) (unused : ∀ payload itemId, call.op = .save "connections" payload itemId →
    itemId.getD "" = "" → call.fresh.id ≠ request.connectionId) : Gone request (after P call db) := by
  unfold Gone at gone ⊢
  cases touched : call.op.touches (.rows .connections) with
  | false =>
      have same : (after P call db).connections = db.connections := after_agrees P touched db
      rw [same, gone]
  | true =>
      rcases call with ⟨self, fresh, op⟩
      cases op with
      | save resource payload itemId =>
          cases outcome : (save P self db fresh resource payload itemId).1 with
          | error raised =>
              have same : after P ⟨self, fresh, .save resource payload itemId⟩ db = db := save_kept outcome
              rw [same, gone]
          | ok view =>
              have name := named_connections touched
              rw [name] at outcome ⊢
              rcases saveConnectionResource_returned outcome with ⟨entries, given, -, returned⟩
              refine (saveConnectionResource_elsewhere returned ?_ ?_).trans gone
              · intro aimed
                by_contra named
                rw [aimed] at returned
                rcases saveConnectionResource_update named returned with ⟨update⟩
                cases gone.symm.trans update.found
              · intro unnamed same
                exact absurd same (unused payload itemId (by rw [name]) unnamed)
      | delete resource id =>
          apply delete_connections (p := fun rows => find ConnectionRow.id rows request.connectionId = none) gone
          intro _
          rw [find_remove, gone, ite_self]
      | _ => cases touched

theorem Path.saved (laws : P.VaultLaws) (kept : InventoryKept P db)
    (path : Path P request db connection proxy role proxyId proxyRole profile connector) {resource : String} {payload : Value}
    (op : call.op = .save resource payload itemId) (spares : Spares call request profile connector)
    (outcome : (save P request.store db fresh resource payload itemId).1 = .ok view) :
    Access P request (save P request.store db fresh resource payload itemId).2 := by
  rcases checked_ok (Prod.ext outcome rfl) with ⟨kind, known, -⟩
  have name := table_named known
  simp only [List.mem_cons, Prod.mk.injEq, List.not_mem_nil, or_false] at name
  rcases name with ⟨rfl, rfl⟩ | ⟨rfl, rfl⟩ | ⟨rfl, rfl⟩
  · rcases saveRoleAccount_returned outcome with ⟨entries, rfl, -, written⟩
    exact path.savedRole laws kept op spares written
  · rcases saveProxyResource_returned outcome with ⟨entries, rfl, listed, written⟩
    exact path.savedProxy laws kept op spares listed written
  · rcases saveConnectionResource_returned outcome with ⟨entries, rfl, listed, written⟩
    exact path.savedConnection laws kept op spares listed written

theorem gone_of_delete {self : GatewayStore} {u : Unit}
    (outcome : (Store.delete self db "connections" request.connectionId).1 = .ok u) :
    Gone request (Store.delete self db "connections" request.connectionId).2 := by
  rcases checked_ok (Prod.ext outcome rfl) with ⟨kind, known, written⟩
  cases known
  rcases deleteConnection_ok.mp (transaction_ok.mp written).2 with ⟨-, rows⟩
  refine (congrArg (fun held : Db Token => find ConnectionRow.id held.connections request.connectionId) rows).trans ?_
  rw [find_remove, if_pos rfl]

/-- A call that keeps the path leaves it valid, or takes the connection away. -/
theorem Access.kept (laws : P.VaultLaws) (kept : InventoryKept P db) (access : Access P request db)
    (keeps : KeepsPath P call request db) {reply : Reply} (committed : (perform P call db).1 = .ok reply) :
    Access P request (after P call db) ∨ Gone request (after P call db) := by
  rcases access.path laws kept with ⟨connection, proxy, role, proxyId, proxyRole, profile, connector, path⟩
  have spares := keeps.spares profile connector (reading_ok.mpr ⟨path.opened, path.resolves⟩) path.inner
  by_cases untouched : ∀ resource, call.op.touches (.rows resource) = false
  · have same : ∀ resource, SamePart (.rows resource) db (after P call db) :=
      fun resource => after_agrees P (untouched resource) db
    exact .inl (access.of_tables laws kept (same .roleAccounts) (same .proxies) (same .connections))
  · rcases call with ⟨self, fresh, op⟩
    cases op with
    | save resource payload itemId =>
        have returned : (save P self db fresh resource payload itemId).1.map Reply.view = .ok reply := committed
        rcases (map_eq_ok _ _ _).mp returned with ⟨view, outcome, -⟩
        have own : self = request.store := store_ext keeps.key ((save_opened outcome).trans path.opened.symm)
        left
        rw [own] at outcome ⊢
        exact path.saved laws kept rfl spares outcome
    | delete resource id =>
        by_cases own : resource = "connections" → id ≠ request.connectionId
        · exact .inl (path.deleted laws kept own)
        · rw [Classical.not_imp, not_not] at own
          rw [own.1, own.2] at committed ⊢
          have returned : (Store.delete self db "connections" request.connectionId).1.map (fun _ => Reply.none) = .ok reply :=
            committed
          rcases (map_eq_ok _ _ _).mp returned with ⟨u, outcome, -⟩
          exact .inr (gone_of_delete outcome)
    | _ => exact absurd (fun _ => rfl) untouched

end

/-- The store call of a mutation writes routes, seed markers and the log only. -/
theorem storeCall_routesOnly (request : Request) (fresh : Fresh) (db : Db Token) :
    RoutesOnly db (after P (request.storeCall fresh) db) := by
  have same : ∀ {α : Type} {caller : GatewayStore} {body : Except PyError (α × Db Token)},
      (∀ result written, body = .ok (result, written) → RoutesOnly db written) →
        RoutesOnly db (transaction caller db body).2 := by
    intro α caller body returns
    cases committed : (transaction caller db body).1 with
    | error raised =>
        rw [transaction_kept committed]
        exact RoutesOnly.refl db
    | ok result => exact returns result _ (transaction_ok.mp (Prod.ext committed rfl)).2
  rcases request with ⟨caller, connectionId, mutation⟩
  cases mutation with
  | create payload audit =>
      cases audit with
      | none => exact same (fun _ _ => createStaticRouteRow_routesOnly)
      | some audit => exact same (fun _ _ => createAudited_routesOnly)
  | update routeId payload audit =>
      cases audit with
      | none => exact same (fun _ _ => updateStaticRouteRow_routesOnly)
      | some audit => exact same (fun _ _ => updateAudited_routesOnly)
  | delete routeId audit =>
      cases audit with
      | none => exact same (fun _ _ => deleteStaticRouteRow_routesOnly)
      | some audit => exact same (fun _ _ => deleteAudited_routesOnly)

theorem storeCall_present {reply : Reply} (commits : (perform P (request.storeCall fresh) db).1 = .ok reply) :
    ¬Gone request db := by
  intro gone
  have started : ∀ {seeded : Db Token},
      initializeStaticRoutes P request.store db fresh request.connectionId ≠ .ok seeded := by
    intro seeded initialized
    rcases (initializeStaticRoutes_ok initialized).1 with ⟨_, _, found, -, -⟩
    cases gone.symm.trans found
  have refused : ∀ {α β : Type} {shown : α → β} {result : β} {body : Except PyError (α × Db Token)},
      (transaction request.store db body).1.map shown = .ok result → ∃ value written, body = .ok (value, written) := by
    intro α β shown result body returned
    rcases (map_eq_ok _ _ _).mp returned with ⟨value, outcome, -⟩
    exact ⟨value, _, (transaction_ok.mp (Prod.ext outcome rfl)).2⟩
  rcases request with ⟨caller, connectionId, mutation⟩
  cases mutation with
  | create payload audit =>
      cases audit with
      | none =>
          rcases refused commits with ⟨_, _, returned⟩
          rcases createStaticRouteRow_ok.mp returned with ⟨_, _, initialized, -⟩
          exact started initialized
      | some audit =>
          rcases refused commits with ⟨_, _, returned⟩
          rcases createAudited_ok.mp returned with ⟨_, _, created, -⟩
          rcases createStaticRouteRow_ok.mp created with ⟨_, _, initialized, -⟩
          exact started initialized
  | update routeId payload audit =>
      cases audit with
      | none =>
          rcases refused commits with ⟨_, _, returned⟩
          rcases updateStaticRouteRow_ok.mp returned with ⟨_, _, initialized, -⟩
          exact started initialized
      | some audit =>
          rcases refused commits with ⟨_, _, returned⟩
          rcases updateAudited_ok.mp returned with ⟨_, _, _, updated, -⟩
          rcases updateStaticRouteRow_ok.mp updated with ⟨_, _, initialized, -⟩
          exact started initialized
  | delete routeId audit =>
      cases audit with
      | none =>
          rcases refused commits with ⟨_, _, returned⟩
          rcases deleteStaticRouteRow_ok.mp returned with ⟨_, initialized, -⟩
          exact started initialized
      | some audit =>
          rcases refused commits with ⟨_, _, returned⟩
          rcases deleteAudited_ok.mp returned with ⟨_, _, _, deleted, -⟩
          rcases deleteStaticRouteRow_ok.mp deleted with ⟨_, initialized, -⟩
          exact started initialized

theorem Access.storeCall (laws : P.VaultLaws) (kept : InventoryKept P db) (access : Access P request db) (other : Request)
    (fresh : Fresh) : Access P request (after P (other.storeCall fresh) db) := by
  rcases storeCall_routesOnly (P := P) other fresh db with ⟨markers, routes, log, same⟩
  rw [same]
  exact access.of_tables laws kept rfl rfl rfl

/-- The store has gone through calls only, and every waiting mutation has a valid path or no connection. -/
structure WaitingSound (P : Platform Token) (state : State Token) : Prop where
  reached : ∃ calls, state.db = run (after P) Db.empty calls
  waiting : ∀ request ∈ state.waiting, Access P request state.db ∨ Gone request state.db

theorem WaitingSound.inventory (laws : P.VaultLaws) {state : State Token} (sound : WaitingSound P state) :
    InventoryKept P state.db := by
  rcases sound.reached with ⟨calls, same⟩
  rw [same]
  exact run_inventoryKept laws calls

theorem reached_after {calls : List Store.Call} (same : db = run (after P) Db.empty calls) (call : Store.Call) :
    ∃ calls, after P call db = run (after P) Db.empty calls := by
  refine ⟨calls ++ [call], ?_⟩
  rw [run_append, ← same]
  rfl

theorem step_waitingSound (laws : P.VaultLaws) (event : Event) (state : State Token) (keeps : KeepsPaths P event state)
    (sound : WaitingSound P state) : WaitingSound P (step P event state) := by
  have kept := sound.inventory laws
  rcases sound.reached with ⟨calls, same⟩
  cases event with
  | store call =>
      refine ⟨reached_after same call, ?_⟩
      intro request member
      cases outcome : (perform P call state.db).1 with
      | error raised =>
          simp only [step, perform_error outcome]
          exact sound.waiting request member
      | ok reply =>
          have path := keeps call reply rfl outcome request member
          rcases sound.waiting request member with access | gone
          · exact access.kept laws kept path outcome
          · exact .inr (gone.kept path.unused)
  | check request =>
      simp only [step]
      split
      · rename_i found returned
        refine ⟨⟨calls, same⟩, ?_⟩
        intro other member
        rcases List.mem_append.mp member with held | new
        · exact sound.waiting other held
        · rw [List.mem_singleton.mp new]
          exact .inl ⟨found, profile_ok.mp returned⟩
      · exact sound
  | mutate index fresh =>
      simp only [step]
      split
      · rename_i request _
        refine ⟨reached_after same _, ?_⟩
        intro other member
        rcases sound.waiting other (List.mem_of_mem_eraseIdx member) with access | gone
        · exact .inl (access.storeCall laws kept request fresh)
        · rcases storeCall_routesOnly (P := P) request fresh state.db with ⟨markers, routes, log, moved⟩
          right
          rw [moved]
          exact gone
      · exact sound

/-- If the calls that other clients commit between a mutation's check and its store call leave what the
check reads, the store call that commits does so on a valid path, and leaves it valid. -/
theorem mutations_on_valid_path (laws : P.VaultLaws) (events : List Event)
    (keeps : Along (step P) (KeepsPaths P) ⟨Db.empty, []⟩ events) (index : Nat) (fresh : Fresh) (request : Request)
    (waits : (run (step P) ⟨Db.empty, []⟩ events).waiting[index]? = some request) (reply : Reply)
    (commits : (perform P (request.storeCall fresh) (run (step P) ⟨Db.empty, []⟩ events).db).1 = .ok reply) :
    Access P request (run (step P) ⟨Db.empty, []⟩ events).db ∧
      Access P request (run (step P) ⟨Db.empty, []⟩ (events ++ [.mutate index fresh])).db := by
  have initial : WaitingSound P ⟨Db.empty, []⟩ := ⟨⟨[], rfl⟩, fun _ member => absurd member List.not_mem_nil⟩
  have sound := run_invariant_along (WaitingSound P) (KeepsPaths P) (step_waitingSound laws) initial keeps
  rcases sound.waiting request (List.mem_of_getElem? waits) with access | gone
  · refine ⟨access, ?_⟩
    rw [run_append, run_cons, run_nil]
    simp only [step, waits]
    exact access.storeCall laws (sound.inventory laws) request fresh
  · exact absurd gone (storeCall_present commits)

end

/-! A path that is valid, and the change of its device role that invalidates it. -/

def roleAccount (name username password : String) : Value := .dict
  [("name", .str name), ("username", .str username), ("authentication_type", .str "password"),
   ("password", .str password)]

def bastion : Value := .dict
  [("name", .str "Fake bastion"), ("type", .str proxyType), ("host", .str proxyHost), ("port", .int proxyPort),
   ("role_account_id", .str "proxy-role")]

def device : Value := .dict
  [("name", .str "Fake transport device"), ("protocol", .str deviceProtocol), ("host", .str deviceHost),
   ("port", .int devicePort), ("role_account_id", .str "device-role"), ("proxy_id", .str "bastion"),
   ("client_type", .str "fake")]

def saved (id resource : String) (payload : Value) : Event :=
  .store ⟨Bench.store, Bench.fresh id, .save resource payload none⟩

def inventory : List Event :=
  [saved "device-role" "role_accounts" (roleAccount "Fake device login" deviceUsername devicePassword),
   saved "proxy-role" "role_accounts" (roleAccount "Fake proxy login" proxyUsername proxyPassword),
   saved "bastion" "proxies" bastion, saved "device" "connections" device]

def newRoute : Value := .dict
  [("destination", .str "203.0.113.0/24"), ("next_hop", .str "192.0.2.1"), ("interface", .none),
   ("metric", .int 1), ("description", .str ""), ("enabled", .bool true)]

def addition : Request := ⟨Bench.store, "device", .create newRoute none⟩

def rotation : Event :=
  .store ⟨Bench.store, Bench.fresh "unused",
    .save "role_accounts" (.dict [("password", .str "rotated")]) (some "device-role")⟩

def pending : State Platform.SealedToken :=
  run (step Platform.bench) ⟨Db.empty, []⟩ (inventory ++ [.check addition])

def relabelling : Store.Call :=
  ⟨Bench.store, Bench.fresh "unused", .save "role_accounts" (.dict [("name", .str "Operators")]) (some "device-role")⟩

/-- The role is renamed between the check and the store call, which commits on a valid path. -/
theorem addition_on_valid_path :
    (∃ reply, (perform Platform.bench relabelling pending.db).1 = .ok reply) ∧
      Access Platform.bench addition (run (step Platform.bench) ⟨Db.empty, []⟩
        (inventory ++ [.check addition, .store relabelling] ++ [.mutate 0 (Bench.fresh "route")])).db := by
  have keeps : Along (step Platform.bench) (KeepsPaths Platform.bench) ⟨Db.empty, []⟩
      (inventory ++ [.check addition, .store relabelling]) := by
    have spares : ∀ profile connector, Spares relabelling addition profile connector := by
      intro profile connector
      constructor <;> simp [relabelling, Leaves, passwordLogin, lookup_cons_key]
    have idle : ∀ {event : Event} {db : Db Platform.SealedToken}, KeepsPaths Platform.bench event ⟨db, []⟩ :=
      fun _ _ _ _ _ member => absurd member List.not_mem_nil
    have check : ∀ {request : Request} {state : State Platform.SealedToken},
        KeepsPaths Platform.bench (.check request) state := fun _ _ same => by cases same
    have quiet : KeepsPaths Platform.bench (.store relabelling) pending := by
      intro call reply same _ request member
      cases same
      have own : request = addition := List.mem_singleton.mp member
      rw [own]
      exact ⟨rfl, by simp [relabelling], fun profile connector _ _ => spares profile connector⟩
    exact ⟨idle, idle, idle, idle, check, quiet, trivial⟩
  have committed : ∃ reply, (perform Platform.bench (addition.storeCall (Bench.fresh "route"))
      (run (step Platform.bench) ⟨Db.empty, []⟩ (inventory ++ [.check addition, .store relabelling])).db).1 = .ok reply :=
    ⟨_, rfl⟩
  rcases committed with ⟨reply, commits⟩
  exact ⟨⟨_, rfl⟩, (mutations_on_valid_path Platform.bench_vaultLaws _ keeps 0 (Bench.fresh "route") addition rfl reply
    commits).2⟩

/-- The password changes between the check and the store call, which commits all the same. -/
theorem addition_on_invalid_path :
    Access Platform.bench addition pending.db ∧
      (step Platform.bench rotation pending).waiting[0]? = some addition ∧
      (∃ reply, (perform Platform.bench (addition.storeCall (Bench.fresh "route"))
        (step Platform.bench rotation pending).db).1 = .ok reply) ∧
      ¬Access Platform.bench addition (step Platform.bench rotation pending).db := by
  have found : ∃ found, profile Platform.bench addition.store pending.db addition.connectionId = .ok found :=
    ⟨_, rfl⟩
  have raised : profile Platform.bench addition.store (step Platform.bench rotation pending).db
      addition.connectionId = .error (.store "Simulated device access validation failed." 403) := rfl
  rcases found with ⟨found, returned⟩
  exact ⟨⟨found, profile_ok.mp returned⟩, rfl, ⟨_, rfl⟩, not_access raised⟩

end NetworkGateway.FakeClient
