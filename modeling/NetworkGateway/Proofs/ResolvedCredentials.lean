import NetworkGateway.Proofs.StoredCredentials

/-! The logins that resolved profiles have, in every state of a run. -/

namespace NetworkGateway.Store

open Library.Dict Library.Result Library.Run Library.Table

section

variable {Token : Type} {P : Platform Token} {self caller : GatewayStore} {fresh : Fresh} {db written : Db Token}

/-- The logins of the inventory are in order, whichever store decodes them. -/
structure LoginsKept (P : Platform Token) (db : Db Token) : Prop where
  roles : RolesHold P db
  proxies : ∀ proxy ∈ db.proxies, ∀ caller profile,
    storedProfile P caller proxy.columns proxy.configuration proxy.secrets = .ok profile →
      DeviceKept proxy.roleAccountId profile
  connections : ∀ connection ∈ db.connections, ∀ caller profile,
    storedProfile P caller connection.columns connection.configuration connection.secrets = .ok profile →
      ConnectionKept connection.roleAccountId profile

theorem LoginsKept.previousProxy (kept : LoginsKept P db) {itemId : Option String} {held : Option (ProxyRow Token)}
    {previous : Dict} (aimed : target ProxyRow.id db.proxies itemId = .ok held)
    (decoded : previousProxy P self held = .ok previous) : ∃ roleId, DeviceKept roleId previous := by
  cases held with
  | none =>
      cases decoded
      exact ⟨none, DeviceKept.new⟩
  | some proxy =>
      have member := (target_ok aimed proxy rfl).1
      exact ⟨proxy.roleAccountId, kept.proxies proxy member self previous decoded⟩

theorem LoginsKept.previousConnection (kept : LoginsKept P db) {itemId : Option String}
    {held : Option (ConnectionRow Token)} {previous : Dict}
    (aimed : target ConnectionRow.id db.connections itemId = .ok held)
    (decoded : previousConnection P self held = .ok previous) : ∃ roleId, ConnectionKept roleId previous := by
  cases held with
  | none =>
      cases decoded
      exact ⟨none, ConnectionKept.new⟩
  | some connection =>
      have member := (target_ok aimed connection rfl).1
      exact ⟨connection.roleAccountId, kept.connections connection member self previous decoded⟩

theorem effect_loginsKept (laws : P.VaultLaws) (effect : Effect P self fresh db written) (kept : LoginsKept P db) :
    LoginsKept P written := by
  refine ⟨effect_rolesHold laws effect kept.roles, ?_, ?_⟩
  · have fewer : (∀ proxy ∈ written.proxies, proxy ∈ db.proxies) → ∀ proxy ∈ written.proxies, ∀ caller profile,
        storedProfile P caller proxy.columns proxy.configuration proxy.secrets = .ok profile →
          DeviceKept proxy.roleAccountId profile :=
      fun within proxy member => kept.proxies proxy (within proxy member)
    cases effect with
    | elsewhere _ proxies _ _ | jobs _ _ proxies _ => exact fewer (fun proxy member => by rwa [proxies] at member)
    | savedRole payload itemId view returned =>
        rcases saveRoleAccount_ok returned with ⟨_, _, _, _, _, _, _, rfl⟩
        exact fewer (fun _ member => member)
    | savedProxy payload itemId view returned listed =>
        rcases saveProxyResource_ok returned with ⟨held, previous, proxy, aimed, decoded, saved, -, rows⟩
        intro other member caller profile read
        rw [rows] at member
        rcases mem_put.mp member with rfl | old
        · rcases kept.previousProxy aimed decoded with ⟨roleId, before⟩
          exact saveProxy_keeps laws saved listed before read
        · exact kept.proxies other old.1 caller profile read
    | savedConnection payload itemId view returned =>
        rcases saveConnectionResource_ok returned with ⟨_, _, _, _, _, _, _, rows⟩
        exact fewer (fun proxy member => by rwa [rows] at member)
    | deletedRole id returned =>
        rcases deleteRole_ok.mp returned with ⟨_, _, rfl⟩
        exact fewer (fun _ member => member)
    | deletedProxy id returned =>
        rcases deleteProxy_ok.mp returned with ⟨_, _, rfl⟩
        exact fewer (fun _ member => (mem_remove.mp member).1)
    | deletedConnection id returned =>
        rcases deleteConnection_ok.mp returned with ⟨_, rfl⟩
        exact fewer (fun _ member => member)
  · have fewer : (∀ connection ∈ written.connections, connection ∈ db.connections) →
        ∀ connection ∈ written.connections, ∀ caller profile,
          storedProfile P caller connection.columns connection.configuration connection.secrets = .ok profile →
            ConnectionKept connection.roleAccountId profile :=
      fun within connection member => kept.connections connection (within connection member)
    cases effect with
    | elsewhere _ _ connections _ | jobs _ _ _ connections =>
        exact fewer (fun connection member => by rwa [connections] at member)
    | savedRole payload itemId view returned =>
        rcases saveRoleAccount_ok returned with ⟨_, _, _, _, _, _, _, rfl⟩
        exact fewer (fun _ member => member)
    | savedProxy payload itemId view returned =>
        rcases saveProxyResource_ok returned with ⟨_, _, _, _, _, _, _, rows⟩
        exact fewer (fun connection member => by rwa [rows] at member)
    | savedConnection payload itemId view returned listed =>
        rcases saveConnectionResource_ok returned with ⟨held, previous, connection, aimed, decoded, saved, -, rows⟩
        intro other member caller profile read
        rw [rows] at member
        rcases mem_put.mp member with rfl | old
        · rcases kept.previousConnection aimed decoded with ⟨roleId, before⟩
          exact saveConnection_keeps laws saved listed before read
        · exact kept.connections other old.1 caller profile read
    | deletedRole id returned =>
        rcases deleteRole_ok.mp returned with ⟨_, _, rfl⟩
        exact fewer (fun _ member => member)
    | deletedProxy id returned =>
        rcases deleteProxy_ok.mp returned with ⟨_, _, rfl⟩
        exact fewer (fun _ member => member)
    | deletedConnection id returned =>
        rcases deleteConnection_ok.mp returned with ⟨_, rfl⟩
        exact fewer (fun _ member => (mem_remove.mp member).1)

theorem run_loginsKept (laws : P.VaultLaws) (calls : List Call) : LoginsKept P (run (after P) Db.empty calls) := by
  have initial : LoginsKept P (Db.empty : Db Token) :=
    ⟨fun _ member => absurd member List.not_mem_nil, fun _ member => absurd member List.not_mem_nil,
      fun _ member => absurd member List.not_mem_nil⟩
  exact run_invariant (LoginsKept P) (fun call db => effect_loginsKept laws (after_change P call db).effect) initial calls

/-! The login of a role. -/

def KeyRole (db : Db Token) (roleId : Option String) : Prop :=
  ∃ id role, roleId = some id ∧ find RoleAccountRow.id db.roleAccounts id = some role ∧
    role.authenticationType = .sshKey

/-- The method of a login goes with the credentials it has. -/
structure Authenticated (profile : Dict) : Prop where
  coherent : Coherent (holds profile)
  method : ∀ default, default = Value.str (if keyed (holds profile) then "ssh_key" else "password") →
    Dict.getOr profile "authentication_type" default = default

theorem Credential.secrets_coherent (credential : Credential) : Coherent (holds credential.secrets) := by
  cases credential with
  | password value => exact ⟨⟨fun _ => rfl, nofun⟩, nofun⟩
  | sshKey privateKey passphrase =>
      have pasted : holds (Credential.sshKey privateKey passphrase).secrets "private_key" = true := by
        change (Value.str privateKey.1).truthy = true
        simpa using privateKey.2
      have unset : ∀ key ∈ ["password", "private_key_path"],
          holds (Credential.sshKey privateKey passphrase).secrets key = false := by
        intro key listed
        simp only [List.mem_cons, List.not_mem_nil, or_false] at listed
        apply holds_unbound
        rcases listed with rfl | rfl <;> cases passphrase <;> rfl
      refine ⟨⟨?_, ?_⟩, ?_⟩
      · intro password
        rw [unset _ (by decide)] at password
        cases password
      · intro _
        unfold keyed
        rw [pasted, Bool.or_true]
      · intro _
        exact unset _ (by decide)

theorem Credential.secrets_keyed (credential : Credential) :
    holds credential.secrets "private_key" = (credential.method == .sshKey) ∧
      keyed (holds credential.secrets) = (credential.method == .sshKey) := by
  cases credential with
  | password value => exact ⟨rfl, rfl⟩
  | sshKey privateKey passphrase =>
      have pasted : holds (Credential.sshKey privateKey passphrase).secrets "private_key" = true := by
        change (Value.str privateKey.1).truthy = true
        simpa using privateKey.2
      refine ⟨pasted, ?_⟩
      unfold keyed
      rw [pasted, Bool.or_true]
      rfl

theorem roleCredentials_ok (laws : P.VaultLaws) (roles : RolesHold P db) {id : String} {credentials : Dict}
    (returned : roleCredentials P caller db (.str id) = .ok credentials) :
    ∃ (role : RoleAccountRow Token) (credential : Credential), find RoleAccountRow.id db.roleAccounts id = some role ∧
      role.authenticationType = credential.method ∧
      credentials = merge [("username", .str role.username), ("authentication_type", .str role.authenticationType.text)]
        credential.secrets := by
  simp only [roleCredentials, bind_eq_ok, row_ok, asDict_ok, pure_eq, Except.ok.injEq] at returned
  rcases returned with ⟨role, found, _, opened, secrets, rfl, rfl⟩
  rcases roles role (find_mem found).1 with ⟨credential, held⟩
  rcases held.sealed with ⟨key, iv, same⟩
  rw [same] at opened
  have plain := Value.dict.inj (Secrets.decrypt_authentic caller laws opened)
  exact ⟨role, credential, found, held.method, by rw [plain]⟩

structure Logged (db : Db Token) (roleId : Option String) (resolved : Dict) : Prop where
  authenticated : Authenticated resolved
  pasted : holds resolved "private_key" = true ↔ KeyRole db roleId

theorem withRole_logged (laws : P.VaultLaws) (roles : RolesHold P db) {roleId : Option String} {profile resolved : Dict}
    (kept : DeviceKept roleId profile) (named : ∀ id, roleId = some id → id ≠ "")
    (refers : profile.lookup "role_account_id" = some (Value.ofOption roleId))
    (untyped : profile.lookup "authentication_type" = none)
    (returned : withRole P caller db profile = .ok resolved) : Logged db roleId resolved := by
  have reference : Dict.get profile "role_account_id" = Value.ofOption roleId := by
    rw [Dict.get_eq, refers]
    rfl
  rcases withRole_ok.mp returned with ⟨falsy, same⟩ | ⟨credentials, truthy, found, same⟩
  · have unset : roleId = none := by
      cases roleId with
      | none => rfl
      | some id =>
          rw [reference] at falsy
          have empty : id = "" := by simpa [Value.ofOption] using falsy
          exact absurd empty (named id rfl)
    rw [same]
    refine ⟨⟨kept.coherent, ?_⟩, ?_⟩
    · intro default _
      rw [Dict.getOr, untyped]
      rfl
    · constructor
      · intro pasted
        rw [kept.pasted] at pasted
        cases pasted
      · intro key
        rcases key with ⟨id, _, given, _⟩
        rw [unset] at given
        cases given
  · cases roleId with
    | none =>
        rw [reference] at truthy
        cases truthy
    | some id =>
        rw [reference] at found
        rcases roleCredentials_ok laws roles found with ⟨role, credential, located, method, rfl⟩
        have off := kept.role rfl
        -- a role's credentials replace all of the inline ones
        have shown : ∀ key ∈ credentialFieldNames, holds credential.secrets key = holds resolved key := by
          intro key listed
          have inline : holds profile key = false := by
            simp only [credentialFieldNames, List.mem_cons, List.not_mem_nil, or_false] at listed
            rcases listed with rfl | rfl | rfl | rfl
            · exact off.1
            · exact kept.pasted
            · exact off.2
            · exact kept.passphrase
          have apart : ([("username", Value.str role.username),
              ("authentication_type", .str role.authenticationType.text)] : Dict).lookup key = none := by
            simp only [credentialFieldNames, List.mem_cons, List.not_mem_nil, or_false] at listed
            rcases listed with rfl | rfl | rfl | rfl <;> rfl
          rw [same, holds_merge, holds_merge, lookup_merge, apart, Option.or_none, inline, holds_unbound apart]
          cases bound : credential.secrets.lookup key with
          | none => exact holds_unbound bound
          | some value => rfl
        have keys := credential.secrets_keyed
        have first : keyed (holds resolved) = (credential.method == .sshKey) := by
          rw [← keys.2]
          unfold keyed
          rw [shown "private_key_path" (by decide), shown "private_key" (by decide)]
        refine ⟨⟨coherent_congr shown credential.secrets_coherent, ?_⟩, ?_⟩
        · intro default chosen
          have text : resolved.lookup "authentication_type" = some (.str credential.method.text) := by
            have sealed : credential.secrets.lookup "authentication_type" = none := by
              cases credential with
              | password value => rfl
              | sshKey privateKey passphrase => cases passphrase <;> rfl
            rw [same, lookup_merge, lookup_merge, sealed, ← method]
            rfl
          rw [Dict.getOr, text, chosen, first]
          cases credential.method <;> rfl
        · rw [← shown "private_key" (by decide), keys.1, beq_iff_eq, ← method]
          constructor
          · intro key
            exact ⟨id, role, rfl, located, key⟩
          · intro key
            rcases key with ⟨other, held, given, found, keyed⟩
            cases given
            cases located.symm.trans found
            exact keyed

/-! Resolved proxies and connections. -/

theorem holds_congr {one other : Dict} {key : String} (same : one.lookup key = other.lookup key) :
    holds one key = holds other key := by
  unfold holds
  rw [Dict.get_eq, Dict.get_eq, same]

theorem DeviceKept.congr {roleId : Option String} {one other : Dict} (kept : DeviceKept roleId one)
    (same : ∀ key ∈ credentialFieldNames, one.lookup key = other.lookup key) : DeviceKept roleId other := by
  have held : ∀ key ∈ credentialFieldNames, holds one key = holds other key := fun key listed => holds_congr (same key listed)
  refine ⟨?_, ?_, ?_, ?_⟩
  · rw [← held _ (by decide)]
    exact kept.pasted
  · rw [← held _ (by decide)]
    exact kept.passphrase
  · rw [← held "password" (by decide), ← held "private_key_path" (by decide)]
    exact kept.method
  · rw [← held "password" (by decide), ← held "private_key_path" (by decide)]
    exact kept.role

theorem Logged.congr {roleId : Option String} {one other : Dict} (logged : Logged db roleId one)
    (same : ∀ key ∈ "authentication_type" :: credentialFieldNames, one.lookup key = other.lookup key) :
    Logged db roleId other := by
  have held : ∀ key ∈ credentialFieldNames, holds one key = holds other key :=
    fun key listed => holds_congr (same key (List.mem_cons_of_mem _ listed))
  have keys : keyed (holds one) = keyed (holds other) := by
    unfold keyed
    rw [held "private_key_path" (by decide), held "private_key" (by decide)]
  refine ⟨⟨coherent_congr held logged.authenticated.coherent, ?_⟩, ?_⟩
  · intro default chosen
    rw [← keys] at chosen
    rw [Dict.getOr, ← same _ List.mem_cons_self]
    exact logged.authenticated.method default chosen
  · rw [← held "private_key" (by decide)]
    exact logged.pasted

section

variable (laws : P.VaultLaws) (sound : InventorySound P db) (kept : LoginsKept P db)
include laws sound kept

theorem resolveProxy_logged {proxy : ProxyRow Token} {profile : Dict} (member : proxy ∈ db.proxies)
    (resolved : resolveProxy P caller db proxy = .ok profile) :
    Logged db proxy.roleAccountId profile ∧ profile.lookup "private_key_configured" = none := by
  rcases (bind_eq_ok _ _ _).mp resolved with ⟨stored, decoded, credentials⟩
  have shape := sound.proxies proxy member
  have column := shape.column laws decoded
  have named : ∀ id, proxy.roleAccountId = some id → id ≠ "" := fun id given => (shape.role id given).1
  constructor
  · exact withRole_logged laws kept.roles (kept.proxies proxy member caller stored decoded) named
      (column "role_account_id" (by decide)) (column "authentication_type" (by decide)) credentials
  · rw [withRole_lookup laws sound credentials (by decide)]
    exact column "private_key_configured" (by decide)

/-- Where the login of a connection's connector comes from: a saved proxy, or the stored profile. -/
inductive AccessLogged (P : Platform Token) (caller : GatewayStore) (db : Db Token) (connection : ConnectionRow Token)
    (connector : Dict) : Prop where
  | proxied (proxy : ProxyRow Token) (named : connection.proxyId = some proxy.id)
      (found : find ProxyRow.id db.proxies proxy.id = some proxy) (logged : Logged db proxy.roleAccountId connector)
  | inline (stored : Dict) (unnamed : connection.proxyId = none)
      (decoded : storedProfile P caller connection.columns connection.configuration connection.secrets = .ok stored)
      (held : Dict.getOr stored "connector" (.dict [("type", .str "direct")]) = .dict connector)
      (plain : PlainConnector connector)

structure ConnectionLogged (P : Platform Token) (caller : GatewayStore) (db : Db Token)
    (connection : ConnectionRow Token) (profile connector : Dict) : Prop where
  device : Logged db connection.roleAccountId profile
  unflagged : profile.lookup "private_key_configured" = none
  shown : profile.lookup "connector" = some (.dict connector)
  bare : connector.lookup "private_key_configured" = none
  access : AccessLogged P caller db connection connector

theorem resolveConnection_logged {itemId : String} {profile : Dict}
    (resolved : resolveConnection P caller db itemId = .ok profile) :
    ∃ connection connector, find ConnectionRow.id db.connections itemId = some connection ∧
      ConnectionLogged P caller db connection profile connector := by
  rcases resolveConnection_ok.mp resolved with ⟨connection, stored, credentialed, accessed, found, decoded, credentials, access, same⟩
  have member := (find_mem found).1
  have shape := sound.connections connection member
  have column := shape.column laws decoded
  have held := kept.connections connection member caller stored decoded
  have other : ∀ key ≠ "client_type",
      (setDefault stored "client_type" (.str "network")).lookup key = stored.lookup key := by
    intro key differs
    rw [lookup_setDefault, if_neg differs, Option.or_none]
  have named : ∀ id, connection.roleAccountId = some id → id ≠ "" := fun id given => (shape.role id given).1
  have start : DeviceKept connection.roleAccountId (setDefault stored "client_type" (.str "network")) := by
    apply held.device.congr
    intro key listed
    apply (other key _).symm
    intro client
    rw [client] at listed
    exact absurd listed (by decide)
  have logged := withRole_logged laws kept.roles start named
    ((other _ (by decide)).trans (column "role_account_id" (by decide)))
    ((other _ (by decide)).trans (column "authentication_type" (by decide))) credentials
  have reads : ∀ key ∉ "client_type" :: credentialFields, credentialed.lookup key = stored.lookup key := by
    intro key plain
    rw [List.mem_cons, not_or] at plain
    rw [withRole_lookup laws sound credentials plain.2, other key plain.1]
  have reference : Dict.get credentialed "proxy_id" = Value.ofOption connection.proxyId := by
    rw [Dict.get_eq, reads _ (by decide), column "proxy_id" (by decide)]
    rfl
  have unflagged : credentialed.lookup "private_key_configured" = none := by
    rw [reads _ (by decide)]
    exact column "private_key_configured" (by decide)
  -- the last two steps set the connector only
  have last : ∀ key ≠ "connector", accessed.lookup key = credentialed.lookup key → profile.lookup key = credentialed.lookup key := by
    intro key differs first
    rw [same, lookup_setDefault, if_neg differs, Option.or_none, first]
  rcases withProxy_ok.mp access with ⟨falsy, bare⟩ | ⟨proxy, connector, truthy, located, resolvedProxy, set⟩
  · have unset : connection.proxyId = none := by
      cases chosen : connection.proxyId with
      | none => rfl
      | some id =>
          rw [reference, chosen] at falsy
          have empty : id = "" := by simpa [Value.ofOption] using falsy
          exact absurd empty (shape.proxy id chosen).1
    have keeps : ∀ key ≠ "connector", profile.lookup key = credentialed.lookup key :=
      fun key differs => last key differs (by rw [bare])
    have inner : profile.lookup "connector" = some (Dict.getOr stored "connector" (.dict [("type", .str "direct")])) := by
      rw [same, lookup_setDefault, if_pos rfl, bare, reads _ (by decide), Dict.getOr]
      cases stored.lookup "connector" <;> rfl
    have read : ∃ connector, Dict.getOr stored "connector" (.dict [("type", .str "direct")]) = .dict connector ∧
        PlainConnector connector := by
      rw [Dict.getOr]
      cases bound : stored.lookup "connector" with
      | none => exact ⟨_, rfl, direct_plain⟩
      | some value => exact held.access value bound
    rcases read with ⟨connector, inlined, plain⟩
    refine ⟨connection, connector, found, logged.congr ?_, ?_, ?_, plain.listed _ (by decide), ?_⟩
    · intro key listed
      apply (keeps key _).symm
      intro named
      rw [named] at listed
      exact absurd listed (by decide)
    · rw [keeps _ (by decide), unflagged]
    · rw [inner, inlined]
    · exact .inline stored unset decoded inlined plain
  · rw [reference] at located truthy
    cases chosen : connection.proxyId with
    | none =>
        rw [chosen] at truthy
        cases truthy
    | some id =>
        rw [chosen] at located
        have row : find ProxyRow.id db.proxies id = some proxy := by simpa [findProxy, Value.ofOption] using located
        have inProxies := find_mem row
        have keeps : ∀ key ≠ "connector", profile.lookup key = credentialed.lookup key :=
          fun key differs => last key differs (by rw [set, lookup_set, if_neg differs])
        have proxyLogged := resolveProxy_logged laws sound kept inProxies.1 resolvedProxy
        refine ⟨connection, connector, found, logged.congr ?_, ?_, ?_, proxyLogged.2, ?_⟩
        · intro key listed
          apply (keeps key _).symm
          intro named
          rw [named] at listed
          exact absurd listed (by decide)
        · rw [keeps _ (by decide), unflagged]
        · rw [same, lookup_setDefault, set, lookup_set, if_pos rfl]
          rfl
        · rw [← inProxies.2] at row chosen
          exact .proxied proxy chosen row proxyLogged.1

end

end

end NetworkGateway.Store
