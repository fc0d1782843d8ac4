import NetworkGateway.Proofs.Footprints
import NetworkGateway.Proofs.PartialUpdates

/-! What a connection is resolved from: its row, its role, its proxy and the proxy's role. -/

namespace NetworkGateway.Store

open Library.Dict Library.Result Library.Table

def SameFields (fields : List String) (before after : Dict) : Prop :=
  ∀ key ∈ fields, after.lookup key = before.lookup key

/-- The payload names none of the fields, but with the value that is held. -/
def Leaves (fields : List String) (payload held : Dict) : Prop :=
  ∀ key ∈ fields, ∀ value, payload.lookup key = some value → held.lookup key = some value

def passwordLogin : List String := ["authentication_type", "username", "password"]

section

variable {Token : Type} {P : Platform Token} {self : GatewayStore} {fresh : Fresh} {db written : Db Token}
  {payload before after : Dict} {id : String} {view : Value}

theorem withRole_agreeing {profile : Dict}
    (roles : ∀ role, Dict.get profile "role_account_id" = .str role →
      roleCredentials P self written (.str role) = roleCredentials P self db (.str role)) :
    withRole P self written profile = withRole P self db profile := by
  have same : roleCredentials P self written (Dict.get profile "role_account_id") =
      roleCredentials P self db (Dict.get profile "role_account_id") := by
    cases reference : Dict.get profile "role_account_id" with
    | str role => exact roles role reference
    | none | bool | int | float | list | dict => rfl
  unfold withRole
  rw [same]

theorem ofOption_str {reference : Option String} (same : Value.ofOption reference = .str id) : reference = some id := by
  cases reference with
  | none => cases same
  | some held => exact congrArg some (Value.str.inj same)

theorem resolvedProxy_agreeing (laws : P.VaultLaws) (sound : InventorySound P db)
    (proxies : find ProxyRow.id written.proxies id = find ProxyRow.id db.proxies id)
    (roles : ∀ proxy role, find ProxyRow.id db.proxies id = some proxy → proxy.roleAccountId = some role →
      roleCredentials P self written (.str role) = roleCredentials P self db (.str role)) :
    resolvedProxy P self written id = resolvedProxy P self db id := by
  have decodes : decodedProxy P self written id = decodedProxy P self db id := by
    unfold decodedProxy
    rw [proxies]
  rw [resolvedProxy_decoded, resolvedProxy_decoded, decodes]
  cases decoded : decodedProxy P self db id with
  | error raised => rfl
  | ok profile =>
      simp only [decodedProxy, bind_eq_ok, row_ok] at decoded
      rcases decoded with ⟨proxy, found, decoded⟩
      apply withRole_agreeing
      intro role reference
      apply roles proxy role found
      have column := (sound.proxies proxy (find_mem found).1).column laws decoded "role_account_id" (by decide)
      rw [Dict.get_eq, column] at reference
      exact ofOption_str reference

theorem setDefault_column {profile : Dict} {key : String} {value : Value} (apart : key ≠ "client_type")
    (column : profile.lookup key = some value) :
    Dict.get (setDefault profile "client_type" (.str "network")) key = value := by
  rw [Dict.get_eq, lookup_setDefault, if_neg apart, column]
  rfl

theorem resolveConnection_agreeing (laws : P.VaultLaws) (sound : InventorySound P db)
    (connections : find ConnectionRow.id written.connections id = find ConnectionRow.id db.connections id)
    (roles : ∀ connection role, find ConnectionRow.id db.connections id = some connection →
      connection.roleAccountId = some role →
      roleCredentials P self written (.str role) = roleCredentials P self db (.str role))
    (proxies : ∀ connection proxy, find ConnectionRow.id db.connections id = some connection →
      connection.proxyId = some proxy → resolvedProxy P self written proxy = resolvedProxy P self db proxy)
    (resolves : resolveConnection P self db id = .ok before) : resolveConnection P self written id = .ok before := by
  rcases resolveConnection_ok.mp resolves with ⟨connection, stored, credentialed, accessed, found, decoded, login, access, rfl⟩
  have shape := sound.connections connection (find_mem found).1
  apply resolveConnection_ok.mpr
  refine ⟨connection, stored, credentialed, accessed, connections.trans found, decoded, ?_, ?_, rfl⟩
  · rw [withRole_agreeing, login]
    intro role reference
    rw [setDefault_column (by decide) (shape.column laws decoded "role_account_id" (by decide))] at reference
    exact roles connection role found (ofOption_str reference)
  · have column : Dict.get credentialed "proxy_id" = Value.ofOption connection.proxyId := by
      rw [Dict.get_eq, withRole_lookup laws sound login (by decide), ← Dict.get_eq]
      exact setDefault_column (by decide) (shape.column laws decoded "proxy_id" (by decide))
    rw [withProxy_eq, column] at access ⊢
    cases selected : connection.proxyId with
    | none =>
        rw [selected] at access
        exact access
    | some proxy =>
        rw [selected] at access
        dsimp only [Value.ofOption] at access ⊢
        rw [proxies connection proxy found selected]
        exact access

/-- A connection is resolved as before, but for the fields of its proxy. -/
theorem resolveConnection_proxied (laws : P.VaultLaws) (sound : InventorySound P db) {fields : List String}
    {connection : ConnectionRow Token} {proxy : String} {inner inner' : Dict}
    (roles : written.roleAccounts = db.roleAccounts) (connections : written.connections = db.connections)
    (found : find ConnectionRow.id db.connections id = some connection) (selected : connection.proxyId = some proxy)
    (old : resolvedProxy P self db proxy = .ok inner) (new : resolvedProxy P self written proxy = .ok inner')
    (same : SameFields fields inner inner') (resolves : resolveConnection P self db id = .ok before) :
    ∃ after, resolveConnection P self written id = .ok after ∧ (∀ key ≠ "connector", after.lookup key = before.lookup key) ∧
      ∃ c c', before.lookup "connector" = some (.dict c) ∧ after.lookup "connector" = some (.dict c') ∧
        SameFields fields c c' := by
  rcases resolveConnection_ok.mp resolves with ⟨held, stored, credentialed, accessed, there, decoded, login, access, rfl⟩
  cases found.symm.trans there
  have shape := sound.connections connection (find_mem found).1
  have column : Dict.get credentialed "proxy_id" = .str proxy := by
    rw [Dict.get_eq, withRole_lookup laws sound login (by decide), ← Dict.get_eq]
    rw [setDefault_column (by decide) (shape.column laws decoded "proxy_id" (by decide)), selected]
    rfl
  have truthy : (Value.str proxy).truthy = true := by simpa using (shape.proxy proxy selected).1
  rw [withProxy_eq, column, if_pos truthy] at access
  simp only [old, ok_bind, pure_eq, Except.ok.injEq] at access
  refine ⟨_, resolveConnection_ok.mpr ⟨connection, stored, credentialed, set credentialed "connector" (.dict inner'),
    by rw [connections]; exact found, decoded, by rw [withRole_roles roles]; exact login, ?_, rfl⟩, ?_, inner, inner', ?_, ?_, same⟩
  · rw [withProxy_eq, column, if_pos truthy]
    simp only [new, ok_bind, pure_eq]
  · intro key apart
    rw [← access]
    simp only [lookup_setDefault, lookup_set, if_neg apart]
  · rw [← access, lookup_setDefault, lookup_set, if_pos rfl]
    rfl
  · rw [lookup_setDefault, lookup_set, if_pos rfl]
    rfl

/-! Rows that a save does not reach. -/

theorem write_elsewhere {ρ : Type} {key : ρ → String} {rows stored : List ρ} {itemId : Option String} {held : Option ρ}
    {row : ρ} {unused other : String} (aimed : target key rows itemId = .ok held)
    (kept : key row = (held.map key).getD unused) (returned : write key rows held.isSome row = .ok stored)
    (apart : itemId = some other → other = "")
    (free : itemId.getD "" = "" → unused = other → (find key rows other).isSome) :
    find key stored other = find key rows other := by
  have differs : key row ≠ other := by
    intro same
    cases held with
    | none =>
        have unnamed : itemId.getD "" = "" := by
          rcases target_none aimed with rfl | rfl <;> rfl
        have present := free unnamed (kept.symm.trans same)
        rw [Option.isSome_none, write, if_neg Bool.false_ne_true, same, if_pos present] at returned
        cases returned
    | some found =>
        have named := (target_ok aimed found rfl).2.1
        have own : key found = other := kept.symm.trans same
        rw [own] at named
        rw [named, apart named] at aimed
        cases aimed
  rw [write_target aimed kept returned, find_put, if_neg differs.symm]

theorem saveRoleAccount_elsewhere {itemId : Option String} {role : String}
    (returned : saveRoleAccount P self db fresh payload itemId = .ok (view, written)) (apart : itemId = some role → role = "")
    (present : (find RoleAccountRow.id db.roleAccounts role).isSome) :
    roleCredentials P self written (.str role) = roleCredentials P self db (.str role) := by
  simp only [saveRoleAccount, bind_eq_ok, pure_eq, Except.ok.injEq, Prod.mk.injEq] at returned
  rcases returned with ⟨held, aimed, previous, -, saved, kept, rows, stored, _, -, rfl, rfl⟩
  have same := write_elsewhere aimed (saveRole_id kept) stored apart (fun _ _ => present)
  simp only [roleCredentials, same]

theorem saveProxyResource_elsewhere {itemId : Option String} {proxy : String}
    (returned : saveProxyResource P self db fresh payload itemId = .ok (view, written)) (apart : itemId = some proxy → proxy = "")
    (present : (find ProxyRow.id db.proxies proxy).isSome) :
    find ProxyRow.id written.proxies proxy = find ProxyRow.id db.proxies proxy := by
  simp only [saveProxyResource, bind_eq_ok, pure_eq, Except.ok.injEq, Prod.mk.injEq] at returned
  rcases returned with ⟨held, aimed, previous, -, saved, kept, rows, stored, _, -, rfl, rfl⟩
  exact write_elsewhere aimed (saveProxy_id kept) stored apart (fun _ _ => present)

theorem saveConnectionResource_elsewhere {itemId : Option String} {connection : String}
    (returned : saveConnectionResource P self db fresh payload itemId = .ok (view, written))
    (apart : itemId = some connection → connection = "")
    (free : itemId.getD "" = "" → fresh.id = connection → (find ConnectionRow.id db.connections connection).isSome) :
    find ConnectionRow.id written.connections connection = find ConnectionRow.id db.connections connection := by
  simp only [saveConnectionResource, bind_eq_ok, pure_eq, Except.ok.injEq, Prod.mk.injEq] at returned
  rcases returned with ⟨held, aimed, previous, -, saved, kept, rows, stored, _, -, rfl, rfl⟩
  exact write_elsewhere aimed (saveConnection_id kept) stored apart free

/-! Saves on a role account, a proxy and a connection. -/

theorem previousRole_login {role : RoleAccountRow Token} {previous credentials : Dict}
    (located : find RoleAccountRow.id db.roleAccounts id = some role)
    (decoded : previousRole P self (some role) = .ok previous)
    (found : roleCredentials P self db (.str id) = .ok credentials) : SameFields passwordLogin credentials previous := by
  simp only [roleCredentials, bind_eq_ok, row_ok, asDict_ok, pure_eq, Except.ok.injEq] at found
  rcases found with ⟨account, located', _, opened, secrets, rfl, rfl⟩
  cases located.symm.trans located'
  intro key listed
  have plain : key ≠ "connector" ∧ key ≠ "id" ∧ key ≠ "name" := by
    simp only [passwordLogin, List.mem_cons, List.not_mem_nil, or_false] at listed
    rcases listed with rfl | rfl | rfl <;> decide
  rw [storedProfile_lookup decoded opened plain.1, lookup_merge, List.lookup_nil, Option.none_or]
  simp only [RoleAccountRow.columns, lookup_cons_key, if_neg plain.2.1, if_neg plain.2.2]

section

variable {username password : String}

/-- A role that keeps its login is written with it, whatever else the payload names. -/
theorem saveRole_password {previous : Dict} {row : RoleAccountRow Token} {iv : Nat}
    (saved : saveRole P self iv id payload previous = .ok row)
    (user : (merge previous payload).lookup "username" = some (.str username)) (bare : Text.strip username = username)
    (method : (merge previous payload).lookup "authentication_type" = some (.str "password"))
    (secret : (merge previous payload).lookup "password" = some (.str password))
    (typed : Dict.get previous "authentication_type" = .str "password") :
    row.username = username ∧ row.authenticationType = .password ∧
      row.secrets = Secrets.encrypt P self iv (.dict [("password", .str password)]) := by
  simp only [saveRole, bind_eq_ok, pure_eq, Except.ok.injEq] at saved
  rcases saved with ⟨_, -, name, named, kind, chosen, _, -, _, -, _, -, secrets, accepted, rfl⟩
  rw [Dict.get_eq, user] at named
  rw [Dict.get_eq, method] at chosen
  rcases text_ok.mp named with ⟨_, given, -, -, -, rfl⟩
  cases given
  have kind : kind = .password := (Except.ok.inj chosen).symm
  have unswitched : (Value.str "password" != .str AuthenticationType.password.text) = false := rfl
  rw [kind, typed, unswitched] at accepted
  simp only [roleSecrets, passwordSecrets, bind_eq_ok, pure_eq, Except.ok.injEq] at accepted
  rcases accepted with ⟨_, -, _, -, rfl⟩
  have kept : Dict.get (merge previous payload) "password" = .str password := by
    rw [Dict.get_eq, secret]
    rfl
  refine ⟨bare, kind, ?_⟩
  simp only [kept, Bool.false_eq_true, if_false]

theorem roleCredentials_password (laws : P.VaultLaws) (hold : RolesHold P db) {credentials : Dict}
    (found : roleCredentials P self db (.str id) = .ok credentials)
    (user : credentials.lookup "username" = some (.str username))
    (method : credentials.lookup "authentication_type" = some (.str "password"))
    (secret : credentials.lookup "password" = some (.str password)) :
    credentials = merge [("username", .str username), ("authentication_type", .str "password")]
      [("password", .str password)] := by
  rcases roleCredentials_ok laws hold found with ⟨account, credential, -, agreed, rfl⟩
  cases credential with
  | sshKey privateKey passphrase =>
      have type : some (Value.str "ssh_key") = some (.str "password") := by
        rw [← method, lookup_merge, agreed]
        cases passphrase <;> rfl
      simp at type
  | password value =>
      rw [lookup_merge] at secret user
      have sealed : Value.str value.1 = .str password := Option.some.inj secret
      have named : Value.str account.username = .str username := Option.some.inj user
      rw [agreed, named, Credential.secrets, sealed]
      rfl

theorem saveRoleAccount_leaves (laws : P.VaultLaws) (hold : RolesHold P db) (named : id ≠ "")
    (returned : saveRoleAccount P self db fresh payload (some id) = .ok (view, written)) {credentials : Dict}
    (found : roleCredentials P self db (.str id) = .ok credentials) (leaves : Leaves passwordLogin payload credentials)
    (user : credentials.lookup "username" = some (.str username)) (bare : Text.strip username = username)
    (method : credentials.lookup "authentication_type" = some (.str "password"))
    (secret : credentials.lookup "password" = some (.str password)) :
    roleCredentials P self written (.str id) = .ok credentials := by
  rcases saveRoleAccount_ok returned with ⟨held, previous, role, aimed, decoded, saved, -, rows⟩
  rcases target_named named aimed with ⟨before, rfl, located⟩
  have own : role.id = id := (saveRole_id saved).trans (find_mem located).2
  have read := previousRole_login located decoded found
  have merged : ∀ key ∈ passwordLogin, (merge previous payload).lookup key = credentials.lookup key := by
    intro key listed
    rw [lookup_merge, read key listed]
    cases given : payload.lookup key with
    | none => rw [Option.none_or]
    | some value => exact (leaves key listed value given).symm
  have typed : Dict.get previous "authentication_type" = .str "password" := by
    rw [Dict.get_eq, read _ (by decide), method]
    rfl
  have login := saveRole_password saved ((merged _ (by decide)).trans user) bare ((merged _ (by decide)).trans method)
    ((merged _ (by decide)).trans secret) typed
  rw [roleCredentials, rows, find_put, if_pos own.symm, row]
  simp only [ok_bind, login, Secrets.decrypt_encrypt self laws, asDict, pure_eq]
  rw [roleCredentials_password laws hold found user method secret]
  rfl

end

/-- The fields of a proxy that its connections are reached by. -/
def proxyPath : List String := ["id", "role_account_id", "type", "host", "port"]

/-- The fields of a connection that it is reached by, but for those of its role and its proxy. -/
def connectionPath : List String := ["id", "role_account_id", "protocol", "host", "port", "client_type", "proxy_id"]

theorem FieldFrame.leaves {apart listed : List String} {form : String → Option Value → Option Value}
    (frame : FieldFrame apart form payload before after) (leaves : Leaves listed payload before)
    (own : ∀ key ∈ listed, key ∉ apart) (formed : ∀ key ∈ listed, form key (before.lookup key) = before.lookup key) :
    SameFields listed before after := by
  intro key member
  cases given : payload.lookup key with
  | none => exact frame.unnamed key (own key member) given
  | some value =>
      rw [frame.named key (own key member) value given, ← leaves key member value given]
      exact formed key member

theorem Rewritten.leaves {column : String → Option Value → Option Value} {oldRole newRole : Option String}
    {previous stored : Dict} {listed : List String} {role : String}
    (rewritten : Rewritten column oldRole newRole payload previous stored) (roles : written.roleAccounts = db.roleAccounts)
    (old : Credentialed P self db oldRole previous before) (new : Credentialed P self written newRole stored after)
    (plain : ∀ key ∈ listed, key ∉ "connector" :: loginFields) (reference : "role_account_id" ∈ listed)
    (roled : oldRole = some role) (leaves : Leaves listed payload before) :
    SameFields listed before after ∧ SameFields loginFields before after := by
  have formed : ∀ key ∈ listed, loginForm false column key (before.lookup key) = before.lookup key := by
    intro key member
    have outside := plain key member
    rw [List.mem_cons, not_or] at outside
    rw [old.outside key outside.2, loginForm_unroled (fun inline => outside.2 (List.mem_cons_of_mem _ inline)) false
      oldRole.isSome]
    exact rewritten.formed key outside.1
  have same := (rewritten.fieldFrame old new).leaves leaves plain formed
  refine ⟨same, ?_⟩
  have refers : after.lookup "role_account_id" = some (.str role) := by
    rw [same _ reference, old.refers rewritten.before, roled]
    rfl
  rcases (rewritten.loginFrame roles old new).selected role refers with ⟨credentials, found, fields⟩
  rcases old.role role roled with ⟨credentials', found', fields'⟩
  cases found.symm.trans found'
  intro key login
  rw [fields key login, fields' key login]

theorem ProxyUpdate.leaves (laws : P.VaultLaws) (kept : InventoryKept P db) {iv : Nat}
    (update : ProxyUpdate P self db written payload id iv view) (listed : Within payload (fields .proxies))
    (resolves : resolvedProxy P self db id = .ok before) {role : String}
    (refers : before.lookup "role_account_id" = some (.str role)) (leaves : Leaves proxyPath payload before) :
    resolvedProxy P self written id = .ok update.resolved ∧ SameFields (proxyPath ++ loginFields) before update.resolved := by
  have rewritten := update.rewritten laws kept listed
  have roles : written.roleAccounts = db.roleAccounts := congrArg (·.roleAccounts) update.rows
  have held : RolesHold P written := by
    intro role
    rw [roles]
    exact kept.roles role
  have old := rewritten.before.credentialed laws kept.roles ((resolvedProxy_found update.found update.decoded).mp resolves)
  have new := rewritten.after.credentialed laws held update.credentialed
  have roled : update.before.roleAccountId = some role := by
    apply ofOption_inj
    rw [← old.refers rewritten.before, refers]
    rfl
  have same := rewritten.leaves roles old new (by decide) (by decide) roled leaves
  refine ⟨(update.frame laws kept listed resolves).1, ?_⟩
  intro key member
  rcases List.mem_append.mp member with path | login
  · exact same.1 key path
  · exact same.2 key login

/-- A save that leaves the path of a connection with a role and a saved proxy leaves all it is reached by. -/
theorem ConnectionUpdate.leaves (laws : P.VaultLaws) (kept : InventoryKept P db) {iv : Nat}
    (update : ConnectionUpdate P self db written payload id iv view) (listed : Within payload (fields .connections))
    (resolves : resolveConnection P self db id = .ok before) {role proxy : String}
    (refers : before.lookup "role_account_id" = some (.str role)) (proxied : before.lookup "proxy_id" = some (.str proxy))
    (leaves : Leaves connectionPath payload before) :
    SameFields ("connector" :: (connectionPath ++ loginFields)) before update.resolved := by
  have rewritten := update.rewritten laws kept listed
  have roles : written.roleAccounts = db.roleAccounts := congrArg (·.roleAccounts) update.rows
  rcases update.resolutions laws kept resolves with ⟨old, new⟩
  rcases old.login with ⟨oldLogin, oldCredentials, oldSame⟩
  rcases new.login with ⟨newLogin, newCredentials, newSame⟩
  have roled : update.before.roleAccountId = some role := by
    apply ofOption_inj
    rw [← oldCredentials.refers rewritten.before, ← oldSame _ (by decide), refers]
    rfl
  have left : Leaves connectionPath payload oldLogin := by
    intro key member value given
    have apart : ∀ key ∈ connectionPath, key ≠ "connector" := by decide
    rw [← oldSame key (apart key member)]
    exact leaves key member value given
  have same := rewritten.leaves roles oldCredentials newCredentials (by decide) (by decide) roled left
  have plain : SameFields (connectionPath ++ loginFields) before update.resolved := by
    intro key member
    have apart : ∀ key ∈ connectionPath ++ loginFields, key ≠ "connector" := by decide
    rw [oldSame key (apart key member), newSame key (apart key member)]
    rcases List.mem_append.mp member with path | login
    · exact same.1 key path
    · exact same.2 key login
  intro key member
  rcases List.mem_cons.mp member with rfl | field
  · have selected := (plain "proxy_id" (by decide)).trans proxied
    have column := (kept.sound.connections update.before (find_mem update.found).1).column laws update.decoded "proxy_id"
      (by decide)
    have access : update.before.proxyId = some proxy := by
      apply ofOption_inj
      rw [← old.proxy_column column, proxied]
      rfl
    rcases (update.frame laws kept listed resolves).access.selected proxy selected with ⟨connector, found, after⟩
    rcases old.saved proxy access with ⟨connector', found', before⟩
    cases found.symm.trans found'
    rw [after, before]
  · exact plain key field

/-! The logins on the path. -/

def RoleLogin (P : Platform Token) (store : GatewayStore) (db : Db Token) (roleId : Option String) (profile : Dict) : Prop :=
  profile.lookup "role_account_id" = some (Value.ofOption roleId) ∧ ∀ role, roleId = some role →
    ∃ credentials, roleCredentials P store db (.str role) = .ok credentials ∧ SameFields loginFields credentials profile

theorem Credentialed.roleLogin {roleId : Option String} {stored profile : Dict}
    (credentialed : Credentialed P self db roleId stored profile) (held : LoginHeld roleId stored) :
    RoleLogin P self db roleId profile := by
  refine ⟨credentialed.refers held, ?_⟩
  intro role roled
  rcases credentialed.role role roled with ⟨credentials, found, same⟩
  exact ⟨credentials, found, same⟩

theorem resolvedProxy_login (laws : P.VaultLaws) (kept : InventoryKept P db)
    (resolves : resolvedProxy P self db id = .ok before) :
    ∃ proxy, find ProxyRow.id db.proxies id = some proxy ∧ RoleLogin P self db proxy.roleAccountId before := by
  rw [resolvedProxy_decoded, bind_eq_ok] at resolves
  rcases resolves with ⟨stored, decoded, login⟩
  simp only [decodedProxy, bind_eq_ok, row_ok] at decoded
  rcases decoded with ⟨proxy, found, decoded⟩
  have member := (find_mem found).1
  have held := proxy_held laws (kept.sound.proxies proxy member) (kept.formed.proxies proxy member self stored decoded) decoded
  exact ⟨proxy, found, (held.credentialed laws kept.roles login).roleLogin held⟩

theorem resolveConnection_login (laws : P.VaultLaws) (kept : InventoryKept P db)
    (resolves : resolveConnection P self db id = .ok before) :
    ∃ connection, find ConnectionRow.id db.connections id = some connection ∧
      RoleLogin P self db connection.roleAccountId before ∧
      before.lookup "proxy_id" = some (Value.ofOption connection.proxyId) ∧ ∀ proxy, connection.proxyId = some proxy →
        ∃ connector, resolvedProxy P self db proxy = .ok connector ∧ before.lookup "connector" = some (.dict connector) := by
  rcases resolveConnection_ok.mp resolves with ⟨connection, stored, -, -, found, decoded, -, -, -⟩
  have member := (find_mem found).1
  have sound := kept.sound.connections connection member
  have formed := (kept.formed.connections connection member self stored decoded).fields
  have resolution := resolveConnection_resolved laws kept.roles sound formed found decoded resolves
  rcases resolution.login with ⟨credentialed, credentials, same⟩
  have login := credentials.roleLogin (connection_held laws sound formed decoded)
  refine ⟨connection, found, ⟨(same _ (by decide)).trans login.1, ?_⟩,
    resolution.proxy_column (sound.column laws decoded "proxy_id" (by decide)), resolution.saved⟩
  intro role roled
  rcases login.2 role roled with ⟨held, there, fields⟩
  refine ⟨held, there, ?_⟩
  intro key listed
  have apart : ∀ key ∈ loginFields, key ≠ "connector" := by decide
  rw [same key (apart key listed), fields key listed]

end

end NetworkGateway.Store
