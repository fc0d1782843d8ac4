import NetworkGateway.Proofs.RepeatedSaves

/-! Partial updates: what a save of a proxy or a connection leaves of the profile before it. -/

namespace NetworkGateway.Store

open Library.Dict Library.Result Library.Run Library.Table Library.Update

def loginFields : List String := "authentication_type" :: inlineFields

/-- Besides the fields set apart, what is not named stays and what is named is taken in its form. -/
structure FieldFrame (apart : List String) (form : String → Option Value → Option Value)
    (given before after : Dict) : Prop where
  unnamed : ∀ key ∉ apart, given.lookup key = none → after.lookup key = before.lookup key
  named : ∀ key ∉ apart, ∀ value, given.lookup key = some value → after.lookup key = form key (some value)

/-- The login of a profile: unnamed fields stay while the role does, a role that is selected brings
its credentials, one that is deselected leaves none, and without a role what is named is taken. -/
structure LoginFrame {Token : Type} (P : Platform Token) (store : GatewayStore) (db : Db Token)
    (form : String → Option Value → Option Value) (given before after : Dict) : Prop where
  kept : after.lookup "role_account_id" = before.lookup "role_account_id" →
    ∀ key ∈ loginFields, given.lookup key = none → after.lookup key = before.lookup key
  selected : ∀ id, after.lookup "role_account_id" = some (.str id) →
    ∃ credentials, roleCredentials P store db (.str id) = .ok credentials ∧
      ∀ key ∈ loginFields, after.lookup key = credentials.lookup key
  deselected : after.lookup "role_account_id" = some .none → before.lookup "role_account_id" ≠ some .none →
    ∀ key ∈ loginFields, given.lookup key = none → after.lookup key = none
  named : after.lookup "role_account_id" = some .none →
    ∀ key ∈ loginFields, ∀ value, given.lookup key = some value → after.lookup key = form key (some value)

/-- The connector of a connection: the saved proxy's, the one before, or one of the payload. -/
structure AccessFrame {Token : Type} (P : Platform Token) (store : GatewayStore) (db : Db Token)
    (given before after : Dict) : Prop where
  kept : after.lookup "proxy_id" = before.lookup "proxy_id" → given.lookup "connector" = none →
    SameConnector (after.lookup "connector") (before.lookup "connector")
  selected : ∀ id, after.lookup "proxy_id" = some (.str id) →
    ∃ proxy, resolvedProxy P store db id = .ok proxy ∧ after.lookup "connector" = some (.dict proxy)
  deselected : after.lookup "proxy_id" = some .none → before.lookup "proxy_id" ≠ some .none →
    given.lookup "connector" = none →
    SameConnector (after.lookup "connector") (some (.dict [("type", .str "direct")]))
  replaced : after.lookup "proxy_id" = some .none → before.lookup "proxy_id" ≠ some .none →
    ∀ value, given.lookup "connector" = some value →
      ∃ entries made, value = .dict entries ∧ after.lookup "connector" = some (.dict made) ∧ ConnectorMade entries made
  updated : after.lookup "proxy_id" = some .none → before.lookup "proxy_id" = some .none →
    ∀ value, given.lookup "connector" = some value →
      ∃ entries old new, value = .dict entries ∧ before.lookup "connector" = some (.dict old) ∧
        after.lookup "connector" = some (.dict new) ∧ ConnectorFrame entries old new

structure ProxyFrame {Token : Type} (P : Platform Token) (store : GatewayStore) (db : Db Token)
    (given before after : Dict) : Prop where
  fields : FieldFrame loginFields (loginForm false proxyColumn) given before after
  login : LoginFrame P store db (loginForm false proxyColumn) given before after

structure ConnectionFrame {Token : Type} (P : Platform Token) (store : GatewayStore) (db : Db Token)
    (given before after : Dict) : Prop where
  fields : FieldFrame ("connector" :: loginFields) (loginForm false connectionColumn) given before after
  login : LoginFrame P store db (loginForm false connectionColumn) given before after
  access : AccessFrame P store db given before after

/-! The login. -/

structure LoginHeld (roleId : Option String) (profile : Dict) : Prop where
  named : ∀ id, roleId = some id → id ≠ ""
  refers : profile.lookup "role_account_id" = some (Value.ofOption roleId)
  untyped : profile.lookup "authentication_type" = none
  bare : roleId.isSome = true → ∀ key ∈ inlineFields, profile.lookup key = none

structure Credentialed {Token : Type} (P : Platform Token) (store : GatewayStore) (db : Db Token)
    (roleId : Option String) (profile resolved : Dict) : Prop where
  outside : ∀ key ∉ loginFields, resolved.lookup key = profile.lookup key
  own : roleId = none → ∀ key ∈ loginFields, resolved.lookup key = profile.lookup key
  role : ∀ id, roleId = some id → ∃ credentials, roleCredentials P store db (.str id) = .ok credentials ∧
    ∀ key ∈ loginFields, resolved.lookup key = credentials.lookup key

structure Rewritten (column : String → Option Value → Option Value) (oldRole newRole : Option String)
    (given previous stored : Dict) : Prop where
  plain : ∀ held, column "username" held = held
  formed : Formed column oldRole previous
  before : LoginHeld oldRole previous
  after : LoginHeld newRole stored
  fields : ∀ key ∉ ["connector", "id"],
    stored.lookup key = updated (loginForm newRole.isSome column key) (given.lookup key) (previous.lookup key)
  id : stored.lookup "id" = previous.lookup "id"
  unnamed : given.lookup "id" = none
  untyped : given.lookup "authentication_type" = none

theorem ofOption_inj {one other : Option String} (same : some (Value.ofOption one) = some (Value.ofOption other)) :
    one = other := by
  cases one with
  | none =>
      cases other with
      | none => rfl
      | some id => cases same
  | some id =>
      cases other with
      | none => cases same
      | some id' =>
          cases same
          rfl

theorem inlineFields_plain {key : String} (inline : key ∈ inlineFields) : key ∉ ["connector", "id"] := by
  have apart : ∀ key ∈ inlineFields, key ∉ ["connector", "id"] := by decide
  exact apart key inline

theorem loginForm_absent {rest : String → Option Value → Option Value} (plain : ∀ held, rest "username" held = held)
    {key : String} (inline : key ∈ inlineFields) (roled : Bool) : loginForm roled rest key none = none := by
  simp only [inlineFields, List.mem_cons, List.not_mem_nil, or_false] at inline
  unfold loginForm
  rcases inline with rfl | rfl | rfl | rfl | rfl <;> cases roled <;> simp [inlineFields, trustPaths, Secrets.secretFields, plain]

section

variable {Token : Type} {P : Platform Token} {self caller : GatewayStore} {db other : Db Token}
  {oldRole newRole : Option String} {given previous stored before after : Dict}

theorem withRole_roles (roles : other.roleAccounts = db.roleAccounts) : withRole P self other = withRole P self db := by
  funext profile
  unfold withRole
  rw [roleCredentials_same roles]

theorem LoginHeld.credentialed (laws : P.VaultLaws) (roles : RolesHold P db) {profile resolved : Dict}
    (held : LoginHeld newRole profile) (returned : withRole P self db profile = .ok resolved) :
    Credentialed P self db newRole profile resolved := by
  have reference : Dict.get profile "role_account_id" = Value.ofOption newRole := by
    rw [Dict.get_eq, held.refers]
    rfl
  rcases withRole_ok.mp returned with ⟨falsy, rfl⟩ | ⟨credentials, truthy, found, rfl⟩
  · refine ⟨fun _ _ => rfl, fun _ _ _ => rfl, ?_⟩
    intro id selected
    rw [reference, selected] at falsy
    have empty : id = "" := by simpa [Value.ofOption] using falsy
    exact absurd empty (held.named id selected)
  · cases newRole with
    | none =>
        rw [reference] at truthy
        cases truthy
    | some id =>
        rw [reference] at found
        rcases roleCredentials_ok laws roles found with ⟨role, credential, -, -, same⟩
        have sealed : ∀ key ∉ loginFields, credentials.lookup key = none := by
          intro key outside
          simp only [loginFields, inlineFields, List.mem_cons, List.not_mem_nil, or_false, not_or] at outside
          have secret : credential.secrets.lookup key = none := by
            cases credential with
            | password value => simp [Credential.secrets, lookup_cons_key, outside]
            | sshKey privateKey passphrase => cases passphrase <;> simp [Credential.secrets, lookup_cons_key, outside]
          rw [same, lookup_merge, secret, Option.none_or]
          simp [lookup_cons_key, outside]
        have unset : ∀ key ∈ loginFields, profile.lookup key = none := by
          intro key listed
          rcases List.mem_cons.mp listed with rfl | inline
          · exact held.untyped
          · exact held.bare rfl key inline
        refine ⟨?_, ?_, ?_⟩
        · intro key outside
          rw [lookup_merge, sealed key outside, Option.none_or]
        · intro absent
          cases absent
        · intro other selected
          cases selected
          refine ⟨credentials, found, ?_⟩
          intro key listed
          rw [lookup_merge, unset key listed, Option.or_none]

theorem Credentialed.refers {profile resolved : Dict} (credentialed : Credentialed P self db newRole profile resolved)
    (held : LoginHeld newRole profile) : resolved.lookup "role_account_id" = some (Value.ofOption newRole) := by
  rw [credentialed.outside _ (by decide)]
  exact held.refers

namespace Rewritten

variable {column : String → Option Value → Option Value}

theorem kept (rewritten : Rewritten column oldRole newRole given previous stored) (same : newRole = oldRole) {key : String}
    (listed : key ∈ loginFields) (unnamed : given.lookup key = none) : stored.lookup key = previous.lookup key := by
  rcases List.mem_cons.mp listed with rfl | inline
  · rw [rewritten.after.untyped, rewritten.before.untyped]
  · have plain := inlineFields_plain inline
    have apart : key ≠ "connector" := by simpa using fun same => plain (by rw [same]; decide)
    rw [rewritten.fields key plain, unnamed, same]
    exact updated_unnamed (rewritten.formed key apart)

theorem dropped (rewritten : Rewritten column oldRole newRole given previous stored) (selected : oldRole.isSome = true)
    {key : String} (listed : key ∈ loginFields) (unnamed : given.lookup key = none) : stored.lookup key = none := by
  rcases List.mem_cons.mp listed with rfl | inline
  · exact rewritten.after.untyped
  · rw [rewritten.fields key (inlineFields_plain inline), unnamed, rewritten.before.bare selected key inline]
    exact loginForm_absent rewritten.plain inline _

theorem loginFrame (rewritten : Rewritten column oldRole newRole given previous stored)
    (roles : other.roleAccounts = db.roleAccounts) (old : Credentialed P self db oldRole previous before)
    (new : Credentialed P self other newRole stored after) : LoginFrame P self db (loginForm false column) given before after := by
  have oldRefers := old.refers rewritten.before
  have newRefers := new.refers rewritten.after
  constructor
  · intro same key listed unnamed
    have role : newRole = oldRole := ofOption_inj (newRefers.symm.trans (same.trans oldRefers))
    cases named : newRole with
    | none =>
        rw [new.own named key listed, old.own (role ▸ named) key listed]
        exact rewritten.kept role listed unnamed
    | some id =>
        rcases new.role id named with ⟨credentials, found, first⟩
        rcases old.role id (role ▸ named) with ⟨credentials', found', second⟩
        rw [roleCredentials_same roles] at found
        cases found.symm.trans found'
        rw [first key listed, second key listed]
  · intro id selected
    have role : newRole = some id := ofOption_inj (newRefers.symm.trans selected)
    rcases new.role id role with ⟨credentials, found, first⟩
    rw [roleCredentials_same roles] at found
    exact ⟨credentials, found, first⟩
  · intro unset selected key listed unnamed
    have role : newRole = none := ofOption_inj (newRefers.symm.trans unset)
    have held : oldRole.isSome = true := by
      cases oldRole with
      | none => exact absurd oldRefers selected
      | some id => rfl
    rw [new.own role key listed]
    exact rewritten.dropped held listed unnamed
  · intro unset key listed value named
    have role : newRole = none := ofOption_inj (newRefers.symm.trans unset)
    have inline : key ∈ inlineFields := by
      rcases List.mem_cons.mp listed with rfl | inline
      · cases rewritten.untyped.symm.trans named
      · exact inline
    rw [new.own role key listed, rewritten.fields key (inlineFields_plain inline), named, role]
    rfl

theorem fieldFrame (rewritten : Rewritten column oldRole newRole given previous stored)
    (old : Credentialed P self db oldRole previous before) (new : Credentialed P self other newRole stored after) :
    FieldFrame ("connector" :: loginFields) (loginForm false column) given before after := by
  have plain : ∀ key ∉ "connector" :: loginFields, key ≠ "connector" ∧ key ∉ inlineFields ∧ key ∉ loginFields := by
    intro key outside
    rw [List.mem_cons, not_or] at outside
    exact ⟨outside.1, fun inline => outside.2 (List.mem_cons_of_mem _ inline), outside.2⟩
  constructor
  · intro key outside unnamed
    rcases plain key outside with ⟨apart, inline, login⟩
    rw [new.outside key login, old.outside key login]
    by_cases own : key = "id"
    · rw [own, rewritten.id]
    · rw [rewritten.fields key (by simp [apart, own]), unnamed, updated_unnamed]
      rw [loginForm_unroled inline newRole.isSome oldRole.isSome]
      exact rewritten.formed key apart
  · intro key outside value named
    rcases plain key outside with ⟨apart, inline, login⟩
    have own : key ≠ "id" := by
      intro same
      rw [same, rewritten.unnamed] at named
      cases named
    rw [new.outside key login, rewritten.fields key (by simp [apart, own]), named]
    exact loginForm_unroled inline newRole.isSome false (some value)

end Rewritten

end

structure InventoryKept {Token : Type} (P : Platform Token) (db : Db Token) : Prop where
  sound : InventorySound P db
  roles : RolesHold P db
  formed : RowsFormed P db

theorem run_inventoryKept {Token : Type} {P : Platform Token} (laws : P.VaultLaws) (calls : List Call) :
    InventoryKept P (run (after P) Db.empty calls) :=
  ⟨run_inventory calls, run_rolesHold laws calls, run_rowsFormed laws calls⟩

/-! Proxies. -/

section

variable {Token : Type} {P : Platform Token} {self : GatewayStore} {fresh : Fresh} {db written : Db Token}
  {payload before after : Dict} {id : String} {iv : Nat} {view : Value}

theorem loginHeld_of_formed {column : String → Option Value → Option Value} {roleId : Option String} {profile : Dict}
    (named : ∀ id, roleId = some id → id ≠ "") (formed : Formed column roleId profile)
    (refers : profile.lookup "role_account_id" = some (Value.ofOption roleId))
    (untyped : profile.lookup "authentication_type" = none) : LoginHeld roleId profile := by
  refine ⟨named, refers, untyped, ?_⟩
  intro roled key inline
  have apart : key ≠ "connector" := by
    intro same
    rw [same] at inline
    exact absurd inline (by decide)
  rw [← formed key apart, roled, loginForm_replaced inline]

theorem proxy_held (laws : P.VaultLaws) {roles : List (RoleAccountRow Token)} {proxy : ProxyRow Token} {profile : Dict}
    (sound : ProxySound P roles proxy) (formed : Formed proxyColumn proxy.roleAccountId profile)
    (decoded : storedProfile P self proxy.columns proxy.configuration proxy.secrets = .ok profile) :
    LoginHeld proxy.roleAccountId profile :=
  loginHeld_of_formed (fun id named => (sound.role id named).1) formed (sound.column laws decoded _ (by decide))
    (sound.column laws decoded _ (by decide))

theorem resolvedProxy_found {proxy : ProxyRow Token} {profile resolved : Dict}
    (found : find ProxyRow.id db.proxies id = some proxy)
    (decoded : storedProfile P self proxy.columns proxy.configuration proxy.secrets = .ok profile) :
    resolvedProxy P self db id = .ok resolved ↔ withRole P self db profile = .ok resolved := by
  have held : decodedProxy P self db id = .ok profile := by
    unfold decodedProxy
    rw [found]
    exact decoded
  rw [resolvedProxy_decoded, held]
  rfl

theorem ProxyUpdate.rewritten (laws : P.VaultLaws) (kept : InventoryKept P db)
    (update : ProxyUpdate P self db written payload id iv view) (listed : Within payload (fields .proxies)) :
    Rewritten proxyColumn update.before.roleAccountId update.common.roleAccountId payload update.previous
      update.stored := by
  have member := (find_mem update.found).1
  have oldSound := kept.sound.proxies update.before member
  have oldFormed := kept.formed.proxies update.before member self update.previous update.decoded
  have saved : saveProxy P self db iv id payload update.previous = .ok (savedProxy P self iv id update.common update.kind) :=
    saveProxy_ok.mpr ⟨update.common, update.kind, update.accepted, update.typed, rfl⟩
  have newSound := saveProxy_sound saved
  have newFormed := savedProxy_formed laws update.accepted update.typed update.opened oldFormed.paths
  refine ⟨fun _ => rfl, oldFormed, proxy_held laws oldSound oldFormed update.decoded,
    proxy_held laws newSound newFormed update.opened, ?_, ?_, listed.lookup (by decide), listed.lookup (by decide)⟩
  · intro key outside
    simp only [List.mem_cons, List.not_mem_nil, or_false, not_or] at outside
    exact savedProxy_updated laws update.accepted update.typed update.opened oldFormed.paths outside.1 outside.2
  · rw [newSound.column laws update.opened "id" (by decide), oldSound.column laws update.decoded "id" (by decide)]
    exact congrArg (fun id => some (Value.str id)) (find_mem update.found).2.symm

theorem ProxyUpdate.unconnected (laws : P.VaultLaws) (kept : InventoryKept P db)
    (update : ProxyUpdate P self db written payload id iv view) :
    update.previous.lookup "connector" = none ∧ update.stored.lookup "connector" = none := by
  have saved : saveProxy P self db iv id payload update.previous = .ok (savedProxy P self iv id update.common update.kind) :=
    saveProxy_ok.mpr ⟨update.common, update.kind, update.accepted, update.typed, rfl⟩
  exact ⟨(kept.sound.proxies update.before (find_mem update.found).1).unconnected laws update.decoded,
    (saveProxy_sound saved).unconnected laws update.opened⟩

theorem ProxyUpdate.frame (laws : P.VaultLaws) (kept : InventoryKept P db)
    (update : ProxyUpdate P self db written payload id iv view) (listed : Within payload (fields .proxies))
    (resolves : resolvedProxy P self db id = .ok before) :
    resolvedProxy P self written id = .ok update.resolved ∧ ProxyFrame P self db payload before update.resolved := by
  have rewritten := update.rewritten laws kept listed
  have roles : written.roleAccounts = db.roleAccounts := congrArg (·.roleAccounts) update.rows
  have rows : written.proxies = put ProxyRow.id db.proxies (savedProxy P self iv id update.common update.kind) :=
    congrArg (·.proxies) update.rows
  have located : find ProxyRow.id written.proxies id = some (savedProxy P self iv id update.common update.kind) := by
    rw [rows]
    exact find_saved db.proxies _
  have held : RolesHold P written := by
    intro role
    rw [roles]
    exact kept.roles role
  have old := rewritten.before.credentialed laws kept.roles ((resolvedProxy_found update.found update.decoded).mp resolves)
  have new := rewritten.after.credentialed laws held update.credentialed
  refine ⟨(resolvedProxy_found located update.opened).mpr update.credentialed, ?_, rewritten.loginFrame roles old new⟩
  have fields := rewritten.fieldFrame old new
  have bare := update.unconnected laws kept
  have unconnected : update.resolved.lookup "connector" = before.lookup "connector" := by
    rw [new.outside _ (by decide), old.outside _ (by decide), bare.1, bare.2]
  constructor
  · intro key outside unnamed
    by_cases connector : key = "connector"
    · rw [connector, unconnected]
    · exact fields.unnamed key (by simp [connector, outside]) unnamed
  · intro key outside value named
    have apart : key ≠ "connector" := by
      intro connector
      rw [connector, listed.lookup (by decide)] at named
      cases named
    exact fields.named key (by simp [apart, outside]) value named

/-! Connections. -/

structure ConnectionResolved {Token : Type} (P : Platform Token) (store : GatewayStore) (db : Db Token)
    (roleId proxyId : Option String) (stored resolved : Dict) : Prop where
  login : ∃ credentialed, Credentialed P store db roleId stored credentialed ∧
    ∀ key ≠ "connector", resolved.lookup key = credentialed.lookup key
  inline : proxyId = none → ∀ value, stored.lookup "connector" = some value → resolved.lookup "connector" = some value
  saved : ∀ id, proxyId = some id →
    ∃ proxy, resolvedProxy P store db id = .ok proxy ∧ resolved.lookup "connector" = some (.dict proxy)

theorem setDefault_bound {entries : Dict} {key : String} {value : Value} (bound : (entries.lookup key).isSome = true) :
    setDefault entries key value = entries :=
  if_pos bound

theorem connection_held (laws : P.VaultLaws) {roles : List (RoleAccountRow Token)} {proxies : List (ProxyRow Token)}
    {connection : ConnectionRow Token} {profile : Dict} (sound : ConnectionSound P roles proxies connection)
    (formed : Formed connectionColumn connection.roleAccountId profile)
    (decoded : storedProfile P self connection.columns connection.configuration connection.secrets = .ok profile) :
    LoginHeld connection.roleAccountId profile :=
  loginHeld_of_formed (fun id named => (sound.role id named).1) formed (sound.column laws decoded _ (by decide))
    (sound.column laws decoded _ (by decide))

theorem resolveConnection_resolved (laws : P.VaultLaws) (roles : RolesHold P db) {connection : ConnectionRow Token}
    {profile resolved : Dict} {accounts : List (RoleAccountRow Token)} {proxies : List (ProxyRow Token)}
    (sound : ConnectionSound P accounts proxies connection)
    (formed : Formed connectionColumn connection.roleAccountId profile)
    (found : find ConnectionRow.id db.connections id = some connection)
    (decoded : storedProfile P self connection.columns connection.configuration connection.secrets = .ok profile)
    (resolves : resolveConnection P self db id = .ok resolved) :
    ConnectionResolved P self db connection.roleAccountId connection.proxyId profile resolved := by
  rcases resolveConnection_ok.mp resolves with ⟨other, stored, credentialed, accessed, there, opened, login, access, rfl⟩
  cases found.symm.trans there
  cases decoded.symm.trans opened
  have client : (profile.lookup "client_type").isSome = true := by
    rw [← formed "client_type" (by decide), loginForm_other _ (by decide)]
    rfl
  rw [setDefault_bound client] at login
  have through := (connection_held laws sound formed decoded).credentialed laws roles login
  have reference : Dict.get credentialed "proxy_id" = Value.ofOption connection.proxyId := by
    rw [Dict.get_eq, through.outside _ (by decide), sound.column laws decoded _ (by decide)]
    rfl
  have stays : ∀ key ≠ "connector", (setDefault accessed "connector" (.dict [("type", .str "direct")])).lookup key =
      accessed.lookup key := by
    intro key other
    rw [lookup_setDefault, if_neg other, Option.or_none]
  rw [withProxy_eq, reference] at access
  cases named : connection.proxyId with
  | none =>
      rw [named] at access
      cases access
      refine ⟨⟨credentialed, through, stays⟩, ?_, ?_⟩
      · intro _ value bound
        have held : credentialed.lookup "connector" = some value := by
          rw [through.outside _ (by decide), bound]
        rw [setDefault_bound (by rw [held]; rfl), held]
      · intro id selected
        cases selected
  | some proxyId =>
      have nonempty := (sound.proxy proxyId named).1
      have truthy : (Value.ofOption (some proxyId)).truthy = true := by simpa [Value.ofOption] using nonempty
      rw [named, if_pos truthy] at access
      rcases (bind_eq_ok _ _ _).mp access with ⟨connector, resolved, same⟩
      cases same
      refine ⟨⟨credentialed, through, ?_⟩, ?_, ?_⟩
      · intro key other
        rw [stays key other, lookup_set, if_neg other]
      · intro absent
        cases absent
      · intro id selected
        cases selected
        refine ⟨connector, resolved, ?_⟩
        rw [lookup_setDefault, lookup_set, if_pos rfl]
        rfl

theorem AccessSaved.unnamed {roleId proxyId : Option String} {previous : Dict} {access : Option Dict}
    (accessed : AccessSaved P payload previous (working previous payload roleId) proxyId access)
    (formed : AccessFormed previous) (inlined : (previous.lookup "connector").isSome = proxyId.isNone)
    (unnamed : payload.lookup "connector" = none) :
    SameConnector (access.map (fun result => .dict (storedConnector result))) (previous.lookup "connector") := by
  cases accessed with
  | saved id _ =>
      have absent : previous.lookup "connector" = none := by simpa using inlined
      rw [absent]
      exact .inl rfl
  | inline result accepted =>
      rcases inline_iff.mp (.inline result accepted) with ⟨base, entries, source, listed, outcome⟩
      cases source with
      | named _ _ given _ => cases unnamed.symm.trans given
      | stored _ _ bound =>
          rcases formed _ bound with ⟨connector, equal, fine⟩
          cases equal
          exact .inr ⟨_, _, rfl, bound, outcome.kept listed fine⟩
      | unset _ absent =>
          rw [absent] at inlined
          cases inlined

theorem accessFrame {roleId oldRole newRole oldProxy newProxy : Option String} {previous stored : Dict}
    {access : Option Dict} (same : written.roleAccounts = db.roleAccounts) (kept : written.proxies = db.proxies)
    (accessed : AccessSaved P payload previous (working previous payload roleId) newProxy access)
    (formed : AccessFormed previous) (inlined : (previous.lookup "connector").isSome = oldProxy.isNone)
    (connected : stored.lookup "connector" = access.map (fun result => .dict (storedConnector result)))
    (old : ConnectionResolved P self db oldRole oldProxy previous before)
    (new : ConnectionResolved P self written newRole newProxy stored after)
    (oldRefers : before.lookup "proxy_id" = some (Value.ofOption oldProxy))
    (newRefers : after.lookup "proxy_id" = some (Value.ofOption newProxy)) : AccessFrame P self db payload before after := by
  have proxies : ∀ id, resolvedProxy P self written id = resolvedProxy P self db id := by
    intro id
    rw [resolvedProxy_decoded, resolvedProxy_decoded]
    have decodes : decodedProxy P self written id = decodedProxy P self db id := by
      unfold decodedProxy
      rw [kept]
    rw [decodes, withRole_roles same]
  -- the connector of a connection that has no saved proxy after the save
  have inline : newProxy = none → ∃ base entries result, ConnectorSource payload previous base entries ∧
      Within entries connectorFields ∧ ConnectorOutcome P base entries result ∧
      after.lookup "connector" = some (.dict (storedConnector result)) := by
    intro unset
    rw [unset] at accessed
    cases accessed with
    | inline result accepted =>
        rcases inline_iff.mp (.inline result accepted) with ⟨base, entries, source, listed, outcome⟩
        exact ⟨base, entries, result, source, listed, outcome, new.inline unset _ connected⟩
  have unproxied : after.lookup "proxy_id" = some .none → newProxy = none :=
    fun unset => ofOption_inj (newRefers.symm.trans unset)
  have bare : before.lookup "proxy_id" ≠ some .none → previous.lookup "connector" = none := by
    intro selected
    cases oldProxy with
    | none => exact absurd oldRefers selected
    | some id => simpa using inlined
  constructor
  · intro unchanged unnamed
    have proxy : newProxy = oldProxy := ofOption_inj (newRefers.symm.trans (unchanged.trans oldRefers))
    cases selected : newProxy with
    | some id =>
        rcases new.saved id selected with ⟨connector, resolves, held⟩
        rcases old.saved id (proxy ▸ selected) with ⟨connector', resolves', held'⟩
        rw [proxies] at resolves
        cases resolves.symm.trans resolves'
        exact .inl (held.trans held'.symm)
    | none =>
        rw [← proxy] at inlined
        have stays := accessed.unnamed formed inlined unnamed
        rw [selected, Option.isNone_none, Option.isSome_iff_exists] at inlined
        rcases inlined with ⟨value, bound⟩
        rcases stays with equal | ⟨c, d, left, right, inner⟩
        · rw [bound] at equal
          exact .inl ((new.inline selected _ (connected.trans equal)).trans (old.inline (proxy ▸ selected) _ bound).symm)
        · exact .inr ⟨c, d, new.inline selected _ (connected.trans left), old.inline (proxy ▸ selected) _ right, inner⟩
  · intro id selected
    have proxy : newProxy = some id := ofOption_inj (newRefers.symm.trans selected)
    rcases new.saved id proxy with ⟨connector, resolves, held⟩
    rw [proxies] at resolves
    exact ⟨connector, resolves, held⟩
  · intro unset selected unnamed
    rcases inline (unproxied unset) with ⟨base, entries, result, source, listed, outcome, held⟩
    cases source with
    | named _ _ given _ => cases unnamed.symm.trans given
    | stored _ _ bound => cases (bare selected).symm.trans bound
    | unset _ _ => exact .inr ⟨_, _, held, rfl, outcome.kept listed direct_formed⟩
  · intro unset selected value given
    rcases inline (unproxied unset) with ⟨base, entries, result, source, listed, outcome, held⟩
    cases source with
    | named _ _ named start =>
        cases given.symm.trans named
        rw [Dict.get_eq, bare selected] at start
        cases start
        exact ⟨entries, _, rfl, held, outcome.made listed⟩
    | stored _ unnamed _ => cases given.symm.trans unnamed
    | unset unnamed _ => cases given.symm.trans unnamed
  · intro unset unselected value given
    rcases inline (unproxied unset) with ⟨base, entries, result, source, listed, outcome, held⟩
    have proxy : oldProxy = none := ofOption_inj (oldRefers.symm.trans unselected)
    cases source with
    | named _ _ named start =>
        cases given.symm.trans named
        rw [proxy, Option.isNone_none, Option.isSome_iff_exists] at inlined
        rcases inlined with ⟨value, bound⟩
        rcases formed value bound with ⟨connector, rfl, fine⟩
        rw [Dict.get_eq, bound] at start
        cases (orEmpty_stored fine).symm.trans start
        exact ⟨entries, _, _, rfl, old.inline proxy _ bound, held, outcome.frame listed fine⟩
    | stored _ unnamed _ => cases given.symm.trans unnamed
    | unset unnamed _ => cases given.symm.trans unnamed

theorem ConnectionResolved.proxy_column {roleId proxyId : Option String} {profile resolved : Dict}
    (resolution : ConnectionResolved P self db roleId proxyId profile resolved)
    (column : profile.lookup "proxy_id" = some (Value.ofOption proxyId)) :
    resolved.lookup "proxy_id" = some (Value.ofOption proxyId) := by
  rcases resolution.login with ⟨credentialed, credentials, same⟩
  rw [same _ (by decide), credentials.outside _ (by decide)]
  exact column

theorem FieldFrame.congr {apart : List String} {form : String → Option Value → Option Value} {given a b c d : Dict}
    (frame : FieldFrame apart form given a b) (left : ∀ key ∉ apart, c.lookup key = a.lookup key)
    (right : ∀ key ∉ apart, d.lookup key = b.lookup key) : FieldFrame apart form given c d := by
  constructor
  · intro key outside unnamed
    rw [left key outside, right key outside]
    exact frame.unnamed key outside unnamed
  · intro key outside value named
    rw [right key outside]
    exact frame.named key outside value named

theorem LoginFrame.congr {form : String → Option Value → Option Value} {given a b c d : Dict}
    (frame : LoginFrame P self db form given a b) (left : ∀ key ≠ "connector", c.lookup key = a.lookup key)
    (right : ∀ key ≠ "connector", d.lookup key = b.lookup key) : LoginFrame P self db form given c d := by
  have apart : ∀ key ∈ loginFields, key ≠ "connector" := by decide
  constructor
  · rw [left _ (by decide), right _ (by decide)]
    intro same key listed unnamed
    rw [left key (apart key listed), right key (apart key listed)]
    exact frame.kept same key listed unnamed
  · intro id selected
    rw [right _ (by decide)] at selected
    rcases frame.selected id selected with ⟨credentials, found, fields⟩
    refine ⟨credentials, found, ?_⟩
    intro key listed
    rw [right key (apart key listed)]
    exact fields key listed
  · rw [left _ (by decide), right _ (by decide)]
    intro unset selected key listed unnamed
    rw [right key (apart key listed)]
    exact frame.deselected unset selected key listed unnamed
  · rw [right _ (by decide)]
    intro unset key listed value named
    rw [right key (apart key listed)]
    exact frame.named unset key listed value named

structure ConnectionWritten {Token : Type} (P : Platform Token) (store : GatewayStore) (db : Db Token) (id : String)
    (roleId proxyId : Option String) (connection : ConnectionRow Token) (stored : Dict) : Prop where
  sound : ConnectionSound P db.roleAccounts db.proxies connection
  formed : Formed connectionColumn connection.roleAccountId stored
  own : connection.id = id
  role : connection.roleAccountId = roleId
  proxy : connection.proxyId = proxyId

theorem ConnectionUpdate.connection_written (laws : P.VaultLaws) (kept : InventoryKept P db)
    (update : ConnectionUpdate P self db written payload id iv view) :
    ConnectionWritten P self db id update.common.roleAccountId update.proxyId update.connection update.stored := by
  have oldFormed := kept.formed.connections update.before (find_mem update.found).1 self update.previous update.decoded
  have saved : saveConnection P self db iv id payload update.previous = .ok update.connection :=
    saveConnection_ok.mpr ⟨_, _, _, _, _, _, update.accepted, update.same⟩
  have roleId : update.connection.roleAccountId = update.common.roleAccountId := congrArg (·.roleAccountId) update.same
  exact ⟨saveConnection_sound saved,
    roleId ▸ savedConnection_formed laws update.accepted update.same update.opened oldFormed.fields.paths,
    saveConnection_id saved, roleId, congrArg (·.proxyId) update.same⟩

theorem ConnectionUpdate.rewritten (laws : P.VaultLaws) (kept : InventoryKept P db)
    (update : ConnectionUpdate P self db written payload id iv view) (listed : Within payload (fields .connections)) :
    Rewritten connectionColumn update.before.roleAccountId update.connection.roleAccountId payload update.previous
      update.stored := by
  have member := (find_mem update.found).1
  have oldSound := kept.sound.connections update.before member
  have oldFormed := kept.formed.connections update.before member self update.previous update.decoded
  have wrote := update.connection_written laws kept
  refine ⟨fun _ => rfl, oldFormed.fields, connection_held laws oldSound oldFormed.fields update.decoded,
    connection_held laws wrote.sound wrote.formed update.opened, ?_, ?_, listed.lookup (by decide), listed.lookup (by decide)⟩
  · intro key outside
    simp only [List.mem_cons, List.not_mem_nil, or_false, not_or] at outside
    exact wrote.role ▸ savedConnection_updated laws update.accepted update.same update.opened oldFormed.fields.paths
      outside.1 outside.2
  · rw [wrote.sound.column laws update.opened "id" (by decide), oldSound.column laws update.decoded "id" (by decide)]
    exact congrArg (fun id => some (Value.str id)) (wrote.own.trans (find_mem update.found).2.symm)

theorem ConnectionUpdate.resolutions (laws : P.VaultLaws) (kept : InventoryKept P db)
    (update : ConnectionUpdate P self db written payload id iv view) (resolves : resolveConnection P self db id = .ok before) :
    ConnectionResolved P self db update.before.roleAccountId update.before.proxyId update.previous before ∧
      ConnectionResolved P self written update.connection.roleAccountId update.connection.proxyId update.stored
        update.resolved := by
  have member := (find_mem update.found).1
  have oldSound := kept.sound.connections update.before member
  have oldFormed := kept.formed.connections update.before member self update.previous update.decoded
  have wrote := update.connection_written laws kept
  have roles : written.roleAccounts = db.roleAccounts := congrArg (·.roleAccounts) update.rows
  have rows : written.connections = put ConnectionRow.id db.connections update.connection :=
    congrArg (·.connections) update.rows
  have located : find ConnectionRow.id written.connections id = some update.connection := by
    rw [rows]
    exact (congrArg (find ConnectionRow.id _) wrote.own).symm.trans (find_saved db.connections update.connection)
  have held : RolesHold P written := by
    intro role
    rw [roles]
    exact kept.roles role
  exact ⟨resolveConnection_resolved laws kept.roles oldSound oldFormed.fields update.found update.decoded resolves,
    resolveConnection_resolved laws held wrote.sound wrote.formed located update.opened update.resolves⟩

theorem ConnectionUpdate.frame (laws : P.VaultLaws) (kept : InventoryKept P db)
    (update : ConnectionUpdate P self db written payload id iv view) (listed : Within payload (fields .connections))
    (resolves : resolveConnection P self db id = .ok before) : ConnectionFrame P self db payload before update.resolved := by
  have member := (find_mem update.found).1
  have oldSound := kept.sound.connections update.before member
  have oldFormed := kept.formed.connections update.before member self update.previous update.decoded
  have wrote := update.connection_written laws kept
  have rewritten := update.rewritten laws kept listed
  have roles : written.roleAccounts = db.roleAccounts := congrArg (·.roleAccounts) update.rows
  have proxies : written.proxies = db.proxies := congrArg (·.proxies) update.rows
  rcases update.resolutions laws kept resolves with ⟨old, new⟩
  have oldColumn := oldSound.column laws update.decoded "proxy_id" (by decide)
  have newColumn := wrote.sound.column laws update.opened "proxy_id" (by decide)
  rcases old.login with ⟨oldLogin, oldCredentials, oldSame⟩
  rcases new.login with ⟨newLogin, newCredentials, newSame⟩
  have apart : ∀ key ∉ "connector" :: loginFields, key ≠ "connector" := by
    intro key outside same
    exact outside (same ▸ List.mem_cons_self)
  have accessed := update.accepted.accessed
  rw [update.accepted.shared.profile, ← wrote.proxy] at accessed
  exact ⟨(rewritten.fieldFrame oldCredentials newCredentials).congr (fun key outside => oldSame key (apart key outside))
      (fun key outside => newSame key (apart key outside)),
    (rewritten.loginFrame roles oldCredentials newCredentials).congr oldSame newSame,
    accessFrame roles proxies accessed oldFormed.access oldFormed.inline
      (savedConnection_decoded laws update.same update.opened).connector old new (old.proxy_column oldColumn)
      (new.proxy_column newColumn)⟩

/-! Saves in every state of a run. -/

/-- After an update of a proxy the other proxies and the other tables are as they were. -/
structure ProxyUpdated {Token : Type} (P : Platform Token) (store : GatewayStore) (db written : Db Token) (given : Dict)
    (id : String) : Prop where
  framed : ∀ before, resolvedProxy P store db id = .ok before →
    ∃ after, resolvedProxy P store written id = .ok after ∧ ProxyFrame P store db given before after
  others : ∀ other ≠ id, resolvedProxy P store written other = resolvedProxy P store db other
  elsewhere : { written with proxies := db.proxies } = db

/-- After an update of a connection the other connections and the other tables are as they were. -/
structure ConnectionUpdated {Token : Type} (P : Platform Token) (store : GatewayStore) (db written : Db Token)
    (given : Dict) (id : String) : Prop where
  framed : ∀ before, resolveConnection P store db id = .ok before →
    ∃ after, resolveConnection P store written id = .ok after ∧ ConnectionFrame P store db given before after
  others : ∀ other ≠ id, resolveConnection P store written other = resolveConnection P store db other
  elsewhere : { written with connections := db.connections } = db

theorem ProxyUpdate.updated (laws : P.VaultLaws) (kept : InventoryKept P db)
    (update : ProxyUpdate P self db written payload id iv view) (listed : Within payload (fields .proxies)) :
    ProxyUpdated P self db written payload id := by
  refine ⟨fun before resolves => ⟨_, update.frame laws kept listed resolves⟩, ?_, ?_⟩
  · intro other apart
    have own : (savedProxy P self iv id update.common update.kind).id = id := rfl
    have decodes : decodedProxy P self written other = decodedProxy P self db other := by
      calc
        _ = decodedProxy P self { db with proxies := put ProxyRow.id db.proxies _ } other :=
          congrArg (fun held => decodedProxy P self held other) update.rows
        _ = decodedProxy P self db other := by rw [decodedProxy_put, if_neg (fun same => apart (same.trans own))]
    have roles : written.roleAccounts = db.roleAccounts := congrArg (·.roleAccounts) update.rows
    rw [resolvedProxy_decoded, resolvedProxy_decoded, decodes, withRole_roles roles]
  · exact congrArg (fun held : Db Token => { held with proxies := db.proxies }) update.rows

theorem ConnectionUpdate.updated (laws : P.VaultLaws) (kept : InventoryKept P db)
    (update : ConnectionUpdate P self db written payload id iv view) (listed : Within payload (fields .connections)) :
    ConnectionUpdated P self db written payload id := by
  refine ⟨fun before resolves => ⟨_, update.resolves, update.frame laws kept listed resolves⟩, ?_, ?_⟩
  · intro other apart
    have own := (update.connection_written laws kept).own
    have rows : written.connections = put ConnectionRow.id db.connections update.connection :=
      congrArg (·.connections) update.rows
    have stays : find ConnectionRow.id written.connections other = find ConnectionRow.id db.connections other := by
      rw [rows, find_put, if_neg (fun same => apart (same.trans own))]
    calc
      _ = resolveConnection P self { db with connections := written.connections } other :=
        congrArg (fun held => resolveConnection P self held other)
          (update.rows.trans (congrArg (fun rows => { db with connections := rows }) rows.symm))
      _ = resolveConnection P self db other := by
        unfold resolveConnection
        rw [stays]
        rfl
  · exact congrArg (fun held : Db Token => { held with connections := db.connections }) update.rows

theorem save_opened {resource : String} {payload : Value} {itemId : Option String}
    (returned : (save P self db fresh resource payload itemId).1 = .ok view) : self.closed = false := by
  rcases checked_ok (Prod.ext returned rfl) with ⟨kind, -, checked⟩
  rcases checked_ok checked with ⟨entries, -, written⟩
  exact (transaction_ok.mp written).1

theorem save_proxies_returns {entries : Dict} {itemId : Option String} (opened : self.closed = false)
    (listed : Within entries (fields .proxies))
    (returned : saveProxyResource P self db fresh entries itemId = .ok (view, written)) :
    save P self db fresh "proxies" (.dict entries) itemId = (.ok view, written) := by
  have known : checkFields (.dict entries) (fields .proxies) = .ok entries := checkFields_iff.mpr ⟨rfl, listed⟩
  have named : table "proxies" = .ok .proxies := rfl
  unfold save
  rw [named]
  dsimp only [checked]
  rw [known]
  exact transaction_ok.mpr ⟨opened, returned⟩

theorem save_connections_returns {entries : Dict} {itemId : Option String} (opened : self.closed = false)
    (listed : Within entries (fields .connections))
    (returned : saveConnectionResource P self db fresh entries itemId = .ok (view, written)) :
    save P self db fresh "connections" (.dict entries) itemId = (.ok view, written) := by
  have known : checkFields (.dict entries) (fields .connections) = .ok entries := checkFields_iff.mpr ⟨rfl, listed⟩
  have named : table "connections" = .ok .connections := rfl
  unfold save
  rw [named]
  dsimp only [checked]
  rw [known]
  exact transaction_ok.mpr ⟨opened, returned⟩

theorem Unchanged.refused {resource : String} {payload : Value} {itemId : Option String}
    (refused : ∀ view, (save P self db fresh resource payload itemId).1 ≠ .ok view) :
    Unchanged P self db (save P self db fresh resource payload itemId).2 := by
  cases outcome : (save P self db fresh resource payload itemId).1 with
  | ok view => exact absurd outcome (refused view)
  | error error =>
      rw [save_kept outcome]
      exact Unchanged.refl P self db

/-! An empty payload. -/

namespace Rewritten

variable {column : String → Option Value → Option Value} {oldRole newRole : Option String} {previous stored : Dict}

theorem role_kept (rewritten : Rewritten column oldRole newRole payload previous stored)
    (unnamed : payload.lookup "role_account_id" = none) : newRole = oldRole := by
  apply ofOption_inj
  rw [← rewritten.after.refers, ← rewritten.before.refers, rewritten.fields _ (by decide), unnamed, updated_unnamed]
  rw [loginForm_unroled (by decide) newRole.isSome oldRole.isSome]
  exact rewritten.formed _ (by decide)

theorem unchanged (rewritten : Rewritten column oldRole newRole [] previous stored) {key : String}
    (apart : key ≠ "connector") : stored.lookup key = previous.lookup key := by
  have role := rewritten.role_kept rfl
  by_cases own : key = "id"
  · rw [own, rewritten.id]
  · rw [rewritten.fields key (by simp [apart, own]), role]
    exact updated_unnamed (rewritten.formed key apart)

end Rewritten

theorem ProxyUpdate.empty (laws : P.VaultLaws) (kept : InventoryKept P db)
    (update : ProxyUpdate P self db written [] id iv view) : Unchanged P self db written := by
  have rewritten := update.rewritten laws kept (Within.nil _)
  have bare := update.unconnected laws kept
  have old : decodedProxy P self db id = .ok update.previous := by
    unfold decodedProxy
    rw [update.found]
    exact update.decoded
  have same : Same update.previous update.stored := by
    intro key
    by_cases connector : key = "connector"
    · rw [connector, bare.1, bare.2]
    · rw [rewritten.unchanged connector]
  exact update.rows ▸ unchanged_proxy old update.opened same

theorem ConnectionUpdate.empty (laws : P.VaultLaws) (kept : InventoryKept P db)
    (update : ConnectionUpdate P self db written [] id iv view) : Unchanged P self db written := by
  have rewritten := update.rewritten laws kept (Within.nil _)
  have wrote := update.connection_written laws kept
  have member := (find_mem update.found).1
  have oldFormed := kept.formed.connections update.before member self update.previous update.decoded
  have old : decodedConnection P self db update.connection.id = .ok update.previous := by
    rw [wrote.own]
    unfold decodedConnection
    rw [update.found]
    exact update.decoded
  have oldColumn := (kept.sound.connections update.before member).column laws update.decoded "proxy_id" (by decide)
  have newColumn := wrote.sound.column laws update.opened "proxy_id" (by decide)
  have proxy : update.proxyId = update.before.proxyId := by
    apply ofOption_inj
    rw [← wrote.proxy]
    exact newColumn.symm.trans ((rewritten.unchanged (by decide)).trans oldColumn)
  have accessed := update.accepted.accessed
  rw [update.accepted.shared.profile] at accessed
  have connector := accessed.unnamed oldFormed.access (proxy ▸ oldFormed.inline) rfl
  rw [← (savedConnection_decoded laws update.same update.opened).connector] at connector
  have same : SameProfile update.stored update.previous := ⟨fun key apart => rewritten.unchanged apart, connector⟩
  exact update.rows ▸ unchanged_connection old update.opened same.symm

end

section

variable {Token : Type} {P : Platform Token} {self : GatewayStore} {fresh : Fresh} {db : Db Token} {id : String} {view : Value}

/-- An update touches only what its payload names, in every state of a run. -/
theorem partial_updates (laws : P.VaultLaws) (calls : List Call) (self : GatewayStore) (fresh : Fresh) (payload : Value)
    (id : String) (named : id ≠ "") (view : Value) :
    ((save P self (run (after P) Db.empty calls) fresh "proxies" payload (some id)).1 = .ok view →
      ∃ entries, payload = .dict entries ∧ ProxyUpdated P self (run (after P) Db.empty calls)
        (save P self (run (after P) Db.empty calls) fresh "proxies" payload (some id)).2 entries id) ∧
    ((save P self (run (after P) Db.empty calls) fresh "connections" payload (some id)).1 = .ok view →
      ∃ entries, payload = .dict entries ∧ ConnectionUpdated P self (run (after P) Db.empty calls)
        (save P self (run (after P) Db.empty calls) fresh "connections" payload (some id)).2 entries id) := by
  have kept : InventoryKept P (run (after P) Db.empty calls) := run_inventoryKept laws calls
  constructor
  · intro returned
    rcases saveProxyResource_returned returned with ⟨entries, same, listed, saved⟩
    rcases saveProxyResource_update named saved with ⟨update⟩
    exact ⟨entries, same, update.updated laws kept listed⟩
  · intro returned
    rcases saveConnectionResource_returned returned with ⟨entries, same, listed, saved⟩
    rcases saveConnectionResource_update named saved with ⟨update⟩
    exact ⟨entries, same, update.updated laws kept listed⟩

theorem repeated_proxy (laws : P.VaultLaws) (kept : InventoryKept P db) (named : id ≠ "") {payload : Value}
    (returned : (save P self db fresh "proxies" payload (some id)).1 = .ok view) (next : Fresh) :
    ∃ shown again, save P self (save P self db fresh "proxies" payload (some id)).2 next "proxies" payload (some id) =
        (.ok shown, again) ∧ Unchanged P self (save P self db fresh "proxies" payload (some id)).2 again := by
  rcases saveProxyResource_returned returned with ⟨entries, rfl, listed, saved⟩
  rcases saveProxyResource_update named saved with ⟨update⟩
  rcases update.again laws kept.formed named next with ⟨shown, again, twice, unchanged⟩
  exact ⟨shown, again, save_proxies_returns (save_opened returned) listed twice, unchanged⟩

theorem repeated_connection (laws : P.VaultLaws) (kept : InventoryKept P db) (named : id ≠ "") {payload : Value}
    (returned : (save P self db fresh "connections" payload (some id)).1 = .ok view) (next : Fresh) :
    ∃ shown again, save P self (save P self db fresh "connections" payload (some id)).2 next "connections" payload
        (some id) = (.ok shown, again) ∧
      Unchanged P self (save P self db fresh "connections" payload (some id)).2 again := by
  rcases saveConnectionResource_returned returned with ⟨entries, rfl, listed, saved⟩
  rcases saveConnectionResource_update named saved with ⟨update⟩
  rcases update.again laws kept.formed named next with ⟨shown, again, twice, unchanged⟩
  exact ⟨shown, again, save_connections_returns (save_opened returned) listed twice, unchanged⟩

theorem empty_unchanged (laws : P.VaultLaws) (kept : InventoryKept P db) (named : id ≠ "") {resource : String}
    (updatable : resource ∈ ["proxies", "connections"]) :
    Unchanged P self db (save P self db fresh resource (.dict []) (some id)).2 := by
  by_cases accepted : ∃ view, (save P self db fresh resource (.dict []) (some id)).1 = .ok view
  · rcases accepted with ⟨view, returned⟩
    simp only [List.mem_cons, List.not_mem_nil, or_false] at updatable
    rcases updatable with rfl | rfl
    · rcases saveProxyResource_returned returned with ⟨entries, same, _, saved⟩
      cases same
      rcases saveProxyResource_update named saved with ⟨update⟩
      exact update.empty laws kept
    · rcases saveConnectionResource_returned returned with ⟨entries, same, _, saved⟩
      cases same
      rcases saveConnectionResource_update named saved with ⟨update⟩
      exact update.empty laws kept
  · exact Unchanged.refused (fun view returned => accepted ⟨view, returned⟩)

/-- The same payload is accepted a second time; neither that nor an empty payload changes anything,
in every state of a run. -/
theorem repeated_saves (laws : P.VaultLaws) (calls : List Call) (self : GatewayStore) (fresh next : Fresh)
    (resource : String) (updatable : resource ∈ ["proxies", "connections"]) (payload : Value) (id : String)
    (named : id ≠ "") :
    (∀ view, (save P self (run (after P) Db.empty calls) fresh resource payload (some id)).1 = .ok view →
      ∃ shown again,
        save P self (save P self (run (after P) Db.empty calls) fresh resource payload (some id)).2 next resource payload
          (some id) = (.ok shown, again) ∧
        Unchanged P self (save P self (run (after P) Db.empty calls) fresh resource payload (some id)).2 again) ∧
    Unchanged P self (run (after P) Db.empty calls)
      (save P self (run (after P) Db.empty calls) fresh resource (.dict []) (some id)).2 := by
  have kept : InventoryKept P (run (after P) Db.empty calls) := run_inventoryKept laws calls
  refine ⟨?_, empty_unchanged laws kept named updatable⟩
  intro view returned
  simp only [List.mem_cons, List.not_mem_nil, or_false] at updatable
  rcases updatable with rfl | rfl
  · exact repeated_proxy laws kept named returned next
  · exact repeated_connection laws kept named returned next

end

/-! A device whose role account is taken away. -/

def withoutRole : Value := .dict [("role_account_id", .none)]

theorem partial_updates_deselected :
    ∃ before after, resolveConnection Platform.bench Bench.store (savedWith Bench.operator) "edge" = .ok before ∧
      resolveConnection Platform.bench Bench.store
        (save Platform.bench Bench.store (savedWith Bench.operator) (Bench.fresh "next") "connections" withoutRole
          (some "edge")).2 "edge" = .ok after ∧
      holds before "password" = true ∧ after.lookup "password" = none ∧
      after.lookup "host" = before.lookup "host" := by
  have resolved : ∃ before, resolveConnection Platform.bench Bench.store (savedWith Bench.operator) "edge" = .ok before ∧
      holds before "password" = true ∧ before.lookup "role_account_id" = some (.str "role") := ⟨_, rfl, rfl, rfl⟩
  have accepted : ∃ view, (save Platform.bench Bench.store (savedWith Bench.operator) (Bench.fresh "next") "connections"
      withoutRole (some "edge")).1 = .ok view := ⟨_, rfl⟩
  rcases resolved with ⟨before, resolves, password, role⟩
  rcases accepted with ⟨view, returned⟩
  rcases (partial_updates Platform.bench_vaultLaws _ Bench.store (Bench.fresh "next") withoutRole "edge" (by decide)
    view).2 returned with ⟨entries, same, updated⟩
  cases same
  rcases updated.framed before resolves with ⟨after, resolves', frame⟩
  have unset : after.lookup "role_account_id" = some .none :=
    frame.fields.named "role_account_id" (by decide) .none rfl
  exact ⟨before, after, resolves, resolves', password,
    frame.login.deselected unset (by rw [role]; simp) "password" (by decide) rfl,
    frame.fields.unnamed "host" (by decide) rfl⟩

theorem repeated_saves_deselected :
    ∃ shown again, save Platform.bench Bench.store (save Platform.bench Bench.store (savedWith Bench.operator)
        (Bench.fresh "next") "connections" withoutRole (some "edge")).2 (Bench.fresh "again") "connections" withoutRole
        (some "edge") = (.ok shown, again) ∧
      Unchanged Platform.bench Bench.store (save Platform.bench Bench.store (savedWith Bench.operator)
        (Bench.fresh "next") "connections" withoutRole (some "edge")).2 again := by
  have accepted : ∃ view, (save Platform.bench Bench.store (savedWith Bench.operator) (Bench.fresh "next") "connections"
      withoutRole (some "edge")).1 = .ok view := ⟨_, rfl⟩
  rcases accepted with ⟨view, returned⟩
  exact (repeated_saves Platform.bench_vaultLaws _ Bench.store (Bench.fresh "next") (Bench.fresh "again") "connections"
    (by decide) withoutRole "edge" (by decide)).1 view returned

end NetworkGateway.Store
