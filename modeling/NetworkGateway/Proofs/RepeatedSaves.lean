import NetworkGateway.Proofs.PublicFlags
import NetworkGateway.Proofs.Resaves

/-! Saving the same payload twice, and saving an empty one, in every state of a run. -/

namespace NetworkGateway.Store

open Library.Dict Library.Result Library.Run Library.Table Library.Update

section

variable {Token : Type} {P : Platform Token} {self caller : GatewayStore} {fresh : Fresh} {db written : Db Token}

/-! The invariant. -/

structure ConnectionFormed (connection : ConnectionRow Token) (profile : Dict) : Prop where
  fields : Formed connectionColumn connection.roleAccountId profile
  access : AccessFormed profile
  inline : (profile.lookup "connector").isSome = connection.proxyId.isNone

structure RowsFormed (P : Platform Token) (db : Db Token) : Prop where
  proxies : ∀ proxy ∈ db.proxies, ∀ caller profile,
    storedProfile P caller proxy.columns proxy.configuration proxy.secrets = .ok profile →
      Formed proxyColumn proxy.roleAccountId profile
  connections : ∀ connection ∈ db.connections, ∀ caller profile,
    storedProfile P caller connection.columns connection.configuration connection.secrets = .ok profile →
      ConnectionFormed connection profile

theorem effect_rows {proxyHolds : ProxyRow Token → Prop} {connectionHolds : ConnectionRow Token → Prop}
    (effect : Effect P self fresh db written) (proxies : ∀ proxy ∈ db.proxies, proxyHolds proxy)
    (connections : ∀ connection ∈ db.connections, connectionHolds connection)
    (savesProxy : ∀ payload held previous iv id proxy, (∀ row, held = some row → row ∈ db.proxies) →
      previousProxy P self held = .ok previous → saveProxy P self db iv id payload previous = .ok proxy → proxyHolds proxy)
    (savesConnection : ∀ payload held previous iv id connection, (∀ row, held = some row → row ∈ db.connections) →
      previousConnection P self held = .ok previous →
      saveConnection P self db iv id payload previous = .ok connection → connectionHolds connection) :
    (∀ proxy ∈ written.proxies, proxyHolds proxy) ∧ ∀ connection ∈ written.connections, connectionHolds connection := by
  cases effect with
  | elsewhere _ sameProxies sameConnections _ | jobs _ _ sameProxies sameConnections =>
      rw [sameProxies, sameConnections]
      exact ⟨proxies, connections⟩
  | savedRole payload itemId view returned =>
      rcases saveRoleAccount_ok returned with ⟨_, _, _, _, _, _, _, rfl⟩
      exact ⟨proxies, connections⟩
  | savedProxy payload itemId view returned =>
      rcases saveProxyResource_ok returned with ⟨held, previous, proxy, aimed, decoded, saved, -, rows⟩
      rw [rows]
      refine ⟨?_, connections⟩
      intro other member
      rcases mem_put.mp member with rfl | old
      · exact savesProxy payload held previous _ _ _ (fun row same => (target_ok aimed row same).1) decoded saved
      · exact proxies other old.1
  | savedConnection payload itemId view returned =>
      rcases saveConnectionResource_ok returned with ⟨held, previous, connection, aimed, decoded, saved, -, rows⟩
      rw [rows]
      refine ⟨proxies, ?_⟩
      intro other member
      rcases mem_put.mp member with rfl | old
      · exact savesConnection payload held previous _ _ _ (fun row same => (target_ok aimed row same).1) decoded saved
      · exact connections other old.1
  | deletedRole id returned =>
      rcases deleteRole_ok.mp returned with ⟨_, _, rfl⟩
      exact ⟨proxies, connections⟩
  | deletedProxy id returned =>
      rcases deleteProxy_ok.mp returned with ⟨_, _, rfl⟩
      exact ⟨fun proxy member => proxies proxy (mem_remove.mp member).1, connections⟩
  | deletedConnection id returned =>
      rcases deleteConnection_ok.mp returned with ⟨_, rfl⟩
      exact ⟨proxies, fun connection member => connections connection (mem_remove.mp member).1⟩

theorem pathsSet_nil : PathsSet [] := fun _ _ => nofun

theorem accessFormed_nil : AccessFormed [] := fun _ => nofun

theorem RowsFormed.previousProxy (formed : RowsFormed P db) {held : Option (ProxyRow Token)} {previous : Dict}
    (known : ∀ row, held = some row → row ∈ db.proxies) (decoded : previousProxy P self held = .ok previous) :
    PathsSet previous := by
  cases held with
  | none =>
      cases decoded
      exact pathsSet_nil
  | some row => exact (formed.proxies row (known row rfl) self previous decoded).paths

theorem RowsFormed.previousConnection (formed : RowsFormed P db) {held : Option (ConnectionRow Token)} {previous : Dict}
    (known : ∀ row, held = some row → row ∈ db.connections)
    (decoded : previousConnection P self held = .ok previous) : PathsSet previous ∧ AccessFormed previous := by
  cases held with
  | none =>
      cases decoded
      exact ⟨pathsSet_nil, accessFormed_nil⟩
  | some row =>
      have kept := formed.connections row (known row rfl) self previous decoded
      exact ⟨kept.fields.paths, kept.access⟩

theorem saveConnection_formed (laws : P.VaultLaws) {iv : Nat} {id : String} {payload previous profile : Dict}
    {connection : ConnectionRow Token} (paths : PathsSet previous) (access : AccessFormed previous)
    (saved : saveConnection P self db iv id payload previous = .ok connection)
    (decoded : storedProfile P caller connection.columns connection.configuration connection.secrets = .ok profile) :
    ConnectionFormed connection profile := by
  rcases saveConnection_ok.mp saved with ⟨common, kind, client, seconds, proxyId, held, accepted, same⟩
  have read := savedConnection_decoded laws same decoded
  have accessed := accepted.accessed
  rw [accepted.shared.profile] at accessed
  have fields := savedConnection_formed laws accepted same decoded paths
  rw [same]
  refine ⟨fields, ?_, ?_⟩
  · intro value found
    rw [read.connector] at found
    rcases Option.map_eq_some_iff.mp found with ⟨result, chosen, rfl⟩
    exact ⟨_, rfl, accessed.formed access result chosen⟩
  · rw [read.connector]
    cases accessed with
    | saved => rfl
    | inline => rfl

theorem effect_rowsFormed (laws : P.VaultLaws) (effect : Effect P self fresh db written) (formed : RowsFormed P db) :
    RowsFormed P written := by
  have rows := effect_rows effect formed.proxies formed.connections
    (fun payload held previous iv id proxy known decoded saved caller profile read => by
      rcases saveProxy_ok.mp saved with ⟨common, kind, accepted, typed, rfl⟩
      exact savedProxy_formed laws accepted typed read (formed.previousProxy known decoded))
    (fun payload held previous iv id connection known decoded saved caller profile read => by
      have before := formed.previousConnection known decoded
      exact saveConnection_formed laws before.1 before.2 saved read)
  exact ⟨rows.1, rows.2⟩

theorem run_rowsFormed (laws : P.VaultLaws) (calls : List Call) : RowsFormed P (run (after P) Db.empty calls) := by
  have initial : RowsFormed P (Db.empty : Db Token) :=
    ⟨fun _ member => absurd member List.not_mem_nil, fun _ member => absurd member List.not_mem_nil⟩
  exact run_invariant (RowsFormed P) (fun call db => effect_rowsFormed laws (after_change P call db).effect) initial calls

/-! A row that decodes to an equal profile. -/

theorem decodedProxy_put {proxy : ProxyRow Token} (id : String) :
    decodedProxy P self { db with proxies := put ProxyRow.id db.proxies proxy } id =
      if id = proxy.id then storedProfile P self proxy.columns proxy.configuration proxy.secrets
      else decodedProxy P self db id := by
  unfold decodedProxy
  rw [find_put]
  split
  · rfl
  · rfl

theorem decodedConnection_put {connection : ConnectionRow Token} (id : String) :
    decodedConnection P self { db with connections := put ConnectionRow.id db.connections connection } id =
      if id = connection.id then storedProfile P self connection.columns connection.configuration connection.secrets
      else decodedConnection P self db id := by
  unfold decodedConnection
  rw [find_put]
  split
  · rfl
  · rfl

theorem unchanged_proxy {proxy : ProxyRow Token} {before after : Dict}
    (old : decodedProxy P self db proxy.id = .ok before)
    (new : storedProfile P self proxy.columns proxy.configuration proxy.secrets = .ok after) (same : Same before after) :
    Unchanged P self db { db with proxies := put ProxyRow.id db.proxies proxy } := by
  apply InventorySame.unchanged _ rfl
  refine ⟨rfl, ?_, fun _ => agree_refl SameProfile.refl _⟩
  intro id
  rw [decodedProxy_put]
  split
  · rename_i here
    rw [here, old, new]
    exact .ok same
  · exact agree_refl (fun _ _ => rfl) _

theorem unchanged_connection {connection : ConnectionRow Token} {before after : Dict}
    (old : decodedConnection P self db connection.id = .ok before)
    (new : storedProfile P self connection.columns connection.configuration connection.secrets = .ok after)
    (same : SameProfile before after) :
    Unchanged P self db { db with connections := put ConnectionRow.id db.connections connection } := by
  apply InventorySame.unchanged _ rfl
  refine ⟨rfl, fun _ => agree_refl (fun _ _ => rfl) _, ?_⟩
  intro id
  rw [decodedConnection_put]
  split
  · rename_i here
    rw [here, old, new]
    exact .ok same
  · exact agree_refl SameProfile.refl _

/-! The view of a profile. -/

theorem publicRuntime_returns {profile : Dict} : (∃ view, publicRuntime (.dict profile) = .ok view) ↔
    ∀ value, profile.lookup "connector" = some value → ∃ inner, publicRuntime value = .ok inner := by
  rw [publicRuntime, publicConnector_lookup]
  cases profile.lookup "connector" with
  | none => exact ⟨fun _ _ => nofun, fun _ => ⟨_, rfl⟩⟩
  | some value =>
      constructor
      · intro viewed given same
        cases same
        rcases viewed with ⟨view, viewed⟩
        rcases (bind_eq_ok _ _ _).mp viewed with ⟨_, nested, -⟩
        rcases (bind_eq_ok _ _ _).mp nested with ⟨inner, shown, -⟩
        exact ⟨inner, shown⟩
      · intro shows
        rcases shows value rfl with ⟨inner, shown⟩
        exact ⟨_, (bind_eq_ok _ _ _).mpr ⟨some inner, (bind_eq_ok _ _ _).mpr ⟨inner, shown, rfl⟩, rfl⟩⟩

theorem SameProfile.viewed {a b : Dict} (same : SameProfile a b) {view : Value}
    (viewed : publicRuntime (.dict a) = .ok view) : ∃ view, publicRuntime (.dict b) = .ok view := by
  have shows := publicRuntime_returns.mp ⟨view, viewed⟩
  apply publicRuntime_returns.mpr
  intro value found
  rcases same.connector with equal | ⟨c, d, left, right, inner⟩
  · exact shows value (equal.trans found)
  · cases right.symm.trans found
    have nested := publicRuntime_returns.mp (shows _ left)
    apply publicRuntime_returns.mpr
    intro deeper bound
    exact nested deeper ((inner "connector").trans bound)

/-! The transactions of two saves. -/

theorem target_found {ρ : Type} {key : ρ → String} {rows : List ρ} {id : String} (named : id ≠ "") {row : ρ}
    (found : find key rows id = some row) : target key rows (some id) = .ok (some row) := by
  unfold target
  dsimp only
  rw [if_neg named, found]
  rfl

theorem target_named {ρ : Type} {key : ρ → String} {rows : List ρ} {id : String} (named : id ≠ "") {held : Option ρ}
    (aimed : target key rows (some id) = .ok held) : ∃ row, held = some row ∧ find key rows id = some row := by
  unfold target at aimed
  dsimp only at aimed
  rw [if_neg named] at aimed
  simp only [bind_eq_ok, row_ok, pure_eq, Except.ok.injEq] at aimed
  rcases aimed with ⟨row, found, rfl⟩
  exact ⟨row, rfl, found⟩

theorem find_saved {ρ : Type} {key : ρ → String} (rows : List ρ) (row : ρ) : find key (put key rows row) (key row) = some row := by
  rw [find_put, if_pos rfl]

theorem write_present {ρ : Type} {key : ρ → String} {rows : List ρ} {row : ρ} (present : (find key rows (key row)).isSome) :
    write key rows true row = .ok (put key rows row) := by
  unfold write put
  rw [if_pos rfl, if_pos present]

structure ProxyUpdate {Token : Type} (P : Platform Token) (store : GatewayStore) (db written : Db Token) (payload : Dict)
    (id : String) (iv : Nat) (view : Value) where
  before : ProxyRow Token
  previous : Dict
  common : CommonValues
  kind : ProxyType
  stored : Dict
  resolved : Dict
  found : find ProxyRow.id db.proxies id = some before
  decoded : storedProfile P store before.columns before.configuration before.secrets = .ok previous
  accepted : CommonSaved db payload previous common
  typed : proxyType (Dict.get common.profile "type") = .ok kind
  rows : written = { db with proxies := put ProxyRow.id db.proxies (savedProxy P store iv id common kind) }
  opened : storedProfile P store (savedProxy P store iv id common kind).columns
    (savedProxy P store iv id common kind).configuration (savedProxy P store iv id common kind).secrets = .ok stored
  credentialed : withRole P store written stored = .ok resolved
  shown : publicRuntime (.dict resolved) = .ok view

theorem saveProxyResource_update {payload : Dict} {id : String} (named : id ≠ "") {view : Value}
    (returned : saveProxyResource P self db fresh payload (some id) = .ok (view, written)) :
    Nonempty (ProxyUpdate P self db written payload id fresh.iv view) := by
  rcases saveProxyResource_ok returned with ⟨held, previous, proxy, aimed, decoded, saved, viewed, rows⟩
  rcases target_named named aimed with ⟨before, rfl, found⟩
  rw [Option.map_some, Option.getD_some, (find_mem found).2] at saved
  rcases saveProxy_ok.mp saved with ⟨common, kind, accepted, typed, rfl⟩
  simp only [publicProxy, bind_eq_ok] at viewed
  rcases viewed with ⟨resolved, resolves, shown⟩
  simp only [resolveProxy, bind_eq_ok] at resolves
  rcases resolves with ⟨stored, opened, credentialed⟩
  exact ⟨⟨before, previous, common, kind, stored, resolved, found, decoded, accepted, typed, rows, opened, credentialed,
    shown⟩⟩

theorem saveProxyResource_returns {payload previous resolved : Dict} {id : String} (named : id ≠ "")
    {before proxy : ProxyRow Token} (found : find ProxyRow.id db.proxies id = some before)
    (decoded : storedProfile P self before.columns before.configuration before.secrets = .ok previous)
    (saved : saveProxy P self db fresh.iv id payload previous = .ok proxy)
    (resolves : resolvedProxy P self { db with proxies := put ProxyRow.id db.proxies proxy } id = .ok resolved)
    {view : Value} (shown : publicRuntime (.dict resolved) = .ok view) :
    saveProxyResource P self db fresh payload (some id) =
      .ok (view, { db with proxies := put ProxyRow.id db.proxies proxy }) := by
  have kept : proxy.id = id := saveProxy_id saved
  have located : find ProxyRow.id (put ProxyRow.id db.proxies proxy) id = some proxy := by
    rw [← kept]
    exact find_saved db.proxies proxy
  have present : (find ProxyRow.id db.proxies proxy.id).isSome := by
    rw [kept, found]
    rfl
  have held : ((some before).map ProxyRow.id).getD fresh.id = id := by
    rw [Option.map_some, Option.getD_some, (find_mem found).2]
  unfold resolvedProxy at resolves
  rw [located] at resolves
  have through : resolveProxy P self { db with proxies := put ProxyRow.id db.proxies proxy } proxy = .ok resolved := resolves
  simp only [saveProxyResource, bind_eq_ok, pure_eq, Except.ok.injEq, Prod.mk.injEq]
  refine ⟨some before, target_found named found, previous, decoded, proxy, ?_, _, write_present present, view, ?_, rfl, rfl⟩
  · rw [held]
    exact saved
  · unfold publicProxy
    rw [through]
    exact shown

/-- A proxy saved with the same payload again: accepted, and no profile resolves otherwise. -/
theorem ProxyUpdate.again (laws : P.VaultLaws) (formed : RowsFormed P db) {payload : Dict} {id : String} {iv : Nat}
    {view : Value} (named : id ≠ "") (update : ProxyUpdate P self db written payload id iv view) (next : Fresh) :
    ∃ shown again, saveProxyResource P self written next payload (some id) = .ok (shown, again) ∧
      Unchanged P self written again := by
  have kept := formed.proxies update.before (find_mem update.found).1 self update.previous update.decoded
  have roles : written.roleAccounts = db.roleAccounts := congrArg (·.roleAccounts) update.rows
  have proxies : written.proxies = put ProxyRow.id db.proxies (savedProxy P self iv id update.common update.kind) :=
    congrArg (·.proxies) update.rows
  rcases saveProxy_again laws update.accepted update.typed kept update.opened roles next.iv with
    ⟨proxy, profile, saved, sameId, read, equal⟩
  have located : find ProxyRow.id written.proxies id = some (savedProxy P self iv id update.common update.kind) := by
    rw [proxies]
    exact find_saved db.proxies _
  have held : decodedProxy P self written id = .ok update.stored := by
    unfold decodedProxy
    rw [located]
    exact update.opened
  have old : decodedProxy P self written proxy.id = .ok update.stored := by
    rw [sameId]
    exact held
  have unchanged := unchanged_proxy old read (fun key => (equal key).symm)
  have first : resolvedProxy P self written id = .ok update.resolved := by
    rw [resolvedProxy_decoded, held]
    exact update.credentialed
  have resolves := unchanged.proxies id
  rw [first] at resolves
  generalize second : resolvedProxy P self { written with proxies := put ProxyRow.id written.proxies proxy } id = out
    at resolves
  cases resolves with
  | @ok _ connector fields =>
      rcases (SameProfile.of_same fields).viewed update.shown with ⟨shown, viewed⟩
      exact ⟨shown, _, saveProxyResource_returns named located update.opened saved second viewed, unchanged⟩

structure ConnectionUpdate {Token : Type} (P : Platform Token) (store : GatewayStore) (db written : Db Token)
    (payload : Dict) (id : String) (iv : Nat) (view : Value) where
  before : ConnectionRow Token
  previous : Dict
  common : CommonValues
  kind : Protocol
  client : Value
  seconds : Timeout
  proxyId : Option String
  access : Option Dict
  connection : ConnectionRow Token
  stored : Dict
  resolved : Dict
  found : find ConnectionRow.id db.connections id = some before
  decoded : storedProfile P store before.columns before.configuration before.secrets = .ok previous
  accepted : ConnectionSaved P db payload previous common kind client seconds proxyId access
  same : connection = savedConnection P store iv id common kind client seconds proxyId access
  rows : written = { db with connections := put ConnectionRow.id db.connections connection }
  opened : storedProfile P store connection.columns connection.configuration connection.secrets = .ok stored
  resolves : resolveConnection P store written id = .ok resolved
  shown : publicRuntime (.dict resolved) = .ok view

theorem saveConnectionResource_update {payload : Dict} {id : String} (named : id ≠ "") {view : Value}
    (returned : saveConnectionResource P self db fresh payload (some id) = .ok (view, written)) :
    Nonempty (ConnectionUpdate P self db written payload id fresh.iv view) := by
  rcases saveConnectionResource_ok returned with ⟨held, previous, connection, aimed, decoded, saved, viewed, rows⟩
  rcases target_named named aimed with ⟨before, rfl, found⟩
  rw [Option.map_some, Option.getD_some, (find_mem found).2] at saved
  have kept : connection.id = id := saveConnection_id saved
  rcases saveConnection_ok.mp saved with ⟨common, kind, client, seconds, proxyId, access, accepted, same⟩
  simp only [publicConnection, bind_eq_ok] at viewed
  rcases viewed with ⟨resolved, resolves, shown⟩
  rw [kept] at resolves
  have located : find ConnectionRow.id written.connections id = some connection := by
    rw [rows, ← kept]
    exact find_saved db.connections connection
  rcases resolveConnection_ok.mp resolves with ⟨row, stored, _, _, there, opened, -, -, -⟩
  cases located.symm.trans there
  exact ⟨⟨before, previous, common, kind, client, seconds, proxyId, access, connection, stored, resolved, found, decoded,
    accepted, same, rows, opened, resolves, shown⟩⟩

theorem saveConnectionResource_returns {payload previous resolved : Dict} {id : String} (named : id ≠ "")
    {before connection : ConnectionRow Token} (found : find ConnectionRow.id db.connections id = some before)
    (decoded : storedProfile P self before.columns before.configuration before.secrets = .ok previous)
    (saved : saveConnection P self db fresh.iv id payload previous = .ok connection)
    (resolves : resolveConnection P self { db with connections := put ConnectionRow.id db.connections connection } id =
      .ok resolved)
    {view : Value} (shown : publicRuntime (.dict resolved) = .ok view) :
    saveConnectionResource P self db fresh payload (some id) =
      .ok (view, { db with connections := put ConnectionRow.id db.connections connection }) := by
  have kept : connection.id = id := saveConnection_id saved
  have present : (find ConnectionRow.id db.connections connection.id).isSome := by
    rw [kept, found]
    rfl
  have held : ((some before).map ConnectionRow.id).getD fresh.id = id := by
    rw [Option.map_some, Option.getD_some, (find_mem found).2]
  simp only [saveConnectionResource, bind_eq_ok, pure_eq, Except.ok.injEq, Prod.mk.injEq]
  refine ⟨some before, target_found named found, previous, decoded, connection, ?_, _, write_present present, view, ?_,
    rfl, rfl⟩
  · rw [held]
    exact saved
  · unfold publicConnection
    rw [kept, resolves]
    exact shown

/-- A connection saved with the same payload again: accepted, and no profile resolves otherwise. -/
theorem ConnectionUpdate.again (laws : P.VaultLaws) (formed : RowsFormed P db) {payload : Dict} {id : String} {iv : Nat}
    {view : Value} (named : id ≠ "") (update : ConnectionUpdate P self db written payload id iv view) (next : Fresh) :
    ∃ shown again, saveConnectionResource P self written next payload (some id) = .ok (shown, again) ∧
      Unchanged P self written again := by
  have kept := formed.connections update.before (find_mem update.found).1 self update.previous update.decoded
  have roles : written.roleAccounts = db.roleAccounts := congrArg (·.roleAccounts) update.rows
  have proxies : written.proxies = db.proxies := congrArg (·.proxies) update.rows
  have rows : written.connections = put ConnectionRow.id db.connections update.connection :=
    congrArg (·.connections) update.rows
  rcases saveConnection_again laws update.accepted update.same kept.fields kept.access update.opened roles proxies
    next.iv with ⟨connection, profile, saved, sameId, read, equal⟩
  have own : update.connection.id = id := by
    rw [update.same]
    rfl
  have located : find ConnectionRow.id written.connections id = some update.connection := by
    rw [rows]
    exact (congrArg (find ConnectionRow.id _) own).symm.trans (find_saved db.connections update.connection)
  have old : decodedConnection P self written connection.id = .ok update.stored := by
    unfold decodedConnection
    rw [sameId, located]
    exact update.opened
  have unchanged := unchanged_connection old read equal.symm
  have resolves := unchanged.connections id
  rw [update.resolves] at resolves
  generalize second : resolveConnection P self
    { written with connections := put ConnectionRow.id written.connections connection } id = out at resolves
  cases resolves with
  | @ok _ profile fields =>
      rcases fields.viewed update.shown with ⟨shown, viewed⟩
      exact ⟨shown, _, saveConnectionResource_returns named located update.opened saved second viewed, unchanged⟩

end

end NetworkGateway.Store
