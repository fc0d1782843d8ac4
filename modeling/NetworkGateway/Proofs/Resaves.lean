import NetworkGateway.Proofs.Access
import NetworkGateway.Proofs.ConnectorForms
import NetworkGateway.Proofs.SameProfiles

/-! Saving a payload a second time: it is accepted, and the row decodes to what it did. -/

namespace NetworkGateway.Store

open Library.Dict Library.Result Library.Run Library.Table Library.Update

theorem loginForm_kept {rest : String → Option Value → Option Value} (plain : ∀ held, rest "username" held = held)
    {roled : Bool} {key : String} {held : Option Value} (formed : loginForm roled rest key held = held) (other : Bool) :
    other = true ∧ key ∈ inlineFields ∨ loginForm other rest key held = held := by
  by_cases inline : key ∈ inlineFields
  · cases other with
    | true => exact .inl ⟨rfl, inline⟩
    | false =>
        cases roled with
        | false => exact .inr formed
        | true =>
            -- a role left nothing of the field
            have bare : loginForm true rest key held = none := if_pos ⟨rfl, inline⟩
            rw [bare] at formed
            rw [← formed]
            simp only [inlineFields, List.mem_cons, List.not_mem_nil, or_false] at inline
            right
            rcases inline with rfl | rfl | rfl | rfl | rfl <;> simp [loginForm, trustPaths, Secrets.secretFields, plain]
  · rw [loginForm_unroled inline roled other] at formed
    exact .inr formed

theorem loginForm_replaced {rest : String → Option Value → Option Value} {key : String} (inline : key ∈ inlineFields)
    (held : Option Value) : loginForm true rest key held = none :=
  if_pos ⟨rfl, inline⟩

/-- The same fields over the row as it was saved give the same row. -/
theorem updated_again {rest : String → Option Value → Option Value} (plain : ∀ held, rest "username" held = held)
    {roled other : Bool} {key : String} {named held : Option Value} (formed : loginForm roled rest key held = held) :
    updated (loginForm other rest key) named (updated (loginForm other rest key) named held) =
      updated (loginForm other rest key) named held := by
  rcases loginForm_kept plain formed other with ⟨rfl, inline⟩ | kept
  · rw [updated, updated, loginForm_replaced inline, loginForm_replaced inline]
  · exact updated_twice kept

theorem consistent_congr {one other : Dict} (same : ∀ key ∈ credentialFieldNames, holds one key = holds other key)
    (consistent : Consistent (holds one)) : Consistent (holds other) := by
  have keys : keyed (holds one) = keyed (holds other) := by
    unfold keyed
    rw [same "private_key_path" (by decide), same "private_key" (by decide)]
  constructor
  · rw [← keys, ← same "password" (by decide)]
    exact consistent.method
  · rw [← keys, ← same "key_passphrase" (by decide)]
    exact consistent.passphrase

section

variable {Token : Type} {P : Platform Token} {self caller : GatewayStore} {db next : Db Token} {iv : Nat} {id key : String}
  {payload previous stored : Dict} {common : CommonValues}

/-- A saved row's fields, over which the payload merges to the same again. -/
structure Resaved (column : String → Option Value → Option Value) (payload previous stored : Dict)
    (roleId : Option String) : Prop where
  plain : ∀ held, column "username" held = held
  fields : ∀ key ∉ ["connector", "id"],
    stored.lookup key = updated (loginForm roleId.isSome column key) (payload.lookup key) (previous.lookup key)
  formed : ∃ roleId, Formed column roleId previous

theorem Resaved.merged {column : String → Option Value → Option Value} {roleId : Option String}
    (resaved : Resaved column payload previous stored roleId) (listed : key ∉ ["connector", "id"]) :
    roleId.isSome = true ∧ key ∈ inlineFields ∨ (merge stored payload).lookup key = (merge previous payload).lookup key := by
  rcases resaved.formed with ⟨before, formed⟩
  have other : key ≠ "connector" := by
    intro same
    rw [same] at listed
    exact listed (by decide)
  rcases loginForm_kept resaved.plain (formed key other) roleId.isSome with replaced | kept
  · exact .inl replaced
  · rw [lookup_merge, lookup_merge, resaved.fields key listed, or_updated kept]
    exact .inr rfl

theorem Resaved.outside {column : String → Option Value → Option Value} {roleId : Option String}
    (resaved : Resaved column payload previous stored roleId) (listed : key ∉ ["connector", "id"])
    (outside : key ∉ inlineFields) : (merge stored payload).lookup key = (merge previous payload).lookup key := by
  rcases resaved.merged listed with replaced | same
  · exact absurd replaced.2 outside
  · exact same

theorem Resaved.working {column : String → Option Value → Option Value} {roleId : Option String}
    (resaved : Resaved column payload previous stored roleId) (listed : key ∉ ["connector", "id"]) :
    (working stored payload roleId).lookup key = (Store.working previous payload roleId).lookup key := by
  rw [lookup_working, lookup_working]
  split
  · rfl
  · rename_i unreplaced
    rcases resaved.merged listed with replaced | same
    · exact absurd (.inr replaced) unreplaced
    · rwa [lookup_merge, lookup_merge] at same

theorem CommonSaved.again (saved : CommonSaved db payload previous common)
    {column : String → Option Value → Option Value}
    (resaved : Resaved column payload previous stored common.roleAccountId)
    (roles : next.roleAccounts = db.roleAccounts) :
    CommonSaved next payload stored
      { common with profile := working stored payload common.roleAccountId } := by
  have same : ∀ key ∉ "connector" :: "id" :: inlineFields,
      Dict.get (merge stored payload) key = Dict.get (merge previous payload) key := by
    intro key outside
    rw [List.mem_cons, List.mem_cons, not_or, not_or] at outside
    rw [Dict.get_eq, Dict.get_eq, resaved.outside (by simp [outside.1, outside.2.1]) outside.2.2]
  refine ⟨?_, ?_, ?_, ?_, saved.exclusive, saved.texts, rfl, ?_⟩
  · rw [same "name" (by decide)]
    exact saved.name
  · rw [same "host" (by decide)]
    exact saved.host
  · rw [same "port" (by decide)]
    exact saved.port
  · rw [same "role_account_id" (by decide), roles]
    exact saved.role
  · apply consistent_congr _ saved.consistent
    intro key listed
    have plain : key ∉ ["connector", "id"] := by
      simp only [credentialFieldNames, List.mem_cons, List.not_mem_nil, or_false] at listed
      rcases listed with rfl | rfl | rfl | rfl <;> decide
    apply holds_congr
    rw [saved.profile, resaved.working plain]

/-! Decoded rows. -/

theorem ProxySound.decodes (laws : P.VaultLaws) {roles : List (RoleAccountRow Token)} {proxy : ProxyRow Token}
    (sound : ProxySound P roles proxy) (opens : (P.decrypt self.key proxy.secrets).isSome) :
    ∃ profile, storedProfile P self proxy.columns proxy.configuration proxy.secrets = .ok profile := by
  rcases sound.secrets.opens laws opens with ⟨held, opened, listed⟩
  have bare : Dict.get held "connector" = .none := by
    rw [Dict.get_eq, listed.lookup (by decide)]
    rfl
  refine ⟨_, storedProfile_ok.mpr ⟨held, opened, addConnectorSecrets_ok.mpr (.inl ⟨?_, rfl⟩)⟩⟩
  rw [bare]
  rfl

theorem ProxySound.unconnected (laws : P.VaultLaws) {roles : List (RoleAccountRow Token)} {proxy : ProxyRow Token}
    (sound : ProxySound P roles proxy) {profile : Dict}
    (decoded : storedProfile P caller proxy.columns proxy.configuration proxy.secrets = .ok profile) :
    profile.lookup "connector" = none := by
  rcases storedProfile_ok.mp decoded with ⟨held, opened, added⟩
  have listed := sound.secrets.opened laws opened
  have bare : held.lookup "connector" = none := listed.lookup (by decide)
  have configured : proxy.configuration.lookup "connector" = none := sound.configuration.lookup (by decide)
  have column : proxy.columns.lookup "connector" = none := rfl
  rcases addConnectorSecrets_ok.mp added with ⟨_, rfl⟩ | ⟨_, _, truthy, _⟩
  · rw [lookup_merge, lookup_erase, if_pos rfl, Option.none_or, lookup_merge, configured, column]
    rfl
  · rw [Dict.get_eq, bare] at truthy
    cases truthy

theorem encrypted_opens (laws : P.VaultLaws) (value : Value) :
    (P.decrypt self.key (Secrets.encrypt P self iv value)).isSome := by
  rw [Secrets.encrypt, laws.decrypt_encrypt]
  rfl

/-- A proxy saved again decodes to the fields it had. -/
theorem saveProxy_again (laws : P.VaultLaws) {kind : ProxyType} (saved : CommonSaved db payload previous common)
    (typed : proxyType (Dict.get common.profile "type") = .ok kind) {roleId : Option String}
    (formed : Formed proxyColumn roleId previous)
    (decoded : storedProfile P caller (savedProxy P self iv id common kind).columns
      (savedProxy P self iv id common kind).configuration (savedProxy P self iv id common kind).secrets = .ok stored)
    (roles : next.roleAccounts = db.roleAccounts) (again : Nat) :
    ∃ proxy profile, saveProxy P self next again id payload stored = .ok proxy ∧ proxy.id = id ∧
      storedProfile P self proxy.columns proxy.configuration proxy.secrets = .ok profile ∧ Same profile stored := by
  have fields : ∀ key ∉ ["connector", "id"], stored.lookup key =
      updated (loginForm common.roleAccountId.isSome proxyColumn key) (payload.lookup key) (previous.lookup key) := by
    intro key listed
    simp only [List.mem_cons, List.not_mem_nil, or_false, not_or] at listed
    exact savedProxy_updated laws saved typed decoded formed.paths listed.1 listed.2
  have resaved : Resaved proxyColumn payload previous stored common.roleAccountId :=
    ⟨fun _ => rfl, fields, ⟨roleId, formed⟩⟩
  have accepted := saved.again resaved roles
  have typed' : proxyType (Dict.get (working stored payload common.roleAccountId) "type") = .ok kind := by
    rw [Dict.get_eq, resaved.working (by decide), ← saved.profile]
    exact typed
  let proxy := savedProxy P self again id { common with profile := working stored payload common.roleAccountId } kind
  have written : saveProxy P self next again id payload stored = .ok proxy :=
    saveProxy_ok.mpr ⟨_, kind, accepted, typed', rfl⟩
  have firstSound := saveProxy_sound (saveProxy_ok.mpr ⟨common, kind, saved, typed, rfl⟩ :
    saveProxy P self db iv id payload previous = .ok (savedProxy P self iv id common kind))
  have sound := saveProxy_sound written
  rcases sound.decodes laws (encrypted_opens laws _) with ⟨profile, read⟩
  refine ⟨proxy, profile, written, rfl, read, ?_⟩
  have storedFormed := savedProxy_formed laws saved typed decoded formed.paths
  intro key
  by_cases listed : key ∈ ["connector", "id"]
  · simp only [List.mem_cons, List.not_mem_nil, or_false] at listed
    rcases listed with rfl | rfl
    · rw [sound.unconnected laws read, firstSound.unconnected laws decoded]
    · rw [sound.column laws read "id" (by decide), firstSound.column laws decoded "id" (by decide)]
      rfl
  · have apart := listed
    simp only [List.mem_cons, List.not_mem_nil, or_false, not_or] at apart
    have second := savedProxy_updated laws accepted typed' read storedFormed.paths apart.1 apart.2
    rw [second, fields key listed]
    exact updated_again (fun _ => rfl) (formed key apart.1)

/-- A connection saved again decodes to the fields and the connector it had. -/
theorem saveConnection_again (laws : P.VaultLaws) {kind : Protocol} {client : Value} {seconds : Timeout}
    {proxyId roleId : Option String} {access : Option Dict} {connection : ConnectionRow Token}
    (saved : ConnectionSaved P db payload previous common kind client seconds proxyId access)
    (same : connection = savedConnection P self iv id common kind client seconds proxyId access)
    (formed : Formed connectionColumn roleId previous) (connected : AccessFormed previous)
    (decoded : storedProfile P caller connection.columns connection.configuration connection.secrets = .ok stored)
    (roles : next.roleAccounts = db.roleAccounts) (proxies : next.proxies = db.proxies) (again : Nat) :
    ∃ connection' profile, saveConnection P self next again id payload stored = .ok connection' ∧ connection'.id = id ∧
      storedProfile P self connection'.columns connection'.configuration connection'.secrets = .ok profile ∧
      SameProfile profile stored := by
  have shared := saved.shared
  have read := savedConnection_decoded laws same decoded
  have fields : ∀ key ∉ ["connector", "id"], stored.lookup key = updated
      (loginForm common.roleAccountId.isSome connectionColumn key) (payload.lookup key) (previous.lookup key) := by
    intro key listed
    simp only [List.mem_cons, List.not_mem_nil, or_false, not_or] at listed
    exact savedConnection_updated laws saved same decoded formed.paths listed.1 listed.2
  have resaved : Resaved connectionColumn payload previous stored common.roleAccountId :=
    ⟨fun _ => rfl, fields, ⟨roleId, formed⟩⟩
  have worked : ∀ key ∉ ["connector", "id"],
      (working stored payload common.roleAccountId).lookup key = common.profile.lookup key := by
    intro key listed
    rw [resaved.working listed, shared.profile]
  have accessed := saved.accessed
  rw [shared.profile] at accessed
  rcases accessed.again connected read.connector with ⟨access', accessed', accesses⟩
  have accepted : ConnectionSaved P next payload stored
      { common with profile := working stored payload common.roleAccountId } kind client seconds proxyId access' := by
    refine ⟨shared.again resaved roles, ?_, ?_, ?_, ?_, accessed'⟩
    · rw [Dict.get_eq, worked "protocol" (by decide)]
      exact saved.spoken
    · rw [Dict.getOr, worked "client_type" (by decide)]
      exact saved.chosen
    · rw [Dict.getOr, worked "timeout_seconds" (by decide)]
      exact saved.timed
    · rw [Dict.get_eq, worked "proxy_id" (by decide), proxies]
      exact saved.referred
  let connection' := savedConnection P self again id
    { common with profile := working stored payload common.roleAccountId } kind client seconds proxyId access'
  have written : saveConnection P self next again id payload stored = .ok connection' :=
    saveConnection_ok.mpr ⟨_, kind, client, seconds, proxyId, access', accepted, rfl⟩
  have firstSound : ConnectionSound P db.roleAccounts db.proxies connection :=
    saveConnection_sound (saveConnection_ok.mpr ⟨common, kind, client, seconds, proxyId, access, saved, same⟩)
  have sound := saveConnection_sound written
  rcases sound.decodes laws (encrypted_opens laws _) with ⟨profile, opened⟩
  have storedFormed := savedConnection_formed laws saved same decoded formed.paths
  refine ⟨connection', profile, written, rfl, opened, ?_, ?_⟩
  · intro key other
    by_cases own : key = "id"
    · rw [own, sound.column laws opened "id" (by decide), firstSound.column laws decoded "id" (by decide), same]
      rfl
    · have second := savedConnection_updated laws accepted rfl opened storedFormed.paths other own
      rw [second, fields key (by simp [other, own])]
      exact updated_again (fun _ => rfl) (formed key other)
  · rw [(savedConnection_decoded laws rfl opened).connector, read.connector]
    cases accesses with
    | none => exact .inl rfl
    | some equal => exact .inr ⟨_, _, rfl, rfl, storedConnector_same equal⟩

end

end NetworkGateway.Store
