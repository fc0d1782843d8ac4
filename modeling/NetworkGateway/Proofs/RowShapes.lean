import NetworkGateway.Dal.Inventory
import NetworkGateway.Proofs.Resolution

/-! The rows a save writes: which keys their configuration and their secrets hold,
and which rows they refer to. -/

namespace NetworkGateway.Store

open Library.Dict Library.Result Library.Table

def Within (entries : Dict) (keys : List String) : Prop := ∀ entry ∈ entries, entry.1 ∈ keys

theorem Within.lookup {entries : Dict} {keys : List String} (within : Within entries keys) {key : String}
    (outside : key ∉ keys) : entries.lookup key = none := by
  apply List.lookup_eq_none_iff.mpr
  intro entry member
  have listed := within entry member
  have differs : key ≠ entry.1 := fun same => outside (same ▸ listed)
  exact bne_iff_ne.mpr differs

theorem Within.mono {entries : Dict} {keys more : List String} (within : Within entries keys)
    (subset : keys ⊆ more) : Within entries more :=
  fun entry member => subset (within entry member)

theorem Within.append {first second : Dict} {keys : List String} (left : Within first keys)
    (right : Within second keys) : Within (first ++ second) keys := by
  intro entry member
  rcases List.mem_append.mp member with member | member
  · exact left entry member
  · exact right entry member

theorem Within.nil (keys : List String) : Within [] keys := fun _ => nofun

theorem Within.cons {key : String} {keys : List String} {rest : Dict} (value : Value) (listed : key ∈ keys)
    (within : Within rest keys) : Within ((key, value) :: rest) keys := by
  intro entry member
  rcases List.mem_cons.mp member with same | member
  · rw [same]
    exact listed
  · exact within entry member

theorem Within.choose {first second : Dict} {keys : List String} (left : Within first keys)
    (right : Within second keys) (condition : Bool) :
    Within (if condition then first else second) keys := by
  cases condition with
  | true => exact left
  | false => exact right

theorem select_within (keys : List String) (entries : Dict) : Within (select keys entries) keys := by
  intro entry member
  have found := List.mem_filterMap.mp member
  rcases found with ⟨key, listed, bound⟩
  rcases Option.map_eq_some_iff.mp bound with ⟨value, _, same⟩
  rw [← same]
  exact listed

theorem secretData_within (profile : Dict) : Within (secretData profile) Secrets.secretFields := by
  intro entry member
  exact select_within _ profile entry (List.mem_of_mem_filter member)

theorem configurationOf_within (profile : Dict) :
    Within (configurationOf profile) ["username", "private_key_path", "known_hosts_path"] :=
  select_within _ profile

section

variable {Token : Type} {P : Platform Token} {self : GatewayStore} {db : Db Token}

/-! Checks that return the value they were given. -/

theorem text_required {value : Value} {label : String} {limit : Nat} {read : String}
    (accepted : text value label true limit = .ok read) : ∃ s, value = .str s ∧ Text.strip s ≠ "" := by
  unfold text at accepted
  split at accepted
  · rename_i s
    split at accepted
    · cases accepted
    · rw [if_pos rfl] at accepted
      split at accepted
      · cases accepted
      · rename_i nonblank
        exact ⟨s, rfl, nonblank⟩
  · cases accepted

theorem reference_ok {value : Value} {label : String} {present : String → Bool} {held : Option String}
    (accepted : reference value label present = .ok held) :
    value = Value.ofOption held ∧ ∀ id, held = some id → id ≠ "" ∧ present id = true := by
  unfold reference at accepted
  split at accepted
  · have same := Except.ok.inj accepted
    rw [← same]
    exact ⟨rfl, nofun⟩
  · rename_i id
    simp only [bind_eq_ok, raiseWhen_ok, pure_eq, Except.ok.injEq] at accepted
    rcases accepted with ⟨_, checked, _, found, rfl⟩
    refine ⟨rfl, ?_⟩
    intro other same
    have sameId := Option.some.inj same
    rw [← sameId]
    rcases text_required checked with ⟨s, text, nonblank⟩
    have textSame := Value.str.inj text
    refine ⟨?_, by simpa using found⟩
    intro empty
    rw [← textSame, empty] at nonblank
    exact nonblank (by decide)
  · cases accepted

/-! Mutations of the working profile. -/

theorem inlineField_lookup {payload profile changed : Dict} {field : String}
    (accepted : inlineField payload profile field = .ok changed) {key : String} (kept : key ∉ trustPaths) :
    changed.lookup key = profile.lookup key := by
  unfold inlineField at accepted
  split at accepted
  · have same := Except.ok.inj accepted
    rw [same]
  · rename_i value _
    split at accepted
    · rename_i cleared
      have same := Except.ok.inj accepted
      have listed : field ∈ trustPaths := by
        have both := (Bool.and_eq_true _ _).mp cleared
        simpa using both.1
      rw [← same, lookup_erase, if_neg]
      intro eq
      exact kept (eq ▸ listed)
    · simp only [bind_eq_ok, pure_eq, Except.ok.injEq] at accepted
      rcases accepted with ⟨_, _, same⟩
      rw [same]

theorem inlineFields_lookup {payload : Dict} {key : String} (kept : key ∉ trustPaths) (fields : List String)
    {profile changed : Dict} (accepted : fields.foldlM (inlineField payload) profile = .ok changed) :
    changed.lookup key = profile.lookup key := by
  induction fields generalizing profile with
  | nil =>
      have same := Except.ok.inj accepted
      rw [same]
  | cons field rest ih =>
      rw [List.foldlM_cons, bind_eq_ok] at accepted
      rcases accepted with ⟨next, first, later⟩
      rw [ih later]
      exact inlineField_lookup first kept

theorem inlineCredentials_lookup {profile payload changed : Dict}
    (accepted : inlineCredentials profile payload = .ok changed) {key : String} (kept : key ∉ trustPaths) :
    changed.lookup key = profile.lookup key := by
  simp only [inlineCredentials, bind_eq_ok, pure_eq, Except.ok.injEq] at accepted
  rcases accepted with ⟨held, folded, _, _, _, _, rfl⟩
  exact inlineFields_lookup kept _ folded

/-! The connector. -/

/-- A connector that is `direct`, or names a proxy type. -/
def ConnectorShape (connector : Dict) : Prop :=
  connector.lookup "type" = some (.str "direct") ∨
    ∃ kind : ProxyType, connector.lookup "type" = some (.str kind.text)

theorem proxyConnector_type {kind : ProxyType} {profile value connector : Dict}
    (accepted : proxyConnector P kind profile value = .ok connector) :
    connector.lookup "type" = some (.str kind.text) := by
  simp only [proxyConnector, bind_eq_ok, pure_eq, Except.ok.injEq] at accepted
  rcases accepted with ⟨host, _, number, _, _, _, changed, credentials, _, _, rfl⟩
  rw [inlineCredentials_lookup credentials (by decide)]
  simp

theorem connector_shape {value previous : Value} {result : Dict}
    (accepted : connector P value previous = .ok result) : ConnectorShape result := by
  simp only [connector, bind_eq_ok] at accepted
  rcases accepted with ⟨entries, _, before, _, kind, _, accepted⟩
  cases kind with
  | none =>
      simp only [bind_eq_ok, pure_eq, Except.ok.injEq] at accepted
      rcases accepted with ⟨_, _, rfl⟩
      exact .inl rfl
  | some kind => exact .inr ⟨kind, proxyConnector_type accepted⟩

theorem publicEntries_type (connector : Dict) (shape : ConnectorShape connector) :
    (Secrets.publicEntries connector).lookup "type" = connector.lookup "type" := by
  have visible : "type" ∉ Secrets.secretFields := by decide
  rw [Secrets.lookup_publicEntries, if_neg visible]
  rcases shape with direct | ⟨kind, named⟩
  · rw [direct]; rfl
  · rw [named]; rfl

/-! What `_save_profile` and `_save_role` store. -/

theorem saveCommon_role {payload previous : Dict} {common : CommonValues}
    (saved : saveCommon db payload previous = .ok common) {id : String}
    (refers : common.roleAccountId = some id) :
    id ≠ "" ∧ (find RoleAccountRow.id db.roleAccounts id).isSome := by
  simp only [saveCommon, bind_eq_ok, pure_eq, Except.ok.injEq] at saved
  rcases saved with ⟨_, _, _, _, _, _, roleId, reference, _, _, _, _, rfl⟩
  exact (reference_ok reference).2 id refers

theorem saveAccess_ok {payload previous profile connector secrets : Dict} {proxyId : Option String}
    (saved : saveAccess P payload previous profile proxyId = .ok (connector, secrets)) :
    proxyId.isSome ∧ connector = [] ∧ secrets = [] ∨
    proxyId = none ∧ ∃ held, ConnectorShape held ∧ connector = [("connector", .dict held)] ∧
      (secrets = [] ∨ ∃ inner, secrets = [("connector", .dict inner)] ∧ Within inner Secrets.secretFields) := by
  unfold saveAccess at saved
  cases proxyId with
  | some id =>
      simp only [Option.isSome_some, if_true, bind_eq_ok, pure_eq, Except.ok.injEq, Prod.mk.injEq] at saved
      rcases saved with ⟨_, _, rfl, rfl⟩
      exact .inl ⟨rfl, rfl, rfl⟩
  | none =>
      rw [if_neg (by decide)] at saved
      simp only [bind_eq_ok, pure_eq, Except.ok.injEq, Prod.mk.injEq] at saved
      rcases saved with ⟨held, accepted, rfl, rfl⟩
      have shape := connector_shape accepted
      refine .inr ⟨rfl, Secrets.publicEntries held, ?_, rfl, ?_⟩
      · unfold ConnectorShape
        rw [publicEntries_type held shape]
        exact shape
      · split
        · exact .inl rfl
        · exact .inr ⟨secretData held, rfl, secretData_within held⟩

def SecretsWithin (P : Platform Token) (token : Token) (keys : List String) : Prop :=
  ∃ key iv held, token = P.encrypt key iv (.dict held) ∧ Within held keys

def References {ρ : Type} (key : ρ → String) (rows : List ρ) (reference : Option String) : Prop :=
  ∀ id, reference = some id → id ≠ "" ∧ (find key rows id).isSome

structure ProxySound (P : Platform Token) (roles : List (RoleAccountRow Token)) (row : ProxyRow Token) :
    Prop where
  role : References RoleAccountRow.id roles row.roleAccountId
  configuration : Within row.configuration ["username", "private_key_path", "known_hosts_path"]
  secrets : SecretsWithin P row.secrets Secrets.secretFields

def configurationFields : List String :=
  ["username", "private_key_path", "known_hosts_path", "client_type", "connector"]

structure ConnectionSound (P : Platform Token) (roles : List (RoleAccountRow Token))
    (proxies : List (ProxyRow Token)) (row : ConnectionRow Token) : Prop where
  role : References RoleAccountRow.id roles row.roleAccountId
  proxy : References ProxyRow.id proxies row.proxyId
  configuration : Within row.configuration configurationFields
  client : ∃ client, row.configuration.lookup "client_type" = some (.str client) ∧
    client ∈ ["network", "fake"]
  inline : row.proxyId = none → ∃ connector, row.configuration.lookup "connector" = some (.dict connector) ∧
    ConnectorShape connector
  external : row.proxyId ≠ none → row.configuration.lookup "connector" = none
  secrets : ∃ key iv held, row.secrets = P.encrypt key iv (.dict held) ∧
    Within held ("connector" :: Secrets.secretFields) ∧ (held.lookup "connector" = none ∨
      ∃ inner, held.lookup "connector" = some (.dict inner) ∧ Within inner Secrets.secretFields)

theorem roleSecrets_within {method : AuthenticationType} {payload previous profile secrets : Dict}
    {switched : Bool} (accepted : roleSecrets P method payload previous profile switched = .ok secrets) :
    Within secrets Secrets.secretFields := by
  cases method with
  | password =>
      simp only [roleSecrets, passwordSecrets, bind_eq_ok, pure_eq, Except.ok.injEq] at accepted
      rcases accepted with ⟨_, _, _, _, rfl⟩
      exact Within.cons _ (by decide) (Within.nil _)
  | sshKey =>
      simp only [roleSecrets, keySecrets, bind_eq_ok, pure_eq, Except.ok.injEq] at accepted
      rcases accepted with ⟨_, _, _, _, _, _, rfl⟩
      exact Within.cons _ (by decide) (Within.choose (Within.cons _ (by decide) (Within.nil _)) (Within.nil _) _)

theorem saveRole_secrets {iv : Nat} {id : String} {payload previous : Dict} {role : RoleAccountRow Token}
    (saved : saveRole P self iv id payload previous = .ok role) :
    SecretsWithin P role.secrets Secrets.secretFields := by
  simp only [saveRole, bind_eq_ok, pure_eq, Except.ok.injEq] at saved
  rcases saved with ⟨_, _, _, _, _, _, _, _, _, _, _, _, secrets, accepted, rfl⟩
  exact ⟨self.key, iv, secrets, rfl, roleSecrets_within accepted⟩

theorem saveProxy_sound {iv : Nat} {id : String} {payload previous : Dict} {proxy : ProxyRow Token}
    (saved : saveProxy P self db iv id payload previous = .ok proxy) : ProxySound P db.roleAccounts proxy := by
  simp only [saveProxy, bind_eq_ok, pure_eq, Except.ok.injEq] at saved
  rcases saved with ⟨common, accepted, _, _, rfl⟩
  refine ⟨fun id refers => saveCommon_role accepted refers, configurationOf_within _, ?_⟩
  exact ⟨self.key, iv, _, rfl, secretData_within _⟩

theorem clientType_ok {value client : Value} (accepted : clientType value = .ok client) :
    ∃ name, client = .str name ∧ name ∈ ["network", "fake"] := by
  unfold clientType at accepted
  split at accepted
  · rename_i named
    rw [← Except.ok.inj accepted]
    unfold Value.isOneOf at named
    split at named
    · rename_i name
      exact ⟨name, rfl, by simpa using named⟩
    · cases named
  · cases accepted

theorem saveConnection_sound {iv : Nat} {id : String} {payload previous : Dict}
    {connection : ConnectionRow Token}
    (saved : saveConnection P self db iv id payload previous = .ok connection) :
    ConnectionSound P db.roleAccounts db.proxies connection := by
  simp only [saveConnection, bind_eq_ok, pure_eq, Except.ok.injEq] at saved
  rcases saved with ⟨common, accepted, _, _, client, chosen, _, _, proxyId, reference, ⟨connector, secrets⟩,
    access, rfl⟩
  have base := configurationOf_within common.profile
  have data := secretData_within common.profile
  have named := clientType_ok chosen
  have baseClient : (configurationOf common.profile).lookup "client_type" = none := base.lookup (by decide)
  have baseConnector : (configurationOf common.profile).lookup "connector" = none := base.lookup (by decide)
  have dataConnector : (secretData common.profile).lookup "connector" = none := data.lookup (by decide)
  refine ⟨fun id refers => saveCommon_role accepted refers, (reference_ok reference).2, ?_, ?_, ?_, ?_, ?_⟩
  · refine (base.mono (by decide)).append (Within.cons _ (by decide) ?_)
    rcases saveAccess_ok access with ⟨_, rfl, _⟩ | ⟨_, held, _, rfl, _⟩
    · exact Within.nil _
    · exact Within.cons _ (by decide) (Within.nil _)
  · rcases named with ⟨name, rfl, listed⟩
    exact ⟨name, by rw [List.lookup_append, baseClient]; rfl, listed⟩
  · intro unset
    have unset : proxyId = none := unset
    rcases saveAccess_ok access with ⟨given, _⟩ | ⟨_, held, shape, rfl, _⟩
    · rw [unset] at given
      cases given
    · exact ⟨held, by rw [List.lookup_append, baseConnector]; rfl, shape⟩
  · intro set
    have set : proxyId ≠ none := set
    rcases saveAccess_ok access with ⟨_, rfl, _⟩ | ⟨unset, _⟩
    · rw [List.lookup_append, baseConnector]
      rfl
    · exact absurd unset set
  · refine ⟨self.key, iv, _, rfl, ?_, ?_⟩
    · refine (data.mono (List.subset_cons_self _ _)).append ?_
      rcases saveAccess_ok access with ⟨_, _, rfl⟩ | ⟨_, _, _, _, rfl | ⟨inner, rfl, _⟩⟩
      · exact Within.nil _
      · exact Within.nil _
      · exact Within.cons _ List.mem_cons_self (Within.nil _)
    · rw [List.lookup_append, dataConnector, Option.none_or]
      rcases saveAccess_ok access with ⟨_, _, rfl⟩ | ⟨_, _, _, _, rfl | ⟨inner, rfl, within⟩⟩
      · exact .inl rfl
      · exact .inl rfl
      · exact .inr ⟨inner, rfl, within⟩

end

end NetworkGateway.Store
