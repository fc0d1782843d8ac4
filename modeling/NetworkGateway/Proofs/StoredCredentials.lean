import NetworkGateway.Dal.Connectors
import NetworkGateway.Proofs.RoleCredentials
import NetworkGateway.Proofs.StoredProfiles

/-! Credentials of stored profiles: no password beside a key, no two keys. -/

namespace NetworkGateway.Store

open Library.Dict Library.Result Library.Run Library.Table

/-- Credentials that do not contradict each other. -/
structure Coherent (held : String → Bool) : Prop extends Consistent held where
  source : held "private_key" = true → held "private_key_path" = false

theorem holds_merge (base updates : Dict) (key : String) :
    holds (merge base updates) key = if (updates.lookup key).isSome then holds updates key else holds base key := by
  unfold holds
  rw [Dict.get_eq, Dict.get_eq, Dict.get_eq, lookup_merge]
  cases updates.lookup key <;> rfl

theorem holds_unbound {entries : Dict} {key : String} (unbound : entries.lookup key = none) : holds entries key = false := by
  unfold holds
  rw [Dict.get_eq, unbound]
  rfl

theorem truthy_filter (value : Option Value) :
    ((value.filter (·.truthy)).getD .none).truthy = (value.getD .none).truthy := by
  cases value with
  | none => rfl
  | some value => cases held : value.truthy <;> simp [Option.filter, held]

def credentialFieldNames : List String := ["password", "private_key", "private_key_path", "key_passphrase"]

theorem holds_kept {base columns profile : Dict} {key : String} (listed : key ∈ credentialFieldNames)
    (column : columns.lookup key = none)
    (decoded : profile.lookup key = (keptField base key).or (columns.lookup key)) :
    holds profile key = holds base key := by
  unfold holds
  rw [Dict.get_eq, Dict.get_eq, decoded, column, Option.or_none]
  simp only [credentialFieldNames, List.mem_cons, List.not_mem_nil, or_false] at listed
  rcases listed with rfl | rfl | rfl | rfl
  · exact truthy_filter _
  · exact truthy_filter _
  · rfl
  · exact truthy_filter _

/-! Devices and saved proxies. -/

/-- The login of a decoded row: at most a password or a key file, and nothing beside a role. -/
structure DeviceKept (roleId : Option String) (profile : Dict) : Prop where
  pasted : holds profile "private_key" = false
  passphrase : holds profile "key_passphrase" = false
  method : holds profile "password" = true → holds profile "private_key_path" = false
  role : roleId.isSome = true → holds profile "password" = false ∧ holds profile "private_key_path" = false

theorem DeviceKept.new : DeviceKept none [] := ⟨rfl, rfl, nofun, nofun⟩

theorem DeviceKept.coherent {roleId : Option String} {profile : Dict} (kept : DeviceKept roleId profile) :
    Coherent (holds profile) where
  method password := by
    unfold keyed
    rw [kept.method password, kept.pasted]
    rfl
  passphrase given := by
    rw [kept.passphrase] at given
    cases given
  source pasted := by
    rw [kept.pasted] at pasted
    cases pasted

theorem holds_working (previous payload : Dict) (roleId : Option String) (key : String) :
    holds (working previous payload roleId) key =
      if key ∈ trustPaths ∧ payload.lookup key = some .none ∨ roleId.isSome ∧ key ∈ inlineFields then false
      else holds (merge previous payload) key := by
  unfold holds
  rw [Dict.get_eq, Dict.get_eq, lookup_working, lookup_merge]
  split
  · rfl
  · rfl

theorem holds_working_unset {previous payload : Dict} {roleId : Option String} {key : String}
    (unnamed : payload.lookup key = none) (unset : holds previous key = false) :
    holds (working previous payload roleId) key = false := by
  rw [holds_working, holds_merge, unnamed]
  split
  · rfl
  · exact unset

theorem holds_working_role {previous payload : Dict} {roleId : Option String} {key : String}
    (role : roleId.isSome = true) (inline : key ∈ inlineFields) : holds (working previous payload roleId) key = false := by
  rw [holds_working, if_pos (.inr ⟨role, inline⟩)]

section

variable {Token : Type} {P : Platform Token} {self caller : GatewayStore} {fresh : Fresh} {db written : Db Token}

/-- A save keeps the login of devices and proxies in order: their payloads have no pasted key. -/
theorem CommonSaved.keeps {payload previous columns profile : Dict} {common : CommonValues} {roleId : Option String}
    (saved : CommonSaved db payload previous common)
    (unnamed : ∀ key ∈ ["private_key", "key_passphrase"], payload.lookup key = none) (kept : DeviceKept roleId previous)
    (bare : ∀ key ∈ credentialFieldNames, columns.lookup key = none)
    (decoded : ∀ field ∉ ["connector", "client_type"],
      profile.lookup field = (keptField common.profile field).or (columns.lookup field)) :
    DeviceKept common.roleAccountId profile := by
  have shown : ∀ key ∈ credentialFieldNames,
      holds profile key = holds (working previous payload common.roleAccountId) key := by
    intro key listed
    have plain : key ∉ ["connector", "client_type"] := by
      simp only [credentialFieldNames, List.mem_cons, List.not_mem_nil, or_false] at listed
      rcases listed with rfl | rfl | rfl | rfl <;> decide
    rw [← saved.profile]
    exact holds_kept listed (bare key listed) (decoded key plain)
  have consistent := saved.consistent
  rw [saved.profile] at consistent
  refine ⟨?_, ?_, ?_, ?_⟩
  · rw [shown _ (by decide)]
    exact holds_working_unset (unnamed _ (by decide)) kept.pasted
  · rw [shown _ (by decide)]
    exact holds_working_unset (unnamed _ (by decide)) kept.passphrase
  · rw [shown _ (by decide), shown _ (by decide)]
    intro password
    exact (Bool.or_eq_false_iff.mp (consistent.method password)).1
  · intro role
    rw [shown _ (by decide), shown _ (by decide)]
    exact ⟨holds_working_role role (by decide), holds_working_role role (by decide)⟩

theorem saveProxy_keeps (laws : P.VaultLaws) {iv : Nat} {id : String} {payload previous profile : Dict}
    {proxy : ProxyRow Token} {roleId : Option String} (saved : saveProxy P self db iv id payload previous = .ok proxy)
    (listed : Within payload (fields .proxies)) (kept : DeviceKept roleId previous)
    (decoded : storedProfile P caller proxy.columns proxy.configuration proxy.secrets = .ok profile) :
    DeviceKept proxy.roleAccountId profile := by
  rcases saveProxy_decodes laws saved decoded with ⟨common, kind, accepted, -, role, read⟩
  rw [role]
  apply accepted.keeps _ kept _ (fun field other => read field (fun same => other (by rw [same]; decide)))
  · intro key named
    apply listed.lookup
    simp only [List.mem_cons, List.not_mem_nil, or_false] at named
    rcases named with rfl | rfl <;> decide
  · intro key named
    simp only [credentialFieldNames, List.mem_cons, List.not_mem_nil, or_false] at named
    rcases named with rfl | rfl | rfl | rfl <;> rfl

/-! Inline connectors. -/

/-- A decoded connector has the fields of a connector only, and a path is a text. -/
structure PlainConnector (connector : Dict) : Prop where
  listed : ∀ key ∉ connectorFields, connector.lookup key = none
  path : ∀ value, connector.lookup "private_key_path" = some value → ∃ text, value = .str text

theorem PlainConnector.nil : PlainConnector [] := ⟨fun _ _ => rfl, nofun⟩

theorem direct_plain : PlainConnector [("type", .str "direct")] := by
  constructor
  · intro key other
    apply Within.lookup _ other
    exact Within.cons _ (by decide) (Within.nil _)
  · intro value found
    cases found

theorem direct_coherent : Coherent (holds [("type", .str "direct")]) := ⟨⟨nofun, nofun⟩, nofun⟩

theorem coherent_congr {one other : Dict} (same : ∀ key ∈ credentialFieldNames, holds one key = holds other key)
    (coherent : Coherent (holds one)) : Coherent (holds other) := by
  have keys : keyed (holds one) = keyed (holds other) := by
    unfold keyed
    rw [same "private_key_path" (by decide), same "private_key" (by decide)]
  refine ⟨⟨?_, ?_⟩, ?_⟩
  · rw [← keys, ← same "password" (by decide)]
    exact coherent.method
  · rw [← keys, ← same "key_passphrase" (by decide)]
    exact coherent.passphrase
  · rw [← same "private_key" (by decide), ← same "private_key_path" (by decide)]
    exact coherent.source

theorem storedConnector_plain {result : Dict} (plain : PlainConnector result) : PlainConnector (storedConnector result) := by
  constructor
  · intro key other
    rw [lookup_storedConnector, plain.listed key other]
    split
    · rfl
    · rfl
  · intro value found
    rw [lookup_storedConnector, if_neg (by decide)] at found
    rcases Option.map_eq_some_iff.mp found with ⟨path, held, rfl⟩
    rcases plain.path path held with ⟨text, rfl⟩
    exact ⟨text, rfl⟩

theorem holds_storedConnector {result : Dict} (plain : PlainConnector result) {key : String}
    (listed : key ∈ credentialFieldNames) :
    holds (storedConnector result) key = holds result key := by
  unfold holds
  rw [Dict.get_eq, Dict.get_eq]
  simp only [credentialFieldNames, List.mem_cons, List.not_mem_nil, or_false] at listed
  rcases listed with rfl | rfl | rfl | rfl
  · rw [lookup_storedConnector, if_pos (by decide), truthy_filter]
  · rw [lookup_storedConnector, if_pos (by decide), truthy_filter]
  · rw [lookup_storedConnector, if_neg (by decide)]
    cases held : result.lookup "private_key_path" with
    | none => rfl
    | some value =>
        rcases plain.path value held with ⟨text, rfl⟩
        rfl
  · rw [lookup_storedConnector, if_pos (by decide), truthy_filter]

/-- A connector names at most one source of its key. -/
def OneKey (connector : Dict) : Prop :=
  ¬(holds connector "private_key" = true ∧ holds connector "private_key_path" = true)

theorem Coherent.oneKey {connector : Dict} (coherent : Coherent (holds connector)) : OneKey connector := by
  intro both
  have other := coherent.source both.1
  exact Bool.false_ne_true (other.symm.trans both.2)

theorem lookup_workingConnector (before value : Dict) (key : String) :
    (workingConnector before value).lookup key = value.lookup key ∨
      (workingConnector before value).lookup key = (value.lookup key).or (before.lookup key) := by
  unfold workingConnector
  split
  · exact .inl rfl
  · exact .inr (lookup_merge before value key)

/-- An entry of the working connector comes from the payload or from the stored connector. -/
theorem workingConnector_source {before value : Dict} {key : String} {held : Value}
    (found : (workingConnector before value).lookup key = some held) :
    value.lookup key = some held ∨ before.lookup key = some held := by
  rcases lookup_workingConnector before value key with same | same
  · exact .inl (same.symm.trans found)
  · rw [same] at found
    cases named : value.lookup key with
    | none =>
        rw [named] at found
        exact .inr found
    | some given =>
        rw [named] at found
        exact .inl found

theorem lookup_workingConnector_nil (value : Dict) (key : String) : (workingConnector [] value).lookup key = value.lookup key := by
  rcases lookup_workingConnector [] value key with same | same
  · exact same
  · rw [same, List.lookup_nil, Option.or_none]

theorem oneKey_resaved {connector : Dict} (chosen : OneKey connector) : OneKey (workingConnector [] connector) := by
  intro both
  unfold holds at both
  rw [Dict.get_eq, Dict.get_eq, lookup_workingConnector_nil, lookup_workingConnector_nil] at both
  exact chosen both

section

variable {before value result : Dict} {kind : ProxyType} {host : String} {number : Port}

theorem ConnectorSaved.lookup (saved : ConnectorSaved P before value kind host number result) {key : String}
    (other : key ∉ ["type", "host", "port"]) : result.lookup key =
      if key ∈ trustPaths ∧ value.lookup key = some .none then none else (workingConnector before value).lookup key := by
  simp only [List.mem_cons, List.not_mem_nil, or_false, not_or] at other
  rw [saved.written, lookup_cleared, lookup_set, if_neg other.2.2, lookup_set, if_neg other.2.1, lookup_set,
    if_neg other.1]

theorem ConnectorSaved.plain (saved : ConnectorSaved P before value kind host number result)
    (listed : Within value connectorFields) (plain : PlainConnector before) : PlainConnector result := by
  constructor
  · intro key other
    have within : ["type", "host", "port"] ⊆ connectorFields := by decide
    have elsewhere : key ∉ ["type", "host", "port"] := fun endpoint => other (within endpoint)
    have unnamed : value.lookup key = none := listed.lookup other
    rw [saved.lookup elsewhere]
    split
    · rfl
    · rcases lookup_workingConnector before value key with same | same
      · rw [same, unnamed]
      · rw [same, unnamed, plain.listed key other]
        rfl
  · intro path found
    rw [saved.lookup (by decide)] at found
    split at found
    · cases found
    · rename_i uncleared
      rcases workingConnector_source found with named | stored
      · rcases saved.texts _ (by decide) path named with ⟨trusted, rfl⟩ | ⟨read, accepted⟩
        · exact absurd ⟨trusted, named⟩ uncleared
        · cases path with
          | str text => exact ⟨text, rfl⟩
          | none | bool | int | float | list | dict => cases accepted
      · exact plain.path path stored

/-- `_connector` checks the method and the passphrase; one source of the key is up to the payload. -/
theorem ConnectorSaved.coherent (saved : ConnectorSaved P before value kind host number result)
    (chosen : OneKey (workingConnector before value)) : Coherent (holds result) := by
  refine ⟨saved.consistent, ?_⟩
  intro pasted
  have given : holds (workingConnector before value) "private_key" = true := by
    unfold holds at pasted ⊢
    rw [Dict.get_eq, saved.lookup (by decide), if_neg (fun clears => absurd clears.1 (by decide))] at pasted
    exact pasted
  have unset : holds (workingConnector before value) "private_key_path" = false :=
    Bool.eq_false_iff.mpr fun path => chosen ⟨given, path⟩
  unfold holds at unset ⊢
  rw [Dict.get_eq, saved.lookup (by decide)]
  split
  · rfl
  · exact unset

end

def AccessPlain (profile : Dict) : Prop :=
  ∀ value, profile.lookup "connector" = some value → ∃ connector, value = .dict connector ∧ PlainConnector connector

/-- The connector a save starts from: the payload's over the stored one, or the stored one once more. -/
inductive Inline (payload previous : Dict) : (before entries : Dict) → Prop where
  | named (before entries : Dict) (given : payload.lookup "connector" = some (.dict entries))
      (held : orEmpty (Dict.get previous "connector") = .ok before) : Inline payload previous before entries
  | stored (entries : Dict) (held : previous.lookup "connector" = some (.dict entries)) : Inline payload previous [] entries
  | unset : Inline payload previous [] [("type", .str "direct")]

theorem AccessSaved.inline_ok {payload previous result : Dict} {roleId proxyId : Option String} {access : Option Dict}
    (saved : AccessSaved P payload previous (working previous payload roleId) proxyId access)
    (chosen : access = some result) :
    ∃ before entries, Inline payload previous before entries ∧ Within entries connectorFields ∧
      (result = [("type", .str "direct")] ∨ ∃ kind host number, ConnectorSaved P before entries kind host number result) := by
  cases saved with
  | saved id unnamed => cases chosen
  | inline other accepted =>
      cases chosen
      rcases connector_ok.mp accepted with ⟨entries, before, given, listed, held, outcome⟩
      have shape : result = [("type", .str "direct")] ∨
          ∃ kind host number, ConnectorSaved P before entries kind host number result := by
        rcases outcome with ⟨-, same, -⟩ | proxied
        · exact .inl same
        · exact .inr proxied
      refine ⟨before, entries, ?_, listed, shape⟩
      cases named : payload.lookup "connector" with
      | some value =>
          have has : Dict.has payload "connector" = true := by
            unfold Dict.has
            rw [named]
            rfl
          rw [has, if_pos rfl] at held
          rw [Dict.getOr, named] at given
          have given : value = .dict entries := given
          exact .named before entries (by rw [named, given]) held
      | none =>
          have has : Dict.has payload "connector" = false := by
            unfold Dict.has
            rw [named]
            rfl
          rw [has, if_neg Bool.false_ne_true] at held
          cases held
          have source : (working previous payload roleId).lookup "connector" = previous.lookup "connector" := by
            rw [lookup_working, if_neg (by simp [trustPaths, inlineFields]), named, Option.none_or]
          rw [Dict.getOr, named, Dict.getOr, source] at given
          cases bound : previous.lookup "connector" with
          | none =>
              rw [bound] at given
              cases given
              exact .unset
          | some stored =>
              rw [bound] at given
              have given : stored = .dict entries := given
              exact .stored entries (by rw [bound, given])

theorem Inline.before_plain {payload previous before entries : Dict} (inline : Inline payload previous before entries)
    (plain : AccessPlain previous) : PlainConnector before := by
  cases inline with
  | named _ _ _ held =>
      unfold orEmpty at held
      split at held
      · rename_i truthy
        rw [asDict_ok, Dict.get_eq] at held
        cases bound : previous.lookup "connector" with
        | none =>
            rw [bound] at held
            cases held
        | some stored =>
            rw [bound] at held
            rcases plain stored bound with ⟨connector, equal, fine⟩
            cases equal.symm.trans held
            exact fine
      · cases held
        exact PlainConnector.nil
  | stored _ _ => exact PlainConnector.nil
  | unset => exact PlainConnector.nil

theorem AccessSaved.plain {payload previous result : Dict} {roleId proxyId : Option String} {access : Option Dict}
    (saved : AccessSaved P payload previous (working previous payload roleId) proxyId access)
    (chosen : access = some result) (plain : AccessPlain previous) : PlainConnector result := by
  rcases saved.inline_ok chosen with ⟨before, entries, inline, listed, rfl | ⟨kind, host, number, accepted⟩⟩
  · exact direct_plain
  · exact accepted.plain listed (inline.before_plain plain)

/-- The inline connector of the payload, over the stored one of the same type, names one source of its key. -/
def NamesOneKey (payload previous : Dict) : Prop :=
  ∀ given before, payload.lookup "connector" = some (.dict given) → orEmpty (Dict.get previous "connector") = .ok before →
    connectorType before given ≠ .str "direct" → OneKey (workingConnector before given)

def AccessCoherent (profile : Dict) : Prop :=
  ∀ connector, profile.lookup "connector" = some (.dict connector) → Coherent (holds connector)

theorem AccessSaved.coherent {payload previous result : Dict} {roleId proxyId : Option String} {access : Option Dict}
    (saved : AccessSaved P payload previous (working previous payload roleId) proxyId access)
    (chosen : access = some result) (coherent : AccessCoherent previous) (names : NamesOneKey payload previous) :
    Coherent (holds result) := by
  rcases saved.inline_ok chosen with ⟨before, entries, inline, -, rfl | ⟨kind, host, number, accepted⟩⟩
  · exact direct_coherent
  · apply accepted.coherent
    cases inline with
    | named _ _ given held =>
        apply names entries before given held
        rw [accepted.typed]
        cases kind <;> decide
    | stored _ held => exact oneKey_resaved (coherent entries held).oneKey
    | unset => exact oneKey_resaved direct_coherent.oneKey

structure ConnectionKept (roleId : Option String) (profile : Dict) : Prop where
  device : DeviceKept roleId profile
  access : AccessPlain profile

theorem ConnectionKept.new : ConnectionKept none [] := ⟨DeviceKept.new, nofun⟩

section

variable {iv : Nat} {id : String} {payload previous profile : Dict} {connection : ConnectionRow Token}

theorem saveConnection_keeps (laws : P.VaultLaws) {roleId : Option String}
    (saved : saveConnection P self db iv id payload previous = .ok connection)
    (listed : Within payload (fields .connections)) (kept : ConnectionKept roleId previous)
    (decoded : storedProfile P caller connection.columns connection.configuration connection.secrets = .ok profile) :
    ConnectionKept connection.roleAccountId profile := by
  rcases saveConnection_decodes laws saved decoded with
    ⟨common, kind, client, seconds, access, accepted, role, read⟩
  rw [role]
  constructor
  · apply accepted.shared.keeps _ kept.device _ read.fields
    · intro key named
      apply listed.lookup
      simp only [List.mem_cons, List.not_mem_nil, or_false] at named
      rcases named with rfl | rfl <;> decide
    · intro key named
      simp only [credentialFieldNames, List.mem_cons, List.not_mem_nil, or_false] at named
      rcases named with rfl | rfl | rfl | rfl <;> rfl
  · intro value found
    rw [read.connector] at found
    rcases Option.map_eq_some_iff.mp found with ⟨result, chosen, rfl⟩
    have reached := accepted.accessed
    rw [accepted.shared.profile] at reached
    exact ⟨storedConnector result, rfl, storedConnector_plain (reached.plain chosen kept.access)⟩

theorem saveConnection_coherent (laws : P.VaultLaws) (plain : AccessPlain previous)
    (saved : saveConnection P self db iv id payload previous = .ok connection) (coherent : AccessCoherent previous)
    (names : NamesOneKey payload previous)
    (decoded : storedProfile P caller connection.columns connection.configuration connection.secrets = .ok profile) :
    AccessCoherent profile := by
  rcases saveConnection_decodes laws saved decoded with
    ⟨common, kind, client, seconds, access, accepted, -, read⟩
  intro connector found
  rw [read.connector] at found
  rcases Option.map_eq_some_iff.mp found with ⟨result, chosen, same⟩
  have reached := accepted.accessed
  rw [accepted.shared.profile] at reached
  rw [← Value.dict.inj same]
  apply coherent_congr _ (reached.coherent chosen coherent names)
  intro key listed
  exact (holds_storedConnector (reached.plain chosen plain) listed).symm

end

end

end NetworkGateway.Store
