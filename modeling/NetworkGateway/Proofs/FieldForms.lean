import NetworkGateway.Library.Update
import NetworkGateway.Proofs.ResolvedCredentials

/-! The form in which a row keeps each field of a proxy or a connection. -/

namespace NetworkGateway.Store

open Library.Dict Library.Result Library.Run Library.Table Library.Update

/-! Forms. -/

def stripped : Value → Value
  | .str s => .str (Text.strip s)
  | value => value

/-- The number a FLOAT column reads back. -/
def asFloat : Value → Value
  | .int n => .float (.finite n)
  | value => value

/-- The form of a field: a role takes the place of the inline login, paths are not `null` and
secrets not empty; the other fields have the form `rest`. -/
def loginForm (roled : Bool) (rest : String → Option Value → Option Value) (key : String) (held : Option Value) :
    Option Value :=
  if roled = true ∧ key ∈ inlineFields then none
  else if key ∈ trustPaths then held.filter (· != .none)
  else if key ∈ Secrets.secretFields then held.filter (·.truthy)
  else rest key held

def proxyColumn (key : String) (held : Option Value) : Option Value :=
  match key with
  | "id" | "type" | "port" | "username" => held
  | "name" | "host" => held.map stripped
  | "role_account_id" => some (held.getD .none)
  | _ => none

def connectionColumn (key : String) (held : Option Value) : Option Value :=
  match key with
  | "id" | "protocol" | "port" | "username" => held
  | "name" | "host" => held.map stripped
  | "timeout_seconds" => some (asFloat (held.getD (.int 10)))
  | "client_type" => some (held.getD (.str "network"))
  | "role_account_id" | "proxy_id" => some (held.getD .none)
  | _ => none

def endpoint (key : String) (held : Option Value) : Option Value :=
  if key = "host" then held.map stripped else held

abbrev connectorForm : String → Option Value → Option Value := loginForm false endpoint

theorem stripped_stripped (value : Value) : stripped (stripped value) = stripped value := by
  cases value with
  | str s => exact congrArg Value.str (Text.strip_strip s)
  | none | bool | int | float | list | dict => rfl

theorem asFloat_asFloat (value : Value) : asFloat (asFloat value) = asFloat value := by
  cases value <;> rfl

theorem stripped_comp : stripped ∘ stripped = stripped := funext stripped_stripped

theorem map_stripped (held : Option Value) : (held.map stripped).map stripped = held.map stripped := by
  simp [stripped_comp]

theorem filter_filter_self (held : Option Value) (keep : Value → Bool) :
    (held.filter keep).filter keep = held.filter keep := by
  cases held with
  | none => rfl
  | some value => cases kept : keep value <;> simp [Option.filter, kept]

theorem loginForm_idempotent {rest : String → Option Value → Option Value}
    (idempotent : ∀ key held, rest key (rest key held) = rest key held) (roled : Bool) (key : String)
    (held : Option Value) : loginForm roled rest key (loginForm roled rest key held) = loginForm roled rest key held := by
  unfold loginForm
  by_cases replaced : roled = true ∧ key ∈ inlineFields
  · simp only [if_pos replaced]
  · simp only [if_neg replaced]
    by_cases path : key ∈ trustPaths
    · simp only [if_pos path, filter_filter_self]
    · simp only [if_neg path]
      by_cases secret : key ∈ Secrets.secretFields
      · simp only [if_pos secret, filter_filter_self]
      · simp only [if_neg secret, idempotent]

theorem proxyColumn_idempotent (key : String) (held : Option Value) :
    proxyColumn key (proxyColumn key held) = proxyColumn key held := by
  unfold proxyColumn
  split <;> simp [stripped_comp]

theorem connectionColumn_idempotent (key : String) (held : Option Value) :
    connectionColumn key (connectionColumn key held) = connectionColumn key held := by
  unfold connectionColumn
  split <;> simp [stripped_comp, asFloat_asFloat]

theorem endpoint_idempotent (key : String) (held : Option Value) :
    endpoint key (endpoint key held) = endpoint key held := by
  unfold endpoint
  split
  · exact map_stripped held
  · rfl

theorem loginForm_unroled {rest : String → Option Value → Option Value} {key : String} (plain : key ∉ inlineFields)
    (roled other : Bool) (held : Option Value) : loginForm roled rest key held = loginForm other rest key held := by
  have unreplaced : ∀ flag : Bool, ¬(flag = true ∧ key ∈ inlineFields) := fun _ all => plain all.2
  unfold loginForm
  rw [if_neg (unreplaced roled), if_neg (unreplaced other)]

/-! What a save keeps. -/

abbrev keptFields : List String := checkedFields ++ ["secret_key"]

theorem lookup_of_get {entries : Dict} {key : String} {value : Value} (read : Dict.get entries key = value)
    (bound : value ≠ .none) : entries.lookup key = some value := by
  rw [Dict.get_eq] at read
  cases found : entries.lookup key with
  | none =>
      rw [found] at read
      exact absurd read.symm bound
  | some held => rw [← read, found, Option.getD_some]

/-- No path of a decoded row is `null`. -/
def PathsSet (profile : Dict) : Prop := ∀ key ∈ trustPaths, profile.lookup key ≠ some .none

theorem filter_path (named : Option Value) {held : Option Value} (path : held ≠ some .none) :
    (named.or held).filter (· != .none) = if named = some .none then none else named.or held := by
  have clean : ∀ value : Value, value ≠ .none → (some value).filter (· != .none) = some value := by
    intro value set
    simp [Option.filter, set]
  cases named with
  | some value =>
      by_cases null : value = .none
      · simp [Option.filter, null]
      · rw [if_neg (by simpa using null), Option.some_or, clean value null]
  | none =>
      rw [Option.none_or, if_neg nofun]
      cases held with
      | none => rfl
      | some value => exact clean value (fun null => path (congrArg some null))

theorem keptField_working {previous payload : Dict} {roleId : Option String} (paths : PathsSet previous)
    {rest : String → Option Value → Option Value} (plain : ∀ held, rest "username" held = held) {key : String}
    (listed : key ∈ keptFields) :
    keptField (working previous payload roleId) key =
      loginForm roleId.isSome rest key ((payload.lookup key).or (previous.lookup key)) := by
  have keyPath := filter_path (payload.lookup "private_key_path") (paths "private_key_path" (by decide))
  have hostsPath := filter_path (payload.lookup "known_hosts_path") (paths "known_hosts_path" (by decide))
  simp only [keptFields, checkedFields, inlineFields, List.cons_append, List.nil_append, List.mem_cons,
    List.not_mem_nil, or_false] at listed
  unfold keptField loginForm
  rw [lookup_working]
  rcases listed with rfl | rfl | rfl | rfl | rfl | rfl | rfl <;>
    cases roleId <;> simp [Secrets.secretFields, trustPaths, inlineFields, plain, keyPath, hostsPath]

theorem keptField_other (working : Dict) {key : String} (other : key ∉ keptFields) : keptField working key = none := by
  have secrets : Secrets.secretFields ⊆ keptFields := by decide
  have visible : ["username", "private_key_path", "known_hosts_path"] ⊆ keptFields := by decide
  unfold keptField
  rw [if_neg (fun listed => other (secrets listed)), if_neg (fun listed => other (visible listed))]

theorem loginForm_other {roled : Bool} {rest : String → Option Value → Option Value} {key : String} (held : Option Value)
    (other : key ∉ keptFields) : loginForm roled rest key held = rest key held := by
  have inline : inlineFields ⊆ keptFields := by decide
  have paths : trustPaths ⊆ keptFields := by decide
  have secrets : Secrets.secretFields ⊆ keptFields := by decide
  unfold loginForm
  rw [if_neg (fun all => other (inline all.2)), if_neg (fun listed => other (paths listed)),
    if_neg (fun listed => other (secrets listed))]

def Formed (column : String → Option Value → Option Value) (roleId : Option String) (profile : Dict) : Prop :=
  ∀ key ≠ "connector", loginForm roleId.isSome column key (profile.lookup key) = profile.lookup key

theorem Formed.paths {column : String → Option Value → Option Value} {roleId : Option String} {profile : Dict}
    (formed : Formed column roleId profile) : PathsSet profile := by
  intro key trusted null
  have other : key ≠ "connector" := by
    intro same
    rw [same] at trusted
    exact absurd trusted (by decide)
  have kept := formed key other
  unfold loginForm at kept
  split at kept
  · rw [null] at kept
    cases kept
  · rw [null] at kept
    cases kept

section

variable {Token : Type} {db : Db Token} {payload previous : Dict} {common : CommonValues}

theorem CommonSaved.reads (saved : CommonSaved db payload previous common) {key : String} (plain : key ∉ keptFields) :
    common.profile.lookup key = (merge previous payload).lookup key := by
  have paths : trustPaths ⊆ keptFields := by decide
  have inline : inlineFields ⊆ keptFields := by decide
  rw [saved.profile, lookup_working, lookup_merge, if_neg]
  intro dropped
  rcases dropped with cleared | replaced
  · exact plain (paths cleared.1)
  · exact plain (inline replaced.2)

theorem CommonSaved.decoded (saved : CommonSaved db payload previous common) (paths : PathsSet previous)
    {column : String → Option Value → Option Value} (plain : ∀ held, column "username" held = held)
    {columns profile : Dict} {key : String}
    (decoded : profile.lookup key = (keptField common.profile key).or (columns.lookup key))
    (bare : key ∈ keptFields → columns.lookup key = none)
    (stored : key ∉ keptFields → columns.lookup key = column key ((merge previous payload).lookup key)) :
    profile.lookup key =
      updated (loginForm common.roleAccountId.isSome column key) (payload.lookup key) (previous.lookup key) := by
  unfold updated
  by_cases listed : key ∈ keptFields
  · rw [decoded, bare listed, Option.or_none, saved.profile, keptField_working paths plain listed]
  · rw [decoded, keptField_other _ listed, Option.none_or, stored listed, loginForm_other _ listed, lookup_merge]

theorem stripped_of_text {entries : Dict} {key label read : String} {limit : Nat}
    (accepted : text (Dict.get entries key) label true limit = .ok read) :
    (entries.lookup key).map stripped = some (.str read) := by
  rcases text_ok.mp accepted with ⟨s, given, -, -, -, rfl⟩
  rw [lookup_of_get given (by simp)]
  rfl

theorem CommonSaved.role_column (saved : CommonSaved db payload previous common) :
    some (((merge previous payload).lookup "role_account_id").getD .none) = some (Value.ofOption common.roleAccountId) :=
  congrArg some (reference_ok saved.role).1

theorem proxyType_ok {value : Value} {kind : ProxyType} : proxyType value = .ok kind ↔ value = .str kind.text := by
  constructor
  · intro known
    unfold proxyType at known
    split at known
    · split at known
      · rename_i found
        cases known
        have same := List.find?_some found
        rw [beq_iff_eq] at same
        rw [same]
      · cases known
    · cases known
  · intro named
    rw [named]
    cases kind <;> rfl

theorem protocol_ok {value : Value} {kind : Protocol} : protocol value = .ok kind ↔ value = .str kind.text := by
  constructor
  · intro known
    unfold protocol at known
    split at known
    · split at known
      · rename_i found
        cases known
        have same := List.find?_some found
        rw [beq_iff_eq] at same
        rw [same]
      · cases known
    · cases known
  · intro named
    rw [named]
    cases kind <;> rfl

theorem timeout_float {value : Value} {seconds : Timeout} (accepted : timeout value = .ok seconds) :
    asFloat value = .float (.finite seconds.1) := by
  have bounded : ∀ q : Rat, Store.seconds q = .ok seconds → q = seconds.1 := by
    intro q inside
    unfold Store.seconds at inside
    split at inside
    · cases inside
      rfl
    · cases inside
  unfold timeout at accepted
  split at accepted
  · exact congrArg (fun q => Value.float (.finite q)) (bounded _ accepted)
  · exact congrArg (fun q => Value.float (.finite q)) (bounded _ accepted)
  · cases accepted

end

/-! Decoded proxies and connections. -/

section

variable {Token : Type} {P : Platform Token} {self caller : GatewayStore} {db : Db Token} {iv : Nat} {id key : String}
  {payload previous profile : Dict}

theorem savedProxy_columns {common : CommonValues} {kind : ProxyType} (saved : CommonSaved db payload previous common)
    (typed : proxyType (Dict.get common.profile "type") = .ok kind) (own : key ≠ "id") (plain : key ∉ keptFields) :
    (savedProxy P self iv id common kind).columns.lookup key = proxyColumn key ((merge previous payload).lookup key) := by
  have type := lookup_of_get (proxyType_ok.mp typed) (by simp)
  rw [saved.reads (by decide)] at type
  have number := lookup_of_get (port_ok.mp saved.port) (by simp)
  unfold proxyColumn
  split
  · exact absurd rfl own
  · exact type.symm
  · exact number.symm
  · exact absurd (by decide) plain
  · exact (stripped_of_text saved.name).symm
  · exact (stripped_of_text saved.host).symm
  · exact saved.role_column.symm
  · simp_all [savedProxy, ProxyRow.columns, lookup_cons_key]

/-- A decoded proxy has the fields of the payload over the stored ones, each in its form. -/
theorem savedProxy_updated (laws : P.VaultLaws) {common : CommonValues} {kind : ProxyType}
    (saved : CommonSaved db payload previous common) (typed : proxyType (Dict.get common.profile "type") = .ok kind)
    (decoded : storedProfile P caller (savedProxy P self iv id common kind).columns
      (savedProxy P self iv id common kind).configuration (savedProxy P self iv id common kind).secrets = .ok profile)
    (paths : PathsSet previous) (other : key ≠ "connector") (own : key ≠ "id") :
    profile.lookup key = updated (loginForm common.roleAccountId.isSome proxyColumn key) (payload.lookup key)
      (previous.lookup key) := by
  apply saved.decoded paths (fun _ => rfl) (savedProxy_decoded laws decoded other)
  · intro listed
    simp only [keptFields, checkedFields, inlineFields, List.cons_append, List.nil_append, List.mem_cons,
      List.not_mem_nil, or_false] at listed
    rcases listed with rfl | rfl | rfl | rfl | rfl | rfl | rfl <;> rfl
  · intro plain
    exact savedProxy_columns saved typed own plain

theorem savedProxy_formed (laws : P.VaultLaws) {common : CommonValues} {kind : ProxyType}
    (saved : CommonSaved db payload previous common) (typed : proxyType (Dict.get common.profile "type") = .ok kind)
    (decoded : storedProfile P caller (savedProxy P self iv id common kind).columns
      (savedProxy P self iv id common kind).configuration (savedProxy P self iv id common kind).secrets = .ok profile)
    (paths : PathsSet previous) : Formed proxyColumn common.roleAccountId profile := by
  intro key other
  by_cases own : key = "id"
  · rw [own, loginForm_other _ (by decide)]
    rfl
  · rw [savedProxy_updated laws saved typed decoded paths other own]
    exact updated_formed (loginForm_idempotent proxyColumn_idempotent _ _)

section

variable {common : CommonValues} {kind : Protocol} {client : Value} {seconds : Timeout} {proxyId : Option String}
  {access : Option Dict} {connection : ConnectionRow Token}

theorem clientType_same {value : Value} (accepted : clientType value = .ok client) : value = client := by
  unfold clientType at accepted
  split at accepted
  · exact Except.ok.inj accepted
  · cases accepted

theorem savedConnection_columns
    (saved : ConnectionSaved P db payload previous common kind client seconds proxyId access)
    (same : connection = savedConnection P self iv id common kind client seconds proxyId access)
    (own : key ≠ "id") (other : key ≠ "client_type") (plain : key ∉ keptFields) :
    connection.columns.lookup key = connectionColumn key ((merge previous payload).lookup key) := by
  have shared := saved.shared
  have spoken := lookup_of_get (protocol_ok.mp saved.spoken) (by simp)
  rw [shared.reads (by decide)] at spoken
  have number := lookup_of_get (port_ok.mp shared.port) (by simp)
  have timed := timeout_float saved.timed
  rw [Dict.getOr, shared.reads (by decide)] at timed
  have referred := (reference_ok saved.referred).1
  rw [Dict.get_eq, shared.reads (by decide)] at referred
  subst same
  unfold connectionColumn
  split
  · exact absurd rfl own
  · exact spoken.symm
  · exact number.symm
  · exact absurd (by decide) plain
  · exact (stripped_of_text shared.name).symm
  · exact (stripped_of_text shared.host).symm
  · exact (congrArg some timed).symm
  · exact absurd rfl other
  · exact shared.role_column.symm
  · exact (congrArg some referred).symm
  · simp_all [savedConnection, ConnectionRow.columns, lookup_cons_key]

/-- A decoded connection has the fields of the payload over the stored ones, each in its form. -/
theorem savedConnection_updated (laws : P.VaultLaws)
    (saved : ConnectionSaved P db payload previous common kind client seconds proxyId access)
    (same : connection = savedConnection P self iv id common kind client seconds proxyId access)
    (decoded : storedProfile P caller connection.columns connection.configuration connection.secrets = .ok profile)
    (paths : PathsSet previous) (other : key ≠ "connector") (own : key ≠ "id") :
    profile.lookup key = updated (loginForm common.roleAccountId.isSome connectionColumn key) (payload.lookup key)
      (previous.lookup key) := by
  have read := savedConnection_decoded laws same decoded
  by_cases typed : key = "client_type"
  · have plain : key ∉ keptFields := by
      rw [typed]
      decide
    rw [updated, loginForm_other _ plain, typed, read.client, ← clientType_same saved.chosen, Dict.getOr,
      saved.shared.reads (by decide), lookup_merge]
    rfl
  · apply saved.shared.decoded paths (fun _ => rfl) (read.fields key (by simp [other, typed]))
    · intro listed
      simp only [keptFields, checkedFields, inlineFields, List.cons_append, List.nil_append, List.mem_cons,
        List.not_mem_nil, or_false] at listed
      rcases listed with rfl | rfl | rfl | rfl | rfl | rfl | rfl <;> rfl
    · intro plain
      exact savedConnection_columns saved same own typed plain

theorem savedConnection_formed (laws : P.VaultLaws)
    (saved : ConnectionSaved P db payload previous common kind client seconds proxyId access)
    (same : connection = savedConnection P self iv id common kind client seconds proxyId access)
    (decoded : storedProfile P caller connection.columns connection.configuration connection.secrets = .ok profile)
    (paths : PathsSet previous) : Formed connectionColumn common.roleAccountId profile := by
  intro key other
  by_cases own : key = "id"
  · rw [own, loginForm_other _ (by decide)]
    rfl
  · rw [savedConnection_updated laws saved same decoded paths other own]
    exact updated_formed (loginForm_idempotent connectionColumn_idempotent _ _)

end

end

end NetworkGateway.Store
