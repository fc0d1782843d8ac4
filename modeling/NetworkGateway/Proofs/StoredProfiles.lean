import NetworkGateway.Proofs.Checks
import NetworkGateway.Proofs.InventorySteps
import NetworkGateway.Proofs.RowShapes

/-! What a save checks and stores, field by field, for proxies and connections. -/

namespace NetworkGateway.Store

open Library.Dict Library.Result Library.Table

/-! Credentials. -/

/-- `_INLINE_FIELDS | {"known_hosts_path"}`. -/
abbrev checkedFields : List String := inlineFields ++ ["known_hosts_path"]

/-- A field the payload names is a bounded text; `null` clears a path. -/
def FieldText (payload : Dict) (key : String) : Prop :=
  ∀ value, payload.lookup key = some value →
    key ∈ trustPaths ∧ value = .none ∨ ∃ read, text value "credential or trust field" false 65536 = .ok read

def clearedField (payload profile : Dict) (key : String) : Dict :=
  if key ∈ trustPaths ∧ payload.lookup key = some .none then erase profile key else profile

/-- The paths the payload sets to `null` are taken out. -/
def cleared (payload profile : Dict) : Dict := checkedFields.foldl (clearedField payload) profile

theorem lookup_clearedField (payload profile : Dict) (field key : String) :
    (clearedField payload profile field).lookup key =
      if key = field ∧ key ∈ trustPaths ∧ payload.lookup key = some .none then none else profile.lookup key := by
  unfold clearedField
  by_cases clears : field ∈ trustPaths ∧ payload.lookup field = some .none
  · rw [if_pos clears, lookup_erase]
    by_cases same : key = field
    · subst same
      simp [clears]
    · simp [same]
  · rw [if_neg clears, if_neg]
    intro all
    rw [all.1] at all
    exact clears all.2

theorem lookup_clearedFields (payload : Dict) (fields : List String) (profile : Dict) (key : String) :
    (fields.foldl (clearedField payload) profile).lookup key =
      if key ∈ fields ∧ key ∈ trustPaths ∧ payload.lookup key = some .none then none else profile.lookup key := by
  induction fields generalizing profile with
  | nil => simp
  | cons field rest ih =>
      rw [List.foldl_cons, ih, lookup_clearedField]
      by_cases clears : key ∈ trustPaths ∧ payload.lookup key = some .none
      · by_cases here : key = field
        · subst here
          simp [clears]
        · simp [here, clears]
      · simp [clears]

theorem lookup_cleared (payload profile : Dict) (key : String) :
    (cleared payload profile).lookup key =
      if key ∈ trustPaths ∧ payload.lookup key = some .none then none else profile.lookup key := by
  have within : trustPaths ⊆ checkedFields := by decide
  unfold cleared
  rw [lookup_clearedFields]
  by_cases clears : key ∈ trustPaths ∧ payload.lookup key = some .none
  · rw [if_pos ⟨within clears.1, clears⟩, if_pos clears]
  · rw [if_neg clears, if_neg (fun all => clears all.2)]

theorem inlineField_ok {payload profile changed : Dict} {key : String} :
    inlineField payload profile key = .ok changed ↔ FieldText payload key ∧ changed = clearedField payload profile key := by
  unfold inlineField FieldText clearedField
  cases held : payload.lookup key with
  | none => simp [eq_comm]
  | some value =>
      dsimp only
      by_cases clears : key ∈ trustPaths ∧ value = .none
      · have both : (trustPaths.contains key && value == .none) = true := by simp [clears]
        rw [if_pos both]
        simp [clears, eq_comm]
      · have neither : ¬(trustPaths.contains key && value == .none) = true := by simpa using clears
        have stays : ¬(key ∈ trustPaths ∧ some value = some Value.none) := by simpa using clears
        rw [if_neg neither, if_neg stays]
        simp only [bind_eq_ok, pure_eq, Except.ok.injEq, exists_and_right, Option.some.injEq, forall_eq', clears,
          false_or, eq_comm (a := changed)]

theorem inlineFields_ok {payload : Dict} (fields : List String) {profile changed : Dict} :
    fields.foldlM (inlineField payload) profile = .ok changed ↔
      (∀ key ∈ fields, FieldText payload key) ∧ changed = fields.foldl (clearedField payload) profile := by
  induction fields generalizing profile with
  | nil => simp [eq_comm]
  | cons field rest ih =>
      simp only [List.foldlM_cons, bind_eq_ok, inlineField_ok, ih, List.forall_mem_cons, List.foldl_cons]
      constructor
      · rintro ⟨_, ⟨first, rfl⟩, later, same⟩
        exact ⟨⟨first, later⟩, same⟩
      · rintro ⟨⟨first, later⟩, same⟩
        exact ⟨_, ⟨first, rfl⟩, later, same⟩

abbrev holds (profile : Dict) (key : String) : Bool := (Dict.get profile key).truthy

abbrev keyed (held : String → Bool) : Bool := held "private_key_path" || held "private_key"

/-- A password excludes a key, and a passphrase needs one. -/
structure Consistent (held : String → Bool) : Prop where
  method : held "password" = true → keyed held = false
  passphrase : held "key_passphrase" = true → keyed held = true

theorem consistent_iff {held : String → Bool} :
    Consistent held ↔ (held "password" && keyed held) = false ∧ (held "key_passphrase" && !keyed held) = false := by
  constructor
  · intro consistent
    constructor
    · cases password : held "password" with
      | false => rfl
      | true => rw [consistent.method password]; rfl
    · cases passphrase : held "key_passphrase" with
      | false => rfl
      | true => rw [consistent.passphrase passphrase]; rfl
  · intro conflicts
    constructor
    · intro password
      simpa [password] using conflicts.1
    · intro passphrase
      have second := conflicts.2
      rw [passphrase, Bool.true_and, Bool.not_eq_false'] at second
      exact second

theorem inlineCredentials_ok {profile payload changed : Dict} :
    inlineCredentials profile payload = .ok changed ↔
      (∀ key ∈ checkedFields, FieldText payload key) ∧ changed = cleared payload profile ∧ Consistent (holds changed) := by
  simp only [inlineCredentials, bind_eq_ok, inlineFields_ok, raiseWhen_ok, pure_eq, Except.ok.injEq]
  constructor
  · rintro ⟨held, ⟨texts, same⟩, _, first, _, second, rfl⟩
    exact ⟨texts, same, consistent_iff.mpr ⟨first, second⟩⟩
  · rintro ⟨texts, same, consistent⟩
    have conflicts := consistent_iff.mp consistent
    exact ⟨changed, ⟨texts, same⟩, (), conflicts.1, (), conflicts.2, rfl⟩

/-! What a row decodes to. -/

theorem lookup_secretData (working : Dict) (key : String) :
    (secretData working).lookup key =
      if key ∈ Secrets.secretFields then (working.lookup key).filter (·.truthy) else none := by
  have distinct : Secrets.secretFields.Nodup := by decide
  unfold secretData
  rw [lookup_filter_value (distinct.sublist (keys_select _ working)), lookup_select]
  split
  · rfl
  · rfl

def keptField (working : Dict) (key : String) : Option Value :=
  if key ∈ Secrets.secretFields then (working.lookup key).filter (·.truthy)
  else if key ∈ ["username", "private_key_path", "known_hosts_path"] then working.lookup key
  else none

section

variable {Token : Type} {P : Platform Token} {self caller : GatewayStore} {db : Db Token}

theorem decoded_lookup (laws : P.VaultLaws) {key : String} {iv : Nat}
    {columns configuration working more sealed profile : Dict} {secrets : Token}
    (decoded : storedProfile P caller columns configuration secrets = .ok profile)
    (configured : configuration = configurationOf working ++ more)
    (sealing : secrets = P.encrypt key iv (.dict (secretData working ++ sealed))) (inner : Within sealed ["connector"])
    {field : String} (other : field ≠ "connector") :
    profile.lookup field = (keptField working field).or ((more.lookup field).or (columns.lookup field)) := by
  rw [configured, sealing] at decoded
  rcases storedProfile_ok.mp decoded with ⟨held, opened, -⟩
  have plain : held = secretData working ++ sealed := Value.dict.inj (Secrets.decrypt_authentic caller laws opened)
  have unsealed : sealed.lookup field = none := inner.lookup (by simpa using other)
  rw [storedProfile_lookup decoded opened other, plain, List.lookup_append, List.lookup_append, unsealed, Option.or_none,
    lookup_secretData, configurationOf, lookup_select]
  unfold keptField
  by_cases secret : field ∈ Secrets.secretFields
  · have visible : field ∉ ["username", "private_key_path", "known_hosts_path"] := by
      simp only [Secrets.secretFields, List.mem_cons, List.not_mem_nil, or_false] at secret
      rcases secret with rfl | rfl | rfl | rfl <;> decide
    rw [if_pos secret, if_pos secret, if_neg visible, Option.none_or]
  · rw [if_neg secret, if_neg secret, Option.none_or]
    by_cases visible : field ∈ ["username", "private_key_path", "known_hosts_path"]
    · rw [if_pos visible, Option.or_assoc]
    · rw [if_neg visible, Option.none_or, Option.none_or]

/-! What a save accepts for proxies and connections alike. -/

/-- The profile a save works on: the payload over the stored one, without what a role replaces. -/
def working (previous payload : Dict) (roleId : Option String) : Dict :=
  cleared payload (if roleId.isSome then without (merge previous payload) inlineFields else merge previous payload)

theorem lookup_working (previous payload : Dict) (roleId : Option String) (key : String) :
    (working previous payload roleId).lookup key =
      if key ∈ trustPaths ∧ payload.lookup key = some .none ∨ roleId.isSome ∧ key ∈ inlineFields then none
      else (payload.lookup key).or (previous.lookup key) := by
  unfold working
  rw [lookup_cleared]
  by_cases clears : key ∈ trustPaths ∧ payload.lookup key = some .none
  · rw [if_pos clears, if_pos (.inl clears)]
  · rw [if_neg clears]
    by_cases role : roleId.isSome
    · by_cases replaced : key ∈ inlineFields
      · rw [if_pos role, lookup_without, if_pos replaced, if_pos (.inr ⟨role, replaced⟩)]
      · rw [if_pos role, lookup_without, if_neg replaced, if_neg (by simp [clears, replaced]), lookup_merge]
    · rw [if_neg role, if_neg (by simp [clears, role]), lookup_merge]

structure CommonSaved (db : Db Token) (payload previous : Dict) (common : CommonValues) : Prop where
  name : text (Dict.get (merge previous payload) "name") "name" true 200 = .ok common.name
  host : text (Dict.get (merge previous payload) "host") "host" true 255 = .ok common.host
  port : port (Dict.get (merge previous payload) "port") = .ok common.port
  role : reference (Dict.get (merge previous payload) "role_account_id") "role reference"
    (fun id => (find RoleAccountRow.id db.roleAccounts id).isSome) = .ok common.roleAccountId
  exclusive : common.roleAccountId.isSome = true → ∀ field ∈ inlineFields, holds payload field = false
  texts : ∀ key ∈ checkedFields, FieldText payload key
  profile : common.profile = working previous payload common.roleAccountId
  consistent : Consistent (holds common.profile)

theorem applyRole_ok {payload profile applied : Dict} {roleId : Option String} :
    applyRole payload profile roleId = .ok applied ↔
      (roleId.isSome = true → ∀ field ∈ inlineFields, holds payload field = false) ∧
      applied = if roleId.isSome then without profile inlineFields else profile := by
  unfold applyRole
  cases roleId.isSome with
  | false => exact ⟨fun same => ⟨nofun, (Except.ok.inj same).symm⟩, fun applies => congrArg Except.ok applies.2.symm⟩
  | true =>
      constructor
      · intro applies
        rcases (bind_eq_ok _ _ _).mp applies with ⟨_, checked, same⟩
        have unset := (raiseWhen_ok _ _ _).mp checked
        refine ⟨?_, (Except.ok.inj same).symm⟩
        intro _ field listed
        exact Bool.eq_false_iff.mpr (List.any_eq_false.mp unset field listed)
      · intro applies
        have unset : inlineFields.any (fun field => (Dict.get payload field).truthy) = false := by
          apply List.any_eq_false.mpr
          intro field listed
          exact Bool.eq_false_iff.mp (applies.1 rfl field listed)
        rw [if_pos rfl, unset, raiseWhen_false, ok_bind, applies.2]
        rfl

theorem saveCommon_ok {payload previous : Dict} {common : CommonValues} :
    saveCommon db payload previous = .ok common ↔ CommonSaved db payload previous common := by
  simp only [saveCommon, bind_eq_ok, applyRole_ok, inlineCredentials_ok, pure_eq, Except.ok.injEq]
  constructor
  · rintro ⟨name, named, host, hosted, number, ported, roleId, referred, _, ⟨exclusive, rfl⟩, profile,
      ⟨texts, same, consistent⟩, rfl⟩
    exact ⟨named, hosted, ported, referred, exclusive, texts, same, consistent⟩
  · intro saved
    exact ⟨_, saved.name, _, saved.host, _, saved.port, _, saved.role, _, ⟨saved.exclusive, rfl⟩, _,
      ⟨saved.texts, saved.profile, saved.consistent⟩, rfl⟩

def savedProxy (P : Platform Token) (self : GatewayStore) (iv : Nat) (id : String) (common : CommonValues)
    (kind : ProxyType) : ProxyRow Token :=
  ⟨id, common.name, kind, common.host, common.port, common.roleAccountId, configurationOf common.profile,
    Secrets.encrypt P self iv (.dict (secretData common.profile))⟩

theorem saveProxy_ok {iv : Nat} {id : String} {payload previous : Dict} {proxy : ProxyRow Token} :
    saveProxy P self db iv id payload previous = .ok proxy ↔
      ∃ common kind, CommonSaved db payload previous common ∧
        proxyType (Dict.get common.profile "type") = .ok kind ∧ proxy = savedProxy P self iv id common kind := by
  simp only [saveProxy, bind_eq_ok, saveCommon_ok, pure_eq, Except.ok.injEq, eq_comm (b := proxy), exists_and_left,
    savedProxy]

theorem savedProxy_decoded (laws : P.VaultLaws) {iv : Nat} {id : String} {common : CommonValues} {kind : ProxyType}
    {profile : Dict} (decoded : storedProfile P caller (savedProxy P self iv id common kind).columns
      (savedProxy P self iv id common kind).configuration (savedProxy P self iv id common kind).secrets = .ok profile)
    {field : String} (other : field ≠ "connector") :
    profile.lookup field =
      (keptField common.profile field).or ((savedProxy P self iv id common kind).columns.lookup field) := by
  have configured : (savedProxy P self iv id common kind).configuration = configurationOf common.profile ++ [] :=
    (List.append_nil _).symm
  have sealing : (savedProxy P self iv id common kind).secrets =
      P.encrypt self.key iv (.dict (secretData common.profile ++ [])) := by
    rw [List.append_nil]
    rfl
  rw [decoded_lookup laws decoded configured sealing (Within.nil _) other]
  rfl

theorem saveProxy_decodes (laws : P.VaultLaws) {iv : Nat} {id : String} {payload previous profile : Dict}
    {proxy : ProxyRow Token} (saved : saveProxy P self db iv id payload previous = .ok proxy)
    (decoded : storedProfile P caller proxy.columns proxy.configuration proxy.secrets = .ok profile) :
    ∃ common kind, CommonSaved db payload previous common ∧
      proxyType (Dict.get common.profile "type") = .ok kind ∧ proxy.roleAccountId = common.roleAccountId ∧
      ∀ field ≠ "connector", profile.lookup field = (keptField common.profile field).or (proxy.columns.lookup field) := by
  rcases saveProxy_ok.mp saved with ⟨common, kind, accepted, typed, rfl⟩
  exact ⟨common, kind, accepted, typed, rfl, fun field other => savedProxy_decoded laws decoded other⟩

/-! The inline connector. -/

theorem connectorKind_ok {value : Value} {kind : Option ProxyType} :
    connectorKind value = .ok kind ↔ value = .str (kindText kind) := by
  constructor
  · intro known
    unfold connectorKind at known
    split at known
    · cases known
      rfl
    · rename_i named _
      split at known
      · rename_i found
        cases known
        have same := List.find?_some found
        rw [beq_iff_eq] at same
        rw [← same]
        rfl
      · cases known
    · cases known
  · intro named
    rw [named]
    cases kind with
    | none => rfl
    | some kind => cases kind <;> rfl

theorem checkFields_iff {value : Value} {allowed : List String} {entries : Dict} :
    checkFields value allowed = .ok entries ↔ value = .dict entries ∧ Within entries allowed := by
  constructor
  · intro accepted
    exact checkFields_ok accepted
  · intro accepted
    have all : entries.all (fun e => allowed.contains e.1) = true := by
      apply List.all_eq_true.mpr
      intro entry member
      simpa using accepted.2 entry member
    rw [accepted.1]
    exact if_pos all

def connectorType (before value : Dict) : Value := Dict.getOr (merge before value) "type" (.str "direct")

/-- The connector `_connector` works on: a connector of another type keeps nothing of the stored one. -/
def workingConnector (before value : Dict) : Dict :=
  if !before.isEmpty && Dict.get before "type" != connectorType before value then value else merge before value

structure ConnectorSaved (P : Platform Token) (before value : Dict) (kind : ProxyType) (host : String) (number : Port)
    (result : Dict) : Prop where
  typed : connectorType before value = .str kind.text
  hosted : text (Dict.get (workingConnector before value) "host") "proxy host" true 255 = .ok host
  ported : port (Dict.get (workingConnector before value) "port") = .ok number
  timed : ∀ given, (workingConnector before value).lookup "timeout_seconds" = some given →
    ∃ seconds, timeout given = .ok seconds
  texts : ∀ key ∈ checkedFields, FieldText value key
  written : result = cleared value (set (set (set (workingConnector before value) "type" (.str kind.text))
    "host" (.str host)) "port" (.int number.1))
  consistent : Consistent (holds result)
  key : holds result "private_key" = true →
    P.validatePrivateKey (Dict.get result "private_key") (Dict.get result "key_passphrase") = true

theorem connectorTimeout_ok {profile : Dict} {u : Unit} : connectorTimeout profile = .ok u ↔
    ∀ given, profile.lookup "timeout_seconds" = some given → ∃ seconds, timeout given = .ok seconds := by
  unfold connectorTimeout
  cases held : profile.lookup "timeout_seconds" with
  | none => simp
  | some value => simp

theorem connectorKey_ok {profile : Dict} {u : Unit} : connectorKey P profile = .ok u ↔
    (holds profile "private_key" = true →
      P.validatePrivateKey (Dict.get profile "private_key") (Dict.get profile "key_passphrase") = true) := by
  unfold connectorKey Secrets.validatePrivateKey
  by_cases pasted : holds profile "private_key" = true
  · rw [if_pos pasted]
    cases P.validatePrivateKey (Dict.get profile "private_key") (Dict.get profile "key_passphrase") with
    | false => simp [storeError, pasted]
    | true => simp [storeError]
  · rw [if_neg pasted]
    exact ⟨fun _ held => absurd held pasted, fun _ => rfl⟩

theorem proxyConnector_ok {kind : ProxyType} {before value result : Dict}
    (typed : connectorType before value = .str kind.text) :
    proxyConnector P kind (workingConnector before value) value = .ok result ↔
      ∃ host number, ConnectorSaved P before value kind host number result := by
  simp only [proxyConnector, bind_eq_ok, connectorTimeout_ok, connectorKey_ok, inlineCredentials_ok, pure_eq,
    Except.ok.injEq]
  constructor
  · rintro ⟨host, hosted, number, ported, _, timed, _, ⟨texts, written, consistent⟩, _, key, rfl⟩
    refine ⟨host, number, typed, ?_, ?_, ?_, texts, written, consistent, key⟩
    · simpa using hosted
    · simpa using ported
    · simpa using timed
  · rintro ⟨host, number, saved⟩
    refine ⟨host, ?_, number, ?_, (), ?_, result, ⟨saved.texts, saved.written, saved.consistent⟩, (), saved.key, rfl⟩
    · simpa using saved.hosted
    · simpa using saved.ported
    · simpa using saved.timed

theorem direct_bare {entries : Dict} :
    entries.any (fun e => e.1 != "type" && e.2 != .none && e.2 != .str "") = false ↔
      ∀ entry ∈ entries, entry.1 = "type" ∨ entry.2 = .none ∨ entry.2 = .str "" := by
  simp only [List.any_eq_false, Bool.and_eq_true, bne_iff_ne, ne_eq, not_and_or, not_not, or_assoc]

/-- `_connector` returns the direct connector, or one of a proxy type. -/
theorem connector_ok {value previous : Value} {result : Dict} :
    connector P value previous = .ok result ↔ ∃ entries before, value = .dict entries ∧ Within entries connectorFields ∧
      orEmpty previous = .ok before ∧
      (connectorType before entries = .str "direct" ∧ result = [("type", .str "direct")] ∧
          (∀ entry ∈ entries, entry.1 = "type" ∨ entry.2 = .none ∨ entry.2 = .str "") ∨
        ∃ kind host number, ConnectorSaved P before entries kind host number result) := by
  have works : ∀ {before entries : Dict} {kind : ProxyType}, connectorType before entries = .str kind.text →
      (if !before.isEmpty && Dict.get before "type" != .str (kindText (some kind)) then entries
        else merge before entries) = workingConnector before entries := by
    intro before entries kind typed
    rw [workingConnector, typed]
    rfl
  simp only [connector, bind_eq_ok, checkFields_iff, connectorKind_ok]
  constructor
  · rintro ⟨entries, ⟨given, listed⟩, before, held, kind, typed, accepted⟩
    refine ⟨entries, before, given, listed, held, ?_⟩
    cases kind with
    | none =>
        rcases (bind_eq_ok _ _ _).mp accepted with ⟨_, bare, same⟩
        exact .inl ⟨typed, (Except.ok.inj same).symm, direct_bare.mp ((raiseWhen_ok _ _ _).mp bare)⟩
    | some kind =>
        rw [works typed] at accepted
        exact .inr ⟨kind, (proxyConnector_ok typed).mp accepted⟩
  · rintro ⟨entries, before, given, listed, held, ⟨typed, rfl, bare⟩ | ⟨kind, host, number, saved⟩⟩
    · refine ⟨entries, ⟨given, listed⟩, before, held, none, typed, ?_⟩
      rw [direct_bare.mpr bare, raiseWhen_false]
      rfl
    · refine ⟨entries, ⟨given, listed⟩, before, held, some kind, saved.typed, ?_⟩
      rw [works saved.typed]
      exact (proxyConnector_ok saved.typed).mpr ⟨host, number, saved⟩

/-! Connections. -/

/-- The access a connection is saved with: a saved proxy, or an inline connector. -/
inductive AccessSaved (P : Platform Token) (payload previous profile : Dict) : Option String → Option Dict → Prop where
  | saved (id : String) (unnamed : Dict.has payload "connector" = false) :
      AccessSaved P payload previous profile (some id) none
  | inline (result : Dict)
      (accepted : connector P
        (Dict.getOr payload "connector" (Dict.getOr profile "connector" (.dict [("type", .str "direct")])))
        (if Dict.has payload "connector" then Dict.get previous "connector" else .none) = .ok result) :
      AccessSaved P payload previous profile none (some result)

def configuredAccess : Option Dict → Dict
  | none => []
  | some result => [("connector", .dict (Secrets.publicEntries result))]

def sealedAccess : Option Dict → Dict
  | none => []
  | some result => if (secretData result).isEmpty then [] else [("connector", .dict (secretData result))]

theorem saveAccess_iff {payload previous profile : Dict} {proxyId : Option String} {entries : Dict × Dict} :
    saveAccess P payload previous profile proxyId = .ok entries ↔
      ∃ access, AccessSaved P payload previous profile proxyId access ∧
        entries = (configuredAccess access, sealedAccess access) := by
  unfold saveAccess
  cases proxyId with
  | some id =>
      constructor
      · intro saved
        rcases (bind_eq_ok _ _ _).mp saved with ⟨_, unnamed, same⟩
        exact ⟨none, .saved id ((raiseWhen_ok _ _ _).mp unnamed), (Except.ok.inj same).symm⟩
      · intro found
        rcases found with ⟨access, saved, rfl⟩
        cases saved with
        | saved id unnamed =>
            rw [Option.isSome_some, if_pos rfl, unnamed]
            rfl
  | none =>
      constructor
      · intro saved
        rcases (bind_eq_ok _ _ _).mp saved with ⟨result, accepted, same⟩
        exact ⟨some result, .inline result accepted, (Except.ok.inj same).symm⟩
      · intro found
        rcases found with ⟨access, saved, rfl⟩
        cases saved with
        | inline result accepted =>
            rw [Option.isSome_none, if_neg Bool.false_ne_true, accepted]
            rfl

structure ConnectionSaved (P : Platform Token) (db : Db Token) (payload previous : Dict) (common : CommonValues)
    (kind : Protocol) (client : Value) (seconds : Timeout) (proxyId : Option String) (access : Option Dict) : Prop where
  shared : CommonSaved db payload previous common
  spoken : protocol (Dict.get common.profile "protocol") = .ok kind
  chosen : clientType (Dict.getOr common.profile "client_type" (.str "network")) = .ok client
  timed : timeout (Dict.getOr common.profile "timeout_seconds" (.int 10)) = .ok seconds
  referred : reference (Dict.get common.profile "proxy_id") "proxy reference"
    (fun id => (find ProxyRow.id db.proxies id).isSome) = .ok proxyId
  accessed : AccessSaved P payload previous common.profile proxyId access

def savedConnection (P : Platform Token) (self : GatewayStore) (iv : Nat) (id : String) (common : CommonValues)
    (kind : Protocol) (client : Value) (seconds : Timeout) (proxyId : Option String) (access : Option Dict) :
    ConnectionRow Token :=
  ⟨id, common.name, kind, common.host, common.port, seconds, common.roleAccountId, proxyId,
    configurationOf common.profile ++ ("client_type", client) :: configuredAccess access,
    Secrets.encrypt P self iv (.dict (secretData common.profile ++ sealedAccess access))⟩

theorem saveConnection_ok {iv : Nat} {id : String} {payload previous : Dict} {connection : ConnectionRow Token} :
    saveConnection P self db iv id payload previous = .ok connection ↔
      ∃ common kind client seconds proxyId access,
        ConnectionSaved P db payload previous common kind client seconds proxyId access ∧
        connection = savedConnection P self iv id common kind client seconds proxyId access := by
  simp only [saveConnection, bind_eq_ok, saveCommon_ok, saveAccess_iff, pure_eq, Except.ok.injEq]
  constructor
  · rintro ⟨common, shared, kind, spoken, client, chosen, seconds, timed, proxyId, referred, _, ⟨access, saved, rfl⟩, rfl⟩
    exact ⟨common, kind, client, seconds, proxyId, access, ⟨shared, spoken, chosen, timed, referred, saved⟩, rfl⟩
  · rintro ⟨common, kind, client, seconds, proxyId, access, saved, rfl⟩
    exact ⟨common, saved.shared, kind, saved.spoken, client, saved.chosen, seconds, saved.timed, proxyId,
      saved.referred, _, ⟨access, saved.accessed, rfl⟩, rfl⟩

def storedConnector (result : Dict) : Dict := merge (Secrets.publicEntries result) (secretData result)

theorem lookup_storedConnector (result : Dict) (key : String) :
    (storedConnector result).lookup key =
      if key ∈ Secrets.secretFields then (result.lookup key).filter (·.truthy)
      else (result.lookup key).map Secrets.publicFields := by
  unfold storedConnector
  rw [lookup_merge, lookup_secretData, Secrets.lookup_publicEntries]
  split
  · rw [Option.or_none]
  · rw [Option.none_or]

theorem sealedAccess_within (access : Option Dict) : Within (sealedAccess access) ["connector"] := by
  cases access with
  | none => exact Within.nil _
  | some result => exact Within.choose (Within.nil _) (Within.cons _ List.mem_cons_self (Within.nil _)) _

/-- The decoded connector has the public entries from the configuration and the rest from the vault. -/
theorem decoded_connector (laws : P.VaultLaws) {key : String} {iv : Nat}
    {columns configuration base profile : Dict} {client : Value} {access : Option Dict} {secrets : Token}
    (decoded : storedProfile P caller columns configuration secrets = .ok profile)
    (configured : configuration = configurationOf base ++ ("client_type", client) :: configuredAccess access)
    (sealing : secrets = P.encrypt key iv (.dict (secretData base ++ sealedAccess access)))
    (column : columns.lookup "connector" = none) :
    profile.lookup "connector" = access.map (fun result => .dict (storedConnector result)) := by
  rw [configured, sealing] at decoded
  rcases storedProfile_ok.mp decoded with ⟨held, opened, added⟩
  have plain : held = secretData base ++ sealedAccess access := Value.dict.inj (Secrets.decrypt_authentic caller laws opened)
  have data : (secretData base).lookup "connector" = none := (secretData_within base).lookup (by decide)
  have visible : (configurationOf base).lookup "connector" = none := (configurationOf_within base).lookup (by decide)
  have other : ("connector" == "client_type") = false := by decide
  have read : (merge (merge columns (configurationOf base ++ ("client_type", client) :: configuredAccess access))
      (erase held "connector")).lookup "connector" = (configuredAccess access).lookup "connector" := by
    rw [lookup_merge, lookup_erase, if_pos rfl, Option.none_or, lookup_merge, column, Option.or_none,
      List.lookup_append, visible, Option.none_or, List.lookup_cons, other]
  have given : held.lookup "connector" = (sealedAccess access).lookup "connector" := by
    rw [plain, List.lookup_append, data, Option.none_or]
  rcases addConnectorSecrets_ok.mp added with ⟨falsy, rfl⟩ | ⟨inner, entries, truthy, bound, found, rfl⟩
  · rw [read]
    cases access with
    | none => rfl
    | some result =>
        have bare : secretData result = [] := by
          by_contra filled
          rw [Dict.get_eq, given, sealedAccess, if_neg (by simpa using filled)] at falsy
          simp [filled] at falsy
        rw [Option.map_some, storedConnector, bare, merge_nil]
        rfl
  · rw [lookup_set, if_pos rfl]
    rw [Dict.get_eq, given] at found truthy
    rw [Dict.getOr, read] at bound
    cases access with
    | none => cases truthy
    | some result =>
        by_cases bare : secretData result = []
        · rw [sealedAccess, bare] at truthy
          cases truthy
        · rw [sealedAccess, if_neg (by simpa using bare)] at found
          have hidden : secretData result = entries := by simpa using found
          have shown : Secrets.publicEntries result = inner := by simpa [configuredAccess] using bound
          rw [Option.map_some, storedConnector, hidden, shown]

structure ConnectionDecoded (common : CommonValues) (client : Value) (access : Option Dict)
    (connection : ConnectionRow Token) (profile : Dict) : Prop where
  fields : ∀ field ∉ ["connector", "client_type"],
    profile.lookup field = (keptField common.profile field).or (connection.columns.lookup field)
  client : profile.lookup "client_type" = some client
  connector : profile.lookup "connector" = access.map (fun result => .dict (storedConnector result))

theorem savedConnection_decoded (laws : P.VaultLaws) {iv : Nat} {id : String} {common : CommonValues}
    {kind : Protocol} {client : Value} {seconds : Timeout} {proxyId : Option String} {access : Option Dict}
    {connection : ConnectionRow Token} {profile : Dict}
    (same : connection = savedConnection P self iv id common kind client seconds proxyId access)
    (decoded : storedProfile P caller connection.columns connection.configuration connection.secrets = .ok profile) :
    ConnectionDecoded common client access connection profile := by
  have configured : connection.configuration =
      configurationOf common.profile ++ ("client_type", client) :: configuredAccess access := by
    rw [same]
    rfl
  have sealing : connection.secrets = P.encrypt self.key iv (.dict (secretData common.profile ++ sealedAccess access)) := by
    rw [same]
    rfl
  have inner : Within (configuredAccess access) ["connector"] := by
    cases access with
    | none => exact Within.nil _
    | some result => exact Within.cons _ List.mem_cons_self (Within.nil _)
  constructor
  · intro field other
    simp only [List.mem_cons, List.not_mem_nil, or_false, not_or] at other
    rw [decoded_lookup laws decoded configured sealing (sealedAccess_within access) other.1, lookup_cons_key,
      if_neg other.2, inner.lookup (by simpa using other.1), Option.none_or]
  · rw [decoded_lookup laws decoded configured sealing (sealedAccess_within access) (by decide), lookup_cons_key, if_pos rfl]
    rfl
  · exact decoded_connector laws decoded configured sealing rfl

theorem saveConnection_decodes (laws : P.VaultLaws) {iv : Nat} {id : String} {payload previous profile : Dict}
    {connection : ConnectionRow Token} (saved : saveConnection P self db iv id payload previous = .ok connection)
    (decoded : storedProfile P caller connection.columns connection.configuration connection.secrets = .ok profile) :
    ∃ common kind client seconds access,
      ConnectionSaved P db payload previous common kind client seconds connection.proxyId access ∧
      connection.roleAccountId = common.roleAccountId ∧ ConnectionDecoded common client access connection profile := by
  rcases saveConnection_ok.mp saved with ⟨common, kind, client, seconds, proxyId, access, accepted, same⟩
  have read := savedConnection_decoded laws same decoded
  rw [same] at read ⊢
  exact ⟨common, kind, client, seconds, access, accepted, rfl, read⟩

end

end NetworkGateway.Store
