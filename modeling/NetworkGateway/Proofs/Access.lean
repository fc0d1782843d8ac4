import NetworkGateway.Library.Surroundings
import NetworkGateway.Proofs.Confinement
import NetworkGateway.Proofs.References

/-! A connection that has a proxy is tested through that proxy or not at all. -/

namespace NetworkGateway.Connectors

open Library.Interaction Library.Result Program

section

variable {Token : Type} (N : Libraries Token)

def AddressOf (host : String) (port : Port) (past : List (Event Command)) (address : Address) : Prop :=
  ((N.ipAddress host).isSome ∧ address = ⟨host, port.1, []⟩) ∨
    ∃ timeout addresses info, Event.mk (Command.awaitLookup host port timeout) (.found addresses) ∈ past ∧
      info ∈ addresses ∧ address = info.address

/-- A TCP connection goes to the endpoint, and only the endpoint's name is looked up. -/
def OnlyTo (host : String) (port : Port) (past : List (Event Command)) (α : Type) (command : Command α) : Prop :=
  (∀ address, command.opens = some address → AddressOf N host port past address) ∧
    ∀ target, command.looksUp = some target → target = (host, port)

variable {N} {host : String} {port : Port} {deadline : Deadline}

theorem AddressOf.mono {past now : List (Event Command)} {address : Address} (known : AddressOf N host port past address)
    (grown : past <+: now) : AddressOf N host port now address := by
  rcases known with literal | ⟨timeout, addresses, info, asked, listed, same⟩
  · exact .inl literal
  · exact .inr ⟨timeout, addresses, info, grown.subset asked, listed, same⟩

theorem quiet_onlyTo (past : List (Event Command)) (α : Type) (command : Command α) (quiet : Quiet α command) :
    OnlyTo N host port past α command := by
  constructor
  · intro address opens
    rw [quiet.opens] at opens
    cases opens
  · intro target looksUp
    rw [quiet.looksUp] at looksUp
    cases looksUp

theorem inert_onlyTo (past : List (Event Command)) (α : Type) (command : Command α) (inert : Inert α command) :
    OnlyTo N host port past α command := quiet_onlyTo past α command inert.quiet

def AllOf (N : Libraries Token) (host : String) (port : Port) (past : List (Event Command))
    (addresses : List AddressInfo) : Prop :=
  ∀ info ∈ addresses, AddressOf N host port past info.address

theorem AllOf.mono {past now : List (Event Command)} {addresses : List AddressInfo}
    (known : AllOf N host port past addresses) (grown : past <+: now) : AllOf N host port now addresses :=
  fun info member => (known info member).mono grown

theorem resolve_onlyTo (past : List (Event Command)) :
    wp (OnlyTo N host port) (resolve N deadline host port)
      (fun now outcome => ∀ addresses, outcome = .ok addresses → AllOf N host port now addresses) past := by
  unfold resolve
  cases literal : N.ipAddress host with
  | some address =>
      intro addresses returned
      rw [← Except.ok.inj returned]
      intro info member
      rw [List.mem_singleton.mp member]
      exact .inl ⟨by rw [literal]; rfl, rfl⟩
  | none =>
      have raised : ∀ (now : List (Event Command)) (e : Raised) addresses,
          Except.error e = .ok addresses → AllOf N host port now addresses := nofun
      apply (remaining_inert deadline).wp_bind inert_onlyTo raised
      intro left now _
      apply (acquireSlot_inert left).wp_bind inert_onlyTo raised
      intro acquired now _
      split
      · -- the lookup is for the endpoint, and its answer is recorded before it is used
        refine ⟨⟨nofun, fun target same => (Option.some.inj same).symm⟩, fun _ => ?_⟩
        apply (remaining_inert deadline).wp_bind inert_onlyTo raised
        intro left now _
        refine ⟨⟨nofun, nofun⟩, fun answer => ?_⟩
        cases answer with
        | pending => exact raised _ _
        | failed => exact raised _ _
        | found addresses =>
            cases addresses with
            | nil => exact raised _ _
            | cons first rest =>
                intro addresses returned
                rw [← Except.ok.inj returned]
                intro info member
                exact .inr ⟨left, first :: rest, info, List.mem_append_right _ List.mem_cons_self, member, rfl⟩
      · exact raised _ _

theorem connectFirst_onlyTo (stage : String) (infos : List AddressInfo) (past : List (Event Command))
    (known : AllOf N host port past infos) :
    wp (OnlyTo N host port) (connectFirst deadline stage infos) (fun _ _ => True) past := by
  induction infos generalizing past with
  | nil => trivial
  | cons info rest ih =>
      have done : ∀ (now : List (Event Command)) (e : Raised), True := fun _ _ => trivial
      apply (socket_inert info).wp_bind inert_onlyTo done
      intro sock opened grown
      have known := known.mono grown
      apply (own_inert sock).wp_bind inert_onlyTo done
      intro sock owned grown
      have known := known.mono grown
      apply (remaining_inert deadline).wp_bind inert_onlyTo done
      intro left now grown
      have known := known.mono grown
      apply (settimeout_inert sock left).wp_bind inert_onlyTo done
      intro _ now grown
      have known := known.mono grown
      have further : ∀ (connected : Bool) later, now <+: later →
          wp (OnlyTo N host port) (if connected then return sock else connectFirst deadline stage rest)
            (fun _ _ => True) later := by
        intro connected later grown
        cases connected with
        | true => trivial
        | false => exact ih later (fun info member => (known info (List.mem_cons_of_mem _ member)).mono grown)
      apply wp_bind
      apply wp_catching
      refine ⟨⟨?_, nofun⟩, fun answer => ?_⟩
      · intro address opens
        rw [← Option.some.inj opens]
        exact known info List.mem_cons_self
      · have recorded := List.prefix_append now [Event.mk (Command.connect sock info.address) answer]
        cases answer with
        | ok _ => exact further true _ recorded
        | error raised =>
            apply wp_mono _ ((refused_inert deadline sock raised).wp inert_onlyTo _)
            intro later outcome grown
            cases outcome with
            | ok connected => exact further connected later (recorded.trans grown)
            | error e => trivial

theorem connectTcp_onlyTo (stage : String) (past : List (Event Command)) :
    wp (OnlyTo N host port) (connectTcp N deadline host port stage) (fun _ _ => True) past := by
  apply wp_bind
  apply wp_mono _ (resolve_onlyTo past)
  intro now outcome known
  cases outcome with
  | ok addresses => exact connectFirst_onlyTo stage addresses now (known addresses rfl)
  | error e => trivial

theorem openStream_onlyTo (kind : ProxyType) (endpoint : Endpoint) (device : Device) (demoMode : Bool)
    (past : List (Event Command)) :
    wp (OnlyTo N endpoint.networkHost endpoint.port) (openStream N deadline device (.proxy kind endpoint) demoMode)
      (fun _ _ => True) past := by
  apply wp_bind
  apply wp_mono _ (connectTcp_onlyTo _ past)
  intro now outcome _
  cases outcome with
  | ok stream =>
      have through := throughProxy_quiet N deadline kind endpoint device demoMode stream
      apply through.wp_bind quiet_onlyTo (fun _ _ => trivial)
      intro stream later _
      have last : Confined Inert (do
          let _ ← remaining deadline
          return stream) := (remaining_inert deadline).bind (fun _ => Confined.pure _)
      exact wp_mono (fun _ _ _ => trivial) (last.wp inert_onlyTo later)
  | error e => trivial

end

end NetworkGateway.Connectors

namespace NetworkGateway.ConnectionTests

open Library.Interaction Library.Result Program Connectors

section

variable {Token : Type} {N : Libraries Token} {deadline : Deadline}

theorem authenticate_onlyTo (kind : ProxyType) (endpoint : Endpoint) (device : Device) (demoMode : Bool)
    (past : List (Event Command)) :
    wp (OnlyTo N endpoint.networkHost endpoint.port)
      (authenticate N deadline device (.proxy kind endpoint) demoMode) (fun _ _ => True) past := by
  apply wp_bind
  apply wp_mono _ (openStream_onlyTo kind endpoint device demoMode past)
  intro now outcome _
  cases outcome with
  | ok stream =>
      have after : Confined Quiet (do
          let detail ← login N deadline device demoMode stream
          let _ ← remaining deadline
          return detail) :=
        (login_quiet N deadline device demoMode stream).bind
          (fun _ => ((remaining_inert deadline).mono fun _ _ => Inert.quiet).bind (fun _ => Confined.pure _))
      exact wp_mono (fun _ _ _ => trivial) (after.wp quiet_onlyTo now)
  | error e => trivial

theorem underDeadline_onlyTo (kind : ProxyType) (endpoint : Endpoint) (device : Device) (seconds : Timeout)
    (demoMode : Bool) (past : List (Event Command)) :
    wp (OnlyTo N endpoint.networkHost endpoint.port)
      (underDeadline N device (.proxy kind endpoint) seconds demoMode) (fun _ _ => True) past := by
  apply monotonic_inert.wp_bind inert_onlyTo (fun _ _ => trivial)
  intro now started _
  apply (startTimer_inert seconds.1).settle.wp_bind inert_onlyTo (fun _ _ => trivial)
  intro entered running _
  cases entered with
  | error raised => trivial
  | ok _ =>
      apply wp_bind
      apply wp_settle
      apply wp_mono _ (authenticate_onlyTo kind endpoint device demoMode running)
      intro later outcome _
      have after : Confined Inert (do
          Net.closeDeadline
          report ⟨now + seconds.1⟩ outcome) :=
        closeDeadline_inert.bind (fun _ => report_inert _ outcome)
      exact wp_mono (fun _ _ _ => trivial) (after.wp inert_onlyTo later)

/-- A connector of another type than `direct` is read as a proxy. -/
theorem connectorType_proxy {connector : Dict} {kind : Option ProxyType}
    (proxied : connector.lookup "type" ≠ some (.str "direct"))
    (accepted : connectorType (Dict.get connector "type") = .ok kind) : kind.isSome := by
  unfold connectorType at accepted
  rw [Dict.get_eq] at accepted
  cases held : connector.lookup "type" with
  | none =>
      rw [held] at accepted
      cases accepted
  | some value =>
      rw [held, Option.getD_some] at accepted
      cases value with
      | str name =>
          simp only [inSet, Value.isOneOf, ok_bind, bind_eq_ok, raiseWhen_ok, pure_eq, Except.ok.injEq] at accepted
          rcases accepted with ⟨_, known, rfl⟩
          have differs : name ≠ "direct" := fun same => proxied (by rw [held, same])
          have listed := List.contains_iff_mem.mp ((Bool.not_eq_false' _).mp known)
          simp only [List.mem_cons, List.not_mem_nil, or_false] at listed
          rcases listed with rfl | rfl | rfl | rfl | rfl
          · exact absurd rfl differs
          · rfl
          · rfl
          · rfl
          · rfl
      | none | bool | int | float => cases accepted
      | list | dict => cases accepted

structure OwnEndpoint (N : Libraries Token) (connector : Dict) (demoMode : Bool) (endpoint : Endpoint) : Prop where
  host : Connectors.host N (Dict.get connector "host") = .ok endpoint.host
  port : Connectors.port N (Dict.get connector "port") = .ok endpoint.port
  networkHost : networkHost N demoMode endpoint.host = .ok endpoint.networkHost

theorem validateProfile_proxy {profile connector : Dict} {demoMode : Bool} {device : Device} {access : Connector}
    {seconds : Timeout} (held : profile.lookup "connector" = some (.dict connector))
    (proxied : connector.lookup "type" ≠ some (.str "direct"))
    (accepted : validateProfile N (.dict profile) demoMode = .ok (device, access, seconds)) :
    ∃ kind endpoint, access = .proxy kind endpoint ∧ OwnEndpoint N connector demoMode endpoint := by
  simp only [validateProfile, bind_eq_ok, asObject, Except.ok.injEq, exists_eq_left', pure_eq, Prod.mk.injEq]
    at accepted
  rcases accepted with ⟨protocol, _, _, _, entries, object, kind, chosen, _, _, _, _, host, _, port, _, address,
    addressed, timeout, _, networkHost, _, endpoint, placed, _, _, _, _, _, _, _, rfl, _⟩
  have same : entries = connector := by
    rw [Dict.getOr, held] at object
    exact (Except.ok.inj object).symm
  rw [same] at chosen addressed placed
  have some := connectorType_proxy proxied chosen
  cases kind with
  | none => cases some
  | some kind =>
      simp only [proxyAddress, bind_eq_ok, pure_eq, Except.ok.injEq] at addressed
      rcases addressed with ⟨ownHost, hostRead, ownPort, portRead, rfl⟩
      simp only [proxyEndpoint, bind_eq_ok, pure_eq, Except.ok.injEq] at placed
      rcases placed with ⟨ownNetworkHost, resolved, rfl⟩
      exact ⟨kind, _, rfl, hostRead, portRead, resolved⟩

/-- A TCP connection goes to the connector's own host and port, and no other name is looked up. -/
def ThroughOwn (N : Libraries Token) (connector : Dict) (demoMode : Bool) (past : List (Event Command)) (α : Type)
    (command : Command α) : Prop :=
  (∀ address, command.opens = some address → ∃ endpoint, OwnEndpoint N connector demoMode endpoint ∧
    AddressOf N endpoint.networkHost endpoint.port past address) ∧
  ∀ target, command.looksUp = some target → ∃ endpoint, OwnEndpoint N connector demoMode endpoint ∧
    target = (endpoint.networkHost, endpoint.port)

theorem inert_throughOwn {connector : Dict} {demoMode : Bool} (past : List (Event Command)) (α : Type)
    (command : Command α) (inert : Inert α command) : ThroughOwn N connector demoMode past α command := by
  constructor
  · intro address opens
    rw [inert.quiet.opens] at opens
    cases opens
  · intro target looksUp
    rw [inert.quiet.looksUp] at looksUp
    cases looksUp

theorem outcome_throughOwn {profile connector : Dict} {demoMode : Bool}
    (held : profile.lookup "connector" = some (.dict connector))
    (proxied : connector.lookup "type" ≠ some (.str "direct")) (past : List (Event Command)) :
    wp (ThroughOwn N connector demoMode) (outcome N (.dict profile) demoMode) (fun _ _ => True) past := by
  unfold outcome
  cases accepted : validateProfile N (.dict profile) demoMode with
  | error raised => trivial
  | ok checked =>
      rcases checked with ⟨device, access, seconds⟩
      rcases validateProfile_proxy held proxied accepted with ⟨kind, endpoint, rfl, own⟩
      apply wp_weaken _ (underDeadline_onlyTo kind endpoint device seconds demoMode past)
      intro past α command only
      constructor
      · intro address opens
        exact ⟨endpoint, own, only.1 address opens⟩
      · intro target looksUp
        exact ⟨endpoint, own, only.2 target looksUp⟩

/-- Whatever the peers answer, a test of a profile with a proxy connector opens TCP
connections to the endpoint of that connector alone. -/
theorem runConnectionTest_throughOwn {profile connector : Dict} {demoMode : Bool}
    (held : profile.lookup "connector" = some (.dict connector))
    (proxied : connector.lookup "type" ≠ some (.str "direct")) {events : List (Event Command)}
    {result : Except Raised Dict} (runs : Runs (runConnectionTest N (.dict profile) demoMode) events result)
    (before : List (Event Command)) (event : Event Command) (later : List (Event Command))
    (split : events = before ++ event :: later) : ThroughOwn N connector demoMode before _ event.command := by
  have met : wp (ThroughOwn N connector demoMode) (runConnectionTest N (.dict profile) demoMode)
      (fun _ _ => True) [] := by
    apply monotonic_inert.wp_bind inert_throughOwn (fun _ _ => trivial)
    intro started now _
    apply wp_bind
    apply wp_mono _ (outcome_throughOwn held proxied now)
    intro later outcome _
    cases outcome with
    | ok _ =>
        apply monotonic_inert.wp_bind inert_throughOwn (fun _ _ => trivial)
        intro finished last _
        trivial
    | error e => trivial
  exact (wp_sound runs met).1 before event later split

end

end NetworkGateway.ConnectionTests

namespace NetworkGateway.Store

open Library.Dict Library.Result Library.Run Library.Table

section

variable {Token : Type} {P : Platform Token} {self : GatewayStore} {db : Db Token}

/-! Resolution returns whenever the vault opens what is stored. -/

structure Opens (P : Platform Token) (store : GatewayStore) (db : Db Token) : Prop where
  roles : ∀ role ∈ db.roleAccounts, (P.decrypt store.key role.secrets).isSome
  proxies : ∀ proxy ∈ db.proxies, (P.decrypt store.key proxy.secrets).isSome
  connections : ∀ connection ∈ db.connections, (P.decrypt store.key connection.secrets).isSome

theorem decrypt_held (laws : P.VaultLaws) {key : String} {iv : Nat} {held : Dict}
    (opens : (P.decrypt self.key (P.encrypt key iv (.dict held))).isSome) :
    Secrets.decrypt P self (P.encrypt key iv (.dict held)) = .ok (.dict held) := by
  rcases Option.isSome_iff_exists.mp opens with ⟨read, found⟩
  have same := laws.authentic key self.key iv (.dict held) read found
  simp [Secrets.decrypt, found, same]

theorem SecretsWithin.opens (laws : P.VaultLaws) {token : Token} {keys : List String}
    (within : SecretsWithin P token keys) (opens : (P.decrypt self.key token).isSome) :
    ∃ held, Secrets.decrypt P self token = .ok (.dict held) ∧ Within held keys := by
  rcases within with ⟨key, iv, held, rfl, listed⟩
  exact ⟨held, decrypt_held laws opens, listed⟩

theorem roleCredentials_returns (laws : P.VaultLaws) (sound : InventorySound P db) (opens : Opens P self db)
    {id : String} (present : (find RoleAccountRow.id db.roleAccounts id).isSome) :
    ∃ credentials, roleCredentials P self db (.str id) = .ok credentials := by
  rcases Option.isSome_iff_exists.mp present with ⟨role, found⟩
  have member := (find_mem found).1
  rcases (sound.roles role member).opens laws (opens.roles role member) with ⟨held, opened, _⟩
  exact ⟨_, by simp [roleCredentials, found, row, opened, asDict]; rfl⟩

theorem withRole_returns (laws : P.VaultLaws) (sound : InventorySound P db) (opens : Opens P self db)
    {profile : Dict} {reference : Option String}
    (named : profile.lookup "role_account_id" = some (Value.ofOption reference))
    (references : References RoleAccountRow.id db.roleAccounts reference) :
    ∃ resolved, withRole P self db profile = .ok resolved := by
  cases reference with
  | none =>
      refine ⟨profile, withRole_ok.mpr (.inl ⟨?_, rfl⟩)⟩
      rw [Dict.get_eq, named]
      rfl
  | some id =>
      have known := references id rfl
      rcases roleCredentials_returns laws sound opens known.2 with ⟨credentials, found⟩
      have truthy : (Value.ofOption (some id)).truthy = true := by simpa using known.1
      have get : Dict.get profile "role_account_id" = .str id := by
        rw [Dict.get_eq, named]
        rfl
      refine ⟨_, withRole_ok.mpr (.inr ⟨credentials, ?_, ?_, rfl⟩)⟩
      · rw [get]
        exact truthy
      · rw [get]
        exact found

theorem resolveProxy_returns (laws : P.VaultLaws) (sound : InventorySound P db) (opens : Opens P self db)
    {proxy : ProxyRow Token} (member : proxy ∈ db.proxies) :
    ∃ connector, resolveProxy P self db proxy = .ok connector := by
  have shape := sound.proxies proxy member
  rcases shape.secrets.opens laws (opens.proxies proxy member) with ⟨held, opened, listed⟩
  have bare : Dict.get held "connector" = .none := by
    rw [Dict.get_eq, listed.lookup (by decide)]
    rfl
  have decoded : storedProfile P self proxy.columns proxy.configuration proxy.secrets =
      .ok (merge (merge proxy.columns proxy.configuration) (erase held "connector")) := by
    refine storedProfile_ok.mpr ⟨held, opened, addConnectorSecrets_ok.mpr (.inl ⟨?_, rfl⟩)⟩
    rw [bare]
    rfl
  have named := shape.column laws decoded "role_account_id" (by decide)
  rcases withRole_returns laws sound opens named shape.role with ⟨connector, credentialed⟩
  refine ⟨connector, ?_⟩
  rw [resolveProxy, decoded, ok_bind]
  exact credentialed

theorem ConnectionSound.decodes (laws : P.VaultLaws) {roles : List (RoleAccountRow Token)}
    {proxies : List (ProxyRow Token)} {connection : ConnectionRow Token}
    (shape : ConnectionSound P roles proxies connection)
    (opens : (P.decrypt self.key connection.secrets).isSome) :
    ∃ profile, storedProfile P self connection.columns connection.configuration connection.secrets = .ok profile := by
  rcases shape.secrets with ⟨key, iv, held, same, _, inner⟩
  rw [same] at opens
  have opened := decrypt_held laws opens
  rw [← same] at opened
  rcases inner with absent | ⟨inner, present, _⟩
  · refine ⟨_, storedProfile_ok.mpr ⟨held, opened, addConnectorSecrets_ok.mpr (.inl ⟨?_, rfl⟩)⟩⟩
    rw [Dict.get_eq, absent]
    rfl
  · cases truthy : (Value.dict inner).truthy with
    | false =>
        refine ⟨_, storedProfile_ok.mpr ⟨held, opened, addConnectorSecrets_ok.mpr (.inl ⟨?_, rfl⟩)⟩⟩
        rw [Dict.get_eq, present]
        exact truthy
    | true =>
        have base : ∃ connector, Dict.getOr (merge (merge connection.columns connection.configuration)
            (erase held "connector")) "connector" (.dict []) = .dict connector := by
          unfold Dict.getOr
          rw [lookup_merge, lookup_erase, if_pos rfl, Option.none_or, lookup_merge]
          have column : connection.columns.lookup "connector" = none := rfl
          cases unset : connection.proxyId with
          | none =>
              rcases shape.inline unset with ⟨connector, configured, _⟩
              exact ⟨connector, by rw [configured]; rfl⟩
          | some id =>
              have external := shape.external (by rw [unset]; nofun)
              exact ⟨[], by rw [external, column]; rfl⟩
        rcases base with ⟨connector, base⟩
        have get : Dict.get held "connector" = .dict inner := by
          rw [Dict.get_eq, present]
          rfl
        have filled : (Dict.get held "connector").truthy = true := by
          rw [get]
          exact truthy
        exact ⟨_, storedProfile_ok.mpr ⟨held, opened,
          addConnectorSecrets_ok.mpr (.inr ⟨connector, inner, filled, base, get, rfl⟩)⟩⟩

theorem resolveConnection_returns (laws : P.VaultLaws) (sound : InventorySound P db) (opens : Opens P self db)
    {connection : ConnectionRow Token} (member : connection ∈ db.connections) :
    ∃ profile, resolveConnection P self db connection.id = .ok profile := by
  have shape := sound.connections connection member
  have found := find_of_mem sound.connectionKeys member
  rcases shape.decodes laws (opens.connections connection member) with ⟨stored, decoded⟩
  have role := shape.column laws decoded "role_account_id" (by decide)
  have proxy := shape.column laws decoded "proxy_id" (by decide)
  have roleNamed : (setDefault stored "client_type" (.str "network")).lookup "role_account_id" =
      some (Value.ofOption connection.roleAccountId) := by
    rw [lookup_setDefault, role]
    rfl
  rcases withRole_returns laws sound opens roleNamed shape.role with ⟨credentialed, credentials⟩
  have proxyNamed : credentialed.lookup "proxy_id" = some (Value.ofOption connection.proxyId) := by
    rw [withRole_lookup laws sound credentials (by decide), lookup_setDefault, proxy]
    rfl
  have accessed : ∃ accessed, withProxy P self db credentialed = .ok accessed := by
    cases set : connection.proxyId with
    | none =>
        refine ⟨_, withProxy_ok.mpr (.inl ⟨?_, rfl⟩)⟩
        rw [Dict.get_eq, proxyNamed, set]
        rfl
    | some id =>
        have known := shape.proxy id set
        rcases findProxy_known known.2 with ⟨held, located, member, _⟩
        rcases resolveProxy_returns laws sound opens member with ⟨connector, resolved⟩
        have get : Dict.get credentialed "proxy_id" = .str id := by
          rw [Dict.get_eq, proxyNamed, set]
          rfl
        have truthy : (Value.ofOption (some id)).truthy = true := by simpa using known.1
        refine ⟨_, withProxy_ok.mpr (.inr ⟨held, connector, ?_, ?_, resolved, rfl⟩)⟩
        · rw [get]
          exact truthy
        · rw [get]
          exact located
  rcases accessed with ⟨accessed, access⟩
  exact ⟨_, resolveConnection_ok.mpr ⟨connection, stored, credentialed, accessed, found, decoded, credentials,
    access, rfl⟩⟩

/-! The connector of a resolved profile. -/

/-- A connector with its own proxy: a saved one, or an inline one that is not `direct`. -/
def Proxied (connection : ConnectionRow Token) : Prop :=
  connection.proxyId ≠ none ∨
    ∃ connector, connection.configuration.lookup "connector" = some (.dict connector) ∧
      connector.lookup "type" ≠ some (.str "direct")

/-- The connector a profile is resolved to: of a proxy type, and the saved proxy if there is one. -/
structure ThroughProxy (db : Db Token) (connection : ConnectionRow Token) (connector : Dict) : Prop where
  kind : connector.lookup "type" ≠ some (.str "direct")
  saved : ∀ id, connection.proxyId = some id → ∃ proxy ∈ db.proxies, proxy.id = id ∧
    connector.lookup "id" = some (.str id) ∧ connector.lookup "type" = some (.str proxy.type.text) ∧
    connector.lookup "host" = some (.str proxy.host) ∧ connector.lookup "port" = some (.int proxy.port.1)

theorem resolveProxy_column (laws : P.VaultLaws) (sound : InventorySound P db) {proxy : ProxyRow Token}
    (member : proxy ∈ db.proxies) {connector : Dict} (resolved : resolveProxy P self db proxy = .ok connector)
    (key : String) (plain : key ∉ "connector" :: configurationFields ++ Secrets.secretFields)
    (own : key ∉ credentialFields) : connector.lookup key = proxy.columns.lookup key := by
  simp only [resolveProxy, bind_eq_ok] at resolved
  rcases resolved with ⟨profile, decoded, credentialed⟩
  rw [withRole_lookup laws sound credentialed own]
  exact (sound.proxies proxy member).column laws decoded key plain

theorem resolved_saved (laws : P.VaultLaws) (sound : InventorySound P db) {connection : ConnectionRow Token}
    (member : connection ∈ db.connections) {id : String} (set : connection.proxyId = some id) {profile : Dict}
    (resolved : resolveConnection P self db connection.id = .ok profile) :
    ∃ connector, profile.lookup "connector" = some (.dict connector) ∧ ThroughProxy db connection connector := by
  have shape := sound.connections connection member
  rcases resolveConnection_ok.mp resolved with ⟨held, stored, credentialed, accessed, found, decoded, credentials,
    access, rfl⟩
  have same := Option.some.inj ((find_of_mem sound.connectionKeys member).symm.trans found)
  rw [← same] at decoded
  have column := shape.column laws decoded "proxy_id" (by decide)
  have known := shape.proxy id set
  have named : Dict.get credentialed "proxy_id" = .str id := by
    rw [Dict.get_eq, withRole_lookup laws sound credentials (by decide), lookup_setDefault, column]
    change (((some (Value.ofOption connection.proxyId)).or _).getD _) = _
    rw [set]
    rfl
  have truthy : (Value.str id).truthy = true := by simpa using known.1
  rcases withProxy_ok.mp access with ⟨falsy, _⟩ | ⟨proxy, connector, _, located, through, rfl⟩
  · rw [named, truthy] at falsy
    cases falsy
  · rw [named] at located
    simp only [findProxy, row_ok] at located
    have proxyMember := (find_mem located).1
    have proxyId := (find_mem located).2
    have read := resolveProxy_column laws sound proxyMember through
    refine ⟨connector, ?_, ?_, ?_⟩
    · rw [lookup_setDefault, lookup_set, if_pos rfl]
      rfl
    · rw [read "type" (by decide) (by decide)]
      intro direct
      have text := Value.str.inj (Option.some.inj direct)
      exact proxy.type.text_ne_direct text
    · intro other refers
      have sameId : other = id := Option.some.inj (refers.symm.trans set)
      refine ⟨proxy, proxyMember, by rw [sameId, proxyId], ?_, ?_, ?_, ?_⟩
      · rw [read "id" (by decide) (by decide), sameId, ← proxyId]
        rfl
      · rw [read "type" (by decide) (by decide)]
        rfl
      · rw [read "host" (by decide) (by decide)]
        rfl
      · rw [read "port" (by decide) (by decide)]
        rfl

theorem ConnectionSound.inlined (laws : P.VaultLaws) {roles : List (RoleAccountRow Token)}
    {proxies : List (ProxyRow Token)} {connection : ConnectionRow Token}
    (shape : ConnectionSound P roles proxies connection) {inline stored : Dict}
    (configured : connection.configuration.lookup "connector" = some (.dict inline))
    (decoded : storedProfile P self connection.columns connection.configuration connection.secrets = .ok stored) :
    ∃ connector, stored.lookup "connector" = some (.dict connector) ∧ connector.lookup "type" = inline.lookup "type" := by
  rcases storedProfile_ok.mp decoded with ⟨secrets, opened, added⟩
  have base : (merge (merge connection.columns connection.configuration) (erase secrets "connector")).lookup
      "connector" = some (.dict inline) := by
    rw [lookup_merge, lookup_erase, if_pos rfl, Option.none_or, lookup_merge, configured]
    rfl
  rcases addConnectorSecrets_ok.mp added with ⟨_, rfl⟩ | ⟨connector, entries, _, read, given, rfl⟩
  · exact ⟨inline, base, rfl⟩
  · rw [Dict.getOr, base] at read
    have sameConnector : inline = connector := Value.dict.inj read
    refine ⟨merge connector entries, by rw [lookup_set, if_pos rfl], ?_⟩
    rcases shape.secrets with ⟨_, _, plain, token, _, inner⟩
    rw [token] at opened
    have equal := Value.dict.inj (Secrets.decrypt_authentic self laws opened)
    rw [Dict.get_eq, equal] at given
    rcases inner with absent | ⟨inner, present, within⟩
    · rw [absent] at given
      cases given
    · rw [present] at given
      have sameInner : inner = entries := Value.dict.inj given
      rw [lookup_merge, ← sameInner, within.lookup (by decide), Option.none_or, sameConnector]

theorem resolved_inline (laws : P.VaultLaws) (sound : InventorySound P db) {connection : ConnectionRow Token}
    (member : connection ∈ db.connections) (unset : connection.proxyId = none) {inline : Dict}
    (configured : connection.configuration.lookup "connector" = some (.dict inline))
    (proxied : inline.lookup "type" ≠ some (.str "direct")) {profile : Dict}
    (resolved : resolveConnection P self db connection.id = .ok profile) :
    ∃ connector, profile.lookup "connector" = some (.dict connector) ∧ ThroughProxy db connection connector := by
  have shape := sound.connections connection member
  rcases resolveConnection_ok.mp resolved with ⟨held, stored, credentialed, accessed, found, decoded, credentials,
    access, rfl⟩
  have same := Option.some.inj ((find_of_mem sound.connectionKeys member).symm.trans found)
  rw [← same] at decoded
  have column := shape.column laws decoded "proxy_id" (by decide)
  have named : Dict.get credentialed "proxy_id" = .none := by
    rw [Dict.get_eq, withRole_lookup laws sound credentials (by decide), lookup_setDefault, column]
    change (((some (Value.ofOption connection.proxyId)).or _).getD _) = _
    rw [unset]
    rfl
  rcases shape.inlined laws configured decoded with ⟨connector, stored, type⟩
  rcases withProxy_ok.mp access with ⟨_, rfl⟩ | ⟨_, _, truthy, _⟩
  · refine ⟨connector, ?_, ?_, ?_⟩
    · rw [lookup_setDefault, withRole_lookup laws sound credentials (by decide), lookup_setDefault, stored]
      rfl
    · rw [type]
      exact proxied
    · intro id refers
      rw [unset] at refers
      cases refers
  · rw [named] at truthy
    cases truthy

theorem resolved_proxied (laws : P.VaultLaws) (sound : InventorySound P db) {connection : ConnectionRow Token}
    (member : connection ∈ db.connections) (proxied : Proxied connection) {profile : Dict}
    (resolved : resolveConnection P self db connection.id = .ok profile) :
    ∃ connector, profile.lookup "connector" = some (.dict connector) ∧ ThroughProxy db connection connector := by
  cases set : connection.proxyId with
  | some id => exact resolved_saved laws sound member set resolved
  | none =>
      rcases proxied with saved | ⟨inline, configured, kind⟩
      · exact absurd set saved
      · exact resolved_inline laws sound member set configured kind resolved

open Library.Interaction Connectors ConnectionTests in
/-- A connection with a proxy resolves to that proxy, and a test of what it resolves to
opens TCP connections to the proxy's own host and port alone, whatever its peers do. -/
theorem no_direct_access (N : Libraries Token) (laws : N.VaultLaws) (calls : List Call) (self : GatewayStore)
    {connection : ConnectionRow Token}
    (member : connection ∈ (run (after N.toPlatform) Db.empty calls).connections) (proxied : Proxied connection) :
    (self.closed = false → Opens N.toPlatform self (run (after N.toPlatform) Db.empty calls) →
      ∃ profile, resolve N.toPlatform self (run (after N.toPlatform) Db.empty calls) connection.id = .ok profile) ∧
    ∀ profile, resolve N.toPlatform self (run (after N.toPlatform) Db.empty calls) connection.id = .ok profile →
      ∃ connector, profile.lookup "connector" = some (.dict connector) ∧
        ThroughProxy (run (after N.toPlatform) Db.empty calls) connection connector ∧
        ∀ demoMode events outcome, Program.Runs (runConnectionTest N (.dict profile) demoMode) events outcome →
          ∀ before event later, events = before ++ event :: later →
            ThroughOwn N connector demoMode before _ event.command := by
  have sound : InventorySound N.toPlatform (run (after N.toPlatform) Db.empty calls) := run_inventory calls
  constructor
  · intro opened opens
    rcases resolveConnection_returns laws sound opens member with ⟨profile, resolved⟩
    exact ⟨profile, reading_ok.mpr ⟨opened, resolved⟩⟩
  · intro profile returned
    have resolved := (reading_ok.mp returned).2
    rcases resolved_proxied laws sound member proxied resolved with ⟨connector, held, through⟩
    refine ⟨connector, held, through, ?_⟩
    intro demoMode events outcome runs before event later split
    exact runConnectionTest_throughOwn held through.kind runs before event later split

def hopDevice : List Call :=
  [⟨Bench.store, Bench.fresh "hop", .save "proxies" (.dict
      [("name", .str "hop"), ("type", .str "socks5"), ("host", .str "203.0.113.5"), ("port", .int 1080)]) none⟩,
   ⟨Bench.store, Bench.fresh "device", .save "connections" (.dict
      [("name", .str "edge"), ("host", .str "192.0.2.1"), ("port", .int 22), ("protocol", .str "ssh"),
       ("username", .str "ops"), ("password", .str "hunter2"), ("proxy_id", .str "hop")]) none⟩]

section

open Library.Interaction Connectors ConnectionTests

/-- Surroundings in which every name stands for itself and every connection is refused. -/
def refusing : Surroundings Command Unit where
  answer command s := match command with
    | .monotonic => some (0, s)
    | .expired | .own _ => some (false, s)
    | .startTimer _ => some (.ok (), s)
    | .close _ | .closeDeadline | .startLookup _ _ => some ((), s)
    | .acquireSlot _ => some (true, s)
    | .awaitLookup host number _ => some (.found [⟨.inet, 1, 6, ⟨host, number.1, []⟩⟩], s)
    | .socket _ _ _ => some (.ok 3, s)
    | .settimeout _ _ => some (.ok (), s)
    | .connect _ _ => some (.error .os, s)
    | _ => none

theorem no_direct_access_proxied :
    ∃ profile connector events result, resolve Bench.libraries.toPlatform Bench.store
        (run (after Bench.libraries.toPlatform) Db.empty hopDevice) "device" = .ok profile ∧
      profile.lookup "connector" = some (.dict connector) ∧ connector.lookup "id" = some (.str "hop") ∧
      Program.Runs (runConnectionTest Bench.libraries (.dict profile) false) events (.ok result) ∧
      Dict.get result "stage" = .str "proxy_connect" ∧ ∀ before event later, events = before ++ event :: later →
        ThroughOwn Bench.libraries connector false before _ event.command := by
  have stored : ∃ connection, connection ∈ (run (after Bench.libraries.toPlatform) Db.empty hopDevice).connections ∧
      connection.id = "device" ∧ connection.proxyId = some "hop" := ⟨_, List.mem_cons_self, rfl, rfl⟩
  rcases stored with ⟨connection, member, id, saved⟩
  have opens : Opens Bench.libraries.toPlatform Bench.store
      (run (after Bench.libraries.toPlatform) Db.empty hopDevice) :=
    ⟨List.forall_mem_nil _, List.forall_mem_singleton.mpr rfl, List.forall_mem_singleton.mpr rfl⟩
  have access := no_direct_access Bench.libraries Platform.bench_vaultLaws hopDevice Bench.store member
    (.inl (by rw [saved]; nofun))
  rcases access.1 rfl opens with ⟨profile, resolved⟩
  rcases access.2 profile resolved with ⟨connector, held, through, own⟩
  rcases through.saved "hop" saved with ⟨proxy, _, _, same, _⟩
  rw [id] at resolved
  have stage : ((resolve Bench.libraries.toPlatform Bench.store
      (run (after Bench.libraries.toPlatform) Db.empty hopDevice) "device").toOption.bind fun profile =>
        ((runConnectionTest Bench.libraries (.dict profile) false).play refusing ()).bind fun played =>
          played.1.toOption.map (fun result => Dict.get result "stage")) = some (.str "proxy_connect") := by
    decide +kernel
  rw [resolved, Except.toOption, Option.bind_some] at stage
  rcases Program.play_returns stage with ⟨events, result, runs, shown⟩
  exact ⟨profile, connector, events, result, resolved, held, same, runs, shown, own false events _ runs⟩

end

end

end NetworkGateway.Store
