import NetworkGateway.Bl.Factories
import NetworkGateway.Proofs.MappingKeys

/-! Connections to a device whose row a proxy is selected for. -/

namespace NetworkGateway.Factories

open Library.Interaction Library.Result Method

/-- A session with the proxy, on a connection of its own. -/
structure ToProxy (proxyHost : String) (request : LoginRequest) : Prop where
  hostname : request.hostname = proxyHost
  port : request.port = 22
  sock : request.sock = none

/-- The last answer was a channel to the target, on the transport of a session with the proxy. -/
def Tunnelled (proxyHost : String) (past : List (Event DeviceCommand)) (channel : Handle) (target : String × Int) : Prop :=
  ∃ client request transport source, ToProxy proxyHost request ∧
    [⟨.sshConnect client request, .ok ()⟩, ⟨.getTransport client, some transport⟩,
      ⟨.openChannel transport target source, .ok channel⟩] <:+ past

def Through (proxyHost : String) (past : List (Event DeviceCommand)) (sock : Option Handle) (target : String × Int) : Prop :=
  ∃ channel, sock = some channel ∧ Tunnelled proxyHost past channel target

/-- A command behind the events before it: a session with a device runs in a tunnel to its address, a connection
without a tunnel leads to the proxy. -/
def viaProxy (proxyHost : String) (past : List (Event DeviceCommand)) : (β : Type) → DeviceCommand β → Prop
  | _, .createConnection _ _ => False
  | _, .netconf request => Through proxyHost past request.sock (request.host, request.port)
  | _, .sshConnect _ request =>
      Through proxyHost past request.sock (request.hostname, request.port) ∨ ToProxy proxyHost request
  | _, _ => True

def Routed (proxyHost : String) (events : List (Event DeviceCommand)) : Prop :=
  ∀ before event later, events = before ++ event :: later → viaProxy proxyHost before _ event.command

section

variable {Token : Type} (site : Site Token)

/-- Every run of every sequence of operations. -/
def Honours (proxyHost : String) : DeviceClient → Prop
  | .netconf client => ∀ operations events outcome,
      Program.Runs (operate (performNetconf site) operations client) events outcome → Routed proxyHost events
  | .telnet client => ∀ operations events outcome,
      Program.Runs (operate (performTelnet site) operations client) events outcome → Routed proxyHost events

end

section

variable {Token : Type} {site : Site Token} {proxyHost : String}

/-! The tunnel. -/

theorem tryConnect_reaches :
    Meets (viaProxy proxyHost) (fun _ self => self.proxyHost = proxyHost ∧ self.proxyPort = 22) (ProxyClient.tryConnect site)
      (fun now result self => ∀ u, result = .ok u → ∃ client request, self.sshClient = some client ∧
        ToProxy proxyHost request ∧ [⟨.sshConnect client request, .ok ()⟩] <:+ now) := by
  unfold ProxyClient.tryConnect
  apply Meets.ask_bind (fun _ _ _ => trivial)
  intro client
  apply Meets.write_bind
  apply Meets.mono (p := fun _ self => self.proxyHost = proxyHost ∧ self.proxyPort = 22 ∧ self.sshClient = some client) _
    (fun _ _ _ met => met)
  · apply Meets.bind (Keeps.ask fun _ => trivial) (fun _ _ _ _ _ raised => nomatch raised)
    intro _
    apply Meets.read_bind
    intro self
    apply Meets.lift_bind (fun _ _ _ _ _ _ raised => nomatch raised)
    intro username _
    apply Meets.lift_bind (fun _ _ _ _ _ _ raised => nomatch raised)
    intro password _
    apply Meets.attempt
    · rintro past s ⟨rfl, host, port, -⟩
      exact .inr ⟨host, port, rfl⟩
    · rintro past s answer ⟨rfl, host, port, kept⟩ u rfl
      exact ⟨client, _, kept, ⟨host, port, rfl⟩, List.suffix_append _ _⟩
  · rintro past self ⟨before, rfl, _, rfl, host, port⟩
    exact ⟨host, port, rfl⟩

theorem connect_reaches :
    Meets (viaProxy proxyHost) (fun _ self => self.proxyHost = proxyHost ∧ self.proxyPort = 22) (ProxyClient.connect site)
      (fun now result self => ∀ u, result = .ok u → ∃ client request, self.sshClient = some client ∧
        ToProxy proxyHost request ∧ [⟨.sshConnect client request, .ok ()⟩] <:+ now) :=
  Meets.catching tryConnect_reaches (fun _ _ _ met => met) (fun _ => Meets.raise fun _ _ _ _ raised => nomatch raised)

theorem tryChannel_tunnels (destHost : String) (destPort : Int) :
    Meets (viaProxy proxyHost) (fun _ self => self = ProxyClient.new proxyHost) (ProxyClient.tryChannel site destHost destPort)
      (fun now result _ => ∀ channel, result = .ok channel → Tunnelled proxyHost now channel (destHost, destPort)) := by
  apply Meets.read_bind
  intro self
  apply Meets.pointwise
  rintro past s ⟨rfl, rfl⟩
  apply Meets.bind (q := fun now result self => ∀ u, result = .ok u → ∃ client request, self.sshClient = some client ∧
    ToProxy proxyHost request ∧ [⟨.sshConnect client request, .ok ()⟩] <:+ now)
  · apply connect_reaches.mono _ (fun _ _ _ met => met)
    rintro _ _ ⟨-, rfl⟩
    exact ⟨rfl, rfl⟩
  · exact fun _ _ _ _ _ raised => nomatch raised
  · intro _
    apply Meets.read_bind
    intro self
    cases kept : self.sshClient with
    | none => exact Meets.raise fun _ _ _ _ raised => nomatch raised
    | some client =>
        apply Meets.ask_bind (fun _ _ _ => trivial)
        intro transport
        cases transport with
        | none => exact Meets.raise fun _ _ _ _ raised => nomatch raised
        | some transport =>
            apply Meets.attempt (fun _ _ _ => trivial)
            rintro past s answer ⟨before, rfl, rfl, reached⟩ channel rfl
            rcases reached () rfl with ⟨other, request, same, proxied, earlier, rfl⟩
            cases kept.symm.trans same
            refine ⟨client, request, transport, (s.proxyHost, s.proxyPort), proxied, earlier, ?_⟩
            rw [List.append_assoc, List.append_assoc]
            rfl

theorem getChannel_tunnels (destHost : String) (destPort : Int) :
    Meets (viaProxy proxyHost) (fun _ self => self = ProxyClient.new proxyHost) (ProxyClient.getChannel site destHost destPort)
      (fun now result _ => ∀ channel, result = .ok channel → Tunnelled proxyHost now channel (destHost, destPort)) :=
  Meets.catching (tryChannel_tunnels destHost destPort) (fun _ _ _ met => met)
    (fun _ => Meets.raise fun _ _ _ _ raised => nomatch raised)

theorem getProxy_new {routerInfo : Dict} {proxy : ProxyClient} (selected : getProxy site routerInfo = .ok (some proxy)) :
    proxy = ProxyClient.new proxy.proxyHost := by
  unfold getProxy at selected
  split at selected
  · cases selected
  · cases selected
    rfl
  · cases selected
  · cases selected

theorem proxyChannel_tunnels {routerInfo : Dict} {proxy : ProxyClient}
    (selected : getProxy site routerInfo = .ok (some proxy)) {start : BaseNCCClient} (row : start.routerInfo = routerInfo)
    (port : Int) :
    Meets (viaProxy proxy.proxyHost) (fun _ self => self = start) (BaseNCCClient.proxyChannel site port)
      (fun now result self => self = start ∧ ∀ sock, result = .ok sock → Through proxy.proxyHost now sock (start.host, port)) := by
  apply Meets.read_bind
  intro self
  apply Meets.pointwise
  rintro past s ⟨rfl, rfl⟩
  rw [row, selected]
  apply Meets.lift_bind
  · exact fun _ _ _ raised => nomatch raised
  · intro _ same
    cases same
    apply Meets.bind (q := fun now result self => self = s ∧
      ∀ channel, result = .ok channel → Tunnelled proxy.proxyHost now channel (s.host, port))
    · apply Meets.onPart
      intro other
      apply Meets.pointwise
      rintro past part ⟨⟨-, rfl⟩, rfl⟩
      apply (getChannel_tunnels other.host port).mono
      · rintro _ _ ⟨-, rfl⟩
        exact getProxy_new selected
      · exact fun _ _ _ met => ⟨rfl, met⟩
    · exact fun _ _ _ met => ⟨met.1, fun _ raised => nomatch raised⟩
    · intro channel
      apply Meets.pure
      rintro now _ ⟨rfl, tunnelled⟩
      refine ⟨rfl, ?_⟩
      intro sock same
      cases same
      exact ⟨channel, rfl, tunnelled channel rfl⟩

/-! The NETCONF clients. -/

section

variable {routerInfo : Dict} {proxy : ProxyClient}

abbrev RoutedMethod {α : Type} (proxyHost : String) (routerInfo : Dict) (m : ClientMethod BaseNCCClient α) : Prop :=
  Keeps (viaProxy proxyHost) (fun self => self.routerInfo = routerInfo) m

theorem netconfConnect_routed (selected : getProxy site routerInfo = .ok (some proxy)) :
    RoutedMethod proxy.proxyHost routerInfo (BaseNCCClient.connect site) := by
  apply Keeps.read.bind
  intro self
  apply Keeps.ite Keeps.pure
  apply Keeps.catching _ (fun _ => Keeps.raise)
  apply Meets.read_bind
  intro self
  apply Meets.pointwise
  rintro past s ⟨rfl, row⟩
  apply Meets.bind ((proxyChannel_tunnels selected row s.port).mono (fun _ _ held => held.2) (fun _ _ _ met => met))
  · rintro now e _ ⟨rfl, -⟩
    exact row
  · intro sock
    apply Meets.lift_bind
    · rintro now e _ - ⟨rfl, -⟩
      exact row
    · intro auth _
      apply Meets.bind (q := fun _ _ self => self.routerInfo = routerInfo)
      · apply Meets.attempt
        · rintro now _ ⟨rfl, through⟩
          exact through sock rfl
        · rintro now _ answer ⟨rfl, -⟩
          exact row
      · exact fun _ _ _ held => held
      · exact fun _ => Keeps.write fun _ held => held

theorem tryConnectSsh_routed (selected : getProxy site routerInfo = .ok (some proxy)) :
    RoutedMethod proxy.proxyHost routerInfo (BaseNCCClient.tryConnectSsh site) := by
  unfold BaseNCCClient.tryConnectSsh
  apply (Keeps.ask fun _ => trivial).bind
  intro client
  apply Keeps.bind
  · exact Keeps.write fun _ held => held
  · intro _
    apply (Keeps.attempt fun _ => trivial).bind
    intro _
    apply Keeps.bind
    · unfold BaseNCCClient.loadKnownHosts
      exact Keeps.ite Keeps.pure (Keeps.attempt fun _ => trivial)
    · intro _
      apply (Keeps.ask fun _ => trivial).bind
      intro _
      apply Meets.read_bind
      intro self
      apply Meets.pointwise
      rintro past s ⟨rfl, row⟩
      apply Meets.bind ((proxyChannel_tunnels selected row s.sshPort).mono (fun _ _ held => held.2) (fun _ _ _ met => met))
      · rintro now e _ ⟨rfl, -⟩
        exact row
      · intro sock
        apply Meets.lift_bind
        · rintro now e _ - ⟨rfl, -⟩
          exact row
        · intro auth _
          apply Meets.attempt
          · rintro now _ ⟨rfl, through⟩
            exact .inl (through sock rfl)
          · rintro now _ answer ⟨rfl, -⟩
            exact row

theorem executeSshCommand_routed (selected : getProxy site routerInfo = .ok (some proxy)) (command : String) :
    RoutedMethod proxy.proxyHost routerInfo (BaseNCCClient.executeSshCommand site command) := by
  apply Keeps.bind
  · apply Keeps.read.bind
    intro self
    exact Keeps.ite Keeps.pure (Keeps.catching (tryConnectSsh_routed selected) fun _ => Keeps.raise)
  · intro _
    apply Keeps.read.bind
    intro self
    cases self.sshClient with
    | none => exact Keeps.raise
    | some client =>
        apply (Keeps.ask fun _ => trivial).bind
        intro transport
        cases transport with
        | none => exact Keeps.raise
        | some transport =>
            apply (Keeps.ask fun _ => trivial).bind
            intro active
            apply Keeps.ite _ Keeps.raise
            apply (Keeps.attempt fun _ => trivial).bind
            rintro ⟨stdout, stderr⟩
            exact (Keeps.attempt fun _ => trivial).bind fun _ => (Keeps.attempt fun _ => trivial).bind fun _ => Keeps.pure

theorem onSession_routed (selected : getProxy site routerInfo = .ok (some proxy))
    {request : Handle → DeviceCommand (Except Fault String)}
    (quiet : ∀ past session, viaProxy proxy.proxyHost past _ (request session)) :
    RoutedMethod proxy.proxyHost routerInfo (BaseNCCClient.onSession site request) := by
  apply (netconfConnect_routed selected).bind
  intro _
  apply Keeps.read.bind
  intro self
  cases self.session with
  | none => exact Keeps.raise
  | some session => exact Keeps.attempt fun past => quiet past session

theorem cleanup_routed : RoutedMethod proxyHost routerInfo BaseNCCClient.cleanup := by
  have closing : RoutedMethod proxyHost routerInfo BaseNCCClient.close := by
    apply Keeps.read.bind
    intro self
    cases self.session with
    | none => exact Keeps.pure
    | some session => exact (Keeps.attempt fun _ => trivial).bind fun _ => Keeps.write fun _ held => held
  have closingSsh : RoutedMethod proxyHost routerInfo BaseNCCClient.closeSsh := by
    apply Keeps.read.bind
    intro self
    cases self.sshClient with
    | none => exact Keeps.pure
    | some client => exact (Keeps.attempt fun _ => trivial).bind fun _ => Keeps.write fun _ held => held
  exact closing.bind fun _ => closingSsh.bind fun _ => Keeps.pure

theorem reply_routed (selected : getProxy site routerInfo = .ok (some proxy))
    {request : Handle → DeviceCommand (Except Fault String)} {form : String → Value}
    (quiet : ∀ past session, viaProxy proxy.proxyHost past _ (request session)) :
    RoutedMethod proxy.proxyHost routerInfo (do
      let reply ← BaseNCCClient.onSession site request
      return form reply) :=
  (onSession_routed selected quiet).bind fun _ => Keeps.pure

theorem setConfig_routed (selected : getProxy site routerInfo = .ok (some proxy)) (configData : String) :
    RoutedMethod proxy.proxyHost routerInfo (BaseNCCClient.setConfig site configData) :=
  reply_routed selected fun _ _ => trivial

theorem performNetconf_routed (selected : getProxy site routerInfo = .ok (some proxy)) (operation : Operation) :
    RoutedMethod proxy.proxyHost routerInfo (performNetconf site operation) := by
  cases operation with
  | showInterface interfaceName =>
      exact Keeps.read.bind fun _ => (executeSshCommand_routed selected _).bind fun _ => Keeps.pure
  | getConfig => exact reply_routed selected fun _ _ => trivial
  | setConfig configData => exact setConfig_routed selected configData
  | getOperationalState => exact reply_routed selected fun _ _ => trivial
  | configureInterface interfaceName configXml => exact setConfig_routed selected configXml
  | getBgp => exact Keeps.read.bind fun _ => reply_routed selected fun _ _ => trivial
  | setBgp configXml => exact setConfig_routed selected configXml
  | configureFirewall configXml => exact setConfig_routed selected configXml
  | cleanup => exact cleanup_routed

end

/-- What every operation keeps, every sequence of them keeps. -/
theorem operate_keeps {σ : Type} {safe : List (Event DeviceCommand) → (β : Type) → DeviceCommand β → Prop}
    {invariant : σ → Prop} {perform : Operation → ClientMethod σ Value}
    (kept : ∀ operation, Keeps safe invariant (perform operation)) (operations : List Operation) :
    Keeps safe invariant (operate perform operations) := by
  induction operations with
  | nil => exact Keeps.pure
  | cons operation rest ih => exact (Keeps.catching (kept operation) fun _ => Keeps.pure).bind fun _ => ih

theorem netconf_honours {routerInfo : Dict} {proxy : ProxyClient} (selected : getProxy site routerInfo = .ok (some proxy))
    {client : BaseNCCClient} (row : client.routerInfo = routerInfo) : Honours site proxy.proxyHost (.netconf client) := by
  intro operations events outcome runs
  exact Meets.safely (operate_keeps (performNetconf_routed selected) operations) row runs

/-! The Telnet client, which asks for no proxy. -/

section

variable (invalid : ∀ seconds, GenericTelnetNCCClient.timeout site ≠ .ok seconds)

include invalid

/-- Without a valid timeout nothing is dialled. -/
theorem telnetConnect_idle :
    Meets (viaProxy proxyHost) (fun _ self => self.sock = none) (GenericTelnetNCCClient.connect site)
      (fun _ result self => self.sock = none ∧ ∃ fault, result = .error fault) := by
  have raising : ∀ {α : Type} (fault : Fault), Meets (viaProxy proxyHost) (fun _ self => self.sock = none)
      (raise fault : ClientMethod GenericTelnetNCCClient α) (fun _ result self => self.sock = none ∧ ∃ fault, result = .error fault) :=
    fun fault => Meets.raise fun _ _ idle => ⟨idle, fault, rfl⟩
  apply Meets.read_bind
  intro self
  apply Meets.pointwise
  rintro past s ⟨rfl, idle⟩
  have closed : ¬s.sock.isSome = true := by
    rw [idle]
    exact Bool.false_ne_true
  rw [if_neg closed]
  apply Meets.bind (q := fun _ result self => self.sock = none ∧ ∃ fault, result = .error fault)
  · apply Meets.catching (q := fun _ result self => self.sock = none ∧ ∃ fault, result = .error fault)
    · apply Meets.read_bind
      intro self
      apply Meets.lift_bind
      · rintro now fault _ _ ⟨rfl, -, rfl⟩
        exact ⟨idle, fault, rfl⟩
      · exact fun seconds valid => absurd valid (invalid seconds)
    · exact fun _ _ _ met => met
    · intro fault
      apply Meets.mono (p := fun _ self => self.sock = none) (fun _ _ met => met.1) (fun _ _ _ met => met)
      split
      · exact raising _
      · exact raising _
  · exact fun _ fault _ met => ⟨met.1, fault, rfl⟩
  · rintro sock
    apply Meets.unreached
    rintro _ _ ⟨-, fault, raised⟩
    cases raised

theorem performTelnet_idle (operation : Operation) :
    Keeps (viaProxy proxyHost) (fun self => self.sock = none) (performTelnet site operation) := by
  cases operation with
  | showInterface interfaceName =>
      apply Keeps.bind _ (fun _ => Keeps.pure)
      apply Meets.bind (telnetConnect_idle invalid) (fun _ _ _ met => met.1)
      intro _
      apply Meets.unreached
      rintro _ _ ⟨-, fault, raised⟩
      cases raised
  | cleanup =>
      apply Keeps.bind _ (fun _ => Keeps.pure)
      apply Meets.read_bind
      intro self
      cases connected : self.sock with
      | none => exact Meets.pure fun _ _ held => held.2
      | some sock =>
          apply Meets.unreached
          rintro _ _ ⟨rfl, idle⟩
          cases connected.symm.trans idle
  | getConfig | setConfig _ | getOperationalState | configureInterface _ _ | getBgp | setBgp _ | configureFirewall _ =>
      exact Keeps.raise

end

theorem operate_dials {client : GenericTelnetNCCClient} (idle : client.sock = none) {seconds : Rat}
    (valid : GenericTelnetNCCClient.timeout site = .ok seconds) :
    Program.Runs (operate (performTelnet site) [.showInterface none] client)
      [⟨.createConnection (client.host, client.port) seconds, .error (.os "refused")⟩] (.ok (.ok (), client)) := by
  have closed : ¬client.sock.isSome = true := by
    rw [idle]
    exact Bool.false_ne_true
  have dialled : Program.Runs (GenericTelnetNCCClient.dial site client)
      [⟨.createConnection (client.host, client.port) seconds, .error (.os "refused")⟩]
      (.ok (.error (.os "refused"), client)) := by
    change Program.Runs ((lift (GenericTelnetNCCClient.timeout site) >>= fun seconds =>
      attempt (.createConnection (client.host, client.port) seconds) : ClientMethod _ _) client) _ _
    rw [valid]
    exact .call _ (.done _)
  have connecting : Program.Runs (GenericTelnetNCCClient.connect site client)
      [⟨.createConnection (client.host, client.port) seconds, .error (.os "refused")⟩]
      (.ok (.error (.gateway ("Telnet connect failed: " ++ "refused")), client)) := by
    change Program.Runs ((if client.sock.isSome then pure () else _ : ClientMethod _ _) client) _ _
    rw [if_neg closed]
    exact runs_bind_raised (runs_caught dialled (.done _))
  have caught : Program.Runs (catching (performTelnet site (.showInterface none)) (fun _ => pure .none) client)
      [⟨.createConnection (client.host, client.port) seconds, .error (.os "refused")⟩] (.ok (.ok .none, client)) :=
    runs_caught (runs_bind_raised (runs_bind_raised connecting)) (.done _)
  have rest : Program.Runs (operate (performTelnet site) [] client) [] (.ok (.ok (), client)) := by
    unfold operate
    exact .done _
  exact runs_bind caught rest

theorem telnet_honours {client : GenericTelnetNCCClient} (idle : client.sock = none) :
    Honours site proxyHost (.telnet client) ↔ ∀ seconds, GenericTelnetNCCClient.timeout site ≠ .ok seconds := by
  constructor
  · intro honours seconds valid
    exact honours _ _ _ (operate_dials idle valid) [] _ [] rfl
  · intro invalid operations events outcome runs
    exact Meets.safely (operate_keeps (performTelnet_idle invalid) operations) idle runs

/-! The client of a row. -/

def telnetClass : Value := .str "app.dal.device.telnet_client.GenericTelnetNCCClient"

theorem importClass_telnet {path : Value} {kind : Option NetconfClass} (imported : importClass path = .ok kind) :
    kind = none ↔ path = telnetClass := by
  constructor
  · rintro rfl
    unfold importClass at imported
    split_ifs at imported with _ _ _ _ _ _ telnet
    · cases imported
    · cases imported
    · cases imported
    · cases imported
    · cases imported
    · cases imported
    · exact telnet
  · rintro rfl
    have telnet : importClass telnetClass = .ok none := by rfl
    exact Except.ok.inj (imported.symm.trans telnet)

theorem getClient_made {routerInfo cfg : Dict} {device : String} {client : DeviceClient}
    (made : getClient site (.ok (some routerInfo)) (.ok cfg) device = .ok client) :
    ∃ path kind, resolveClassPath site.libraries.toPlatform routerInfo cfg = .ok path ∧ importClass path = .ok kind ∧
      newClient site kind (hostOf site routerInfo device) routerInfo = .ok client := by
  unfold getClient at made
  split at made
  · next returned =>
      cases made
      unfold tryClient at returned
      rw [ok_bind] at returned
      cases empty : routerInfo.isEmpty with
      | true =>
          rw [Option.filter_some_neg (by rw [empty]; rfl)] at returned
          cases returned
      | false =>
          rw [Option.filter_some_pos (by rw [empty]; rfl)] at returned
          change (Except.ok cfg >>= fun cfg => _ : Except Fault DeviceClient) = .ok client at returned
          rw [ok_bind] at returned
          rcases (bind_eq_ok _ _ _).mp returned with ⟨path, resolved, returned⟩
          rcases (bind_eq_ok _ _ _).mp returned with ⟨kind, imported, built⟩
          exact ⟨path, kind, resolved, imported, built⟩
  · cases made
  · cases made
  · cases made

/-- A selected proxy is honoured by every class but the Telnet one, which never asks for it; it opens no connection at
all when its timeout is not valid. -/
theorem proxied_clients {routerInfo cfg : Dict} {device : String} {proxy : ProxyClient} {client : DeviceClient}
    (selected : getProxy site routerInfo = .ok (some proxy))
    (made : getClient site (.ok (some routerInfo)) (.ok cfg) device = .ok client) :
    Honours site proxy.proxyHost client ↔
      (resolveClassPath site.libraries.toPlatform routerInfo cfg = .ok telnetClass →
        ∀ seconds, GenericTelnetNCCClient.timeout site ≠ .ok seconds) := by
  rcases getClient_made made with ⟨path, kind, resolved, imported, built⟩
  cases kind with
  | none =>
      have telnet : path = telnetClass := (importClass_telnet imported).mp rfl
      rcases (bind_eq_ok _ _ _).mp built with ⟨fresh, new, same⟩
      rcases (bind_eq_ok _ _ _).mp new with ⟨port, -, fields⟩
      cases same
      cases fields
      rw [telnet_honours rfl, resolved, telnet]
      exact ⟨fun invalid _ => invalid, fun invalid => invalid rfl⟩
  | some kind =>
      have other : path ≠ telnetClass := fun telnet => nomatch (importClass_telnet imported).mpr telnet
      rcases (bind_eq_ok _ _ _).mp built with ⟨fresh, new, same⟩
      rcases (bind_eq_ok _ _ _).mp new with ⟨port, -, new⟩
      rcases (bind_eq_ok _ _ _).mp new with ⟨sshPort, -, fields⟩
      cases same
      cases fields
      rw [resolved]
      exact ⟨fun _ same => absurd (Except.ok.inj same) other, fun _ => netconf_honours selected rfl⟩

end

def bastionMapping : Dict := [("key_columns", .list [.str "owner"]), ("map", .dict [("default", .str "bastion.example")])]

def bastionSite : Site Platform.SealedToken :=
  { libraries := { Bench.libraries with toPlatform := legible, parseFloat := fun _ => some (.finite 5) }
    settings := fun _ => none
    proxyMapping := .ok bastionMapping
    reprBytes := fun _ => ""
    decode := fun _ => "" }

def classMapping (path : String) : Dict :=
  [("key_columns", .list [.str "vendor"]), ("map", .dict [("default", .str path)])]

def plainRow : Dict := [("hostname", .str "192.0.2.1")]

/-- A validated pair of mappings and a row under which the device is dialled directly. -/
theorem telnet_bypasses :
    ∃ (cfg : Dict) (proxy : ProxyClient) (client : DeviceClient),
      (Store.validateConfig legible "client_mapping" (.dict cfg)).toOption = some (.dict cfg) ∧
      (Store.validateConfig legible "proxy_mapping" (.dict bastionMapping)).toOption = some (.dict bastionMapping) ∧
      getProxy bastionSite plainRow = .ok (some proxy) ∧
      getClient bastionSite (.ok (some plainRow)) (.ok cfg) "router" = .ok client ∧
      ¬Honours bastionSite proxy.proxyHost client := by
  have selected : getProxy bastionSite plainRow = .ok (some (ProxyClient.new "bastion.example")) := by rfl
  refine ⟨classMapping "app.dal.device.telnet_client.GenericTelnetNCCClient", _,
    .telnet ⟨"192.0.2.1", plainRow, 23, none, none, false⟩, by decide, by decide, selected, by rfl, ?_⟩
  have valid : GenericTelnetNCCClient.timeout bastionSite = .ok 5 := by rfl
  intro honours
  exact honours _ _ _ (operate_dials rfl valid) [] _ [] rfl

theorem proxied_clients_bench :
    Honours bastionSite "bastion.example" (.netconf ⟨.ios, "192.0.2.1", plainRow, 830, 22, none, none⟩) := by
  have selected : getProxy bastionSite plainRow = .ok (some (ProxyClient.new "bastion.example")) := by rfl
  have made : getClient bastionSite (.ok (some plainRow))
      (.ok (classMapping "app.dal.device.nccclient_ios.IOSNCCClient")) "router" =
        .ok (.netconf ⟨.ios, "192.0.2.1", plainRow, 830, 22, none, none⟩) := by rfl
  have resolved : resolveClassPath legible plainRow (classMapping "app.dal.device.nccclient_ios.IOSNCCClient") =
      .ok (.str "app.dal.device.nccclient_ios.IOSNCCClient") := by rfl
  have other : Value.str "app.dal.device.nccclient_ios.IOSNCCClient" ≠ telnetClass := by decide
  apply (proxied_clients selected made).mpr
  exact fun telnet => absurd (Except.ok.inj (resolved.symm.trans telnet)) other

end NetworkGateway.Factories
