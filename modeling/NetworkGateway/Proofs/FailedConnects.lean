import NetworkGateway.Library.Surroundings
import NetworkGateway.Dal.Bench
import NetworkGateway.Dal.DeviceClients

/-! The attributes of the device clients behind a connect that raises. -/

namespace NetworkGateway

open Library.Interaction Method

def anyCommand (_ : List (Event DeviceCommand)) (β : Type) (_ : DeviceCommand β) : Prop := True

section

variable {Token : Type} {site : Site Token}

theorem any_ask {σ β : Type} {kept : σ → Prop} {command : DeviceCommand β} :
    Keeps anyCommand kept (ask command : ClientMethod σ β) := Keeps.ask fun _ => trivial

theorem any_attempt {σ β : Type} {kept : σ → Prop} {command : DeviceCommand (Except Fault β)} :
    Keeps anyCommand kept (attempt command : ClientMethod σ β) := Keeps.attempt fun _ => trivial

/-! The proxy client and the SSH side of the NETCONF clients: the client is kept before it is connected. -/

theorem ProxyClient.tryConnect_publishes :
    Meets anyCommand (fun _ _ => True) (ProxyClient.tryConnect site) (fun _ _ self => self.sshClient.isSome = true) := by
  unfold ProxyClient.tryConnect
  apply Meets.ask_bind (fun _ _ _ => trivial)
  intro client
  apply Meets.write_bind
  have tail : Keeps anyCommand (fun self : ProxyClient => self.sshClient.isSome = true) (do
      ask (.setMissingHostKeyPolicy client .autoAdd)
      let self ← read
      let username ← lift (config site "PROXY_USERNAME")
      let password ← lift (config site "PROXY_PASSWORD")
      attempt (.sshConnect client ⟨self.proxyHost, self.proxyPort, none, username, password, true, none⟩) :
        ClientMethod ProxyClient Unit) :=
    any_ask.bind fun _ => Keeps.read.bind fun _ => Keeps.lift.bind fun _ => Keeps.lift.bind fun _ => any_attempt
  apply tail.mono _ (fun _ _ _ held => held)
  rintro past self ⟨before, rfl, -⟩
  rfl

theorem ProxyClient.connect_publishes :
    Meets anyCommand (fun _ _ => True) (ProxyClient.connect site) (fun _ _ self => self.sshClient.isSome = true) :=
  Meets.catching ProxyClient.tryConnect_publishes (fun _ _ _ held => held) (fun _ => Meets.raise fun _ _ held => held)

theorem BaseNCCClient.proxyChannel_keeps {kept : BaseNCCClient → Prop} (port : Int) :
    Keeps anyCommand kept (BaseNCCClient.proxyChannel site port) := by
  unfold BaseNCCClient.proxyChannel
  apply Keeps.read.bind
  intro self
  apply Keeps.lift.bind
  intro proxy
  cases proxy with
  | none => exact Keeps.pure
  | some proxy =>
      apply (Keeps.onPart trivial (Keeps.any (fun _ _ _ => trivial) _)).bind
      intro channel
      exact Keeps.pure

theorem BaseNCCClient.loadKnownHosts_keeps {kept : BaseNCCClient → Prop} (client : Handle) :
    Keeps anyCommand kept (BaseNCCClient.loadKnownHosts site client) := by
  unfold BaseNCCClient.loadKnownHosts
  dsimp only
  split
  · exact Keeps.pure
  · exact any_attempt

theorem BaseNCCClient.tryConnectSsh_publishes :
    Meets anyCommand (fun _ _ => True) (BaseNCCClient.tryConnectSsh site) (fun _ _ self => self.sshClient.isSome = true) := by
  unfold BaseNCCClient.tryConnectSsh
  apply Meets.ask_bind (fun _ _ _ => trivial)
  intro client
  apply Meets.write_bind
  apply Meets.mono (p := fun _ self => self.sshClient.isSome = true) _ (fun _ _ _ held => held)
  · apply any_attempt.bind
    intro _
    apply (BaseNCCClient.loadKnownHosts_keeps client).bind
    intro _
    apply any_ask.bind
    intro _
    apply Keeps.read.bind
    intro self
    apply (BaseNCCClient.proxyChannel_keeps self.sshPort).bind
    intro sock
    apply Keeps.lift.bind
    intro auth
    exact any_attempt
  · rintro past self ⟨before, rfl, -⟩
    rfl

theorem BaseNCCClient.connectSsh_publishes {client after : BaseNCCClient} {events : List (Event DeviceCommand)}
    {fault : Fault} (runs : Program.Runs (BaseNCCClient.connectSsh site client) events (.ok (.error fault, after))) :
    after.sshClient.isSome = true := by
  have meets : Meets anyCommand (fun _ _ => True) (BaseNCCClient.connectSsh site)
      (fun _ result self => ∀ fault, result = .error fault → self.sshClient.isSome = true) := by
    unfold BaseNCCClient.connectSsh
    apply Meets.read_bind
    intro self
    by_cases connected : self.sshClient.isSome = true
    · rw [if_pos connected]
      exact Meets.pure fun _ _ _ _ raised => nomatch raised
    · rw [if_neg connected]
      apply Meets.catching (BaseNCCClient.tryConnectSsh_publishes.mono (fun _ _ _ => trivial) (fun _ _ _ held => held))
      · exact fun _ _ _ held _ _ => held
      · exact fun _ => Meets.raise fun _ _ held _ _ => held
  exact meets.sound trivial runs fault rfl

/-- What is left behind is taken for a connection by the next call. -/
theorem BaseNCCClient.connectSsh_again {client : BaseNCCClient} (published : client.sshClient.isSome = true) :
    BaseNCCClient.connectSsh site client = .done (.ok (.ok (), client)) := by
  change (if client.sshClient.isSome then pure () else _ : ClientMethod BaseNCCClient Unit) client = _
  rw [if_pos published]
  rfl

/-! The Telnet client. -/

namespace GenericTelnetNCCClient

structure Disconnected (client : GenericTelnetNCCClient) : Prop where
  sock : client.sock = none
  negotiator : client.negotiator = none
  authenticated : client.authenticated = false

def Established (events : List (Event DeviceCommand)) : Prop :=
  ∃ address seconds sock, (⟨.createConnection address seconds, .ok sock⟩ : Event DeviceCommand) ∈ events

def Closing (fault : Fault) : Prop := (∃ error, fault = .telnetRead error) ∨ ∃ text, fault = .os text

def Opened (self : GenericTelnetNCCClient) : Prop := self.sock.isSome = true ∧ self.negotiator.isSome = true

def Converses {α : Type} (m : ClientMethod GenericTelnetNCCClient α) : Prop :=
  Meets anyCommand (fun _ self => Opened self) m
    (fun _ result self => Opened self ∧ ∀ fault, result = .error fault → Closing fault)

theorem Converses.bind {α β : Type} {m : ClientMethod GenericTelnetNCCClient α}
    {f : α → ClientMethod GenericTelnetNCCClient β} (first : Converses m) (rest : ∀ a, Converses (f a)) :
    Converses (m >>= f) := by
  apply Meets.bind first
  · rintro now fault self ⟨opened, closing⟩
    exact ⟨opened, fun other same => closing other (congrArg Except.error (Except.error.inj same))⟩
  · exact fun a => (rest a).mono (fun _ _ held => held.1) (fun _ _ _ held => held)

theorem converses_raise {α : Type} {fault : Fault} (closing : Closing fault) :
    Converses (raise fault : ClientMethod GenericTelnetNCCClient α) := by
  apply Meets.raise
  intro past self opened
  refine ⟨opened, ?_⟩
  intro other same
  rw [← Except.error.inj same]
  exact closing

theorem converses_pure {α : Type} (a : α) : Converses (pure a : ClientMethod GenericTelnetNCCClient α) :=
  Meets.pure fun _ _ opened => ⟨opened, nofun⟩

theorem opened_behind {self : GenericTelnetNCCClient} {event : Event DeviceCommand} (now : List (Event DeviceCommand))
    (s : GenericTelnetNCCClient) (held : ∃ past, now = past ++ [event] ∧ s = self ∧ Opened s) : Opened s := by
  rcases held with ⟨past, -, -, opened⟩
  exact opened

theorem sendLine_converses (text : String) : Converses (sendLine text) := by
  apply Meets.read_bind
  intro self
  cases held : self.sock with
  | none =>
      apply Meets.raise
      rintro past s ⟨rfl, opened, -⟩
      rw [held] at opened
      cases opened
  | some sock =>
      apply Meets.ask_bind (fun _ _ _ => trivial)
      intro answer
      cases answer with
      | ok value => exact (converses_pure value).mono opened_behind (fun _ _ _ met => met)
      | error text => exact (converses_raise (.inr ⟨text, rfl⟩)).mono opened_behind (fun _ _ _ met => met)

theorem recvUntil_converses {seconds : Rat} (valid : timeout site = .ok seconds) (marker : String) :
    Converses (recvUntil site marker) := by
  unfold recvUntil
  rw [valid]
  apply Meets.lift_bind
  · exact fun _ _ _ raised => nomatch raised
  · intro _ _
    apply Meets.read_bind
    intro self
    cases connected : self.sock with
    | none =>
        apply Meets.raise
        rintro past s ⟨rfl, opened, -⟩
        rw [connected] at opened
        cases opened
    | some sock =>
        cases negotiating : self.negotiator with
        | none =>
            apply Meets.raise
            rintro past s ⟨rfl, -, opened⟩
            rw [negotiating] at opened
            cases opened
        | some negotiator =>
            apply Meets.ask_bind (fun _ _ _ => trivial)
            intro receipts
            cases TelnetClient.recvUntil (Bytes.utf8 marker) TelnetClient.defaultMaxResponseBytes
              ⟨negotiator, [], receipts⟩ with
            | returned data connection =>
                apply Meets.write_bind
                apply Meets.pure
                rintro past s ⟨before, rfl, held⟩
                exact ⟨⟨(opened_behind _ _ held).1, rfl⟩, nofun⟩
            | raised error => exact (converses_raise (.inl ⟨error, rfl⟩)).mono opened_behind (fun _ _ _ met => met)
            | waiting => exact Meets.waiting

theorem dialogue_converses {seconds : Rat} (valid : timeout site = .ok seconds) (username password : String) :
    Converses (dialogue site username password) :=
  (recvUntil_converses valid "Username:").bind fun _ => (sendLine_converses username).bind fun _ =>
    (recvUntil_converses valid "Password:").bind fun _ => (sendLine_converses password).bind fun _ =>
    (recvUntil_converses valid "> ").bind fun _ => converses_pure ()

theorem close_disconnects : Meets anyCommand (fun _ self => Opened self) close (fun _ _ self => Disconnected self) := by
  apply Meets.read_bind
  intro self
  cases held : self.sock with
  | none =>
      apply Meets.pure
      rintro past s ⟨rfl, opened, -⟩
      rw [held] at opened
      cases opened
  | some sock =>
      apply Meets.ask_bind (fun _ _ _ => trivial)
      intro closed
      apply Meets.write_bind
      cases closed with
      | ok _ =>
          apply Meets.pure
          rintro past s ⟨before, rfl, -⟩
          exact ⟨rfl, rfl, rfl⟩
      | error text =>
          apply Meets.raise
          rintro past s ⟨before, rfl, -⟩
          exact ⟨rfl, rfl, rfl⟩

theorem closing_disconnects {fault : Fault} (closes : Closing fault) (refused : Bool) (what : String) :
    Meets anyCommand (fun _ self => Opened self) (closing site refused what fault : ClientMethod GenericTelnetNCCClient Unit)
      (fun _ result self => Disconnected self ∧ ∃ raised, result = .error raised) := by
  have raising : ∀ raised : Fault, Meets anyCommand (fun _ self => Disconnected self)
      (raise raised : ClientMethod GenericTelnetNCCClient Unit)
      (fun _ result self => Disconnected self ∧ ∃ raised, result = .error raised) :=
    fun raised => Meets.raise fun _ _ held => ⟨held, raised, rfl⟩
  rcases closes with ⟨error, rfl⟩ | ⟨text, rfl⟩
  · apply Meets.bind close_disconnects (fun _ raised _ held => ⟨held, raised, rfl⟩)
    intro _
    split
    · exact raising _
    · exact raising _
  · apply Meets.bind close_disconnects (fun _ raised _ held => ⟨held, raised, rfl⟩)
    exact fun _ => raising _

/-- With credentials at hand a login that raises has closed the connection. -/
theorem login_disconnects {seconds : Rat} (valid : timeout site = .ok seconds) {routerInfo : Dict}
    {auth : String × String} (known : resolveCredentials site routerInfo = .ok auth) :
    Meets anyCommand (fun _ self => self.routerInfo = routerInfo ∧ Opened self) (login site)
      (fun _ result self => ∀ fault, result = .error fault → Disconnected self) := by
  apply Meets.read_bind
  intro self
  apply Meets.lift_bind
  · rintro past fault s failed ⟨rfl, same, -⟩
    rw [same, known] at failed
    cases failed
  · rintro ⟨username, password⟩ -
    apply Meets.bind (q := fun _ result self => ∀ fault, result = .error fault → Disconnected self)
    · apply Meets.catching ((dialogue_converses valid username password).mono (fun _ _ held => held.2.2) (fun _ _ _ met => met))
      · exact fun _ _ _ _ _ raised => nomatch raised
      · intro fault
        apply Meets.pointwise
        intro past s held
        apply (closing_disconnects (held.2 fault rfl) true "Telnet login failed: ").mono _ (fun _ _ _ met _ _ => met.1)
        rintro _ _ ⟨-, rfl⟩
        exact held.1
    · exact fun _ _ _ met fault _ => met _ rfl
    · exact fun _ => Meets.write fun _ _ _ _ raised => nomatch raised

theorem unestablished {address : String × Int} {seconds : Rat} {fault : Fault} :
    ¬Established [⟨.createConnection address seconds, .error fault⟩] := by
  rintro ⟨_, _, sock, member⟩
  cases List.mem_singleton.mp member

/-- An established connection is answered by its socket; any other fault comes before it. -/
theorem dial_establishes (start : GenericTelnetNCCClient) :
    Meets anyCommand (fun past self => past = [] ∧ self = start) (dial site) (fun now result self => self = start ∧
      (∀ sock, result = .ok sock → Established now ∧ ∃ seconds, timeout site = .ok seconds) ∧
      ∀ fault, result = .error fault → ¬Established now) := by
  apply Meets.read_bind
  intro self
  apply Meets.lift_bind
  · rintro past fault s - ⟨rfl, rfl, rfl⟩
    refine ⟨rfl, nofun, ?_⟩
    rintro _ - ⟨address, seconds, sock, member⟩
    cases member
  · intro seconds valid
    apply Meets.attempt (fun _ _ _ => trivial)
    rintro past s answer ⟨rfl, rfl, rfl⟩
    refine ⟨rfl, ?_, ?_⟩
    · rintro sock rfl
      exact ⟨⟨_, _, sock, List.mem_singleton.mpr rfl⟩, seconds, valid⟩
    · rintro fault rfl
      exact unestablished

theorem connect_failure {routerInfo : Dict} :
    Meets anyCommand (fun past self => past = [] ∧ self.routerInfo = routerInfo ∧ Disconnected self) (connect site)
      (fun now result self => ∀ fault, result = .error fault →
        (Disconnected self ↔ ¬Established now ∨ ∃ auth, resolveCredentials site routerInfo = .ok auth)) := by
  apply Meets.read_bind
  intro start
  by_cases connected : start.sock.isSome = true
  · rw [if_pos connected]
    exact Meets.pure fun _ _ _ _ raised => nomatch raised
  · rw [if_neg connected]
    apply Meets.bind (q := fun now result self => self = start ∧ self.routerInfo = routerInfo ∧ Disconnected self ∧
      (∀ sock, result = .ok sock → Established now ∧ ∃ seconds, timeout site = .ok seconds) ∧
      ∀ fault, result = .error fault → ¬Established now)
    · apply Meets.pointwise
      rintro past self ⟨rfl, rfl, same, disconnected⟩
      apply Meets.catching (dial_establishes self)
      · rintro now sock s ⟨rfl, answered, -⟩
        exact ⟨rfl, same, disconnected, answered, nofun⟩
      · intro fault
        have raising : ∀ raised : Fault, Meets anyCommand (fun now s => s = self ∧
            (∀ sock, (Except.error fault : Except Fault Handle) = .ok sock → Established now ∧
              ∃ seconds, timeout site = .ok seconds) ∧
            ∀ other, (Except.error fault : Except Fault Handle) = .error other → ¬Established now)
            (raise raised) (fun now result s => s = self ∧ s.routerInfo = routerInfo ∧ Disconnected s ∧
              (∀ sock : Handle, result = .ok sock → Established now ∧ ∃ seconds, timeout site = .ok seconds) ∧
              ∀ other, result = .error other → ¬Established now) := by
          intro raised
          apply Meets.raise
          rintro now s ⟨rfl, -, unanswered⟩
          exact ⟨rfl, same, disconnected, nofun, fun _ _ => unanswered fault rfl⟩
        split
        · exact raising _
        · exact raising _
    · rintro now fault self ⟨rfl, same, disconnected, -, unanswered⟩ _ _
      exact ⟨fun _ => .inl (unanswered fault rfl), fun _ => disconnected⟩
    · intro sock
      apply Meets.write_bind
      cases known : resolveCredentials site routerInfo with
      | error missing =>
          -- nothing closes the connection when the credentials are missing
          apply Meets.read_bind
          intro self
          apply Meets.lift_bind
          · rintro past fault s - ⟨rfl, before, rfl, rfl, same, disconnected, answered, -⟩ _ _
            refine ⟨fun closed => absurd closed.sock (Option.some_ne_none sock), ?_⟩
            rintro (unanswered | ⟨auth, found⟩)
            · exact absurd (answered sock rfl).1 unanswered
            · cases found
          · intro auth found
            apply Meets.pointwise
            rintro past s ⟨rfl, before, rfl, rfl, same, -⟩
            rw [same, known] at found
            cases found
      | ok auth =>
          apply Meets.pointwise
          rintro past s ⟨before, rfl, rfl, same, disconnected, answered, -⟩
          rcases answered sock rfl with ⟨-, seconds, valid⟩
          apply (login_disconnects valid known).mono
          · rintro _ _ ⟨-, rfl⟩
            exact ⟨same, rfl, rfl⟩
          · exact fun _ _ _ met fault raised => ⟨fun _ => .inr ⟨auth, rfl⟩, fun _ => met fault raised⟩

end GenericTelnetNCCClient

/-- What a connect that raises leaves behind: the SSH sides stay published, so that the next call of `_connect_ssh`
returns at once; the Telnet client is closed unless it connects without credentials at hand. -/
theorem failed_connects (site : Site Token) :
    (∀ client events fault after, client.sshClient = none →
      Program.Runs (BaseNCCClient.connectSsh site client) events (.ok (.error fault, after)) →
        after.sshClient ≠ none ∧ BaseNCCClient.connectSsh site after = .done (.ok (.ok (), after))) ∧
    (∀ client events fault after, client.sshClient = none →
      Program.Runs (ProxyClient.connect site client) events (.ok (.error fault, after)) → after.sshClient ≠ none) ∧
    ∀ client events fault after, client.Disconnected →
      Program.Runs (GenericTelnetNCCClient.connect site client) events (.ok (.error fault, after)) →
        (after.Disconnected ↔
          ¬GenericTelnetNCCClient.Established events ∨ ∃ auth, resolveCredentials site client.routerInfo = .ok auth) := by
  refine ⟨?_, ?_, ?_⟩
  · intro client events fault after _ runs
    have published := BaseNCCClient.connectSsh_publishes runs
    exact ⟨Option.isSome_iff_ne_none.mp published, BaseNCCClient.connectSsh_again published⟩
  · intro client events fault after _ runs
    exact Option.isSome_iff_ne_none.mp (ProxyClient.connect_publishes.sound trivial runs)
  · intro client events fault after disconnected runs
    exact GenericTelnetNCCClient.connect_failure.sound ⟨rfl, rfl, disconnected⟩ runs fault rfl

end

namespace Bench

def bareSite : Site Platform.SealedToken where
  libraries := { libraries with parseFloat := fun _ => some (.finite 5) }
  settings _ := none
  proxyMapping := .ok [("key_columns", .list [.str "owner"]), ("map", .dict [("default", .none)])]
  reprBytes _ := ""
  decode _ := ""

def sshRouter : BaseNCCClient :=
  ⟨.ios, "192.0.2.1", [("username", .str "ops"), ("password", .str "hunter2")], 830, 22, none, none⟩

def telnetRouter : GenericTelnetNCCClient := ⟨"192.0.2.1", [], 23, none, none, false⟩

def denying : Surroundings DeviceCommand Unit where
  answer command s := match command with
    | .sshClient => some (7, s)
    | .loadSystemHostKeys _ => some (.ok (), s)
    | .setMissingHostKeyPolicy _ _ => some ((), s)
    | .sshConnect _ _ => some (.error (.other "Authentication failed."), s)
    | _ => none

/-- The error that `_connect_ssh` ends with, and the SSH client that it leaves. -/
def failure : Except Fault Unit × BaseNCCClient → Option String × Option Handle
  | (.error fault, after) => (some (fault.text bareSite.reprBytes), after.sshClient)
  | (.ok (), after) => (none, after.sshClient)

theorem sshRouter_runs :
    ∃ events fault after, Program.Runs (BaseNCCClient.connectSsh bareSite sshRouter) events (.ok (.error fault, after)) ∧
      fault.text bareSite.reprBytes = "SSH connect failed: Authentication failed." ∧ after.sshClient = some 7 := by
  have raises : ((BaseNCCClient.connectSsh bareSite sshRouter).play denying ()).bind
      (fun played => played.1.toOption.map failure) =
        some (some "SSH connect failed: Authentication failed.", some 7) := by decide +kernel
  rcases Program.play_returns raises with ⟨events, ⟨outcome, after⟩, runs, shown⟩
  cases outcome with
  | ok connected => cases (Prod.mk.inj shown).1
  | error fault =>
      have same := Prod.mk.inj shown
      exact ⟨events, fault, after, runs, Option.some.inj same.1, same.2⟩

/-- The device accepts the connection, and its credentials are not configured. -/
theorem telnetRouter_runs :
    ∃ fault, Program.Runs (GenericTelnetNCCClient.connect bareSite telnetRouter)
      [⟨.createConnection ("192.0.2.1", 23) 5, .ok 3⟩]
      (.ok (.error fault, { telnetRouter with sock := some 3, negotiator := some .normal })) :=
  ⟨_, .call _ (.done _)⟩

end Bench

theorem published_after_failure :
    (¬∀ client events fault after, client.sshClient = none →
      Program.Runs (BaseNCCClient.connectSsh Bench.bareSite client) events (.ok (.error fault, after)) →
        after.sshClient = none) ∧
    ¬∀ client events fault after, client.Disconnected →
      Program.Runs (GenericTelnetNCCClient.connect Bench.bareSite client) events (.ok (.error fault, after)) →
        after.Disconnected := by
  constructor
  · intro disconnects
    rcases Bench.sshRouter_runs with ⟨events, fault, after, runs, -, client⟩
    cases (disconnects _ _ _ _ rfl runs).symm.trans client
  · intro disconnects
    rcases Bench.telnetRouter_runs with ⟨fault, runs⟩
    cases (disconnects _ _ _ _ ⟨rfl, rfl, rfl⟩ runs).sock

theorem failed_connects_bench :
    (∃ after, after.sshClient = some 7 ∧
      BaseNCCClient.connectSsh Bench.bareSite after = .done (.ok (.ok (), after))) ∧
      ¬∃ auth, resolveCredentials Bench.bareSite Bench.telnetRouter.routerInfo = .ok auth := by
  have facts := failed_connects Bench.bareSite
  rcases Bench.sshRouter_runs with ⟨events, fault, after, runs, -, client⟩
  rcases Bench.telnetRouter_runs with ⟨failure, failing⟩
  have published := facts.1 Bench.sshRouter _ _ _ rfl runs
  constructor
  · exact ⟨after, client, published.2⟩
  · intro known
    cases ((facts.2.2 Bench.telnetRouter _ _ _ ⟨rfl, rfl, rfl⟩ failing).mpr (.inr known)).sock

end NetworkGateway
