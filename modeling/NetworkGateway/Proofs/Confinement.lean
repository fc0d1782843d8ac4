import NetworkGateway.Bl.ConnectionTests

/-! Everything a connection test does besides `connect_tcp` opens no TCP connection and
looks up no name. -/

namespace NetworkGateway.Connectors

open Library.Interaction Program

/-- Commands that neither open a TCP connection nor start a name lookup. -/
def Quiet (α : Type) : Command α → Prop
  | .connect _ _ | .startLookup _ _ => False
  | .sshConnect _ request => request.sock.isSome
  | _ => True

theorem Quiet.opens {α : Type} {command : Command α} (quiet : Quiet α command) : command.opens = none := by
  cases command with
  | connect sock address => exact False.elim quiet
  | sshConnect client request =>
      have given : request.sock.isNone = false := by
        cases sock : request.sock with
        | none =>
            rw [Quiet, sock] at quiet
            cases quiet
        | some stream => rfl
      rw [Command.opens, given]
      rfl
  | _ => rfl

theorem Quiet.looksUp {α : Type} {command : Command α} (quiet : Quiet α command) : command.looksUp = none := by
  cases command with
  | startLookup host port => exact False.elim quiet
  | _ => rfl

theorem confined_attempt {allowed : (β : Type) → Command β → Prop} {α : Type} {p : Net (Except Raised α)}
    (confined : Confined allowed p) : Confined allowed (Net.attempt p) :=
  confined.bind (fun outcome => Confined.lift outcome)

/-! Waiting for the peer under the deadline. -/

def Waiting (α : Type) : Command α → Prop
  | .monotonic | .expired | .settimeout _ _ | .recv _ _ => True
  | _ => False

section Waits

variable (deadline : Deadline) (stream : Handle)

theorem settimeout_waiting (seconds : Rat) : Confined Waiting (Net.settimeout stream seconds) :=
  Confined.bind (Confined.ask trivial) (fun outcome => Confined.lift outcome)

theorem recv_waiting (size : Nat) : Confined Waiting (Net.recv stream size) :=
  Confined.bind (Confined.ask trivial) (fun outcome => Confined.lift outcome)

theorem remaining_waiting : Confined Waiting (remaining deadline) := by
  apply Confined.bind (Confined.ask trivial)
  intro now
  split
  · exact Confined.raise _
  · apply Confined.bind (Confined.ask trivial)
    intro expired
    split
    · exact Confined.raise _
    · exact Confined.pure _

theorem receiveMore_waiting (size : Nat) (data : Bytes) : Confined Waiting (receiveMore deadline stream size data) := by
  induction data using receiveMore.induct size with
  | case1 data short ih =>
      rw [receiveMore, dif_pos short]
      apply (remaining_waiting deadline).bind
      intro left
      apply (settimeout_waiting stream left).bind
      intro _
      apply (recv_waiting stream _).bind
      intro chunk
      split
      · exact Confined.raise _
      · rename_i arrived
        exact ih chunk arrived
  | case2 data full =>
      rw [receiveMore, dif_neg full]
      exact Confined.pure _

theorem receiveExact_waiting (size : Nat) : Confined Waiting (receiveExact deadline stream size) :=
  receiveMore_waiting deadline stream size []

theorem receiveOn_waiting (marker : Bytes) (limit : Nat) (data : Bytes) :
    Confined Waiting (receiveOn deadline stream marker limit data) := by
  induction data using receiveOn.induct marker limit with
  | case1 data complete =>
      rw [receiveOn, if_pos complete]
      exact Confined.pure _
  | case2 data incomplete full =>
      rw [receiveOn, if_neg incomplete, if_pos full]
      exact Confined.raise _
  | case3 data incomplete short ih =>
      rw [receiveOn, if_neg incomplete, if_neg short]
      exact (receiveExact_waiting deadline stream 1).bind ih

theorem boundLength_waiting (type : UInt8) : Confined Waiting (boundLength deadline stream type) := by
  unfold boundLength
  split
  · exact Confined.pure _
  · split
    · exact Confined.pure _
    · apply (receiveExact_waiting deadline stream 1).bind
      intro length
      simp only
      split
      · exact Confined.raise _
      · exact Confined.pure _

/-! Reading a prompt. -/

def Negotiating (α : Type) : Command α → Prop
  | .sendall _ payload => payload.head? = some Telnet.iac
  | command => Waiting α command

theorem Waiting.negotiating {α : Type} (command : Command α) (waiting : Waiting α command) : Negotiating α command := by
  cases command with
  | sendall => exact False.elim waiting
  | _ => exact waiting

theorem react_refusal {state : Telnet.State} {byte : UInt8} {payload : Bytes}
    (replied : (Telnet.react state byte).2.2 = some payload) : payload.head? = some Telnet.iac := by
  cases state with
  | gotVerb verb =>
      have refusal : Telnet.reply verb byte = some payload := replied
      unfold Telnet.reply at refusal
      split at refusal
      · cases refusal
        rfl
      · split at refusal
        · cases refusal
          rfl
        · cases refusal
  | normal | gotIac | gotSb | gotSbIac =>
      simp only [Telnet.react] at replied
      repeat' split at replied
      all_goals cases replied

theorem sendReply_negotiating {payload : Option Bytes} (refusal : ∀ bytes, payload = some bytes → bytes.head? = some Telnet.iac) :
    Confined Negotiating (Telnet.sendReply stream payload) := by
  cases payload with
  | none => exact Confined.pure _
  | some bytes =>
      have sent : Confined Negotiating (Net.sendall stream bytes) :=
        (Confined.ask (refusal bytes rfl)).bind fun outcome => Confined.lift outcome
      apply sent.catching
      intro raised
      split
      · exact Confined.pure _
      · exact Confined.raise _

theorem feed_negotiating (state : Telnet.State) (data : Bytes) : Confined Negotiating (Telnet.feed stream state data) := by
  induction data generalizing state with
  | nil => exact Confined.pure _
  | cons byte rest ih =>
      rw [Telnet.feed]
      apply (sendReply_negotiating stream fun _ => react_refusal).bind
      intro _
      apply (ih _).bind
      intro further
      exact Confined.pure _

theorem negotiated_negotiating (negotiator : Option Telnet.State) (chunk : Bytes) :
    Confined Negotiating (negotiated stream negotiator chunk) := by
  cases negotiator with
  | none => exact Confined.pure _
  | some state => exact (feed_negotiating stream state chunk).bind (fun _ => Confined.pure _)

theorem readOn_negotiating (pattern : Bytes → Bool) (negotiator : Option Telnet.State) (data : Bytes) (wireSize : Nat) :
    Confined Negotiating (readOn deadline stream pattern negotiator data wireSize) := by
  induction negotiator, data, wireSize using readOn.induct with
  | case1 negotiator data wireSize ih =>
      rw [readOn]
      apply ((remaining_waiting deadline).mono fun _ => Waiting.negotiating).bind
      intro left
      apply ((settimeout_waiting stream left).mono fun _ => Waiting.negotiating).bind
      intro _
      apply ((recv_waiting stream 1024).mono fun _ => Waiting.negotiating).bind
      intro chunk
      split
      · exact Confined.raise _
      · rename_i arrived
        split
        · exact Confined.raise _
        · rename_i bounded
          apply (negotiated_negotiating stream negotiator chunk).bind
          intro next
          have further := ih chunk arrived bounded next.1 next.2
          simp only
          split
          · exact Confined.raise _
          · split
            · exact Confined.pure _
            · exact further

theorem readPrompt_negotiating (pattern : Bytes → Bool) (negotiator : Option Telnet.State) :
    Confined Negotiating (readPrompt deadline stream pattern negotiator) :=
  readOn_negotiating deadline stream pattern negotiator [] 0

theorem readPrompt_waiting (pattern : Bytes → Bool) : Confined Waiting (readPrompt deadline stream pattern none) := by
  have reads : ∀ negotiator data wireSize, negotiator = none →
      Confined Waiting (readOn deadline stream pattern negotiator data wireSize) := by
    intro negotiator data wireSize
    induction negotiator, data, wireSize using readOn.induct with
    | case1 negotiator data wireSize ih =>
        rintro rfl
        rw [readOn]
        apply (remaining_waiting deadline).bind
        intro left
        apply (settimeout_waiting stream left).bind
        intro _
        apply (recv_waiting stream 1024).bind
        intro chunk
        split
        · exact Confined.raise _
        · rename_i arrived
          split
          · exact Confined.raise _
          · rename_i bounded
            have further := ih chunk arrived bounded none chunk rfl
            change Confined Waiting (if loginRejected (data ++ chunk) then _ else if pattern (data ++ chunk) then _ else
              readOn deadline stream pattern none (data ++ chunk) (wireSize + chunk.length))
            split
            · exact Confined.raise _
            · split
              · exact Confined.pure _
              · exact further
  exact reads none [] 0 rfl

end Waits

/-! What asks no proxy for anything. -/

/-- Commands that neither open a connection, look up a name, nor send anything. -/
def Inert (α : Type) : Command α → Prop
  | .connect _ _ | .startLookup _ _ | .sendall _ _ | .openChannel _ _ _ => False
  | .sshConnect _ request => request.sock.isSome
  | _ => True

theorem Inert.quiet {α : Type} {command : Command α} (inert : Inert α command) : Quiet α command := by
  cases command with
  | connect | startLookup | sshConnect => exact inert
  | _ => trivial

theorem Waiting.inert {α : Type} (command : Command α) (waiting : Waiting α command) : Inert α command := by
  cases command with
  | connect | startLookup | sendall | openChannel => exact waiting
  | sshConnect => exact False.elim waiting
  | _ => trivial

section Operations

theorem monotonic_inert : Confined Inert Net.monotonic := Confined.ask trivial

theorem expired_inert : Confined Inert Net.expired := Confined.ask trivial

theorem startTimer_inert (seconds : Rat) : Confined Inert (Net.startTimer seconds) :=
  confined_attempt (Confined.ask trivial)

theorem close_inert (resource : Handle) : Confined Inert (Net.close resource) := Confined.ask trivial

theorem closeDeadline_inert : Confined Inert Net.closeDeadline := Confined.ask trivial

theorem acquireSlot_inert (timeout : Rat) : Confined Inert (Net.acquireSlot timeout) := Confined.ask trivial

theorem socket_inert (info : AddressInfo) : Confined Inert (Net.socket info) :=
  confined_attempt (Confined.ask trivial)

theorem settimeout_inert (stream : Handle) (seconds : Rat) : Confined Inert (Net.settimeout stream seconds) :=
  (settimeout_waiting stream seconds).mono fun _ => Waiting.inert

theorem openSession_inert (client : Handle) (timeout : Rat) : Confined Inert (Net.openSession client timeout) :=
  confined_attempt (Confined.ask trivial)

theorem invokeSubsystem_inert (channel : Handle) (name : String) : Confined Inert (Net.invokeSubsystem channel name) :=
  confined_attempt (Confined.ask trivial)

/-- Paramiko that is given a stream opens no connection of its own. -/
theorem sshConnect_inert (client : Handle) (request : SshRequest) (given : request.sock.isSome) :
    Confined Inert (Net.sshConnect client request) := confined_attempt (Confined.ask given)

end Operations

section

variable {Token : Type} (N : Libraries Token) (deadline : Deadline)

theorem remaining_inert : Confined Inert (remaining deadline) :=
  (remaining_waiting deadline).mono fun _ => Waiting.inert

theorem own_inert (resource : Handle) : Confined Inert (own resource) := by
  apply Confined.bind (Confined.ask trivial)
  intro closed
  apply Confined.ite
  · exact (close_inert resource).bind (fun _ => Confined.raise _)
  · exact Confined.pure _

theorem refused_inert (sock : Handle) (raised : Raised) : Confined Inert (refused deadline sock raised) := by
  apply Confined.ite
  · apply (close_inert sock).bind
    intro _
    exact (remaining_inert deadline).bind (fun _ => Confined.pure _)
  · exact Confined.raise _

theorem receiveExact_inert (stream : Handle) (size : Nat) : Confined Inert (receiveExact deadline stream size) :=
  (receiveExact_waiting deadline stream size).mono fun _ => Waiting.inert

theorem receiveUntil_inert (stream : Handle) (marker : Bytes) (limit : Nat) :
    Confined Inert (receiveUntil deadline stream marker limit) :=
  (receiveOn_waiting deadline stream marker limit []).mono fun _ => Waiting.inert

theorem boundLength_inert (stream : Handle) (type : UInt8) : Confined Inert (boundLength deadline stream type) :=
  (boundLength_waiting deadline stream type).mono fun _ => Waiting.inert

theorem keyText_inert (auth : Dict) : Confined Inert (keyText auth) := by
  unfold keyText
  apply Confined.ite
  · apply Confined.catching
    · exact (confined_attempt (Confined.ask trivial)).bind (fun _ => Confined.pure _)
    · intro raised
      exact Confined.ite (Confined.raise _) (Confined.raise _)
  · exact Confined.pure _

theorem loadKey_inert (text : String) (passphrase : Option Bytes) : Confined Inert (loadKey N text passphrase) := by
  apply Confined.catching
  · exact (Confined.lift _).bind (fun _ => Confined.pure _)
  · intro raised
    exact Confined.ite (Confined.raise _) (Confined.raise _)

theorem privateKey_inert (auth : Dict) : Confined Inert (privateKey N auth) := by
  apply (keyText_inert auth).bind
  intro text
  cases text with
  | str text => exact Confined.ite (Confined.raise _) (loadKey_inert N _ _)
  | none | bool | int | float | list | dict => exact Confined.raise _

theorem singleAuth_inert (auth : Dict) : Confined Inert (singleAuth N auth) := by
  apply (Confined.lift _).bind
  intro username
  apply Confined.ite
  · exact (privateKey_inert N auth).bind (fun _ => Confined.pure _)
  · exact Confined.pure _

theorem loadTrust_inert (auth : Dict) (demoMode : Bool) (role : String) (client : Handle) :
    Confined Inert (loadTrust auth demoMode role client) := by
  apply Confined.ite
  · exact confined_attempt (Confined.ask trivial)
  · exact Confined.ite (Confined.raise _) (confined_attempt (Confined.ask trivial))

theorem handshake_inert (endpoint : Endpoint) (stream : Handle) (demoMode : Bool) (role : String) (client : Handle) :
    Confined Inert (handshake N deadline endpoint stream demoMode role client) := by
  apply (loadTrust_inert _ _ _ _).bind
  intro _
  apply (singleAuth_inert N _).bind
  intro login
  apply (remaining_inert deadline).bind
  intro left
  apply (sshConnect_inert client _ rfl).bind
  intro _
  exact (remaining_inert deadline).bind (fun _ => Confined.pure _)

theorem sshFailure_inert (role : String) (raised : Raised) : Confined Inert (sshFailure deadline role raised) := by
  have late : ∀ error, Confined Inert (do
      let _ ← remaining deadline
      Program.raise error : Net Handle) := by
    intro error
    exact (remaining_inert deadline).bind (fun _ => Confined.raise _)
  cases raised with
  | os | timedOut | unicode | ssh | eof | value => exact late _
  | _ => exact Confined.raise _

theorem connectSsh_inert (endpoint : Endpoint) (stream : Handle) (demoMode : Bool) (role : String) :
    Confined Inert (connectSsh N deadline endpoint stream demoMode role) := by
  apply Confined.bind (Confined.ask trivial)
  intro client
  apply (own_inert client).bind
  intro client
  exact (handshake_inert N deadline endpoint stream demoMode role client).catching (sshFailure_inert deadline role)

theorem channelFailure_inert (raised : Raised) : Confined Inert (channelFailure deadline raised) := by
  apply Confined.ite
  · exact (remaining_inert deadline).bind (fun _ => Confined.raise _)
  · exact Confined.raise _

end

/-! What sends or connects is confined to inert commands and the ones it is made for. -/

section

variable {Token : Type} (N : Libraries Token) (deadline : Deadline)
variable {allowed : (β : Type) → Command β → Prop} (inert : ∀ β command, Inert β command → allowed β command)

include inert

theorem send_confined (stream : Handle) (payload : Bytes) (sends : allowed _ (.sendall stream payload)) :
    Confined allowed (send deadline stream payload) := by
  apply ((remaining_inert deadline).mono inert).bind
  intro left
  apply ((settimeout_inert stream left).mono inert).bind
  intro _
  exact confined_attempt (Confined.ask sends)

theorem connectFirst_confined (stage : String) (infos : List AddressInfo)
    (opens : ∀ sock, ∀ info ∈ infos, allowed _ (.connect sock info.address)) :
    Confined allowed (connectFirst deadline stage infos) := by
  induction infos with
  | nil => exact Confined.raise _
  | cons info rest ih =>
      apply ((socket_inert info).mono inert).bind
      intro sock
      apply ((own_inert sock).mono inert).bind
      intro sock
      apply ((remaining_inert deadline).mono inert).bind
      intro left
      apply ((settimeout_inert sock left).mono inert).bind
      intro _
      have tried : Confined allowed (Program.catching (do
          Net.connect sock info.address
          return true) (refused deadline sock)) := by
        apply Confined.catching
        · apply (confined_attempt (Confined.ask (opens sock info List.mem_cons_self))).bind
          exact fun _ => Confined.pure _
        · exact fun raised => (refused_inert deadline sock raised).mono inert
      apply tried.bind
      intro connected
      exact Confined.ite (Confined.pure _) (ih fun sock info member => opens sock info (List.mem_cons_of_mem _ member))

theorem socksAuth_confined (stream : Handle) (auth : Dict)
    (logins : ∀ rest, allowed _ (.sendall stream (1 :: rest))) : Confined allowed (socksAuth deadline stream auth) := by
  apply Confined.ite
  · apply (Confined.lift _).bind
    intro username
    apply (Confined.lift _).bind
    intro password
    apply (Confined.lift _).bind
    intro _
    apply (send_confined deadline inert stream _ (logins _)).bind
    intro _
    apply ((receiveExact_inert deadline stream 2).mono inert).bind
    exact fun verdict => Confined.lift _
  · exact Confined.pure _

theorem socks5_confined (stream : Handle) (connector : Endpoint) (device : Device)
    (greets : ∀ method, allowed _ (.sendall stream [5, 1, method])) (logins : ∀ rest, allowed _ (.sendall stream (1 :: rest)))
    (requests : ∀ encoded, socksAddress N device.networkHost = .ok encoded →
      allowed _ (.sendall stream ([5, 1, 0] ++ encoded ++ Bytes.big 2 device.port.1.toNat))) :
    Confined allowed (socks5 N deadline stream connector device) := by
  apply (send_confined deadline inert stream _ (greets _)).bind
  intro _
  apply ((receiveExact_inert deadline stream 2).mono inert).bind
  intro greeting
  apply (Confined.lift _).bind
  intro _
  apply (socksAuth_confined deadline inert stream connector.auth logins).bind
  intro _
  apply Confined.lift_bind
  intro encoded written
  apply (send_confined deadline inert stream _ (requests encoded written)).bind
  intro _
  apply ((receiveExact_inert deadline stream 4).mono inert).bind
  intro reply
  apply (Confined.lift _).bind
  intro _
  apply (Confined.lift _).bind
  intro _
  apply ((boundLength_inert deadline stream _).mono inert).bind
  intro length
  exact ((receiveExact_inert deadline stream _).mono inert).bind (fun _ => Confined.pure _)

theorem httpConnect_confined (stream : Handle) (connector : Endpoint) (device : Device)
    (requests : ∀ request bytes, connectRequest connector device = .ok request → encodeAscii request = .ok bytes →
      allowed _ (.sendall stream bytes)) : Confined allowed (httpConnect deadline stream connector device) := by
  apply Confined.lift_bind
  intro request written
  apply Confined.lift_bind
  intro bytes encoded
  apply (send_confined deadline inert stream bytes (requests request bytes written encoded)).bind
  intro _
  apply ((receiveUntil_inert deadline stream _ _).mono inert).bind
  intro response
  cases connectStatus response with
  | none => exact Confined.raise _
  | some code =>
      apply Confined.ite (Confined.raise _)
      exact Confined.ite (Confined.raise _) (Confined.pure _)

theorem bastionChannel_confined (kind : ProxyType) (client : Handle) (device : Device)
    (opens : ∀ left, allowed _ (.openChannel client (device.networkHost, device.port) left))
    (commands : ∀ stream bytes,
      encodeAscii ("telnet " ++ quote device.networkHost ++ " " ++ toString device.port.1 ++ "\n") = .ok bytes →
      allowed _ (.sendall stream bytes)) : Confined allowed (bastionChannel deadline kind client device) := by
  apply Confined.ite
  · apply ((remaining_inert deadline).mono inert).bind
    intro left
    apply (confined_attempt (Confined.ask (opens left))).bind
    exact fun channel => (own_inert channel).mono inert
  · apply ((remaining_inert deadline).mono inert).bind
    intro left
    apply ((openSession_inert client left).mono inert).bind
    intro session
    apply ((own_inert session).mono inert).bind
    intro stream
    apply ((remaining_inert deadline).mono inert).bind
    intro left
    apply ((settimeout_inert stream left).mono inert).bind
    intro _
    have pty : Confined Inert (Net.getPty stream) := confined_attempt (Confined.ask trivial)
    apply (pty.mono inert).bind
    intro _
    have shell : Confined Inert (Net.invokeShell stream) := confined_attempt (Confined.ask trivial)
    apply (shell.mono inert).bind
    intro _
    apply ((readPrompt_waiting deadline stream _).mono fun β command waiting => inert β command (Waiting.inert command waiting)).bind
    intro _
    apply Confined.lift_bind
    intro bytes encoded
    exact (send_confined deadline inert stream bytes (commands stream bytes encoded)).bind (fun _ => Confined.pure _)

theorem throughProxy_confined (kind : ProxyType) (connector : Endpoint) (device : Device) (demoMode : Bool)
    (stream : Handle)
    (socks : kind = .socks5 → Confined allowed (socks5 N deadline stream connector device))
    (http : kind = .httpConnect → Confined allowed (httpConnect deadline stream connector device))
    (bastion : ∀ client, Confined allowed (bastionChannel deadline kind client device)) :
    Confined allowed (throughProxy N deadline kind connector device demoMode stream) := by
  have ssh : ∀ client, Confined allowed
      (Program.catching (bastionChannel deadline kind client device) (channelFailure deadline)) := by
    intro client
    exact (bastion client).catching (fun raised => (channelFailure_inert deadline raised).mono inert)
  cases kind with
  | socks5 => exact (socks rfl).bind (fun _ => Confined.pure _)
  | httpConnect => exact (http rfl).bind (fun _ => Confined.pure _)
  | sshTunnel | sshShell => exact ((connectSsh_inert N deadline connector stream demoMode "proxy").mono inert).bind ssh

end

section

variable {Token : Type} (N : Libraries Token) (deadline : Deadline)

theorem throughProxy_quiet (kind : ProxyType) (connector : Endpoint) (device : Device) (demoMode : Bool)
    (stream : Handle) : Confined Quiet (throughProxy N deadline kind connector device demoMode stream) := by
  have inert : ∀ β command, Inert β command → Quiet β command := fun _ _ => Inert.quiet
  apply throughProxy_confined N deadline inert
  · intro _
    exact socks5_confined N deadline inert stream connector device (fun _ => trivial) (fun _ => trivial)
      (fun _ _ => trivial)
  · intro _
    exact httpConnect_confined deadline inert stream connector device (fun _ _ _ _ => trivial)
  · intro client
    exact bastionChannel_confined deadline inert kind client device (fun _ => trivial) (fun _ _ _ => trivial)

end

end NetworkGateway.Connectors

namespace NetworkGateway.ConnectionTests

open Library.Interaction Program Connectors

section

variable {Token : Type} (N : Libraries Token) (deadline : Deadline)

theorem failureBy_inert (raised : Raised) : Confined Inert (failureBy deadline raised) := by
  apply expired_inert.bind
  intro expired
  apply Confined.ite (Confined.pure _)
  exact monotonic_inert.bind (fun _ => Confined.ite (Confined.pure _) (Confined.pure _))

theorem report_inert (outcome : Except Raised String) : Confined Inert (report deadline outcome) := by
  cases outcome with
  | ok detail => exact Confined.pure _
  | error raised => exact (failureBy_inert deadline raised).bind (fun _ => Confined.pure _)

section

variable {allowed : (β : Type) → Command β → Prop} (inert : ∀ β command, Inert β command → allowed β command)

include inert

theorem telnetLogin_confined (stream : Handle) (device : Device)
    (refuses : ∀ stream (payload : Bytes), payload.head? = some Telnet.iac → allowed _ (.sendall stream payload))
    (lines : ∀ key text, textItem device.auth key = .ok text → key = "username" ∨ key = "password" →
      allowed _ (.sendall stream (Bytes.utf8 text ++ [13, 10]))) :
    Confined allowed (telnetLogin deadline stream device) := by
  have reads : ∀ pattern negotiator, Confined allowed (readPrompt deadline stream pattern negotiator) := by
    intro pattern negotiator
    apply (readPrompt_negotiating deadline stream pattern negotiator).mono
    intro β command negotiating
    cases command with
    | sendall stream payload => exact refuses stream payload negotiating
    | _ => exact inert _ _ (Waiting.inert _ negotiating)
  apply (reads _ _).bind
  intro first
  apply Confined.lift_bind
  intro username name
  apply (send_confined deadline inert stream _ (lines _ _ name (.inl rfl))).bind
  intro _
  apply (reads _ _).bind
  intro second
  apply Confined.lift_bind
  intro password secret
  apply (send_confined deadline inert stream _ (lines _ _ secret (.inr rfl))).bind
  intro _
  exact (reads _ _).bind (fun _ => Confined.pure _)

theorem netconfHello_confined (client : Handle) (greets : ∀ stream, allowed _ (.sendall stream hello)) :
    Confined allowed (netconfHello N deadline client) := by
  apply ((remaining_inert deadline).mono inert).bind
  intro left
  apply ((openSession_inert client left).mono inert).bind
  intro session
  apply ((own_inert session).mono inert).bind
  intro channel
  apply ((remaining_inert deadline).mono inert).bind
  intro left
  apply ((settimeout_inert channel left).mono inert).bind
  intro _
  apply ((invokeSubsystem_inert channel _).mono inert).bind
  intro _
  apply (send_confined deadline inert channel hello (greets channel)).bind
  intro _
  exact ((receiveUntil_inert deadline channel _ _).mono inert).bind (fun _ => Confined.lift _)

theorem login_confined (device : Device) (demoMode : Bool) (stream : Handle)
    (telnet : device.protocol = .telnet → Confined allowed (telnetLogin deadline stream device))
    (greets : ∀ stream, allowed _ (.sendall stream hello)) :
    Confined allowed (login N deadline device demoMode stream) := by
  have authenticated := (connectSsh_inert N deadline device.toEndpoint stream demoMode "device").mono inert
  unfold login
  cases protocol : device.protocol with
  | telnet => exact (telnet protocol).bind (fun _ => Confined.pure _)
  | netconf =>
      apply authenticated.bind
      intro client
      exact (netconfHello_confined N deadline inert client greets).bind (fun _ => Confined.pure _)
  | ssh => exact authenticated.bind (fun _ => Confined.pure _)

end

theorem login_quiet (device : Device) (demoMode : Bool) (stream : Handle) :
    Confined Quiet (login N deadline device demoMode stream) := by
  have inert : ∀ β command, Inert β command → Quiet β command := fun _ _ => Inert.quiet
  apply login_confined N deadline inert
  · intro _
    exact telnetLogin_confined deadline inert stream device (fun _ _ _ => trivial) (fun _ _ _ _ => trivial)
  · exact fun _ => trivial

end

end NetworkGateway.ConnectionTests
