import NetworkGateway.Library.Surroundings
import NetworkGateway.Proofs.TextProtocols

/-! In demo mode nothing but loopback addresses is reached, directly or through a proxy. -/

namespace NetworkGateway.Connectors

open Library.Interaction Library.Reading Library.Result Program

section

variable {Token : Type} (N : Libraries Token)

/-- Whoever reads the bytes as a SOCKS5 request, as the head of a CONNECT request or as a
`telnet` command is asked for nothing but a loopback address. -/
structure Harmless (payload : Bytes) : Prop where
  socks : ∀ destination port left, Socks5Peer.request payload = some ((destination, port), left) →
    ∃ address, destination = .address address ∧ isLoopback address
  connect : ∀ text head left, Bytes.decodeAscii payload = some text →
    HttpConnectPeer.head text.toList = some (head, left) → LoopbackText N head.target.host
  telnet : ∀ text line host rest, Bytes.decodeAscii payload = some text → text.toList = line ++ ['\n'] →
    Library.Shell.words line = some ("telnet".toList :: host :: rest) → LoopbackText N (String.ofList host)

/-- Commands that look up no name, connect to loopback addresses and ask a proxy for nothing else. -/
def Contained (α : Type) : Command α → Prop
  | .startLookup _ _ => False
  | .connect _ address => LoopbackText N address.host
  | .sshConnect _ request => request.sock.isSome
  | .openChannel _ destination _ => LoopbackText N destination.1
  | .sendall _ payload => Harmless N payload
  | _ => True

variable {N}

theorem Inert.contained {α : Type} {command : Command α} (inert : Inert α command) : Contained N α command := by
  cases command with
  | connect | startLookup | sendall | openChannel => exact False.elim inert
  | sshConnect => exact inert
  | _ => trivial

/-! What tells the three readings apart. -/

theorem request_first {payload left : Bytes} {target : Socks5Peer.Destination × Nat}
    (read : Socks5Peer.request payload = some (target, left)) : payload.head? = some 5 := by
  simp only [Socks5Peer.request, Reader.bind_ok, Reader.next_ok] at read
  rcases read with ⟨version, _, rfl, command, _, rfl, reserved, _, rfl, kind, _, rfl, host, _, -, port, _, -, read⟩
  split at read
  · rename_i same
    rw [(Prod.mk.inj same).1]
    rfl
  · cases read

theorem splitChars_first {separator c : Char} {text part : List Char} {parts : List (List Char)}
    (split : Text.splitChars separator text = (c :: part) :: parts) : text.head? = some c := by
  cases text with
  | nil => cases split
  | cons first rest =>
      rw [Text.splitChars] at split
      split at split
      · cases split
      · split at split
        · cases split
          rfl
        · cases split
          rfl

theorem requestLine_first {text : List Char} {target : HttpConnectPeer.Authority}
    (read : HttpConnectPeer.requestLine text = some target) : text.head? = some 'C' := by
  unfold HttpConnectPeer.requestLine at read
  split at read
  · rename_i method host version parts
    split at read
    · rename_i named
      simp only [Bool.and_eq_true, decide_eq_true_iff] at named
      rw [named.1] at parts
      exact splitChars_first parts
    · cases read
  · cases read

theorem line_ok {text line left : List Char} (read : HttpConnectPeer.line text = some (line, left)) :
    text = line ++ '\r' :: '\n' :: left := by
  simp only [HttpConnectPeer.line, Reader.bind_ok, Reader.next_ok] at read
  rcases read with ⟨before, _, within, feed, _, rfl, kept⟩
  split at kept
  · rename_i plain
    simp only [Bool.and_eq_true, decide_eq_true_iff] at plain
    cases kept
    rw [Reader.upTo_ok within, plain.1]
  · cases kept

/-- The head of a request has a request line, and after it at least one line more. -/
theorem head_lines {text left : List Char} {head : HttpConnectPeer.Head}
    (read : HttpConnectPeer.head text = some (head, left)) :
    text.head? = some 'C' ∧ ∃ first rest, text = first ++ '\r' :: '\n' :: rest ∧ '\r' ∈ rest := by
  simp only [HttpConnectPeer.head, Reader.bind_ok, Reader.ofOption_ok] at read
  rcases read with ⟨first, later, line, target, _, ⟨request, rfl⟩, fields, _, headers, _⟩
  have whole := line_ok line
  have opening := requestLine_first request
  refine ⟨?_, first, later, whole, ?_⟩
  · rw [whole]
    cases first with
    | nil => cases opening
    | cons c first => exact opening
  · cases count : text.length with
    | zero =>
        rw [count] at headers
        cases headers
    | succ fuel =>
        rw [count] at headers
        simp only [HttpConnectPeer.headers, Reader.bind_ok] at headers
        rcases headers with ⟨next, rest, another, _⟩
        rw [line_ok another]
        simp

/-- The shell makes no words of a line that ends with a carriage return: outside quotes it is no
plain character, and inside them the quotation stays open. -/
theorem words_return (position : Library.Shell.Position) (text : List Char) :
    Library.Shell.wordsFrom position (text ++ ['\r']) = none := by
  induction text generalizing position with
  | nil => cases position <;> rfl
  | cons c text ih =>
      cases position with
      | between | word | quoted =>
          rw [List.cons_append, Library.Shell.wordsFrom]
          simp only [ih, Option.map_none, ite_self]

theorem words_first {c : Char} {rest : List Char} (odd : ¬Library.Shell.plain c) (solid : ¬(c = ' ' ∨ c = '\t'))
    (unquoted : c ≠ '\'') : Library.Shell.words (c :: rest) = none := by
  unfold Library.Shell.words
  rw [Library.Shell.wordsFrom, if_neg solid, if_neg unquoted, if_neg odd]

/-! The payloads of a connection test. -/

theorem decodeAscii_cons {b : UInt8} {rest : Bytes} {text : String} (decoded : Bytes.decodeAscii (b :: rest) = some text) :
    text.toList = Char.ofNat b.toNat :: rest.map (fun b => Char.ofNat b.toNat) := by
  unfold Bytes.decodeAscii at decoded
  split at decoded
  · cases decoded
    rw [String.toList_ofList]
    rfl
  · cases decoded

def Mute (b : UInt8) : Prop :=
  b ≠ 5 ∧ Char.ofNat b.toNat ≠ 'C' ∧ ¬Library.Shell.plain (Char.ofNat b.toNat) ∧
    ¬(Char.ofNat b.toNat = ' ' ∨ Char.ofNat b.toNat = '\t') ∧ Char.ofNat b.toNat ≠ '\''

instance (b : UInt8) : Decidable (Mute b) := by
  unfold Mute
  infer_instance

theorem harmless_socks {b : UInt8} {rest : Bytes}
    (unread : Char.ofNat b.toNat ≠ 'C' ∧ ¬Library.Shell.plain (Char.ofNat b.toNat) ∧
      ¬(Char.ofNat b.toNat = ' ' ∨ Char.ofNat b.toNat = '\t') ∧ Char.ofNat b.toNat ≠ '\'')
    (socks : ∀ destination port left, Socks5Peer.request (b :: rest) = some ((destination, port), left) →
      ∃ address, destination = .address address ∧ isLoopback address) : Harmless N (b :: rest) where
  socks := socks
  connect text head left decoded read := by
    have first := (head_lines read).1
    rw [decodeAscii_cons decoded] at first
    exact absurd (Option.some.inj first) unread.1
  telnet text line host rest decoded whole words := by
    rw [decodeAscii_cons decoded] at whole
    cases line with
    | nil =>
        rw [Library.Shell.words, Library.Shell.wordsFrom] at words
        cases words
    | cons c line =>
        rw [(List.cons.inj whole).1.symm, words_first unread.2.1 unread.2.2.1 unread.2.2.2] at words
        cases words

theorem harmless_mute {b : UInt8} {rest : Bytes} (mute : Mute b) : Harmless N (b :: rest) := by
  apply harmless_socks mute.2
  intro destination port left read
  exact absurd (Option.some.inj (request_first read)) mute.1

theorem harmless_greeting (method : UInt8) : Harmless N [5, 1, method] := by
  apply harmless_socks (by decide)
  intro destination port left read
  cases read

theorem harmless_request (laws : AddressLaws N) {device : Device} (valid : HostText N device.networkHost)
    (loopback : LoopbackText N device.networkHost) {encoded : Bytes}
    (written : socksAddress N device.networkHost = .ok encoded) :
    Harmless N ([5, 1, 0] ++ encoded ++ Bytes.big 2 device.port.1.toNat) := by
  rcases reads_request laws valid with ⟨own, same, reads⟩
  rw [written] at same
  cases same
  apply harmless_socks (by decide)
  intro destination port left read
  have known := reads []
  rw [List.append_nil] at known
  have equal := Option.some.inj (known.symm.trans read)
  rcases loopback with ⟨address, parsed, local_⟩
  refine ⟨address, ?_, local_⟩
  have target : destinationOf N device = .address address := by
    unfold destinationOf
    rw [parsed]
  rw [← (Prod.mk.inj (Prod.mk.inj equal).1).1, target]

theorem encodeAscii_ok {text : String} {bytes : Bytes} (encoded : encodeAscii text = .ok bytes) :
    Bytes.ascii text = some bytes := by
  unfold encodeAscii at encoded
  split at encoded
  · rename_i found
    cases encoded
    exact found
  · cases encoded

theorem harmless_text {text : String} {bytes : Bytes} (encoded : encodeAscii text = .ok bytes)
    (first : text.toList.head? ≠ some (Char.ofNat 5))
    (connect : ∀ head left, HttpConnectPeer.head text.toList = some (head, left) → LoopbackText N head.target.host)
    (telnet : ∀ line host rest, text.toList = line ++ ['\n'] →
      Library.Shell.words line = some ("telnet".toList :: host :: rest) → LoopbackText N (String.ofList host)) :
    Harmless N bytes := by
  have decoded := Bytes.decodeAscii_ascii (encodeAscii_ok encoded)
  have only : ∀ other, Bytes.decodeAscii bytes = some other → other = text := by
    intro other read
    exact Option.some.inj (read.symm.trans decoded)
  refine ⟨?_, ?_, ?_⟩
  · intro destination port left read
    have opening := request_first read
    cases bytes with
    | nil => cases opening
    | cons b rest =>
        rw [decodeAscii_cons decoded, Option.some.inj opening] at first
        exact absurd rfl first
  · intro other head left read
    rw [only other read]
    exact connect head left
  · intro other line host rest read
    rw [only other read]
    exact telnet line host rest

theorem harmless_head (laws : AddressLaws N) {connector : Endpoint} {device : Device} {login : Option (String × String)}
    (valid : HostText N device.networkHost) (loopback : LoopbackText N device.networkHost)
    (configured : Configured connector.auth login) {request : String} {bytes : Bytes}
    (written : connectRequest connector device = .ok request) (encoded : encodeAscii request = .ok bytes) :
    Harmless N bytes := by
  rcases connectRequest_text device configured with ⟨own, same, text⟩
  rw [written] at same
  cases same
  apply harmless_text encoded
  · rw [text]
    unfold headText
    simp
  · intro head left read
    have known := reads_head laws valid device.port login []
    rw [List.append_nil, ← text, read] at known
    rw [(Prod.mk.inj (Option.some.inj known)).1]
    exact loopback
  · intro line host rest whole words
    have before : request.toList = (("CONNECT ".toList ++ (authority device.networkHost device.port).toList ++
        " HTTP/1.1".toList) ++ ['\r', '\n'] ++ (fieldsOf login (authority device.networkHost device.port)).flatMap
          (fun field => headerText field ++ ['\r', '\n']) ++ ['\r']) ++ ['\n'] := by
      rw [text]
      unfold headText
      simp only [List.append_assoc, List.cons_append, List.nil_append]
    have same := List.append_inj_left' (whole.symm.trans before) rfl
    rw [same, Library.Shell.words, words_return] at words
    cases words

theorem harmless_command (laws : AddressLaws N) {device : Device} (valid : HostText N device.networkHost)
    (loopback : LoopbackText N device.networkHost) {bytes : Bytes}
    (encoded : encodeAscii ("telnet " ++ quote device.networkHost ++ " " ++ toString device.port.1 ++ "\n") = .ok bytes) :
    Harmless N bytes := by
  have text : ("telnet " ++ quote device.networkHost ++ " " ++ toString device.port.1 ++ "\n").toList =
      commandLine device.networkHost device.port ++ ['\n'] := by
    rw [quote_host laws valid]
    unfold commandLine
    simp
  apply harmless_text encoded
  · rw [text]
    unfold commandLine
    simp
  · intro head left read
    have first := (head_lines read).1
    rw [text] at first
    unfold commandLine at first
    simp at first
  · intro line host rest whole words
    have same := List.append_inj_left' (whole.symm.trans text) rfl
    rw [same, words_commandLine laws valid] at words
    have parts := List.cons.inj (Option.some.inj words)
    rw [← (List.cons.inj parts.2).1, String.ofList_toList]
    exact loopback

theorem harmless_line {text : String} (valid : LoginText text) : Harmless N (Bytes.utf8 text ++ [13, 10]) := by
  have decodes : ∀ line, Bytes.decodeAscii (Bytes.utf8 text ++ [13, 10]) = some line →
      line.toList = (Bytes.utf8 text).map (fun b => Char.ofNat b.toNat) ++ ['\r', '\n'] ∧
        '\r' ∉ (Bytes.utf8 text).map (fun b => Char.ofNat b.toNat) := by
    intro line decoded
    unfold Bytes.decodeAscii at decoded
    split at decoded
    · rename_i small
      cases decoded
      refine ⟨by simp, ?_⟩
      intro member
      rcases List.mem_map.mp member with ⟨b, listed, same⟩
      have ascii : b.toNat < 128 := by
        have every := List.all_eq_true.mp small b (List.mem_append_left _ listed)
        simpa [UInt8.lt_iff_toNat_lt] using every
      have value : (Char.ofNat b.toNat).toNat = b.toNat := by
        unfold Char.ofNat
        rw [dif_pos (.inl (by omega))]
        rfl
      rw [same] at value
      exact (valid.unbroken b listed).1 (UInt8.toNat.inj value.symm)
    · cases decoded
  refine ⟨?_, ?_, ?_⟩
  · intro destination port left read
    have opening := request_first read
    cases bytes : Bytes.utf8 text with
    | nil => exact absurd bytes (Bytes.utf8_ne_nil valid.present)
    | cons b rest =>
        rw [bytes] at opening
        have five : b = 5 := Option.some.inj opening
        rcases Bytes.utf8_byte (b := b) (by rw [bytes]; exact List.mem_cons_self) with ⟨c, listed, same, -⟩ | outside
        · have printable := valid.printable c listed
          rw [five] at same
          have control : c.toNat = 5 := same.symm
          omega
        · rw [five] at outside
          exact absurd outside.1 (by decide)
  · intro line head left decoded read
    rcases head_lines read with ⟨-, first, rest, whole, further⟩
    have once := List.count_eq_zero.mpr (decodes line decoded).2
    have counts := congrArg (List.count '\r') ((decodes line decoded).1.symm.trans whole)
    have more := List.count_pos_iff.mpr further
    simp only [List.count_append, List.count_cons, once] at counts
    simp at counts
    omega
  · intro line command host rest decoded whole words
    have before := (decodes line decoded).1
    have split : (Bytes.utf8 text).map (fun b => Char.ofNat b.toNat) ++ ['\r', '\n'] =
        ((Bytes.utf8 text).map (fun b => Char.ofNat b.toNat) ++ ['\r']) ++ ['\n'] := by simp
    rw [split] at before
    have same := List.append_inj_left' (whole.symm.trans before) rfl
    rw [same, Library.Shell.words, words_return] at words
    cases words

/-! The connection test. -/

/-- In demo mode the device and the proxy are reached at loopback addresses. -/
structure Pinned (N : Libraries Token) (device : Device) (connector : Connector) : Prop where
  accepted : Accepted N device connector
  target : LoopbackText N device.networkHost
  proxy : ∀ kind endpoint, connector = .proxy kind endpoint → LoopbackText N endpoint.networkHost

theorem validateProfile_pinned (laws : AddressLaws N) {profile : Value} {device : Device} {connector : Connector}
    {seconds : Timeout} (accepted : validateProfile N profile true = .ok (device, connector, seconds)) :
    Pinned N device connector where
  accepted := validateProfile_accepted laws accepted
  target := (validateProfile_ok accepted).1.loopback laws
  proxy kind endpoint same := ((validateProfile_ok accepted).2.2 kind endpoint same).1.loopback laws

variable {deadline : Deadline}

/-- A literal address is not looked up, and it is the only one that is tried. -/
theorem connectTcp_contained {host : String} (loopback : LoopbackText N host) (port : Port) (stage : String) :
    Confined (Contained N) (connectTcp N deadline host port stage) := by
  rcases loopback with ⟨address, read, local_⟩
  have resolved : resolve N deadline host port =
      pure [⟨if address.version = 6 then .inet6 else .inet, 1, 0, ⟨host, port.1, []⟩⟩] := by
    unfold resolve
    rw [read]
  unfold connectTcp
  rw [resolved]
  apply connectFirst_confined deadline (fun _ _ => Inert.contained)
  intro sock info member
  rw [List.mem_singleton.mp member]
  exact ⟨address, read, local_⟩

theorem socks5_contained (laws : AddressLaws N) {device : Device} {connector : Connector}
    (pinned : Pinned N device connector) (stream : Handle) (endpoint : Endpoint) :
    Confined (Contained N) (socks5 N deadline stream endpoint device) := by
  apply socks5_confined N deadline (fun _ _ => Inert.contained)
  · exact fun method => harmless_greeting method
  · exact fun rest => harmless_mute (by decide)
  · exact fun encoded written => harmless_request laws pinned.accepted.target pinned.target written

theorem httpConnect_contained (laws : AddressLaws N) {device : Device} {endpoint : Endpoint}
    (pinned : Pinned N device (.proxy .httpConnect endpoint)) (stream : Handle) :
    Confined (Contained N) (httpConnect deadline stream endpoint device) := by
  have auth := (pinned.accepted.proxy .httpConnect endpoint rfl).2.1
  simp only [proxyAuth, overSsh, bind_eq_ok] at auth
  rcases auth with ⟨_, fields, -⟩
  have configured : ∃ login, Configured endpoint.auth login := by
    rcases authFields_login fields with ⟨username, password, named, secret, -, -, given⟩ | ⟨-, missing⟩
    · exact ⟨some (username, password), .login given named secret⟩
    · exact ⟨none, .anonymous missing⟩
  rcases configured with ⟨login, configured⟩
  apply httpConnect_confined deadline (fun _ _ => Inert.contained)
  intro request bytes written encoded
  exact harmless_head laws pinned.accepted.target pinned.target configured written encoded

theorem bastionChannel_contained (laws : AddressLaws N) {device : Device} {connector : Connector}
    (pinned : Pinned N device connector) (kind : ProxyType) (client : Handle) :
    Confined (Contained N) (bastionChannel deadline kind client device) := by
  apply bastionChannel_confined deadline (fun _ _ => Inert.contained)
  · exact fun left => pinned.target
  · exact fun stream bytes encoded => harmless_command laws pinned.accepted.target pinned.target encoded

theorem openStream_contained (laws : AddressLaws N) {device : Device} {connector : Connector}
    (pinned : Pinned N device connector) (demoMode : Bool) :
    Confined (Contained N) (openStream N deadline device connector demoMode) := by
  cases connector with
  | direct => exact connectTcp_contained pinned.target device.port _
  | proxy kind endpoint =>
      apply (connectTcp_contained (pinned.proxy kind endpoint rfl) endpoint.port _).bind
      intro stream
      have through : Confined (Contained N) (throughProxy N deadline kind endpoint device demoMode stream) := by
        apply throughProxy_confined N deadline (fun _ _ => Inert.contained)
        · exact fun _ => socks5_contained laws pinned stream endpoint
        · rintro rfl
          exact httpConnect_contained laws pinned stream
        · exact fun client => bastionChannel_contained laws pinned kind client
      apply through.bind
      intro stream
      exact ((remaining_inert deadline).mono fun _ _ => Inert.contained).bind (fun _ => Confined.pure _)

end

end NetworkGateway.Connectors

namespace NetworkGateway.ConnectionTests

open Library.Interaction Library.Result Program Connectors

section

variable {Token : Type} {N : Libraries Token} {deadline : Deadline}

theorem login_contained {device : Device} {connector : Connector} (pinned : Pinned N device connector) (demoMode : Bool)
    (stream : Handle) : Confined (Contained N) (login N deadline device demoMode stream) := by
  apply login_confined N deadline (fun _ _ => Inert.contained)
  · intro telnet
    have fields := pinned.accepted.login
    rw [telnet] at fields
    apply telnetLogin_confined deadline (fun _ _ => Inert.contained)
    · intro stream payload refusal
      cases payload with
      | nil => cases refusal
      | cons b rest =>
          rw [Option.some.inj refusal]
          exact harmless_mute (by decide)
    · intro key text item named
      rcases authFields_login fields with ⟨username, password, name, secret, nameText, secretText, -⟩ | ⟨optional, -⟩
      · rcases named with rfl | rfl
        · rw [name] at item
          cases item
          exact harmless_line nameText
        · rw [secret] at item
          cases item
          exact harmless_line secretText
      · cases optional
  · intro stream
    have first : hello.head? = some 60 := by decide +kernel
    cases greeting : hello with
    | nil =>
        rw [greeting] at first
        cases first
    | cons b rest =>
        rw [greeting] at first
        rw [Option.some.inj first]
        exact harmless_mute (by decide)

theorem underDeadline_contained (laws : AddressLaws N) {device : Device} {connector : Connector}
    (pinned : Pinned N device connector) (seconds : Timeout) (demoMode : Bool) :
    Confined (Contained N) (underDeadline N device connector seconds demoMode) := by
  have inert : ∀ β command, Inert β command → Contained N β command := fun _ _ => Inert.contained
  apply (monotonic_inert.mono inert).bind
  intro now
  apply ((startTimer_inert seconds.1).mono inert).settle.bind
  intro entered
  cases entered with
  | error raised => exact Confined.pure _
  | ok _ =>
      have body : Confined (Contained N) (authenticate N ⟨now + seconds.1⟩ device connector demoMode) := by
        apply (openStream_contained laws pinned demoMode).bind
        intro stream
        apply (login_contained pinned demoMode stream).bind
        intro detail
        exact ((remaining_inert _).mono inert).bind (fun _ => Confined.pure _)
      apply body.settle.bind
      intro outcome
      apply (closeDeadline_inert.mono inert).bind
      intro _
      exact (report_inert _ outcome).mono inert

/-- Whatever the peers answer, a test in demo mode looks up no name, connects to loopback
addresses alone, and asks every proxy for loopback addresses alone. -/
theorem demo_contained (laws : AddressLaws N) (profile : Value) {events : List (Event Command)}
    {result : Except Raised Dict} (runs : Runs (runConnectionTest N profile true) events result) :
    ∀ event ∈ events, Contained N _ event.command := by
  have inert : ∀ β command, Inert β command → Contained N β command := fun _ _ => Inert.contained
  have checked : Confined (Contained N) (outcome N profile true) := by
    unfold outcome
    cases accepted : validateProfile N profile true with
    | error raised => exact Confined.pure _
    | ok settled =>
        rcases settled with ⟨device, connector, seconds⟩
        exact underDeadline_contained laws (validateProfile_pinned laws accepted) seconds true
  have whole : Confined (Contained N) (runConnectionTest N profile true) := by
    apply (monotonic_inert.mono inert).bind
    intro started
    apply checked.bind
    intro settled
    exact (monotonic_inert.mono inert).bind (fun _ => Confined.pure _)
  exact whole.commands runs

end

structure Exchange where
  replies : Bytes
  told : List Bytes

/-- Surroundings in which every connection is made and answered with the replies, in order. -/
def answering : Surroundings Command Exchange where
  answer command s := match command with
    | .monotonic => some (0, s)
    | .expired | .own _ => some (false, s)
    | .startTimer _ => some (.ok (), s)
    | .close _ | .closeDeadline => some ((), s)
    | .socket _ _ _ => some (.ok 3, s)
    | .settimeout _ _ | .connect _ _ => some (.ok (), s)
    | .sendall _ payload => some (.ok (), { s with told := s.told ++ [payload] })
    | .recv _ size => some (.ok (s.replies.take size), { s with replies := s.replies.drop size })
    | _ => none

def demoProfile : Value := .dict
  [("protocol", .str "ssh"), ("host", .str "::1"), ("port", .int 2222), ("username", .str "ops"),
   ("password", .str "hunter2"),
   ("connector", .dict [("type", .str "socks5"), ("host", .str "LocalHost"), ("port", .int 1080)])]

/-- The proxy takes the method and is asked for `[::1]:2222`, which it denies. -/
theorem demo_contained_refused :
    ∃ events result, Runs (runConnectionTest Bench.networked demoProfile true) events (.ok result) ∧
      ((runConnectionTest Bench.networked demoProfile true).play answering ⟨[5, 0, 5, 5, 0, 1], []⟩).map
          (fun played => played.2.told) =
        some [[5, 1, 0], [5, 1, 0, 4, 0, 0, 0, 0, 0, 0, 0, 0, 0, 0, 0, 0, 0, 0, 0, 1, 8, 174]] ∧
      Dict.get result "stage" = .str "proxy_connect" ∧ ∀ event ∈ events, Contained Bench.networked _ event.command := by
  have told : ((runConnectionTest Bench.networked demoProfile true).play answering ⟨[5, 0, 5, 5, 0, 1], []⟩).map
      (fun played => played.2.told) =
        some [[5, 1, 0], [5, 1, 0, 4, 0, 0, 0, 0, 0, 0, 0, 0, 0, 0, 0, 0, 0, 0, 0, 1, 8, 174]] := by decide +kernel
  have stage : ((runConnectionTest Bench.networked demoProfile true).play answering ⟨[5, 0, 5, 5, 0, 1], []⟩).bind
      (fun played => played.1.toOption.map (fun result => Dict.get result "stage")) =
        some (.str "proxy_connect") := by decide +kernel
  rcases play_returns stage with ⟨events, result, runs, shown⟩
  exact ⟨events, result, runs, told, shown, demo_contained (addressLaws rfl rfl) demoProfile runs⟩

end NetworkGateway.ConnectionTests
