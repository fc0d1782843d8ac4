import NetworkGateway.Library.Emissions
import NetworkGateway.Dal.Bench
import NetworkGateway.Demo.Socks5Peer
import NetworkGateway.Proofs.Confinement
import NetworkGateway.Proofs.Endpoints
import NetworkGateway.Proofs.Peers

/-! The SOCKS5 handshake: what the proxy reads from it, and when it succeeds. -/

namespace NetworkGateway.Connectors

open Library.Interaction Library.Reading Library.Result

variable {Token : Type} {N : Libraries Token}

/-! The messages. -/

inductive Configured (auth : Dict) : Option (String × String) → Prop where
  | anonymous : (Dict.get auth "username").truthy = false → Configured auth none
  | login {username password : String} : (Dict.get auth "username").truthy = true →
      textItem auth "username" = .ok username → textItem auth "password" = .ok password →
      Configured auth (some (username, password))

def Fits : Option (String × String) → Prop
  | none => True
  | some (username, password) => (Bytes.utf8 username).length ≤ 255 ∧ (Bytes.utf8 password).length ≤ 255

instance (login : Option (String × String)) : Decidable (Fits login) := by
  unfold Fits
  split <;> infer_instance

def methodOf (login : Option (String × String)) : UInt8 := if login.isSome then 2 else 0

def greetingOf (login : Option (String × String)) : Bytes := [5, 1, methodOf login]

def loginOf : Option (String × String) → List Bytes
  | none => []
  | some (username, password) =>
      [[1, UInt8.ofNat (Bytes.utf8 username).length] ++ Bytes.utf8 username ++
        [UInt8.ofNat (Bytes.utf8 password).length] ++ Bytes.utf8 password]

/-- Where a device is reached: the address its host is the text of, or its host as a name. -/
def destinationOf (N : Libraries Token) (device : Device) : Socks5Peer.Destination :=
  match N.ipAddress device.networkHost with
  | some address => .address address
  | none => .name device.networkHost

def requestOf (encoded : Bytes) (device : Device) : Bytes := [5, 1, 0] ++ encoded ++ Bytes.big 2 device.port.1.toNat

/-- Everything the proxy is sent when it agrees to each step. -/
def exchange (login : Option (String × String)) (encoded : Bytes) (device : Device) : List Bytes :=
  if Fits login then greetingOf login :: loginOf login ++ [requestOf encoded device] else [greetingOf login]

/-! What the proxy reads. -/

theorem hostname_ascii {name : String} (valid : hostname name = true) :
    ∃ encoded, Bytes.ascii name = some encoded ∧ encoded.length < 256 := by
  simp only [hostname, Bool.and_eq_true, decide_eq_true_iff, List.all_eq_true] at valid
  rcases valid with ⟨⟨short, characters⟩, -⟩
  have plain : name.toList.all (fun c => c.toNat < 128) = true := by
    rw [List.all_eq_true]
    intro c member
    have kind := characters c member
    rw [decide_eq_true_iff]
    simp only [Bool.or_eq_true, beq_iff_eq] at kind
    rcases kind with (letter | rfl) | rfl
    · have range := Text.isAlphanum_iff.mp letter
      omega
    · decide
    · decide
  refine ⟨name.toList.map (fun c => UInt8.ofNat c.toNat), by rw [Bytes.ascii, if_pos plain], ?_⟩
  rw [List.length_map]
  omega

theorem reads_destination (laws : AddressLaws N) {device : Device} (valid : HostText N device.networkHost) :
    ∃ kind packed, socksAddress N device.networkHost = .ok (kind :: packed) ∧
      Reader.Reads (Socks5Peer.destination kind) packed (destinationOf N device) := by
  unfold socksAddress destinationOf
  cases read : N.ipAddress device.networkHost with
  | some address =>
      rcases laws.version _ address read with ⟨four, small⟩ | ⟨six, small⟩
      · refine ⟨1, Bytes.big 4 address.value, by simp only [four, if_true], ?_⟩
        rw [Socks5Peer.destination, if_pos rfl]
        apply (Reader.reads_exact (Bytes.big_length 4 address.value)).finish
        have value : Bytes.ofBig (Bytes.big 4 address.value) = address.value := Bytes.ofBig_big small
        rw [value, ← four]
        exact Reader.reads_pure _
      · refine ⟨4, Bytes.big 16 address.value, by simp only [six]; rfl, ?_⟩
        rw [Socks5Peer.destination, if_neg (by decide), if_pos rfl]
        apply (Reader.reads_exact (Bytes.big_length 16 address.value)).finish
        have value : Bytes.ofBig (Bytes.big 16 address.value) = address.value := Bytes.ofBig_big small
        rw [value, ← six]
        exact Reader.reads_pure _
  | none =>
      rcases hostname_ascii (valid.named read) with ⟨encoded, ascii, short⟩
      refine ⟨3, UInt8.ofNat encoded.length :: encoded, by simp only [ascii, short, if_true], ?_⟩
      have length : encoded.length = (UInt8.ofNat encoded.length).toNat := (UInt8.toNat_ofNat_of_lt' short).symm
      rw [Socks5Peer.destination, if_neg (by decide), if_neg (by decide), if_pos rfl]
      apply Reader.Reads.bind (Reader.reads_next (UInt8.ofNat encoded.length))
      apply (Reader.reads_exact length).finish
      apply (Reader.reads_ofOption (Bytes.decodeAscii_ascii ascii)).finish
      exact Reader.reads_pure _

theorem byte_length {bytes : Bytes} (fits : bytes.length ≤ 255) : (UInt8.ofNat bytes.length).toNat = bytes.length :=
  UInt8.toNat_ofNat_of_lt' (Nat.lt_of_le_of_lt fits (by decide))

theorem reads_greeting (login : Option (String × String)) :
    Reader.Reads Socks5Peer.greeting (greetingOf login) [methodOf login] :=
  fun _ => rfl

theorem reads_field {text : String} (fits : (Bytes.utf8 text).length ≤ 255) :
    Reader.Reads (Reader.exact (UInt8.ofNat (Bytes.utf8 text).length).toNat) (Bytes.utf8 text) (Bytes.utf8 text) :=
  Reader.reads_exact (byte_length fits).symm

theorem reads_login {username password : String} (fits : Fits (some (username, password))) :
    Reader.Reads Socks5Peer.login (loginOf (some (username, password))).flatten (username, password) := by
  have parts : (loginOf (some (username, password))).flatten =
      [1] ++ ([UInt8.ofNat (Bytes.utf8 username).length] ++ (Bytes.utf8 username ++
        ([UInt8.ofNat (Bytes.utf8 password).length] ++ Bytes.utf8 password))) := by
    simp [loginOf]
  rw [parts]
  apply Reader.Reads.bind (Reader.reads_next 1)
  apply Reader.Reads.bind (Reader.reads_next _)
  apply Reader.Reads.bind (reads_field fits.1)
  apply Reader.Reads.start (Reader.reads_ofOption (Bytes.decodeUtf8_utf8 username))
  apply Reader.Reads.bind (Reader.reads_next _)
  apply (reads_field fits.2).finish
  apply (Reader.reads_ofOption (Bytes.decodeUtf8_utf8 password)).finish
  exact Reader.reads_pure _

theorem reads_request (laws : AddressLaws N) {device : Device} (valid : HostText N device.networkHost) :
    ∃ encoded, socksAddress N device.networkHost = .ok encoded ∧
      Reader.Reads Socks5Peer.request (requestOf encoded device) (destinationOf N device, device.port.1.toNat) := by
  rcases reads_destination laws valid with ⟨kind, packed, addressed, read⟩
  refine ⟨kind :: packed, addressed, ?_⟩
  have parts : requestOf (kind :: packed) device =
      [5] ++ ([1] ++ ([0] ++ ([kind] ++ (packed ++ Bytes.big 2 device.port.1.toNat)))) := by
    simp [requestOf]
  have inRange : device.port.1.toNat < 256 ^ 2 := by
    have bounds := device.port.2
    omega
  rw [parts]
  apply Reader.Reads.bind (Reader.reads_next 5)
  apply Reader.Reads.bind (Reader.reads_next 1)
  apply Reader.Reads.bind (Reader.reads_next 0)
  apply Reader.Reads.bind (Reader.reads_next kind)
  apply Reader.Reads.bind read
  apply (Reader.reads_exact (Bytes.big_length 2 device.port.1.toNat)).finish
  rw [if_pos rfl, Bytes.ofBig_big inRange]
  exact Reader.reads_pure _

/-- The proxy reads the login, the destination and the port as they are configured. -/
theorem reads_exchange (laws : AddressLaws N) {device : Device} (valid : HostText N device.networkHost)
    {login : Option (String × String)} (fits : Fits login) :
    ∃ encoded, socksAddress N device.networkHost = .ok encoded ∧
      Reader.Reads (Socks5Peer.handle (methodOf login)) (exchange login encoded device).flatten
        ⟨[methodOf login], login, destinationOf N device, device.port.1.toNat⟩ := by
  rcases reads_request laws valid with ⟨encoded, addressed, read⟩
  refine ⟨encoded, addressed, ?_⟩
  have parts : (exchange login encoded device).flatten =
      greetingOf login ++ ((loginOf login).flatten ++ requestOf encoded device) := by
    simp [exchange, fits]
  rw [parts]
  apply Reader.Reads.bind (reads_greeting login)
  rw [if_pos (by simp)]
  cases login with
  | none =>
      apply Reader.Reads.start (Reader.reads_pure none)
      apply read.finish
      exact Reader.reads_pure _
  | some login =>
      have taken : Reader.Reads (do return some (← Socks5Peer.login)) (loginOf (some login)).flatten (some login) :=
        (reads_login fits).finish (Reader.reads_pure _)
      apply Reader.Reads.bind taken
      apply read.finish
      exact Reader.reads_pure _

/-! The steps of the handshake. -/

section Steps

variable (deadline : Deadline) (stream : Handle) {connector : Endpoint} {device : Device}
  {login : Option (String × String)} {encoded : Bytes}

/-- What `_socks5` does after its greeting. -/
def loggedIn (login : Option (String × String)) : Net Unit :=
  match login with
  | none => pure ()
  | some (username, password) => socksLogin deadline stream username password

/-- What `_socks5` does after its request. -/
def replied : Net Unit := do
  let reply ← receiveExact deadline stream 4
  let field := fun i => reply.1.getD i 0
  raiseIf (field 0 ≠ 5 || field 2 ≠ 0 || !([1, 3, 4].contains (field 3)))
    (.connector "protocol" "The SOCKS5 proxy returned an invalid response.")
  raiseIf (field 1 ≠ 0)
    (.connector "proxy_connect" "The SOCKS5 proxy denied or could not reach the destination.")
  let length ← boundLength deadline stream (field 3)
  let _ ← receiveExact deadline stream (length + 2)
  return ()

theorem socks5_steps (configured : Configured connector.auth login)
    (addressed : socksAddress N device.networkHost = .ok encoded) :
    socks5 N deadline stream connector device = (do
      send deadline stream (greetingOf login)
      let greeting ← receiveExact deadline stream 2
      raiseIf (greeting.1 ≠ [5, methodOf login])
        (.connector "proxy_auth" "The SOCKS5 proxy rejected the selected authentication method.")
      loggedIn deadline stream login
      send deadline stream (requestOf encoded device)
      replied deadline stream) := by
  unfold socks5 socksAuth
  cases configured with
  | anonymous anonymous =>
      simp only [anonymous, addressed, Bool.false_eq_true, if_false]
      rfl
  | login named username password =>
      simp only [named, username, password, addressed, if_true]
      rfl

/-! What is sent. -/

def payloads (α : Type) : Command α → List Bytes
  | .sendall _ payload => [payload]
  | _ => []

theorem Waiting.silent {α : Type} (command : Command α) (waiting : Waiting α command) : payloads α command = [] := by
  cases command with
  | sendall => exact False.elim waiting
  | _ => rfl

theorem waits_silent {α : Type} {p : Net α} (waits : Program.Confined Waiting p) : Program.Emits payloads p [] :=
  Program.Emits.silent (waits.mono fun _ => Waiting.silent)

theorem send_emitting {ω : Type} {emit : (α : Type) → Command α → List ω}
    (silent : ∀ α (command : Command α), Waiting α command → emit α command = []) (payload : Bytes) :
    Program.Emits emit (send deadline stream payload) (emit _ (.sendall stream payload)) := by
  have waits : ∀ {α : Type} {p : Net α}, Program.Confined Waiting p → Program.Emits emit p [] :=
    fun waiting => Program.Emits.silent (waiting.mono silent)
  apply Program.Emits.silent_bind (waits (remaining_waiting deadline))
  intro left
  apply Program.Emits.silent_bind (waits (settimeout_waiting stream left))
  intro _
  have asked : Program.Emits emit (Program.ask (.sendall stream payload) : Net (Except Raised Unit))
      (emit _ (.sendall stream payload)) := Program.Emits.ask _
  exact asked.bind_silent fun outcome => Program.Emits.lift outcome

theorem send_emits (payload : Bytes) : Program.Emits payloads (send deadline stream payload) [payload] :=
  send_emitting deadline stream (fun _ => Waiting.silent) payload

theorem replied_emits : Program.Emits payloads (replied deadline stream) [] := by
  apply waits_silent
  apply (receiveExact_waiting deadline stream 4).bind
  intro reply
  apply Program.Confined.bind (Program.Confined.lift _)
  intro _
  apply Program.Confined.bind (Program.Confined.lift _)
  intro _
  apply (boundLength_waiting deadline stream _).bind
  intro length
  apply (receiveExact_waiting deadline stream (length + 2)).bind
  intro _
  exact Program.Confined.pure _

theorem loggedIn_emits (fits : Fits login) : Program.Emits payloads (loggedIn deadline stream login) (loginOf login) := by
  cases login with
  | none => exact Program.Emits.lift (.ok ())
  | some login =>
      apply Program.Emits.silent_bind (Program.Emits.lift _)
      intro _
      apply Program.Emits.bind_silent (send_emits deadline stream _)
      intro _
      apply Program.Emits.bind_silent (waits_silent (receiveExact_waiting deadline stream 2))
      intro verdict
      exact Program.Emits.lift _

theorem loggedIn_long (long : ¬Fits login) :
    loggedIn deadline stream login =
      Program.raise (validation "SOCKS5 credentials cannot exceed 255 encoded bytes.") := by
  cases login with
  | none => exact absurd trivial long
  | some login =>
      have tooLong : (255 < (Bytes.utf8 login.1).length || 255 < (Bytes.utf8 login.2).length) = true := by
        rw [Bool.or_eq_true, decide_eq_true_iff, decide_eq_true_iff]
        unfold Fits at long
        omega
      unfold loggedIn socksLogin raiseIf
      simp only [tooLong]
      rfl

/-- In every run the proxy is sent a beginning of the exchange, and all of it when the handshake succeeds. -/
theorem socks5_emits (configured : Configured connector.auth login)
    (addressed : socksAddress N device.networkHost = .ok encoded) :
    Program.Emits payloads (socks5 N deadline stream connector device) (exchange login encoded device) := by
  rw [socks5_steps deadline stream configured addressed]
  unfold exchange
  by_cases fits : Fits login
  · rw [if_pos fits]
    apply (send_emits deadline stream (greetingOf login)).bind
    intro _
    apply Program.Emits.silent_bind (waits_silent (receiveExact_waiting deadline stream 2))
    intro greeting
    apply Program.Emits.silent_bind (Program.Emits.lift _)
    intro _
    apply (loggedIn_emits deadline stream fits).bind
    intro _
    apply (send_emits deadline stream (requestOf encoded device)).bind_silent
    intro _
    exact replied_emits deadline stream
  · rw [if_neg fits, loggedIn_long deadline stream fits]
    apply (send_emits deadline stream (greetingOf login)).bind_silent
    intro _
    apply Program.Emits.silent_bind (waits_silent (receiveExact_waiting deadline stream 2))
    intro greeting
    apply Program.Emits.silent_bind (Program.Emits.lift _)
    intro _
    exact Program.Emits.raise _

end Steps

/-! What the proxy answers. -/

inductive BoundAddress : UInt8 → Bytes → Prop where
  | ipv4 {address : Bytes} : address.length = 4 → BoundAddress 1 address
  | name {length : UInt8} {host : Bytes} : length ≠ 0 → host.length = length.toNat → BoundAddress 3 (length :: host)
  | ipv6 {address : Bytes} : address.length = 16 → BoundAddress 4 address

/-- A reply that grants the request. -/
inductive Grants : Bytes → Prop where
  | reply {type : UInt8} {bound port : Bytes} : BoundAddress type bound → port.length = 2 →
      Grants ([5, 0, 0, type] ++ (bound ++ port))

def loginVerdict (login : Option (String × String)) : Bytes := if login.isSome then [1, 0] else []

/-- The proxy chooses the offered method, accepts the login and grants the request. -/
inductive Accepts (login : Option (String × String)) : Bytes → Prop where
  | handshake {reply : Bytes} : Grants reply → Accepts login ([5, methodOf login] ++ (loginVerdict login ++ reply))

section Replies

variable {deadline : Deadline} {stream : Handle} {closes : Bool} {bytes part more sent : Bytes}
  {login : Option (String × String)}

theorem raiseIf_fails {condition : Bool} (met : condition = true) (error : Raised) {pre : Peer → Prop} :
    Program.Fails (peer closes) pre (raiseIf condition error) := by
  rw [met]
  exact Program.Fails.raise error

theorem raiseIf_yields {condition : Bool} (unmet : condition = false) (error : Raised) {pre : Peer → Prop} :
    Program.Yields (peer closes) pre (raiseIf condition error) (.ok ()) pre := by
  rw [unmet]
  exact Program.Yields.done fun _ held => held

theorem long_enough (bytes : Bytes) (size : Nat) :
    bytes.length < size ∨ ∃ part more, bytes = part ++ more ∧ part.length = size := by
  by_cases few : bytes.length < size
  · exact .inl few
  · refine .inr ⟨bytes.take size, bytes.drop size, (List.take_append_drop size bytes).symm, ?_⟩
    rw [List.length_take]
    omega

def boundRead (deadline : Deadline) (stream : Handle) (type : UInt8) : Net Unit := do
  let length ← boundLength deadline stream type
  let _ ← receiveExact deadline stream (length + 2)
  return ()

theorem fixed_yields {type : UInt8} {size : Nat} (known : boundLength deadline stream type = pure size)
    (length : part.length = size + 2) :
    Program.Yields (peer closes) (Holding deadline (part ++ more) sent) (boundRead deadline stream type) (.ok ())
      (Holding deadline more sent) := by
  unfold boundRead
  rw [known]
  rcases Peer.receiveExact_yields length with ⟨read, -, yields⟩
  exact yields.bind (Program.Yields.done fun _ held => held)

theorem boundLength_name {length : UInt8} (present : length ≠ 0) :
    Program.Yields (peer closes) (Holding deadline (length :: more) sent) (boundLength deadline stream 3)
      (.ok length.toNat) (Holding deadline more sent) := by
  have first : ∃ read, read.1 = [length] ∧ Program.Yields (peer closes) (Holding deadline ([length] ++ more) sent)
      (receiveExact deadline stream 1) (.ok read) (Holding deadline more sent) := Peer.receiveExact_yields rfl
  rcases first with ⟨read, value, yields⟩
  unfold boundLength
  rw [if_neg (by decide), if_neg (by decide)]
  apply yields.bind
  have nonzero : ¬length.toNat = 0 := fun zero => present (UInt8.toNat_inj.mp zero)
  simp only [value, List.getD_cons_zero, nonzero, if_false]
  exact Program.Yields.done fun _ held => held

theorem boundLength_unnamed :
    Program.Fails (peer closes) (Holding deadline (0 :: more) sent) (boundLength deadline stream 3) := by
  have first : ∃ read, read.1 = [0] ∧ Program.Yields (peer closes) (Holding deadline ([0] ++ more) sent)
      (receiveExact deadline stream 1) (.ok read) (Holding deadline more sent) := Peer.receiveExact_yields rfl
  rcases first with ⟨read, value, yields⟩
  unfold boundLength
  rw [if_neg (by decide), if_neg (by decide)]
  apply yields.bind_fails
  rw [value]
  exact Program.Fails.raise _

theorem boundRead_yields {type : UInt8} {bound port : Bytes} (address : BoundAddress type bound)
    (length : port.length = 2) :
    Program.Yields (peer closes) (Holding deadline (bound ++ port ++ more) sent) (boundRead deadline stream type)
      (.ok ()) (Holding deadline more sent) := by
  cases address with
  | ipv4 four => exact fixed_yields rfl (by rw [List.length_append, four, length])
  | ipv6 sixteen => exact fixed_yields rfl (by rw [List.length_append, sixteen, length])
  | @name size host present host_length =>
      unfold boundRead
      rw [List.cons_append, List.cons_append]
      apply (boundLength_name present).bind
      have whole : (host ++ port).length = size.toNat + 2 := by rw [List.length_append, host_length, length]
      rcases Peer.receiveExact_yields whole with ⟨read, -, yields⟩
      exact yields.bind (Program.Yields.done fun _ held => held)

theorem fixed_fails {type : UInt8} {size : Nat} (known : boundLength deadline stream type = pure size)
    (few : bytes.length < size + 2) :
    Program.Fails (peer closes) (Holding deadline bytes sent) (boundRead deadline stream type) := by
  unfold boundRead
  rw [known]
  exact (Peer.receiveExact_fails few).bind

/-- An address of a known length is followed by the port, unless there are too few bytes. -/
theorem address_split (bytes : Bytes) (size : Nat) :
    bytes.length < size + 2 ∨
      ∃ bound port more, bytes = bound ++ port ++ more ∧ bound.length = size ∧ port.length = 2 := by
  rcases long_enough bytes (size + 2) with few | ⟨part, more, rfl, length⟩
  · exact .inl few
  · rcases long_enough part size with few | ⟨bound, port, rfl, exact⟩
    · omega
    · rw [List.length_append] at length
      exact .inr ⟨bound, port, more, rfl, exact, by omega⟩

theorem boundRead_fails {type : UInt8} (known : type = 1 ∨ type = 3 ∨ type = 4)
    (refused : ¬∃ bound port more, bytes = bound ++ port ++ more ∧ BoundAddress type bound ∧ port.length = 2) :
    Program.Fails (peer closes) (Holding deadline bytes sent) (boundRead deadline stream type) := by
  rcases known with rfl | rfl | rfl
  · rcases address_split bytes 4 with few | ⟨bound, port, more, same, four, length⟩
    · exact fixed_fails rfl few
    · exact absurd ⟨bound, port, more, same, .ipv4 four, length⟩ refused
  · cases bytes with
    | nil =>
        have empty : ([] : Bytes).length < 1 := by decide
        exact ((Peer.receiveExact_fails empty).bind).bind
    | cons size rest =>
        by_cases present : size = 0
        · rw [present]
          exact boundLength_unnamed.bind
        · apply (boundLength_name present).bind_fails
          rcases address_split rest size.toNat with few | ⟨bound, port, more, rfl, exact, length⟩
          · exact (Peer.receiveExact_fails few).bind
          · exact absurd ⟨size :: bound, port, more, rfl, .name present exact, length⟩ refused
  · rcases address_split bytes 16 with few | ⟨bound, port, more, same, sixteen, length⟩
    · exact fixed_fails rfl few
    · exact absurd ⟨bound, port, more, same, .ipv6 sixteen, length⟩ refused

theorem replied_yields {reply : Bytes} (granted : Grants reply) :
    Program.Yields (peer closes) (Holding deadline (reply ++ more) sent) (replied deadline stream) (.ok ())
      (Holding deadline more sent) := by
  cases granted with
  | @reply type bound port address length =>
      have head : ∃ read, read.1 = [5, 0, 0, type] ∧
          Program.Yields (peer closes) (Holding deadline ([5, 0, 0, type] ++ (bound ++ port ++ more)) sent)
            (receiveExact deadline stream 4) (.ok read) (Holding deadline (bound ++ port ++ more) sent) :=
        Peer.receiveExact_yields rfl
      rcases head with ⟨read, value, yields⟩
      have rest : Program.Yields (peer closes) (Holding deadline (bound ++ port ++ more) sent)
          (boundRead deadline stream type) (.ok ()) (Holding deadline more sent) := boundRead_yields address length
      rw [List.append_assoc]
      apply yields.bind
      rw [value]
      cases address with
      | ipv4 | ipv6 | name => exact rest

theorem replied_fails (refused : ¬∃ reply more, bytes = reply ++ more ∧ Grants reply) :
    Program.Fails (peer closes) (Holding deadline bytes sent) (replied deadline stream) := by
  rcases long_enough bytes 4 with few | ⟨head, rest, rfl, length⟩
  · exact (Peer.receiveExact_fails few).bind
  · have first : ∃ read, read.1 = head ∧ Program.Yields (peer closes) (Holding deadline (head ++ rest) sent)
        (receiveExact deadline stream 4) (.ok read) (Holding deadline rest sent) := Peer.receiveExact_yields length
    rcases first with ⟨read, value, yields⟩
    apply yields.bind_fails
    have shape : ∃ version code reserved type, head = [version, code, reserved, type] := by
      match head, length with
      | [version, code, reserved, type], _ => exact ⟨version, code, reserved, type, rfl⟩
    rcases shape with ⟨version, code, reserved, type, rfl⟩
    simp only [value, List.getD_cons_zero, List.getD_cons_succ]
    by_cases formed : version = 5 ∧ reserved = 0 ∧ (type = 1 ∨ type = 3 ∨ type = 4)
    · rcases formed with ⟨rfl, rfl, known⟩
      apply (raiseIf_yields (by rcases known with rfl | rfl | rfl <;> rfl) _).bind_fails
      by_cases granted : code = 0
      · subst granted
        apply (raiseIf_yields rfl _).bind_fails
        apply boundRead_fails known
        intro address
        rcases address with ⟨bound, port, left, rfl, address, length⟩
        exact refused ⟨_, left, by simp, .reply address length⟩
      · exact (raiseIf_fails (by simpa using granted) _).bind
    · refine (raiseIf_fails ?_ _).bind
      by_contra met
      apply formed
      simpa [and_assoc, or_iff_not_imp_left] using met

theorem loggedIn_yields (fits : Fits login) :
    Program.Yields (peer closes) (Holding deadline (loginVerdict login ++ more) sent) (loggedIn deadline stream login)
      (.ok ()) (Holding deadline more (sent ++ (loginOf login).flatten)) := by
  cases login with
  | none =>
      apply Program.Yields.done
      intro s held
      simpa [loginVerdict, loginOf] using held
  | some login =>
      have short : (255 < (Bytes.utf8 login.1).length || 255 < (Bytes.utf8 login.2).length) = false := by
        rw [Bool.or_eq_false_iff, decide_eq_false_iff_not, decide_eq_false_iff_not]
        unfold Fits at fits
        omega
      apply (raiseIf_yields short _).bind
      apply (Peer.send_holding _).bind
      have verdict : ∃ read, read.1 = [1, 0] ∧
          Program.Yields (peer closes) (Holding deadline ([1, 0] ++ more) (sent ++ (loginOf (some login)).flatten))
            (receiveExact deadline stream 2) (.ok read) (Holding deadline more (sent ++ (loginOf (some login)).flatten)) :=
        Peer.receiveExact_yields rfl
      rcases verdict with ⟨read, value, yields⟩
      have sentAll : (loginOf (some login)).flatten = [1, UInt8.ofNat (Bytes.utf8 login.1).length] ++ Bytes.utf8 login.1 ++
          [UInt8.ofNat (Bytes.utf8 login.2).length] ++ Bytes.utf8 login.2 := List.append_nil _
      rw [sentAll] at yields ⊢
      apply yields.bind
      exact raiseIf_yields (by simp [value]) _

theorem loggedIn_fails (refused : ¬(Fits login ∧ ∃ more, bytes = loginVerdict login ++ more)) :
    Program.Fails (peer closes) (Holding deadline bytes sent) (loggedIn deadline stream login) := by
  cases login with
  | none => exact absurd ⟨trivial, bytes, rfl⟩ refused
  | some login =>
      by_cases fits : Fits (some login)
      · have short : (255 < (Bytes.utf8 login.1).length || 255 < (Bytes.utf8 login.2).length) = false := by
          rw [Bool.or_eq_false_iff, decide_eq_false_iff_not, decide_eq_false_iff_not]
          unfold Fits at fits
          omega
        apply (raiseIf_yields short _).bind_fails
        apply (Peer.send_holding _).bind_fails
        rcases long_enough bytes 2 with few | ⟨head, rest, rfl, length⟩
        · exact (Peer.receiveExact_fails few).bind
        · rcases Peer.receiveExact_yields length with ⟨read, value, yields⟩
          apply yields.bind_fails
          apply raiseIf_fails
          rw [value]
          by_contra met
          have accepted : head = [1, 0] := by simpa using met
          exact refused ⟨fits, rest, by rw [accepted]; rfl⟩
      · rw [loggedIn_long deadline stream fits]
        exact Program.Fails.raise _

end Replies

section Handshake

variable {deadline : Deadline} {stream : Handle} {closes : Bool} {bytes handshake more sent encoded : Bytes}
  {connector : Endpoint} {device : Device} {login : Option (String × String)}

theorem socks5_yields (configured : Configured connector.auth login)
    (addressed : socksAddress N device.networkHost = .ok encoded) (fits : Fits login)
    (accepted : Accepts login handshake) :
    Program.Yields (peer closes) (Holding deadline (handshake ++ more) sent) (socks5 N deadline stream connector device)
      (.ok ()) (Holding deadline more (sent ++ (exchange login encoded device).flatten)) := by
  rw [socks5_steps deadline stream configured addressed]
  cases accepted with
  | @handshake reply granted =>
      have sentAll : sent ++ (exchange login encoded device).flatten =
          sent ++ greetingOf login ++ (loginOf login).flatten ++ requestOf encoded device := by
        simp [exchange, fits]
      have answered : [5, methodOf login] ++ (loginVerdict login ++ reply) ++ more =
          [5, methodOf login] ++ (loginVerdict login ++ (reply ++ more)) := by
        simp
      rw [sentAll, answered]
      apply (Peer.send_holding _).bind
      rcases Peer.receiveExact_yields rfl with ⟨read, value, yields⟩
      apply yields.bind
      apply (raiseIf_yields (by simp [value]) _).bind
      apply (loggedIn_yields fits).bind
      apply (Peer.send_holding _).bind
      exact replied_yields granted

theorem socks5_fails (configured : Configured connector.auth login)
    (addressed : socksAddress N device.networkHost = .ok encoded)
    (refused : ¬(Fits login ∧ ∃ handshake more, bytes = handshake ++ more ∧ Accepts login handshake)) :
    Program.Fails (peer closes) (Holding deadline bytes sent) (socks5 N deadline stream connector device) := by
  rw [socks5_steps deadline stream configured addressed]
  apply (Peer.send_holding _).bind_fails
  rcases long_enough bytes 2 with few | ⟨head, rest, rfl, length⟩
  · exact (Peer.receiveExact_fails few).bind
  · rcases Peer.receiveExact_yields length with ⟨read, value, yields⟩
    apply yields.bind_fails
    by_cases chosen : head = [5, methodOf login]
    · apply (raiseIf_yields (by simp [value, chosen]) _).bind_fails
      by_cases accepted : Fits login ∧ ∃ more, rest = loginVerdict login ++ more
      · rcases accepted with ⟨fits, left, rfl⟩
        apply (loggedIn_yields fits).bind_fails
        apply (Peer.send_holding _).bind_fails
        apply replied_fails
        intro granted
        rcases granted with ⟨reply, more, rfl, granted⟩
        refine refused ⟨fits, [5, methodOf login] ++ (loginVerdict login ++ reply), more, ?_, .handshake granted⟩
        rw [chosen]
        simp
      · exact (loggedIn_fails accepted).bind
    · exact (raiseIf_fails (by simpa [value] using chosen) _).bind

end Handshake

theorem loginOf_configured {auth : Dict} (accepted : proxyAuth auth (some .socks5) = .ok ()) :
    ∃ login, Configured auth login := by
  simp only [proxyAuth, overSsh, bind_eq_ok] at accepted
  rcases accepted with ⟨_, fields, -⟩
  rcases authFields_login fields with ⟨username, password, named, secret, -, -, given⟩ | ⟨-, missing⟩
  · exact ⟨some (username, password), .login given named secret⟩
  · exact ⟨none, .anonymous missing⟩

/-- The exchange with a SOCKS5 proxy that is told `login` and the destination in `messages`. -/
structure FaithfulExchange (N : Libraries Token) (connector : Endpoint) (device : Device)
    (login : Option (String × String)) (messages : List Bytes) : Prop where
  configured : Configured connector.auth login
  /-- The proxy reads from the messages what is configured, and nothing is left of them. -/
  understood : Fits login → Reader.Reads (Socks5Peer.handle (methodOf login)) messages.flatten
    ⟨[methodOf login], login, destinationOf N device, device.port.1.toNat⟩
  /-- A login that is too long is no message. -/
  unsent : ¬Fits login → messages = [greetingOf login]
  /-- Whatever is answered, no more than a beginning of the messages is sent. -/
  sends : ∀ deadline stream, Program.Emits payloads (socks5 N deadline stream connector device) messages
  /-- It is refused once the proxy has chosen the method. -/
  refused : ¬Fits login → ∀ deadline stream closes more sent,
    Program.Yields (peer closes) (Holding deadline ([5, methodOf login] ++ more) sent)
      (socks5 N deadline stream connector device)
      (.error (validation "SOCKS5 credentials cannot exceed 255 encoded bytes."))
      (Holding deadline more (sent ++ greetingOf login))
  /-- The handshake succeeds exactly when it is accepted, and takes none of the bytes behind it. -/
  returns : ∀ deadline stream closes bytes sent s, Holding deadline bytes sent s →
    ((∃ s', (socks5 N deadline stream connector device).play (peer closes) s = some (.ok (), s')) ↔
      Fits login ∧ ∃ handshake more, bytes = handshake ++ more ∧ Accepts login handshake) ∧
    ∀ s', (socks5 N deadline stream connector device).play (peer closes) s = some (.ok (), s') →
      ∃ handshake more, bytes = handshake ++ more ∧ Accepts login handshake ∧
        Holding deadline more (sent ++ messages.flatten) s'

theorem socks5_faithful (laws : AddressLaws N) {profile : Value} {demoMode : Bool} {device : Device}
    {connector : Endpoint} {seconds : Timeout}
    (accepted : validateProfile N profile demoMode = .ok (device, .proxy .socks5 connector, seconds)) :
    ∃ login messages, FaithfulExchange N connector device login messages := by
  have valid := validateProfile_accepted laws accepted
  rcases loginOf_configured (valid.proxy .socks5 connector rfl).2.1 with ⟨login, configured⟩
  rcases reads_request laws valid.target with ⟨encoded, addressed, -⟩
  refine ⟨login, exchange login encoded device, configured, ?_, ?_, ?_, ?_, ?_⟩
  · intro fits
    rcases reads_exchange laws valid.target fits with ⟨other, same, reads⟩
    rw [addressed] at same
    cases same
    exact reads
  · intro long
    exact if_neg long
  · intro deadline stream
    exact socks5_emits deadline stream configured addressed
  · intro long deadline stream closes more sent
    rw [socks5_steps deadline stream configured addressed, loggedIn_long deadline stream long]
    apply (Peer.send_holding _).bind
    rcases Peer.receiveExact_yields rfl with ⟨read, value, yields⟩
    apply yields.bind
    apply (raiseIf_yields (by simp [value]) _).bind
    exact Program.Yields.done fun _ held => held
  · intro deadline stream closes bytes sent s held
    have when : ∀ s', (socks5 N deadline stream connector device).play (peer closes) s = some (.ok (), s') →
        Fits login ∧ ∃ handshake more, bytes = handshake ++ more ∧ Accepts login handshake := by
      intro s' returned
      by_contra refused
      exact socks5_fails configured addressed refused s held () s' returned
    refine ⟨⟨?_, ?_⟩, ?_⟩
    · rintro ⟨s', returned⟩
      exact when s' returned
    · rintro ⟨fits, handshake, more, rfl, granted⟩
      rcases socks5_yields configured addressed fits granted s held with ⟨s', returned, -⟩
      exact ⟨s', returned⟩
    · intro s' returned
      rcases when s' returned with ⟨fits, handshake, more, rfl, granted⟩
      rcases socks5_yields configured addressed fits granted s held with ⟨other, again, left⟩
      rw [returned] at again
      cases again
      exact ⟨handshake, more, rfl, granted, left⟩

/-- A name and a password outside ASCII. -/
theorem socks5_faithful_bench :
    ∃ device connector seconds,
      validateProfile Bench.networked (Bench.through "socks5" "ssh" "jürgen" "pass:wörd") false =
        .ok (device, .proxy .socks5 connector, seconds) ∧
      ∃ login messages, FaithfulExchange Bench.networked connector device login messages := by
  have kind : (validateProfile Bench.networked (Bench.through "socks5" "ssh" "jürgen" "pass:wörd") false).toOption.map
      (fun checked => checked.2.1.kind) = some (some .socks5) := by decide +kernel
  cases accepted : validateProfile Bench.networked (Bench.through "socks5" "ssh" "jürgen" "pass:wörd") false with
  | error raised =>
      rw [accepted] at kind
      cases kind
  | ok checked =>
      rw [accepted] at kind
      rcases checked with ⟨device, access, seconds⟩
      rcases Connector.kind_proxy (Option.some.inj kind) with ⟨connector, rfl⟩
      exact ⟨device, connector, seconds, rfl, socks5_faithful (addressLaws rfl rfl) accepted⟩

end NetworkGateway.Connectors
