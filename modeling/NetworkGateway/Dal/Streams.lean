import NetworkGateway.Library.Base64
import NetworkGateway.Dal.Connectors
import NetworkGateway.Dal.Telnet

/-! `app/dal/proxy/connectors.py`: deadlines, reads and the five socket strategies. -/

namespace NetworkGateway.Connectors

open Library.Interaction Library.Result Library.Scan

/-! The deadline of one test. -/

structure Deadline where
  endsAt : Rat

/-- `if condition: raise error`. -/
def raiseIf (condition : Bool) (error : Raised) : Net Unit := Program.lift (raiseWhen condition error)

def encodeAscii (text : String) : Except Raised Bytes :=
  match Bytes.ascii text with
  | some encoded => .ok encoded
  | none => .error .unicode

def remaining (deadline : Deadline) : Net Rat := do
  let now ← Net.monotonic
  if deadline.endsAt - now ≤ 0 then Program.raise expiredError
  else do
    let expired ← Net.expired
    if expired then Program.raise expiredError else return deadline.endsAt - now

/-- `deadline.own(resource)`. -/
def own (resource : Handle) : Net Handle := do
  let closed ← Net.own resource
  if closed then do
    Net.close resource
    Program.raise expiredError
  else return resource

/-! TCP connections. -/

section Transport

variable {Token : Type} (N : Libraries Token) (deadline : Deadline)

def resolve (host : String) (port : Port) : Net (List AddressInfo) :=
  match N.ipAddress host with
  | some address => return [⟨if address.version = 6 then .inet6 else .inet, 1, 0, ⟨host, port.1, []⟩⟩]
  | none => do
      let acquired ← Net.acquireSlot (← remaining deadline)
      if acquired then do
        Net.startLookup host port
        match ← Net.awaitLookup host port (← remaining deadline) with
        | .pending => Program.raise expiredError
        | .failed | .found [] =>
            Program.raise (.connector "connect" "The endpoint hostname could not be resolved.")
        | .found addresses => return addresses
      else Program.raise expiredError

/-- The `except` clause of `connect_tcp`: the next address is tried. -/
def refused (sock : Handle) (raised : Raised) : Net Bool :=
  if raised.isOs then do
    Net.close sock
    let _ ← remaining deadline
    return false
  else Program.raise raised

/-- The loop of `connect_tcp`: one address after the other. -/
def connectFirst (stage : String) : List AddressInfo → Net Handle
  | [] => Program.raise (.connector stage "The TCP endpoint refused or could not establish a connection.")
  | info :: rest => do
      let sock ← own (← Net.socket info)
      Net.settimeout sock (← remaining deadline)
      let connected ← Program.catching (do Net.connect sock info.address; return true) (refused deadline sock)
      if connected then return sock else connectFirst stage rest

def connectTcp (host : String) (port : Port) (stage : String) : Net Handle := do
  let addresses ← resolve N deadline host port
  connectFirst deadline stage addresses

def send (stream : Handle) (payload : Bytes) : Net Unit := do
  Net.settimeout stream (← remaining deadline)
  Net.sendall stream payload

/-- The loop of `receive_exact`, holding what has arrived. -/
def receiveMore (stream : Handle) (size : Nat) (data : Bytes) : Net {data : Bytes // size ≤ data.length} :=
  if short : data.length < size then do
    Net.settimeout stream (← remaining deadline)
    let chunk ← Net.recv stream (size - data.length)
    if chunk = [] then
      Program.raise (.connector "protocol" "The peer closed before completing the protocol handshake.")
    else receiveMore stream size (data ++ chunk)
  else return ⟨data, Nat.le_of_not_lt short⟩
termination_by size - data.length
decreasing_by
  have arrived := List.length_pos_iff.mpr ‹¬chunk = []›
  rw [List.length_append]
  omega

def receiveExact (stream : Handle) (size : Nat) : Net {data : Bytes // size ≤ data.length} :=
  receiveMore deadline stream size []

/-- The loop of `receive_until`, holding what has arrived. -/
def receiveOn (stream : Handle) (marker : Bytes) (limit : Nat) (data : Bytes) : Net Bytes :=
  if marker.isSuffixOf data then return data
  else if limit ≤ data.length then
    Program.raise (.connector "protocol" "The protocol handshake exceeded the allowed response size.")
  else do
    let chunk ← receiveExact deadline stream 1
    receiveOn stream marker limit (data ++ chunk.1)
termination_by limit - data.length
decreasing_by
  rw [List.length_append]
  have := chunk.2
  omega

def receiveUntil (stream : Handle) (marker : Bytes) (limit : Nat) : Net Bytes :=
  receiveOn deadline stream marker limit []

/-! SSH. -/

def keyText (auth : Dict) : Net Value :=
  let path := Dict.get auth "private_key_path"
  if Dict.get auth "private_key" = .none && path.truthy then
    Program.catching (do return .str (← Net.readText path 65537)) fun raised =>
      if raised.isOs || raised = .unicode then
        Program.raise (validation "The configured SSH key file could not be read.")
      else Program.raise raised
  else return Dict.get auth "private_key"

/-- `(auth.get("key_passphrase") or "").encode("utf-8") or None`. -/
def keyPassphrase (auth : Dict) : Option Bytes :=
  match Dict.get auth "key_passphrase" with
  | .str s => if s = "" then none else some (Bytes.utf8 s)
  | _ => none

/-- The `try` block of `_private_key`. -/
def loadKey (text : String) (passphrase : Option Bytes) : Net Credential :=
  Program.catching (do
    Program.lift (N.loadPrivateKey text passphrase)
    return .key text passphrase) fun raised =>
      if raised.isValue || raised = .type || raised = .unsupportedAlgorithm || raised.isSsh then
        Program.raise (validation "The SSH private key or key passphrase is invalid or unsupported.")
      else Program.raise raised

def privateKey (auth : Dict) : Net Credential := do
  match ← keyText auth with
  | .str text =>
      if 65536 < text.length then
        Program.raise (validation "The SSH private key is missing or too large.")
      else loadKey N text (keyPassphrase auth)
  | _ => Program.raise (validation "The SSH private key is missing or too large.")

/-- `private_key` or `private_key_path` is set. -/
def keyed (auth : Dict) : Bool :=
  (Dict.get auth "private_key").truthy || (Dict.get auth "private_key_path").truthy

def singleAuth (auth : Dict) : Net (String × Credential) := do
  let username ← Program.lift (textItem auth "username")
  let credential ← if keyed auth then privateKey N auth else pure (.password (Dict.get auth "password"))
  return (username, credential)

/-- The trust store of `connect_ssh`. -/
def loadTrust (auth : Dict) (demoMode : Bool) (role : String) (client : Handle) : Net Unit :=
  let path := Dict.get auth "known_hosts_path"
  if path.truthy then Net.loadHostKeys client path
  else if demoMode then
    Program.raise (.connector (role ++ "_host_key")
      "Demo SSH logins require an explicit trusted known_hosts file.")
  else Net.loadSystemHostKeys client

/-- The `try` block of `connect_ssh`. -/
def handshake (endpoint : Endpoint) (stream : Handle) (demoMode : Bool) (role : String) (client : Handle) :
    Net Handle := do
  loadTrust endpoint.auth demoMode role client
  let (username, credential) ← singleAuth N endpoint.auth
  let left ← remaining deadline
  Net.sshConnect client ⟨endpoint.host, endpoint.port, username, some stream, credential, left⟩
  let _ ← remaining deadline
  return client

/-- The exception handlers of `connect_ssh`. -/
def sshFailure (role : String) (raised : Raised) : Net Handle :=
  match raised with
  | .connector stage detail =>
      Program.raise (.connector (if stage = "host_key" then role ++ "_host_key" else stage) detail)
  | .badHostKey => Program.raise (.connector (role ++ "_host_key")
      "The SSH host key does not match the selected trust store.")
  | .authentication => Program.raise (.connector (role ++ "_auth") "SSH authentication was rejected.")
  | .os | .timedOut | .unicode => do
      let _ ← remaining deadline
      Program.raise (.connector (role ++ "_connect")
        "The SSH connection or selected trust file could not be opened.")
  | .ssh | .eof | .value => do
      let _ ← remaining deadline
      Program.raise (.connector (role ++ "_connect") "The SSH handshake could not be completed.")
  | raised => Program.raise raised

def connectSsh (endpoint : Endpoint) (stream : Handle) (demoMode : Bool) (role : String) : Net Handle := do
  let client ← own (← Net.sshClient)
  Program.catching (handshake N deadline endpoint stream demoMode role client) (sshFailure deadline role)

/-! SOCKS5 and HTTP CONNECT. -/

def socksAddress (host : String) : Except Raised Bytes :=
  match N.ipAddress host with
  | some address =>
      .ok (if address.version = 4 then 1 :: Bytes.big 4 address.value else 4 :: Bytes.big 16 address.value)
  | none => match Bytes.ascii host with
    | none => .error .unicode
    | some encoded =>
        if encoded.length < 256 then .ok (3 :: UInt8.ofNat encoded.length :: encoded) else .error .value

/-- The RFC 1929 login of `_socks5`. -/
def socksLogin (stream : Handle) (username password : String) : Net Unit := do
  let user := Bytes.utf8 username
  let password := Bytes.utf8 password
  raiseIf (255 < user.length || 255 < password.length)
    (validation "SOCKS5 credentials cannot exceed 255 encoded bytes.")
  send deadline stream
    ([1, UInt8.ofNat user.length] ++ user ++ [UInt8.ofNat password.length] ++ password)
  let verdict ← receiveExact deadline stream 2
  raiseIf (verdict.1 ≠ [1, 0]) (.connector "proxy_auth" "SOCKS5 proxy authentication was rejected.")

/-- `if username:` of `_socks5`. -/
def socksAuth (stream : Handle) (auth : Dict) : Net Unit :=
  if (Dict.get auth "username").truthy then do
    let username ← Program.lift (textItem auth "username")
    let password ← Program.lift (textItem auth "password")
    socksLogin deadline stream username password
  else return ()

def boundLength (stream : Handle) (type : UInt8) : Net Nat :=
  if type = 1 then return 4
  else if type = 4 then return 16
  else do
    let length ← receiveExact deadline stream 1
    let length := (length.1.getD 0 0).toNat
    if length = 0 then
      Program.raise (.connector "protocol" "The SOCKS5 proxy returned an invalid bound address.")
    else return length

def socks5 (stream : Handle) (connector : Endpoint) (device : Device) : Net Unit := do
  let username := Dict.get connector.auth "username"
  let method : UInt8 := if username.truthy then 2 else 0
  send deadline stream [5, 1, method]
  let greeting ← receiveExact deadline stream 2
  raiseIf (greeting.1 ≠ [5, method])
    (.connector "proxy_auth" "The SOCKS5 proxy rejected the selected authentication method.")
  socksAuth deadline stream connector.auth
  let encoded ← Program.lift (socksAddress N device.networkHost)
  send deadline stream ([5, 1, 0] ++ encoded ++ Bytes.big 2 device.port.1.toNat)
  let reply ← receiveExact deadline stream 4
  let field := fun i => reply.1.getD i 0
  raiseIf (field 0 ≠ 5 || field 2 ≠ 0 || !([1, 3, 4].contains (field 3)))
    (.connector "protocol" "The SOCKS5 proxy returned an invalid response.")
  raiseIf (field 1 ≠ 0)
    (.connector "proxy_connect" "The SOCKS5 proxy denied or could not reach the destination.")
  let length ← boundLength deadline stream (field 3)
  let _ ← receiveExact deadline stream (length + 2)
  return ()

/-- `[host]:port` for a host with colons, else `host:port`. -/
def authority (host : String) (port : Port) : String :=
  if host.toList.contains ':' then "[" ++ host ++ "]:" ++ toString port.1
  else host ++ ":" ++ toString port.1

/-- `base64.b64encode(data).decode("ascii")`. -/
def b64encode (data : Bytes) : String :=
  String.ofList (Library.Base64.encode Library.Base64.standard data ++ Library.Base64.padding data)

/-- The request head `_http_connect` sends. -/
def connectRequest (connector : Endpoint) (device : Device) : Except Raised String := do
  let authority := authority device.networkHost device.port
  let request := "CONNECT " ++ authority ++ " HTTP/1.1\r\nHost: " ++ authority ++ "\r\n"
  if (Dict.get connector.auth "username").truthy then do
    let username ← textItem connector.auth "username"
    let password ← textItem connector.auth "password"
    let credentials := b64encode (Bytes.utf8 (username ++ ":" ++ password))
    return request ++ "Proxy-Authorization: Basic " ++ credentials ++ "\r\n\r\n"
  else return request ++ "\r\n"

/-- `HTTP/1\.[01] ([0-9]{3})(?: [\x20-\x7e]*)?`, returning the code. -/
def statusLine (line : Bytes) : Option Nat :=
  match line.splitAt 12 with
  | ([h, t, t', p, slash, major, dot, minor, space, a, b, c], reason) =>
      if [h, t, t', p, slash, major, dot] = Bytes.utf8 "HTTP/1." && (minor = 48 || minor = 49) && space = 32 &&
          [a, b, c].all Bytes.isDigit && (reason = [] || (reason.head? = some 32 && reason.all Bytes.isPrintable)) then
        some ((a.toNat - 48) * 100 + (b.toNat - 48) * 10 + (c.toNat - 48))
      else none
  | _ => none

/-- `[!#$%&'*+.^_`|~0-9A-Za-z-]`. -/
def isToken (b : UInt8) : Bool :=
  Bytes.isAlnum b || List.elem b (Bytes.utf8 "!#$%&'*+.^_\x60|~-")

def headerLine (line : Bytes) : Bool :=
  let name := line.takeWhile isToken
  match line.dropWhile isToken with
  | 58 :: value => !name.isEmpty && value.all (fun b => Bytes.isPrintable b || b = 9)
  | _ => false

def connectStatus (response : Bytes) : Option Nat :=
  match Bytes.splitPair 13 10 (response.take (response.length - 4)) with
  | [] => none
  | line :: headers => if headers.all headerLine then statusLine line else none

def httpConnect (stream : Handle) (connector : Endpoint) (device : Device) : Net Unit := do
  let request ← Program.lift (connectRequest connector device)
  send deadline stream (← Program.lift (encodeAscii request))
  let response ← receiveUntil deadline stream [13, 10, 13, 10] 8192
  match connectStatus response with
  | none => Program.raise (.connector "protocol" "The HTTP proxy returned an invalid CONNECT response.")
  | some code =>
      if code = 407 then
        Program.raise (.connector "proxy_auth" "HTTP CONNECT proxy authentication was rejected.")
      else if code < 200 || 300 ≤ code then
        Program.raise
          (.connector "proxy_connect" "The HTTP CONNECT proxy denied or could not reach the destination.")
      else return ()

/-! Prompts. -/

/-- `[A-Za-z0-9_@().:/~ -]`. -/
def isPromptByte (b : UInt8) : Bool := Bytes.isAlnum b || List.elem b (Bytes.utf8 "_@().:/~ -")

/-- `SHELL_PROMPT.search`. -/
def shellPrompt : Bytes → Bool := Bytes.afterBreak fun data =>
  match data.dropWhile isPromptByte with
  | symbol :: rest =>
      (data.takeWhile isPromptByte).length ≤ 160 && List.elem symbol (Bytes.utf8 "#$>") &&
        [[], [32], [10], [32, 10]].contains rest
  | [] => false

/-- `(?i)(login incorrect|authentication failed|...)`. -/
def loginRejected (data : Bytes) : Bool :=
  ["LOGIN INCORRECT", "AUTHENTICATION FAILED", "ACCESS DENIED", "CONNECTION REFUSED", "CONNECTION CLOSED"].any
    fun phrase => Bytes.contains (Bytes.upper data) (Bytes.utf8 phrase)

/-- `negotiator.feed(chunk) if negotiator else chunk`. -/
def negotiated (stream : Handle) (negotiator : Option Telnet.State) (chunk : Bytes) :
    Net (Option Telnet.State × Bytes) :=
  match negotiator with
  | none => return (none, chunk)
  | some state => do
      let (state, data) ← Telnet.feed stream state chunk
      return (some state, data)

/-- The loop of `read_prompt`, holding the decoded data and the number of bytes received. -/
def readOn (stream : Handle) (pattern : Bytes → Bool) (negotiator : Option Telnet.State) (data : Bytes)
    (wireSize : Nat) : Net (Option Telnet.State × Bytes) := do
  Net.settimeout stream (← remaining deadline)
  let chunk ← Net.recv stream 1024
  if chunk = [] then
    Program.raise (.connector "protocol" "The peer closed before the expected login prompt.")
  else if 16384 < wireSize + chunk.length then
    Program.raise (.connector "protocol" "The login prompt exceeded the allowed response size.")
  else do
    let (negotiator, decoded) ← negotiated stream negotiator chunk
    if loginRejected (data ++ decoded) then
      Program.raise (.connector "device_auth" "The remote login was rejected or the remote connection closed.")
    else if pattern (data ++ decoded) then return (negotiator, data ++ decoded)
    else readOn stream pattern negotiator (data ++ decoded) (wireSize + chunk.length)
termination_by 16384 - wireSize
decreasing_by
  have arrived := List.length_pos_iff.mpr ‹¬chunk = []›
  omega

/-- `read_prompt`, returning the negotiator's state with the data. -/
def readPrompt (stream : Handle) (pattern : Bytes → Bool) (negotiator : Option Telnet.State) :
    Net (Option Telnet.State × Bytes) :=
  readOn deadline stream pattern negotiator [] 0

/-! Opening a stream. -/

/-- `_find_unsafe(s) is None` of `shlex`. -/
def shellSafe (s : String) : Bool :=
  s.toList.all (fun c => c.isAlphanum || List.elem c "_@%+=:,./-".toList)

def quote (s : String) : String :=
  if s = "" then "''"
  else if shellSafe s then s
  else "'" ++ Text.replace s "'" "'\"'\"'" ++ "'"

/-- The channel through a bastion: forwarded TCP, or an interactive shell that runs `telnet`. -/
def bastionChannel (kind : ProxyType) (client : Handle) (device : Device) : Net Handle :=
  if kind = .sshTunnel then do
    own (← Net.openChannel client (device.networkHost, device.port) (← remaining deadline))
  else do
    let stream ← own (← Net.openSession client (← remaining deadline))
    Net.settimeout stream (← remaining deadline)
    Net.getPty stream
    Net.invokeShell stream
    let _ ← readPrompt deadline stream shellPrompt none
    let command := "telnet " ++ quote device.networkHost ++ " " ++ toString device.port.1 ++ "\n"
    send deadline stream (← Program.lift (encodeAscii command))
    return stream

/-- The `except` clause around the channel requests. -/
def channelFailure (raised : Raised) : Net Handle :=
  if raised.isSsh || raised = .eof || raised.isOs then do
    let _ ← remaining deadline
    Program.raise
      (.connector "proxy_connect" "The bastion denied or could not establish the requested channel.")
  else Program.raise raised

/-- What `open_stream` does on the connection to a proxy. -/
def throughProxy (kind : ProxyType) (connector : Endpoint) (device : Device) (demoMode : Bool) (stream : Handle) :
    Net Handle :=
  match kind with
  | .socks5 => do
      socks5 N deadline stream connector device
      return stream
  | .httpConnect => do
      httpConnect deadline stream connector device
      return stream
  | .sshTunnel | .sshShell => do
      let client ← connectSsh N deadline connector stream demoMode "proxy"
      Program.catching (bastionChannel deadline kind client device) (channelFailure deadline)

def openStream (device : Device) (connector : Connector) (demoMode : Bool) : Net Handle :=
  match connector with
  | .direct => connectTcp N deadline device.networkHost device.port "device_connect"
  | .proxy kind endpoint => do
      let stream ← connectTcp N deadline endpoint.networkHost endpoint.port "proxy_connect"
      let stream ← throughProxy N deadline kind endpoint device demoMode stream
      let _ ← remaining deadline
      return stream

end Transport

end NetworkGateway.Connectors
