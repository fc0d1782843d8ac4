import NetworkGateway.Dal.Jobs
import NetworkGateway.Dal.Network

/-! `app/dal/proxy/connectors.py`: the profiles a connection test accepts. -/

namespace NetworkGateway.Connectors

open Library.Result Library.Scan

def expiredError : Raised := .connector "timeout" "The overall connection-test deadline expired."

def validation (detail : String) : Raised := .connector "validation" detail
def unsupported (detail : String) : Raised := .connector "unsupported" detail
def demoPolicy (detail : String) : Raised := .connector "demo_policy" detail

/-- What `validate_profile` makes of the device's or the connector's dictionary: checked
entries of their own, the rest under `auth`. -/
structure Endpoint where
  host : String
  port : Port
  networkHost : String
  auth : Dict

structure Device extends Endpoint where
  protocol : Protocol

inductive Connector where
  | direct
  | proxy (kind : ProxyType) (endpoint : Endpoint)

/-- `connector["type"]`: `none` is `direct`. -/
def Connector.kind : Connector → Option ProxyType
  | .direct => none
  | .proxy kind _ => some kind

theorem Connector.kind_proxy {connector : Connector} {kind : ProxyType} (same : connector.kind = some kind) :
    ∃ endpoint, connector = .proxy kind endpoint := by
  cases connector with
  | direct => cases same
  | proxy kind endpoint =>
      cases same
      exact ⟨endpoint, rfl⟩

/-- `PROTOCOL_PORTS`. -/
def protocolPort : Protocol → Int
  | .ssh => 22
  | .netconf => 830
  | .telnet => 23

/-- `value in {texts...}`: a list or a dictionary is not hashable. -/
def inSet (value : Value) (texts : List String) : Except Raised Bool :=
  match value with
  | .list _ | .dict _ => .error .type
  | value => .ok (value.isOneOf texts)

/-- `auth[key]`, used as a text. -/
def textItem (auth : Dict) (key : String) : Except Raised String :=
  match auth.lookup key with
  | none => .error .key
  | some (.str s) => .ok s
  | some _ => .error .attribute

/-! Validation. -/

/-- `_HOSTNAME.fullmatch`. -/
def hostname (s : String) : Bool :=
  let alnum := fun c : Char => c.isAlphanum
  let chars := s.toList
  chars.length ≤ 253 && chars.all (fun c => alnum c || c == '.' || c == '-') &&
    (chars.head?.any alnum && chars.getLast?.any alnum)

def isLoopback (address : IpAddress) : Bool :=
  if address.version = 4 then address.value / 16777216 == 127 else address.value == 1

section Validation

variable {Token : Type} (N : Libraries Token)

def port (value : Value) : Except Raised Port :=
  let error := validation "A TCP port must be an integer from 1 to 65535."
  let number : Option Int := match value with
    | .int n => some n
    | .str s => N.parseInt s
    | _ => none
  match number with
  | some n => if inRange : 1 ≤ n ∧ n ≤ 65535 then .ok ⟨n, inRange⟩ else .error error
  | none => .error error

def host (value : Value) : Except Raised String :=
  let error := validation "A host must be an IP address or plain DNS hostname."
  match value with
  | .str s =>
      if s = "" || s != Text.strip s || s.toList.contains '%' then .error error
      else if (N.ipAddress s).isSome then .ok s
      else if !hostname s || occurs (word ['.', '.']) s.toList then .error error
      else .ok s
  | _ => .error error

def loopbackHost (host : String) : Except Raised String :=
  let error := demoPolicy "Demo connections require literal loopback addresses or localhost."
  if N.lower host = "localhost" then .ok "127.0.0.1"
  else match N.ipAddress host with
    | none => .error error
    | some address => if isLoopback address then .ok (N.strAddress address) else .error error

def demoFilePolicy (auth : Dict) : Except Raised Unit := do
  raiseWhen (Dict.get auth "private_key_path").truthy
    (demoPolicy "Demo mode accepts pasted SSH keys, not private-key file paths.")
  raiseWhen ((Dict.get auth "known_hosts_path").truthy && !N.demoFile (Dict.get auth "known_hosts_path"))
    (demoPolicy "Demo trust files must be inside configured local demo storage or test/fixtures.")

/-- A login field is absent, or a bounded text without control characters. -/
def loginField (value : Value) : Bool :=
  match value with
  | .none => true
  | .str s => s.length ≤ 4096 && s.toList.all (fun c => 32 ≤ c.toNat && c.toNat != 127)
  | _ => false

def authFields (auth : Dict) (required ssh : Bool) : Except Raised Unit := do
  let username := Dict.get auth "username"
  let password := Dict.get auth "password"
  let pasted := Dict.get auth "private_key"
  let path := Dict.get auth "private_key_path"
  raiseWhen (required && (!username.isStr || !username.truthy))
    (validation "A username is required for this login.")
  raiseWhen (["username", "password", "key_passphrase"].any (fun field => !loginField (Dict.get auth field)))
    (validation "Login fields must be bounded text without control characters.")
  let hasKey := pasted.truthy || path.truthy
  let method := Dict.getOr auth "authentication_type" (.str (if hasKey then "ssh_key" else "password"))
  let known ← inSet method ["password", "ssh_key"]
  raiseWhen (!known) (unsupported "The selected authentication method is unsupported.")
  if method == .str "ssh_key" || hasKey then do
    raiseWhen (!ssh) (unsupported "This login supports passwords only; SSH keys are not applicable.")
    raiseWhen (!hasKey || method != .str "ssh_key" || password.truthy)
      (validation "Select exactly one password or SSH-key credential.")
    raiseWhen (pasted.truthy && path.truthy) (validation "Select pasted key material or a key file, not both.")
  else if required then
    raiseWhen (!password.truthy) (validation "A password is required for this login.")
  else
    raiseWhen (username.truthy != password.truthy)
      (validation "Proxy username and password must be supplied together.")

/-- `float(value)` for a value that is not a `bool`. -/
def toFloat (value : Value) : Except Raised PyFloat :=
  match value with
  | .int n => if Store.floatLimit ≤ n.natAbs then .error .overflow else .ok (.finite n)
  | .float x => .ok x
  | .str s => match N.parseFloat s with
    | some x => .ok x
    | none => .error .value
  | _ => .error .type

def testTimeout (device : Dict) : Except Raised Timeout := do
  let error := validation "The overall timeout must be between 1 and 30 seconds."
  let value := Dict.getOr device "timeout_seconds" (.int 5)
  raiseWhen (match value with | .bool _ => true | _ => false) error
  match toFloat N value with
  | .ok (.finite q) => if inRange : 1 ≤ q ∧ q ≤ 30 then .ok ⟨q, inRange⟩ else .error error
  | .ok _ => .error error
  | .error raised => .error (if raised = .type || raised.isValue then error else raised)

/-- `device["network_host"]`. -/
def networkHost (demoMode : Bool) (host : String) : Except Raised String :=
  if demoMode then loopbackHost N host else .ok host

/-- `kind.startswith("ssh_")`. -/
def overSsh : ProxyType → Bool
  | .sshTunnel | .sshShell => true
  | .socks5 | .httpConnect => false

/-- The connector's `type`: `none` is `direct`. -/
def connectorType (value : Value) : Except Raised (Option ProxyType) := do
  let known ← inSet value ["direct", "ssh_tunnel", "ssh_shell", "socks5", "http_connect"]
  raiseWhen (!known) (unsupported "The selected connector is unsupported.")
  match value with
  | .str kind => return ProxyType.ofText kind
  | _ => return none

def deviceProtocol (value : Value) : Except Raised Protocol := do
  let error := unsupported "The selected device protocol is unsupported."
  let known ← inSet value ["ssh", "netconf", "telnet"]
  raiseWhen (!known) error
  match value with
  | .str name => match Protocol.ofText name with
    | some protocol => .ok protocol
    | none => .error error
  | _ => .error error

def asObject (value : Value) (detail : String) : Except Raised Dict :=
  match value with
  | .dict entries => .ok entries
  | _ => .error (validation detail)

/-- The part of `validate_profile` that checks the addresses of a proxy connector. -/
def proxyAddress (connector : Dict) : Option ProxyType → Except Raised (Option (ProxyType × String × Port))
  | none => .ok none
  | some kind => do
      let host ← host N (Dict.get connector "host")
      let port ← port N (Dict.get connector "port")
      return some (kind, host, port)

def proxyEndpoint (demoMode : Bool) (connector : Dict) :
    Option (ProxyType × String × Port) → Except Raised Connector
  | none => .ok .direct
  | some (kind, host, port) => do
      let networkHost ← networkHost N demoMode host
      return .proxy kind ⟨host, port, networkHost, connector⟩

def proxyAuth (connector : Dict) : Option ProxyType → Except Raised Unit
  | none => .ok ()
  | some kind => do
      authFields connector (overSsh kind) (overSsh kind)
      let username := match Dict.get connector "username" with
        | .str s => s
        | _ => ""
      raiseWhen (kind == .httpConnect && username.toList.contains ':')
        (validation "HTTP Basic proxy usernames cannot contain a colon.")

def demoFiles (demoMode : Bool) (device connector : Dict) (proxied : Bool) : Except Raised Unit :=
  if demoMode then do
    demoFilePolicy N device
    if proxied then demoFilePolicy N connector else .ok ()
  else .ok ()

def validateProfile (profile : Value) (demoMode : Bool) : Except Raised (Device × Connector × Timeout) := do
  let device ← asObject profile "A resolved connection profile is required."
  let protocol ← deviceProtocol (Dict.get device "protocol")
  raiseWhen ((Dict.get device "proxy_id").truthy && !Dict.has device "connector")
    (validation "The saved proxy reference must be resolved before testing.")
  let connector ← asObject (Dict.getOr device "connector" (.dict [("type", .str "direct")]))
    "A resolved connector object is required."
  let kind ← connectorType (Dict.get connector "type")
  raiseWhen ((Dict.get device "proxy_id").truthy && kind.isNone)
    (validation "A saved proxy reference cannot be tested as a direct connection.")
  raiseWhen (kind == some .sshShell && protocol != .telnet)
    (unsupported "Interactive SSH shell supports generic Telnet only, not SSH or NETCONF.")
  let host ← host N (Dict.get device "host")
  let port ← port N (Dict.getOr device "port" (.int (protocolPort protocol)))
  let address ← proxyAddress N connector kind
  let seconds ← testTimeout N device
  let networkHost ← networkHost N demoMode host
  let endpoint ← proxyEndpoint N demoMode connector address
  demoFiles N demoMode device connector kind.isSome
  authFields device true (protocol != .telnet)
  proxyAuth connector kind
  return (⟨⟨host, port, networkHost, device⟩, protocol⟩, endpoint, seconds)

end Validation

end NetworkGateway.Connectors
