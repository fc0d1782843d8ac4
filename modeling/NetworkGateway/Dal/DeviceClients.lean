import NetworkGateway.Library.Objects
import NetworkGateway.Bl.Mappings
import NetworkGateway.Dal.Network

/-! `app/dal/device/` and `app/dal/proxy/proxy_client.py`: the clients that devices are operated through. -/

namespace NetworkGateway

open Library.Interaction Library.Result

structure Site (Token : Type) where
  libraries : Libraries Token
  /-- `config(name)`. -/
  settings : String → Option String
  /-- `get_store().get_config("proxy_mapping")`. -/
  proxyMapping : Except Fault Dict
  /-- `repr` of a byte string. -/
  reprBytes : Bytes → String
  /-- `decode("utf-8", errors="ignore")`. -/
  decode : Bytes → String

/-- The arguments of `SSHClient.connect`; paramiko opens a TCP connection of its own when it is given no `sock`.
`search` stands for `look_for_keys` and `allow_agent`. -/
structure LoginRequest where
  hostname : String
  port : Int
  sock : Option Handle
  username : String
  password : String
  search : Bool
  timeout : Option Int

/-- The arguments of `manager.connect`, which takes `sock` in the same way. -/
structure NetconfRequest where
  host : String
  port : Int
  hostkeyVerify : Bool
  sock : Option Handle
  sshConfig : Option String
  timeout : Int
  username : String
  password : String

inductive HostKeyPolicy where
  | reject
  | autoAdd

/-- What the clients ask of paramiko, ncclient and sockets. Calls that can raise are answered with an `Except`, those
on a socket of the client's own only with the text of an `OSError`. -/
inductive DeviceCommand : Type → Type where
  | sshClient : DeviceCommand Handle
  | loadSystemHostKeys (client : Handle) : DeviceCommand (Except Fault Unit)
  | loadHostKeys (client : Handle) (path : String) : DeviceCommand (Except Fault Unit)
  | setMissingHostKeyPolicy (client : Handle) (policy : HostKeyPolicy) : DeviceCommand Unit
  | sshConnect (client : Handle) (request : LoginRequest) : DeviceCommand (Except Fault Unit)
  | getTransport (client : Handle) : DeviceCommand (Option Handle)
  | isActive (transport : Handle) : DeviceCommand Bool
  | openChannel (transport : Handle) (destination source : String × Int) : DeviceCommand (Except Fault Handle)
  | execCommand (client : Handle) (command : String) (timeout : Int) : DeviceCommand (Except Fault (Handle × Handle))
  | readAll (stream : Handle) : DeviceCommand (Except Fault Bytes)
  | closeClient (client : Handle) : DeviceCommand (Except Fault Unit)
  | netconf (request : NetconfRequest) : DeviceCommand (Except Fault Handle)
  | netconfGet (session : Handle) (filter : Option String) : DeviceCommand (Except Fault String)
  | netconfGetConfig (session : Handle) (source : String) : DeviceCommand (Except Fault String)
  | netconfEditConfig (session : Handle) (target config : String) : DeviceCommand (Except Fault String)
  | closeSession (session : Handle) : DeviceCommand (Except Fault Unit)
  | createConnection (address : String × Int) (timeout : Rat) : DeviceCommand (Except Fault Handle)
  | sendall (sock : Handle) (payload : Bytes) : DeviceCommand (Except String Unit)
  /-- What one `_recv_until` meets on the connection. -/
  | receive (sock : Handle) : DeviceCommand (List TelnetClient.Receipt)
  | closeSocket (sock : Handle) : DeviceCommand (Except String Unit)

/-- `str(exc)`. -/
def Fault.text (repr : Bytes → String) : Fault → String
  | .gateway message | .deviceNotFound message | .clientMapping message | .proxyMapping message => message
  | .telnetRead error => error.message repr
  | .os text | .other text => text

/-- Why `int(value)` raises. -/
inductive IntFailure where
  | type
  | value
  | overflow

/-- `int(value)`. -/
def intOf (parseInt : String → Option Int) : Value → Except IntFailure Int
  | .bool b => .ok (if b then 1 else 0)
  | .int n => .ok n
  | .float (.finite q) => .ok (q.num.tdiv q.den)
  | .float (.infinite _) => .error .overflow
  | .float .nan => .error .value
  | .str s => match parseInt s with
    | some n => .ok n
    | none => .error .value
  | .none | .list _ | .dict _ => .error .type

def overflowFault : Fault := .other "cannot convert float infinity to integer"

section Settings

variable {Token : Type} (site : Site Token)

/-- `config(name)`. -/
def config (name : String) : Except Fault String :=
  match site.settings name with
  | some value => .ok value
  | none => .error (.other (name ++ " not found. Declare it as envvar or define a default value."))

/-- `config(name, default=default)`. -/
def configOr (name default : String) : String := (site.settings name).getD default

/-- `router_info.get(key) or str(config(setting))`, as a text. -/
def credential (routerInfo : Dict) (key setting : String) : Except Fault String :=
  let value := Dict.get routerInfo key
  if value.truthy then .ok (site.libraries.toPlatform.str value) else config site setting

def resolveCredentials (routerInfo : Dict) : Except Fault (String × String) := do
  let username ← credential site routerInfo "username" "ROUTER_USERNAME"
  let password ← credential site routerInfo "password" "ROUTER_PASSWORD"
  return (username, password)

end Settings

/-! `proxy_client.py` and the proxy factory. -/

structure ProxyClient where
  proxyHost : String
  proxyPort : Int
  sshClient : Option Handle

abbrev ClientMethod (σ α : Type) := Method DeviceCommand σ Fault α

namespace ProxyClient

open Method

variable {Token : Type} (site : Site Token)

def new (proxyHost : String) : ProxyClient := ⟨proxyHost, 22, none⟩

/-- The `try` block of `connect`. -/
def tryConnect : ClientMethod ProxyClient Unit := do
  let client ← ask .sshClient
  write fun self => { self with sshClient := some client }
  ask (.setMissingHostKeyPolicy client .autoAdd)
  let self ← read
  let username ← lift (config site "PROXY_USERNAME")
  let password ← lift (config site "PROXY_PASSWORD")
  attempt (.sshConnect client ⟨self.proxyHost, self.proxyPort, none, username, password, true, none⟩)

def connect : ClientMethod ProxyClient Unit :=
  catching (tryConnect site) fun fault => raise (.gateway ("Proxy connection failed: " ++ fault.text site.reprBytes))

/-- The `try` block of `get_channel`. -/
def tryChannel (destHost : String) (destPort : Int) : ClientMethod ProxyClient Handle := do
  let self ← read
  if self.sshClient.isNone then connect site else pure ()
  let self ← read
  match self.sshClient with
  | none => raise (.other "'NoneType' object has no attribute 'get_transport'")
  | some client => match ← ask (.getTransport client) with
    | none => raise (.gateway "SSH transport is not available.")
    | some transport => attempt (.openChannel transport (destHost, destPort) (self.proxyHost, self.proxyPort))

def getChannel (destHost : String) (destPort : Int) : ClientMethod ProxyClient Handle :=
  catching (tryChannel site destHost destPort) fun fault =>
    raise (.gateway ("Failed to open channel: " ++ fault.text site.reprBytes))

end ProxyClient

def getProxy {Token : Type} (site : Site Token) (routerInfo : Dict) : Except Fault (Option ProxyClient) :=
  match site.proxyMapping >>= Factories.selectProxy site.libraries.toPlatform routerInfo with
  | .ok none => .ok none
  | .ok (some (.str host)) => .ok (some (ProxyClient.new host))
  -- `validate_config` lets no other value through
  | .ok (some _) | .error _ =>
      .error (.proxyMapping "Proxy database mapping is missing, invalid, or unavailable")

/-! `base_client.py`. -/

/-- The classes of `nccclient_*.py`. -/
inductive NetconfClass where
  | adva
  | alcatel
  | ceina
  | ios
  | iox
  | juniper
  deriving DecidableEq, Repr

structure BaseNCCClient where
  kind : NetconfClass
  host : String
  routerInfo : Dict
  port : Int
  sshPort : Int
  session : Option Handle
  sshClient : Option Handle

/-- `f"{verb} {interface_name}" if interface_name else all`. -/
def showCommand (verb all : String) (interfaceName : Option String) : String :=
  match interfaceName.filter (· ≠ "") with
  | some name => verb ++ " " ++ name
  | none => all

def NetconfClass.showInterfaceCommand : NetconfClass → Option String → String
  | .adva | .ceina | .ios | .iox => showCommand "show interface" "show interfaces"
  | .alcatel => showCommand "show router interface" "show router interface"
  | .juniper => showCommand "show interfaces" "show interfaces terse"

def defaultBgpNamespace : String := "http://openconfig.net/yang/bgp"

namespace BaseNCCClient

open Method

variable {Token : Type} (site : Site Token)

def safePort (value : Value) (default : Int) : Except Fault Int :=
  match value with
  | .none => .ok default
  | value => match intOf site.libraries.parseInt value with
    | .ok port => .ok port
    | .error .overflow => .error overflowFault
    | .error _ => .ok default

def new (kind : NetconfClass) (host : String) (routerInfo : Dict) : Except Fault BaseNCCClient := do
  let port ← safePort site (Dict.get routerInfo "netconf_port") 830
  let sshPort ← safePort site (Dict.get routerInfo "ssh_port") 22
  return ⟨kind, host, routerInfo, port, sshPort, none, none⟩

def connectTimeout : Int := (site.libraries.parseInt (configOr site "ROUTER_CONNECT_TIMEOUT" "10")).getD 10

def netconfHostkeyVerify : Bool :=
  ["1", "true", "yes", "on"].contains (Text.lower (configOr site "ROUTER_NETCONF_HOSTKEY_VERIFY" "true"))

def sshConfigPath : Option String :=
  let path := Text.strip (configOr site "ROUTER_SSH_CONFIG_PATH" "")
  if path = "" then none else some path

/-- `proxy.get_channel(self.host, port) if proxy else None`. -/
def proxyChannel (port : Int) : ClientMethod BaseNCCClient (Option Handle) := do
  let self ← read
  match ← lift (getProxy site self.routerInfo) with
  | none => return none
  | some proxy => do
      let channel ← onPart proxy (ProxyClient.getChannel site self.host port)
      return some channel

/-- The `try` block of `connect`. -/
def tryConnect : ClientMethod BaseNCCClient Unit := do
  let self ← read
  let sock ← proxyChannel site self.port
  let (username, password) ← lift (resolveCredentials site self.routerInfo)
  let session ← attempt (.netconf ⟨self.host, self.port, netconfHostkeyVerify site, sock, sshConfigPath site,
    connectTimeout site, username, password⟩)
  write fun self => { self with session := some session }

def connect : ClientMethod BaseNCCClient Unit := do
  let self ← read
  if self.session.isSome then return ()
  else catching (tryConnect site) fun fault =>
    raise (.gateway ("NETCONF connect failed: " ++ fault.text site.reprBytes))

/-- The trust store of `_connect_ssh`. -/
def loadKnownHosts (client : Handle) : ClientMethod BaseNCCClient Unit :=
  let path := Text.strip (configOr site "ROUTER_KNOWN_HOSTS_PATH" "")
  if path = "" then return () else attempt (.loadHostKeys client path)

/-- The `try` block of `_connect_ssh`. -/
def tryConnectSsh : ClientMethod BaseNCCClient Unit := do
  let client ← ask .sshClient
  write fun self => { self with sshClient := some client }
  attempt (.loadSystemHostKeys client)
  loadKnownHosts site client
  ask (.setMissingHostKeyPolicy client .reject)
  let self ← read
  let sock ← proxyChannel site self.sshPort
  let (username, password) ← lift (resolveCredentials site self.routerInfo)
  attempt (.sshConnect client ⟨self.host, self.sshPort, sock, username, password, false, some (connectTimeout site)⟩)

def connectSsh : ClientMethod BaseNCCClient Unit := do
  let self ← read
  if self.sshClient.isSome then return ()
  else catching (tryConnectSsh site) fun fault => raise (.gateway ("SSH connect failed: " ++ fault.text site.reprBytes))

/-- `execute_ssh_command`; what the device writes to `stderr` is only logged. -/
def executeSshCommand (command : String) : ClientMethod BaseNCCClient String := do
  connectSsh site
  let self ← read
  match self.sshClient with
  | none => raise (.gateway "SSH session is not available")
  | some client => match ← ask (.getTransport client) with
    | none => raise (.gateway "SSH transport is not active")
    | some transport => do
        let active ← ask (.isActive transport)
        if active then do
          let (stdout, stderr) ← attempt (.execCommand client command (connectTimeout site))
          let output ← attempt (.readAll stdout)
          let _ ← attempt (.readAll stderr)
          return site.decode output
        else raise (.gateway "SSH transport is not active")

/-- `self.connect()`, and what is done on the session. -/
def onSession (request : Handle → DeviceCommand (Except Fault String)) : ClientMethod BaseNCCClient String := do
  connect site
  let self ← read
  match self.session with
  | none => raise (.gateway "NETCONF session is not available")
  | some session => attempt (request session)

def getConfig : ClientMethod BaseNCCClient Value := do
  let reply ← onSession site fun session => .netconfGetConfig session "running"
  return .str reply

def setConfig (configData : String) : ClientMethod BaseNCCClient Value := do
  let reply ← onSession site fun session => .netconfEditConfig session "running" configData
  return .dict [("status", .str "ok"), ("reply", .str reply)]

def getOperationalState : ClientMethod BaseNCCClient Value := do
  let reply ← onSession site fun session => .netconfGet session none
  return .str reply

def showInterface (interfaceName : Option String) : ClientMethod BaseNCCClient Value := do
  let self ← read
  let command := self.kind.showInterfaceCommand interfaceName
  let output ← executeSshCommand site command
  return .dict [("command", .str command), ("output", .str output)]

def getBgp : ClientMethod BaseNCCClient Value := do
  let self ← read
  let uri := site.libraries.toPlatform.str (Dict.getOr self.routerInfo "bgp_namespace" (.str defaultBgpNamespace))
  let reply ← onSession site fun session => .netconfGet session (some ("<bgp xmlns='" ++ uri ++ "'/>"))
  return .str reply

def close : ClientMethod BaseNCCClient Unit := do
  let self ← read
  match self.session with
  | none => return ()
  | some session => do
      attempt (.closeSession session)
      write fun self => { self with session := none }

def closeSsh : ClientMethod BaseNCCClient Unit := do
  let self ← read
  match self.sshClient with
  | none => return ()
  | some client => do
      attempt (.closeClient client)
      write fun self => { self with sshClient := none }

def cleanup : ClientMethod BaseNCCClient Value := do
  close
  closeSsh
  return .none

end BaseNCCClient

/-! `telnet_client.py`. -/

structure GenericTelnetNCCClient where
  host : String
  routerInfo : Dict
  port : Int
  sock : Option Handle
  negotiator : Option Telnet.State
  authenticated : Bool

namespace GenericTelnetNCCClient

open Method

variable {Token : Type} (site : Site Token)

def safePort (value : Value) (default : Int) : Except Fault Int :=
  match value with
  | .none => .ok default
  | value => match intOf site.libraries.parseInt value with
    | .error .overflow => .error overflowFault
    | .error _ => .error (.gateway
        ("Invalid telnet_port value: " ++ site.libraries.repr value ++ "; expected an integer 1-65535"))
    | .ok port =>
        if 1 ≤ port ∧ port ≤ 65535 then .ok port
        else .error (.gateway ("Invalid telnet_port value: " ++ toString port ++ "; must be between 1 and 65535"))

def new (host : String) (routerInfo : Dict) : Except Fault GenericTelnetNCCClient := do
  let port ← safePort site (Dict.get routerInfo "telnet_port") 23
  return ⟨host, routerInfo, port, none, none, false⟩

def timeout : Except Fault Rat :=
  let raw := configOr site "ROUTER_TELNET_TIMEOUT" "5"
  let invalid := fun value reason => Fault.gateway
    ("Invalid ROUTER_TELNET_TIMEOUT value: " ++ site.libraries.repr value ++ reason)
  match site.libraries.parseFloat raw with
  | none => .error (invalid (.str raw) "; expected a positive number of seconds")
  | some (.finite seconds) =>
      if 0 < seconds then .ok seconds
      else .error (invalid (.float (.finite seconds)) "; must be a positive, finite number of seconds")
  | some value => .error (invalid (.float value) "; must be a positive, finite number of seconds")

/-- A call on the socket, whose exceptions are `OSError`s. -/
def onSocket {α : Type} (command : DeviceCommand (Except String α)) : ClientMethod GenericTelnetNCCClient α := do
  match ← ask command with
  | .ok value => return value
  | .error text => raise (.os text)

def close : ClientMethod GenericTelnetNCCClient Unit := do
  let self ← read
  match self.sock with
  | none => return ()
  | some sock => do
      let closed ← ask (.closeSocket sock)
      write fun self => { self with sock := none, negotiator := none, authenticated := false }
      match closed with
      | .ok _ => return ()
      | .error text => raise (.os text)

/-- `_recv_until` up to the deadline of one `_timeout`. -/
def recvUntil (marker : String) : ClientMethod GenericTelnetNCCClient Bytes := do
  let _ ← lift (timeout site)
  let self ← read
  match self.sock, self.negotiator with
  | some sock, some negotiator => do
      let receipts ← ask (.receive sock)
      match TelnetClient.recvUntil (Bytes.utf8 marker) TelnetClient.defaultMaxResponseBytes ⟨negotiator, [], receipts⟩ with
      | .returned data connection => do
          write fun self => { self with negotiator := some connection.negotiator }
          return data
      | .raised error => raise (.telnetRead error)
      | .waiting => waiting
  | _, _ => raise (.other "AssertionError")

/-- `self._sock.sendall(text.encode() + b"\r\n")`. -/
def sendLine (text : String) : ClientMethod GenericTelnetNCCClient Unit := do
  let self ← read
  match self.sock with
  | none => raise (.other "'NoneType' object has no attribute 'sendall'")
  | some sock => onSocket (.sendall sock (Bytes.utf8 text ++ [13, 10]))

/-- The `try` block of `_login`. -/
def dialogue (username password : String) : ClientMethod GenericTelnetNCCClient Unit := do
  let _ ← recvUntil site "Username:"
  sendLine username
  let _ ← recvUntil site "Password:"
  sendLine password
  let _ ← recvUntil site "> "
  return ()

/-- The exception handlers of `_login` and `_run_command`. -/
def closing {α : Type} (refused : Bool) (what : String) (fault : Fault) : ClientMethod GenericTelnetNCCClient α :=
  match fault with
  | .telnetRead error => do
      close
      if refused && Bytes.contains (Bytes.lower error.received) (Bytes.utf8 "incorrect") then
        raise (.gateway "Telnet authentication failed")
      else raise (.gateway (what ++ error.message site.reprBytes))
  | .os text => do
      close
      raise (.gateway (what ++ text))
  | fault => raise fault

def login : ClientMethod GenericTelnetNCCClient Unit := do
  let self ← read
  let (username, password) ← lift (resolveCredentials site self.routerInfo)
  catching (dialogue site username password) (closing site true "Telnet login failed: ")
  write fun self => { self with authenticated := true }

/-- The `try` block of `connect`. -/
def dial : ClientMethod GenericTelnetNCCClient Handle := do
  let self ← read
  let seconds ← lift (timeout site)
  attempt (.createConnection (self.host, self.port) seconds)

def connect : ClientMethod GenericTelnetNCCClient Unit := do
  let self ← read
  if self.sock.isSome then return ()
  else do
    let sock ← catching (dial site) fun fault => match fault with
      | .os text => raise (.gateway ("Telnet connect failed: " ++ text))
      | fault => raise fault
    write fun self => { self with sock := some sock, negotiator := some .normal }
    login site

/-- The `try` block of `_run_command`. -/
def exchange (command : String) : ClientMethod GenericTelnetNCCClient Bytes := do
  sendLine command
  recvUntil site "> "

def runCommand (command : String) : ClientMethod GenericTelnetNCCClient String := do
  connect site
  let self ← read
  if !self.authenticated || self.sock.isNone then raise (.gateway "Telnet session is not authenticated")
  else do
    let raw ← catching (exchange site command) (closing site false "Telnet command failed: ")
    return site.decode raw

def showInterface (interfaceName : Option String) : ClientMethod GenericTelnetNCCClient Value := do
  let command := showCommand "show interface" "show interface" interfaceName
  let output ← runCommand site command
  return .dict [("command", .str command), ("output", .str output)]

def unsupported (operation : String) : ClientMethod GenericTelnetNCCClient Value :=
  raise (.gateway (operation ++ " is not supported over the generic Telnet transport in this demo; " ++
    "Telnet only exposes CLI-style show commands here."))

end GenericTelnetNCCClient

end NetworkGateway
