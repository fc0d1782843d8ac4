import NetworkGateway.Library.Interaction
import NetworkGateway.Dal.Storage
import NetworkGateway.Python.Bytes

/-! What a connection test asks of sockets, the resolver, paramiko and the clock. -/

namespace NetworkGateway

open Library.Interaction

inductive Raised where
  | connector (stage detail : String)
  | os
  | timedOut
  | ssh
  | authentication
  | badHostKey
  | eof
  | value
  | unicode
  | type
  | key
  | attribute
  | overflow
  | unsupportedAlgorithm
  | other
  deriving DecidableEq, Repr

namespace Raised

/-- `isinstance(exc, OSError)`. -/
def isOs : Raised → Bool
  | .os | .timedOut => true
  | _ => false

/-- `isinstance(exc, paramiko.SSHException)`. -/
def isSsh : Raised → Bool
  | .ssh | .authentication | .badHostKey => true
  | _ => false

/-- `isinstance(exc, ValueError)`. -/
def isValue : Raised → Bool
  | .value | .unicode => true
  | _ => false

end Raised

inductive Xml where
  | element (tag : String) (text : Option String) (children : List Xml)

namespace Xml

def tag : Xml → String
  | .element tag _ _ => tag

def text : Xml → Option String
  | .element _ text _ => text

def children : Xml → List Xml
  | .element _ _ children => children

/-- `root.find(name)`. -/
def find (root : Xml) (name : String) : Option Xml := root.children.find? (fun node => node.tag == name)

end Xml

/-- The standard library and `cryptography` calls of a connection test that do no input or output. -/
structure Libraries (Token : Type) extends Platform Token where
  parseInt : String → Option Int
  parseFloat : String → Option PyFloat
  round : Rat → Rat
  parseXml : String → Option Xml
  loadPrivateKey : (text : String) → (passphrase : Option Bytes) → Except Raised Unit
  /-- `_demo_file_policy` on a trust file: the path is inside configured demo storage. -/
  demoFile : Value → Bool

abbrev Handle := Nat

inductive AddressFamily where
  | inet
  | inet6
  | other (number : Nat)
  deriving DecidableEq, Repr

/-- `(host, port)`, followed by flow information and scope for IPv6. -/
structure Address where
  host : String
  port : Int
  rest : List Nat
  deriving DecidableEq, Repr

/-- One entry of `getaddrinfo`. -/
structure AddressInfo where
  family : AddressFamily
  kind : Nat
  proto : Nat
  address : Address
  deriving DecidableEq, Repr

/-- What arrives on the queue of a resolver thread before its timeout. -/
inductive Lookup where
  | pending
  | failed
  | found (addresses : List AddressInfo)

/-- The single method of `_SingleAuth`. -/
inductive Credential where
  | key (text : String) (passphrase : Option Bytes)
  | password (value : Value)

/-- The arguments of `SSHClient.connect` that vary. Paramiko opens a TCP connection of
its own, to `hostname` and `port`, only when it is given no `sock`. -/
structure SshRequest where
  hostname : String
  port : Port
  username : String
  sock : Option Handle
  credential : Credential
  timeout : Rat

/-- Calls that can raise are answered with an `Except`. -/
inductive Command : Type → Type where
  | monotonic : Command Rat
  | expired : Command Bool
  | startTimer (seconds : Rat) : Command (Except Raised Unit)
  | own (resource : Handle) : Command Bool
  | close (resource : Handle) : Command Unit
  | closeDeadline : Command Unit
  | acquireSlot (timeout : Rat) : Command Bool
  | startLookup (host : String) (port : Port) : Command Unit
  | awaitLookup (host : String) (port : Port) (timeout : Rat) : Command Lookup
  | socket (family : AddressFamily) (kind proto : Nat) : Command (Except Raised Handle)
  | settimeout (stream : Handle) (seconds : Rat) : Command (Except Raised Unit)
  | connect (sock : Handle) (address : Address) : Command (Except Raised Unit)
  | sendall (stream : Handle) (payload : Bytes) : Command (Except Raised Unit)
  | recv (stream : Handle) (size : Nat) : Command (Except Raised Bytes)
  | sshClient : Command Handle
  | loadHostKeys (client : Handle) (path : Value) : Command (Except Raised Unit)
  | loadSystemHostKeys (client : Handle) : Command (Except Raised Unit)
  | readText (path : Value) (size : Nat) : Command (Except Raised String)
  | sshConnect (client : Handle) (request : SshRequest) : Command (Except Raised Unit)
  | openChannel (client : Handle) (destination : String × Port) (timeout : Rat) :
      Command (Except Raised Handle)
  | openSession (client : Handle) (timeout : Rat) : Command (Except Raised Handle)
  | getPty (channel : Handle) : Command (Except Raised Unit)
  | invokeShell (channel : Handle) : Command (Except Raised Unit)
  | invokeSubsystem (channel : Handle) (name : String) : Command (Except Raised Unit)

abbrev Net := Program Command Raised

namespace Net

def attempt {α : Type} (p : Net (Except Raised α)) : Net α := p >>= Program.lift

def monotonic : Net Rat := Program.ask .monotonic
def expired : Net Bool := Program.ask .expired
def startTimer (seconds : Rat) : Net Unit := attempt (Program.ask (.startTimer seconds))
def own (resource : Handle) : Net Bool := Program.ask (.own resource)
def close (resource : Handle) : Net Unit := Program.ask (.close resource)
def closeDeadline : Net Unit := Program.ask .closeDeadline
def acquireSlot (timeout : Rat) : Net Bool := Program.ask (.acquireSlot timeout)
def startLookup (host : String) (port : Port) : Net Unit := Program.ask (.startLookup host port)
def awaitLookup (host : String) (port : Port) (timeout : Rat) : Net Lookup :=
  Program.ask (.awaitLookup host port timeout)
def socket (info : AddressInfo) : Net Handle :=
  attempt (Program.ask (.socket info.family info.kind info.proto))
def settimeout (stream : Handle) (seconds : Rat) : Net Unit :=
  attempt (Program.ask (.settimeout stream seconds))
def connect (sock : Handle) (address : Address) : Net Unit :=
  attempt (Program.ask (.connect sock address))
def sendall (stream : Handle) (payload : Bytes) : Net Unit :=
  attempt (Program.ask (.sendall stream payload))
def recv (stream : Handle) (size : Nat) : Net Bytes := attempt (Program.ask (.recv stream size))
def sshClient : Net Handle := Program.ask .sshClient
def loadHostKeys (client : Handle) (path : Value) : Net Unit :=
  attempt (Program.ask (.loadHostKeys client path))
def loadSystemHostKeys (client : Handle) : Net Unit :=
  attempt (Program.ask (.loadSystemHostKeys client))
def readText (path : Value) (size : Nat) : Net String :=
  attempt (Program.ask (.readText path size))
def sshConnect (client : Handle) (request : SshRequest) : Net Unit :=
  attempt (Program.ask (.sshConnect client request))
def openChannel (client : Handle) (destination : String × Port) (timeout : Rat) : Net Handle :=
  attempt (Program.ask (.openChannel client destination timeout))
def openSession (client : Handle) (timeout : Rat) : Net Handle :=
  attempt (Program.ask (.openSession client timeout))
def getPty (channel : Handle) : Net Unit := attempt (Program.ask (.getPty channel))
def invokeShell (channel : Handle) : Net Unit := attempt (Program.ask (.invokeShell channel))
def invokeSubsystem (channel : Handle) (name : String) : Net Unit :=
  attempt (Program.ask (.invokeSubsystem channel name))

end Net

def Command.opens {α : Type} : Command α → Option Address
  | .connect _ address => some address
  | .sshConnect _ request => if request.sock.isNone then some ⟨request.hostname, request.port.1, []⟩ else none
  | _ => none

def Command.looksUp {α : Type} : Command α → Option (String × Port)
  | .startLookup host port => some (host, port)
  | _ => none

end NetworkGateway
