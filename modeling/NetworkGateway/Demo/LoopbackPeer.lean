import NetworkGateway.Dal.Connectors
import NetworkGateway.Python.Bytes

/-! `demo/emulators/proxy_protocols.py`: the SOCKS5 proxy of the demo, which reaches loopback addresses only. -/

namespace NetworkGateway.LoopbackPeer

open Library.Interaction Library.Result Connectors

/-- The calls of a handler on its stream, on the socket of its destination, and on the list of events. -/
inductive Command : Type → Type where
  | recv (size : Nat) : Command (Except Raised Bytes)
  | sendall (payload : Bytes) : Command (Except Raised Unit)
  | connect (host : String) (port : Nat) : Command (Except Raised Unit)
  | event (text : String) : Command Unit

abbrev Peer := Program Command Raised

def recv (size : Nat) : Peer Bytes := Program.ask (.recv size) >>= Program.lift
def sendall (payload : Bytes) : Peer Unit := Program.ask (.sendall payload) >>= Program.lift
def connect (host : String) (port : Nat) : Peer Unit := Program.ask (.connect host port) >>= Program.lift
def event (text : String) : Peer Unit := Program.ask (.event text)

/-- The loop of `_exact`, holding what has arrived. -/
def exactMore (size : Nat) (data : Bytes) : Peer {data : Bytes // size ≤ data.length} :=
  if short : data.length < size then do
    let chunk ← recv (size - data.length)
    if chunk = [] then Program.raise .eof else exactMore size (data ++ chunk)
  else return ⟨data, Nat.le_of_not_lt short⟩
termination_by size - data.length
decreasing_by
  have arrived := List.length_pos_iff.mpr ‹¬chunk = []›
  rw [List.length_append]
  omega

def exact (size : Nat) : Peer {data : Bytes // size ≤ data.length} := exactMore size []

section

variable {Token : Type} (N : Libraries Token)

def loopback (host : String) : Except Raised String :=
  if N.lower host = "localhost" then .ok "127.0.0.1"
  else match N.ipAddress host with
    | none => .error .value
    | some address => if isLoopback address then .ok (N.strAddress address) else .error .value

def destination (host : String) (port : Nat) : Peer (String × Nat) := do
  let host ← Program.lift (loopback N host)
  Program.lift (raiseWhen (port < 1 || 65535 < port) .value)
  connect host port
  event "destination_connected"
  return (host, port)

/-- The options of `Socks5Peer`. -/
structure Options where
  username : Option String
  password : Option String
  deny : Bool
  malformed : Bool

/-- What a handler comes to: a destination it relays to, or its stream closed. -/
abbrev Served := Option (String × Nat)

/-- The `try` around `self.destination`: the reply of a destination that is not reached, or the relay. -/
def reach (host : String) (port : Nat) (unreached reached : Bytes) : Peer Served := do
  let target ← Program.settle (destination N host port)
  match target with
  | .error raised =>
      if raised.isValue || raised.isOs then do
        sendall unreached
        return none
      else Program.raise raised
  | .ok target => do
      sendall reached
      return some target

namespace Socks5

/-- `method` of `Socks5Peer.handle`. -/
def method (options : Options) : UInt8 := if (options.username.getD "") = "" then 0 else 2

/-- The address of a request whose type is `kind`, as the text `destination` is given. -/
def host (kind : UInt8) : Peer (Option String) :=
  if kind = 1 then do
    let packed ← exact 4
    return some (N.strAddress ⟨4, Bytes.ofBig packed.1⟩)
  else if kind = 4 then do
    let packed ← exact 16
    return some (N.strAddress ⟨6, Bytes.ofBig packed.1⟩)
  else if kind = 3 then do
    let size ← exact 1
    let name ← exact (size.1.getD 0 0).toNat
    match Bytes.decodeAscii name.1 with
    | some name => return some name
    | none => Program.raise .unicode
  else return none

def decodeUtf8 (data : Bytes) : Peer String :=
  match Bytes.decodeUtf8 data with
  | some text => return text
  | none => Program.raise .unicode

/-- The login of `Socks5Peer.handle`: whether it is accepted. -/
def login (options : Options) : Peer Bool := do
  let head ← exact 2
  let username ← decodeUtf8 (← exact (head.1.getD 1 0).toNat).1
  let size ← exact 1
  let password ← decodeUtf8 (← exact (size.1.getD 0 0).toNat).1
  if head.1.getD 0 0 ≠ 1 || some username ≠ options.username || some password ≠ options.password then do
    event "auth_rejected"
    sendall [1, 1]
    return false
  else do
    sendall [1, 0]
    return true

def reply (version code : UInt8) : Bytes := [version, code, 0, 1, 0, 0, 0, 0, 0, 0]

/-- `Socks5Peer.handle` from the request on. -/
def serve (options : Options) : Peer Served := do
  let head ← exact 4
  let field := fun i => head.1.getD i 0
  match ← host N (field 3) with
  | none => return none
  | some host => do
      let port ← exact 2
      if options.malformed then do
        sendall (reply 4 0)
        return none
      else if options.deny || (field 0, field 1, field 2) ≠ (5, 1, 0) then do
        sendall (reply 5 2)
        return none
      else reach N host (Bytes.ofBig port.1) (reply 5 4) (reply 5 0)

def handle (options : Options) : Peer Served := do
  let head ← exact 2
  let methods ← exact (head.1.getD 1 0).toNat
  if head.1.getD 0 0 ≠ 5 || !List.elem (method options) methods.1 then do
    sendall [5, 255]
    return none
  else do
    sendall [5, method options]
    let admitted ← if method options = 2 then login options else pure true
    if admitted then serve N options else return none

end Socks5

end

end NetworkGateway.LoopbackPeer
