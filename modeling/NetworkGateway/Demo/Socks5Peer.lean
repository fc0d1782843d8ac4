import NetworkGateway.Library.Reading
import NetworkGateway.Dal.Platform
import NetworkGateway.Python.Bytes

/-! `demo/emulators/proxy_protocols.py`: what a SOCKS5 proxy makes of the bytes its client sends. -/

namespace NetworkGateway.Socks5Peer

open Library.Reading Reader

inductive Destination where
  | address (address : IpAddress)
  | name (host : String)
  deriving DecidableEq, Repr

structure Client where
  methods : Bytes
  login : Option (String × String)
  destination : Destination
  port : Nat
  deriving DecidableEq, Repr

def greeting : Reader UInt8 Bytes := do
  let version ← next
  let count ← next
  let methods ← exact count.toNat
  if version = 5 then return methods else refuse

def login : Reader UInt8 (String × String) := do
  let version ← next
  let size ← next
  let username ← ofOption (Bytes.decodeUtf8 (← exact size.toNat))
  let size ← next
  let password ← ofOption (Bytes.decodeUtf8 (← exact size.toNat))
  if version = 1 then return (username, password) else refuse

/-- The address of a request whose type is `kind`. -/
def destination (kind : UInt8) : Reader UInt8 Destination :=
  if kind = 1 then do
    let packed ← exact 4
    return .address ⟨4, Bytes.ofBig packed⟩
  else if kind = 4 then do
    let packed ← exact 16
    return .address ⟨6, Bytes.ofBig packed⟩
  else if kind = 3 then do
    let size ← next
    let host ← ofOption (Bytes.decodeAscii (← exact size.toNat))
    return .name host
  else refuse

def request : Reader UInt8 (Destination × Nat) := do
  let version ← next
  let command ← next
  let reserved ← next
  let kind ← next
  let host ← destination kind
  let port ← exact 2
  if (version, command, reserved) = (5, 1, 0) then return (host, Bytes.ofBig port) else refuse

/-- `Socks5Peer.handle` up to its reply, with method 2 on a proxy that wants a login and 0 on
one that does not. -/
def handle (method : UInt8) : Reader UInt8 Client := do
  let methods ← greeting
  if List.elem method methods then do
    let login ← if method = 2 then (do return some (← login)) else pure none
    let target ← request
    return ⟨methods, login, target.1, target.2⟩
  else refuse

end NetworkGateway.Socks5Peer
