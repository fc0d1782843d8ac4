import NetworkGateway.Library.Result
import NetworkGateway.Python.Clock
import NetworkGateway.Python.Value

/-! What the gateway's data layer calls outside its own sources. -/

namespace NetworkGateway

inductive PyError where
  | store (message : String) (statusCode : Nat)
  | secret (message : String)
  | integrity
  | database
  | type
  | key
  | attribute
  | overflow
  deriving DecidableEq, Repr

/-- `IPv4Network` and `IPv6Network`. -/
structure IpNetwork where
  version : Nat
  networkAddress : Nat
  prefixLength : Nat
  deriving DecidableEq, Repr

/-- `IPv4Address` and `IPv6Address`. -/
structure IpAddress where
  version : Nat
  value : Nat
  deriving DecidableEq, Repr

/-- The `cryptography` and `ipaddress` libraries, `repr` and Unicode `str.lower`. `encrypt` takes the
randomness and the clock reading of one Fernet call as `iv`. -/
structure Platform (Token : Type) where
  validKey : String → Bool
  encrypt : (key : String) → (iv : Nat) → Value → Token
  decrypt : (key : String) → Token → Option Value
  validatePrivateKey : (value passphrase : Value) → Bool
  repr : Value → String
  lower : String → String
  ipNetwork : String → Option IpNetwork
  ipAddress : String → Option IpAddress
  strNetwork : IpNetwork → String
  strAddress : IpAddress → String

namespace Platform

variable {Token : Type}

/-- Fernet is authenticated: a token decrypts to its plaintext or not at all. -/
structure VaultLaws (P : Platform Token) : Prop where
  decrypt_encrypt : ∀ key iv value, P.decrypt key (P.encrypt key iv value) = some value
  authentic : ∀ key other iv value read,
    P.decrypt other (P.encrypt key iv value) = some read → read = value

/-- `ipaddress` parses the text it prints for a network or an address back to it. -/
structure IpLaws (P : Platform Token) : Prop where
  parse_strNetwork : ∀ text network, P.ipNetwork text = some network →
    P.ipNetwork (P.strNetwork network) = some network
  parse_strAddress : ∀ text address, P.ipAddress text = some address →
    P.ipAddress (P.strAddress address) = some address

/-- `str(value)`. -/
def str (P : Platform Token) : Value → String
  | .str s => s
  | .none => "None"
  | .bool true => "True"
  | .bool false => "False"
  | .int n => toString n
  | value => P.repr value

end Platform

/-- The values one store call draws from `uuid4`, the clock, Fernet and the
database's answer to the audit insert. -/
structure Fresh where
  id : String
  seedIds : String × String
  correlationId : String
  recordId : String
  now : UtcTime
  iv : Nat
  auditFault : Option PyError

/-- One open `GatewayStore`; the database it works on is passed separately. -/
structure GatewayStore where
  key : String
  closed : Bool

end NetworkGateway
