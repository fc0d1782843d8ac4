import Mathlib.Data.Finset.Dedup
import Mathlib.Data.Finset.Insert
import NetworkGateway.Config.Settings
import NetworkGateway.Dal.Storage
import NetworkGateway.Library.Base64
import NetworkGateway.Python.Bytes
import NetworkGateway.Python.Value

/-! `app/common/identity.py` and the signed values and claims of `app/bl/services/auth.py`. -/

namespace NetworkGateway

namespace GatewayRole

def rank : GatewayRole → Nat
  | viewer => 1
  | operator => 2
  | administrator => 3

/-- `sorted(roles)`: by the roles' texts. -/
def sorted (roles : Finset GatewayRole) : List GatewayRole :=
  [administrator, operator, viewer].filter (· ∈ roles)

@[simp] theorem mem_sorted {role : GatewayRole} {roles : Finset GatewayRole} :
    role ∈ sorted roles ↔ role ∈ roles := by
  cases role <;> simp [sorted]

@[simp] theorem toFinset_sorted (roles : Finset GatewayRole) : (sorted roles).toFinset = roles := by
  ext role
  rw [List.mem_toFinset, mem_sorted]

end GatewayRole

namespace Auth

open Library Library.Result

structure AuthenticatedUser where
  subject : String
  tenantId : Option String
  name : String
  email : Option String
  roles : Finset GatewayRole
  authMode : AuthMode
  deriving DecidableEq

/-- `user.public()`. -/
def AuthenticatedUser.publicEntries (user : AuthenticatedUser) : Dict :=
  [("subject", .str user.subject), ("tenant_id", .ofOption user.tenantId), ("name", .str user.name),
   ("email", .ofOption user.email),
   ("roles", .list ((GatewayRole.sorted user.roles).map (fun role => .str role.text))),
   ("auth_mode", .str user.authMode.text)]

def hasRole (user : AuthenticatedUser) (required : GatewayRole) : Bool :=
  decide (∃ role ∈ user.roles, required.rank ≤ role.rank)

inductive AuthError where
  /-- `HTTPException`. -/
  | http (statusCode : Nat) (detail : String)
  /-- `ValueError` raised by the service itself. -/
  | value (message : String)
  /-- `ValueError` raised inside `base64`, `json` or a codec. -/
  | decode
  | type
  | key
  | attribute
  | overflow
  | recursion
  | stopIteration
  | signature
  /-- `requests.RequestException`. -/
  | request
  deriving DecidableEq, Repr

/-- What `json.loads` raises. -/
inductive JsonError where
  | value
  /-- `RecursionError`: arrays or objects are nested too deep. -/
  | recursion
  deriving DecidableEq, Repr

/-- The standard library and `cryptography` calls of the service. -/
structure AuthPlatform where
  hmacSha256 : (secret message : Bytes) → Bytes
  digest_length : ∀ secret message, (hmacSha256 secret message).length = 32
  sha256 : Bytes → Bytes
  /-- `json.dumps(payload, separators=(",", ":"), sort_keys=True)`. -/
  dumps : Dict → String
  loads : Bytes → Except JsonError Value
  repr : Value → String
  /-- `float(n)`, unless it overflows, and `float(text)`, unless it raises. -/
  floatOfInt : Int → Option Rat
  parseFloat : String → Option PyFloat
  urlencode : List (String × String) → String
  /-- `RSAPublicNumbers(...).public_key().verify(...)` with PKCS #1 v1.5 and SHA-256. -/
  rsaVerify : (exponent modulus signature message : Bytes) → Except AuthError Unit

def b64url (data : Bytes) : String := String.ofList (Base64.encode Base64.urlSafe data)

def decodeB64url (value : String) : Except AuthError Bytes := do
  raiseWhen (value.toList.isEmpty || value.toList.any (fun c => (Base64.urlSafe.index c).isNone))
    (.value "Invalid token encoding.")
  match Base64.decode Base64.urlSafe value.toList with
  | some data => .ok data
  | none => .error .decode

/-- `value.rsplit(".", 1)` of a text that has a dot. -/
def rsplitDot (value : String) : String × String :=
  (String.ofList ((value.toList.reverse.dropWhile (· != '.')).tail.reverse),
   String.ofList (value.toList.reverse.takeWhile (· != '.')).reverse)

section Tokens

variable (P : AuthPlatform)

/-- `json.loads(data)`, which has to be an object. -/
def readObject (data : Bytes) : Except AuthError Dict :=
  match P.loads data with
  | .ok (.dict entries) => .ok entries
  | .ok _ => .error (.value "Invalid token JSON.")
  | .error .value => .error .decode
  | .error .recursion => .error .recursion

def jsonSegment (value : String) : Except AuthError Dict := do
  let data ← decodeB64url value
  readObject P data

def digest (secret encoded : String) : Except AuthError Bytes :=
  match Bytes.ascii encoded with
  | some message => .ok (P.hmacSha256 (Bytes.utf8 secret) message)
  | none => .error .decode

def sign (payload : Dict) (secret : String) : Except AuthError String := do
  let encoded := b64url (Bytes.utf8 (P.dumps payload))
  let signature ← digest P secret encoded
  return encoded ++ "." ++ b64url signature

def unsign (value : Option String) (secret : String) : Except AuthError Dict := do
  raiseWhen (!(value.getD "").toList.contains '.') (.value "Missing signed value.")
  let (encoded, signature) := rsplitDot (value.getD "")
  let expected ← digest P secret encoded
  let given ← decodeB64url signature
  raiseWhen (expected != given) (.value "Invalid signed value.")
  jsonSegment P encoded

variable (settings : AuthSettings)

def cookieSecret : Except AuthError String := do
  raiseWhen (settings.mode != .entra || (settings.clientSecret.getD "").toList.isEmpty)
    (.value "Session signing is unavailable.")
  return settings.clientSecret.getD ""

/-- `any(role not in {...} for role in roles)` stops at the first role outside the set; a list or
an object cannot be looked up in it. -/
def readRoles : List Value → Except AuthError (List GatewayRole)
  | [] => .ok []
  | .str s :: rest => do
      match GatewayRole.ofText s with
      | some role =>
          let roles ← readRoles rest
          return role :: roles
      | none => .error (.http 401 "Token does not contain valid application roles.")
  | .list _ :: _ | .dict _ :: _ => .error .type
  | .none :: _ | .bool _ :: _ | .int _ :: _ | .float _ :: _ =>
      .error (.http 401 "Token does not contain valid application roles.")

def claimedRoles (claims : Dict) : Except AuthError (List GatewayRole) :=
  match Dict.get claims "roles" with
  | .list (role :: roles) => readRoles (role :: roles)
  | _ => .error (.http 401 "Token does not contain valid application roles.")

/-- `a or b`. -/
def orElse (a b : Value) : Value := if a.truthy then a else b

/-- `claims.get("oid") or claims.get("sub")`, which has to be a text. -/
def claimedSubject (claims : Dict) : Except AuthError String :=
  match orElse (Dict.get claims "oid") (Dict.get claims "sub") with
  | .str subject => do
      raiseWhen (subject == "") (.http 401 "Invalid bearer token.")
      return subject
  | _ => .error (.http 401 "Invalid bearer token.")

/-- `str(value)`. -/
def strOf : Value → String
  | .str s => s
  | value => P.repr value

/-- `str(email) if isinstance(email, str) else None`. -/
def textOnly : Value → Option String
  | .str s => some s
  | _ => none

def userFromClaims (claims : Dict) : Except AuthError AuthenticatedUser := do
  let roles ← claimedRoles claims
  let subject ← claimedSubject claims
  let preferred := Dict.get claims "preferred_username"
  return {
    subject := subject
    tenantId := settings.tenantId
    name := strOf P (orElse (orElse (Dict.get claims "name") preferred) (.str subject))
    email := textOnly (orElse (Dict.get claims "email") preferred)
    roles := roles.toFinset
    authMode := .entra }

end Tokens

end Auth

end NetworkGateway
