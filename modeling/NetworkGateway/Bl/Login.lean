import NetworkGateway.Library.Interaction
import NetworkGateway.Bl.Auth

/-! `app/bl/services/auth.py`: token verification, request authentication and the browser login. -/

namespace NetworkGateway.Auth

open Library Library.Result Library.Interaction

/-- The service's cache of provider documents, `requests` and the clock. A cached document is
answered until it expires; a request is answered with the JSON body of a successful response. -/
inductive AuthCommand : Type → Type where
  | time : AuthCommand Rat
  | cached (key : String) : AuthCommand (Option Dict)
  | remember (key : String) (document : Dict) : AuthCommand Unit
  | get (url : Value) : AuthCommand (Except AuthError Value)
  | post (url : Value) (form : List (String × Option String)) : AuthCommand (Except AuthError Value)

abbrev Login := Program AuthCommand AuthError

namespace Login

def time : Login Rat := Program.ask .time
def cached (key : String) : Login (Option Dict) := Program.ask (.cached key)
def remember (key : String) (document : Dict) : Login Unit := Program.ask (.remember key document)
def get (url : Value) : Login Value := Program.ask (.get url) >>= Program.lift
def post (url : Value) (form : List (String × Option String)) : Login Value :=
  Program.ask (.post url form) >>= Program.lift

end Login

/-- `except requests.RequestException: raise HTTPException(...) from None`. -/
def unavailable {α : Type} : AuthError → Login α
  | .request => Program.raise (.http 401 "Authentication provider is unavailable.")
  | error => Program.raise error

/-- `document[key]`. -/
def item (document : Dict) (key : String) : Except AuthError Value :=
  match document.lookup key with
  | some value => .ok value
  | none => .error .key

/-- `value[key]` for a text key: only an object can be read by one. -/
def itemOf (value : Value) (key : String) : Except AuthError Value :=
  match value with
  | .dict entries => item entries key
  | _ => .error .type

def discoveryFields : List String := ["issuer", "authorization_endpoint", "token_endpoint", "jwks_uri"]

section

variable (P : AuthPlatform) (settings : AuthSettings)

def document (key : String) (url : Value) (valid : Dict → Bool) : Login Dict := do
  match ← Login.cached key with
  | some document => return document
  | none =>
      match ← (Login.get url).catching unavailable with
      | .dict document =>
          if valid document then do
            Login.remember key document
            return document
          else Program.raise (.http 401 "Authentication provider configuration is invalid.")
      | _ => Program.raise (.http 401 "Authentication provider configuration is invalid.")

def discovery : Login Dict :=
  match settings.tenantId.getD "" with
  | "" => Program.raise (.value "Entra tenant is unavailable.")
  | tenantId =>
      document ("discovery:" ++ tenantId)
        (.str ("https://login.microsoftonline.com/" ++ tenantId ++ "/v2.0/.well-known/openid-configuration"))
        (fun document => discoveryFields.all (Dict.has document))

/-- `_jwks`; its cache key is the text of the address. -/
def jwks (uri : Value) : Login Dict :=
  document ("jwks:" ++ strOf P uri) uri (fun document => match Dict.get document "keys" with
    | .list _ => true
    | _ => false)

/-- `token.split(".")`, which has to have three parts. -/
def tokenParts (token : Value) : Except AuthError (String × String × String) :=
  match token with
  | .str token =>
      match Text.split token '.' with
      | [header, claims, signature] => .ok (header, claims, signature)
      | _ => .error (.http 401 "Invalid bearer token.")
  | _ => .error .attribute

/-- The first key of the set with the header's id, for RSA. -/
def signingKey (kid : Value) : List Value → Except AuthError Dict
  | [] => .error .stopIteration
  | .dict key :: keys =>
      if Dict.get key "kid" = kid ∧ Dict.get key "kty" = .str "RSA" then .ok key else signingKey kid keys
  | _ :: _ => .error .attribute

/-- What `_decode_b64url` raises for the items of a list or the keys of an object: `in` looks a text up
as a part of the alphabet and nothing else at all, and only a text can be padded. -/
def rejectItems : List Value → AuthError
  | .str text :: items =>
      if text.toList <:+: Base64.alphanumeric ++ ['-', '_'] then rejectItems items
      else .value "Invalid token encoding."
  | _ => .type

/-- `_decode_b64url` of an entry of a key. -/
def keyNumber (key : Dict) (name : String) : Except AuthError Bytes := do
  let value ← item key name
  raiseWhen (!value.truthy) (.value "Invalid token encoding.")
  match value with
  | .str text => decodeB64url text
  | .list items => .error (rejectItems items)
  | .dict entries => .error (rejectItems (entries.map (fun entry => .str entry.1)))
  | _ => .error .type

/-- `header.get("alg") != "RS256" or not isinstance(header.get("kid"), str)`. -/
def tokenHeader (segment : String) : Except AuthError Value := do
  let header ← jsonSegment P segment
  raiseWhen (Dict.get header "alg" != .str "RS256" || !(Dict.get header "kid").isStr)
    (.value "Unsupported token algorithm.")
  return Dict.get header "kid"

/-- The `list` under `keys`, which a checked key set has. -/
def keysOf (document : Dict) : Except AuthError (List Value) := do
  match ← item document "keys" with
  | .list keys => .ok keys
  | _ => .error .type

/-- The `try` block of `_verify_token`: the claims under a valid signature. -/
def signedClaims (header claims signature : String) : Login Dict := do
  let kid ← Program.lift (tokenHeader P header)
  let provider ← discovery settings
  let uri ← Program.lift (item provider "jwks_uri")
  let keySet ← jwks P uri
  let keys ← Program.lift (keysOf keySet)
  let key ← Program.lift (signingKey kid keys)
  let exponent ← Program.lift (keyNumber key "e")
  let modulus ← Program.lift (keyNumber key "n")
  let signed ← Program.lift (decodeB64url signature)
  Program.lift (P.rsaVerify exponent modulus signed (Bytes.utf8 (header ++ "." ++ claims)))
  Program.lift (jsonSegment P claims)

/-- The exceptions of the `try` block that become a rejection. -/
def rejectToken {α : Type} : AuthError → Login α
  | .value _ | .decode | .key | .stopIteration | .signature =>
      Program.raise (.http 401 "Invalid bearer token.")
  | error => Program.raise error

/-- `isinstance(value, (int, float)) and value <= now`. -/
def passed (now : Rat) : Value → Bool
  | .bool b => decide ((if b then 1 else 0) ≤ now)
  | .int n => decide ((n : Rat) ≤ now)
  | .float x => x.atMost now
  | .none | .str _ | .list _ | .dict _ => false

/-- `isinstance(value, (int, float)) and value > now`. -/
def ahead (now : Rat) : Value → Bool
  | .bool b => decide (now < (if b then 1 else 0))
  | .int n => decide (now < (n : Rat))
  | .float x => x.after now
  | .none | .str _ | .list _ | .dict _ => false

def numeric : Value → Bool
  | .bool _ | .int _ | .float _ => true
  | .none | .str _ | .list _ | .dict _ => false

/-- `audience in audiences if isinstance(audiences, list) else audiences == audience`. -/
def audienceMatches (audience : String) : Value → Bool
  | .list audiences => audiences.contains (.str audience)
  | audiences => audiences == .str audience

def refused (audience : String) (nonce : Option String) (now : Rat) (claims : Dict) : Bool :=
  Dict.get claims "iss" != .str ("https://login.microsoftonline.com/" ++ settings.tenantId.getD "None" ++ "/v2.0") ||
    Dict.get claims "tid" != .ofOption settings.tenantId ||
    !audienceMatches audience (Dict.get claims "aud") ||
    !numeric (Dict.get claims "exp") || passed now (Dict.get claims "exp") ||
    ahead now (Dict.get claims "nbf") ||
    nonce.any (fun expected => Dict.get claims "nonce" != .str expected)

def verifyToken (token : Value) (audience : String) (nonce : Option String) : Login Dict := do
  let parts ← Program.lift (tokenParts token)
  let claims ← (signedClaims P settings parts.1 parts.2.1 parts.2.2).catching rejectToken
  let now ← Login.time
  Program.lift (raiseWhen (refused settings audience nonce now claims) (.http 401 "Invalid bearer token."))
  return claims

/-- What the service reads of a request and of `request.app.state`. -/
structure Request where
  authorization : Option String
  gatewaySession : Option String
  demoMode : Bool

/-- `authorization` when it is a bearer header: its token. -/
def bearer (request : Request) : Option String :=
  let authorization := request.authorization.getD ""
  if "Bearer ".toList.isPrefixOf authorization.toList && authorization.toList.count ' ' == 1 then
    some (String.ofList (authorization.toList.drop 7))
  else none

/-- `not isinstance(expires_at, (int, float)) or expires_at <= time.time()`. -/
def expired (now : Rat) (expiresAt : Value) : Bool := !numeric expiresAt || passed now expiresAt

def demoUser (role : GatewayRole) : AuthenticatedUser where
  subject := settings.demoUserId.getD ""
  tenantId := none
  name := settings.demoUserName.getD ""
  email := settings.demoUserEmail
  roles := {role}
  authMode := .demo

def sessionClaims (request : Request) (now : Rat) : Except AuthError Dict := do
  let secret ← cookieSecret settings
  let claims ← unsign P request.gatewaySession secret
  raiseWhen (expired now (Dict.get claims "expires_at")) (.http 401 "Authentication is required.")
  return claims

def sessionUser (request : Request) (now : Rat) : Except AuthError AuthenticatedUser := do
  let claims ← sessionClaims P settings request now
  userFromClaims P settings claims

/-- `authenticate_request` at time `now`. -/
def authenticateRequest (request : Request) (now : Rat) : Login AuthenticatedUser :=
  match mode : settings.mode with
  | .demo => do
      Program.lift (raiseWhen (!request.demoMode) (.http 401 "Demo authentication is disabled."))
      return demoUser settings (settings.demoUserRole.get (settings.demo_loaded mode))
  | .disabled => Program.raise (.http 401 "Authentication is required.")
  | .entra =>
      match bearer request with
      | some token => do
          let claims ← verifyToken P settings (.str token) (settings.apiClientId.getD "") none
          Program.lift (userFromClaims P settings claims)
      | none => Program.lift (sessionUser P settings request now)

def sessionPayload (user : AuthenticatedUser) (expiresAt : PyFloat) : Dict :=
  Dict.merge user.publicEntries [("expires_at", .float expiresAt)]

def sessionCookie (user : AuthenticatedUser) (expiresAt : PyFloat) : Except AuthError String := do
  let secret ← cookieSecret settings
  sign P (sessionPayload user expiresAt) secret

/-- `current_user`: a `ValueError` is a rejection too. -/
def currentUser (request : Request) (now : Rat) : Login AuthenticatedUser :=
  (authenticateRequest P settings request now).catching (fun error => match error with
    | .value _ | .decode => Program.raise (.http 401 "Authentication is unavailable.")
    | error => Program.raise error)

def requireRole (required : GatewayRole) (request : Request) (now : Rat) : Login AuthenticatedUser := do
  let user ← currentUser P settings request now
  Program.lift (raiseWhen (!hasRole user required) (.http 403 "Insufficient role."))
  return user

/-! The browser login. -/

/-- What `start_login` draws: `secrets.token_urlsafe` encodes random bytes. -/
structure Draws where
  state : Bytes
  nonce : Bytes
  verifier : Bytes
  now : Rat

structure LoginStart where
  authorizationUrl : String
  stateCookie : String
  deriving DecidableEq

def flowPayload (draws : Draws) (redirectUri : String) : Dict :=
  [("state", .str (b64url draws.state)), ("nonce", .str (b64url draws.nonce)),
   ("verifier", .str (b64url draws.verifier)), ("redirect_uri", .str redirectUri),
   ("iat", .float (.finite draws.now))]

def loginParams (draws : Draws) (redirectUri : String) : List (String × String) :=
  [("client_id", settings.clientId.getD "None"), ("response_type", "code"), ("redirect_uri", redirectUri),
   ("response_mode", "query"), ("scope", " ".intercalate settings.scopes), ("state", b64url draws.state),
   ("nonce", b64url draws.nonce),
   ("code_challenge", b64url (P.sha256 (Bytes.utf8 (b64url draws.verifier)))), ("code_challenge_method", "S256")]

/-- The state cookie `start_login` mints. -/
def stateCookie (draws : Draws) (redirectUri : String) : Except AuthError String := do
  let secret ← cookieSecret settings
  sign P (flowPayload draws redirectUri) secret

def startLogin (draws : Draws) (redirectUri : String) : Login LoginStart := do
  Program.lift (raiseWhen (settings.mode != .entra || !settings.redirectUris.contains redirectUri)
    (.http 401 "Browser authentication is unavailable."))
  let cookie ← Program.lift (stateCookie P settings draws redirectUri)
  let provider ← discovery settings
  let endpoint ← Program.lift (item provider "authorization_endpoint")
  match endpoint with
  | .str endpoint => return ⟨endpoint ++ "?" ++ P.urlencode (loginParams P settings draws redirectUri), cookie⟩
  | _ => Program.raise .type

/-- `float(value)`. -/
def floatOf : Value → Except AuthError PyFloat
  | .bool b => .ok (.finite (if b then 1 else 0))
  | .int n => match P.floatOfInt n with
    | some q => .ok (.finite q)
    | none => .error .overflow
  | .float x => .ok x
  | .str s => match P.parseFloat s with
    | some x => .ok x
    | none => .error .decode
  | .none | .list _ | .dict _ => .error .type

structure FlowEntries where
  state : Value
  nonce : Value
  verifier : Value
  redirectUri : Value
  issuedAt : PyFloat

/-- The first `try` block of `complete_login`. -/
def readFlow (cookie : Option String) : Except AuthError FlowEntries := do
  let secret ← cookieSecret settings
  let flow ← unsign P cookie secret
  let state ← item flow "state"
  let nonce ← item flow "nonce"
  let verifier ← item flow "verifier"
  let redirectUri ← item flow "redirect_uri"
  let iat ← item flow "iat"
  let issuedAt ← floatOf P iat
  return ⟨state, nonce, verifier, redirectUri, issuedAt⟩

/-- `except (KeyError, TypeError, ValueError)`. -/
def failClosed {α : Type} : Except AuthError α → Except AuthError α
  | .error .key | .error .type | .error .decode | .error (.value _) => .error (.http 401 "Invalid login state.")
  | outcome => outcome

structure Flow where
  state : String
  nonce : String
  verifier : String
  redirectUri : String
  issuedAt : PyFloat

/-- `isinstance(..., str)` for the four texts of a flow. -/
def flowTexts (entries : FlowEntries) : Except AuthError Flow :=
  match entries.state, entries.nonce, entries.verifier, entries.redirectUri with
  | .str state, .str nonce, .str verifier, .str redirectUri =>
      .ok ⟨state, nonce, verifier, redirectUri, entries.issuedAt⟩
  | _, _, _, _ => .error (.http 401 "Invalid login state.")

/-- `hmac.compare_digest` on texts raises unless both are ASCII. -/
def compareDigest (a b : String) : Except AuthError Bool :=
  match Bytes.ascii a, Bytes.ascii b with
  | some first, some second => .ok (first == second)
  | _, _ => .error .type

/-- `time.time() - issued_at > 600`. -/
def outdated (now : Rat) : PyFloat → Bool
  | .finite q => decide (600 < now - q)
  | .infinite negative => negative
  | .nan => false

/-- The checks of `complete_login` on a flow at time `now`. -/
def checkFlow (now : Rat) (state : String) (flow : Flow) : Except AuthError Unit := do
  let invalid := AuthError.http 401 "Invalid login state."
  raiseWhen (!settings.redirectUris.contains flow.redirectUri) invalid
  let same ← compareDigest flow.state state
  raiseWhen (!same || flow.issuedAt.after now || outdated now flow.issuedAt) invalid

def acceptedFlow (now : Rat) (state : String) (cookie : Option String) : Except AuthError Flow := do
  let entries ← failClosed (readFlow P settings cookie)
  let flow ← flowTexts entries
  checkFlow settings now state flow
  return flow

def tokenForm (code : String) (flow : Flow) : List (String × Option String) :=
  [("client_id", settings.clientId), ("client_secret", settings.clientSecret),
   ("grant_type", some "authorization_code"), ("code", some code), ("redirect_uri", some flow.redirectUri),
   ("code_verifier", some flow.verifier)]

/-- The second `try` block of `complete_login`. -/
def tokenRequest (code : String) (flow : Flow) : Login Value := do
  let provider ← discovery settings
  let endpoint ← Program.lift (item provider "token_endpoint")
  let response ← Login.post endpoint (tokenForm settings code flow)
  Program.lift (itemOf response "id_token")

/-- `except (requests.RequestException, KeyError, TypeError, ValueError)`. -/
def signInFailed {α : Type} : AuthError → Login α
  | .request | .key | .type | .decode | .value _ => Program.raise (.http 401 "Sign-in could not be completed.")
  | error => Program.raise error

/-- What `complete_login` does for an accepted flow. -/
def exchange (code : String) (flow : Flow) : Login AuthenticatedUser := do
  let idToken ← (tokenRequest settings code flow).catching signInFailed
  let claims ← verifyToken P settings idToken (settings.clientId.getD "") (some flow.nonce)
  Program.lift (userFromClaims P settings claims)

/-- `complete_login` at time `now`. -/
def completeLogin (now : Rat) (code state : String) (cookie : Option String) : Login AuthenticatedUser := do
  Program.lift (raiseWhen (settings.mode != .entra) (.http 401 "Browser authentication is unavailable."))
  let flow ← Program.lift (acceptedFlow P settings now state cookie)
  exchange P settings code flow

end

end NetworkGateway.Auth
