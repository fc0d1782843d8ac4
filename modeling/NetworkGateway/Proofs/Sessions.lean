import NetworkGateway.Bl.Login

/-! What a signed cookie carries back to the service that minted it. -/

namespace NetworkGateway.Auth

open Library Library.Result Library.Interaction

theorem urlSafe_symbol {data : Bytes} {c : Char} (member : c ∈ (b64url data).toList) :
    ∃ n < 64, c = Base64.urlSafe.symbol n := by
  have symbols := Base64.encode_symbols (A := Base64.urlSafe) data
  apply symbols
  simpa [b64url] using member

theorem urlSafe_plain : ∀ n < 64, (Base64.urlSafe.symbol n).toNat < 128 ∧ Base64.urlSafe.symbol n ≠ '.' := by
  decide +kernel

theorem b64url_ascii (data : Bytes) : ∀ c ∈ (b64url data).toList, c.toNat < 128 := by
  intro c member
  rcases urlSafe_symbol member with ⟨n, bound, rfl⟩
  exact (urlSafe_plain n bound).1

theorem b64url_dotless (data : Bytes) : '.' ∉ (b64url data).toList := by
  intro member
  rcases urlSafe_symbol member with ⟨n, bound, same⟩
  exact (urlSafe_plain n bound).2 same.symm

theorem b64url_toList (data : Bytes) :
    (b64url data).toList = Base64.encode Base64.urlSafe data := by
  simp [b64url]

theorem decode_b64url {data : Bytes} (present : data ≠ []) : decodeB64url (b64url data) = .ok data := by
  have nonempty : (b64url data).toList.isEmpty = false := by
    rw [b64url_toList, List.isEmpty_eq_false_iff]
    intro empty
    exact present (Base64.encode_eq_nil empty)
  have indexed : (b64url data).toList.any (fun c => (Base64.urlSafe.index c).isNone) = false := by
    rw [List.any_eq_false]
    intro c member
    rcases urlSafe_symbol member with ⟨n, bound, rfl⟩
    rw [Base64.urlSafe.index_symbol n bound]
    simp
  unfold decodeB64url
  rw [nonempty, indexed, b64url_toList, Base64.decode_encode]
  rfl

theorem rsplitDot_append (encoded : String) {signature : String} (dotless : '.' ∉ signature.toList) :
    rsplitDot (encoded ++ "." ++ signature) = (encoded, signature) := by
  have text : (encoded ++ "." ++ signature).toList.reverse =
      signature.toList.reverse ++ '.' :: encoded.toList.reverse := by
    simp
  have plain : ∀ c ∈ signature.toList.reverse, (c != '.') = true := by
    intro c member
    have listed : c ∈ signature.toList := List.mem_reverse.mp member
    rw [bne_iff_ne]
    rintro rfl
    exact dotless listed
  have dropped : (signature.toList.reverse ++ '.' :: encoded.toList.reverse).dropWhile (· != '.') =
      '.' :: encoded.toList.reverse := by
    rw [List.dropWhile_append_of_pos plain]
    simp
  have taken : (signature.toList.reverse ++ '.' :: encoded.toList.reverse).takeWhile (· != '.') =
      signature.toList.reverse := by
    rw [List.takeWhile_append_of_pos plain]
    simp
  unfold rsplitDot
  rw [text, dropped, taken]
  simp

variable {P : AuthPlatform}

theorem digest_b64url (secret : String) (data : Bytes) :
    ∃ message, digest P secret (b64url data) = .ok (P.hmacSha256 (Bytes.utf8 secret) message) := by
  have ascii : (b64url data).toList.all (fun c => c.toNat < 128) = true := by
    rw [List.all_eq_true]
    intro c member
    simpa using b64url_ascii data c member
  unfold digest Bytes.ascii
  rw [if_pos ascii]
  exact ⟨_, rfl⟩

theorem digest_present {secret encoded : String} {signature : Bytes}
    (signed : digest P secret encoded = .ok signature) : signature ≠ [] := by
  unfold digest at signed
  cases message : Bytes.ascii encoded with
  | none => simp [message] at signed
  | some bytes =>
      simp only [message, Except.ok.injEq] at signed
      have size := P.digest_length (Bytes.utf8 secret) bytes
      rw [signed] at size
      intro empty
      rw [empty] at size
      cases size

/-- The service reads a payload it signed itself as `json.loads` reads its text. -/
theorem unsign_sign {payload : Dict} {secret token : String} (written : P.dumps payload ≠ "")
    (signed : sign P payload secret = .ok token) :
    unsign P (some token) secret = readObject P (Bytes.utf8 (P.dumps payload)) := by
  have text : Bytes.utf8 (P.dumps payload) ≠ [] := by
    intro empty
    apply written
    have letters : (P.dumps payload).toList = [] := by
      rw [List.eq_nil_iff_forall_not_mem]
      intro c member
      have bytes : String.utf8EncodeChar c ≠ [] := by
        have size := c.utf8Size_pos
        rw [← String.length_utf8EncodeChar] at size
        exact List.ne_nil_of_length_pos size
      apply bytes
      exact List.flatMap_eq_nil_iff.mp empty c member
    exact String.toList_eq_nil_iff.mp letters
  unfold sign at signed
  rw [bind_eq_ok] at signed
  rcases signed with ⟨signature, computed, rest⟩
  have token_eq : b64url (Bytes.utf8 (P.dumps payload)) ++ "." ++ b64url signature = token := by
    simpa using rest
  have split := rsplitDot_append (b64url (Bytes.utf8 (P.dumps payload))) (b64url_dotless signature)
  have dotted : (!(b64url (Bytes.utf8 (P.dumps payload)) ++ "." ++ b64url signature).toList.contains '.') = false := by
    simp
  rw [← token_eq]
  unfold unsign jsonSegment
  rw [Option.getD_some, dotted, split]
  simp only [raiseWhen_false, ok_bind, computed, decode_b64url (digest_present computed), decode_b64url text,
    bne_self_eq_false]

section RoundTrip

variable {settings : AuthSettings} {user : AuthenticatedUser} {claims : Dict}

theorem readRoles_texts (roles : List GatewayRole) :
    readRoles (roles.map (fun role => .str role.text)) = .ok roles := by
  induction roles with
  | nil => rfl
  | cons role roles ih =>
      rw [List.map_cons, readRoles, GatewayRole.ofText_text]
      simp [ih]

theorem readRoles_length {items : List Value} {roles : List GatewayRole}
    (read : readRoles items = .ok roles) : roles.length = items.length := by
  induction items generalizing roles with
  | nil => simp_all [readRoles]
  | cons item items ih =>
      cases item with
      | str s =>
          rw [readRoles] at read
          cases named : GatewayRole.ofText s with
          | none => simp [named] at read
          | some role =>
              simp only [named, bind_eq_ok, pure_eq, Except.ok.injEq] at read
              rcases read with ⟨rest, found, rfl⟩
              simp [ih found]
      | none | bool | int | float | list | dict => simp [readRoles] at read

theorem claimedRoles_ne_nil {roles : List GatewayRole} (read : claimedRoles claims = .ok roles) : roles ≠ [] := by
  unfold claimedRoles at read
  split at read
  · have size := readRoles_length read
    intro empty
    simp [empty] at size
  · cases read

theorem userFromClaims_roles (parsed : userFromClaims P settings claims = .ok user) : user.roles.Nonempty := by
  simp only [userFromClaims, bind_eq_ok, pure_eq, Except.ok.injEq] at parsed
  rcases parsed with ⟨roles, read, subject, -, rfl⟩
  have present := claimedRoles_ne_nil read
  rcases List.exists_mem_of_ne_nil roles present with ⟨role, member⟩
  exact ⟨role, List.mem_toFinset.mpr member⟩

theorem claimedRoles_sorted {roles : Finset GatewayRole} (nonempty : roles.Nonempty)
    (held : claims.lookup "roles" = some (.list ((GatewayRole.sorted roles).map (fun role => .str role.text)))) :
    claimedRoles claims = .ok (GatewayRole.sorted roles) := by
  have read := readRoles_texts (GatewayRole.sorted roles)
  rcases nonempty with ⟨role, member⟩
  have listed : role ∈ GatewayRole.sorted roles := GatewayRole.mem_sorted.mpr member
  unfold claimedRoles
  rw [Dict.get_eq, held, Option.getD_some]
  cases sorted : GatewayRole.sorted roles with
  | nil => simp [sorted] at listed
  | cons head tail =>
      rw [sorted] at read
      exact read

theorem claimedSubject_none (oid : claims.lookup "oid" = none) (sub : claims.lookup "sub" = none) :
    claimedSubject claims = .error (.http 401 "Invalid bearer token.") := by
  unfold claimedSubject
  rw [Dict.get_eq, Dict.get_eq, oid, sub]
  rfl

/-- `json.loads` reads a payload back from its `json.dumps` text, up to the order of its keys. -/
structure ReadsBack (P : AuthPlatform) (payload : Dict) : Prop where
  written : P.dumps payload ≠ ""
  read : ∃ entries, P.loads (Bytes.utf8 (P.dumps payload)) = .ok (.dict entries) ∧
    ∀ key, entries.lookup key = payload.lookup key

variable {expiresAt : PyFloat} {cookie : String} {request : Request} {now : Rat}

theorem unsign_sessionCookie (json : ReadsBack P (sessionPayload user expiresAt))
    (minted : sessionCookie P settings user expiresAt = .ok cookie) :
    ∃ secret entries, cookieSecret settings = .ok secret ∧ unsign P (some cookie) secret = .ok entries ∧
      ∀ key, entries.lookup key = (sessionPayload user expiresAt).lookup key := by
  rcases json.read with ⟨entries, loaded, same⟩
  unfold sessionCookie at minted
  rw [bind_eq_ok] at minted
  rcases minted with ⟨secret, held, signed⟩
  refine ⟨secret, entries, held, ?_, same⟩
  rw [unsign_sign json.written signed, readObject, loaded]

theorem sessionCookie_ok (user : AuthenticatedUser) (expiresAt : PyFloat) {secret : String}
    (held : cookieSecret settings = .ok secret) :
    ∃ cookie, sessionCookie P settings user expiresAt = .ok cookie := by
  have signed := digest_b64url (P := P) secret (Bytes.utf8 (P.dumps (sessionPayload user expiresAt)))
  rcases signed with ⟨message, computed⟩
  unfold sessionCookie sign
  simp only [held, computed, ok_bind, pure_eq, Except.ok.injEq, exists_eq']

/-- The identity of a session is kept under a name that the claims parser does not read. -/
theorem sessionPayload_unread (user : AuthenticatedUser) (expiresAt : PyFloat) :
    (sessionPayload user expiresAt).lookup "oid" = none ∧ (sessionPayload user expiresAt).lookup "sub" = none := by
  simp [sessionPayload, AuthenticatedUser.publicEntries, List.lookup_cons]

theorem authenticateRequest_session (entra : settings.mode = .entra) (plain : bearer request = none) :
    authenticateRequest P settings request now = .done (sessionUser P settings request now) := by
  unfold authenticateRequest
  split
  · simp_all
  · simp_all
  · rw [plain]
    rfl

theorem session_unread (entra : settings.mode = .entra) (json : ReadsBack P (sessionPayload user expiresAt))
    (roles : user.roles.Nonempty) (minted : sessionCookie P settings user expiresAt = .ok cookie)
    (carried : request.gatewaySession = some cookie) (plain : bearer request = none)
    (later : expiresAt.after now = true) :
    authenticateRequest P settings request now = .done (.error (.http 401 "Invalid bearer token.")) := by
  rcases unsign_sessionCookie json minted with ⟨secret, entries, held, unsigned, same⟩
  have expiry : entries.lookup "expires_at" = some (.float expiresAt) := by
    rw [same]
    simp [sessionPayload]
  have listed : entries.lookup "roles" =
      some (.list ((GatewayRole.sorted user.roles).map (fun role => .str role.text))) := by
    rw [same]
    simp [sessionPayload, AuthenticatedUser.publicEntries, List.lookup_cons]
  have valid : expired now (Dict.get entries "expires_at") = false := by
    rw [Dict.get_eq, expiry]
    simpa [expired, numeric, passed] using PyFloat.not_atMost_of_after later
  have session : sessionClaims P settings request now = .ok entries := by
    unfold sessionClaims
    simp only [held, carried, unsigned, valid, ok_bind, raiseWhen_false, pure_eq]
  have oid : entries.lookup "oid" = none := (same _).trans (sessionPayload_unread user expiresAt).1
  have sub : entries.lookup "sub" = none := (same _).trans (sessionPayload_unread user expiresAt).2
  have refused : userFromClaims P settings entries = .error (.http 401 "Invalid bearer token.") := by
    unfold userFromClaims
    rw [claimedRoles_sorted roles listed, claimedSubject_none oid sub]
    rfl
  have user : sessionUser P settings request now = .error (.http 401 "Invalid bearer token.") := by
    rw [sessionUser, session]
    exact refused
  rw [authenticateRequest_session entra plain, user]

theorem session_expired (entra : settings.mode = .entra) (json : ReadsBack P (sessionPayload user expiresAt))
    (minted : sessionCookie P settings user expiresAt = .ok cookie)
    (carried : request.gatewaySession = some cookie) (plain : bearer request = none)
    (ended : expiresAt.atMost now = true) :
    authenticateRequest P settings request now = .done (.error (.http 401 "Authentication is required.")) := by
  rcases unsign_sessionCookie json minted with ⟨secret, entries, held, unsigned, same⟩
  have expiry : entries.lookup "expires_at" = some (.float expiresAt) := by
    rw [same]
    simp [sessionPayload]
  have past : expired now (Dict.get entries "expires_at") = true := by
    rw [Dict.get_eq, expiry]
    simpa [expired, numeric, passed] using ended
  have session : sessionClaims P settings request now = .error (.http 401 "Authentication is required.") := by
    unfold sessionClaims
    simp only [held, carried, unsigned, past, ok_bind, raiseWhen_true, error_bind]
  have user : sessionUser P settings request now = .error (.http 401 "Authentication is required.") := by
    rw [sessionUser, session]
    rfl
  rw [authenticateRequest_session entra plain, user]

/-- A session cookie stands for its user until it expires and for nobody afterwards. -/
structure SessionHolds (P : AuthPlatform) (settings : AuthSettings) (user : AuthenticatedUser)
    (expiresAt : PyFloat) (request : Request) (now : Rat) : Prop where
  before : expiresAt.after now = true → authenticateRequest P settings request now = .done (.ok user)
  afterwards : expiresAt.atMost now = true →
    ∃ detail, authenticateRequest P settings request now = .done (.error (.http 401 detail))

theorem session_holds_iff (entra : settings.mode = .entra)
    (parsed : userFromClaims P settings claims = .ok user)
    (json : ReadsBack P (sessionPayload user expiresAt))
    (minted : sessionCookie P settings user expiresAt = .ok cookie)
    (carried : request.gatewaySession = some cookie) (plain : bearer request = none) :
    SessionHolds P settings user expiresAt request now ↔ ¬expiresAt.after now = true := by
  constructor
  · intro holds later
    have accepted := holds.before later
    have roles := userFromClaims_roles parsed
    have refused := session_unread entra json roles minted carried plain later
    rw [refused] at accepted
    cases accepted
  · intro notLater
    constructor
    · intro later
      exact absurd later notLater
    · intro ended
      exact ⟨_, session_expired entra json minted carried plain ended⟩

end RoundTrip

namespace Bench

def settings : AuthSettings where
  mode := .entra
  tenantId := some "11111111-2222-4333-8444-555555555555"
  clientId := some "22222222-3333-4444-8555-666666666666"
  apiClientId := some "22222222-3333-4444-8555-666666666666"
  clientSecret := some "bench-client-secret"
  redirectUris := ["http://localhost:8000/api/v1/callback"]
  postLogoutRedirectUri := none
  scopes := ["openid", "profile", "email"]
  demoUserId := none
  demoUserEmail := none
  demoUserName := none
  demoUserRole := none
  demo_loaded := Settings.entra_loaded

def assigned : List (String × String) :=
  [("GATEWAY_AUTH_MODE", "entra"), ("GATEWAY_ENTRA_CLIENT_SECRET", "bench-client-secret"),
   ("GATEWAY_ENTRA_TENANT_ID", "11111111-2222-4333-8444-555555555555"),
   ("GATEWAY_ENTRA_CLIENT_ID", "22222222-3333-4444-8555-666666666666"),
   ("GATEWAY_ENTRA_REDIRECT_URIS", "http://localhost:8000/api/v1/callback")]

def environment : Settings.Environment where
  lookup name := assigned.lookup name
  urlsplit _ := some ⟨"http", "localhost:8000", none, none, "", some "localhost"⟩

set_option maxRecDepth 10000 in
theorem settings_loaded : Settings.authSettings environment = .ok settings := by
  rfl

def claims : Dict :=
  [("oid", .str "user-1"), ("name", .str "operator"), ("roles", .list [.str "Operator"])]

def user : AuthenticatedUser where
  subject := "user-1"
  tenantId := settings.tenantId
  name := "operator"
  email := none
  roles := {.operator}
  authMode := .entra

def expiresAt : PyFloat := .finite 1767950000

def text : String :=
  "\x7b\"auth_mode\":\"entra\",\"email\":null,\"expires_at\":1767950000.0,\"name\":\"operator\",\"roles\":[\"Operator\"],\"subject\":\"user-1\",\"tenant_id\":\"11111111-2222-4333-8444-555555555555\"\x7d"

/-- What `json.loads` makes of `text`. -/
def entries : Dict :=
  [("auth_mode", .str "entra"), ("email", .none), ("expires_at", .float expiresAt), ("name", .str "operator"),
   ("roles", .list [.str "Operator"]), ("subject", .str "user-1"),
   ("tenant_id", .str "11111111-2222-4333-8444-555555555555")]

/-- HMAC-SHA-256 of the encoded text under the bench's client secret. -/
def signature : Bytes :=
  [32, 121, 37, 136, 249, 216, 32, 9, 190, 51, 172, 230, 112, 22, 221, 38,
   86, 255, 158, 226, 166, 210, 79, 29, 248, 207, 240, 71, 141, 65, 116, 215]

def platform : AuthPlatform where
  hmacSha256 _ _ := signature
  digest_length _ _ := rfl
  sha256 _ := []
  dumps payload := if payload = sessionPayload user expiresAt then text else "\x7b\x7d"
  loads data := if data = Bytes.utf8 text then .ok (.dict entries) else .error .value
  repr _ := ""
  floatOfInt n := some n
  parseFloat _ := none
  urlencode _ := ""
  rsaVerify _ _ _ _ := .error .signature

theorem user_parsed : userFromClaims platform settings claims = .ok user := rfl

theorem secret_held : cookieSecret settings = .ok "bench-client-secret" := rfl

theorem dumped : platform.dumps (sessionPayload user expiresAt) = text := by
  simp only [platform, if_true]

theorem loaded : platform.loads (Bytes.utf8 text) = .ok (.dict entries) := by
  simp only [platform, if_true]

theorem readsBack : ReadsBack platform (sessionPayload user expiresAt) where
  written := by
    rw [dumped]
    decide +kernel
  read := by
    rw [dumped]
    refine ⟨entries, loaded, ?_⟩
    intro key
    have keys : (sessionPayload user expiresAt) =
        [("subject", .str "user-1"), ("tenant_id", .str "11111111-2222-4333-8444-555555555555"),
         ("name", .str "operator"), ("email", .none), ("roles", .list [.str "Operator"]),
         ("auth_mode", .str "entra"), ("expires_at", .float expiresAt)] := rfl
    rw [keys]
    simp only [entries, Dict.lookup_cons_key, List.lookup_nil]
    grind

end Bench

theorem session_holds_iff_bench : ∃ cookie, sessionCookie Bench.platform Bench.settings Bench.user Bench.expiresAt = .ok cookie ∧
    (SessionHolds Bench.platform Bench.settings Bench.user Bench.expiresAt ⟨none, some cookie, false⟩ 1767949999 ↔
      ¬Bench.expiresAt.after 1767949999 = true) := by
  rcases sessionCookie_ok (P := Bench.platform) Bench.user Bench.expiresAt Bench.secret_held with ⟨cookie, minted⟩
  exact ⟨cookie, minted, session_holds_iff rfl Bench.user_parsed Bench.readsBack minted rfl rfl⟩

/-- One second before its expiry the bench user's own session is refused. -/
theorem session_refused : ∃ cookie,
    userFromClaims Bench.platform Bench.settings Bench.claims = .ok Bench.user ∧
    ReadsBack Bench.platform (sessionPayload Bench.user Bench.expiresAt) ∧
    sessionCookie Bench.platform Bench.settings Bench.user Bench.expiresAt = .ok cookie ∧
    Bench.expiresAt.after 1767949999 = true ∧
    authenticateRequest Bench.platform Bench.settings ⟨none, some cookie, false⟩ 1767949999 =
      .done (.error (.http 401 "Invalid bearer token.")) ∧
    ¬SessionHolds Bench.platform Bench.settings Bench.user Bench.expiresAt ⟨none, some cookie, false⟩ 1767949999 := by
  rcases sessionCookie_ok (P := Bench.platform) Bench.user Bench.expiresAt Bench.secret_held with ⟨cookie, minted⟩
  have later : Bench.expiresAt.after 1767949999 = true := by decide
  have roles := userFromClaims_roles Bench.user_parsed
  have refused : authenticateRequest Bench.platform Bench.settings ⟨none, some cookie, false⟩ 1767949999 =
      .done (.error (.http 401 "Invalid bearer token.")) :=
    session_unread rfl Bench.readsBack roles minted rfl rfl later
  refine ⟨cookie, Bench.user_parsed, Bench.readsBack, minted, later, refused, ?_⟩
  intro holds
  have accepted := holds.before later
  rw [refused] at accepted
  cases accepted

end NetworkGateway.Auth
