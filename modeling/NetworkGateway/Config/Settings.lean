import NetworkGateway.Library.Result
import NetworkGateway.Python.Uuid

/-! `config/settings.py`: the settings of a deployment, read from its environment. -/

namespace NetworkGateway

open Library.Result

inductive GatewayRole where
  | viewer
  | operator
  | administrator
  deriving DecidableEq, Repr

namespace GatewayRole

def text : GatewayRole → String
  | viewer => "Viewer"
  | operator => "Operator"
  | administrator => "Administrator"

def ofText : String → Option GatewayRole
  | "Viewer" => some viewer
  | "Operator" => some operator
  | "Administrator" => some administrator
  | _ => none

@[simp] theorem ofText_text (role : GatewayRole) : ofText role.text = some role := by
  cases role <;> rfl

end GatewayRole

inductive Settings.AuthMode where
  | entra
  | demo
  | disabled
  deriving DecidableEq, Repr

/-- Demo mode is only loaded with a role. -/
structure AuthSettings where
  mode : Settings.AuthMode
  tenantId : Option String
  clientId : Option String
  apiClientId : Option String
  clientSecret : Option String
  redirectUris : List String
  postLogoutRedirectUri : Option String
  scopes : List String
  demoUserId : Option String
  demoUserEmail : Option String
  demoUserName : Option String
  demoUserRole : Option GatewayRole
  demo_loaded : mode = .demo → demoUserRole.isSome

namespace Settings

/-- `os.environ` and `urllib.parse.urlsplit`, which raises on some texts. -/
structure SplitUrl where
  scheme : String
  netloc : String
  username : Option String
  password : Option String
  fragment : String
  hostname : Option String

structure Environment where
  lookup : String → Option String
  urlsplit : String → Option SplitUrl

variable (env : Environment)

/-- `os.environ.get(name, default)`. -/
def Environment.get (name default : String) : String := (env.lookup name).getD default

/-- `os.environ.get(name, "").strip()`. -/
def setting (name : String) : String := Text.strip (env.get name "")

/-- `text or None`. -/
def orNone (text : String) : Option String := if text = "" then none else some text

/-- `_uuid_setting`; the settings raise `ValueError` with a message. -/
def uuidSetting (name : String) : Except String String :=
  match Uuid.parse (setting env name) with
  | some parsed => .ok parsed
  | none => .error (name ++ " must be a UUID.")

def absoluteRedirectUri (value name : String) : Except String String := do
  let invalid := name ++ " must be an absolute HTTPS URI (or HTTP localhost URI)."
  match env.urlsplit value with
  | none => .error invalid
  | some parsed =>
      let localhost := parsed.hostname.any (fun host => ["localhost", "127.0.0.1", "::1"].contains host)
      raiseWhen (!(["http", "https"].contains parsed.scheme) || parsed.netloc == "" ||
        parsed.username.getD "" != "" || parsed.password.getD "" != "" || parsed.fragment != "" ||
        (parsed.scheme == "http" && !localhost)) invalid
      return value

def redirectUris : Except String (List String) := do
  let name := "GATEWAY_ENTRA_REDIRECT_URIS"
  let values := ((Text.split (env.get name "") ',').map Text.strip).filter (· != "")
  raiseWhen values.isEmpty (name ++ " must contain at least one URI.")
  each (fun value => absoluteRedirectUri env value name) values

/-- `_absolute_redirect_uri` on a setting that may be left out. -/
def postLogoutRedirectUri : Except String (Option String) :=
  let name := "GATEWAY_ENTRA_POST_LOGOUT_REDIRECT_URI"
  match orNone (setting env name) with
  | some value => some <$> absoluteRedirectUri env value name
  | none => .ok none

/-- Without its own setting the API client is the web client. -/
def apiClientId (clientId : String) : Except String String :=
  if setting env "GATEWAY_ENTRA_API_CLIENT_ID" = "" then .ok clientId
  else uuidSetting env "GATEWAY_ENTRA_API_CLIENT_ID"

def demoSettings : Except String AuthSettings := do
  match GatewayRole.ofText (setting env "GATEWAY_DEMO_USER_ROLE") with
  | none => .error "GATEWAY_DEMO_USER_ROLE must be Viewer, Operator, or Administrator."
  | some role =>
      let subject := setting env "GATEWAY_DEMO_USER_ID"
      let name := setting env "GATEWAY_DEMO_USER_NAME"
      raiseWhen (subject == "" || name == "")
        "GATEWAY_DEMO_USER_ID and GATEWAY_DEMO_USER_NAME are required in demo mode."
      return {
        mode := .demo
        tenantId := none, clientId := none, apiClientId := none, clientSecret := none
        redirectUris := [], postLogoutRedirectUri := none, scopes := ["openid", "profile", "email"]
        demoUserId := some subject
        demoUserEmail := orNone (setting env "GATEWAY_DEMO_USER_EMAIL")
        demoUserName := some name
        demoUserRole := some role
        demo_loaded := fun _ => rfl }

/-- Outside demo mode no role is needed. -/
theorem entra_loaded : Settings.AuthMode.entra = .demo → (none : Option GatewayRole).isSome := nofun

def disabledSettings : AuthSettings where
  mode := .disabled
  tenantId := none
  clientId := none
  apiClientId := none
  clientSecret := none
  redirectUris := []
  postLogoutRedirectUri := none
  scopes := ["openid", "profile", "email"]
  demoUserId := none
  demoUserEmail := none
  demoUserName := none
  demoUserRole := none
  demo_loaded := nofun

def entraSettings : Except String AuthSettings := do
  let secret := env.get "GATEWAY_ENTRA_CLIENT_SECRET" ""
  raiseWhen (secret == "") "GATEWAY_ENTRA_CLIENT_SECRET is required in entra mode."
  let scopes := Text.words (Text.replace (env.get "GATEWAY_ENTRA_SCOPES" "openid,profile,email") "," " ")
  raiseWhen (!scopes.contains "openid") "GATEWAY_ENTRA_SCOPES must include openid."
  let clientId ← uuidSetting env "GATEWAY_ENTRA_CLIENT_ID"
  let apiClient ← apiClientId env clientId
  let tenantId ← uuidSetting env "GATEWAY_ENTRA_TENANT_ID"
  let uris ← redirectUris env
  let postLogout ← postLogoutRedirectUri env
  return {
    mode := .entra
    tenantId := some tenantId, clientId := some clientId, apiClientId := some apiClient
    clientSecret := some secret
    redirectUris := uris, postLogoutRedirectUri := postLogout, scopes
    demoUserId := none, demoUserEmail := none, demoUserName := none, demoUserRole := none
    demo_loaded := nofun }

def authSettings : Except String AuthSettings :=
  match Text.strip (env.get "GATEWAY_AUTH_MODE" "disabled") with
  | "disabled" => .ok disabledSettings
  | "demo" => demoSettings env
  | "entra" => entraSettings env
  | _ => .error "GATEWAY_AUTH_MODE must be 'entra', 'demo', or 'disabled'."

theorem entra_tenant {settings : AuthSettings} (entra : settings.mode = .entra)
    (loaded : authSettings env = .ok settings) :
    ∃ text tenant, Uuid.parse text = some tenant ∧ settings.tenantId = some tenant := by
  unfold authSettings at loaded
  split at loaded
  · cases loaded
    cases entra
  · unfold demoSettings at loaded
    split at loaded
    · cases loaded
    · simp only [bind_eq_ok, pure_eq, Except.ok.injEq] at loaded
      rcases loaded with ⟨_, -, rfl⟩
      cases entra
  · simp only [entraSettings, bind_eq_ok, pure_eq, Except.ok.injEq] at loaded
    rcases loaded with ⟨_, -, _, -, _, -, _, -, tenant, parsed, _, -, _, -, rfl⟩
    unfold uuidSetting at parsed
    split at parsed
    · rename_i held
      cases parsed
      exact ⟨_, _, held, rfl⟩
    · cases parsed
  · cases loaded

end Settings

end NetworkGateway
