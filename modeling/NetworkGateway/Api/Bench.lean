import NetworkGateway.Api.Server
import NetworkGateway.Dal.Bench

/-! An application the model can be run on: demo mode with an administrator, over the bench's libraries. -/

namespace NetworkGateway.Api.Bench

open Auth Library Library.Interaction Store

def settings : AuthSettings where
  mode := .demo
  tenantId := none
  clientId := none
  apiClientId := none
  clientSecret := none
  redirectUris := []
  postLogoutRedirectUri := none
  scopes := []
  demoUserId := some "demo"
  demoUserEmail := none
  demoUserName := some "Demo"
  demoUserRole := some .administrator
  demo_loaded _ := rfl

def auth : AuthPlatform where
  hmacSha256 _ _ := List.replicate 32 0
  digest_length _ _ := List.length_replicate
  sha256 _ := []
  dumps _ := ""
  loads _ := .error .value
  repr _ := ""
  floatOfInt n := some n
  parseFloat _ := none
  urlencode _ := ""
  rsaVerify _ _ _ _ := .error .signature

def application : Application Platform.SealedToken where
  libraries := NetworkGateway.Bench.libraries
  key := "MDEyMzQ1Njc4OTAxMjM0NTY3ODkwMTIzNDU2Nzg5MDE="
  provider := "fake"
  demoMode := true
  backend := .sqlite
  auth
  settings
  urlsplit _ := none
  dumps _ := none

def user : AuthenticatedUser := demoUser settings .administrator

def request (endpoint : Endpoint) (body : Body) : HttpRequest where
  endpoint
  baseUrl := "http://localhost:8000/"
  path := "/"
  origin := none
  secFetchSite := some "same-origin"
  contentType := some "application/json"
  correlationId := none
  authorization := none
  gatewaySession := none
  body

def arrival (endpoint : Endpoint) (body : Body) : Arrival application where
  request := request endpoint body
  now := 0
  events := []
  outcome := .ok user
  authenticated := by
    cases endpoint <;> exact .done _
  uuid4 := 0
  available := true

def answer : Batches.Answer := ⟨some (.dict [("success", .bool true)]), ⟨0, 0, 0⟩, Rat.le_refl, Rat.le_refl⟩

def input (id : String) : Batches.Input := ⟨NetworkGateway.Bench.fresh id, true, true, answer⟩

end NetworkGateway.Api.Bench
