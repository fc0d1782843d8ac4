import NetworkGateway.Proofs.Logins
import NetworkGateway.Proofs.Requests

/-! Every change of the database goes back to a request that was let in, from a user with its role. -/

namespace NetworkGateway.Api

open Auth Library Library.Result Library.Interaction Management Pydantic Store

section

variable {P : AuthPlatform} {settings : AuthSettings} {request : Auth.Request} {now : Rat} {user : AuthenticatedUser}

/-- What makes a request one of a user: demo mode, a verified bearer token, or a session cookie that is
signed with the client secret and not expired. -/
inductive Identified (P : AuthPlatform) (settings : AuthSettings) (request : Auth.Request) (now : Rat)
    (user : AuthenticatedUser) : Prop where
  | demo {role : GatewayRole} (mode : settings.mode = .demo) (enabled : request.demoMode = true)
      (loaded : settings.demoUserRole = some role) (same : user = demoUser settings role)
  | bearer {token : String} {claims : Dict} {events : List (Event AuthCommand)} (mode : settings.mode = .entra)
      (presented : bearer request = some token)
      (verified : Program.Runs (verifyToken P settings (.str token) (settings.apiClientId.getD "") none) events (.ok claims))
      (read : userFromClaims P settings claims = .ok user)
  | session {claims : Dict} (mode : settings.mode = .entra) (unpresented : bearer request = none)
      (signed : Opened P settings request.gatewaySession claims)
      (current : expired now (Dict.get claims "expires_at") = false) (read : userFromClaims P settings claims = .ok user)

theorem sessionUser_ok (mode : settings.mode = .entra) (read : sessionUser P settings request now = .ok user) :
    ∃ claims, Opened P settings request.gatewaySession claims ∧
      expired now (Dict.get claims "expires_at") = false ∧ userFromClaims P settings claims = .ok user := by
  simp only [sessionUser, sessionClaims, bind_eq_ok, raiseWhen_ok, pure_eq, Except.ok.injEq] at read
  rcases read with ⟨claims, ⟨secret, held, _, unsigned, _, current, rfl⟩, parsed⟩
  refine ⟨_, (opened_iff mode).mpr ⟨secret, held, unsigned⟩, current, parsed⟩

theorem authenticateRequest_ok {events : List (Event AuthCommand)}
    (runs : Program.Runs (authenticateRequest P settings request now) events (.ok user)) :
    Identified P settings request now user := by
  unfold authenticateRequest at runs
  split at runs
  · rename_i mode
    rcases Program.runs_bind_ok runs with ⟨_, _, _, checked, returned, -⟩
    have enabled := (Program.runs_lift checked).1
    rw [raiseWhen_ok, Bool.not_eq_false'] at enabled
    cases returned
    exact .demo mode enabled (Option.some_get _).symm rfl
  · cases runs
  · rename_i mode
    split at runs
    · rename_i token presented
      rcases Program.runs_bind_ok runs with ⟨first, _, claims, verified, parsed, -⟩
      exact .bearer mode presented verified (Program.runs_lift parsed).1
    · rename_i absent
      rcases sessionUser_ok mode (Program.runs_lift runs).1 with ⟨claims, signed, current, read⟩
      exact .session mode absent signed current read

theorem requireRole_ok {required : GatewayRole} {events : List (Event AuthCommand)}
    (runs : Program.Runs (requireRole P settings required request now) events (.ok user)) :
    Identified P settings request now user ∧ hasRole user required = true := by
  rcases Program.runs_bind_ok runs with ⟨first, _, found, current, rest, -⟩
  rcases Program.runs_bind_ok rest with ⟨_, _, _, checked, returned, -⟩
  have allowed := (Program.runs_lift checked).1
  rw [raiseWhen_ok, Bool.not_eq_false'] at allowed
  cases returned
  refine ⟨?_, allowed⟩
  rcases Program.runs_andThen current with ⟨_, _, outcome, authenticated, handled, -⟩
  cases outcome with
  | ok authenticatedUser =>
      cases handled
      exact authenticateRequest_ok authenticated
  | error raised => cases raised <;> cases handled

end

section

variable {Token : Type} {app : Application Token} {s later : State app} {db : Db Token}

/-- A request that passed the guard, came from a user with the route's role and had a valid body. -/
structure Genuine (admitted : Admitted app) : Prop where
  guarded : checkBrowserMutation app admitted.arrival.request = .ok ()
  identified : Identified app.auth app.settings (authRequest app admitted.arrival.request) admitted.arrival.now admitted.user
  authorized : hasRole admitted.user admitted.arrival.request.endpoint.requiredRole = true
  body : ∃ value, bodyOf app admitted.arrival.request.endpoint value = .ok admitted.payload

theorem checked_ok {arrival : Arrival app} {user : AuthenticatedUser} {body : Value}
    (checked : arrival.checked = .ok (user, body)) :
    checkBrowserMutation app arrival.request = .ok () ∧ arrival.outcome = .ok user := by
  simp only [Arrival.checked, bind_eq_ok, pure_eq, Except.ok.injEq, Prod.mk.injEq] at checked
  rcases checked with ⟨_, guarded, _, -, _, outcome, rfl, -⟩
  exact ⟨guarded, mapError_ok.mp outcome⟩

theorem genuine {arrival : Arrival app} {user : AuthenticatedUser} {body payload : Value}
    (checked : arrival.checked = .ok (user, body)) (valid : bodyOf app arrival.request.endpoint body = .ok payload) :
    Genuine (⟨arrival, user, payload⟩ : Admitted app) := by
  have passed := checked_ok checked
  have allowed := requireRole_ok (passed.2 ▸ arrival.authenticated)
  exact ⟨passed.1, allowed.1, allowed.2, body, valid⟩

def Left (admitted : Admitted app) : Task → Prop
  | .route program => program.Confined (Within (Permits admitted))
  | .batch ids => admitted.arrival.request.endpoint = .createBatch ∧ ids = connectionIds (entriesOf admitted.payload)

theorem task_left (admitted : Admitted app) : Left admitted admitted.task := by
  unfold Admitted.task
  split
  · rename_i endpoint
    exact ⟨endpoint, rfl⟩
  · exact handler_confined admitted

/-- A call of the process itself, or one that a request permits that was let in. -/
def Accounted (admitted : List (Admitted app)) (call : Call) : Prop :=
  Batches.OwnCall app.key call.op ∨ ∃ one ∈ admitted, Genuine one ∧ Permits one call.op

structure Served (db : Db Token) (s : State app) : Prop where
  genuine : ∀ one ∈ s.admitted, Genuine one
  running : ∀ entry ∈ s.running, ∃ one ∈ s.admitted, Left one entry.2
  checking : ∀ ids rest, s.batches.holder = .start (.checking ids rest) →
    ∃ one ∈ s.admitted, Left one (.batch ids)
  calls : ∃ calls, s.db = Library.Run.run (after app.platform) db calls ∧ ∀ call ∈ calls, Accounted s.admitted call

theorem Served.start (db : Db Token) : Served db (State.start db : State app) where
  genuine _ member := absurd member List.not_mem_nil
  running _ member := absurd member List.not_mem_nil
  checking _ _ held := by cases held
  calls := ⟨[], rfl, fun _ member => absurd member List.not_mem_nil⟩

theorem Served.turn (served : Served db s) (admitted : later.admitted = s.admitted)
    (running : ∀ entry ∈ later.running, ∃ one ∈ s.admitted, Left one entry.2)
    (checking : ∀ ids rest, later.batches.holder = .start (.checking ids rest) → ∃ one ∈ s.admitted, Left one (.batch ids))
    (called : later.db = s.db ∨ ∃ call, Accounted s.admitted call ∧ later.db = after app.platform call s.db) :
    Served db later := by
  rcases served.calls with ⟨calls, reached, accounted⟩
  refine ⟨?_, ?_, ?_, ?_⟩
  · rw [admitted]
    exact served.genuine
  · rw [admitted]
    exact running
  · rw [admitted]
    exact checking
  · rw [admitted]
    rcases called with same | ⟨call, known, called⟩
    · exact ⟨calls, same.trans reached, accounted⟩
    · refine ⟨calls ++ [call], ?_, ?_⟩
      · rw [called, reached, Library.Run.run_append]
        rfl
      · intro other member
        rcases List.mem_append.mp member with earlier | last
        · exact accounted other earlier
        · rw [List.mem_singleton.mp last]
          exact known

theorem Served.refuses (served : Served db s) (request : HttpRequest) (error : RouteError) :
    Served db (s.refuses request error) :=
  served.turn rfl served.running served.checking (.inl rfl)

def undrawn : Fresh := ⟨"", ("", ""), "", "", ⟨0, 0, 0, 0, 0, 0, 0⟩, 0, none⟩

theorem Served.opens (served : Served db s) (available : Bool) : Served db (s.opens available) := by
  have opening := Batches.reach_writes available s.db (openStore app.platform s.db app.key)
  have accounted : ∀ written, written = s.db ∨ written = (openStore app.platform s.db app.key).2 →
      written = s.db ∨ ∃ call, Accounted s.admitted call ∧ written = after app.platform call s.db := by
    intro written either
    rcases either with same | called
    · exact .inl same
    · exact .inr ⟨⟨app.store, undrawn, .openStore app.key⟩, .inl .opens, called⟩
  unfold State.opens
  split
  · exact served
  · split
    · rename_i reached
      rw [reached] at opening
      refine served.turn rfl served.running ?_ (accounted _ opening)
      intro ids rest held
      cases held
    · rename_i reached
      rw [reached] at opening
      exact served.turn rfl served.running served.checking (accounted _ opening)

theorem opens_admitted (s : State app) (available : Bool) : (s.opens available).admitted = s.admitted := by
  unfold State.opens
  split
  · rfl
  · split
    · rfl
    · rfl

theorem Served.admits (served : Served db s) {arrival : Arrival app} {user : AuthenticatedUser} {payload : Value}
    (known : Genuine (⟨arrival, user, payload⟩ : Admitted app)) : Served db (s.admits arrival user payload) := by
  have listed : (⟨arrival, user, payload⟩ : Admitted app) ∈ (s.admits arrival user payload).admitted :=
    List.mem_append_right _ List.mem_cons_self
  have kept : s.admitted ⊆ (s.admits arrival user payload).admitted := List.subset_append_left _ _
  refine ⟨?_, ?_, ?_, ?_⟩
  · intro one member
    rcases List.mem_append.mp member with earlier | last
    · exact served.genuine one earlier
    · rw [List.mem_singleton.mp last]
      exact known
  · intro entry member
    rcases List.mem_append.mp member with earlier | last
    · rcases served.running entry earlier with ⟨one, found, left⟩
      exact ⟨one, kept found, left⟩
    · rw [List.mem_singleton.mp last]
      exact ⟨_, listed, task_left _⟩
  · intro ids rest held
    rcases served.checking ids rest held with ⟨one, found, left⟩
    exact ⟨one, kept found, left⟩
  · rcases served.calls with ⟨calls, reached, accounted⟩
    refine ⟨calls, reached, ?_⟩
    intro call member
    rcases accounted call member with own | ⟨one, found, known, permitted⟩
    · exact .inl own
    · exact .inr ⟨one, kept found, known, permitted⟩

theorem Served.arrives (served : Served db s) (arrival : Arrival app) : Served db (s.arrives arrival) := by
  unfold State.arrives
  split
  · exact served.refuses _ _
  · rename_i user body checked
    have opened := served.opens arrival.available
    dsimp only
    split
    · split
      · rename_i payload valid
        exact opened.admits (Api.genuine checked valid)
      · exact opened.refuses _ _
    · exact opened.refuses _ _

theorem Served.advances (served : Served db s) (place : Nat) (input : Batches.Input) :
    Served db (s.advances place input) := by
  have fewer : ∀ entry ∈ s.running.eraseIdx place, ∃ one ∈ s.admitted, Left one entry.2 :=
    fun entry member => served.running entry (List.mem_of_mem_eraseIdx member)
  unfold State.advances
  split
  · rename_i id task found
    rcases served.running (id, task) (List.mem_of_getElem? found) with ⟨one, member, left⟩
    cases task with
    | batch ids =>
        unfold State.turn
        dsimp only
        split
        · refine served.turn rfl fewer ?_ (.inl (Batches.starts_db ids))
          intro given rest held
          rcases Batches.starts_checking held with earlier | same
          · exact served.checking given rest earlier
          · rw [same]
            exact ⟨one, member, left⟩
        · exact served
    | route program =>
        cases program with
        | done outcome => exact served.turn rfl fewer served.checking (.inl rfl)
        | call command next =>
            have confined : (Program.call command next).Confined (Within (Permits one)) := left
            have advanced := Interleaving.advance_confined (performCall app) confined input s.db
            refine served.turn rfl ?_ served.checking ?_
            · intro entry changed
              rcases List.mem_or_eq_of_mem_set changed with earlier | same
              · exact served.running entry earlier
              · rw [same]
                exact ⟨one, member, advanced.1⟩
            · rcases advanced.2 with same | ⟨β, command, within, called⟩
              · exact .inl same
              · rcases performCall_writes command input s.db with same | ⟨op, writes, written⟩
                · exact .inl (called.trans same)
                · exact .inr ⟨_, .inr ⟨one, member, served.genuine one member, within op writes⟩, called.trans written⟩
  · exact served

theorem Served.batches (served : Served db s) {action : Batches.Action} (own : ownAction action = true) :
    Served db { s with batches := Batches.step app.service action s.batches } := by
  have unrequested : ∀ call, action ≠ .request call := by
    rintro call rfl
    cases own
  have unstarted : ∀ given, action ≠ .start given := by
    rintro given rfl
    cases own
  refine served.turn rfl served.running ?_ ?_
  · intro ids rest held
    rcases Batches.step_checking unstarted held with ⟨earlier, checking⟩
    exact served.checking ids earlier checking
  · cases Batches.step_worked (S := app.service) (b := s.batches) unrequested with
    | idle same => exact .inl same
    | own call _ own _ called => exact .inr ⟨call, .inl (.handles own), called⟩
    | created fresh ids checked called =>
        rcases served.checking ids [] checked with ⟨one, member, endpoint, same⟩
        refine .inr ⟨_, .inr ⟨one, member, served.genuine one member, ?_⟩, called⟩
        rw [same]
        exact .starts endpoint

theorem Served.step (served : Served db s) (input : Step app) : Served db (Api.step app input s) := by
  cases input with
  | arrive arrival => exact served.arrives arrival
  | advance place input => exact served.advances place input
  | batches action =>
      unfold Api.step
      dsimp only
      split
      · rename_i own
        exact served.batches (Bool.and_eq_true_iff.mp own).2
      · exact served
  | restart =>
      refine served.turn rfl ?_ ?_ (.inl rfl)
      · exact fun entry member => absurd member List.not_mem_nil
      · intro ids rest held
        cases held

theorem run_served (db : Db Token) (steps : List (Step app)) :
    Served db (Interleaving.run (Api.step app) (State.start db) steps) :=
  Interleaving.run_invariant (Served db) (fun input _ served => served.step input) (Served.start db) steps

/-! The requests that may change a part of the database. -/

def Endpoint.touches : Endpoint → Part → Bool
  | .create resource, .rows other | .update resource _, .rows other | .delete resource _, .rows other => resource == other
  | .delete resource _, .routes => resource == .connections
  | .updateSettings _, .configurations => true
  | .createBatch, .jobs => true
  | .listStaticRoutes _, .routes | .createStaticRoute _, .routes | .updateStaticRoute _ _, .routes
  | .deleteStaticRoute _ _, .routes => true
  | .createStaticRoute _, .transactions | .updateStaticRoute _ _, .transactions
  | .deleteStaticRoute _ _, .transactions => true
  | _, _ => false

/-- The least role a change of a part takes; the demo routes of a device are written when they are first listed. -/
def partRole : Part → GatewayRole
  | .configurations | .rows _ => .administrator
  | .jobs | .transactions => .operator
  | .routes => .viewer

theorem named_resourceName (resource other : Resource) : named (resourceName resource) other = (resource == other) := by
  cases resource <;> rfl

theorem Permits.touches {one : Admitted app} {op : Op} (permits : Permits one op) {part : Part}
    (touched : op.touches part = true) : one.arrival.request.endpoint.touches part = true := by
  have changed : ∀ {connectionId : String} {change : DeviceData.Change}, one.change = some (connectionId, change) →
      part = .routes ∨ part = .transactions → one.arrival.request.endpoint.touches part = true := by
    intro connectionId change asked either
    unfold Admitted.change at asked
    split at asked <;> rename_i endpoint
    · rw [endpoint]
      rcases either with rfl | rfl <;> rfl
    · rw [endpoint]
      rcases either with rfl | rfl <;> rfl
    · rw [endpoint]
      rcases either with rfl | rfl <;> rfl
    · cases asked
  cases permits with
  | create endpoint =>
      rw [endpoint]
      cases part with
      | rows other => simpa [Op.touches, Endpoint.touches, named_resourceName] using touched
      | configurations | routes | jobs | transactions => cases touched
  | update endpoint =>
      rw [endpoint]
      cases part with
      | rows other => simpa [Op.touches, Endpoint.touches, named_resourceName] using touched
      | configurations | routes | jobs | transactions => cases touched
  | delete endpoint =>
      rw [endpoint]
      cases part with
      | rows other => simpa [Op.touches, Endpoint.touches, named_resourceName] using touched
      | routes => simpa [Op.touches, Endpoint.touches, named_resourceName] using touched
      | configurations | jobs | transactions => cases touched
  | settings endpoint named accepted =>
      rw [endpoint]
      cases part with
      | configurations => rfl
      | rows | routes | jobs | transactions => cases touched
  | seeds endpoint =>
      rw [endpoint]
      cases part with
      | routes => rfl
      | configurations | rows | jobs | transactions => cases touched
  | starts endpoint =>
      rw [endpoint]
      cases part with
      | jobs => rfl
      | configurations | rows | routes | transactions => cases touched
  | changes asked =>
      rename_i change
      apply changed asked
      cases change <;> cases part with
        | routes => exact .inl rfl
        | transactions => exact .inr rfl
        | configurations | rows | jobs => cases touched
  | records detail asked =>
      apply changed asked
      cases part with
      | transactions => exact .inr rfl
      | configurations | rows | routes | jobs => cases touched

theorem hasRole_mono {user : AuthenticatedUser} {required least : GatewayRole} (held : hasRole user required = true)
    (lower : least.rank ≤ required.rank) : hasRole user least = true := by
  rcases of_decide_eq_true held with ⟨role, member, enough⟩
  exact decide_eq_true ⟨role, member, lower.trans enough⟩

theorem partRole_le {endpoint : Endpoint} {part : Part} (touches : endpoint.touches part = true) :
    (partRole part).rank ≤ endpoint.requiredRole.rank := by
  cases part <;> cases endpoint <;>
    simp [Endpoint.touches, partRole, Endpoint.requiredRole, GatewayRole.rank] at touches ⊢

/-- In every run of the application, with requests interleaved call by call, a batch service behind them
and restarts at any moment, the database is what store calls make of it, each made for a request that was
let in or by the process itself; and a part of the database changes only when a request that may change it
was let in: past the guard, from an identified user who holds the role, with a valid body. The process
itself opens the store, moves jobs and records their results. -/
theorem changes_authorized (app : Application Token) (db : Db Token) (steps : List (Step app)) :
    let s := Interleaving.run (Api.step app) (State.start db) steps
    (∃ calls, s.db = Library.Run.run (after app.platform) db calls ∧ ∀ call ∈ calls, Accounted s.admitted call) ∧
      ∀ part, SamePart part db s.db ∨ ∃ one ∈ s.admitted, Genuine one ∧
        one.arrival.request.endpoint.touches part = true ∧ hasRole one.user (partRole part) = true := by
  intro s
  have served := run_served db steps
  refine ⟨served.calls, ?_⟩
  intro part
  rcases served.calls with ⟨calls, reached, accounted⟩
  by_cases touched : ∃ call ∈ calls, call.op.touches part = true
  · rcases touched with ⟨call, member, touches⟩
    rcases accounted call member with own | ⟨one, found, known, permitted⟩
    · rw [own.untouched part] at touches
      cases touches
    · have within := permitted.touches touches
      exact .inr ⟨one, found, known, within, hasRole_mono known.authorized (partRole_le within)⟩
  · left
    have untouched : ∀ call ∈ calls, call.op.touches part = false := by
      intro call member
      exact eq_false_of_ne_true fun touches => touched ⟨call, member, touches⟩
    change SamePart part db s.db
    rw [show s.db = _ from reached]
    exact Library.Run.run_invariant_allowed (SamePart part db) (fun call => call.op.touches part = false)
      (fun call seen untouched agreed => agreed.trans (after_agrees app.platform untouched seen)) (SamePart.refl part db) untouched

end

end NetworkGateway.Api
