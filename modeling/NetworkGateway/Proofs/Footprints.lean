import NetworkGateway.Proofs.Audit
import NetworkGateway.Proofs.Frames

/-! Which parts of the database each store call may change. -/

namespace NetworkGateway.Store

open Library.Dict Library.Result Library.Table

inductive Part where
  | configurations
  | rows (resource : Resource)
  /-- The static routes and their seed markers. -/
  | routes
  /-- The jobs there are, as they were created. -/
  | jobs
  | transactions
  deriving DecidableEq

def named (resource : String) (other : Resource) : Bool :=
  match table resource with
  | .ok known => known == other
  | .error _ => false

/-- The parts a call may change; deleting a connection takes its routes along. -/
def Op.touches : Op → Part → Bool
  | .saveConfig _ _, .configurations => true
  | .save resource _ _, .rows other => named resource other
  | .delete resource _, .rows other => named resource other
  | .delete resource _, .routes => named resource .connections
  | .listStaticRoutes _, .routes | .createStaticRoute _ _, .routes | .updateStaticRoute _ _ _, .routes
  | .deleteStaticRoute _ _, .routes | .createStaticRouteAudited _ _ _, .routes
  | .updateStaticRouteAudited _ _ _ _, .routes | .deleteStaticRouteAudited _ _ _, .routes => true
  | .createStaticRouteAudited _ _ _, .transactions | .updateStaticRouteAudited _ _ _ _, .transactions
  | .deleteStaticRouteAudited _ _ _, .transactions | .appendTransaction _, .transactions => true
  | .createJob _, .jobs => true
  | _, _ => false

section

variable {Token : Type} {P : Platform Token} {self : GatewayStore} {fresh : Fresh} {db seeded written : Db Token}

/-- What a job keeps from its creation on: its identifier, the number of its devices and the profiles to test. -/
def created (job : JobRow Token) : String × Nat × Token := (job.id, job.total, job.snapshot)

def SamePart (part : Part) (db written : Db Token) : Prop :=
  match part with
  | .configurations => written.configurations = db.configurations
  | .rows .roleAccounts => written.roleAccounts = db.roleAccounts
  | .rows .proxies => written.proxies = db.proxies
  | .rows .connections => written.connections = db.connections
  | .routes => written.staticRouteInitializations = db.staticRouteInitializations ∧
      written.staticRoutes = db.staticRoutes
  | .jobs => written.jobs.map created = db.jobs.map created
  | .transactions => written.transactions = db.transactions

theorem SamePart.refl (part : Part) (db : Db Token) : SamePart part db db := by
  cases part with
  | rows resource => cases resource <;> rfl
  | routes => exact ⟨rfl, rfl⟩
  | configurations | jobs | transactions => rfl

theorem SamePart.trans {part : Part} (first : SamePart part db seeded) (second : SamePart part seeded written) :
    SamePart part db written := by
  cases part with
  | rows resource => cases resource <;> exact Eq.trans second first
  | routes => exact ⟨second.1.trans first.1, second.2.trans first.2⟩
  | configurations | jobs | transactions => exact Eq.trans second first

theorem RoutesOnly.agree {part : Part} (only : RoutesOnly db written) (apart : part ≠ .routes)
    (logged : part = .transactions → written.transactions = db.transactions) : SamePart part db written := by
  rcases only with ⟨_, _, _, rfl⟩
  cases part with
  | rows resource => cases resource <;> rfl
  | routes => exact absurd rfl apart
  | configurations | jobs => rfl
  | transactions => exact logged rfl

theorem replace_agrees {part : Part} {change : JobRow Token → JobRow Token} (id : String)
    (keeps : ∀ job, created (change job) = created job) :
    SamePart part db { db with jobs := replace JobRow.id db.jobs id change } := by
  cases part with
  | jobs => exact map_replace db.jobs id keeps
  | rows resource => cases resource <;> rfl
  | routes => exact ⟨rfl, rfl⟩
  | configurations | transactions => rfl

theorem roleAccounts_agree {part : Part} (apart : part ≠ .rows .roleAccounts) (rows : List (RoleAccountRow Token)) :
    SamePart part db { db with roleAccounts := rows } := by
  cases part with
  | rows resource =>
      cases resource with
      | roleAccounts => exact absurd rfl apart
      | proxies | connections => rfl
  | routes => exact ⟨rfl, rfl⟩
  | configurations | jobs | transactions => rfl

theorem proxies_agree {part : Part} (apart : part ≠ .rows .proxies) (rows : List (ProxyRow Token)) :
    SamePart part db { db with proxies := rows } := by
  cases part with
  | rows resource =>
      cases resource with
      | proxies => exact absurd rfl apart
      | roleAccounts | connections => rfl
  | routes => exact ⟨rfl, rfl⟩
  | configurations | jobs | transactions => rfl

theorem connections_agree {part : Part} (apart : part ≠ .rows .connections) (rows : List (ConnectionRow Token)) :
    SamePart part db { db with connections := rows } := by
  cases part with
  | rows resource =>
      cases resource with
      | connections => exact absurd rfl apart
      | roleAccounts | proxies => rfl
  | routes => exact ⟨rfl, rfl⟩
  | configurations | jobs | transactions => rfl

theorem named_ok {resource : String} {kind : Resource} (known : table resource = .ok kind) (other : Resource) :
    named resource other = decide (kind = other) := by
  unfold named
  rw [known]
  rfl

theorem save_agrees {part : Part} {resource : String} {payload : Value} {itemId : Option String}
    (untouched : (Op.save resource payload itemId).touches part = false) :
    SamePart part db (save P self db fresh resource payload itemId).2 := by
  have start := SamePart.refl part db
  unfold save
  cases known : table resource with
  | error raised => exact start
  | ok kind =>
      have apart : part ≠ .rows kind := by
        rintro rfl
        simp [Op.touches, named_ok known] at untouched
      change SamePart part db (checked db (checkFields payload (fields kind)) _).2
      apply checked_holds (p := SamePart part db) start
      intro entries
      apply transaction_holds (p := SamePart part db) start
      intro view written returned
      cases kind with
      | roleAccounts =>
          rcases saveRoleAccount_ok returned with ⟨_, _, _, -, -, -, -, same⟩
          rw [same]
          exact roleAccounts_agree apart _
      | proxies =>
          rcases saveProxyResource_ok returned with ⟨_, _, _, -, -, -, -, same⟩
          rw [same]
          exact proxies_agree apart _
      | connections =>
          rcases saveConnectionResource_ok returned with ⟨_, _, _, -, -, -, -, same⟩
          rw [same]
          exact connections_agree apart _

theorem delete_agrees {part : Part} {resource itemId : String}
    (untouched : (Op.delete resource itemId).touches part = false) :
    SamePart part db (delete self db resource itemId).2 := by
  have start := SamePart.refl part db
  unfold delete
  cases known : table resource with
  | error raised => exact start
  | ok kind =>
      have apart : part ≠ .rows kind := by
        rintro rfl
        simp [Op.touches, named_ok known] at untouched
      apply transaction_holds (p := SamePart part db) start
      intro u written returned
      cases kind with
      | roleAccounts =>
          rcases deleteRole_ok.mp returned with ⟨-, -, rfl⟩
          exact roleAccounts_agree apart _
      | proxies =>
          rcases deleteProxy_ok.mp returned with ⟨-, -, rfl⟩
          exact proxies_agree apart _
      | connections =>
          rcases deleteConnection_ok.mp returned with ⟨-, rfl⟩
          have routed : part ≠ .routes := by
            rintro rfl
            simp [Op.touches, named_ok known] at untouched
          cases part with
          | rows resource =>
              cases resource with
              | connections => exact absurd rfl apart
              | roleAccounts | proxies => rfl
          | routes => exact absurd rfl routed
          | configurations | jobs | transactions => rfl

variable (P) in
theorem after_agrees {call : Call} {part : Part} (untouched : call.op.touches part = false) (db : Db Token) :
    SamePart part db (after P call db) := by
  have start := SamePart.refl part db
  rcases call with ⟨self, fresh, op⟩
  have routed : ∀ {written : Db Token}, RoutesOnly db written → op.touches .routes = true →
      (op.touches .transactions = true ∨ written.transactions = db.transactions) → SamePart part db written := by
    intro written only touched logged
    apply only.agree
    · rintro rfl
      rw [touched] at untouched
      cases untouched
    · rintro rfl
      rcases logged with logged | same
      · rw [logged] at untouched
        cases untouched
      · exact same
  cases op with
  | openStore key =>
      change SamePart part db (openStore P db key).2
      unfold openStore
      split
      · exact start
      · split
        · exact start
        · apply transaction_holds (p := SamePart part db) start
          intro result written returned
          rcases (bind_eq_ok _ _ _).mp returned with ⟨_, _, equal⟩
          cases equal
          cases part with
          | jobs =>
              change (db.jobs.map recoverJob).map created = _
              rw [List.map_map]
              apply List.map_congr_left
              intro job _
              unfold recoverJob
              dsimp only [Function.comp_apply]
              split <;> rfl
          | rows resource => cases resource <;> rfl
          | routes => exact ⟨rfl, rfl⟩
          | configurations | transactions => rfl
  | saveConfig name payload =>
      apply checked_holds (p := SamePart part db) start
      intro value
      apply transaction_holds (p := SamePart part db) start
      intro result written returned
      cases returned
      cases part with
      | configurations => cases untouched
      | rows resource => cases resource <;> rfl
      | routes => exact ⟨rfl, rfl⟩
      | jobs | transactions => rfl
  | save resource payload itemId => exact save_agrees untouched
  | delete resource itemId => exact delete_agrees untouched
  | listStaticRoutes connectionId =>
      apply transaction_holds (p := SamePart part db) start
      intro routes written returned
      have seeding := (initializeStaticRoutes_ok (listStaticRoutes_ok.mp returned).1).2
      exact routed seeding.routesOnly rfl (.inr seeding.transactions)
  | createStaticRoute connectionId payload =>
      exact transaction_holds (p := SamePart part db) start fun _ _ returned =>
        routed (createStaticRouteRow_routesOnly returned) rfl (.inr (createStaticRouteRow_log returned))
  | updateStaticRoute connectionId routeId payload =>
      exact transaction_holds (p := SamePart part db) start fun _ _ returned =>
        routed (updateStaticRouteRow_routesOnly returned) rfl (.inr (updateStaticRouteRow_log returned))
  | deleteStaticRoute connectionId routeId =>
      exact transaction_holds (p := SamePart part db) start fun _ _ returned =>
        routed (deleteStaticRouteRow_routesOnly returned) rfl (.inr (deleteStaticRouteRow_log returned))
  | createStaticRouteAudited connectionId payload audit =>
      exact transaction_holds (p := SamePart part db) start fun _ _ returned =>
        routed (createAudited_routesOnly returned) rfl (.inl rfl)
  | updateStaticRouteAudited connectionId routeId payload audit =>
      exact transaction_holds (p := SamePart part db) start fun _ _ returned =>
        routed (updateAudited_routesOnly returned) rfl (.inl rfl)
  | deleteStaticRouteAudited connectionId routeId audit =>
      exact transaction_holds (p := SamePart part db) start fun _ _ returned =>
        routed (deleteAudited_routesOnly returned) rfl (.inl rfl)
  | createJob connectionIds =>
      apply checked_holds (p := SamePart part db) start
      intro ids
      apply transaction_holds (p := SamePart part db) start
      intro result written returned
      rcases createJobRow_ok.mp returned with ⟨_, _, _, _, _, rfl⟩
      cases part with
      | jobs => cases untouched
      | rows resource => cases resource <;> rfl
      | routes => exact ⟨rfl, rfl⟩
      | configurations | transactions => rfl
  | recordJobResult jobId result =>
      change SamePart part db (recordJobResult P self db jobId result).2
      unfold recordJobResult
      split
      · apply transaction_holds (p := SamePart part db) start
        intro result written returned
        rcases recordJobResultRow_ok.mp returned with ⟨_, _, _, _, _, _, _, _, _, _, _, _, _, rfl⟩
        exact replace_agrees jobId (fun _ => rfl)
      · exact start
  | setJobStatus jobId status error =>
      apply checked_holds (p := SamePart part db) start
      intro status
      apply transaction_holds (p := SamePart part db) start
      intro result written returned
      rcases setJobStatusRow_ok.mp returned with ⟨_, _, _, _, _, _, rfl⟩
      exact replace_agrees jobId (fun _ => rfl)
  | appendTransaction payload =>
      apply transaction_holds (p := SamePart part db) start
      intro result written returned
      rcases insertTransaction_ok.mp returned with ⟨-, -, -, rfl⟩
      cases part with
      | transactions => cases untouched
      | rows resource => cases resource <;> rfl
      | routes => exact ⟨rfl, rfl⟩
      | configurations | jobs => rfl
  | list | get | getConfig | resolveConnection | getJob | getJobConnections => exact start

end

end NetworkGateway.Store
