import NetworkGateway.Proofs.InventorySteps
import NetworkGateway.Proofs.JobSteps
import NetworkGateway.Proofs.RouteSteps

/-! Which tables a change of the database leaves alone. -/

namespace NetworkGateway.Store

open Library.Dict Library.Result Library.Table

section

variable {Token : Type} {P : Platform Token} {self : GatewayStore} {fresh : Fresh}
  {db seeded written : Db Token}

def RoutesOnly (db written : Db Token) : Prop :=
  ∃ markers routes log, written = { db with
    staticRouteInitializations := markers, staticRoutes := routes, transactions := log }

theorem RoutesOnly.refl (db : Db Token) : RoutesOnly db db :=
  ⟨db.staticRouteInitializations, db.staticRoutes, db.transactions, rfl⟩

theorem RoutesOnly.trans (first : RoutesOnly db seeded) (second : RoutesOnly seeded written) :
    RoutesOnly db written := by
  obtain ⟨_, _, _, rfl⟩ := first
  obtain ⟨markers, routes, log, rfl⟩ := second
  exact ⟨markers, routes, log, rfl⟩

theorem RoutesOnly.routes (db : Db Token) (routes : List StaticRouteRow) :
    RoutesOnly db { db with staticRoutes := routes } :=
  ⟨db.staticRouteInitializations, routes, db.transactions, rfl⟩

theorem RoutesOnly.log (db : Db Token) (log : List TransactionRow) :
    RoutesOnly db { db with transactions := log } :=
  ⟨db.staticRouteInitializations, db.staticRoutes, log, rfl⟩

theorem Seeding.routesOnly {connectionId : String} (seeding : Seeding P fresh db connectionId seeded) :
    RoutesOnly db seeded := by
  cases seeding with
  | already _ same => exact same ▸ RoutesOnly.refl db
  | first _ first second _ _ _ _ same => exact ⟨_, _, _, same⟩

theorem Audited.routesOnly {audit before after : Value} {resourceId connectionId : String}
    {record : TransactionRow}
    (audited : Audited fresh audit resourceId connectionId before after seeded written record) :
    RoutesOnly seeded written := by
  obtain ⟨_, _, inserted⟩ := audited
  obtain ⟨-, -, -, rfl⟩ := insertTransaction_ok.mp inserted
  exact RoutesOnly.log seeded _

theorem createStaticRouteRow_routesOnly {connectionId : String} {payload : Value} {route : StaticRouteRow}
    (returned : createStaticRouteRow P self db fresh connectionId payload = .ok (route, written)) :
    RoutesOnly db written := by
  obtain ⟨seeded, _, initialized, _, _, _, rfl⟩ := createStaticRouteRow_ok.mp returned
  exact (initializeStaticRoutes_ok initialized).2.routesOnly.trans (RoutesOnly.routes seeded _)

theorem updateStaticRouteRow_routesOnly {connectionId routeId : String} {payload : Value}
    {rows : StaticRouteRow × StaticRouteRow}
    (returned : updateStaticRouteRow P self db fresh connectionId routeId payload = .ok (rows, written)) :
    RoutesOnly db written := by
  obtain ⟨seeded, _, initialized, _, _, _, _, _, rfl⟩ := updateStaticRouteRow_ok.mp returned
  exact (initializeStaticRoutes_ok initialized).2.routesOnly.trans (RoutesOnly.routes seeded _)

theorem deleteStaticRouteRow_routesOnly {connectionId routeId : String} {route : StaticRouteRow}
    (returned : deleteStaticRouteRow P self db fresh connectionId routeId = .ok (route, written)) :
    RoutesOnly db written := by
  obtain ⟨seeded, initialized, _, _, rfl⟩ := deleteStaticRouteRow_ok.mp returned
  exact (initializeStaticRoutes_ok initialized).2.routesOnly.trans (RoutesOnly.routes seeded _)

theorem createAudited_routesOnly {connectionId : String} {payload audit : Value} {route : StaticRouteRow}
    (returned : createAudited P self db fresh connectionId payload audit = .ok (route, written)) :
    RoutesOnly db written := by
  obtain ⟨_, _, created, audited⟩ := createAudited_ok.mp returned
  exact (createStaticRouteRow_routesOnly created).trans audited.routesOnly

theorem updateAudited_routesOnly {connectionId routeId : String} {payload audit : Value}
    {route : StaticRouteRow}
    (returned : updateAudited P self db fresh connectionId routeId payload audit = .ok (route, written)) :
    RoutesOnly db written := by
  obtain ⟨_, _, _, updated, audited⟩ := updateAudited_ok.mp returned
  exact (updateStaticRouteRow_routesOnly updated).trans audited.routesOnly

theorem deleteAudited_routesOnly {connectionId routeId : String} {audit : Value} {u : Unit}
    (returned : deleteAudited P self db fresh connectionId routeId audit = .ok (u, written)) :
    RoutesOnly db written := by
  obtain ⟨_, _, _, deleted, audited⟩ := deleteAudited_ok.mp returned
  exact (deleteStaticRouteRow_routesOnly deleted).trans audited.routesOnly

/-- The coarse view of a change: one table of the inventory, the jobs, or neither. -/
inductive Effect (P : Platform Token) (self : GatewayStore) (fresh : Fresh) (db written : Db Token) : Prop where
  | elsewhere (roleAccounts : written.roleAccounts = db.roleAccounts) (proxies : written.proxies = db.proxies)
      (connections : written.connections = db.connections) (jobs : written.jobs = db.jobs)
  | jobs (step : JobsStep P self fresh db written.jobs) (roleAccounts : written.roleAccounts = db.roleAccounts)
      (proxies : written.proxies = db.proxies) (connections : written.connections = db.connections)
  | savedRole (payload : Dict) (itemId : Option String) (view : Value)
      (returned : saveRoleAccount P self db fresh payload itemId = .ok (view, written))
      (listed : ∀ entry ∈ payload, entry.1 ∈ fields .roleAccounts)
  | savedProxy (payload : Dict) (itemId : Option String) (view : Value)
      (returned : saveProxyResource P self db fresh payload itemId = .ok (view, written))
      (listed : ∀ entry ∈ payload, entry.1 ∈ fields .proxies)
  | savedConnection (payload : Dict) (itemId : Option String) (view : Value)
      (returned : saveConnectionResource P self db fresh payload itemId = .ok (view, written))
      (listed : ∀ entry ∈ payload, entry.1 ∈ fields .connections)
  | deletedRole (id : String) (returned : deleteRole db id = .ok ((), written))
  | deletedProxy (id : String) (returned : deleteProxy db id = .ok ((), written))
  | deletedConnection (id : String) (returned : deleteConnection db id = .ok ((), written))

theorem RoutesOnly.effect (only : RoutesOnly db written) : Effect P self fresh db written := by
  obtain ⟨_, _, _, rfl⟩ := only
  exact .elsewhere rfl rfl rfl rfl

theorem createJobRow_step {ids : List String} {job : PublicJob} (distinct : ids.Nodup) (nonempty : ids ≠ [])
    (returned : createJobRow P self db fresh ids = .ok (job, written)) :
    Effect P self fresh db written := by
  obtain ⟨entries, idle, resolved, unused, -, rfl⟩ := createJobRow_ok.mp returned
  exact .jobs (.created ids entries distinct nonempty idle unused resolved rfl) rfl rfl rfl

theorem recordJobResultRow_step {jobId : String} {result : Dict} {u : Unit}
    (returned : recordJobResultRow P self db jobId result = .ok (u, written)) :
    Effect P self fresh db written := by
  obtain ⟨job, snapshot, entries, id, profile, cleaned, found, active, opened, decoded, entry, unseen,
    accepted, rfl⟩ := recordJobResultRow_ok.mp returned
  exact .jobs (.recorded jobId id job snapshot entries profile result cleaned found active opened decoded
    entry unseen accepted rfl) rfl rfl rfl

theorem setJobStatusRow_step {jobId : String} {status : JobStatus} {error : Value} {u : Unit}
    (returned : setJobStatusRow P self db jobId status error = .ok (u, written)) :
    Effect P self fresh db written := by
  obtain ⟨job, _, found, allowed, full, _, rfl⟩ := setJobStatusRow_ok.mp returned
  exact .jobs (.moved jobId job status _ found allowed full rfl) rfl rfl rfl

theorem Change.effect (change : Change P self fresh db written) : Effect P self fresh db written := by
  cases change with
  | unchanged same => exact .elsewhere (by rw [same]) (by rw [same]) (by rw [same]) (by rw [same])
  | recovered same => exact same ▸ .jobs (.recovered rfl) rfl rfl rfl
  | configured name payload same => exact same ▸ .elsewhere rfl rfl rfl rfl
  | savedRole payload itemId view returned listed => exact .savedRole payload itemId view returned listed
  | savedProxy payload itemId view returned listed => exact .savedProxy payload itemId view returned listed
  | savedConnection payload itemId view returned listed => exact .savedConnection payload itemId view returned listed
  | deletedRole id returned => exact .deletedRole id returned
  | deletedProxy id returned => exact .deletedProxy id returned
  | deletedConnection id returned => exact .deletedConnection id returned
  | listedRoutes _ _ returned =>
      exact (initializeStaticRoutes_ok (listStaticRoutes_ok.mp returned).1).2.routesOnly.effect
  | createdRoute _ _ _ returned => exact (createStaticRouteRow_routesOnly returned).effect
  | updatedRoute _ _ _ _ returned => exact (updateStaticRouteRow_routesOnly returned).effect
  | deletedRoute _ _ _ returned => exact (deleteStaticRouteRow_routesOnly returned).effect
  | createdAudited _ _ _ _ returned => exact (createAudited_routesOnly returned).effect
  | updatedAudited _ _ _ _ _ returned => exact (updateAudited_routesOnly returned).effect
  | deletedAudited _ _ _ returned => exact (deleteAudited_routesOnly returned).effect
  | createdJob ids job distinct nonempty returned => exact createJobRow_step distinct nonempty returned
  | recordedResult jobId result returned => exact recordJobResultRow_step returned
  | movedJob jobId status error returned => exact setJobStatusRow_step returned
  | appended payload record returned =>
      obtain ⟨-, -, -, rfl⟩ := insertTransaction_ok.mp returned
      exact (RoutesOnly.log db _).effect

theorem Effect.jobsStep (effect : Effect P self fresh db written) :
    JobsStep P self fresh db written.jobs := by
  cases effect with
  | elsewhere _ _ _ same => exact .unchanged same
  | jobs step => exact step
  | savedRole payload itemId view returned =>
      obtain ⟨_, _, _, _, _, _, _, rfl⟩ := saveRoleAccount_ok returned
      exact .unchanged rfl
  | savedProxy payload itemId view returned =>
      obtain ⟨_, _, _, _, _, _, _, same⟩ := saveProxyResource_ok returned
      exact .unchanged (by rw [same])
  | savedConnection payload itemId view returned =>
      obtain ⟨_, _, _, _, _, _, _, same⟩ := saveConnectionResource_ok returned
      exact .unchanged (by rw [same])
  | deletedRole id returned =>
      obtain ⟨-, -, rfl⟩ := deleteRole_ok.mp returned
      exact .unchanged rfl
  | deletedProxy id returned =>
      obtain ⟨-, -, rfl⟩ := deleteProxy_ok.mp returned
      exact .unchanged rfl
  | deletedConnection id returned =>
      obtain ⟨-, rfl⟩ := deleteConnection_ok.mp returned
      exact .unchanged rfl

/-! A call that raises leaves the database as it found it. -/

theorem writing_error {α : Type} {reply : α → Reply} {outcome : Except PyError α × Db Token} {error : PyError}
    (kept : ∀ raised, outcome.1 = .error raised → outcome.2 = db)
    (failed : (writing reply outcome).1 = .error error) : (writing reply outcome).2 = db := by
  rcases outcome with ⟨raised | result, written⟩
  · exact kept raised rfl
  · cases failed

theorem transaction_kept {α : Type} {caller : GatewayStore} {body : Except PyError (α × Db Token)}
    {raised : PyError} (failed : (transaction caller db body).1 = .error raised) :
    (transaction caller db body).2 = db :=
  transaction_error (Prod.ext failed rfl)

theorem checked_kept {α β : Type} {check : Except PyError β} {call : β → Except PyError α × Db Token}
    {raised : PyError} (kept : ∀ value raised, (call value).1 = .error raised → (call value).2 = db)
    (failed : (checked db check call).1 = .error raised) : (checked db check call).2 = db := by
  cases check with
  | error _ => rfl
  | ok value => exact kept value raised failed

theorem openStore_kept {key : String} {raised : PyError} (failed : (openStore P db key).1 = .error raised) :
    (openStore P db key).2 = db := by
  unfold openStore at failed ⊢
  split at failed
  · rename_i empty
    rw [if_pos empty]
  · rename_i keyed
    rw [if_neg keyed]
    split at failed
    · rename_i broken
      rw [if_pos broken]
    · rename_i usable
      rw [if_neg usable]
      exact transaction_kept failed

theorem perform_error {call : Call} {error : PyError} (failed : (perform P call db).1 = .error error) :
    after P call db = db := by
  rcases call with ⟨self, fresh, op⟩
  cases op with
  | openStore key => exact writing_error (fun _ => openStore_kept) failed
  | saveConfig name payload =>
      exact writing_error (fun _ => checked_kept (fun _ _ => transaction_kept)) failed
  | save resource payload itemId =>
      exact writing_error
        (fun _ => checked_kept (fun _ _ => checked_kept (fun _ _ => transaction_kept))) failed
  | delete resource itemId =>
      exact writing_error (fun _ => checked_kept (fun _ _ => transaction_kept)) failed
  | createJob connectionIds =>
      exact writing_error (fun _ => checked_kept (fun _ _ => transaction_kept)) failed
  | setJobStatus jobId status error =>
      exact writing_error (fun _ => checked_kept (fun _ _ => transaction_kept)) failed
  | recordJobResult jobId result =>
      refine writing_error (fun raised => ?_) failed
      unfold recordJobResult
      split
      · exact transaction_kept
      · exact fun _ => rfl
  | listStaticRoutes | createStaticRoute | updateStaticRoute | deleteStaticRoute
  | createStaticRouteAudited | updateStaticRouteAudited | deleteStaticRouteAudited | appendTransaction =>
      exact writing_error (fun _ => transaction_kept) failed
  | list | get | getConfig | resolveConnection | getJob | getJobConnections => rfl

/-! Only a save writes connections. -/

theorem transaction_holds {α : Type} {p : Db Token → Prop} {caller : GatewayStore}
    {body : Except PyError (α × Db Token)} (kept : p db)
    (returns : ∀ result written, body = .ok (result, written) → p written) :
    p (transaction caller db body).2 := by
  cases committed : (transaction caller db body).1 with
  | error raised =>
      rw [transaction_kept committed]
      exact kept
  | ok result => exact returns result _ (transaction_ok.mp (Prod.ext committed rfl)).2

theorem checked_holds {α β : Type} {p : Db Token → Prop} {check : Except PyError β}
    {call : β → Except PyError α × Db Token} (kept : p db) (passes : ∀ value, p (call value).2) :
    p (checked db check call).2 := by
  cases check with
  | error _ => exact kept
  | ok value => exact passes value

/-- A call that is no save leaves at most fewer connections. -/
theorem unsaved_connections {call : Call} (unsaved : ∀ resource payload itemId, call.op ≠ .save resource payload itemId) :
    (after P call db).connections ⊆ db.connections := by
  let fewer := fun written : Db Token => written.connections ⊆ db.connections
  have kept : fewer db := List.Subset.refl _
  have routes : ∀ {written : Db Token}, RoutesOnly db written → fewer written := by
    intro written only
    rcases only with ⟨_, _, _, rfl⟩
    exact kept
  rcases call with ⟨self, fresh, op⟩
  cases op with
  | openStore key =>
      change (openStore P db key).2.connections ⊆ _
      unfold openStore
      split
      · exact kept
      · split
        · exact kept
        · apply transaction_holds (p := fewer) kept
          intro result written returned
          rcases (bind_eq_ok _ _ _).mp returned with ⟨_, _, equal⟩
          cases equal
          exact kept
  | saveConfig name payload =>
      apply checked_holds (p := fewer) kept
      intro value
      apply transaction_holds (p := fewer) kept
      intro result written returned
      cases returned
      exact kept
  | save resource payload itemId => exact absurd rfl (unsaved resource payload itemId)
  | delete resource itemId =>
      apply checked_holds (p := fewer) kept
      intro kind
      apply transaction_holds (p := fewer) kept
      intro result written returned
      cases kind with
      | roleAccounts =>
          rcases deleteRole_ok.mp returned with ⟨-, -, rfl⟩
          exact kept
      | proxies =>
          rcases deleteProxy_ok.mp returned with ⟨-, -, rfl⟩
          exact kept
      | connections =>
          rcases deleteConnection_ok.mp returned with ⟨-, rfl⟩
          exact fun connection member => (mem_remove.mp member).1
  | listStaticRoutes connectionId =>
      exact transaction_holds (p := fewer) kept fun _ _ returned =>
        routes (initializeStaticRoutes_ok (listStaticRoutes_ok.mp returned).1).2.routesOnly
  | createStaticRoute connectionId payload =>
      exact transaction_holds (p := fewer) kept fun _ _ returned => routes (createStaticRouteRow_routesOnly returned)
  | updateStaticRoute connectionId routeId payload =>
      exact transaction_holds (p := fewer) kept fun _ _ returned => routes (updateStaticRouteRow_routesOnly returned)
  | deleteStaticRoute connectionId routeId =>
      exact transaction_holds (p := fewer) kept fun _ _ returned => routes (deleteStaticRouteRow_routesOnly returned)
  | createStaticRouteAudited connectionId payload audit =>
      exact transaction_holds (p := fewer) kept fun _ _ returned => routes (createAudited_routesOnly returned)
  | updateStaticRouteAudited connectionId routeId payload audit =>
      exact transaction_holds (p := fewer) kept fun _ _ returned => routes (updateAudited_routesOnly returned)
  | deleteStaticRouteAudited connectionId routeId audit =>
      exact transaction_holds (p := fewer) kept fun _ _ returned => routes (deleteAudited_routesOnly returned)
  | createJob connectionIds =>
      apply checked_holds (p := fewer) kept
      intro ids
      apply transaction_holds (p := fewer) kept
      intro result written returned
      rcases createJobRow_ok.mp returned with ⟨_, _, _, _, _, rfl⟩
      exact kept
  | recordJobResult jobId result =>
      change fewer (recordJobResult P self db jobId result).2
      unfold recordJobResult
      split
      · apply transaction_holds (p := fewer) kept
        intro result written returned
        rcases recordJobResultRow_ok.mp returned with ⟨_, _, _, _, _, _, _, _, _, _, _, _, _, rfl⟩
        exact kept
      · exact kept
  | setJobStatus jobId status error =>
      apply checked_holds (p := fewer) kept
      intro status
      apply transaction_holds (p := fewer) kept
      intro result written returned
      rcases setJobStatusRow_ok.mp returned with ⟨_, _, _, _, _, _, rfl⟩
      exact kept
  | appendTransaction payload =>
      apply transaction_holds (p := fewer) kept
      intro result written returned
      rcases insertTransaction_ok.mp returned with ⟨-, -, -, rfl⟩
      exact kept
  | list | get | getConfig | resolveConnection | getJob | getJobConnections => exact kept

theorem table_connections {resource : String} :
    table resource = .ok .connections ↔ resource = "connections" := by
  unfold table
  split <;> simp_all

/-- A connection that was not there before is the one an accepted save wrote. -/
theorem after_connections {call : Call} {connection : ConnectionRow Token}
    (member : connection ∈ (after P call db).connections) : connection ∈ db.connections ∨
      ∃ payload itemId held previous, call.op = .save "connections" (.dict payload) itemId ∧
        (∀ entry ∈ payload, entry.1 ∈ fields .connections) ∧
        target ConnectionRow.id db.connections itemId = .ok held ∧ previousConnection P call.self held = .ok previous ∧
        saveConnection P call.self db call.fresh.iv ((held.map ConnectionRow.id).getD call.fresh.id) payload previous =
          .ok connection := by
  by_cases unsaved : ∀ resource payload itemId, call.op ≠ .save resource payload itemId
  · exact .inl (unsaved_connections unsaved member)
  · push Not at unsaved
    rcases unsaved with ⟨resource, payload, itemId, op⟩
    rcases call with ⟨self, fresh, op⟩
    cases op
    change connection ∈ (save P self db fresh resource payload itemId).2.connections at member
    cases returned : (save P self db fresh resource payload itemId).1 with
    | error raised =>
        have same : (save P self db fresh resource payload itemId).2 = db :=
          checked_kept (fun _ _ => checked_kept (fun _ _ => transaction_kept)) returned
        rw [same] at member
        exact .inl member
    | ok view =>
        rcases checked_ok (Prod.ext returned rfl) with ⟨kind, known, checked⟩
        rcases checked_ok checked with ⟨entries, allowed, written⟩
        have given := checkFields_ok allowed
        have body := (transaction_ok.mp written).2
        cases kind with
        | roleAccounts =>
            rcases saveRoleAccount_ok body with ⟨_, _, _, _, _, _, _, rows⟩
            have equal := congrArg Db.connections rows
            have same : (save P self db fresh resource payload itemId).2.connections = db.connections := equal
            rw [same] at member
            exact .inl member
        | proxies =>
            rcases saveProxyResource_ok body with ⟨_, _, _, _, _, _, _, rows⟩
            have equal := congrArg Db.connections rows
            have same : (save P self db fresh resource payload itemId).2.connections = db.connections := equal
            rw [same] at member
            exact .inl member
        | connections =>
            rcases saveConnectionResource_ok body with ⟨held, previous, saved, aimed, decoded, accepted, -, rows⟩
            have same : (save P self db fresh resource payload itemId).2.connections =
                put ConnectionRow.id db.connections saved := congrArg Db.connections rows
            rw [same] at member
            rcases mem_put.mp member with rfl | kept
            · refine .inr ⟨entries, itemId, held, previous, ?_, given.2, aimed, decoded, accepted⟩
              rw [given.1, table_connections.mp known]
            · exact .inl kept.1

end

end NetworkGateway.Store
