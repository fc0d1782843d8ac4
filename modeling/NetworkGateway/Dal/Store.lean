import NetworkGateway.Library.Run
import NetworkGateway.Dal.Transactions
import NetworkGateway.Dal.Jobs
import NetworkGateway.Dal.Configuration

/-! Calls on `GatewayStore` instances that share one database, and their runs. -/

namespace NetworkGateway.Store

open Library.Run

inductive Op where
  | openStore (key : String)
  | list (resource : String)
  | get (resource itemId : String)
  | getConfig (name : String)
  | saveConfig (name : String) (payload : Value)
  | save (resource : String) (payload : Value) (itemId : Option String)
  | delete (resource itemId : String)
  | resolveConnection (itemId : String)
  | listStaticRoutes (connectionId : String)
  | createStaticRoute (connectionId : String) (payload : Value)
  | updateStaticRoute (connectionId routeId : String) (payload : Value)
  | deleteStaticRoute (connectionId routeId : String)
  | createStaticRouteAudited (connectionId : String) (payload audit : Value)
  | updateStaticRouteAudited (connectionId routeId : String) (payload audit : Value)
  | deleteStaticRouteAudited (connectionId routeId : String) (audit : Value)
  | createJob (connectionIds : Value)
  | getJob (jobId : String)
  | getJobConnections (jobId : String)
  | recordJobResult (jobId : String) (result : Value)
  | setJobStatus (jobId : String) (status error : Value)
  | appendTransaction (payload : Value)

/-- One call: the instance it is made on, what it draws, and its arguments. -/
structure Call where
  self : GatewayStore
  fresh : Fresh
  op : Op

inductive Reply where
  | none
  | store (opened : GatewayStore)
  | view (value : Value)
  | views (values : List Value)
  | profile (entries : Dict)
  | route (row : StaticRouteRow)
  | routes (rows : List StaticRouteRow)
  | job (job : PublicJob)
  | connections (entries : List (String × Dict))
  | record (row : TransactionRow)

section

variable {Token : Type} (P : Platform Token)

def writing {α : Type} (reply : α → Reply) (outcome : Except PyError α × Db Token) :
    Except PyError Reply × Db Token :=
  (outcome.1.map reply, outcome.2)

def answering {α : Type} (reply : α → Reply) (db : Db Token) (outcome : Except PyError α) :
    Except PyError Reply × Db Token :=
  (outcome.map reply, db)

/-- `update_static_route` returns the row after the change. -/
def updateStaticRoute (self : GatewayStore) (db : Db Token) (fresh : Fresh)
    (connectionId routeId : String) (payload : Value) :
    Except PyError (StaticRouteRow × StaticRouteRow) × Db Token :=
  transaction self db (updateStaticRouteRow P self db fresh connectionId routeId payload)

def perform (call : Call) (db : Db Token) : Except PyError Reply × Db Token :=
  let self := call.self
  let fresh := call.fresh
  match call.op with
  | .openStore key => writing .store (openStore P db key)
  | .list resource => answering .views db (list P self db resource)
  | .get resource itemId => answering .view db (get P self db resource itemId)
  | .getConfig name => answering .view db (getConfig P self db name)
  | .saveConfig name payload => writing .view (saveConfig P self db name payload)
  | .save resource payload itemId => writing .view (save P self db fresh resource payload itemId)
  | .delete resource itemId => writing (fun _ => .none) (delete self db resource itemId)
  | .resolveConnection itemId => answering .profile db (resolve P self db itemId)
  | .listStaticRoutes connectionId =>
      writing .routes (transaction self db (listStaticRoutes P self db fresh connectionId))
  | .createStaticRoute connectionId payload =>
      writing .route (transaction self db (createStaticRouteRow P self db fresh connectionId payload))
  | .updateStaticRoute connectionId routeId payload =>
      writing (fun rows => .route rows.2) (updateStaticRoute P self db fresh connectionId routeId payload)
  | .deleteStaticRoute connectionId routeId =>
      writing (fun _ => .none)
        (transaction self db (deleteStaticRouteRow P self db fresh connectionId routeId))
  | .createStaticRouteAudited connectionId payload audit =>
      writing .route (createStaticRouteAudited P self db fresh connectionId payload audit)
  | .updateStaticRouteAudited connectionId routeId payload audit =>
      writing .route (updateStaticRouteAudited P self db fresh connectionId routeId payload audit)
  | .deleteStaticRouteAudited connectionId routeId audit =>
      writing (fun _ => .none) (deleteStaticRouteAudited P self db fresh connectionId routeId audit)
  | .createJob connectionIds => writing .job (createJob P self db fresh connectionIds)
  | .getJob jobId => answering .job db (getJob self db jobId)
  | .getJobConnections jobId => answering .connections db (getJobConnections P self db jobId)
  | .recordJobResult jobId result =>
      writing (fun _ => .none) (recordJobResult P self db jobId result)
  | .setJobStatus jobId status error =>
      writing (fun _ => .none) (setJobStatus P self db jobId status error)
  | .appendTransaction payload => writing .record (appendTransaction self db fresh payload)

def after (call : Call) (db : Db Token) : Db Token := (perform P call db).2

def Reachable (db : Db Token) : Prop := Library.Run.Reachable (after P) Db.empty db

/-- Every way a call can change the database: the body of its transaction returned. -/
inductive Change (self : GatewayStore) (fresh : Fresh) (db written : Db Token) : Prop where
  | unchanged (same : written = db)
  | recovered (same : written = { db with jobs := db.jobs.map recoverJob })
  | configured (name : String) (payload : Value)
      (same : written = { db with configurations := Library.Dict.set db.configurations name payload })
  | savedRole (payload : Dict) (itemId : Option String) (view : Value)
      (returned : saveRoleAccount P self db fresh payload itemId = .ok (view, written))
      (listed : ∀ entry ∈ payload, entry.1 ∈ fields .roleAccounts)
  | savedProxy (payload : Dict) (itemId : Option String) (view : Value)
      (returned : saveProxyResource P self db fresh payload itemId = .ok (view, written))
      (listed : ∀ entry ∈ payload, entry.1 ∈ fields .proxies)
  | savedConnection (payload : Dict) (itemId : Option String) (view : Value)
      (returned : saveConnectionResource P self db fresh payload itemId = .ok (view, written))
      (listed : ∀ entry ∈ payload, entry.1 ∈ fields .connections)
  | deletedRole (id : String) (returned : deleteRole db id = .ok ((), written))
  | deletedProxy (id : String) (returned : deleteProxy db id = .ok ((), written))
  | deletedConnection (id : String) (returned : deleteConnection db id = .ok ((), written))
  | listedRoutes (connectionId : String) (routes : List StaticRouteRow)
      (returned : listStaticRoutes P self db fresh connectionId = .ok (routes, written))
  | createdRoute (connectionId : String) (payload : Value) (route : StaticRouteRow)
      (returned : createStaticRouteRow P self db fresh connectionId payload = .ok (route, written))
  | updatedRoute (connectionId routeId : String) (payload : Value)
      (rows : StaticRouteRow × StaticRouteRow)
      (returned : updateStaticRouteRow P self db fresh connectionId routeId payload = .ok (rows, written))
  | deletedRoute (connectionId routeId : String) (route : StaticRouteRow)
      (returned : deleteStaticRouteRow P self db fresh connectionId routeId = .ok (route, written))
  | createdAudited (connectionId : String) (payload audit : Value) (route : StaticRouteRow)
      (returned : createAudited P self db fresh connectionId payload audit = .ok (route, written))
  | updatedAudited (connectionId routeId : String) (payload audit : Value) (route : StaticRouteRow)
      (returned : updateAudited P self db fresh connectionId routeId payload audit = .ok (route, written))
  | deletedAudited (connectionId routeId : String) (audit : Value)
      (returned : deleteAudited P self db fresh connectionId routeId audit = .ok ((), written))
  | createdJob (ids : List String) (job : PublicJob) (distinct : ids.Nodup) (some_ids : ids ≠ [])
      (returned : createJobRow P self db fresh ids = .ok (job, written))
  | recordedResult (jobId : String) (result : Dict)
      (returned : recordJobResultRow P self db jobId result = .ok ((), written))
  | movedJob (jobId : String) (status : JobStatus) (error : Value)
      (returned : setJobStatusRow P self db jobId status error = .ok ((), written))
  | appended (payload : Value) (record : TransactionRow)
      (returned : insertTransaction db fresh payload = .ok (record, written))

variable {P}

variable {self : GatewayStore} {fresh : Fresh} {db : Db Token}

/-- A transaction either rolled back or kept what its body wrote. -/
theorem change_of_transaction {α : Type} {caller : GatewayStore}
    (body : Except PyError (α × Db Token))
    (returns : ∀ result written, body = .ok (result, written) → Change P self fresh db written) :
    Change P self fresh db (transaction caller db body).2 := by
  unfold transaction
  cases caller.closed with
  | true => exact .unchanged rfl
  | false =>
      rcases body with error | ⟨result, written⟩
      · exact .unchanged rfl
      · exact returns result written rfl

theorem change_of_checked {α β : Type} (check : Except PyError β)
    (call : β → Except PyError α × Db Token)
    (passes : ∀ value, check = .ok value → Change P self fresh db (call value).2) :
    Change P self fresh db (checked db check call).2 := by
  cases check with
  | error _ => exact .unchanged rfl
  | ok value => exact passes value rfl

theorem selection_ok {connectionIds : Value} {ids : List String}
    (accepted : selection connectionIds = .ok ids) :
    connectionIds = .list (ids.map .str) ∧ ids.Nodup ∧ ids ≠ [] := by
  unfold selection at accepted
  split at accepted
  · rename_i items
    split at accepted
    · cases accepted
    · rename_i bounds
      split at accepted
      · rename_i found mapped
        split at accepted
        · rename_i distinct
          obtain rfl := Except.ok.inj accepted
          rw [Value.strings_eq_some] at mapped
          refine ⟨by rw [mapped], distinct, ?_⟩
          rintro rfl
          simp [mapped] at bounds
        · cases accepted
      · cases accepted
  · cases accepted

theorem openStore_change (key : String) : Change P self fresh db (openStore P db key).2 := by
  unfold openStore
  split
  · exact .unchanged rfl
  · split
    · exact .unchanged rfl
    · apply change_of_transaction
      intro result written returned
      simp only [Library.Result.bind_eq_ok, Library.Result.pure_eq, Except.ok.injEq] at returned
      obtain ⟨_, _, same⟩ := returned
      obtain ⟨-, rfl⟩ := Prod.mk.inj same
      exact .recovered rfl

theorem checkFields_ok {value : Value} {allowed : List String} {entries : Dict}
    (accepted : checkFields value allowed = .ok entries) :
    value = .dict entries ∧ ∀ entry ∈ entries, entry.1 ∈ allowed := by
  unfold checkFields at accepted
  split at accepted
  · split at accepted
    · rename_i all
      rw [Except.ok.inj accepted] at all ⊢
      refine ⟨rfl, ?_⟩
      intro entry member
      have within := List.all_eq_true.mp all entry member
      simpa using within
    · cases accepted
  · cases accepted

theorem save_change (resource : String) (payload : Value) (itemId : Option String) :
    Change P self fresh db (save P self db fresh resource payload itemId).2 := by
  unfold save
  apply change_of_checked
  intro resource _
  apply change_of_checked
  intro payload accepted
  apply change_of_transaction
  intro view written returned
  have listed := (checkFields_ok accepted).2
  cases resource with
  | roleAccounts => exact .savedRole payload itemId view returned listed
  | proxies => exact .savedProxy payload itemId view returned listed
  | connections => exact .savedConnection payload itemId view returned listed

theorem delete_change (resource itemId : String) :
    Change P self fresh db (delete self db resource itemId).2 := by
  unfold delete
  apply change_of_checked
  intro resource _
  apply change_of_transaction
  intro result written returned
  cases resource with
  | roleAccounts => exact .deletedRole itemId returned
  | proxies => exact .deletedProxy itemId returned
  | connections => exact .deletedConnection itemId returned

theorem saveConfig_change (name : String) (payload : Value) :
    Change P self fresh db (saveConfig P self db name payload).2 := by
  unfold saveConfig
  apply change_of_checked
  intro validated _
  apply change_of_transaction
  intro result written returned
  obtain ⟨-, rfl⟩ := Prod.mk.inj (Except.ok.inj returned)
  exact .configured name validated rfl

theorem createJob_change (connectionIds : Value) :
    Change P self fresh db (createJob P self db fresh connectionIds).2 := by
  unfold createJob
  apply change_of_checked
  intro ids accepted
  apply change_of_transaction
  intro job written returned
  obtain ⟨-, distinct, nonempty⟩ := selection_ok accepted
  exact .createdJob ids job distinct nonempty returned

theorem recordJobResult_change (jobId : String) (result : Value) :
    Change P self fresh db (recordJobResult P self db jobId result).2 := by
  unfold recordJobResult
  split
  · exact change_of_transaction _ (fun _ _ returned => .recordedResult jobId _ returned)
  · exact .unchanged rfl

theorem setJobStatus_change (jobId : String) (status error : Value) :
    Change P self fresh db (setJobStatus P self db jobId status error).2 := by
  unfold setJobStatus
  apply change_of_checked
  intro status _
  exact change_of_transaction _ (fun _ _ returned => .movedJob jobId status error returned)

variable (P) in
/-- A call changes the database only as one of its transactions does. -/
theorem after_change (call : Call) (db : Db Token) :
    Change P call.self call.fresh db (after P call db) := by
  rcases call with ⟨self, fresh, op⟩
  cases op with
  | openStore key => exact openStore_change key
  | saveConfig name payload => exact saveConfig_change name payload
  | save resource payload itemId => exact save_change resource payload itemId
  | delete resource itemId => exact delete_change resource itemId
  | listStaticRoutes connectionId =>
      exact change_of_transaction _ (fun routes _ returned => .listedRoutes connectionId routes returned)
  | createStaticRoute connectionId payload =>
      exact change_of_transaction _ (fun route _ returned => .createdRoute connectionId payload route returned)
  | updateStaticRoute connectionId routeId payload =>
      exact change_of_transaction _
        (fun rows _ returned => .updatedRoute connectionId routeId payload rows returned)
  | deleteStaticRoute connectionId routeId =>
      exact change_of_transaction _
        (fun route _ returned => .deletedRoute connectionId routeId route returned)
  | createStaticRouteAudited connectionId payload audit =>
      exact change_of_transaction _
        (fun route _ returned => .createdAudited connectionId payload audit route returned)
  | updateStaticRouteAudited connectionId routeId payload audit =>
      exact change_of_transaction _
        (fun route _ returned => .updatedAudited connectionId routeId payload audit route returned)
  | deleteStaticRouteAudited connectionId routeId audit =>
      exact change_of_transaction _
        (fun _ _ returned => .deletedAudited connectionId routeId audit returned)
  | createJob connectionIds => exact createJob_change connectionIds
  | recordJobResult jobId result => exact recordJobResult_change jobId result
  | setJobStatus jobId status error => exact setJobStatus_change jobId status error
  | appendTransaction payload =>
      exact change_of_transaction _ (fun record _ returned => .appended payload record returned)
  | list | get | getConfig | resolveConnection | getJob | getJobConnections => exact .unchanged rfl

end

end NetworkGateway.Store
