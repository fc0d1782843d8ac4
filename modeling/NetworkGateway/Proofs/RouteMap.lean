import Mathlib.Logic.Function.Basic
import NetworkGateway.Proofs.Audit

/-! The static routes of a connection as a map from route ids, and the reference
the store is compared with. -/

namespace NetworkGateway.Store

open Library.Dict Library.Result Library.Run Library.Table

def routeValues (row : StaticRouteRow) : RouteValues :=
  ⟨row.destination, row.nextHop, row.interface, row.metric, row.description, row.enabled⟩

abbrev RouteMap := String → Option RouteValues

/-- The reference: no map until the first successful route operation of a connection. -/
abbrev Reference := String → Option RouteMap

def routeMap (routes : List StaticRouteRow) (connectionId : String) : RouteMap := fun id =>
  ((find StaticRouteRow.id routes id).filter (fun row => row.connectionId = connectionId)).map
    routeValues

section

variable {routes : List StaticRouteRow} {row before : StaticRouteRow} {connectionId : String}

theorem routeMap_append (unused : ∀ held ∈ routes, held.id ≠ row.id) (connectionId : String) :
    routeMap (routes ++ [row]) connectionId =
      if row.connectionId = connectionId then
        Function.update (routeMap routes connectionId) row.id (some (routeValues row))
      else routeMap routes connectionId := by
  have absent := find_eq_none.mpr unused
  funext id
  unfold routeMap
  rw [find_append_new]
  by_cases same : id = row.id
  · subst same
    by_cases owned : row.connectionId = connectionId <;> simp [absent, owned]
  · have apart : ¬ row.id = id := fun eq => same eq.symm
    by_cases owned : row.connectionId = connectionId <;> simp [owned, same, apart]

theorem routeMap_replace (row : StaticRouteRow) (found : find StaticRouteRow.id routes row.id = some before)
    (owned : before.connectionId = row.connectionId) (connectionId : String) :
    routeMap (replace StaticRouteRow.id routes row.id (fun _ => row)) connectionId =
      if row.connectionId = connectionId then
        Function.update (routeMap routes connectionId) row.id (some (routeValues row))
      else routeMap routes connectionId := by
  funext id
  unfold routeMap
  by_cases same : id = row.id
  · subst same
    rw [find_replace_self routes row.id _ (fun _ _ => rfl), found]
    by_cases mine : row.connectionId = connectionId
    · simp [mine]
    · simp [mine, owned, found, Option.filter_some]
  · rw [find_replace_other routes _ same (fun _ _ => rfl)]
    by_cases mine : row.connectionId = connectionId <;> simp [mine, same]

theorem routeMap_remove (found : find StaticRouteRow.id routes before.id = some before)
    (connectionId : String) :
    routeMap (remove StaticRouteRow.id routes before.id) connectionId =
      if before.connectionId = connectionId then
        Function.update (routeMap routes connectionId) before.id none
      else routeMap routes connectionId := by
  funext id
  unfold routeMap
  rw [find_remove]
  by_cases same : id = before.id
  · subst same
    by_cases mine : before.connectionId = connectionId <;> simp [mine, found]
  · by_cases mine : before.connectionId = connectionId <;> simp [mine, same]

theorem routeMap_other (keyed : Keyed StaticRouteRow.id routes) {deleted : String}
    (apart : connectionId ≠ deleted) :
    routeMap (routes.filter (fun row => row.connectionId ≠ deleted)) connectionId =
      routeMap routes connectionId := by
  funext id
  unfold routeMap
  rw [find_filter keyed]
  cases find StaticRouteRow.id routes id with
  | none => rfl
  | some row =>
      by_cases mine : row.connectionId = connectionId
      · simp [mine, apart, Option.filter_some]
      · simp [mine, Option.filter_some]

theorem routeMap_unowned (unowned : ∀ row ∈ routes, row.connectionId ≠ connectionId) :
    routeMap routes connectionId = fun _ => none := by
  funext id
  unfold routeMap
  cases found : find StaticRouteRow.id routes id with
  | none => rfl
  | some row => simp [unowned row (find_mem found).1]

end

section

variable {Token : Type} (P : Platform Token)

def seedMap (fresh : Fresh) : RouteMap :=
  match validateStaticRoute P seedRoute4, validateStaticRoute P seedRoute6 with
  | .ok first, .ok second =>
      Function.update (Function.update (fun _ => none) fresh.seedIds.1 (some first)) fresh.seedIds.2 (some second)
  | _, _ => fun _ => none

namespace Reference

def current (reference : Reference) (fresh : Fresh) (connectionId : String) : RouteMap :=
  (reference connectionId).getD (seedMap P fresh)

/-- A route operation on one connection: `value` is what it binds `id` to. -/
def bind (reference : Reference) (fresh : Fresh) (connectionId id : String) (value : Option RouteValues) :
    Reference :=
  Function.update reference connectionId
    (some (Function.update (reference.current P fresh connectionId) id value))

def step (call : Call) (reference : Reference) : Reference :=
  match call.op with
  | .listStaticRoutes connectionId =>
      Function.update reference connectionId (some (reference.current P call.fresh connectionId))
  | .createStaticRoute connectionId payload | .createStaticRouteAudited connectionId payload _ =>
      reference.bind P call.fresh connectionId call.fresh.id (validateStaticRoute P payload).toOption
  | .updateStaticRoute connectionId routeId payload | .updateStaticRouteAudited connectionId routeId payload _ =>
      reference.bind P call.fresh connectionId routeId (validateStaticRoute P payload).toOption
  | .deleteStaticRoute connectionId routeId | .deleteStaticRouteAudited connectionId routeId _ =>
      reference.bind P call.fresh connectionId routeId none
  | .delete resource connectionId =>
      if resource = "connections" then Function.update reference connectionId none else reference
  | _ => reference

/-- The reference after a run: calls that raise leave it alone. -/
def follow (db : Db Token) (reference : Reference) : List Call → Reference
  | [] => reference
  | call :: calls =>
      follow (after P call db) (if (perform P call db).1.isOk then reference.step P call else reference) calls

end Reference

def routeMaps (db : Db Token) : Reference := fun connectionId =>
  if connectionId ∈ db.staticRouteInitializations then some (routeMap db.staticRoutes connectionId) else none

variable {P} {self : GatewayStore} {fresh : Fresh} {db seeded mutated written : Db Token}
  {connectionId routeId : String}

theorem routeMaps_log (db : Db Token) (log : List TransactionRow) :
    routeMaps { db with transactions := log } = routeMaps db := rfl

theorem Seeding.maps (seeding : Seeding P fresh db connectionId seeded) (sound : RoutesSound P db) :
    routeMaps seeded =
      Function.update (routeMaps db) connectionId (some ((routeMaps db).current P fresh connectionId)) := by
  cases seeding with
  | already marked same =>
      have here : routeMaps db connectionId = some (routeMap db.staticRoutes connectionId) := if_pos marked
      rw [same, Reference.current, here, Option.getD_some, ← here, Function.update_eq_self]
  | first unmarked first second valid4 valid6 free4 free6 same =>
      have unowned : ∀ row ∈ db.staticRoutes, row.connectionId ≠ connectionId :=
        fun row member owned => unmarked (owned ▸ sound.marked row member)
      have maps : ∀ other, routeMap seeded.staticRoutes other =
          if connectionId = other then seedMap P fresh else routeMap db.staticRoutes other := by
        intro other
        rw [same, withSeeds, routeMap_append (fun held member => (free6 held member).1),
          routeMap_append (fun held member => (free4 held member).1)]
        show (if connectionId = other then _ else _) = _
        split
        · rename_i mine
          subst mine
          rw [routeMap_unowned unowned, seedMap, valid4, valid6]
          simp only [RouteValues.row, routeValues, if_true]
        · rename_i apart
          exact if_neg apart
      funext other
      unfold routeMaps
      rw [maps]
      by_cases mine : connectionId = other
      · subst mine
        rw [if_pos rfl, Function.update_self, Reference.current, if_neg unmarked, Option.getD_none,
          if_pos (by rw [same]; simp [withSeeds])]
      · rw [if_neg mine, Function.update_of_ne (Ne.symm mine)]
        have markers : other ∈ seeded.staticRouteInitializations ↔ other ∈ db.staticRouteInitializations := by
          rw [same]
          simp [withSeeds, Ne.symm mine]
        simp only [markers]

theorem routeMaps_bind (seeding : Seeding P fresh db connectionId seeded) (sound : RoutesSound P db)
    (present : (find ConnectionRow.id db.connections connectionId).isSome) {id : String}
    {value : Option RouteValues} {routes : List StaticRouteRow}
    (bound : ∀ other, routeMap routes other = if connectionId = other then
      Function.update (routeMap seeded.staticRoutes other) id value else routeMap seeded.staticRoutes other) :
    routeMaps { seeded with staticRoutes := routes } =
      (routeMaps db).bind P fresh connectionId id value := by
  have held := seeding.maps sound
  have marked := (seeding.sound present sound).2
  have current : routeMap seeded.staticRoutes connectionId = (routeMaps db).current P fresh connectionId := by
    have here := congrFun held connectionId
    rw [Function.update_self, routeMaps, if_pos marked] at here
    exact Option.some.inj here
  funext other
  unfold Reference.bind
  by_cases mine : connectionId = other
  · subst mine
    rw [Function.update_self, routeMaps, if_pos marked, bound, if_pos rfl, current]
  · have elsewhere := congrFun held other
    rw [Function.update_of_ne (Ne.symm mine)] at elsewhere ⊢
    rw [← elsewhere, routeMaps, routeMaps, bound, if_neg mine]

theorem createStaticRouteRow_routeMaps {payload : Value} {route : StaticRouteRow} (sound : RoutesSound P db)
    (returned : createStaticRouteRow P self db fresh connectionId payload = .ok (route, written)) :
    routeMaps written =
      (routeMaps db).bind P fresh connectionId fresh.id (validateStaticRoute P payload).toOption := by
  obtain ⟨seeded, values, initialized, valid, rfl, free, rfl⟩ := createStaticRouteRow_ok.mp returned
  obtain ⟨fake, seeding⟩ := initializeStaticRoutes_ok initialized
  rw [valid]
  exact routeMaps_bind seeding sound fake.exists (routeMap_append (fun held member => (free held member).1))

theorem updateStaticRouteRow_routeMaps {payload : Value} {rows : StaticRouteRow × StaticRouteRow}
    (sound : RoutesSound P db)
    (returned : updateStaticRouteRow P self db fresh connectionId routeId payload = .ok (rows, written)) :
    routeMaps written =
      (routeMaps db).bind P fresh connectionId routeId (validateStaticRoute P payload).toOption := by
  obtain ⟨before, after⟩ := rows
  obtain ⟨seeded, values, initialized, found, owned, valid, rfl, free, rfl⟩ := updateStaticRouteRow_ok.mp returned
  obtain ⟨fake, seeding⟩ := initializeStaticRoutes_ok initialized
  obtain ⟨-, rfl⟩ := find_mem found
  rw [valid]
  subst owned
  exact routeMaps_bind seeding sound fake.exists
    (routeMap_replace (values.row before.id before.connectionId) found rfl)

theorem deleteStaticRouteRow_routeMaps {before : StaticRouteRow} (sound : RoutesSound P db)
    (returned : deleteStaticRouteRow P self db fresh connectionId routeId = .ok (before, written)) :
    routeMaps written = (routeMaps db).bind P fresh connectionId routeId none := by
  obtain ⟨seeded, initialized, found, owned, rfl⟩ := deleteStaticRouteRow_ok.mp returned
  obtain ⟨fake, seeding⟩ := initializeStaticRoutes_ok initialized
  obtain ⟨-, rfl⟩ := find_mem found
  subst owned
  exact routeMaps_bind seeding sound fake.exists (routeMap_remove found)

theorem Audited.maps {audit before after : Value} {resourceId target : String} {record : TransactionRow}
    (audited : Audited fresh audit resourceId target before after mutated written record) :
    routeMaps written = routeMaps mutated := by
  rw [(audited_record audited).1, routeMaps_log]

theorem deleteConnection_routeMaps {id : String} {u : Unit} (sound : RoutesSound P db)
    (returned : deleteConnection db id = .ok (u, written)) :
    routeMaps written = Function.update (routeMaps db) id none := by
  obtain ⟨-, rfl⟩ := deleteConnection_ok.mp returned
  funext other
  unfold routeMaps
  by_cases deleted : other = id
  · subst deleted
    simp
  · rw [Function.update_of_ne deleted]
    simp only [List.mem_filter, decide_eq_true_eq, deleted, not_false_eq_true, and_true, ne_eq]
    rw [← routeMap_other sound.table.keyed deleted]

/-! The reference follows every call. -/

section

variable {β : Type} (view : Db Token → β)

theorem transaction_same {α : Type} {caller : GatewayStore} {body : Except PyError (α × Db Token)}
    (same : ∀ result written, body = .ok (result, written) → view written = view db) :
    view (transaction caller db body).2 = view db := by
  unfold transaction
  cases caller.closed with
  | true => rfl
  | false =>
      rcases body with error | ⟨result, written⟩
      · rfl
      · exact same result written rfl

theorem checked_same {α γ : Type} {check : Except PyError γ} {call : γ → Except PyError α × Db Token}
    (same : ∀ value, view (call value).2 = view db) : view (checked db check call).2 = view db := by
  cases check with
  | error _ => rfl
  | ok value => exact same value

end

def routeTables (db : Db Token) : List String × List StaticRouteRow :=
  (db.staticRouteInitializations, db.staticRoutes)

theorem maps_of_tables (same : routeTables written = routeTables db) : routeMaps written = routeMaps db := by
  obtain ⟨markers, routes⟩ := Prod.mk.inj same
  unfold routeMaps
  rw [markers, routes]

theorem save_tables (resource : String) (payload : Value) (itemId : Option String) :
    routeTables (save P self db fresh resource payload itemId).2 = routeTables db := by
  refine checked_same routeTables (fun resource => checked_same routeTables (fun payload =>
    transaction_same routeTables (fun view written returned => ?_)))
  cases resource with
  | roleAccounts =>
      obtain ⟨_, _, _, _, _, _, _, same⟩ := saveRoleAccount_ok returned
      rw [same]
      rfl
  | proxies =>
      obtain ⟨_, _, _, _, _, _, _, same⟩ := saveProxyResource_ok returned
      rw [same]
      rfl
  | connections =>
      obtain ⟨_, _, _, _, _, _, _, same⟩ := saveConnectionResource_ok returned
      rw [same]
      rfl

theorem createJob_tables (connectionIds : Value) :
    routeTables (createJob P self db fresh connectionIds).2 = routeTables db := by
  refine checked_same routeTables (fun ids => transaction_same routeTables (fun job written returned => ?_))
  obtain ⟨_, -, -, -, -, rfl⟩ := createJobRow_ok.mp returned
  rfl

theorem recordJobResult_tables (jobId : String) (result : Value) :
    routeTables (recordJobResult P self db jobId result).2 = routeTables db := by
  unfold recordJobResult
  split
  · refine transaction_same routeTables (fun u written returned => ?_)
    obtain ⟨_, _, _, _, _, _, -, -, -, -, -, -, -, rfl⟩ := recordJobResultRow_ok.mp returned
    rfl
  · rfl

theorem setJobStatus_tables (jobId : String) (status error : Value) :
    routeTables (setJobStatus P self db jobId status error).2 = routeTables db := by
  refine checked_same routeTables (fun status => transaction_same routeTables (fun u written returned => ?_))
  obtain ⟨_, _, -, -, -, -, rfl⟩ := setJobStatusRow_ok.mp returned
  rfl

theorem openStore_tables (key : String) : routeTables (openStore P db key).2 = routeTables db := by
  unfold openStore
  split
  · rfl
  · split
    · rfl
    · refine transaction_same routeTables (fun opened written returned => ?_)
      simp only [bind_eq_ok, pure_eq, Except.ok.injEq, Prod.mk.injEq] at returned
      obtain ⟨_, -, -, rfl⟩ := returned
      rfl

theorem delete_tables {resource : String} (other : resource ≠ "connections") (itemId : String) :
    routeTables (delete self db resource itemId).2 = routeTables db := by
  unfold delete checked
  split
  · rename_i kind known
    refine transaction_same routeTables (fun u written returned => ?_)
    cases kind with
    | roleAccounts =>
        obtain ⟨-, -, rfl⟩ := deleteRole_ok.mp returned
        rfl
    | proxies =>
        obtain ⟨-, -, rfl⟩ := deleteProxy_ok.mp returned
        rfl
    | connections => exact absurd (table_connections.mp known) other
  · rfl

theorem writing_maps {α : Type} {reply : α → Reply} {body : Except PyError (α × Db Token)} {next : Reference}
    (returned : (writing reply (transaction self db body)).1.isOk = true)
    (maps : ∀ result written, body = .ok (result, written) → routeMaps written = next) :
    routeMaps (writing reply (transaction self db body)).2 = next := by
  rcases writing_transaction reply self db body with ⟨result, written, held, same⟩ | ⟨error, same⟩
  · rw [same]
    exact maps result written held
  · rw [same] at returned
    cases returned

/-- What a call that returned does to the tables is what it does to the reference. -/
theorem perform_maps (call : Call) (sound : RoutesSound P db) (returned : (perform P call db).1.isOk = true) :
    routeMaps (after P call db) = (routeMaps db).step P call := by
  rcases call with ⟨self, fresh, op⟩
  cases op with
  | openStore key => exact maps_of_tables (openStore_tables key)
  | save resource payload itemId => exact maps_of_tables (save_tables resource payload itemId)
  | saveConfig name payload =>
      refine maps_of_tables (checked_same routeTables (fun value =>
        transaction_same routeTables (fun result written stored => ?_)))
      obtain ⟨-, rfl⟩ := Prod.mk.inj (Except.ok.inj stored)
      rfl
  | createJob connectionIds => exact maps_of_tables (createJob_tables connectionIds)
  | recordJobResult jobId result => exact maps_of_tables (recordJobResult_tables jobId result)
  | setJobStatus jobId status error => exact maps_of_tables (setJobStatus_tables jobId status error)
  | appendTransaction payload =>
      refine maps_of_tables (transaction_same routeTables (fun record written inserted => ?_))
      obtain ⟨-, -, -, rfl⟩ := insertTransaction_ok.mp inserted
      rfl
  | list | get | getConfig | resolveConnection | getJob | getJobConnections => rfl
  | delete resource itemId =>
      show routeMaps (delete self db resource itemId).2 =
        if resource = "connections" then Function.update (routeMaps db) itemId none else routeMaps db
      split
      · rename_i named
        subst named
        exact writing_maps returned (fun _ _ deleted => deleteConnection_routeMaps sound deleted)
      · rename_i other
        exact maps_of_tables (delete_tables other itemId)
  | listStaticRoutes connectionId =>
      refine writing_maps returned (fun routes written listed => ?_)
      exact (initializeStaticRoutes_ok (listStaticRoutes_ok.mp listed).1).2.maps sound
  | createStaticRoute connectionId payload =>
      exact writing_maps returned (fun _ _ created => createStaticRouteRow_routeMaps sound created)
  | updateStaticRoute connectionId routeId payload =>
      exact writing_maps returned (fun _ _ updated => updateStaticRouteRow_routeMaps sound updated)
  | deleteStaticRoute connectionId routeId =>
      exact writing_maps returned (fun _ _ deleted => deleteStaticRouteRow_routeMaps sound deleted)
  | createStaticRouteAudited connectionId payload audit =>
      refine writing_maps returned (fun route written committed => ?_)
      obtain ⟨_, _, created, audited⟩ := createAudited_ok.mp committed
      exact audited.maps.trans (createStaticRouteRow_routeMaps sound created)
  | updateStaticRouteAudited connectionId routeId payload audit =>
      refine writing_maps returned (fun route written committed => ?_)
      obtain ⟨_, _, _, updated, audited⟩ := updateAudited_ok.mp committed
      exact audited.maps.trans (updateStaticRouteRow_routeMaps sound updated)
  | deleteStaticRouteAudited connectionId routeId audit =>
      refine writing_maps returned (fun u written committed => ?_)
      obtain ⟨_, _, _, deleted, audited⟩ := deleteAudited_ok.mp committed
      exact audited.maps.trans (deleteStaticRouteRow_routeMaps sound deleted)

theorem after_maps (call : Call) (sound : RoutesSound P db) : routeMaps (after P call db) =
    if (perform P call db).1.isOk then (routeMaps db).step P call else routeMaps db := by
  split
  · rename_i returned
    exact perform_maps call sound returned
  · rename_i raised
    cases outcome : (perform P call db).1 with
    | ok reply => rw [outcome] at raised; exact absurd rfl raised
    | error error => rw [perform_error outcome]

theorem run_maps (calls : List Call) (sound : RoutesSound P db) :
    routeMaps (run (after P) db calls) = Reference.follow P db (routeMaps db) calls := by
  induction calls generalizing db with
  | nil => rfl
  | cons call calls ih =>
      rw [run_cons, ih (routesStep_sound (after_change P call db).routesStep sound), Reference.follow,
        after_maps call sound]

theorem routeMaps_empty : routeMaps (Db.empty : Db Token) = fun _ => none := by
  funext connectionId
  exact if_neg List.not_mem_nil

end

end NetworkGateway.Store
