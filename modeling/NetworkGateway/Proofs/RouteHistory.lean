import NetworkGateway.Proofs.Frames

/-! The seed markers and the static routes over whole runs. -/

namespace NetworkGateway.Store

open Library.Dict Library.Result Library.Run Library.Table

section

variable {Token : Type} {P : Platform Token}

/-- What a route operation does to the routes once the connection is seeded. -/
inductive RouteAct (P : Platform Token) (fresh : Fresh) (connectionId : String)
    (seeded routes : List StaticRouteRow) : Prop where
  | listed (same : routes = seeded)
  | created (payload : Value) (values : RouteValues) (valid : validateStaticRoute P payload = .ok values)
      (free : Admits seeded (values.row fresh.id connectionId))
      (same : routes = seeded ++ [values.row fresh.id connectionId])
  | updated (payload : Value) (values : RouteValues) (before : StaticRouteRow)
      (valid : validateStaticRoute P payload = .ok values)
      (found : find StaticRouteRow.id seeded before.id = some before) (owned : before.connectionId = connectionId)
      (free : ∀ held ∈ seeded, held.id ≠ before.id →
        sameDestination held (values.row before.id connectionId) = false)
      (same : routes = replace StaticRouteRow.id seeded before.id (fun _ => values.row before.id connectionId))
  | deleted (before : StaticRouteRow) (found : find StaticRouteRow.id seeded before.id = some before)
      (owned : before.connectionId = connectionId)
      (same : routes = remove StaticRouteRow.id seeded before.id)

/-- A route operation that returned: it seeded the connection if need be, then acted. -/
structure Operated (P : Platform Token) (store : GatewayStore) (fresh : Fresh) (db : Db Token)
    (connectionId : String) (seeded written : Db Token) : Prop where
  fake : FakeConnection P store db connectionId
  seeding : Seeding P fresh db connectionId seeded
  act : RouteAct P fresh connectionId seeded.staticRoutes written.staticRoutes
  markers : written.staticRouteInitializations = seeded.staticRouteInitializations
  frame : RoutesOnly db written

inductive RoutesStep (P : Platform Token) (self : GatewayStore) (fresh : Fresh) (db written : Db Token) : Prop where
  | unchanged (markers : written.staticRouteInitializations = db.staticRouteInitializations)
      (routes : written.staticRoutes = db.staticRoutes)
      (kept : ∀ id, (find ConnectionRow.id db.connections id).isSome →
        (find ConnectionRow.id written.connections id).isSome)
  | cascaded (id : String) (returned : deleteConnection db id = .ok ((), written))
  | operated (connectionId : String) (seeded : Db Token)
      (operated : Operated P self fresh db connectionId seeded written)

variable {self : GatewayStore} {fresh : Fresh} {db seeded mutated written : Db Token} {connectionId : String}

theorem listStaticRoutes_operated {routes : List StaticRouteRow}
    (returned : listStaticRoutes P self db fresh connectionId = .ok (routes, written)) :
    Operated P self fresh db connectionId written written := by
  obtain ⟨fake, seeding⟩ := initializeStaticRoutes_ok (listStaticRoutes_ok.mp returned).1
  exact ⟨fake, seeding, .listed rfl, rfl, seeding.routesOnly⟩

theorem createStaticRouteRow_operated {payload : Value} {route : StaticRouteRow}
    (returned : createStaticRouteRow P self db fresh connectionId payload = .ok (route, written)) :
    ∃ seeded, Operated P self fresh db connectionId seeded written := by
  have only := createStaticRouteRow_routesOnly returned
  obtain ⟨seeded, values, initialized, valid, rfl, free, rfl⟩ := createStaticRouteRow_ok.mp returned
  obtain ⟨fake, seeding⟩ := initializeStaticRoutes_ok initialized
  exact ⟨seeded, fake, seeding, .created payload values valid free rfl, rfl, only⟩

theorem updateStaticRouteRow_operated {routeId : String} {payload : Value}
    {rows : StaticRouteRow × StaticRouteRow}
    (returned : updateStaticRouteRow P self db fresh connectionId routeId payload = .ok (rows, written)) :
    ∃ seeded, Operated P self fresh db connectionId seeded written := by
  have only := updateStaticRouteRow_routesOnly returned
  obtain ⟨before, after⟩ := rows
  obtain ⟨seeded, values, initialized, found, rfl, valid, rfl, free, rfl⟩ := updateStaticRouteRow_ok.mp returned
  obtain ⟨fake, seeding⟩ := initializeStaticRoutes_ok initialized
  obtain ⟨-, rfl⟩ := find_mem found
  exact ⟨seeded, fake, seeding, .updated payload values before valid found rfl free rfl, rfl, only⟩

theorem deleteStaticRouteRow_operated {routeId : String} {before : StaticRouteRow}
    (returned : deleteStaticRouteRow P self db fresh connectionId routeId = .ok (before, written)) :
    ∃ seeded, Operated P self fresh db connectionId seeded written := by
  have only := deleteStaticRouteRow_routesOnly returned
  obtain ⟨seeded, initialized, found, owned, rfl⟩ := deleteStaticRouteRow_ok.mp returned
  obtain ⟨fake, seeding⟩ := initializeStaticRoutes_ok initialized
  obtain ⟨-, rfl⟩ := find_mem found
  exact ⟨seeded, fake, seeding, .deleted before found owned rfl, rfl, only⟩

theorem Operated.audited {audit before after : Value} {resourceId target : String} {record : TransactionRow}
    (operated : Operated P self fresh db connectionId seeded mutated)
    (audited : Audited fresh audit resourceId target before after mutated written record) :
    Operated P self fresh db connectionId seeded written := by
  have frame := operated.frame.trans audited.routesOnly
  obtain ⟨_, _, inserted⟩ := audited
  obtain ⟨-, -, -, rfl⟩ := insertTransaction_ok.mp inserted
  exact ⟨operated.fake, operated.seeding, operated.act, operated.markers, frame⟩

theorem createAudited_operated {payload audit : Value} {route : StaticRouteRow}
    (returned : createAudited P self db fresh connectionId payload audit = .ok (route, written)) :
    ∃ seeded, Operated P self fresh db connectionId seeded written := by
  obtain ⟨_, _, created, audited⟩ := createAudited_ok.mp returned
  obtain ⟨seeded, operated⟩ := createStaticRouteRow_operated created
  exact ⟨seeded, operated.audited audited⟩

theorem updateAudited_operated {routeId : String} {payload audit : Value} {route : StaticRouteRow}
    (returned : updateAudited P self db fresh connectionId routeId payload audit = .ok (route, written)) :
    ∃ seeded, Operated P self fresh db connectionId seeded written := by
  obtain ⟨_, _, _, updated, audited⟩ := updateAudited_ok.mp returned
  obtain ⟨seeded, operated⟩ := updateStaticRouteRow_operated updated
  exact ⟨seeded, operated.audited audited⟩

theorem deleteAudited_operated {routeId : String} {audit : Value} {u : Unit}
    (returned : deleteAudited P self db fresh connectionId routeId audit = .ok (u, written)) :
    ∃ seeded, Operated P self fresh db connectionId seeded written := by
  obtain ⟨_, _, _, deleted, audited⟩ := deleteAudited_ok.mp returned
  obtain ⟨seeded, operated⟩ := deleteStaticRouteRow_operated deleted
  exact ⟨seeded, operated.audited audited⟩

theorem RoutesStep.of_operated (operated : ∃ seeded, Operated P self fresh db connectionId seeded written) :
    RoutesStep P self fresh db written := by
  obtain ⟨seeded, operated⟩ := operated
  exact .operated connectionId seeded operated

theorem RoutesStep.of_same (markers : written.staticRouteInitializations = db.staticRouteInitializations)
    (routes : written.staticRoutes = db.staticRoutes) (connections : written.connections = db.connections) :
    RoutesStep P self fresh db written :=
  .unchanged markers routes (fun id held => by rw [connections]; exact held)

theorem Change.routesStep (change : Change P self fresh db written) : RoutesStep P self fresh db written := by
  cases change with
  | unchanged same => exact same ▸ .of_same rfl rfl rfl
  | recovered same => exact same ▸ .of_same rfl rfl rfl
  | configured name payload same => exact same ▸ .of_same rfl rfl rfl
  | savedRole payload itemId view returned =>
      obtain ⟨_, _, _, _, _, _, _, rfl⟩ := saveRoleAccount_ok returned
      exact .of_same rfl rfl rfl
  | savedProxy payload itemId view returned =>
      obtain ⟨_, _, _, _, _, _, _, same⟩ := saveProxyResource_ok returned
      exact .of_same (by rw [same]) (by rw [same]) (by rw [same])
  | savedConnection payload itemId view returned =>
      obtain ⟨_, _, connection, _, _, _, _, same⟩ := saveConnectionResource_ok returned
      refine .unchanged (by rw [same]) (by rw [same]) (fun id held => ?_)
      rw [same, find_put]
      split
      · rfl
      · exact held
  | deletedRole id returned =>
      obtain ⟨-, -, rfl⟩ := deleteRole_ok.mp returned
      exact .of_same rfl rfl rfl
  | deletedProxy id returned =>
      obtain ⟨-, -, rfl⟩ := deleteProxy_ok.mp returned
      exact .of_same rfl rfl rfl
  | deletedConnection id returned => exact .cascaded id returned
  | listedRoutes _ _ returned => exact .of_operated ⟨_, listStaticRoutes_operated returned⟩
  | createdRoute _ _ _ returned => exact .of_operated (createStaticRouteRow_operated returned)
  | updatedRoute _ _ _ _ returned => exact .of_operated (updateStaticRouteRow_operated returned)
  | deletedRoute _ _ _ returned => exact .of_operated (deleteStaticRouteRow_operated returned)
  | createdAudited _ _ _ _ returned => exact .of_operated (createAudited_operated returned)
  | updatedAudited _ _ _ _ _ returned => exact .of_operated (updateAudited_operated returned)
  | deletedAudited _ _ _ returned => exact .of_operated (deleteAudited_operated returned)
  | createdJob ids job distinct nonempty returned =>
      obtain ⟨_, -, -, -, -, rfl⟩ := createJobRow_ok.mp returned
      exact .of_same rfl rfl rfl
  | recordedResult jobId result returned =>
      obtain ⟨_, _, _, _, _, _, -, -, -, -, -, -, -, rfl⟩ := recordJobResultRow_ok.mp returned
      exact .of_same rfl rfl rfl
  | movedJob jobId status error returned =>
      obtain ⟨_, _, -, -, -, -, rfl⟩ := setJobStatusRow_ok.mp returned
      exact .of_same rfl rfl rfl
  | appended payload record returned =>
      obtain ⟨-, -, -, rfl⟩ := insertTransaction_ok.mp returned
      exact .of_same rfl rfl rfl

/-! The invariant of the markers and the routes. -/

def ValidRoute (P : Platform Token) (row : StaticRouteRow) : Prop :=
  ∃ payload values, validateStaticRoute P payload = .ok values ∧ row = values.row row.id row.connectionId

structure RouteTable (P : Platform Token) (routes : List StaticRouteRow) : Prop where
  keyed : Keyed StaticRouteRow.id routes
  unique : ∀ a ∈ routes, ∀ b ∈ routes, sameDestination a b = true → a.id = b.id
  valid : ∀ row ∈ routes, ValidRoute P row

structure RoutesSound (P : Platform Token) (db : Db Token) : Prop where
  table : RouteTable P db.staticRoutes
  marked : ∀ row ∈ db.staticRoutes, row.connectionId ∈ db.staticRouteInitializations
  once : db.staticRouteInitializations.Nodup
  exist : ∀ id ∈ db.staticRouteInitializations, (find ConnectionRow.id db.connections id).isSome

theorem sameDestination_comm (a b : StaticRouteRow) : sameDestination a b = sameDestination b a := by
  simp [sameDestination, Bool.beq_comm]

namespace RouteTable

variable {routes : List StaticRouteRow} {route : StaticRouteRow}

theorem append (table : RouteTable P routes) (free : Admits routes route) (valid : ValidRoute P route) :
    RouteTable P (routes ++ [route]) where
  keyed := keyed_append table.keyed (fun held member => (free held member).1)
  unique := by
    intro a left b right same
    rcases List.mem_append.mp left with held | added <;>
      rcases List.mem_append.mp right with held' | added'
    · exact table.unique a held b held' same
    · rw [List.mem_singleton.mp added', (free a held).2] at same
      cases same
    · rw [List.mem_singleton.mp added, sameDestination_comm, (free b held').2] at same
      cases same
    · rw [List.mem_singleton.mp added, List.mem_singleton.mp added']
  valid := by
    intro row member
    rcases List.mem_append.mp member with member | member
    · exact table.valid row member
    · rwa [List.mem_singleton.mp member]

theorem replace (table : RouteTable P routes) (after : StaticRouteRow)
    (free : ∀ held ∈ routes, held.id ≠ after.id → sameDestination held after = false)
    (valid : ValidRoute P after) :
    RouteTable P (replace StaticRouteRow.id routes after.id (fun _ => after)) where
  keyed := keyed_replace table.keyed after.id _ (fun _ _ => rfl)
  unique := by
    intro a left b right same
    rcases mem_replace.mp left with ⟨held, other⟩ | ⟨_, _, _, changed⟩ <;>
      rcases mem_replace.mp right with ⟨held', other'⟩ | ⟨_, _, _, changed'⟩
    · exact table.unique a held b held' same
    · rw [changed', free a held other] at same
      cases same
    · rw [changed, sameDestination_comm, free b held' other'] at same
      cases same
    · rw [changed, changed']
  valid := by
    intro row member
    rcases mem_replace.mp member with ⟨member, -⟩ | ⟨_, _, _, rfl⟩
    · exact table.valid row member
    · exact valid

theorem filter (table : RouteTable P routes) (keep : StaticRouteRow → Bool) :
    RouteTable P (routes.filter keep) where
  keyed := table.keyed.sublist (List.filter_sublist.map _)
  unique a left b right := table.unique a (List.mem_of_mem_filter left) b (List.mem_of_mem_filter right)
  valid row member := table.valid row (List.mem_of_mem_filter member)

end RouteTable

theorem RouteValues.row_valid {payload : Value} {values : RouteValues} (id connectionId : String)
    (valid : validateStaticRoute P payload = .ok values) : ValidRoute P (values.row id connectionId) :=
  ⟨payload, values, valid, rfl⟩

theorem RouteAct.table {seeded routes : List StaticRouteRow} (act : RouteAct P fresh connectionId seeded routes)
    (table : RouteTable P seeded) : RouteTable P routes := by
  cases act with
  | listed same => exact same ▸ table
  | created payload values valid free same =>
      rw [same]
      exact table.append free (values.row_valid fresh.id connectionId valid)
  | updated payload values before valid found owned free same =>
      rw [same]
      exact table.replace (values.row before.id connectionId) free
        (values.row_valid before.id connectionId valid)
  | deleted before found owned same =>
      rw [same]
      exact table.filter _

theorem RouteAct.mem {seeded routes : List StaticRouteRow} (act : RouteAct P fresh connectionId seeded routes)
    {row : StaticRouteRow} (member : row ∈ routes) : row ∈ seeded ∨ row.connectionId = connectionId := by
  cases act with
  | listed same => exact .inl (same ▸ member)
  | created payload values valid free same =>
      rw [same, List.mem_append] at member
      exact member.imp_right (fun added => by rw [List.mem_singleton.mp added]; rfl)
  | updated payload values before valid found owned free same =>
      rw [same, mem_replace] at member
      rcases member with ⟨member, -⟩ | ⟨_, _, _, rfl⟩
      · exact .inl member
      · exact .inr rfl
  | deleted before found owned same =>
      rw [same, mem_remove] at member
      exact .inl member.1

theorem FakeConnection.exists (fake : FakeConnection P self db connectionId) :
    (find ConnectionRow.id db.connections connectionId).isSome := by
  obtain ⟨connection, _, found, -, -⟩ := fake
  rw [found]
  rfl

theorem Seeding.sound (seeding : Seeding P fresh db connectionId seeded)
    (present : (find ConnectionRow.id db.connections connectionId).isSome) (sound : RoutesSound P db) :
    RoutesSound P seeded ∧ connectionId ∈ seeded.staticRouteInitializations := by
  cases seeding with
  | already marked same => exact same ▸ ⟨sound, marked⟩
  | first unmarked first second valid4 valid6 free4 free6 same =>
      rw [same]
      refine ⟨⟨?_, ?_, ?_, ?_⟩, ?_⟩
      · exact (sound.table.append free4 (first.row_valid _ _ valid4)).append free6 (second.row_valid _ _ valid6)
      · intro row member
        simp only [withSeeds, List.mem_append, List.mem_singleton] at member ⊢
        rcases member with (member | rfl) | rfl
        · exact .inl (sound.marked row member)
        · exact .inr rfl
        · exact .inr rfl
      · simpa [withSeeds, List.nodup_append] using ⟨sound.once, fun id listed same => unmarked (same ▸ listed)⟩
      · intro id member
        simp only [withSeeds, List.mem_append, List.mem_singleton] at member
        rcases member with member | rfl
        · exact sound.exist id member
        · exact present
      · simp [withSeeds]

theorem routesStep_sound (step : RoutesStep P self fresh db written) (sound : RoutesSound P db) :
    RoutesSound P written := by
  cases step with
  | unchanged markers routes kept =>
      refine ⟨routes ▸ sound.table, ?_, markers ▸ sound.once, ?_⟩
      · rw [routes, markers]
        exact sound.marked
      · rw [markers]
        exact fun id member => kept id (sound.exist id member)
  | cascaded id returned =>
      obtain ⟨-, rfl⟩ := deleteConnection_ok.mp returned
      refine ⟨sound.table.filter _, fun row member => ?_, sound.once.filter _, fun held member => ?_⟩
      · obtain ⟨member, apart⟩ := List.mem_filter.mp member
        exact List.mem_filter.mpr ⟨sound.marked row member, apart⟩
      · obtain ⟨member, apart⟩ := List.mem_filter.mp member
        rw [find_remove, if_neg (by simpa using apart)]
        exact sound.exist held member
  | operated connectionId seeded operated =>
      obtain ⟨soundSeeded, marked⟩ := operated.seeding.sound operated.fake.exists sound
      obtain ⟨markers', routes', log, same⟩ := operated.frame
      obtain ⟨_, _, _, seededSame⟩ := operated.seeding.routesOnly
      refine ⟨operated.act.table soundSeeded.table, fun row member => ?_, ?_, fun id member => ?_⟩
      · rw [operated.markers]
        rcases operated.act.mem member with held | rfl
        · exact soundSeeded.marked row held
        · exact marked
      · rw [operated.markers]
        exact soundSeeded.once
      · rw [operated.markers] at member
        have held := soundSeeded.exist id member
        rw [seededSame] at held
        rw [same]
        exact held

theorem routesSound_empty : RoutesSound P (Db.empty : Db Token) :=
  ⟨⟨List.nodup_nil, nofun, nofun⟩, nofun, List.nodup_nil, nofun⟩

theorem run_routesSound (calls : List Call) : RoutesSound P (run (after P) Db.empty calls) :=
  run_invariant (RoutesSound P) (fun call db => routesStep_sound (after_change P call db).routesStep)
    routesSound_empty calls

end

end NetworkGateway.Store
