import NetworkGateway.Dal.Bench
import NetworkGateway.Proofs.Checks
import NetworkGateway.Proofs.RouteMap

/-! What the static routes of a connection promise: listing, canonical prefixes,
seeds that stay deleted, and ownership. -/

namespace NetworkGateway.Store

open Library.Dict Library.Result Library.Run Library.Table

section

variable {Token : Type} {P : Platform Token} {self : GatewayStore} {fresh : Fresh}
  {db seeded written : Db Token} {connectionId : String}

/-! Listing. -/

theorem row_eq {a b : StaticRouteRow} (id : a.id = b.id) (owner : a.connectionId = b.connectionId)
    (values : routeValues a = routeValues b) : a = b := by
  cases a
  cases b
  simp_all [routeValues]

theorem mem_routeMap {routes : List StaticRouteRow} (keyed : Keyed StaticRouteRow.id routes)
    {row : StaticRouteRow} : row ∈ routes ∧ row.connectionId = connectionId ↔
      row.connectionId = connectionId ∧ routeMap routes connectionId row.id = some (routeValues row) := by
  unfold routeMap
  constructor
  · rintro ⟨member, owned⟩
    exact ⟨owned, by rw [find_of_mem keyed member]; simp [owned, Option.filter_some]⟩
  · rintro ⟨owned, bound⟩
    obtain ⟨held, kept, values⟩ := Option.map_eq_some_iff.mp bound
    obtain ⟨found, mine⟩ := Option.filter_eq_some_iff.mp kept
    obtain ⟨member, same⟩ := find_mem found
    obtain rfl := row_eq same ((of_decide_eq_true mine).trans owned.symm) values
    exact ⟨member, owned⟩

theorem listStaticRoutes_maps {routes : List StaticRouteRow} (sound : RoutesSound P db)
    (returned : listStaticRoutes P self db fresh connectionId = .ok (routes, written)) :
    (routes.map StaticRouteRow.id).Nodup ∧ ∀ row, row ∈ routes ↔ row.connectionId = connectionId ∧
      (routeMaps db).current P fresh connectionId row.id = some (routeValues row) := by
  obtain ⟨initialized, rfl⟩ := listStaticRoutes_ok.mp returned
  obtain ⟨fake, seeding⟩ := initializeStaticRoutes_ok initialized
  obtain ⟨soundSeeded, marked⟩ := seeding.sound fake.exists sound
  have here := congrFun (seeding.maps sound) connectionId
  rw [Function.update_self, routeMaps, if_pos marked] at here
  refine ⟨?_, fun row => ?_⟩
  · exact ((List.perm_insertionSort _ _).map _).nodup_iff.mpr (soundSeeded.table.filter _).keyed
  · rw [mem_byName, List.mem_filter, decide_eq_true_eq, mem_routeMap soundSeeded.table.keyed,
      Option.some.inj here]

/-! What a validated row denotes. -/

def Canonical (P : Platform Token) (row : StaticRouteRow) : Prop :=
  ∃ network address, P.ipNetwork row.destination = some network ∧ row.destination = P.strNetwork network ∧
    P.ipAddress row.nextHop = some address ∧ row.nextHop = P.strAddress address ∧
    network.version = address.version ∧ 0 ≤ row.metric.1 ∧ row.metric.1 ≤ 65535

theorem ValidRoute.canonical (laws : P.IpLaws) {row : StaticRouteRow} (valid : ValidRoute P row) :
    Canonical P row := by
  obtain ⟨payload, values, accepted, same⟩ := valid
  unfold validateStaticRoute at accepted
  split at accepted
  · simp only [bind_eq_ok, pure_eq, Except.ok.injEq] at accepted
    obtain ⟨_, -, texts, addresses, _, -, _, -, _, -, _, -, rfl⟩ := accepted
    obtain ⟨_, _, network, address, -, -, -, -, parsed, parsed', family, rfl⟩ := routeAddresses_ok.mp addresses
    have destination : row.destination = P.strNetwork network := by rw [same]; rfl
    have nextHop : row.nextHop = P.strAddress address := by rw [same]; rfl
    refine ⟨network, address, ?_, destination, ?_, nextHop, family, row.metric.2⟩
    · rw [destination, laws.parse_strNetwork _ _ parsed]
    · rw [nextHop, laws.parse_strAddress _ _ parsed']
  · cases accepted

theorem canonical_unique (laws : P.IpLaws) (sound : RoutesSound P db) {a b : StaticRouteRow}
    (left : a ∈ db.staticRoutes) (right : b ∈ db.staticRoutes) (owner : a.connectionId = b.connectionId)
    (same : P.ipNetwork a.destination = P.ipNetwork b.destination) : a = b := by
  obtain ⟨network, _, parsed, text, -⟩ := (sound.table.valid a left).canonical laws
  obtain ⟨network', _, parsed', text', -⟩ := (sound.table.valid b right).canonical laws
  have denoted : network = network' := Option.some.inj (parsed.symm.trans (same.trans parsed'))
  have clash : sameDestination a b = true := by
    rw [sameDestination, text, text', denoted, owner]
    simp
  have id := sound.table.unique a left b right clash
  have found := find_of_mem sound.table.keyed left
  rw [id, find_of_mem sound.table.keyed right] at found
  exact (Option.some.inj found).symm

/-! A seed that was deleted stays deleted. -/

def SeededWithout (connectionId id : String) (db : Db Token) : Prop :=
  connectionId ∈ db.staticRouteInitializations ∧
    ∀ row ∈ db.staticRoutes, row.connectionId = connectionId → row.id ≠ id

theorem Seeding.without {id other : String} (seeding : Seeding P fresh db other seeded)
    (absent : SeededWithout connectionId id db) : SeededWithout connectionId id seeded := by
  cases seeding with
  | already _ same => exact same ▸ absent
  | first unmarked first second _ _ _ _ same =>
      have apart : other ≠ connectionId := fun eq => unmarked (eq ▸ absent.1)
      rw [same]
      refine ⟨List.mem_append_left _ absent.1, fun row member owned => ?_⟩
      simp only [withSeeds, List.mem_append, List.mem_singleton] at member
      rcases member with (member | rfl) | rfl
      · exact absent.2 row member owned
      · exact absurd owned apart
      · exact absurd owned apart

theorem RouteAct.without {id other : String} {routes written : List StaticRouteRow}
    (act : RouteAct P fresh other routes written) (unused : fresh.id ≠ id)
    (absent : ∀ row ∈ routes, row.connectionId = connectionId → row.id ≠ id) :
    ∀ row ∈ written, row.connectionId = connectionId → row.id ≠ id := by
  cases act with
  | listed same => exact same ▸ absent
  | created payload values valid free same =>
      intro row member owned
      rw [same, List.mem_append, List.mem_singleton] at member
      rcases member with member | rfl
      · exact absent row member owned
      · exact unused
  | updated payload values before valid found owned free same =>
      intro row member mine
      rw [same, mem_replace] at member
      rcases member with ⟨member, -⟩ | ⟨_, _, _, rfl⟩
      · exact absent row member mine
      · exact absent before (find_mem found).1 (owned.trans mine)
  | deleted before found owned same =>
      intro row member mine
      rw [same, mem_remove] at member
      exact absent row member.1 mine

theorem RoutesStep.without {id : String} (step : RoutesStep P self fresh db written) (unused : fresh.id ≠ id)
    (kept : connectionId ∈ written.staticRouteInitializations)
    (absent : SeededWithout connectionId id db) : SeededWithout connectionId id written := by
  refine ⟨kept, ?_⟩
  cases step with
  | unchanged _ routes _ =>
      rw [routes]
      exact absent.2
  | cascaded deleted returned =>
      obtain ⟨-, rfl⟩ := deleteConnection_ok.mp returned
      exact fun row member => absent.2 row (List.mem_of_mem_filter member)
  | operated other seeded operated => exact operated.act.without unused (operated.seeding.without absent).2

/-- Only the deletion of a connection forgets that it was seeded. -/
theorem Reference.step_seeded {held : Reference} (call : Call) (seededBefore : held connectionId ≠ none)
    (kept : call.op ≠ .delete "connections" connectionId) : held.step P call connectionId ≠ none := by
  have updated : ∀ other map, Function.update held other (some map) connectionId ≠ none := by
    intro other map
    by_cases same : connectionId = other
    · rw [same, Function.update_self]
      nofun
    · rwa [Function.update_of_ne same]
  rcases call with ⟨self, fresh, op⟩
  cases op with
  | listStaticRoutes | createStaticRoute | createStaticRouteAudited | updateStaticRoute
  | updateStaticRouteAudited | deleteStaticRoute | deleteStaticRouteAudited => exact updated _ _
  | delete resource deleted =>
      show (if resource = "connections" then Function.update held deleted none else held) connectionId ≠ none
      split
      · rename_i named
        have apart : connectionId ≠ deleted := fun same => kept (by rw [named, same])
        rwa [Function.update_of_ne apart]
      · exact seededBefore
  | _ => exact seededBefore

theorem routeMaps_ne_none : routeMaps db connectionId ≠ none ↔ connectionId ∈ db.staticRouteInitializations := by
  unfold routeMaps
  split <;> simp_all

theorem after_without {id : String} (call : Call) (sound : RoutesSound P db) (unused : call.fresh.id ≠ id)
    (kept : call.op ≠ .delete "connections" connectionId) (absent : SeededWithout connectionId id db) :
    SeededWithout connectionId id (after P call db) := by
  refine (after_change P call db).routesStep.without unused ?_ absent
  rw [← routeMaps_ne_none, after_maps call sound]
  split
  · exact Reference.step_seeded call (routeMaps_ne_none.mpr absent.1) kept
  · exact routeMaps_ne_none.mpr absent.1

theorem run_without {id : String} (calls : List Call) (sound : RoutesSound P db)
    (others : ∀ call ∈ calls, call.fresh.id ≠ id ∧ call.op ≠ .delete "connections" connectionId)
    (absent : SeededWithout connectionId id db) : SeededWithout connectionId id (run (after P) db calls) := by
  induction calls generalizing db with
  | nil => exact absent
  | cons call calls ih =>
      obtain ⟨unused, kept⟩ := others call List.mem_cons_self
      exact ih (routesStep_sound (after_change P call db).routesStep sound)
        (fun later member => others later (List.mem_cons_of_mem call member))
        (after_without call sound unused kept absent)

/-! An operation that names another connection's route. -/

def Op.Names (connectionId routeId : String) : Op → Prop
  | .updateStaticRoute c r _ | .updateStaticRouteAudited c r _ _
  | .deleteStaticRoute c r | .deleteStaticRouteAudited c r _ => c = connectionId ∧ r = routeId
  | _ => False

theorem Seeding.find {id : String} {row : StaticRouteRow} (seeding : Seeding P fresh db connectionId seeded)
    (found : find StaticRouteRow.id db.staticRoutes id = some row) :
    Library.Table.find StaticRouteRow.id seeded.staticRoutes id = some row := by
  cases seeding with
  | already _ same => rwa [same]
  | first _ _ _ _ _ _ _ same =>
      rw [same, withSeeds, find_append_new, find_append_new, found]
      rfl

theorem ownedStaticRoute_foreign {row : StaticRouteRow}
    (found : find StaticRouteRow.id db.staticRoutes row.id = some row) (foreign : row.connectionId ≠ connectionId) :
    ownedStaticRoute db connectionId row.id = .error notFound := by
  have differs : (row.connectionId != connectionId) = true := bne_iff_ne.mpr foreign
  rw [ownedStaticRoute, found]
  simp [Store.row, differs]

theorem writing_raises {α : Type} (reply : α → Reply) {body : Except PyError (α × Db Token)} {error : PyError}
    (open_ : self.closed = false) (failed : body = .error error) :
    writing reply (transaction self db body) = (.error (translate error), db) := by
  rw [failed]
  simp [writing, transaction, open_, Except.map]

theorem names_raises {op : Op} {routeId : String} (names : op.Names connectionId routeId) {error : PyError}
    (open_ : self.closed = false)
    (updates : ∀ payload, updateStaticRouteRow P self db fresh connectionId routeId payload = .error error)
    (deletes : deleteStaticRouteRow P self db fresh connectionId routeId = .error error) :
    perform P ⟨self, fresh, op⟩ db = (.error (translate error), db) := by
  cases op with
  | updateStaticRoute _ _ payload =>
      obtain ⟨rfl, rfl⟩ := names
      exact writing_raises _ open_ (updates payload)
  | deleteStaticRoute =>
      obtain ⟨rfl, rfl⟩ := names
      exact writing_raises _ open_ deletes
  | updateStaticRouteAudited _ _ payload audit =>
      obtain ⟨rfl, rfl⟩ := names
      refine writing_raises _ open_ ?_
      rw [updateAudited, updates, error_bind]
  | deleteStaticRouteAudited _ _ audit =>
      obtain ⟨rfl, rfl⟩ := names
      refine writing_raises _ open_ ?_
      rw [deleteAudited, deletes, error_bind]
  | _ => exact names.elim

theorem names_closed {op : Op} {routeId : String} (names : op.Names connectionId routeId) (closed : self.closed = true) :
    perform P ⟨self, fresh, op⟩ db = (.error closedError, db) := by
  have raises : ∀ {α : Type} (reply : α → Reply) (body : Except PyError (α × Db Token)),
      writing reply (transaction self db body) = (.error closedError, db) := by
    intro α reply body
    simp [writing, transaction, closed, Except.map]
  cases op with
  | updateStaticRoute | deleteStaticRoute | updateStaticRouteAudited | deleteStaticRouteAudited => exact raises _ _
  | _ => exact names.elim

theorem foreign_route {row : StaticRouteRow} (sound : RoutesSound P db) (member : row ∈ db.staticRoutes)
    (foreign : row.connectionId ≠ connectionId) (open_ : self.closed = false)
    (initialized : initializeStaticRoutes P self db fresh connectionId = .ok seeded) {op : Op}
    (names : op.Names connectionId row.id) : perform P ⟨self, fresh, op⟩ db = (.error notFound, db) := by
  have found := (initializeStaticRoutes_ok initialized).2.find (find_of_mem sound.table.keyed member)
  have refused := ownedStaticRoute_foreign found foreign
  change _ = (Except.error (translate notFound), db)
  apply names_raises names open_
  · intro payload
    simp only [updateStaticRouteRow, initialized, refused, ok_bind, error_bind]
  · simp only [deleteStaticRouteRow, initialized, refused, ok_bind, error_bind]

/-- An operation that names another connection's route changes nothing, also where the named connection
is no simulated one. -/
theorem foreign_fails {row : StaticRouteRow} (sound : RoutesSound P db) (member : row ∈ db.staticRoutes)
    (foreign : row.connectionId ≠ connectionId) {op : Op} (names : op.Names connectionId row.id) :
    ∃ error, perform P ⟨self, fresh, op⟩ db = (.error error, db) := by
  cases open_ : self.closed with
  | true => exact ⟨closedError, names_closed names open_⟩
  | false =>
      cases initialized : initializeStaticRoutes P self db fresh connectionId with
      | ok seeded => exact ⟨notFound, foreign_route sound member foreign open_ initialized names⟩
      | error error =>
          refine ⟨translate error, names_raises names open_ ?_ ?_⟩
          · intro payload
            simp only [updateStaticRouteRow, initialized, error_bind]
          · simp only [deleteStaticRouteRow, initialized, error_bind]

/-! Seeding an existing simulated connection. -/

/-- `ipaddress` reads the prefixes of the seeds as two. -/
def SeedsRead (P : Platform Token) : Prop :=
  ∃ first second, validateStaticRoute P seedRoute4 = .ok first ∧ validateStaticRoute P seedRoute6 = .ok second ∧
    first.destination ≠ second.destination

/-- `uuid4` has drawn two ids for the seeds that no route has. -/
def NewSeedIds (fresh : Fresh) (db : Db Token) : Prop :=
  fresh.seedIds.1 ≠ fresh.seedIds.2 ∧
    ∀ row ∈ db.staticRoutes, row.id ≠ fresh.seedIds.1 ∧ row.id ≠ fresh.seedIds.2

theorem seedStaticRoutes_new (read : SeedsRead P) (sound : RoutesSound P db) (new : NewSeedIds fresh db)
    (unmarked : connectionId ∉ db.staticRouteInitializations) :
    ∃ seeded, seedStaticRoutes P db fresh connectionId = .ok seeded := by
  obtain ⟨first, second, valid4, valid6, apart⟩ := read
  have unowned : ∀ held ∈ db.staticRoutes, held.connectionId ≠ connectionId := by
    intro held member same
    exact unmarked (same ▸ sound.marked held member)
  have free : ∀ values : RouteValues, ∀ id, (∀ held ∈ db.staticRoutes, held.id ≠ id) →
      Admits db.staticRoutes (values.row id connectionId) := by
    intro values id unused held member
    exact ⟨unused held member, by simp [sameDestination, RouteValues.row, unowned held member]⟩
  have free4 := free first fresh.seedIds.1 (fun held member => (new.2 held member).1)
  have free6 : Admits (db.staticRoutes ++ [first.row fresh.seedIds.1 connectionId])
      (second.row fresh.seedIds.2 connectionId) := by
    intro held member
    rcases List.mem_append.mp member with before | added
    · exact free second fresh.seedIds.2 (fun held member => (new.2 held member).2) held before
    · rw [List.mem_singleton.mp added]
      exact ⟨new.1, by simp [sameDestination, RouteValues.row, apart]⟩
  refine ⟨withSeeds db fresh connectionId first second, ?_⟩
  simp only [seedStaticRoutes, valid4, valid6, insertRoute_ok.mpr ⟨free4, rfl⟩, insertRoute_ok.mpr ⟨free6, rfl⟩,
    ok_bind, pure_eq, withSeeds]

theorem initializeStaticRoutes_fake (read : SeedsRead P) (sound : RoutesSound P db)
    (fake : FakeConnection P self db connectionId)
    (ready : connectionId ∈ db.staticRouteInitializations ∨ NewSeedIds fresh db) :
    ∃ seeded, initializeStaticRoutes P self db fresh connectionId = .ok seeded := by
  obtain ⟨connection, profile, found, decoded, client⟩ := fake
  by_cases marked : connectionId ∈ db.staticRouteInitializations
  · exact ⟨db, by simp [initializeStaticRoutes, found, Store.row, decoded, client, marked]⟩
  · obtain ⟨seeded, written⟩ := seedStaticRoutes_new read sound (ready.resolve_left marked) marked
    exact ⟨seeded, by simp [initializeStaticRoutes, found, Store.row, decoded, client, marked, written]⟩

/-- The routes of a database behave as one map per connection. -/
structure RefinesMaps (P : Platform Token) (db : Db Token) (maps : Reference) : Prop where
  listed : ∀ self fresh connectionId routes,
    (perform P ⟨self, fresh, .listStaticRoutes connectionId⟩ db).1 = .ok (.routes routes) →
      (routes.map StaticRouteRow.id).Nodup ∧ ∀ row, row ∈ routes ↔ row.connectionId = connectionId ∧
        maps.current P fresh connectionId row.id = some (routeValues row)
  answered : ∀ self fresh connectionId, self.closed = false → FakeConnection P self db connectionId →
    (maps connectionId ≠ none ∨ NewSeedIds fresh db) → ∃ routes,
      (perform P ⟨self, fresh, .listStaticRoutes connectionId⟩ db).1 = .ok (.routes routes)
  distinct : ∀ a ∈ db.staticRoutes, ∀ b ∈ db.staticRoutes, a.connectionId = b.connectionId →
    P.ipNetwork a.destination = P.ipNetwork b.destination → a = b
  canonical : ∀ row ∈ db.staticRoutes, Canonical P row
  deleted : ∀ connectionId id later, maps connectionId ≠ none →
    (∀ row ∈ db.staticRoutes, row.connectionId = connectionId → row.id ≠ id) →
    (∀ call ∈ later, call.fresh.id ≠ id ∧ call.op ≠ .delete "connections" connectionId) →
    ∀ row ∈ (run (after P) db later).staticRoutes, row.connectionId = connectionId → row.id ≠ id
  foreign : ∀ row ∈ db.staticRoutes, ∀ self fresh connectionId op, row.connectionId ≠ connectionId →
    op.Names connectionId row.id →
      (∃ error, perform P ⟨self, fresh, op⟩ db = (.error error, db)) ∧
      (self.closed = false → FakeConnection P self db connectionId → (maps connectionId ≠ none ∨ NewSeedIds fresh db) →
        perform P ⟨self, fresh, op⟩ db = (.error notFound, db))

theorem listed_ok {reply : Reply}
    (returned : (perform P ⟨self, fresh, .listStaticRoutes connectionId⟩ db).1 = .ok reply) :
    self.closed = false ∧ ∃ routes seeded, reply = .routes routes ∧
      listStaticRoutes P self db fresh connectionId = .ok (routes, seeded) := by
  have outcome : (writing Reply.routes
      (transaction self db (listStaticRoutes P self db fresh connectionId))).1 = .ok reply := returned
  unfold writing transaction at outcome
  cases open_ : self.closed with
  | true => simp [open_, Except.map] at outcome
  | false =>
      cases body : listStaticRoutes P self db fresh connectionId with
      | error error => simp [open_, body, Except.map] at outcome
      | ok listed =>
          obtain ⟨routes, seeded⟩ := listed
          simp only [open_, body, Except.map, Bool.false_eq_true, if_false, Except.ok.injEq] at outcome
          exact ⟨rfl, routes, seeded, outcome.symm, rfl⟩

theorem fake_lists (read : SeedsRead P) (sound : RoutesSound P db) (open_ : self.closed = false)
    (fake : FakeConnection P self db connectionId)
    (ready : connectionId ∈ db.staticRouteInitializations ∨ NewSeedIds fresh db) : ∃ routes,
      (perform P ⟨self, fresh, .listStaticRoutes connectionId⟩ db).1 = .ok (.routes routes) := by
  obtain ⟨seeded, initialized⟩ := initializeStaticRoutes_fake read sound fake ready
  refine ⟨byName StaticRouteRow.destination StaticRouteRow.id
    (seeded.staticRoutes.filter (fun route => route.connectionId = connectionId)), ?_⟩
  show (writing Reply.routes (transaction self db (listStaticRoutes P self db fresh connectionId))).1 = _
  simp only [writing, transaction, open_, listStaticRoutes, initialized, ok_bind, pure_eq, Except.map,
    Bool.false_eq_true, if_false]

theorem route_store_refines_maps (laws : P.IpLaws) (read : SeedsRead P) (calls : List Call) :
    RefinesMaps P (run (after P) Db.empty calls) (Reference.follow P Db.empty (fun _ => none) calls) := by
  have sound : RoutesSound P (run (after P) Db.empty calls) := run_routesSound calls
  rw [← routeMaps_empty, ← run_maps calls routesSound_empty]
  refine ⟨?_, ?_, ?_, ?_, ?_, ?_⟩
  · intro self fresh connectionId routes returned
    obtain ⟨-, _, seeded, same, listed⟩ := listed_ok returned
    obtain rfl := Reply.routes.inj same
    exact listStaticRoutes_maps sound listed
  · intro self fresh connectionId open_ fake ready
    exact fake_lists read sound open_ fake (ready.imp_left routeMaps_ne_none.mp)
  · intro a left b right
    exact canonical_unique laws sound left right
  · intro row member
    exact (sound.table.valid row member).canonical laws
  · intro connectionId id later seeded absent others
    exact (run_without later sound others ⟨routeMaps_ne_none.mp seeded, absent⟩).2
  · intro row member self fresh connectionId op foreign names
    refine ⟨foreign_fails sound member foreign names, ?_⟩
    intro open_ fake ready
    obtain ⟨seeded, initialized⟩ := initializeStaticRoutes_fake read sound fake (ready.imp_left routeMaps_ne_none.mp)
    exact foreign_route sound member foreign open_ initialized names

def deletedSeed : List Call :=
  [⟨Bench.store, Bench.fresh "device", .save "connections" Bench.fakeDevice none⟩,
   ⟨Bench.store, Bench.fresh "", .listStaticRoutes "device"⟩,
   ⟨Bench.store, Bench.fresh "", .deleteStaticRoute "device" "seed4"⟩]

theorem bench_seedsRead : SeedsRead Platform.bench := ⟨_, _, rfl, rfl, by decide⟩

theorem route_store_refines_maps_deletedSeed :
    (run (after Platform.bench) Db.empty deletedSeed).staticRoutes.map StaticRouteRow.id = ["seed6"] ∧
    ∀ row ∈ (run (after Platform.bench) (run (after Platform.bench) Db.empty deletedSeed)
      [⟨Bench.store, Bench.fresh "other", .listStaticRoutes "device"⟩]).staticRoutes,
      row.connectionId = "device" → row.id ≠ "seed4" := by
  refine ⟨rfl, (route_store_refines_maps Platform.bench_ipLaws bench_seedsRead deletedSeed).deleted "device" "seed4" _
    ?_ ?_ ?_⟩
  · nofun
  · decide
  · intro call member
    obtain rfl := List.mem_singleton.mp member
    exact ⟨by decide, nofun⟩

/-- A simulated device with its seed routes, beside a device of the network. -/
def besideNetwork : List Call :=
  [⟨Bench.store, Bench.fresh "device", .save "connections" Bench.fakeDevice none⟩,
   ⟨Bench.store, Bench.fresh "", .listStaticRoutes "device"⟩,
   ⟨Bench.store, Bench.fresh "plain", .save "connections" (.dict
     [("name", .str "plain"), ("host", .str "192.0.2.1"), ("port", .int 22), ("protocol", .str "ssh"),
      ("username", .str "ops"), ("password", .str "hunter2")]) none⟩]

/-- The store looks at the connection before it looks the route up. -/
theorem foreign_route_on_network :
    ∃ row ∈ (run (after Platform.bench) Db.empty besideNetwork).staticRoutes, row.connectionId ≠ "plain" ∧
      perform Platform.bench ⟨Bench.store, Bench.fresh "", .deleteStaticRoute "plain" row.id⟩
          (run (after Platform.bench) Db.empty besideNetwork) =
        (.error (.store "Static-route simulation requires a fake connection." 501),
          run (after Platform.bench) Db.empty besideNetwork) := by
  refine ⟨⟨"seed4", "device", "198.51.100.0/24", "192.0.2.1", some .eth0, ⟨10, by decide⟩, "Simulated documentation route", true⟩,
    ?_, ?_, ?_⟩
  · decide +kernel
  · decide
  · rfl

end

end NetworkGateway.Store
