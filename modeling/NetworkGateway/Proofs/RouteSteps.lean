import NetworkGateway.Dal.Store

/-! What a returned static-route operation has checked and written. -/

namespace NetworkGateway.Store

open Library.Dict Library.Result Library.Table

def Admits (routes : List StaticRouteRow) (route : StaticRouteRow) : Prop :=
  ∀ held ∈ routes, held.id ≠ route.id ∧ sameDestination held route = false

theorem insertRoute_ok {routes stored : List StaticRouteRow} {route : StaticRouteRow} :
    insertRoute routes route = .ok stored ↔ Admits routes route ∧ stored = routes ++ [route] := by
  unfold insertRoute Admits
  split
  · rename_i clash
    simp only [List.any_eq_true, Bool.or_eq_true, beq_iff_eq] at clash
    obtain ⟨held, member, clash⟩ := clash
    simp only [reduceCtorEq, false_iff, not_and]
    intro admitted
    rcases clash with same | same
    · exact absurd same (admitted held member).1
    · rw [(admitted held member).2] at same
      cases same
  · rename_i free
    simp only [List.any_eq_true, Bool.or_eq_true, beq_iff_eq, not_exists, not_and, not_or,
      Bool.not_eq_true] at free
    rw [Except.ok.injEq, eq_comm]
    exact ⟨fun same => ⟨free, same⟩, And.right⟩

theorem updateRoute_ok {routes stored : List StaticRouteRow} {route : StaticRouteRow} :
    updateRoute routes route = .ok stored ↔
      (∀ held ∈ routes, held.id ≠ route.id → sameDestination held route = false) ∧
        stored = replace StaticRouteRow.id routes route.id (fun _ => route) := by
  unfold updateRoute
  split
  · rename_i clash
    simp only [List.any_eq_true, Bool.and_eq_true, bne_iff_ne] at clash
    obtain ⟨held, member, differs, same⟩ := clash
    simp only [reduceCtorEq, false_iff, not_and]
    intro admitted
    rw [admitted held member differs] at same
    cases same
  · rename_i free
    simp only [List.any_eq_true, Bool.and_eq_true, bne_iff_ne, not_exists, not_and,
      Bool.not_eq_true] at free
    rw [Except.ok.injEq, eq_comm]
    exact ⟨fun same => ⟨free, same⟩, And.right⟩

section

variable {Token : Type} {P : Platform Token} {self : GatewayStore} {fresh : Fresh}
  {db written : Db Token} {connectionId routeId : String} {payload : Value}

def withSeeds (db : Db Token) (fresh : Fresh) (connectionId : String) (first second : RouteValues) :
    Db Token :=
  { db with
    staticRouteInitializations := db.staticRouteInitializations ++ [connectionId]
    staticRoutes := db.staticRoutes ++ [first.row fresh.seedIds.1 connectionId] ++
      [second.row fresh.seedIds.2 connectionId] }

/-- What `_initialize_static_routes` leaves: nothing new, or the seeds. -/
inductive Seeding (P : Platform Token) (fresh : Fresh) (db : Db Token) (connectionId : String)
    (seeded : Db Token) : Prop where
  | already (marked : connectionId ∈ db.staticRouteInitializations) (same : seeded = db)
  | first (unmarked : connectionId ∉ db.staticRouteInitializations) (first second : RouteValues)
      (valid4 : validateStaticRoute P seedRoute4 = .ok first)
      (valid6 : validateStaticRoute P seedRoute6 = .ok second)
      (free4 : Admits db.staticRoutes (first.row fresh.seedIds.1 connectionId))
      (free6 : Admits (db.staticRoutes ++ [first.row fresh.seedIds.1 connectionId])
        (second.row fresh.seedIds.2 connectionId))
      (same : seeded = withSeeds db fresh connectionId first second)

def FakeConnection (P : Platform Token) (self : GatewayStore) (db : Db Token) (connectionId : String) :
    Prop :=
  ∃ connection profile, find ConnectionRow.id db.connections connectionId = some connection ∧
    storedProfile P self connection.columns connection.configuration connection.secrets = .ok profile ∧
    Dict.getOr profile "client_type" (.str "network") = .str "fake"

theorem initializeStaticRoutes_ok
    (returned : initializeStaticRoutes P self db fresh connectionId = .ok written) :
    FakeConnection P self db connectionId ∧ Seeding P fresh db connectionId written := by
  simp only [initializeStaticRoutes, bind_eq_ok, row_ok, raiseWhen_ok, exists_const,
    bne_eq_false_iff_eq] at returned
  obtain ⟨connection, found, profile, decoded, fake, returned⟩ := returned
  refine ⟨⟨connection, profile, found, decoded, fake⟩, ?_⟩
  split at returned
  · rename_i marked
    exact .already (by simpa using marked) (Except.ok.inj returned).symm
  · rename_i unmarked
    simp only [seedStaticRoutes, bind_eq_ok, insertRoute_ok, pure_eq, Except.ok.injEq] at returned
    obtain ⟨first, valid4, _, ⟨free4, rfl⟩, second, valid6, _, ⟨free6, rfl⟩, rfl⟩ := returned
    exact .first (by simpa using unmarked) first second valid4 valid6 free4 free6 rfl

theorem ownedStaticRoute_ok {route : StaticRouteRow} :
    ownedStaticRoute db connectionId routeId = .ok route ↔
      find StaticRouteRow.id db.staticRoutes routeId = some route ∧ route.connectionId = connectionId := by
  simp only [ownedStaticRoute, bind_eq_ok, row_ok, raiseWhen_ok, pure_eq, Except.ok.injEq, exists_const,
    bne_eq_false_iff_eq]
  constructor
  · rintro ⟨_, found, owned, rfl⟩
    exact ⟨found, owned⟩
  · rintro ⟨found, owned⟩
    exact ⟨route, found, owned, rfl⟩

theorem listStaticRoutes_ok {routes : List StaticRouteRow} :
    listStaticRoutes P self db fresh connectionId = .ok (routes, written) ↔
      initializeStaticRoutes P self db fresh connectionId = .ok written ∧
        routes = byName StaticRouteRow.destination StaticRouteRow.id
          (written.staticRoutes.filter (fun route => route.connectionId = connectionId)) := by
  simp only [listStaticRoutes, bind_eq_ok, pure_eq, Except.ok.injEq, Prod.mk.injEq]
  constructor
  · rintro ⟨_, seeded, rfl, rfl⟩
    exact ⟨seeded, rfl⟩
  · rintro ⟨seeded, rfl⟩
    exact ⟨written, seeded, rfl, rfl⟩

theorem createStaticRouteRow_ok {route : StaticRouteRow} :
    createStaticRouteRow P self db fresh connectionId payload = .ok (route, written) ↔
      ∃ seeded values, initializeStaticRoutes P self db fresh connectionId = .ok seeded ∧
        validateStaticRoute P payload = .ok values ∧ route = values.row fresh.id connectionId ∧
        Admits seeded.staticRoutes route ∧
        written = { seeded with staticRoutes := seeded.staticRoutes ++ [route] } := by
  simp only [createStaticRouteRow, bind_eq_ok, insertRoute_ok, pure_eq, Except.ok.injEq, Prod.mk.injEq]
  constructor
  · rintro ⟨seeded, initialized, values, valid, _, ⟨free, rfl⟩, rfl, rfl⟩
    exact ⟨seeded, values, initialized, valid, rfl, free, rfl⟩
  · rintro ⟨seeded, values, initialized, valid, rfl, free, rfl⟩
    exact ⟨seeded, initialized, values, valid, _, ⟨free, rfl⟩, rfl, rfl⟩

theorem updateStaticRouteRow_ok {before after : StaticRouteRow} :
    updateStaticRouteRow P self db fresh connectionId routeId payload = .ok ((before, after), written) ↔
      ∃ seeded values, initializeStaticRoutes P self db fresh connectionId = .ok seeded ∧
        find StaticRouteRow.id seeded.staticRoutes routeId = some before ∧
        before.connectionId = connectionId ∧ validateStaticRoute P payload = .ok values ∧
        after = values.row before.id before.connectionId ∧
        (∀ held ∈ seeded.staticRoutes, held.id ≠ after.id → sameDestination held after = false) ∧
        written = { seeded with
          staticRoutes := replace StaticRouteRow.id seeded.staticRoutes after.id (fun _ => after) } := by
  simp only [updateStaticRouteRow, bind_eq_ok, ownedStaticRoute_ok, updateRoute_ok, pure_eq,
    Except.ok.injEq, Prod.mk.injEq]
  constructor
  · rintro ⟨seeded, initialized, _, ⟨found, owned⟩, values, valid, _, ⟨free, rfl⟩, ⟨rfl, rfl⟩, rfl⟩
    exact ⟨seeded, values, initialized, found, owned, valid, rfl, free, rfl⟩
  · rintro ⟨seeded, values, initialized, found, owned, valid, rfl, free, rfl⟩
    exact ⟨seeded, initialized, before, ⟨found, owned⟩, values, valid, _, ⟨free, rfl⟩, ⟨rfl, rfl⟩, rfl⟩

theorem deleteStaticRouteRow_ok {before : StaticRouteRow} :
    deleteStaticRouteRow P self db fresh connectionId routeId = .ok (before, written) ↔
      ∃ seeded, initializeStaticRoutes P self db fresh connectionId = .ok seeded ∧
        find StaticRouteRow.id seeded.staticRoutes routeId = some before ∧
        before.connectionId = connectionId ∧
        written = { seeded with
          staticRoutes := remove StaticRouteRow.id seeded.staticRoutes routeId } := by
  simp only [deleteStaticRouteRow, bind_eq_ok, ownedStaticRoute_ok, pure_eq, Except.ok.injEq,
    Prod.mk.injEq]
  constructor
  · rintro ⟨seeded, initialized, _, ⟨found, owned⟩, rfl, rfl⟩
    exact ⟨seeded, initialized, found, owned, rfl⟩
  · rintro ⟨seeded, initialized, found, owned, rfl⟩
    exact ⟨seeded, initialized, before, ⟨found, owned⟩, rfl, rfl⟩

/-! The audit insert. -/

theorem insertTransaction_ok {record : TransactionRow} :
    insertTransaction db fresh payload = .ok (record, written) ↔
      validateTransaction fresh payload = .ok record ∧ auditInsert fresh = .ok () ∧
        (∀ held ∈ db.transactions, held.id ≠ record.id) ∧
        written = { db with transactions := db.transactions ++ [record] } := by
  simp only [insertTransaction, bind_eq_ok, raiseWhen_ok, pure_eq, Except.ok.injEq, Prod.mk.injEq,
    exists_const, List.any_eq_false, beq_iff_eq]
  constructor
  · rintro ⟨_, valid, _, inserted, unused, rfl, rfl⟩
    exact ⟨valid, inserted, unused, rfl⟩
  · rintro ⟨valid, inserted, unused, rfl⟩
    exact ⟨record, valid, (), inserted, unused, rfl, rfl⟩

/-- The record an audited mutation appends to the log it found. -/
def Audited (fresh : Fresh) (audit : Value) (resourceId connectionId : String) (before after : Value)
    (mutated written : Db Token) (record : TransactionRow) : Prop :=
  ∃ payload, auditPayload audit resourceId connectionId before after = .ok payload ∧
    insertTransaction mutated fresh payload = .ok (record, written)

theorem createAudited_ok {audit : Value} {route : StaticRouteRow} :
    createAudited P self db fresh connectionId payload audit = .ok (route, written) ↔
      ∃ mutated record, createStaticRouteRow P self db fresh connectionId payload = .ok (route, mutated) ∧
        Audited fresh audit route.id connectionId .none (.dict route.columns) mutated written record := by
  simp only [createAudited, Audited, bind_eq_ok, pure_eq, Except.ok.injEq, Prod.mk.injEq, Prod.exists]
  constructor
  · rintro ⟨_, mutated, created, payload, built, record, _, inserted, rfl, rfl⟩
    exact ⟨mutated, record, created, payload, built, inserted⟩
  · rintro ⟨mutated, record, created, payload, built, inserted⟩
    exact ⟨route, mutated, created, payload, built, record, written, inserted, rfl, rfl⟩

theorem updateAudited_ok {audit : Value} {after : StaticRouteRow} :
    updateAudited P self db fresh connectionId routeId payload audit = .ok (after, written) ↔
      ∃ before mutated record,
        updateStaticRouteRow P self db fresh connectionId routeId payload = .ok ((before, after), mutated) ∧
        Audited fresh audit routeId connectionId (.dict before.columns) (.dict after.columns)
          mutated written record := by
  simp only [updateAudited, Audited, bind_eq_ok, pure_eq, Except.ok.injEq, Prod.mk.injEq, Prod.exists]
  constructor
  · rintro ⟨before, _, mutated, updated, payload, built, record, _, inserted, rfl, rfl⟩
    exact ⟨before, mutated, record, updated, payload, built, inserted⟩
  · rintro ⟨before, mutated, record, updated, payload, built, inserted⟩
    exact ⟨before, after, mutated, updated, payload, built, record, written, inserted, rfl, rfl⟩

theorem deleteAudited_ok {audit : Value} {u : Unit} :
    deleteAudited P self db fresh connectionId routeId audit = .ok (u, written) ↔
      ∃ before mutated record,
        deleteStaticRouteRow P self db fresh connectionId routeId = .ok (before, mutated) ∧
        Audited fresh audit routeId connectionId (.dict before.columns) .none mutated written record := by
  simp only [deleteAudited, Audited, bind_eq_ok, pure_eq, Except.ok.injEq, Prod.mk.injEq, Prod.exists,
    true_and]
  constructor
  · rintro ⟨before, mutated, deleted, payload, built, record, _, inserted, rfl⟩
    exact ⟨before, mutated, record, deleted, payload, built, inserted⟩
  · rintro ⟨before, mutated, record, deleted, payload, built, inserted⟩
    exact ⟨before, mutated, deleted, payload, built, record, written, inserted, rfl⟩

end

end NetworkGateway.Store
