import NetworkGateway.Proofs.RouteHistory

/-! Audited route mutations commit with their record or not at all. -/

namespace NetworkGateway.Store

open Library.Dict Library.Result Library.Run Library.Table

section

variable {Token : Type} {P : Platform Token} {self : GatewayStore} {fresh : Fresh}
  {db seeded mutated written : Db Token} {connectionId : String}

/-! What a validated record holds. -/

theorem optionalText_str {s label : String} {limit : Nat} {read : Option String}
    (accepted : optionalText (.str s) label limit = .ok read) : read = some s := by
  unfold optionalText text at accepted
  have present : Value.str s ≠ .none := by simp
  rw [if_neg present] at accepted
  simp only [bind_eq_ok, pure_eq, Except.ok.injEq] at accepted
  obtain ⟨kept, accepted, rfl⟩ := accepted
  split at accepted
  · cases accepted
  · rw [if_neg Bool.false_ne_true] at accepted
    rw [Except.ok.inj accepted]

theorem auditState_ok {value read : Value} {label : String} (accepted : auditState value label = .ok read) :
    read = value := by
  unfold auditState at accepted
  split at accepted
  · exact (Except.ok.inj accepted).symm
  · exact (Except.ok.inj accepted).symm
  · exact (Except.ok.inj accepted).symm
  · cases accepted

theorem validateTransaction_ok {payload : Dict} {record : TransactionRow}
    (valid : validateTransaction fresh (.dict payload) = .ok record) :
    record.id = fresh.recordId ∧
      optionalText (Dict.get payload "resource_id") "resource_id" 64 = .ok record.resourceId ∧
      outcome (Dict.get payload "outcome") = .ok record.outcome ∧
      (∃ state, auditState (Dict.get payload "before_state") "before_state" = .ok state ∧
        record.beforeState = redactRecursive state) ∧
      ∃ state, auditState (Dict.get payload "after_state") "after_state" = .ok state ∧
        record.afterState = redactRecursive state := by
  simp only [validateTransaction, bind_eq_ok, pure_eq, Except.ok.injEq] at valid
  obtain ⟨_, -, _, -, _, -, _, -, _, -, _, -, _, -, _, -, _, -, _, resourceId, _, -, _, result, before,
    beforeState, after, afterState, _, -, _, -, _, -, rfl⟩ := valid
  exact ⟨rfl, resourceId, result, ⟨before, beforeState, rfl⟩, after, afterState, rfl⟩

theorem validateTransaction_stamp {payload : Value} {record : TransactionRow}
    (valid : validateTransaction fresh payload = .ok record) : record.timestampUtc = fresh.now.format := by
  unfold validateTransaction at valid
  split at valid
  · simp only [bind_eq_ok, pure_eq, Except.ok.injEq] at valid
    rcases valid with ⟨_, -, _, -, _, -, _, -, _, -, _, -, _, -, _, -, _, -, _, -, _, -, _, -, _, -, _, -, _, -,
      _, -, _, -, rfl⟩
    rfl
  · cases valid

/-- The fields an audited call fills in override the caller's. -/
theorem audited_record {audit before after : Value} {resourceId : String} {record : TransactionRow}
    (audited : Audited fresh audit resourceId connectionId before after mutated written record) :
    written = { mutated with transactions := mutated.transactions ++ [record] } ∧
      record.outcome = .succeeded ∧ record.resourceId = some resourceId ∧
      record.beforeState = redactRecursive before ∧ record.afterState = redactRecursive after := by
  obtain ⟨payload, built, inserted⟩ := audited
  simp only [auditPayload, bind_eq_ok, asDict_ok, pure_eq, Except.ok.injEq] at built
  obtain ⟨entries, -, rfl⟩ := built
  obtain ⟨valid, -, -, same⟩ := insertTransaction_ok.mp inserted
  obtain ⟨-, resource, result, ⟨_, beforeState, beforeSame⟩, _, afterState, afterSame⟩ :=
    validateTransaction_ok valid
  simp only [Dict.get_eq, lookup_merge] at resource result beforeState afterState
  refine ⟨same, ?_, optionalText_str resource, ?_, ?_⟩
  · exact (Except.ok.inj result).symm
  · rw [beforeSame, auditState_ok beforeState]
    rfl
  · rw [afterSame, auditState_ok afterState]
    rfl

/-! The log over runs. -/

theorem Seeding.transactions (seeding : Seeding P fresh db connectionId seeded) :
    seeded.transactions = db.transactions := by
  cases seeding with
  | already _ same => rw [same]
  | first _ _ _ _ _ _ _ same => rw [same]; rfl

theorem createStaticRouteRow_log {payload : Value} {route : StaticRouteRow}
    (returned : createStaticRouteRow P self db fresh connectionId payload = .ok (route, written)) :
    written.transactions = db.transactions := by
  obtain ⟨_, _, initialized, _, _, _, rfl⟩ := createStaticRouteRow_ok.mp returned
  exact (initializeStaticRoutes_ok initialized).2.transactions

theorem updateStaticRouteRow_log {routeId : String} {payload : Value} {rows : StaticRouteRow × StaticRouteRow}
    (returned : updateStaticRouteRow P self db fresh connectionId routeId payload = .ok (rows, written)) :
    written.transactions = db.transactions := by
  obtain ⟨_, _, initialized, _, _, _, _, _, rfl⟩ := updateStaticRouteRow_ok.mp returned
  exact (initializeStaticRoutes_ok initialized).2.transactions

theorem deleteStaticRouteRow_log {routeId : String} {before : StaticRouteRow}
    (returned : deleteStaticRouteRow P self db fresh connectionId routeId = .ok (before, written)) :
    written.transactions = db.transactions := by
  obtain ⟨_, initialized, _, _, rfl⟩ := deleteStaticRouteRow_ok.mp returned
  exact (initializeStaticRoutes_ok initialized).2.transactions

/-- What a call leaves in the log: the records it found and at most one more,
under a new id and stamped with the call's clock reading. -/
inductive Appends (fresh : Fresh) (log later : List TransactionRow) : Prop where
  | kept (same : later = log)
  | appended (record : TransactionRow) (same : later = log ++ [record])
      (unused : ∀ held ∈ log, held.id ≠ record.id) (stamped : record.timestampUtc = fresh.now.format)

theorem Appends.grows {log later : List TransactionRow} (appends : Appends fresh log later) : log <+: later := by
  cases appends with
  | kept same =>
      cases same
      exact List.prefix_refl log
  | appended record same _ _ =>
      rw [same]
      exact List.prefix_append _ _

theorem insertTransaction_appends {payload : Value} {record : TransactionRow}
    (inserted : insertTransaction mutated fresh payload = .ok (record, written)) :
    Appends fresh mutated.transactions written.transactions := by
  rcases insertTransaction_ok.mp inserted with ⟨valid, -, unused, same⟩
  exact .appended record (by rw [same]) unused (validateTransaction_stamp valid)

theorem Audited.appends {audit before after : Value} {resourceId : String} {record : TransactionRow}
    (audited : Audited fresh audit resourceId connectionId before after mutated written record)
    (kept : mutated.transactions = db.transactions) :
    Appends fresh db.transactions written.transactions := by
  rcases audited with ⟨payload, -, inserted⟩
  rw [← kept]
  exact insertTransaction_appends inserted

theorem Change.appends (change : Change P self fresh db written) :
    Appends fresh db.transactions written.transactions := by
  cases change with
  | unchanged same => exact .kept (by rw [same])
  | recovered same => exact .kept (by rw [same])
  | configured _ _ same => exact .kept (by rw [same])
  | savedRole _ _ _ returned =>
      rcases saveRoleAccount_ok returned with ⟨_, _, _, _, _, _, _, same⟩
      exact .kept (by rw [same])
  | savedProxy _ _ _ returned =>
      rcases saveProxyResource_ok returned with ⟨_, _, _, _, _, _, _, same⟩
      exact .kept (by rw [same])
  | savedConnection _ _ _ returned =>
      rcases saveConnectionResource_ok returned with ⟨_, _, _, _, _, _, _, same⟩
      exact .kept (by rw [same])
  | deletedRole _ returned => exact .kept (by rw [(deleteRole_ok.mp returned).2.2])
  | deletedProxy _ returned => exact .kept (by rw [(deleteProxy_ok.mp returned).2.2])
  | deletedConnection _ returned => exact .kept (by rw [(deleteConnection_ok.mp returned).2])
  | listedRoutes _ _ returned =>
      exact .kept (initializeStaticRoutes_ok (listStaticRoutes_ok.mp returned).1).2.transactions
  | createdRoute _ _ _ returned => exact .kept (createStaticRouteRow_log returned)
  | updatedRoute _ _ _ _ returned => exact .kept (updateStaticRouteRow_log returned)
  | deletedRoute _ _ _ returned => exact .kept (deleteStaticRouteRow_log returned)
  | createdAudited _ _ _ _ returned =>
      rcases createAudited_ok.mp returned with ⟨_, _, created, audited⟩
      exact audited.appends (createStaticRouteRow_log created)
  | updatedAudited _ _ _ _ _ returned =>
      rcases updateAudited_ok.mp returned with ⟨_, _, _, updated, audited⟩
      exact audited.appends (updateStaticRouteRow_log updated)
  | deletedAudited _ _ _ returned =>
      rcases deleteAudited_ok.mp returned with ⟨_, _, _, deleted, audited⟩
      exact audited.appends (deleteStaticRouteRow_log deleted)
  | createdJob _ _ _ _ returned =>
      rcases createJobRow_ok.mp returned with ⟨_, -, -, -, -, same⟩
      exact .kept (by rw [same])
  | recordedResult _ _ returned =>
      rcases recordJobResultRow_ok.mp returned with ⟨_, _, _, _, _, _, -, -, -, -, -, -, -, same⟩
      exact .kept (by rw [same])
  | movedJob _ _ _ returned =>
      rcases setJobStatusRow_ok.mp returned with ⟨_, _, -, -, -, -, same⟩
      exact .kept (by rw [same])
  | appended _ _ returned => exact insertTransaction_appends returned

theorem run_log (db : Db Token) (calls : List Call) :
    db.transactions <+: (run (after P) db calls).transactions :=
  run_relation (fun db later : Db Token => db.transactions <+: later.transactions)
    (fun db => List.prefix_refl db.transactions) (fun _ _ _ => List.IsPrefix.trans)
    (fun call db => (after_change P call db).appends.grows) db calls

/-! One audited mutation. -/

inductive Mutation where
  | create (payload : Value)
  | update (routeId : String) (payload : Value)
  | delete (routeId : String)

def Mutation.op (connectionId : String) (audit : Value) : Mutation → Op
  | .create payload => .createStaticRouteAudited connectionId payload audit
  | .update routeId payload => .updateStaticRouteAudited connectionId routeId payload audit
  | .delete routeId => .deleteStaticRouteAudited connectionId routeId audit

def Mutation.Rows (before after : Option StaticRouteRow) : Mutation → Prop
  | .create _ => before = none ∧ after.isSome
  | .update routeId _ => before.map StaticRouteRow.id = some routeId ∧
      after.map StaticRouteRow.id = some routeId
  | .delete routeId => before.map StaticRouteRow.id = some routeId ∧ after = none

/-- The two lists differ in one row, and that row belongs to the connection. -/
structure OneRow (connectionId : String) (routes written : List StaticRouteRow)
    (before after : Option StaticRouteRow) : Prop where
  around : ∃ left right, routes = left ++ before.toList ++ right ∧ written = left ++ after.toList ++ right
  owned : ∀ row, before = some row ∨ after = some row → row.connectionId = connectionId

def rowState : Option StaticRouteRow → Value
  | none => .none
  | some row => .dict row.columns

/-- The commit of an audited mutation. -/
structure Committed (P : Platform Token) (fresh : Fresh) (connectionId : String) (mutation : Mutation)
    (db written : Db Token) (seeded : Db Token) (before after : Option StaticRouteRow)
    (record : TransactionRow) : Prop where
  seeding : Seeding P fresh db connectionId seeded
  rows : mutation.Rows before after
  one : OneRow connectionId seeded.staticRoutes written.staticRoutes before after
  rest : written = { seeded with
    staticRoutes := written.staticRoutes, transactions := db.transactions ++ [record] }
  outcome : record.outcome = .succeeded
  resourceId : record.resourceId = (before.or after).map StaticRouteRow.id
  beforeState : record.beforeState = redactRecursive (rowState before)
  afterState : record.afterState = redactRecursive (rowState after)

theorem createAudited_committed {payload audit : Value} {route : StaticRouteRow}
    (returned : createAudited P self db fresh connectionId payload audit = .ok (route, written)) :
    ∃ seeded before after record,
      Committed P fresh connectionId (.create payload) db written seeded before after record := by
  obtain ⟨mutated, record, created, audited⟩ := createAudited_ok.mp returned
  obtain ⟨rfl, succeeded, resource, beforeState, afterState⟩ := audited_record audited
  have log := createStaticRouteRow_log created
  obtain ⟨seeded, values, initialized, valid, rfl, free, rfl⟩ := createStaticRouteRow_ok.mp created
  refine ⟨seeded, none, some _, record, (initializeStaticRoutes_ok initialized).2, ⟨rfl, rfl⟩,
    ⟨⟨seeded.staticRoutes, [], by simp, by simp⟩, ?_⟩, by rw [← log], succeeded, resource, beforeState, afterState⟩
  rintro row (absent | found)
  · cases absent
  · rw [← Option.some.inj found]
    rfl

theorem updateAudited_committed {routeId : String} {payload audit : Value} {route : StaticRouteRow}
    (sound : RoutesSound P db)
    (returned : updateAudited P self db fresh connectionId routeId payload audit = .ok (route, written)) :
    ∃ seeded before after record,
      Committed P fresh connectionId (.update routeId payload) db written seeded before after record := by
  obtain ⟨before, mutated, record, updated, audited⟩ := updateAudited_ok.mp returned
  obtain ⟨rfl, succeeded, resource, beforeState, afterState⟩ := audited_record audited
  have log := updateStaticRouteRow_log updated
  obtain ⟨seeded, values, initialized, found, rfl, valid, rfl, free, rfl⟩ := updateStaticRouteRow_ok.mp updated
  obtain ⟨fake, seeding⟩ := initializeStaticRoutes_ok initialized
  obtain ⟨-, rfl⟩ := find_mem found
  obtain ⟨left, right, split, replaced, -⟩ := replace_remove_split (seeding.sound fake.exists sound).1.table.keyed
    found (fun _ => values.row before.id before.connectionId)
  refine ⟨seeded, some before, some (values.row before.id before.connectionId), record, seeding, ⟨rfl, rfl⟩,
    ⟨⟨left, right, by simpa using split, ?_⟩, ?_⟩, by rw [← log], succeeded, resource, beforeState, afterState⟩
  · rw [Option.toList_some, List.append_assoc, List.singleton_append]
    exact replaced
  · rintro row (held | held)
    · rw [← Option.some.inj held]
    · rw [← Option.some.inj held]
      rfl

theorem deleteAudited_committed {routeId : String} {audit : Value} {u : Unit} (sound : RoutesSound P db)
    (returned : deleteAudited P self db fresh connectionId routeId audit = .ok (u, written)) :
    ∃ seeded before after record,
      Committed P fresh connectionId (.delete routeId) db written seeded before after record := by
  obtain ⟨before, mutated, record, deleted, audited⟩ := deleteAudited_ok.mp returned
  obtain ⟨rfl, succeeded, resource, beforeState, afterState⟩ := audited_record audited
  have log := deleteStaticRouteRow_log deleted
  obtain ⟨seeded, initialized, found, owned, rfl⟩ := deleteStaticRouteRow_ok.mp deleted
  obtain ⟨fake, seeding⟩ := initializeStaticRoutes_ok initialized
  obtain ⟨-, rfl⟩ := find_mem found
  obtain ⟨left, right, split, -, removed⟩ := replace_remove_split
    (seeding.sound fake.exists sound).1.table.keyed found (fun row => row)
  refine ⟨seeded, some before, none, record, seeding, ⟨rfl, rfl⟩,
    ⟨⟨left, right, by simpa using split, by simpa using removed⟩, ?_⟩, by rw [← log], succeeded, resource,
    beforeState, afterState⟩
  rintro row (held | held)
  · rw [← Option.some.inj held]
    exact owned
  · cases held

theorem writing_transaction {α : Type} (reply : α → Reply) (caller : GatewayStore) (db : Db Token)
    (body : Except PyError (α × Db Token)) :
    (∃ result written, body = .ok (result, written) ∧
        writing reply (transaction caller db body) = (.ok (reply result), written)) ∨
      ∃ error, writing reply (transaction caller db body) = (.error error, db) := by
  unfold writing transaction
  cases caller.closed with
  | true => exact .inr ⟨_, rfl⟩
  | false =>
      rcases body with error | ⟨result, written⟩
      · exact .inr ⟨_, rfl⟩
      · exact .inl ⟨result, written, rfl, rfl⟩

theorem audited_mutation_atomic (calls later : List Call) (self : GatewayStore) (fresh : Fresh)
    (connectionId : String) (audit : Value) (mutation : Mutation) :
    let db : Db Token := run (after P) Db.empty calls
    let outcome := perform P ⟨self, fresh, mutation.op connectionId audit⟩ db
    ((∃ reply, outcome.1 = .ok reply) ∧ (∃ seeded before after record,
        Committed P fresh connectionId mutation db outcome.2 seeded before after record) ∨
      (∃ error, outcome.1 = .error error) ∧ outcome.2 = db) ∧
    db.transactions <+: (run (after P) db later).transactions := by
  intro db outcome
  have sound : RoutesSound P db := run_routesSound calls
  refine ⟨?_, run_log db later⟩
  cases mutation with
  | create payload =>
      rcases writing_transaction Reply.route self db (createAudited P self db fresh connectionId payload audit)
        with ⟨route, written, returned, same⟩ | ⟨error, same⟩
      · exact .inl ⟨⟨_, congrArg Prod.fst same⟩, congrArg Prod.snd same ▸ createAudited_committed returned⟩
      · exact .inr ⟨⟨error, congrArg Prod.fst same⟩, congrArg Prod.snd same⟩
  | update routeId payload =>
      rcases writing_transaction Reply.route self db
        (updateAudited P self db fresh connectionId routeId payload audit)
        with ⟨route, written, returned, same⟩ | ⟨error, same⟩
      · exact .inl ⟨⟨_, congrArg Prod.fst same⟩, congrArg Prod.snd same ▸ updateAudited_committed sound returned⟩
      · exact .inr ⟨⟨error, congrArg Prod.fst same⟩, congrArg Prod.snd same⟩
  | delete routeId =>
      rcases writing_transaction (fun _ => Reply.none) self db
        (deleteAudited P self db fresh connectionId routeId audit)
        with ⟨_, written, returned, same⟩ | ⟨error, same⟩
      · exact .inl ⟨⟨_, congrArg Prod.fst same⟩, congrArg Prod.snd same ▸ deleteAudited_committed sound returned⟩
      · exact .inr ⟨⟨error, congrArg Prod.fst same⟩, congrArg Prod.snd same⟩

end

end NetworkGateway.Store
