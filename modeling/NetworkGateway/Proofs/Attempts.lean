import NetworkGateway.Bl.DeviceData
import NetworkGateway.Dal.Bench
import NetworkGateway.Proofs.Records
import NetworkGateway.Proofs.Sessions

/-! Which attempts to change a static route leave a record. -/

namespace NetworkGateway.DeviceData

open Auth Library Library.Result Management Store

/-! The actor of an attempt. -/

section Actor

variable {platform : AuthPlatform} {env : Settings.Environment} {settings : AuthSettings} {claims : Dict}
  {user : AuthenticatedUser} {attempt : Attempt}

structure Auditable (platform : AuthPlatform) (claims : Dict) : Prop where
  subject : ∀ s, orElse (Dict.get claims "oid") (Dict.get claims "sub") = .str s →
    Fits s 255 ∧ Text.strip s ≠ ""
  name : ∀ s, strOf platform (orElse (orElse (Dict.get claims "name") (Dict.get claims "preferred_username"))
    (orElse (Dict.get claims "oid") (Dict.get claims "sub"))) = s → Fits s 200 ∧ Text.strip s ≠ ""
  email : ∀ s, orElse (Dict.get claims "email") (Dict.get claims "preferred_username") = .str s → Fits s 320

theorem claimedSubject_ok {subject : String} (read : claimedSubject claims = .ok subject) :
    orElse (Dict.get claims "oid") (Dict.get claims "sub") = .str subject := by
  unfold claimedSubject at read
  split at read
  · rename_i found
    simp only [bind_eq_ok, pure_eq, Except.ok.injEq] at read
    rcases read with ⟨-, -, rfl⟩
    exact found
  · cases read

theorem userFromClaims_ok (parsed : userFromClaims platform settings claims = .ok user) :
    orElse (Dict.get claims "oid") (Dict.get claims "sub") = .str user.subject ∧
      user.tenantId = settings.tenantId ∧
      user.name = strOf platform
        (orElse (orElse (Dict.get claims "name") (Dict.get claims "preferred_username"))
          (orElse (Dict.get claims "oid") (Dict.get claims "sub"))) ∧
      user.email = textOnly (orElse (Dict.get claims "email") (Dict.get claims "preferred_username")) ∧
      user.authMode = .entra := by
  simp only [userFromClaims, bind_eq_ok, pure_eq, Except.ok.injEq] at parsed
  rcases parsed with ⟨roles, -, subject, read, rfl⟩
  have found := claimedSubject_ok read
  refine ⟨found, rfl, ?_, rfl, rfl⟩
  rw [found]

theorem actorRoles_sorted (roles : Finset GatewayRole) :
    ∃ read, actorRoles (.list ((GatewayRole.sorted roles).map (fun role => .str role.text))) = .ok read := by
  have texts : Value.strings ((GatewayRole.sorted roles).map (fun role => .str role.text)) =
      some ((GatewayRole.sorted roles).map GatewayRole.text) := by
    rw [Value.strings_eq_some, List.map_map]
    rfl
  have known : ((GatewayRole.sorted roles).map GatewayRole.text).all gatewayRoles.contains = true := by
    rw [List.all_eq_true]
    intro text member
    rcases List.mem_map.mp member with ⟨role, -, rfl⟩
    cases role <;> decide
  unfold actorRoles
  simp only [texts, known, if_true, Except.ok.injEq, exists_eq']

theorem authMode_accepts (mode : AuthMode) : ∃ read, Store.authMode (.str mode.text) = .ok read := by
  cases mode
  · exact ⟨.entra, rfl⟩
  · exact ⟨.demo, rfl⟩

/-- The actor fields of an audit context are accepted when the actor's texts fit their columns. -/
theorem actorAccepted_iff (attempt : Attempt) (action : String) :
    ActorAccepted (auditContext attempt action) ↔
      (Fits attempt.actor.subject 255 ∧ Text.strip attempt.actor.subject ≠ "") ∧
      (∀ tenant ∈ attempt.actor.tenantId, (Uuid.parse tenant).isSome) ∧
      (Fits attempt.actor.name 200 ∧ Text.strip attempt.actor.name ≠ "") ∧
      ∀ email ∈ attempt.actor.email, Fits email 320 := by
  have subject := text_accepts_required attempt.actor.subject "actor_subject" 255
  have tenant := optionalUuid_accepts attempt.actor.tenantId "actor_tenant_id"
  have name := text_accepts_required attempt.actor.name "actor_name" 200
  have email := optionalText_accepts attempt.actor.email "actor_email" 320
  rw [← subject, ← tenant, ← name, ← email]
  constructor
  · intro accepted
    exact ⟨accepted.subject, accepted.tenant, accepted.name, accepted.email⟩
  · intro accepted
    exact ⟨accepted.1, accepted.2.1, accepted.2.2.1, accepted.2.2.2, actorRoles_sorted attempt.actor.roles,
      authMode_accepts attempt.actor.authMode⟩

theorem mem_textOnly {value : Value} {text : String} : text ∈ textOnly value ↔ value = .str text := by
  cases value <;> simp [textOnly]

/-- The actor that is made of the claims is accepted exactly when the claims meet the log's limits. -/
theorem actorAccepted_claims (entra : settings.mode = .entra) (loaded : Settings.authSettings env = .ok settings)
    (parsed : userFromClaims platform settings claims = .ok attempt.actor) (action : String) :
    ActorAccepted (auditContext attempt action) ↔ Auditable platform claims := by
  rcases Settings.entra_tenant env entra loaded with ⟨text, tenant, read, held⟩
  rcases userFromClaims_ok parsed with ⟨subject, tenantId, name, email, -⟩
  have valid : ∀ given ∈ attempt.actor.tenantId, (Uuid.parse given).isSome := by
    intro given member
    rw [tenantId, held] at member
    cases member
    rw [Uuid.parse_canonical read]
    rfl
  rw [actorAccepted_iff]
  constructor
  · intro accepted
    rcases accepted with ⟨subjectFits, -, nameFits, emailFits⟩
    constructor
    · intro s found
      rw [subject] at found
      cases found
      exact subjectFits
    · intro s found
      rw [← name] at found
      rw [← found]
      exact nameFits
    · intro s found
      apply emailFits
      rw [email, mem_textOnly]
      exact found
  · intro auditable
    refine ⟨auditable.subject _ subject, valid, auditable.name _ name.symm, ?_⟩
    intro given member
    rw [email, mem_textOnly] at member
    exact auditable.email _ member

end Actor

def benchAttempt : Attempt where
  actor := Auth.Bench.user
  correlationId := "1b4e28ba-2fa1-11d2-883f-0016d3cca427"
  requestMethod := "DELETE"
  requestPath := "/api/v1/connections/core/static-routes/1"

/-! The records of an attempt. -/

section Attempts

variable {Token : Type} {P : Platform Token} {service : DeviceDataService} {db written : Db Token}
  {fresh failure : Fresh} {attempt : Attempt} {connectionId : String} {change : Change} {audit : Dict}
  {answer : Value} {error : ManagementError}

theorem guarded_ok {α : Type} {self : GatewayStore} {call : Except PyError α × Db Token} {result : α}
    (returned : FakeClient.guarded P self db connectionId call = (.ok result, written)) :
    call = (.ok result, written) := by
  unfold FakeClient.guarded at returned
  split at returned
  · exact returned
  · cases returned

theorem guarded_error {α : Type} {self : GatewayStore} {body : Except PyError (α × Db Token)}
    {raised : PyError}
    (failed : FakeClient.guarded P self db connectionId (transaction self db body) = (.error raised, written)) :
    written = db := by
  unfold FakeClient.guarded at failed
  split at failed
  · exact transaction_error failed
  · cases failed
    rfl

theorem map_pair {α β : Type} {outcome : Except PyError α × Db Token} {f : α → β}
    {reply : Except PyError β} (same : (outcome.1.map f, outcome.2) = (reply, written)) :
    outcome = (outcome.1, written) ∧ outcome.1.map f = reply := by
  rcases outcome with ⟨first, second⟩
  cases same
  exact ⟨rfl, rfl⟩

theorem map_error {α β : Type} {outcome : Except PyError α} {f : α → β} {raised : PyError}
    (same : outcome.map f = .error raised) : outcome = .error raised := by
  cases outcome with
  | ok _ => cases same
  | error _ =>
      cases same
      rfl

theorem mutate_ok (returned : mutate P service db fresh connectionId audit change = (.ok answer, written)) :
    ∃ resourceId before after record mutated,
      Audited fresh (withDetail audit change.detail) resourceId connectionId before after mutated written record ∧
      (mutated : Db Token).transactions = db.transactions ∧ ∀ routeId ∈ change.resourceId, routeId = resourceId := by
  cases change with
  | create payload =>
      rcases map_pair returned with ⟨outcome, mapped⟩
      rcases (map_eq_ok _ _ _).mp mapped with ⟨route, held, -⟩
      rw [held] at outcome
      have inside := transaction_ok.mp (guarded_ok outcome)
      rcases createAudited_ok.mp inside.2 with ⟨mutated, record, created, audited⟩
      exact ⟨_, _, _, record, mutated, audited, createStaticRouteRow_log created, by simp [Change.resourceId]⟩
  | update routeId payload =>
      rcases map_pair returned with ⟨outcome, mapped⟩
      rcases (map_eq_ok _ _ _).mp mapped with ⟨route, held, -⟩
      rw [held] at outcome
      have inside := transaction_ok.mp (guarded_ok outcome)
      rcases updateAudited_ok.mp inside.2 with ⟨_, mutated, record, updated, audited⟩
      exact ⟨_, _, _, record, mutated, audited, updateStaticRouteRow_log updated, by simp [Change.resourceId]⟩
  | delete routeId =>
      rcases map_pair returned with ⟨outcome, mapped⟩
      rcases (map_eq_ok _ _ _).mp mapped with ⟨u, held, -⟩
      rw [held] at outcome
      have inside := transaction_ok.mp (guarded_ok outcome)
      rcases deleteAudited_ok.mp inside.2 with ⟨_, mutated, record, deleted, audited⟩
      exact ⟨_, _, _, record, mutated, audited, deleteStaticRouteRow_log deleted, by simp [Change.resourceId]⟩

theorem mutate_error {raised : PyError}
    (failed : mutate P service db fresh connectionId audit change = (.error raised, written)) : written = db := by
  cases change with
  | create payload =>
      rcases map_pair failed with ⟨outcome, mapped⟩
      rw [map_error mapped] at outcome
      exact guarded_error outcome
  | update routeId payload =>
      rcases map_pair failed with ⟨outcome, mapped⟩
      rw [map_error mapped] at outcome
      exact guarded_error outcome
  | delete routeId =>
      rcases map_pair failed with ⟨outcome, mapped⟩
      rw [map_error mapped] at outcome
      exact guarded_error outcome

/-- The messages the service raises fit the log's detail column. -/
theorem client_message (failed : client P service db connectionId = .error error) : Fits error.message 4000 := by
  unfold client at failed
  simp only [bind_eq_error, raiseWhen_error] at failed
  rcases failed with ⟨-, rfl⟩ | ⟨_, -, failed⟩
  · unfold Fits
    decide
  · rcases failed with failed | ⟨_, -, -, rfl⟩
    · have message := managementError_message
      cases got : Store.get P service.store db "connections" connectionId with
      | ok _ =>
          rw [got] at failed
          cases failed
      | error raised =>
          rw [got] at failed
          cases failed
          have short := message raised
          rw [← fits_iff]
          simpa using short
    · unfold Fits
      decide

theorem attempted_error (failed : attempted P service db fresh connectionId audit change = (.error error, written)) :
    written = db ∧ Fits error.message 4000 := by
  unfold attempted at failed
  split at failed
  · rename_i refused
    cases failed
    exact ⟨rfl, client_message refused⟩
  · rcases called : mutate P service db fresh connectionId audit change with ⟨reply, kept⟩
    rw [called] at failed
    cases reply with
    | ok _ => cases failed
    | error raised =>
        cases failed
        have short := managementError_message raised
        refine ⟨mutate_error called, ?_⟩
        rw [← fits_iff]
        simpa using short

theorem attempted_ok (returned : attempted P service db fresh connectionId audit change = (.ok answer, written)) :
    ∃ resourceId before after record mutated,
      Audited fresh (withDetail audit change.detail) resourceId connectionId before after mutated written record ∧
      (mutated : Db Token).transactions = db.transactions ∧ ∀ routeId ∈ change.resourceId, routeId = resourceId := by
  unfold attempted at returned
  split at returned
  · cases returned
  · rcases called : mutate P service db fresh connectionId audit change with ⟨reply, kept⟩
    rw [called] at returned
    cases reply with
    | ok value =>
        cases returned
        exact mutate_ok called
    | error _ => cases returned

/-- The caller-controlled texts that a record of the attempt repeats are accepted by the log. -/
structure Recordable (attempt : Attempt) (connectionId : String) (change : Change) : Prop where
  connection : (Uuid.parse connectionId).isSome
  route : ∀ routeId ∈ change.resourceId, Fits routeId 64
  method : Fits attempt.requestMethod 10
  path : Fits attempt.requestPath 2048

theorem OperationAccepted.texts {payload : Dict} (connectionId requestMethod requestPath : String)
    (resourceId : Option String) (accepted : OperationAccepted fresh payload)
    (connection : Dict.get payload "connection_id" = .str connectionId)
    (resource : Dict.get payload "resource_id" = Value.ofOption resourceId)
    (method : Dict.get payload "request_method" = .str requestMethod)
    (path : Dict.get payload "request_path" = .str requestPath) :
    (Uuid.parse connectionId).isSome ∧ (∀ routeId ∈ resourceId, Fits routeId 64) ∧
      Fits requestMethod 10 ∧ Fits requestPath 2048 := by
  have uuid := accepted.connectionId
  have route := accepted.resourceId
  have methodText := accepted.requestMethod
  have pathText := accepted.requestPath
  rw [connection] at uuid
  rw [resource, optionalText_accepts] at route
  rw [method] at methodText
  rw [path] at pathText
  have parsed := (optionalUuid_accepts (some connectionId) "connection_id").mp uuid
  have methodFits := (optionalText_accepts (some requestMethod) "request_method" 10).mp methodText
  have pathFits := (optionalText_accepts (some requestPath) "request_path" 2048).mp pathText
  exact ⟨parsed _ rfl, route, methodFits _ rfl, pathFits _ rfl⟩

theorem action_accepts (change : Change) : ∃ read, text (.str change.action) "action" true 100 = .ok read := by
  have accepts : ∀ action ∈ ["static_route.create", "static_route.update", "static_route.delete"],
      (action.length ≤ 100 ∧ Char.ofNat 0 ∉ action.toList) ∧ Text.strip action ≠ "" := by decide +kernel
  rw [text_accepts_required]
  apply accepts
  cases change <;> simp [Change.action]

theorem correlation_accepts {id : String} (read : (Uuid.parse id).isSome) :
    ∃ kept, correlation fresh (.str id) = .ok kept := by
  rcases Option.isSome_iff_exists.mp read with ⟨parsed, found⟩
  unfold correlation
  split
  · simp only [validateUuid, found, Except.ok.injEq, exists_eq']
  · exact ⟨_, rfl⟩

variable (failure connectionId) in
/-- The log accepts the record of a failed attempt exactly when it accepts the texts it repeats. -/
theorem failure_accepts_iff {detail : String} (correlated : (Uuid.parse attempt.correlationId).isSome)
    (actor : ActorAccepted (auditContext attempt change.action)) (short : Fits detail 4000) :
    (∃ record, validateTransaction failure
      (.dict (failurePayload (auditContext attempt change.action) change.resourceId connectionId detail)) = .ok record) ↔
      Recordable attempt connectionId change := by
  rw [validateTransaction_accepts]
  constructor
  · intro accepted
    have texts := OperationAccepted.texts connectionId attempt.requestMethod attempt.requestPath change.resourceId
      accepted.2 rfl rfl rfl rfl
    exact ⟨texts.1, texts.2.1, texts.2.2.1, texts.2.2.2⟩
  · intro recordable
    have resource := (optionalText_accepts change.resourceId "resource_id" 64).mpr recordable.route
    have connection := (optionalUuid_accepts (some connectionId) "connection_id").mpr
      (fun _ same => Option.mem_some.mp same ▸ recordable.connection)
    have detailText := (optionalText_accepts (some detail) "detail" 4000).mpr
      (fun _ same => Option.mem_some.mp same ▸ short)
    have method := (optionalText_accepts (some attempt.requestMethod) "request_method" 10).mpr
      (fun _ same => Option.mem_some.mp same ▸ recordable.method)
    have path := (optionalText_accepts (some attempt.requestPath) "request_path" 2048).mpr
      (fun _ same => Option.mem_some.mp same ▸ recordable.path)
    constructor
    · exact ⟨actor.subject, actor.tenant, actor.name, actor.email, actor.roles, actor.mode⟩
    · exact ⟨correlation_accepts correlated, action_accepts change, ⟨"static_route", rfl⟩, resource, connection,
        ⟨.failed, rfl⟩, ⟨.none, rfl⟩, ⟨.none, rfl⟩, detailText, method, path⟩

structure AcceptsWrites (service : DeviceDataService) (db : Db Token) (failure : Fresh) : Prop where
  opened : service.store.closed = false
  inserts : failure.auditFault = none
  unused : ∀ held ∈ db.transactions, held.id ≠ failure.recordId

/-- One record was added, and it says how the call ended. -/
def AuditedOnce (before : Db Token) (outcome : Except ManagementError Value × Db Token) : Prop :=
  ∃ record, outcome.2.transactions = before.transactions ++ [record] ∧
    record.outcome = match outcome.1 with
      | .ok _ => .succeeded
      | .error _ => .failed

theorem recordFailure_accepted {resourceId : Option String} {detail : String} {record : TransactionRow}
    (writes : AcceptsWrites service db failure)
    (valid : validateTransaction failure (.dict (failurePayload audit resourceId connectionId detail)) = .ok record) :
    (recordFailure service db failure audit resourceId connectionId detail).transactions =
      db.transactions ++ [record] ∧ record.outcome = .failed := by
  have outcome := (validateTransaction_ok valid).2.2.1
  simp only [failurePayload, Dict.get_eq, Library.Dict.lookup_merge] at outcome
  have inserted : insertTransaction db failure (.dict (failurePayload audit resourceId connectionId detail)) =
      .ok (record, { db with transactions := db.transactions ++ [record] }) := by
    rw [insertTransaction_ok]
    refine ⟨valid, ?_, ?_, rfl⟩
    · rw [auditInsert, writes.inserts]
    · rw [(validateTransaction_ok valid).1]
      exact writes.unused
  constructor
  · unfold recordFailure appendTransaction
    rw [transaction_ok.mpr ⟨writes.opened, inserted⟩]
  · exact (Except.ok.inj outcome).symm

theorem recordFailure_refused {resourceId : Option String} {detail : String}
    (invalid : ¬∃ record,
      validateTransaction failure (.dict (failurePayload audit resourceId connectionId detail)) = .ok record) :
    recordFailure service db failure audit resourceId connectionId detail = db := by
  unfold recordFailure
  rcases called : appendTransaction service.store db failure
    (.dict (failurePayload audit resourceId connectionId detail)) with ⟨reply, kept⟩
  cases reply with
  | ok record =>
      have inserted := (transaction_ok.mp called).2
      exact absurd ⟨record, (insertTransaction_ok.mp inserted).1⟩ invalid
  | error _ => exact transaction_error called

/-- A change that returned has left its record, so the log accepted the texts of the attempt. -/
theorem attempted_recorded
    (returned : attempted P service db fresh connectionId (auditContext attempt change.action) change =
      (.ok answer, written)) :
    (∃ record, written.transactions = db.transactions ++ [record] ∧ record.outcome = .succeeded) ∧
      Recordable attempt connectionId change := by
  rcases attempted_ok returned with ⟨resourceId, before, after, record, mutated, audited, kept, same⟩
  have held := audited_record audited
  constructor
  · refine ⟨record, ?_, held.2.1⟩
    rw [held.1, ← kept]
  · rcases audited with ⟨payload, built, inserted⟩
    simp only [withDetail, auditPayload, asDict, ok_bind, pure_eq, Except.ok.injEq] at built
    rw [← built] at inserted
    have valid := (insertTransaction_ok.mp inserted).1
    have accepted := (validateTransaction_accepts fresh _).mp ⟨record, valid⟩
    have texts := OperationAccepted.texts connectionId attempt.requestMethod attempt.requestPath (some resourceId)
      accepted.2 rfl rfl rfl rfl
    refine ⟨texts.1, ?_, texts.2.2.1, texts.2.2.2⟩
    intro routeId member
    rw [same routeId member]
    exact texts.2.1 resourceId rfl

theorem perform_returned
    (called : attempted P service db fresh connectionId (auditContext attempt change.action) change = (.ok answer, written)) :
    perform P service db fresh failure attempt connectionId change = (.ok answer, written) := by
  simp only [perform, called]

theorem perform_failed
    (called : attempted P service db fresh connectionId (auditContext attempt change.action) change = (.error error, written)) :
    perform P service db fresh failure attempt connectionId change =
      (.error error, recordFailure service db failure (auditContext attempt change.action) change.resourceId connectionId
        error.message) := by
  simp only [perform, called, (attempted_error called).1]

theorem audited_once_iff (header : Option String) (uuid4 : Nat)
    (correlated : attempt.correlationId = resolveCorrelationId header uuid4)
    (actor : ActorAccepted (auditContext attempt change.action))
    (writes : AcceptsWrites service db failure) :
    AuditedOnce db (perform P service db fresh failure attempt connectionId change) ↔
      Recordable attempt connectionId change := by
  rcases called : attempted P service db fresh connectionId (auditContext attempt change.action) change with
    ⟨reply, kept⟩
  cases reply with
  | ok answer =>
      have recorded := attempted_recorded called
      rw [perform_returned called]
      constructor
      · intro _
        exact recorded.2
      · intro _
        exact recorded.1
  | error error =>
      have parses : (Uuid.parse attempt.correlationId).isSome := by
        rw [correlated]
        rw [resolveCorrelationId_parse]
        rfl
      have accepts := failure_accepts_iff failure connectionId parses actor (attempted_error called).2
      rw [perform_failed called, ← accepts]
      constructor
      · intro once
        by_contra refused
        rcases once with ⟨record, appended, -⟩
        rw [recordFailure_refused refused] at appended
        have sizes := congrArg List.length appended
        simp at sizes
      · intro accepted
        rcases accepted with ⟨record, valid⟩
        exact ⟨record, recordFailure_accepted writes valid⟩

end Attempts

/-! What the actor of an attempt decides. -/

section Actors

variable {Token : Type} {P : Platform Token} {service : DeviceDataService} {db written mutated : Db Token}
  {fresh failure : Fresh} {attempt : Attempt} {actor : AuthenticatedUser} {connectionId action : String} {change : Change}
  {answer : Value}

theorem auditContext_same (attempt : Attempt) (actor : AuthenticatedUser) (action : String) {key : String} (outside : key ∉ actorKeys) :
    (auditContext { attempt with actor } action).lookup key = (auditContext attempt action).lookup key := by
  simp only [actorKeys, List.mem_cons, List.not_mem_nil, or_false, not_or] at outside
  simp only [auditContext, Library.Dict.lookup_cons_key, outside, if_false]

theorem insertTransaction_actor {payload other : Dict} {record : TransactionRow}
    (accepted : ActorAccepted (auditContext { attempt with actor } action))
    (own : ∀ key ∈ actorKeys, other.lookup key = (auditContext { attempt with actor } action).lookup key)
    (same : ∀ key ∉ actorKeys, other.lookup key = payload.lookup key)
    (inserted : insertTransaction db fresh (.dict payload) = .ok (record, written)) :
    ∃ kept, insertTransaction db fresh (.dict other) = .ok (kept, { db with transactions := db.transactions ++ [kept] }) := by
  rcases insertTransaction_ok.mp inserted with ⟨valid, inserts, unused, -⟩
  have operation := ((validateTransaction_accepts fresh payload).mp ⟨record, valid⟩).2
  rcases (validateTransaction_accepts fresh other).mpr ⟨accepted.congr own, operation.congr same⟩ with ⟨kept, held⟩
  refine ⟨kept, insertTransaction_ok.mpr ⟨held, inserts, ?_, rfl⟩⟩
  rw [(validateTransaction_ok held).1, ← (validateTransaction_ok valid).1]
  exact unused

theorem merged_actor {rest : Dict} (plain : ∀ key ∈ actorKeys, rest.lookup key = none) {audit audit' : Dict}
    (own : ∀ key ∈ actorKeys, audit'.lookup key = (auditContext { attempt with actor } action).lookup key)
    (same : ∀ key ∉ actorKeys, audit'.lookup key = audit.lookup key) :
    (∀ key ∈ actorKeys, (Dict.merge audit' rest).lookup key = (auditContext { attempt with actor } action).lookup key) ∧
      ∀ key ∉ actorKeys, (Dict.merge audit' rest).lookup key = (Dict.merge audit rest).lookup key := by
  constructor
  · intro key member
    rw [Library.Dict.lookup_merge, plain key member, Option.none_or, own key member]
  · intro key outside
    rw [Library.Dict.lookup_merge, Library.Dict.lookup_merge, same key outside]

theorem audited_actor {detail resourceId : String} {before after : Value} {record : TransactionRow}
    (accepted : ActorAccepted (auditContext { attempt with actor } action))
    (audited : Audited fresh (withDetail (auditContext attempt action) detail) resourceId connectionId before after mutated
      written record) :
    ∃ written kept, Audited fresh (withDetail (auditContext { attempt with actor } action) detail) resourceId connectionId
      before after mutated written kept := by
  rcases audited with ⟨payload, built, inserted⟩
  simp only [withDetail, auditPayload, asDict, ok_bind, pure_eq, Except.ok.injEq] at built
  rw [← built] at inserted
  have detailed : ∀ key ∈ actorKeys, ([("detail", .str detail)] : Dict).lookup key = none := by
    simp [actorKeys, Library.Dict.lookup_cons_key]
  have named : ∀ key ∈ actorKeys, ([("resource_type", .str "static_route"), ("resource_id", .str resourceId),
      ("connection_id", .str connectionId), ("outcome", .str "succeeded"), ("before_state", before),
      ("after_state", after)] : Dict).lookup key = none := by
    simp [actorKeys, Library.Dict.lookup_cons_key]
  have inner := merged_actor detailed (fun _ _ => rfl)
    (fun _ outside => auditContext_same attempt actor action outside)
  have outer := merged_actor named inner.1 inner.2
  rcases insertTransaction_actor accepted outer.1 outer.2 inserted with ⟨kept, done⟩
  exact ⟨_, kept, _, rfl, done⟩

theorem mutate_actor (accepted : ActorAccepted (auditContext { attempt with actor } action))
    (returned : mutate P service db fresh connectionId (auditContext attempt action) change = (.ok answer, written)) :
    ∃ written, mutate P service db fresh connectionId (auditContext { attempt with actor } action) change =
      (.ok answer, written) := by
  have guarded : ∀ {α : Type} {body other : Except PyError (α × Db Token)} {shown : α → Value},
      ((FakeClient.guarded P service.store db connectionId (transaction service.store db body)).1.map shown,
        (FakeClient.guarded P service.store db connectionId (transaction service.store db body)).2) = (.ok answer, written) →
      (∀ result written, body = .ok (result, written) → ∃ written, other = .ok (result, written)) →
      ∃ written, ((FakeClient.guarded P service.store db connectionId (transaction service.store db other)).1.map shown,
        (FakeClient.guarded P service.store db connectionId (transaction service.store db other)).2) = (.ok answer, written) := by
    intro α body other shown done again
    unfold FakeClient.guarded at done ⊢
    cases checked : FakeClient.profile P service.store db connectionId with
    | error raised =>
        rw [checked] at done
        cases done
    | ok profile =>
        rw [checked] at done
        rcases map_pair done with ⟨outcome, mapped⟩
        rcases (map_eq_ok _ _ _).mp mapped with ⟨result, held, -⟩
        rw [held] at outcome mapped
        rcases transaction_ok.mp outcome with ⟨opened, inside⟩
        rcases again result _ inside with ⟨kept, repeated⟩
        rw [transaction_ok.mpr ⟨opened, repeated⟩]
        exact ⟨kept, by rw [← mapped]⟩
  cases change with
  | create payload =>
      apply guarded returned
      intro route kept body
      rcases createAudited_ok.mp body with ⟨mutated, record, created, audited⟩
      rcases audited_actor accepted audited with ⟨kept, record, audited⟩
      exact ⟨kept, createAudited_ok.mpr ⟨mutated, record, created, audited⟩⟩
  | update routeId payload =>
      apply guarded returned
      intro route kept body
      rcases updateAudited_ok.mp body with ⟨before, mutated, record, updated, audited⟩
      rcases audited_actor accepted audited with ⟨kept, record, audited⟩
      exact ⟨kept, updateAudited_ok.mpr ⟨before, mutated, record, updated, audited⟩⟩
  | delete routeId =>
      apply guarded returned
      intro u kept body
      rcases deleteAudited_ok.mp body with ⟨before, mutated, record, deleted, audited⟩
      rcases audited_actor accepted audited with ⟨kept, record, audited⟩
      exact ⟨kept, deleteAudited_ok.mpr ⟨before, mutated, record, deleted, audited⟩⟩

theorem perform_answer : (perform P service db fresh failure attempt connectionId change).1 = .ok answer ↔
    ∃ written, attempted P service db fresh connectionId (auditContext attempt change.action) change = (.ok answer, written) := by
  rcases called : attempted P service db fresh connectionId (auditContext attempt change.action) change with ⟨reply, kept⟩
  cases reply with
  | ok value => simp [perform, called]
  | error raised => simp [perform, called]

theorem attempted_actor (accepted : ActorAccepted (auditContext { attempt with actor } action))
    (returned : attempted P service db fresh connectionId (auditContext attempt action) change = (.ok answer, written)) :
    ∃ written, attempted P service db fresh connectionId (auditContext { attempt with actor } action) change =
      (.ok answer, written) := by
  unfold attempted at returned ⊢
  cases checked : client P service db connectionId with
  | error raised =>
      rw [checked] at returned
      cases returned
  | ok u =>
      rw [checked] at returned
      dsimp only at returned ⊢
      rcases called : mutate P service db fresh connectionId (auditContext attempt action) change with ⟨reply, kept⟩
      rw [called] at returned
      cases reply with
      | error raised => cases returned
      | ok value =>
          cases returned
          rcases mutate_actor accepted called with ⟨kept, again⟩
          exact ⟨kept, by rw [again]; rfl⟩

/-- What is answered to one actor is answered to every actor the log accepts. -/
theorem perform_actor (accepted : ActorAccepted (auditContext { attempt with actor } change.action))
    (answered : (perform P service db fresh failure attempt connectionId change).1 = .ok answer) :
    (perform P service db fresh failure { attempt with actor } connectionId change).1 = .ok answer := by
  rcases perform_answer.mp answered with ⟨written, returned⟩
  exact perform_answer.mpr (attempted_actor accepted returned)

theorem recordFailure_appended {audit : Dict} {resourceId : Option String} {detail : String} {record : TransactionRow}
    (appended : (recordFailure service db failure audit resourceId connectionId detail).transactions =
      db.transactions ++ [record]) :
    AcceptsWrites service db failure ∧ ∃ record,
      validateTransaction failure (.dict (failurePayload audit resourceId connectionId detail)) = .ok record := by
  rcases called : appendTransaction service.store db failure
    (.dict (failurePayload audit resourceId connectionId detail)) with ⟨reply, kept⟩
  cases reply with
  | error raised =>
      have same := transaction_error called
      rw [recordFailure, called, same] at appended
      have sizes := congrArg List.length appended
      simp at sizes
  | ok record =>
      rcases transaction_ok.mp called with ⟨opened, inserted⟩
      rcases insertTransaction_ok.mp inserted with ⟨valid, inserts, unused, -⟩
      rw [(validateTransaction_ok valid).1] at unused
      refine ⟨⟨opened, ?_, unused⟩, record, valid⟩
      cases fault : failure.auditFault with
      | none => rfl
      | some raised =>
          rw [auditInsert, fault] at inserts
          cases inserts

theorem failurePayload_actor {resourceId : Option String} {detail other : String} {record : TransactionRow}
    (accepted : ActorAccepted (auditContext { attempt with actor } action)) (short : Fits other 4000)
    (held : validateTransaction failure
      (.dict (failurePayload (auditContext attempt action) resourceId connectionId detail)) = .ok record) :
    ∃ record, validateTransaction failure
      (.dict (failurePayload (auditContext { attempt with actor } action) resourceId connectionId other)) = .ok record := by
  have operation := ((validateTransaction_accepts failure _).mp ⟨record, held⟩).2
  have text := (optionalText_accepts (some other) "detail" 4000).mpr (fun _ same => Option.mem_some.mp same ▸ short)
  refine (validateTransaction_accepts failure _).mpr ⟨accepted.congr ?_, operation.redetail ?_ text⟩
  · intro key member
    have absent : ∀ key ∈ actorKeys, ([("resource_type", .str "static_route"), ("resource_id", .ofOption resourceId),
        ("connection_id", .str connectionId), ("outcome", .str "failed"), ("detail", .str other), ("before_state", .none),
        ("after_state", .none)] : Dict).lookup key = none := by
      simp [actorKeys, Library.Dict.lookup_cons_key]
    rw [failurePayload, Library.Dict.lookup_merge, absent key member, Option.none_or]
  · intro key outside
    rw [List.mem_cons, not_or] at outside
    simp only [failurePayload, Library.Dict.lookup_merge, auditContext_same attempt actor action outside.2,
      Library.Dict.lookup_cons_key, if_neg outside.1]

/-- An attempt that leaves its record leaves one for every actor the log accepts. -/
theorem recorded_actor (accepted : ActorAccepted (auditContext { attempt with actor } change.action))
    (once : AuditedOnce db (perform P service db fresh failure attempt connectionId change)) :
    AuditedOnce db (perform P service db fresh failure { attempt with actor } connectionId change) := by
  rcases called : attempted P service db fresh connectionId (auditContext { attempt with actor } change.action) change with
    ⟨reply, kept⟩
  cases reply with
  | ok answer =>
      rw [perform_returned called]
      exact (attempted_recorded called).1
  | error error =>
      rw [perform_failed called]
      rcases other : attempted P service db fresh connectionId (auditContext attempt change.action) change with ⟨reply, kept⟩
      cases reply with
      | ok answer =>
          rcases attempted_actor accepted other with ⟨_, again⟩
          cases called.symm.trans again
      | error raised =>
          rw [perform_failed other] at once
          rcases once with ⟨record, appended, -⟩
          rcases recordFailure_appended appended with ⟨writes, held, valid⟩
          rcases failurePayload_actor accepted (attempted_error called).2 valid with ⟨kept, again⟩
          exact ⟨kept, recordFailure_accepted writes again⟩

/-- The log accepts the actor, so that whatever is done or recorded for some actor is for this one. -/
structure Unhindered (actor : AuthenticatedUser) : Prop where
  accepted : ∀ (attempt : Attempt) action, ActorAccepted (auditContext { attempt with actor } action)
  validated : ∀ (attempt : Attempt) action fresh payload,
    (∀ key ∈ actorKeys, payload.lookup key = (auditContext { attempt with actor } action).lookup key) →
    OperationAccepted fresh payload → ∃ record, validateTransaction fresh (.dict payload) = .ok record
  answered : ∀ {Token : Type} (P : Platform Token) (service : DeviceDataService) (db : Db Token) (fresh failure : Fresh)
    (attempt : Attempt) (connectionId : String) (change : Change) (answer : Value),
    (perform P service db fresh failure attempt connectionId change).1 = .ok answer →
    (perform P service db fresh failure { attempt with actor } connectionId change).1 = .ok answer
  recorded : ∀ {Token : Type} (P : Platform Token) (service : DeviceDataService) (db : Db Token) (fresh failure : Fresh)
    (attempt : Attempt) (connectionId : String) (change : Change),
    AuditedOnce db (perform P service db fresh failure attempt connectionId change) →
    AuditedOnce db (perform P service db fresh failure { attempt with actor } connectionId change)

theorem Unhindered.of_accepted (accepted : ∀ (attempt : Attempt) action, ActorAccepted (auditContext { attempt with actor } action)) :
    Unhindered actor := by
  refine ⟨accepted, ?_, ?_, ?_⟩
  · intro attempt action fresh payload own operation
    exact (validateTransaction_accepts fresh payload).mpr ⟨(accepted attempt action).congr own, operation⟩
  · intro Token P service db fresh failure attempt connectionId change answer answered
    exact perform_actor (accepted attempt change.action) answered
  · intro Token P service db fresh failure attempt connectionId change once
    exact recorded_actor (accepted attempt change.action) once

end Actors

def blankClaims : Dict :=
  [("oid", .str "user-1"), ("name", .str " "), ("roles", .list [.str "Operator"])]

def benchService : DeviceDataService := ⟨NetworkGateway.Bench.store, "fake"⟩

theorem bench_correlated : benchAttempt.correlationId =
    resolveCorrelationId (some "1B4E28BA-2FA1-11D2-883F-0016D3CCA427") 0 := by
  decide +kernel

theorem bench_actor : ActorAccepted (auditContext benchAttempt "static_route.delete") := by
  rw [actorAccepted_iff]
  unfold Fits
  decide +kernel

theorem bench_writes : AcceptsWrites benchService (Db.empty : Db Platform.SealedToken) (NetworkGateway.Bench.fresh "b") :=
  ⟨rfl, rfl, nofun⟩

theorem audited_once_iff_bench :
    AuditedOnce Db.empty
      (perform Platform.bench benchService Db.empty (NetworkGateway.Bench.fresh "a") (NetworkGateway.Bench.fresh "b")
        benchAttempt "00000000-0000-4000-8000-000000000000" (.delete "1")) ↔
      Recordable benchAttempt "00000000-0000-4000-8000-000000000000" (.delete "1") :=
  audited_once_iff _ _ bench_correlated bench_actor bench_writes

/-- An attempt on a path whose connection id is no UUID fails and leaves no record. -/
theorem unrecorded_failure :
    (perform Platform.bench benchService Db.empty (NetworkGateway.Bench.fresh "a") (NetworkGateway.Bench.fresh "b")
        benchAttempt "core" (.delete "1")).1 = .error ⟨"The requested resource was not found.", 404⟩ ∧
    ActorAccepted (auditContext benchAttempt "static_route.delete") ∧
    AcceptsWrites benchService (Db.empty : Db Platform.SealedToken) (NetworkGateway.Bench.fresh "b") ∧
    ¬AuditedOnce Db.empty
      (perform Platform.bench benchService Db.empty (NetworkGateway.Bench.fresh "a") (NetworkGateway.Bench.fresh "b")
        benchAttempt "core" (.delete "1")) := by
  refine ⟨rfl, bench_actor, bench_writes, ?_⟩
  intro once
  rcases once with ⟨record, appended, -⟩
  have empty : (perform Platform.bench benchService Db.empty (NetworkGateway.Bench.fresh "a")
      (NetworkGateway.Bench.fresh "b") benchAttempt "core" (.delete "1")).2.transactions = [] := rfl
  rw [empty] at appended
  cases appended

end NetworkGateway.DeviceData
