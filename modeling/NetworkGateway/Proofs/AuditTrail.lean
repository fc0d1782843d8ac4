import NetworkGateway.Proofs.Authorization
import NetworkGateway.Proofs.Signatures

/-! The transaction log under interleaved requests: who wrote each record, and that no request writes two. -/

namespace NetworkGateway.Api

open Auth Library Library.Result Library.Interaction Management Store

/-! What the commands of a route record. -/

def ServiceCommand.recorded : {β : Type} → ServiceCommand β → β → Option Outcome
  | _, .createStaticRouteAudited _ _ _, .ok _ => some .succeeded
  | _, .updateStaticRouteAudited _ _ _ _, .ok _ => some .succeeded
  | _, .deleteStaticRouteAudited _ _ _, .ok _ => some .succeeded
  | _, .appendTransaction _, .ok _ => some .failed
  | _, _, _ => none

def ServiceCommand.appends {β : Type} (command : ServiceCommand β) : Bool :=
  command.writes.any (fun op => op.touches .transactions)

def recordsOf (past : List (Event ServiceCommand)) : List Outcome :=
  past.filterMap (fun event => event.command.recorded event.answer)

def Once (past : List (Event ServiceCommand)) (β : Type) (command : ServiceCommand β) : Prop :=
  command.appends = true → recordsOf past = []

theorem recorded_appends {β : Type} {command : ServiceCommand β} (quiet : command.appends = false) (answer : β) :
    command.recorded answer = none := by
  cases command with
  | createStaticRouteAudited | updateStaticRouteAudited | deleteStaticRouteAudited | appendTransaction => cases quiet
  | list | get | save | delete | resolveConnection | getConfig | saveConfig | listStaticRoutes | listTransactions | getJob
  | test => rfl

theorem recordsOf_append {β : Type} (past : List (Event ServiceCommand)) (command : ServiceCommand β) (answer : β) :
    recordsOf (past ++ [⟨command, answer⟩]) = recordsOf past ++ (command.recorded answer).toList := by
  unfold recordsOf
  rw [List.filterMap_append]
  cases recorded : command.recorded answer <;> simp [recorded]

section

variable {α : Type} {past : List (Event ServiceCommand)}

theorem quiet_wp {p : Handler α} (quiet : p.Confined (fun _ command => command.appends = false)) :
    p.wp Once (fun now _ => recordsOf now = recordsOf past) past := by
  have kept : ∀ now, recordsOf now = recordsOf past → p.wp Once (fun now _ => recordsOf now = recordsOf past) now := by
    induction p with
    | done outcome => exact fun now same => same
    | call command next ih =>
        intro now same
        refine ⟨?_, ?_⟩
        · intro appends
          rw [quiet.1] at appends
          cases appends
        · intro answer
          apply ih answer (quiet.2 answer)
          rw [recordsOf_append, recorded_appends quiet.1, same]
          exact List.append_nil _
  exact kept past rfl

/-- Where a change stands when its calls are over. -/
def Settled (past : List (Event ServiceCommand)) : Except RouteError α → Prop
  | .ok _ => recordsOf past = [.succeeded]
  | .error _ => recordsOf past = []

theorem storeCall_settled {command : ServiceCommand (Except PyError α)} (unrecorded : recordsOf past = [])
    (succeeds : ∀ result, command.recorded (.ok result) = some .succeeded)
    (fails : ∀ error, command.recorded (.error error) = none) :
    (Handler.storeCall command).wp Once Settled past := by
  refine ⟨fun _ => unrecorded, ?_⟩
  intro outcome
  cases outcome with
  | ok result =>
      change recordsOf _ = _
      rw [recordsOf_append, unrecorded, succeeds]
      rfl
  | error error =>
      change recordsOf _ = _
      rw [recordsOf_append, unrecorded, fails]
      rfl

theorem settled_bind {β : Type} {p : Handler β} (settles : p.wp Once Settled past) (f : β → α) :
    (do let result ← p
        return f result : Handler α).wp Once Settled past := by
  apply Program.wp_bind
  apply Program.wp_mono _ settles
  intro now outcome settled
  cases outcome with
  | ok result => exact settled
  | error error => exact settled

theorem mutateRoute_settled {connectionId : String} {audit : Dict} (change : DeviceData.Change)
    (unrecorded : recordsOf past = []) : (mutateRoute connectionId audit change).wp Once Settled past := by
  cases change with
  | create payload => exact settled_bind (storeCall_settled unrecorded (fun _ => rfl) (fun _ => rfl)) some
  | update routeId payload => exact settled_bind (storeCall_settled unrecorded (fun _ => rfl) (fun _ => rfl)) some
  | delete routeId => exact settled_bind (storeCall_settled unrecorded (fun _ => rfl) (fun _ => rfl)) (fun _ => none)

theorem quiet_settled {β : Type} {p : Handler β} {f : β → Handler α} (unrecorded : recordsOf past = [])
    (quiet : p.Confined (fun _ command => command.appends = false))
    (rest : ∀ b now, recordsOf now = [] → (f b).wp Once Settled now) : (p >>= f).wp Once Settled past := by
  apply Program.wp_bind
  apply Program.wp_mono _ (quiet_wp quiet)
  intro now outcome same
  have still : recordsOf now = [] := same.trans unrecorded
  cases outcome with
  | ok b => exact rest b now still
  | error error => exact still

end

section

variable {Token : Type} {app : Application Token} {past : List (Event ServiceCommand)}

def Quiet (β : Type) (command : ServiceCommand β) : Prop := command.appends = false

theorem within_quiet (β : Type) (command : ServiceCommand β) (within : Within (fun op => op.touches .transactions = false) β command) :
    Quiet β command := by
  unfold Quiet ServiceCommand.appends
  rw [Option.any_eq_false_iff_get]
  intro named
  exact within _ (Option.some_get named).symm

theorem recordAttempt_unacknowledged {connectionId : String} {audit : Dict} {change : DeviceData.Change}
    (unrecorded : recordsOf past = []) (error : RouteError) :
    (recordAttempt connectionId audit change error).wp Once
      (fun now outcome => ∀ row, outcome = .ok row → recordsOf now = [.succeeded]) past := by
  cases error with
  | management error =>
      refine ⟨fun _ => unrecorded, ?_⟩
      intro answer row acknowledged
      cases acknowledged
  | http statusCode detail =>
      intro row acknowledged
      cases acknowledged

/-- A change that is acknowledged was recorded as a success. -/
theorem changeRoute_wp (attempt : DeviceData.Attempt) (connectionId : String) (change : DeviceData.Change) :
    (changeRoute app attempt connectionId change).wp Once
      (fun now outcome => ∀ row, outcome = .ok row → recordsOf now = [.succeeded]) [] := by
  have settles : (do
      deviceClient app connectionId
      let _ ← devicePath connectionId
      mutateRoute connectionId (DeviceData.auditContext attempt change.action) change :
        Handler (Option StaticRouteRow)).wp Once Settled [] := by
    apply quiet_settled rfl
    · exact (deviceClient_confined connectionId).mono within_quiet
    · intro _ now unrecorded
      apply quiet_settled unrecorded
      · exact (devicePath_confined connectionId).mono within_quiet
      · exact fun _ later still => mutateRoute_settled change still
  apply Program.wp_catching
  apply Program.wp_mono _ settles
  intro now outcome settled
  cases outcome with
  | ok row => exact fun _ _ => settled
  | error error => exact recordAttempt_unacknowledged settled error

/-- What an answer to a request says about the log. -/
def Acknowledged (admitted : Admitted app) (past : List (Event ServiceCommand)) (outcome : Except RouteError Response) : Prop :=
  ∀ response, outcome = .ok response → admitted.change.isSome →
    recordsOf past = [.succeeded] ∧ response.correlationId = some admitted.attempt.correlationId

theorem routeChange_acknowledged {admitted : Admitted app} (statusCode : Nat) (connectionId : String)
    (change : DeviceData.Change) :
    (routeChange app statusCode admitted.attempt connectionId change).wp Once (Acknowledged admitted) [] := by
  apply Program.wp_bind
  apply Program.wp_mono _ (changeRoute_wp admitted.attempt connectionId change)
  intro now outcome recorded
  cases outcome with
  | error error =>
      intro response acknowledged
      cases acknowledged
  | ok row =>
      have succeeded := recorded row rfl
      cases content : routeContent app row with
      | error error =>
          dsimp only
          rw [content]
          intro response acknowledged
          cases acknowledged
      | ok body =>
          dsimp only
          rw [content]
          intro response acknowledged _
          cases acknowledged
          exact ⟨succeeded, rfl⟩

theorem change_touches (admitted : Admitted app) :
    admitted.arrival.request.endpoint.touches .transactions = admitted.change.isSome := by
  unfold Admitted.change
  cases admitted.arrival.request.endpoint <;> rfl

/-- The route of a request records at most once, and acknowledges a change it has recorded. -/
theorem handler_watched (admitted : Admitted app) :
    (handler app admitted.arrival.request admitted.user admitted.arrival.uuid4 admitted.payload).wp Once
      (Acknowledged admitted) [] := by
  by_cases asked : admitted.change = none
  · have quiet : (handler app admitted.arrival.request admitted.user admitted.arrival.uuid4 admitted.payload).Confined
        Quiet := by
      apply (handler_confined admitted).mono
      intro β command within
      apply within_quiet
      intro op writes
      apply eq_false_of_ne_true
      intro touched
      have permitted := (within op writes).touches touched
      rw [change_touches, asked] at permitted
      cases permitted
    apply Program.wp_mono _ (quiet_wp quiet)
    intro now outcome _ response _ changes
    rw [asked] at changes
    cases changes
  · cases endpoint : admitted.arrival.request.endpoint with
    | createStaticRoute connectionId =>
        have route : handler app admitted.arrival.request admitted.user admitted.arrival.uuid4 admitted.payload =
            routeChange app 201 admitted.attempt connectionId (.create admitted.payload) := by
          simp only [handler, Admitted.attempt, endpoint]
        rw [route]
        exact routeChange_acknowledged 201 connectionId _
    | updateStaticRoute connectionId routeId =>
        have route : handler app admitted.arrival.request admitted.user admitted.arrival.uuid4 admitted.payload =
            routeChange app 200 admitted.attempt connectionId (.update routeId admitted.payload) := by
          simp only [handler, Admitted.attempt, endpoint]
        rw [route]
        exact routeChange_acknowledged 200 connectionId _
    | deleteStaticRoute connectionId routeId =>
        have route : handler app admitted.arrival.request admitted.user admitted.arrival.uuid4 admitted.payload =
            routeChange app 204 admitted.attempt connectionId (.delete routeId) := by
          simp only [handler, Admitted.attempt, endpoint]
        rw [route]
        exact routeChange_acknowledged 204 connectionId _
    | list | get | create | update | delete | testConnection | createBatch | getBatch | exportBatch | getSettings
    | updateSettings | getInventory | listStaticRoutes | listTransactions =>
        exact absurd (by rw [Admitted.change, endpoint]) asked

/-! The log. -/

/-- The record names the request it was written for. -/
def Signed (one : Admitted app) (record : TransactionRow) : Prop :=
  ∃ connectionId change, one.change = some (connectionId, change) ∧ Signature one.attempt change connectionId record

def Admitted.audit (admitted : Admitted app) (change : DeviceData.Change) : Value :=
  DeviceData.withDetail (DeviceData.auditContext admitted.attempt change.action) change.detail

/-- A permitted call that appends records the change the request asks for. -/
theorem Permits.appends {one : Admitted app} {op : Op} (permits : Permits one op) (touched : op.touches .transactions = true) :
    ∃ connectionId change, one.change = some (connectionId, change) ∧ (op = changeOp connectionId (one.audit change) change ∨
      ∃ detail, op = .appendTransaction (.dict (DeviceData.failurePayload
        (DeviceData.auditContext one.attempt change.action) change.resourceId connectionId detail))) := by
  cases permits with
  | changes asked => exact ⟨_, _, asked, .inl rfl⟩
  | records detail asked => exact ⟨_, _, asked, .inr ⟨detail, rfl⟩⟩
  | create | update | delete | settings | seeds | starts => cases touched

/-- What a call leaves of the log: nothing new, or one record in the name of a request. -/
def Leaves (one : Admitted app) (recorded : Option Outcome) (log later : List TransactionRow) : Prop :=
  (recorded = none ∧ later = log) ∨
    ∃ record, recorded = some record.outcome ∧ Signed one record ∧ later = log ++ [record]

theorem reach_leaves {α : Type} {one : Admitted app} {command : ServiceCommand (Except PyError α)} {store : GatewayStore}
    {db : Db Token} {body : Except PyError (α × Db Token)} {outcome : Outcome} (available : Bool)
    (fails : ∀ error, command.recorded (.error error) = none)
    (succeeds : ∀ result, command.recorded (.ok result) = some outcome)
    (returns : ∀ result written, body = .ok (result, written) →
      ∃ record, record.outcome = outcome ∧ Signed one record ∧ written.transactions = db.transactions ++ [record]) :
    Leaves one (command.recorded (Batches.reach available db (transaction store db body)).1) db.transactions
      (Batches.reach available db (transaction store db body)).2.transactions := by
  generalize reached : Batches.reach available db (transaction store db body) = answer
  rcases answer with ⟨error | result, written⟩
  · left
    refine ⟨fails error, ?_⟩
    rw [Batches.reach_error reached fun raised failed => transaction_kept failed]
  · rcases returns result written (transaction_ok.mp (Batches.reach_ok reached).2).2 with ⟨record, same, signed, logged⟩
    right
    refine ⟨record, ?_, signed, logged⟩
    rw [same]
    exact succeeds result

theorem audited_signed {one : Admitted app} {db mutated written : Db Token} {fresh : Fresh} {change : DeviceData.Change}
    {connectionId resourceId : String} {before after : Value} {record : TransactionRow}
    (asked : one.change = some (connectionId, change))
    (audited : Audited fresh (one.audit change) resourceId connectionId before after mutated written record)
    (logged : mutated.transactions = db.transactions) :
    ∃ record, record.outcome = .succeeded ∧ Signed one record ∧ written.transactions = db.transactions ++ [record] := by
  have canonical : Uuid.parse one.attempt.correlationId = some one.attempt.correlationId := resolveCorrelationId_parse _ _
  have facts := audited_record audited
  refine ⟨record, facts.2.1, ⟨_, _, asked, audited.signed canonical⟩, ?_⟩
  rw [facts.1, logged]

/-- A command of a request leaves the log alone, or appends one record in the request's name. -/
theorem performCall_leaves {one : Admitted app} {β : Type} {command : ServiceCommand β}
    (within : Within (Permits one) β command) (input : Batches.Input) (db : Db Token) :
    Leaves one (command.recorded (performCall app β command input db).1) db.transactions
      (performCall app β command input db).2.transactions := by
  have canonical : Uuid.parse one.attempt.correlationId = some one.attempt.correlationId := resolveCorrelationId_parse _ _
  have quiet : command.appends = false → Leaves one (command.recorded (performCall app β command input db).1) db.transactions
      (performCall app β command input db).2.transactions := by
    intro silent
    refine .inl ⟨recorded_appends silent _, ?_⟩
    rcases performCall_writes command input db with same | ⟨op, writes, called⟩
    · rw [same]
    · rw [called]
      have untouched : (⟨app.store, input.fresh, op⟩ : Call).op.touches .transactions = false := by
        unfold ServiceCommand.appends at silent
        rw [writes] at silent
        exact silent
      exact after_agrees app.platform untouched db
  cases command with
  | list | get | save | delete | resolveConnection | getConfig | saveConfig | listStaticRoutes | listTransactions | getJob
  | test => exact quiet rfl
  | createStaticRouteAudited connectionId payload audit =>
      rcases (within _ rfl).appends rfl with ⟨_, change, asked, same | ⟨detail, same⟩⟩
      · cases change with
        | create given =>
            cases same
            apply reach_leaves input.available (fun _ => rfl) (fun _ => rfl)
            intro route written returned
            rcases createAudited_ok.mp returned with ⟨mutated, record, created, audited⟩
            exact audited_signed asked audited (createStaticRouteRow_log created)
        | update | delete => cases same
      · cases same
  | updateStaticRouteAudited connectionId routeId payload audit =>
      rcases (within _ rfl).appends rfl with ⟨_, change, asked, same | ⟨detail, same⟩⟩
      · cases change with
        | update _ given =>
            cases same
            apply reach_leaves input.available (fun _ => rfl) (fun _ => rfl)
            intro route written returned
            rcases updateAudited_ok.mp returned with ⟨_, mutated, record, updated, audited⟩
            exact audited_signed asked audited (updateStaticRouteRow_log updated)
        | create | delete => cases same
      · cases same
  | deleteStaticRouteAudited connectionId routeId audit =>
      rcases (within _ rfl).appends rfl with ⟨_, change, asked, same | ⟨detail, same⟩⟩
      · cases change with
        | delete =>
            cases same
            apply reach_leaves input.available (fun _ => rfl) (fun _ => rfl)
            intro route written returned
            rcases deleteAudited_ok.mp returned with ⟨_, mutated, record, deleted, audited⟩
            exact audited_signed asked audited (deleteStaticRouteRow_log deleted)
        | create | update => cases same
      · cases same
  | appendTransaction payload =>
      rcases (within _ rfl).appends rfl with ⟨_, change, asked, same | ⟨detail, same⟩⟩
      · cases change with
        | create | update | delete => cases same
      · cases same
        apply reach_leaves input.available (fun _ => rfl) (fun _ => rfl)
        intro record written returned
        rcases insertTransaction_ok.mp returned with ⟨valid, _, _, rfl⟩
        have facts := failure_signed canonical valid
        exact ⟨record, facts.2, ⟨_, _, asked, facts.1⟩, rfl⟩

/-! Runs of the application. -/

variable {s later : State app} {log : List TransactionRow} {entries : List (Nat × TransactionRow)}

def outcomesOf (entries : List (Nat × TransactionRow)) (id : Nat) : List Outcome :=
  entries.filterMap (fun entry => if entry.1 = id then some entry.2.outcome else none)

theorem outcomesOf_self (entries : List (Nat × TransactionRow)) (id : Nat) (record : TransactionRow) :
    outcomesOf (entries ++ [(id, record)]) id = outcomesOf entries id ++ [record.outcome] := by
  simp [outcomesOf]

theorem outcomesOf_other (entries : List (Nat × TransactionRow)) {id other : Nat} (apart : other ≠ id)
    (record : TransactionRow) : outcomesOf (entries ++ [(id, record)]) other = outcomesOf entries other := by
  simp [outcomesOf, apart.symm]

theorem outcomesOf_nil {id : Nat} (unrecorded : outcomesOf entries id = []) : id ∉ entries.map Prod.fst := by
  intro listed
  rcases List.mem_map.mp listed with ⟨entry, member, same⟩
  have none := List.filterMap_eq_nil_iff.mp unrecorded entry member
  rw [if_pos same] at none
  cases none

theorem outcomesOf_mem {id : Nat} {outcome : Outcome} (recorded : outcome ∈ outcomesOf entries id) :
    ∃ entry ∈ entries, entry.1 = id ∧ entry.2.outcome = outcome := by
  rcases List.mem_filterMap.mp recorded with ⟨entry, member, held⟩
  split at held
  · rename_i same
    exact ⟨entry, member, same, Option.some.inj held⟩
  · cases held

def Watching (one : Admitted app) (recorded : List Outcome) : Task → Prop
  | .route program => program.Confined (Within (Permits one)) ∧
      ∃ past, recordsOf past = recorded ∧ program.wp Once (Acknowledged one) past
  | .batch _ => True

/-- The answer's own record, which says that the change was made. -/
def Logged (entries : List (Nat × TransactionRow)) (id : Nat) (response : Response) : Prop :=
  ∃ record, (id, record) ∈ entries ∧ record.outcome = .succeeded ∧ response.correlationId = some record.correlationId

/-- An answer belongs to an admitted request, and to a record of it where it says that a change was made. -/
def Answered (admitted : List (Admitted app)) (entries : List (Nat × TransactionRow)) (id : Nat) (response : Response) :
    Prop :=
  ∃ one, admitted[id]? = some one ∧
    (one.arrival.request.endpoint.touches .transactions = true → Logged entries id response)

/-- The log is `log` and the records of requests, each in the name of its own. -/
structure Trail (log : List TransactionRow) (s : State app) (entries : List (Nat × TransactionRow)) : Prop where
  records : s.db.transactions = log ++ entries.map Prod.snd
  once : (entries.map Prod.fst).Nodup
  signed : ∀ entry ∈ entries, ∃ one, s.admitted[entry.1]? = some one ∧ Signed one entry.2
  running : ∀ task ∈ s.running, ∃ one, s.admitted[task.1]? = some one ∧ Watching one (outcomesOf entries task.1) task.2
  distinct : (s.running.map Prod.fst).Nodup
  answered : ∀ id response, (id, .ok response) ∈ s.answers → Answered s.admitted entries id response

theorem Trail.start (db : Db Token) : Trail db.transactions (State.start db : State app) [] where
  records := (List.append_nil _).symm
  once := List.nodup_nil
  signed _ member := absurd member List.not_mem_nil
  running _ member := absurd member List.not_mem_nil
  distinct := List.nodup_nil
  answered _ _ member := absurd member List.not_mem_nil

theorem Trail.same (trail : Trail log s entries) (admitted : later.admitted = s.admitted)
    (records : later.db.transactions = s.db.transactions) (running : later.running.Sublist s.running)
    (answers : ∀ id response, (id, .ok response) ∈ later.answers → (id, .ok response) ∈ s.answers ∨
      Answered s.admitted entries id response) : Trail log later entries := by
  refine ⟨records.trans trail.records, trail.once, ?_, ?_, ?_, ?_⟩
  · rw [admitted]
    exact trail.signed
  · rw [admitted]
    exact fun task member => trail.running task (running.subset member)
  · exact trail.distinct.sublist (running.map Prod.fst)
  · rw [admitted]
    intro id response member
    rcases answers id response member with earlier | new
    · exact trail.answered id response earlier
    · exact new

theorem opens_records (s : State app) (available : Bool) : (s.opens available).db.transactions = s.db.transactions ∧
    (s.opens available).running = s.running ∧ (s.opens available).answers = s.answers := by
  have kept : (openStore app.platform s.db app.key).2.transactions = s.db.transactions := by
    have untouched : (⟨app.store, undrawn, .openStore app.key⟩ : Call).op.touches .transactions = false := rfl
    exact after_agrees app.platform untouched s.db
  have reached := Batches.reach_writes available s.db (openStore app.platform s.db app.key)
  unfold State.opens
  split
  · exact ⟨rfl, rfl, rfl⟩
  · split
    · rename_i opening
      rw [opening] at reached
      refine ⟨?_, rfl, rfl⟩
      rcases reached with same | called
      · exact congrArg Db.transactions same
      · exact (congrArg Db.transactions called).trans kept
    · rename_i opening
      rw [opening] at reached
      refine ⟨?_, rfl, rfl⟩
      rcases reached with same | called
      · exact congrArg Db.transactions same
      · exact (congrArg Db.transactions called).trans kept

theorem Trail.opens (trail : Trail log s entries) (available : Bool) : Trail log (s.opens available) entries := by
  have kept := opens_records s available
  apply trail.same (opens_admitted s available) kept.1
  · rw [kept.2.1]
  · rw [kept.2.2]
    exact fun id response member => .inl member

theorem Trail.refuses (trail : Trail log s entries) (request : HttpRequest) (error : RouteError) :
    Trail log (s.refuses request error) entries :=
  trail.same rfl rfl (List.Sublist.refl s.running) (fun _ _ member => .inl member)

theorem task_watching (admitted : Admitted app) : Watching admitted [] admitted.task := by
  unfold Admitted.task
  split
  · trivial
  · exact ⟨handler_confined admitted, [], rfl, handler_watched admitted⟩

theorem Trail.admits (trail : Trail log s entries) (arrival : Arrival app) (user : AuthenticatedUser) (payload : Value) :
    Trail log (s.admits arrival user payload) entries := by
  have kept : ∀ {id : Nat} {one : Admitted app}, s.admitted[id]? = some one →
      (s.admits arrival user payload).admitted[id]? = some one := by
    intro id one found
    exact (List.getElem?_append_left (List.getElem?_eq_some_iff.mp found).1).trans found
  have fresh : ∀ {id : Nat} {one : Admitted app}, s.admitted[id]? = some one → id ≠ s.admitted.length := by
    intro id one found
    exact Nat.ne_of_lt (List.getElem?_eq_some_iff.mp found).1
  refine ⟨trail.records, trail.once, ?_, ?_, ?_, ?_⟩
  · intro entry member
    rcases trail.signed entry member with ⟨one, found, signed⟩
    exact ⟨one, kept found, signed⟩
  · intro task member
    rcases List.mem_append.mp member with earlier | last
    · rcases trail.running task earlier with ⟨one, found, watching⟩
      exact ⟨one, kept found, watching⟩
    · rw [List.mem_singleton.mp last]
      refine ⟨⟨arrival, user, payload⟩, List.getElem?_concat_length, ?_⟩
      have unrecorded : outcomesOf entries s.admitted.length = [] := by
        apply List.filterMap_eq_nil_iff.mpr
        intro entry member
        rcases trail.signed entry member with ⟨one, found, _⟩
        rw [if_neg (fresh found)]
      rw [unrecorded]
      exact task_watching _
  · have ends : (s.admits arrival user payload).running.map Prod.fst = s.running.map Prod.fst ++ [s.admitted.length] := by
      simp [State.admits]
    rw [ends, List.nodup_append]
    refine ⟨trail.distinct, List.nodup_singleton _, ?_⟩
    intro id earlier other last same
    rcases List.mem_map.mp earlier with ⟨task, member, named⟩
    rcases trail.running task member with ⟨one, found, _⟩
    rw [List.mem_singleton.mp last] at same
    exact fresh found (named.trans same)
  · intro id response member
    rcases trail.answered id response member with ⟨one, found, logged⟩
    exact ⟨one, kept found, logged⟩

theorem Trail.arrives (trail : Trail log s entries) (arrival : Arrival app) : Trail log (s.arrives arrival) entries := by
  unfold State.arrives
  split
  · exact trail.refuses _ _
  · have opened := trail.opens arrival.available
    dsimp only
    split
    · split
      · exact opened.admits _ _ _
      · exact opened.refuses _ _
    · exact opened.refuses _ _

theorem Watching.logged (trail : Trail log s entries) {id : Nat} {one : Admitted app} {response : Response}
    (found : s.admitted[id]? = some one) (watching : Watching one (outcomesOf entries id) (.route (.done (.ok response))))
    (touched : one.arrival.request.endpoint.touches .transactions = true) :
    Logged entries id response := by
  rcases watching with ⟨_, past, recorded, acknowledged⟩
  rw [change_touches] at touched
  rcases acknowledged response rfl touched with ⟨succeeded, correlated⟩
  rw [recorded] at succeeded
  have listed : Outcome.succeeded ∈ outcomesOf entries id := by
    rw [succeeded]
    exact List.mem_cons_self
  rcases outcomesOf_mem listed with ⟨⟨place, record⟩, member, rfl, outcome⟩
  rcases trail.signed _ member with ⟨other, located, connectionId, change, _, signature⟩
  cases located.symm.trans found
  rw [signature.correlationId.symm] at correlated
  exact ⟨record, member, outcome, correlated⟩

theorem map_fst_set {α : Type 1} {running : List (Nat × α)} {place id : Nat} {held : α} (next : α)
    (found : running[place]? = some (id, held)) : (running.set place (id, next)).map Prod.fst = running.map Prod.fst := by
  induction running generalizing place with
  | nil => rfl
  | cons head rest ih =>
      cases place with
      | zero => simp_all
      | succ place => simp_all

theorem Answered.grows {admitted : List (Admitted app)} {id : Nat} {response : Response}
    (answered : Answered admitted entries id response) (record : Nat × TransactionRow) :
    Answered admitted (entries ++ [record]) id response := by
  rcases answered with ⟨one, found, logged⟩
  refine ⟨one, found, ?_⟩
  intro touched
  rcases logged touched with ⟨entry, member, rest⟩
  exact ⟨entry, List.mem_append_left _ member, rest⟩

/-- A call of a running request records in its name, and at most once. -/
theorem Trail.calls (trail : Trail log s entries) {place id : Nat} {β : Type} {command : ServiceCommand β}
    {next : β → Handler Response} (found : s.running[place]? = some (id, .route (.call command next))) (input : Batches.Input) :
    ∃ more, Trail log ({ s with
      batches := { s.batches with db := (performCall app β command input s.db).2 }
      running := s.running.set place (id, .route (next (performCall app β command input s.db).1)) } : State app) more := by
  rcases trail.running _ (List.mem_of_getElem? found) with ⟨one, admitted, confined, past, recorded, safe, continues⟩
  generalize called : performCall app β command input s.db = outcome
  have leaves := performCall_leaves confined.1 input s.db
  rw [called] at leaves
  rcases outcome with ⟨answer, db⟩
  have names := map_fst_set (.route (next answer)) found
  have distinct : ((s.running.set place (id, .route (next answer))).map Prod.fst).Nodup := by
    rw [names]
    exact trail.distinct
  have watching : ∀ now, now = recordsOf past ++ (command.recorded answer).toList → Watching one now (.route (next answer)) := by
    intro now same
    exact ⟨confined.2 answer, past ++ [⟨command, answer⟩], (recordsOf_append past command answer).trans same.symm,
      continues answer⟩
  rcases leaves with ⟨silent, same⟩ | ⟨record, outcome, signed, appended⟩
  · refine ⟨entries, same.trans trail.records, trail.once, trail.signed, ?_, distinct, trail.answered⟩
    intro task member
    rcases List.mem_or_eq_of_mem_set member with earlier | new
    · exact trail.running task earlier
    · rw [new]
      refine ⟨one, admitted, watching _ ?_⟩
      rw [silent, recorded]
      exact (List.append_nil _).symm
  · have appends : command.appends = true := by
      by_contra quiet
      have none : command.recorded answer = none := recorded_appends (eq_false_of_ne_true quiet) answer
      cases none.symm.trans outcome
    have unrecorded : outcomesOf entries id = [] := recorded.symm.trans (safe appends)
    refine ⟨entries ++ [(id, record)], ?_, ?_, ?_, ?_, distinct, ?_⟩
    · rw [List.map_append, ← List.append_assoc, ← trail.records]
      exact appended
    · rw [List.map_append, List.nodup_append]
      refine ⟨trail.once, List.nodup_singleton _, ?_⟩
      intro other listed last member same
      rw [same, List.mem_singleton.mp member] at listed
      exact outcomesOf_nil unrecorded listed
    · intro entry member
      rcases List.mem_append.mp member with earlier | last
      · exact trail.signed entry earlier
      · rw [List.mem_singleton.mp last]
        exact ⟨one, admitted, signed⟩
    · intro task member
      by_cases mine : task.1 = id
      · have new : task = (id, .route (next answer)) := by
          apply List.inj_on_of_nodup_map distinct member _ mine
          exact List.mem_set (List.getElem?_eq_some_iff.mp found).1 _
        rw [new]
        refine ⟨one, admitted, watching _ ?_⟩
        rw [outcomesOf_self, outcome, recorded]
        rfl
      · rcases List.mem_or_eq_of_mem_set member with earlier | new
        · rcases trail.running task earlier with ⟨other, located, held⟩
          refine ⟨other, located, ?_⟩
          rw [outcomesOf_other entries mine]
          exact held
        · rw [new] at mine
          exact absurd rfl mine
    · exact fun id response member => (trail.answered id response member).grows _

theorem Trail.advances (trail : Trail log s entries) (place : Nat) (input : Batches.Input) :
    ∃ more, Trail log (s.advances place input) more := by
  have fewer : (s.running.eraseIdx place).Sublist s.running := List.eraseIdx_sublist s.running place
  unfold State.advances
  split
  · rename_i id task found
    unfold State.turn
    cases task with
    | batch ids =>
        dsimp only
        split
        · refine ⟨entries, trail.same rfl (congrArg Db.transactions (Batches.starts_db ids)) fewer ?_⟩
          exact fun _ _ member => .inl member
        · exact ⟨entries, trail⟩
    | route program =>
        cases program with
        | call command next => exact trail.calls found input
        | done outcome =>
            refine ⟨entries, trail.same rfl rfl fewer ?_⟩
            intro other response member
            rcases List.mem_append.mp member with earlier | last
            · exact .inl earlier
            · right
              rcases trail.running _ (List.mem_of_getElem? found) with ⟨one, admitted, watching⟩
              cases List.mem_singleton.mp last
              exact ⟨one, admitted, watching.logged trail admitted⟩
  · exact ⟨entries, trail⟩

theorem batches_records {action : Batches.Action} (own : ownAction action = true) :
    (Batches.step app.service action s.batches).db.transactions = s.db.transactions := by
  have unrequested : ∀ call, action ≠ .request call := by
    rintro call rfl
    cases own
  cases Batches.step_worked (S := app.service) (b := s.batches) unrequested with
  | idle same => exact congrArg Db.transactions same
  | own call _ own _ called =>
      rw [called]
      exact after_agrees app.service.platform (own.untouched .transactions) s.db
  | created fresh ids checked called =>
      have untouched : (⟨app.store, fresh, .createJob (.list (ids.map .str))⟩ : Call).op.touches .transactions = false := rfl
      rw [called]
      exact after_agrees app.service.platform untouched s.db

theorem Trail.step (trail : Trail log s entries) (input : Step app) : ∃ more, Trail log (Api.step app input s) more := by
  cases input with
  | arrive arrival => exact ⟨entries, trail.arrives arrival⟩
  | advance place input => exact trail.advances place input
  | batches action =>
      unfold Api.step
      dsimp only
      split
      · rename_i own
        refine ⟨entries, trail.same rfl (batches_records (Bool.and_eq_true_iff.mp own).2) (List.Sublist.refl _) ?_⟩
        exact fun _ _ member => .inl member
      · exact ⟨entries, trail⟩
  | restart =>
      refine ⟨entries, trail.same rfl rfl (List.nil_sublist _) ?_⟩
      exact fun _ _ member => .inl member

theorem run_trail (db : Db Token) (steps : List (Step app)) :
    ∃ entries, Trail db.transactions (Interleaving.run (Api.step app) (State.start db) steps) entries := by
  apply Interleaving.run_invariant (fun s : State app => ∃ entries, Trail db.transactions s entries)
  · intro input s held
    rcases held with ⟨entries, trail⟩
    exact trail.step input
  · exact ⟨[], .start db⟩

/-- In every run of the application the log only gains records that requests wrote: each is signed with the user,
the correlation id, the method and the path of a request that was let in as an operator's, no request wrote two, and
a change that was answered with success has its own record, under the correlation id of the answer. -/
theorem audit_authentic (app : Application Token) (db : Db Token) (steps : List (Step app)) :
    let s := Interleaving.run (Api.step app) (State.start db) steps
    ∃ entries : List (Nat × TransactionRow), s.db.transactions = db.transactions ++ entries.map Prod.snd ∧
      (entries.map Prod.fst).Nodup ∧
      (∀ entry ∈ entries, ∃ one, s.admitted[entry.1]? = some one ∧ Genuine one ∧ hasRole one.user .operator = true ∧
        Signed one entry.2) ∧
      ∀ id response, (id, .ok response) ∈ s.answers → Answered s.admitted entries id response := by
  intro s
  rcases run_trail db steps with ⟨entries, trail⟩
  refine ⟨entries, trail.records, trail.once, ?_, trail.answered⟩
  intro entry member
  rcases trail.signed entry member with ⟨one, found, signed⟩
  have genuine := (run_served db steps).genuine one (List.mem_of_getElem? found)
  refine ⟨one, found, genuine, ?_, signed⟩
  have touched : one.arrival.request.endpoint.touches .transactions = true := by
    rcases signed with ⟨_, _, asked, _⟩
    rw [change_touches, asked]
    rfl
  exact hasRole_mono genuine.authorized (partRole_le touched)

end

end NetworkGateway.Api
