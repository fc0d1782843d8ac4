import NetworkGateway.Bl.Batches
import NetworkGateway.Dal.FakeClient
import NetworkGateway.Dal.Store

/-! `BatchService` of `app/bl/services/batches.py`: `start`, the worker that runs a job, and `shutdown`.

One step is one call on the store, one test, or one section without a call that holds the lock. -/

namespace NetworkGateway.Batches

open Library.Result Management Store

/-! One device of a job. -/

/-- `test_fake_connection`; `none` when it raises. -/
def testFakeConnection (profile : Dict) : Option Value :=
  match FakeClient.validateFakePath profile with
  | .error (.store message _) => some (.dict
      [("success", .bool false), ("stage", .str "simulation"), ("detail", .str message),
       ("duration_ms", .float (.finite 0)), ("simulated", .bool true)])
  | .error _ => none
  | .ok () => some (.dict
      [("success", .bool true), ("stage", .str "simulation"),
       ("detail", .str "Simulated device and proxy authentication passed; no network connection was made."),
       ("duration_ms", .float (.finite 0)), ("simulated", .bool true)])

structure Service (Token : Type) where
  libraries : Libraries Token
  store : GatewayStore
  /-- `device_data_provider`. -/
  provider : String
  demoMode : Bool

/-- What the tester does: it returns a value, or raises. Meanwhile `time.monotonic` does not go back. -/
structure Answer where
  returned : Option Value
  elapsed : Elapsed
  corrected : 0 ≤ elapsed.corrected
  failed : 0 ≤ elapsed.failed

section

variable {Token : Type} (S : Service Token)

def Service.platform : Platform Token := S.libraries.toPlatform

def testProfile (profile : Dict) (answer : Answer) : Except ManagementError Dict := do
  checkTestProvider S.provider profile
  if Dict.getOr profile "client_type" (.str "network") == .str "fake" then
    return safeTest S.libraries (.dict profile) (fun _ _ => testFakeConnection profile) false true answer.elapsed
  return safeTest S.libraries (.dict profile) (fun _ _ => answer.returned) S.demoMode false answer.elapsed

/-- `(profile.get("connector") or {}).get("type", "direct")`. -/
def connectorTypeOf (profile : Dict) : Except PyError Value := do
  let connector ← orEmpty (Dict.get profile "connector")
  return Dict.getOr connector "type" (.str "direct")

/-- `result.update({...})`. -/
def labelled (connectionId : String) (profile result : Dict) : Except PyError Dict := do
  let protocol ← item profile "protocol"
  let host ← item profile "host"
  let port ← item profile "port"
  let connectorType ← connectorTypeOf profile
  return Library.Dict.merge result
    [("connection_id", .str connectionId), ("name", Dict.getOr profile "name" (.str "")), ("protocol", protocol),
     ("host", host), ("port", port), ("connector_type", connectorType)]

/-- The result the worker records, unless something is raised. -/
def tested (connectionId : String) (profile : Dict) (answer : Answer) : Option Dict :=
  match testProfile S profile answer with
  | .ok result => (labelled connectionId profile result).toOption
  | .error _ => none

/-! The threads. -/

/-- Where a call of `start` that holds the lock is. -/
inductive Starting where
  | checking (ids rest : List String)
  | submitting (job : PublicJob)
  /-- `submit` raised. -/
  | unscheduled (jobId : String)
  deriving DecidableEq

inductive Holder where
  | free
  | start (place : Starting)
  | shutdown
  deriving DecidableEq

/-- Where `_run` is. -/
inductive Running where
  | begun
  | marked
  | testing (rest : List (String × Dict))
  | recording (result : Dict) (rest : List (String × Dict))
  /-- About to call `_fail`. -/
  | failing (message : String)
  | returned

/-- Where the call of `shutdown` is. -/
inductive Shutdown where
  | uncalled
  /-- `_closed` is set, under the lock. -/
  | closing
  /-- `_stop` is set too, and the lock is free. -/
  | stopped
  /-- The executor takes no more work. -/
  | waiting
  | returned
  deriving DecidableEq, Repr

structure Created (Token : Type) where
  id : String
  ids : List String
  inventory : Db Token

structure State (Token : Type) where
  db : Db Token
  holder : Holder
  closed : Bool
  stop : Bool
  shutdown : Shutdown
  /-- The jobs that were submitted and not begun. -/
  queue : List String
  executorClosed : Bool
  worker : Option (String × Running)
  /-- The job of `_future`. -/
  future : Option String
  /-- The jobs whose future is done. -/
  ended : List String
  created : List (Created Token)
  /-- What the calls of `start` returned or raised. -/
  replies : List (Except ManagementError PublicJob)
  /-- The jobs with a store call that did not reach the database. -/
  unreached : List String
  /-- The jobs whose `_fail` did not reach the database. -/
  unfailed : List String
  /-- What the tester did, by job and connection. -/
  tests : List (String × String × Answer)

def State.start (db : Db Token) : State Token where
  db := db
  holder := .free
  closed := false
  stop := false
  shutdown := .uncalled
  queue := []
  executorClosed := false
  worker := none
  future := none
  ended := []
  created := []
  replies := []
  unreached := []
  unfailed := []
  tests := []

structure Input where
  fresh : Fresh
  /-- The database can be reached. -/
  available : Bool
  /-- `submit` does not raise. -/
  submits : Bool
  answer : Answer

inductive Action where
  /-- Another request makes a store call. -/
  | request (call : Call)
  /-- `start` with these identifiers gets the lock. -/
  | start (ids : List String)
  /-- The next step of the call of `start` that holds the lock. -/
  | advance (input : Input)
  /-- The next step of the worker. -/
  | work (input : Input)
  /-- The next step of `shutdown`. -/
  | shutdown

/-- The calls of other requests: those that write jobs are the service's, and the store is opened before. -/
def otherOp : Op → Bool
  | .openStore _ | .createJob _ | .recordJobResult _ _ | .setJobStatus _ _ _ => false
  | _ => true

def reach {α : Type} (available : Bool) (db : Db Token) (outcome : Except PyError α × Db Token) :
    Except PyError α × Db Token :=
  if available then outcome else (.error (.store "Gateway database operation failed." 503), db)

/-- `_future` is set and not done. -/
def State.busy (s : State Token) : Bool :=
  match s.future with
  | some jobId => !s.ended.contains jobId
  | none => false

/-- A call of `start` returns or raises. -/
def State.reply (s : State Token) (outcome : Except ManagementError PublicJob) : State Token :=
  { s with replies := s.replies ++ [outcome] }

def missing (available : Bool) (jobs : List String) (jobId : String) : List String :=
  if available then jobs else jobs ++ [jobId]

def State.missed (s : State Token) (available : Bool) (jobId : String) : State Token :=
  { s with unreached := missing available s.unreached jobId }

/-- `start` up to the checks on the connections; a call that finds the lock taken waits. -/
def State.starts (s : State Token) (ids : List String) : State Token :=
  if ids.isEmpty || 1000 < ids.length || !decide ids.Nodup then
    s.reply (.error ⟨"Select unique device identifiers.", 422⟩)
  else if s.holder ≠ .free then s
  else if s.closed then s.reply (.error ⟨"The batch worker is shutting down.", 503⟩)
  else if s.busy then s.reply (.error ⟨"A batch is already active.", 409⟩)
  else { s with holder := .start (.checking ids ids) }

/-- `set_job_status`. -/
def setStatus (available : Bool) (db : Db Token) (jobId status : String) (error : Value) :
    Except PyError Unit × Db Token :=
  reach available db (setJobStatus S.platform S.store db jobId (.str status) error)

/-- `_fail`. -/
def State.fails (s : State Token) (available : Bool) (jobId message : String) : State Token :=
  { s with
    db := (setStatus S available s.db jobId "failed" (.str message)).2
    unfailed := missing available s.unfailed jobId }.missed available jobId

/-- `create_job`, and the error of `store_call`. -/
def State.creates (s : State Token) (input : Input) (ids : List String) : State Token :=
  match reach input.available s.db (createJob S.platform S.store s.db input.fresh (.list (ids.map .str))) with
  | (.ok job, db) => { s with
      db
      holder := .start (.submitting job)
      created := s.created ++ [⟨job.id, ids, s.db⟩] }
  | (.error error, db) => { s with db, holder := .free }.reply (.error (managementError error))

def checkedConnection (available : Bool) (db : Db Token) (connectionId : String) : Except ManagementError Unit := do
  let profile ← storeCall (reach available db (get S.platform S.store db "connections" connectionId, db)).1
  checkTestProvider S.provider (entriesOf profile)

def State.advance (s : State Token) (input : Input) : State Token :=
  match s.holder with
  | .start (.checking ids (connectionId :: rest)) =>
      match checkedConnection S input.available s.db connectionId with
      | .ok () => { s with holder := .start (.checking ids rest) }
      | .error error => { s with holder := .free }.reply (.error error)
  | .start (.checking ids []) => s.creates S input ids
  | .start (.submitting job) =>
      if input.submits && !s.executorClosed then
        { s with holder := .free, queue := s.queue ++ [job.id], future := some job.id }.reply (.ok job)
      else { s with holder := .start (.unscheduled job.id) }
  | .start (.unscheduled jobId) =>
      { s.fails S input.available jobId "The batch could not be scheduled." with holder := .free }.reply
        (.error ⟨"The batch could not be scheduled.", 503⟩)
  | .free | .shutdown => s

/-- A store call of `_run` raised. -/
def State.breaks (s : State Token) (available : Bool) (jobId : String) : State Token :=
  { s with worker := some (jobId, .failing "Batch processing failed.") }.missed available jobId

/-- The body of the loop of `_run`. -/
def State.tries (s : State Token) (jobId connectionId : String) (profile : Dict) (rest : List (String × Dict))
    (answer : Answer) : State Token :=
  if s.stop then { s with worker := some (jobId, .failing "Batch interrupted by application shutdown.") }
  else match tested S connectionId profile answer with
    | some result => { s with
        worker := some (jobId, .recording result rest)
        tests := s.tests ++ [(jobId, connectionId, answer)] }
    | none => { s with worker := some (jobId, .failing "Batch processing failed.") }

/-- `_run`. -/
def State.runs (s : State Token) (jobId : String) (input : Input) : Running → State Token
  | .begun =>
      match setStatus S input.available s.db jobId "running" .none with
      | (.ok _, db) => { s with db, worker := some (jobId, .marked) }
      | (.error _, db) => { s with db }.breaks input.available jobId
  | .marked =>
      match reach input.available s.db (getJobConnections S.platform S.store s.db jobId, s.db) with
      | (.ok profiles, db) => { s with db, worker := some (jobId, .testing profiles) }
      | (.error _, db) => { s with db }.breaks input.available jobId
  | .testing [] =>
      match setStatus S input.available s.db jobId "completed" .none with
      | (.ok _, db) => { s with db, worker := some (jobId, .returned) }
      | (.error _, db) => { s with db }.breaks input.available jobId
  | .testing ((connectionId, profile) :: rest) => s.tries S jobId connectionId profile rest input.answer
  | .recording result rest =>
      match reach input.available s.db (recordJobResult S.platform S.store s.db jobId (.dict result)) with
      | (.ok _, db) => { s with db, worker := some (jobId, .testing rest) }
      | (.error _, db) => { s with db }.breaks input.available jobId
  | .failing message => { s.fails S input.available jobId message with worker := some (jobId, .returned) }
  | .returned => { s with worker := none, ended := s.ended ++ [jobId] }

def State.works (s : State Token) (input : Input) : State Token :=
  match s.worker with
  | some (jobId, place) => s.runs S jobId input place
  | none => match s.queue with
    | jobId :: rest => { s with queue := rest, worker := some (jobId, .begun) }
    | [] => s

/-- `shutdown`. -/
def State.shutsDown (s : State Token) : State Token :=
  match s.shutdown with
  | .uncalled => if s.holder = .free then { s with closed := true, holder := .shutdown, shutdown := .closing } else s
  | .closing => { s with stop := true, holder := .free, shutdown := .stopped }
  | .stopped => { s with executorClosed := true, shutdown := .waiting }
  | .waiting => if s.queue = [] ∧ s.worker.isNone then { s with shutdown := .returned } else s
  | .returned => s

/-- An action a thread is not at changes nothing. -/
def step : Action → State Token → State Token
  | .request call, s => if otherOp call.op then { s with db := after S.platform call s.db } else s
  | .start ids, s => s.starts ids
  | .advance input, s => s.advance S input
  | .work input, s => s.works S input
  | .shutdown, s => s.shutsDown

end

end NetworkGateway.Batches
