import NetworkGateway.Dal.Resources

/-! `app/dal/db/store.py`: opening a store, and connection-test jobs with their
encrypted snapshots. -/

namespace NetworkGateway.Store

open Library.Dict Library.Result Library.Table

def encodeSnapshot (entries : List (String × Dict)) : Value :=
  .list (entries.map (fun e => .dict [("id", .str e.1), ("profile", .dict e.2)]))

/-- One element of a decrypted snapshot, read through `item["id"]` and `item["profile"]`. -/
def decodeEntry (item : Value) : Except PyError (String × Dict) :=
  match item with
  | .dict fields => match fields.lookup "id", fields.lookup "profile" with
    | some (.str id), some (.dict profile) => .ok (id, profile)
    | some _, some _ => .error .type
    | _, _ => .error .key
  | _ => .error .type

def decodeSnapshot (snapshot : Value) : Except PyError (List (String × Dict)) :=
  match snapshot with
  | .list items => each decodeEntry items
  | _ => .error .type

theorem decode_encodeSnapshot (entries : List (String × Dict)) :
    decodeSnapshot (encodeSnapshot entries) = .ok entries := by
  simp only [decodeSnapshot, encodeSnapshot, each_eq_ok]
  induction entries with
  | nil => simp
  | cons entry rest ih =>
      rw [List.map_cons]
      exact .cons rfl ih

/-- `profile[key]`. -/
def item (profile : Dict) (key : String) : Except PyError Value :=
  match profile.lookup key with
  | some value => .ok value
  | none => .error .key

@[simp] theorem item_ok (profile : Dict) (key : String) (value : Value) :
    item profile key = .ok value ↔ profile.lookup key = some value := by
  unfold item
  cases profile.lookup key <;> simp

section

variable {Token : Type} (P : Platform Token) (self : GatewayStore)

/-- The secrets and snapshots the constructor decrypts before recovering jobs. -/
def storedTokens (db : Db Token) : List Token :=
  db.roleAccounts.map (·.secrets) ++ db.proxies.map (·.secrets) ++
    db.connections.map (·.secrets) ++ db.jobs.map (·.snapshot)

def interruptedError : String := "Interrupted by gateway restart."

/-- `UPDATE ... WHERE active_slot = 1` of the constructor. -/
def recoverJob (job : JobRow Token) : JobRow Token :=
  if job.activeSlot = some 1 then
    { job with status := .failed, activeSlot := none, error := some interruptedError }
  else job

/-- `GatewayStore.__init__` on a configured database. -/
def openStore (db : Db Token) (key : String) : Except PyError GatewayStore × Db Token :=
  if key = "" then
    (.error (.store "GATEWAY_SECRET_KEY is required for encrypted credential storage." 503), db)
  else if !P.validKey key then
    (.error (.store "GATEWAY_SECRET_KEY must be a valid Fernet key." 503), db)
  else
    transaction ⟨key, false⟩ db do
      let _ ← each (Secrets.decrypt P ⟨key, false⟩) (storedTokens db)
      return (⟨key, false⟩, { db with jobs := db.jobs.map recoverJob })

structure PublicJob where
  id : String
  status : JobStatus
  total : Nat
  completed : Nat
  results : List JobResult
  error : Option String
  deriving DecidableEq

def publicJob (job : JobRow Token) : PublicJob :=
  ⟨job.id, job.status, job.total, job.completed, job.results, job.error.filter (· ≠ "")⟩

/-- The argument checks of `create_job`. -/
def selection (connectionIds : Value) : Except PyError (List String) :=
  let error := invalid "Select between 1 and 1000 connections."
  match connectionIds with
  | .list items =>
      if items.isEmpty || 1000 < items.length then .error error
      else match Value.strings items with
        | some ids =>
            if ids.Nodup then .ok ids else .error (invalid "Connection IDs must be unique.")
        | none => .error error
  | _ => .error error

def activeJob (jobs : List (JobRow Token)) : Bool := jobs.any (fun job => job.activeSlot == some 1)

def snapshotEntry (db : Db Token) (id : String) : Except PyError (String × Dict) := do
  let profile ← resolveConnection P self db id
  return (id, profile)

def createJobRow (db : Db Token) (fresh : Fresh) (ids : List String) :
    Except PyError (PublicJob × Db Token) := do
  raiseWhen (activeJob db.jobs) (.store "A connection-test job is already active." 409)
  let snapshot ← each (snapshotEntry P self db) ids
  let job : JobRow Token := ⟨fresh.id, .queued, snapshot.length, 0,
    Secrets.encrypt P self fresh.iv (encodeSnapshot snapshot), [], none, some 1⟩
  let jobs ← write JobRow.id db.jobs false job
  return (publicJob job, { db with jobs })

def createJob (db : Db Token) (fresh : Fresh) (connectionIds : Value) :
    Except PyError PublicJob × Db Token :=
  checked db (selection connectionIds) fun ids =>
  transaction self db (createJobRow P self db fresh ids)

def getJob (db : Db Token) (jobId : String) : Except PyError PublicJob :=
  reading self do
    let job ← row (find JobRow.id db.jobs jobId)
    return publicJob job

def getJobConnections (db : Db Token) (jobId : String) : Except PyError (List (String × Dict)) :=
  reading self do
    let job ← row (find JobRow.id db.jobs jobId)
    let entries ← decodeSnapshot (← Secrets.decrypt P self job.snapshot)
    return entries.map (fun e => (e.1, merge [("client_type", .str "network")] e.2))

/-- The least magnitude of an `int` that rounds to no `float`: 2^1024 - 2^970. -/
def floatLimit : Nat := (Nat.pow 2 54 - 1) * Nat.pow (Nat.pow 2 97) 10

/-- A finite, non-negative number; `math.isfinite` raises for an `int` outside the doubles. -/
def duration (value : Value) : Except PyError Value :=
  let error := invalid "Invalid result duration."
  match value with
  | .int n =>
      if floatLimit ≤ n.natAbs then .error .overflow
      else if n < 0 then .error error else .ok value
  | .float (.finite q) => if q < 0 then .error error else .ok value
  | _ => .error error

def successFlag (value : Value) : Except PyError Bool :=
  match value with
  | .bool b => .ok b
  | _ => .error (invalid "Invalid result success value.")

/-- The `cleaned` result `record_job_result` stores for the entry `(id, profile)`. -/
def cleanedResult (secrets : List String) (id : String) (profile result : Dict) :
    Except PyError JobResult := do
  let durationMs ← duration (Dict.getOr result "duration_ms" (.int 0))
  let success ← successFlag (Dict.get result "success")
  let simulated := Dict.getOr profile "client_type" (.str "network") == .str "fake"
  raiseWhen (Dict.has result "simulated" && Dict.get result "simulated" != .bool simulated)
    (invalid "Result simulation flag does not match the stored connection.")
  let name ← item profile "name"
  let protocol ← item profile "protocol"
  let host ← item profile "host"
  let port ← item profile "port"
  let connector ← asDict (← item profile "connector")
  let connectorType ← item connector "type"
  return {
    connectionId := id
    name := Secrets.redact P name secrets
    protocol
    host := Secrets.redact P host secrets
    port, connectorType, success, simulated
    stage := Secrets.redact P (Dict.getOr result "stage" (.str "unknown")) secrets
    detail := Secrets.redact P (Dict.getOr result "detail" (.str "")) secrets
    durationMs }

/-- The connection id of a result, if it belongs to the snapshot. -/
def resultEntry (snapshot : List (String × Dict)) (result : Dict) : Except PyError (String × Dict) :=
  let error := invalid "Result connection does not belong to this job."
  match Dict.get result "connection_id" with
  | .str id => match snapshot.reverse.lookup id with
    | some profile => .ok (id, profile)
    | none => .error error
  | _ => .error error

def addResult (cleaned : JobResult) (job : JobRow Token) : JobRow Token :=
  let results := job.results ++ [cleaned]
  { job with results, completed := results.length }

def recordJobResultRow (db : Db Token) (jobId : String) (result : Dict) :
    Except PyError (Unit × Db Token) := do
  let job ← row (find JobRow.id db.jobs jobId)
  raiseWhen (!job.status.active) (.store "Job is not active." 409)
  let snapshot ← Secrets.decrypt P self job.snapshot
  let entries ← decodeSnapshot snapshot
  let (id, profile) ← resultEntry entries result
  raiseWhen (job.results.any (fun held => held.connectionId == id))
    (.store "A result already exists for this connection." 409)
  let cleaned ← cleanedResult P (Secrets.credentialValues snapshot) id profile result
  return ((), { db with jobs := replace JobRow.id db.jobs jobId (addResult cleaned) })

def recordJobResult (db : Db Token) (jobId : String) (result : Value) :
    Except PyError Unit × Db Token :=
  match result with
  | .dict result => transaction self db (recordJobResultRow P self db jobId result)
  | _ => (.error (invalid "Invalid job result."), db)

def jobStatus (value : Value) : Except PyError JobStatus :=
  match value with
  | .str text => match JobStatus.ofText text with
    | some status => .ok status
    | none => .error (invalid "Invalid job status.")
  | _ => .error (invalid "Invalid job status.")

/-- The `allowed` table of `set_job_status`. -/
def allowedStatus : JobStatus → List JobStatus
  | .queued => [.queued, .running, .failed]
  | .running => [.running, .completed, .failed]
  | .completed => [.completed]
  | .failed => [.failed]

def moveTo (status : JobStatus) (error : Option String) (job : JobRow Token) : JobRow Token :=
  { job with status, activeSlot := if status.active then some 1 else none, error }

def setJobStatusRow (db : Db Token) (jobId : String) (status : JobStatus) (error : Value) :
    Except PyError (Unit × Db Token) := do
  let job ← row (find JobRow.id db.jobs jobId)
  raiseWhen (!(allowedStatus job.status).contains status)
    (.store "Invalid job status transition." 409)
  raiseWhen (status == .completed && job.completed != job.total)
    (.store "Cannot complete a job with missing results." 409)
  let snapshot ← Secrets.decrypt P self job.snapshot
  let cleanError :=
    if error.truthy then some (Secrets.redact P error (Secrets.credentialValues snapshot)) else none
  return ((), { db with jobs := replace JobRow.id db.jobs jobId (moveTo status cleanError) })

def setJobStatus (db : Db Token) (jobId : String) (status error : Value) :
    Except PyError Unit × Db Token :=
  checked db (jobStatus status) fun status =>
  transaction self db (setJobStatusRow P self db jobId status error)

end

end NetworkGateway.Store
