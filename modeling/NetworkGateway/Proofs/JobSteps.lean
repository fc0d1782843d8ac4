import NetworkGateway.Dal.Store

/-! What one call can do to the jobs table. -/

namespace NetworkGateway.Store

open Library.Dict Library.Result Library.Table

section

variable {Token : Type}

def newJob (id : String) (snapshot : Token) (total : Nat) : JobRow Token :=
  ⟨id, .queued, total, 0, snapshot, [], none, some 1⟩

/-- The jobs tables a call can leave, with the guards it has passed. -/
inductive JobsStep (P : Platform Token) (self : GatewayStore) (fresh : Fresh) (db : Db Token)
    (jobs : List (JobRow Token)) : Prop where
  | unchanged (same : jobs = db.jobs)
  | recovered (same : jobs = db.jobs.map recoverJob)
  | created (ids : List String) (entries : List (String × Dict)) (distinct : ids.Nodup)
      (nonempty : ids ≠ []) (idle : activeJob db.jobs = false)
      (unused : find JobRow.id db.jobs fresh.id = none)
      (resolved : each (snapshotEntry P self db) ids = .ok entries)
      (same : jobs = db.jobs ++
        [newJob fresh.id (P.encrypt self.key fresh.iv (encodeSnapshot entries)) entries.length])
  | recorded (jobId id : String) (job : JobRow Token) (snapshot : Value)
      (entries : List (String × Dict)) (profile result : Dict) (cleaned : JobResult)
      (found : find JobRow.id db.jobs jobId = some job) (active : job.status.active = true)
      (opened : Secrets.decrypt P self job.snapshot = .ok snapshot)
      (decoded : decodeSnapshot snapshot = .ok entries)
      (entry : resultEntry entries result = .ok (id, profile))
      (unseen : ∀ held ∈ job.results, held.connectionId ≠ id)
      (accepted : cleanedResult P (Secrets.credentialValues snapshot) id profile result = .ok cleaned)
      (same : jobs = replace JobRow.id db.jobs jobId (addResult cleaned))
  | moved (jobId : String) (job : JobRow Token) (status : JobStatus) (error : Option String)
      (found : find JobRow.id db.jobs jobId = some job)
      (allowed : status ∈ allowedStatus job.status)
      (full : status = .completed → job.completed = job.total)
      (same : jobs = replace JobRow.id db.jobs jobId (moveTo status error))

variable {P : Platform Token} {self : GatewayStore} {fresh : Fresh} {db written : Db Token}

theorem createJobRow_ok {ids : List String} {job : PublicJob} :
    createJobRow P self db fresh ids = .ok (job, written) ↔
      ∃ entries, activeJob db.jobs = false ∧ each (snapshotEntry P self db) ids = .ok entries ∧
        find JobRow.id db.jobs fresh.id = none ∧
        job = publicJob (newJob fresh.id (P.encrypt self.key fresh.iv (encodeSnapshot entries)) entries.length) ∧
        written = { db with jobs := db.jobs ++
          [newJob fresh.id (P.encrypt self.key fresh.iv (encodeSnapshot entries)) entries.length] } := by
  unfold createJobRow write
  simp only [bind_eq_ok, raiseWhen_ok, pure_eq, Except.ok.injEq, Prod.mk.injEq, Bool.false_eq_true,
    if_false, exists_const]
  constructor
  · rintro ⟨idle, entries, resolved, jobs, inserted, rfl, rfl⟩
    split at inserted
    · cases inserted
    · rename_i absent
      obtain rfl := Except.ok.inj inserted
      exact ⟨entries, idle, resolved, by simpa using absent, rfl, rfl⟩
  · rintro ⟨entries, idle, resolved, unused, rfl, rfl⟩
    exact ⟨idle, entries, resolved, _, by rw [if_neg (by simp [unused])]; rfl, rfl, rfl⟩

theorem recordJobResultRow_ok {jobId : String} {result : Dict} {u : Unit} :
    recordJobResultRow P self db jobId result = .ok (u, written) ↔
      ∃ job snapshot entries id profile cleaned,
        find JobRow.id db.jobs jobId = some job ∧ job.status.active = true ∧
        Secrets.decrypt P self job.snapshot = .ok snapshot ∧
        decodeSnapshot snapshot = .ok entries ∧ resultEntry entries result = .ok (id, profile) ∧
        (∀ held ∈ job.results, held.connectionId ≠ id) ∧
        cleanedResult P (Secrets.credentialValues snapshot) id profile result = .ok cleaned ∧
        written = { db with jobs := replace JobRow.id db.jobs jobId (addResult cleaned) } := by
  unfold recordJobResultRow
  simp only [bind_eq_ok, raiseWhen_ok, row_ok, pure_eq, Except.ok.injEq, Prod.mk.injEq, exists_const,
    true_and]
  constructor
  · rintro ⟨job, found, active, snapshot, opened, entries, decoded, ⟨id, profile⟩, entry, unseen,
      cleaned, accepted, rfl⟩
    exact ⟨job, snapshot, entries, id, profile, cleaned, found, by simpa using active, opened, decoded,
      entry, by simpa using unseen, accepted, rfl⟩
  · rintro ⟨job, snapshot, entries, id, profile, cleaned, found, active, opened, decoded, entry, unseen,
      accepted, rfl⟩
    exact ⟨job, found, by simp [active], snapshot, opened, entries, decoded, (id, profile), entry,
      by simpa using unseen, cleaned, accepted, rfl⟩

theorem setJobStatusRow_ok {jobId : String} {status : JobStatus} {error : Value} {u : Unit} :
    setJobStatusRow P self db jobId status error = .ok (u, written) ↔
      ∃ job snapshot, find JobRow.id db.jobs jobId = some job ∧
        status ∈ allowedStatus job.status ∧ (status = .completed → job.completed = job.total) ∧
        Secrets.decrypt P self job.snapshot = .ok snapshot ∧
        written = { db with jobs := replace JobRow.id db.jobs jobId (moveTo status
          (if error.truthy then some (Secrets.redact P error (Secrets.credentialValues snapshot))
            else none)) } := by
  unfold setJobStatusRow
  simp only [bind_eq_ok, raiseWhen_ok, row_ok, pure_eq, Except.ok.injEq, Prod.mk.injEq, exists_const,
    true_and]
  constructor
  · rintro ⟨job, found, allowed, full, snapshot, opened, rfl⟩
    refine ⟨job, snapshot, found, by simpa using allowed, ?_, opened, rfl⟩
    rintro rfl
    simpa using full
  · rintro ⟨job, snapshot, found, allowed, full, opened, rfl⟩
    refine ⟨job, found, by simpa using allowed, ?_, snapshot, opened, rfl⟩
    by_cases done : status = .completed
    · simp [full done]
    · simp [done]

end

end NetworkGateway.Store
