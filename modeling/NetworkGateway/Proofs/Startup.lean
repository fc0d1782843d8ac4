import NetworkGateway.Dal.Bench
import NetworkGateway.Dal.Jobs

/-! Opening a store: nothing is touched unless everything stored can be read. -/

namespace NetworkGateway.Store

open Library.Result

section

variable {Token : Type} {P : Platform Token} {key : String} {db : Db Token}

def Unseals (P : Platform Token) (key : String) (token : Token) : Prop := ∃ value, P.decrypt key token = some value

/-- Everything stored under encryption opens under the key. -/
structure Decryptable (P : Platform Token) (key : String) (db : Db Token) : Prop where
  roleAccounts : ∀ role ∈ db.roleAccounts, Unseals P key role.secrets
  proxies : ∀ proxy ∈ db.proxies, Unseals P key proxy.secrets
  connections : ∀ connection ∈ db.connections, Unseals P key connection.secrets
  snapshots : ∀ job ∈ db.jobs, Unseals P key job.snapshot

/-- The constraint `job_active_slot` of the jobs table. -/
def SlotFollows (job : JobRow Token) : Prop := job.activeSlot = if job.status.active then some 1 else none

/-- A queued or running job is failed and gives up its slot; one that has ended stays as it is. -/
structure Interrupted (job after : JobRow Token) : Prop where
  progress : (after.id, after.total, after.completed, after.results, after.snapshot) =
    (job.id, job.total, job.completed, job.results, job.snapshot)
  failed : job.status = .queued ∨ job.status = .running →
    after.status = .failed ∧ after.activeSlot = none ∧ after.error = some interruptedError
  ended : job.status = .completed ∨ job.status = .failed → after = job

/-- The jobs are interrupted one by one, and every other table is left alone. -/
structure Recovered (db after : Db Token) : Prop where
  jobs : List.Forall₂ Interrupted db.jobs after.jobs
  others : after = { db with jobs := after.jobs }

/-! Jobs. -/

theorem recoverJob_ended {job : JobRow Token} (free : job.activeSlot = none) : recoverJob job = job := by
  unfold recoverJob
  rw [free, if_neg (Option.some_ne_none 1).symm]

theorem recoverJob_free {job : JobRow Token} (follows : SlotFollows job) : (recoverJob job).activeSlot = none := by
  unfold recoverJob
  by_cases held : job.activeSlot = some 1
  · rw [if_pos held]
  · rw [if_neg held]
    unfold SlotFollows at follows
    cases active : job.status.active with
    | true =>
        rw [active, if_pos rfl] at follows
        exact absurd follows held
    | false => rw [follows, active, if_neg Bool.false_ne_true]

theorem recoverJob_interrupted {job : JobRow Token} (follows : SlotFollows job) : Interrupted job (recoverJob job) := by
  unfold SlotFollows at follows
  refine ⟨?_, ?_, ?_⟩
  · unfold recoverJob
    by_cases held : job.activeSlot = some 1
    · rw [if_pos held]
    · rw [if_neg held]
  · intro active
    have held : job.activeSlot = some 1 := by rcases active with active | active <;> rw [follows, active] <;> rfl
    rw [recoverJob, if_pos held]
    exact ⟨rfl, rfl, rfl⟩
  · intro ended
    apply recoverJob_ended
    rcases ended with ended | ended <;> rw [follows, ended] <;> rfl

theorem recovered_jobs (follow : ∀ job ∈ db.jobs, SlotFollows job) :
    Recovered db { db with jobs := db.jobs.map recoverJob } := by
  refine ⟨?_, rfl⟩
  rw [List.forall₂_map_right_iff, List.forall₂_same]
  exact fun job member => recoverJob_interrupted (follow job member)

theorem recover_again (follow : ∀ job ∈ db.jobs, SlotFollows job) :
    (db.jobs.map recoverJob).map recoverJob = db.jobs.map recoverJob := by
  rw [List.map_map]
  exact List.map_congr_left fun job member => recoverJob_ended (recoverJob_free (follow job member))

/-! Secrets. -/

theorem decryptable_iff : Decryptable P key db ↔ ∀ token ∈ storedTokens db, Unseals P key token := by
  simp only [storedTokens, List.mem_append, or_imp, forall_and, List.forall_mem_map]
  constructor
  · rintro ⟨roleAccounts, proxies, connections, snapshots⟩
    exact ⟨⟨⟨roleAccounts, proxies⟩, connections⟩, snapshots⟩
  · rintro ⟨⟨⟨roleAccounts, proxies⟩, connections⟩, snapshots⟩
    exact ⟨roleAccounts, proxies, connections, snapshots⟩

/-- Recovery keeps every secret and snapshot. -/
theorem storedTokens_recovered (db : Db Token) : storedTokens { db with jobs := db.jobs.map recoverJob } = storedTokens db := by
  have kept : ((db.jobs.map recoverJob).map JobRow.snapshot) = db.jobs.map JobRow.snapshot := by
    rw [List.map_map]
    apply List.map_congr_left
    intro job _
    change (recoverJob job).snapshot = job.snapshot
    unfold recoverJob
    by_cases held : job.activeSlot = some 1
    · rw [if_pos held]
    · rw [if_neg held]
  unfold storedTokens
  rw [kept]

theorem unopened {raised : PyError} {self : GatewayStore} {token : Token}
    (failed : Secrets.decrypt P self token = .error raised) :
    raised = .secret "Stored credentials could not be decrypted." ∧ ¬Unseals P self.key token := by
  unfold Secrets.decrypt at failed
  cases found : P.decrypt self.key token with
  | some value =>
      rw [found] at failed
      cases failed
  | none =>
      rw [found] at failed
      refine ⟨(Except.error.inj failed).symm, ?_⟩
      rintro ⟨value, opened⟩
      rw [found] at opened
      cases opened

/-! The constructor. -/

section Opening

variable (present : key ≠ "") (valid : P.validKey key = true)

include present valid

theorem openStore_eq : openStore P db key = transaction ⟨key, false⟩ db (do
    let _ ← each (Secrets.decrypt P ⟨key, false⟩) (storedTokens db)
    return (⟨key, false⟩, { db with jobs := db.jobs.map recoverJob })) := by
  rw [openStore, if_neg present, valid]
  rfl

theorem openStore_decryptable (readable : Decryptable P key db) :
    openStore P db key = (.ok ⟨key, false⟩, { db with jobs := db.jobs.map recoverJob }) := by
  rw [openStore_eq present valid]
  cases opened : each (Secrets.decrypt P ⟨key, false⟩) (storedTokens db) with
  | ok values => rfl
  | error raised =>
      rcases each_error _ _ _ opened with ⟨token, stored, failed⟩
      exact absurd (decryptable_iff.mp readable token stored) (unopened failed).2

theorem openStore_undecryptable (unreadable : ¬Decryptable P key db) :
    openStore P db key = (.error (.store "Stored credentials could not be decrypted." 503), db) := by
  rw [openStore_eq present valid]
  cases opened : each (Secrets.decrypt P ⟨key, false⟩) (storedTokens db) with
  | error raised =>
      rcases each_error _ _ _ opened with ⟨token, -, failed⟩
      rw [(unopened failed).1]
      rfl
  | ok values =>
      refine absurd (decryptable_iff.mpr ?_) unreadable
      intro token stored
      rcases each_mem opened stored with ⟨value, read⟩
      unfold Secrets.decrypt at read
      cases found : P.decrypt key token with
      | some value => exact ⟨value, found⟩
      | none =>
          rw [found] at read
          cases read

theorem open_all_or_nothing (follow : ∀ job ∈ db.jobs, SlotFollows job) :
    (Decryptable P key db ∧ (openStore P db key).1 = .ok ⟨key, false⟩ ∧ Recovered db (openStore P db key).2 ∨
      ¬Decryptable P key db ∧
        (openStore P db key).1 = .error (.store "Stored credentials could not be decrypted." 503) ∧
        (openStore P db key).2 = db) ∧
    openStore P (openStore P db key).2 key = openStore P db key := by
  by_cases readable : Decryptable P key db
  · have opened := openStore_decryptable present valid readable
    have still : Decryptable P key { db with jobs := db.jobs.map recoverJob } := by
      rw [decryptable_iff, storedTokens_recovered]
      exact decryptable_iff.mp readable
    rw [opened]
    refine ⟨.inl ⟨readable, rfl, recovered_jobs follow⟩, ?_⟩
    rw [openStore_decryptable present valid still]
    rw [recover_again follow]
  · have failed := openStore_undecryptable present valid readable
    rw [failed]
    exact ⟨.inr ⟨readable, rfl, rfl⟩, failed⟩

end Opening

end

def zeroKey : String := "AAAAAAAAAAAAAAAAAAAAAAAAAAAAAAAAAAAAAAAAAAA="

def interruptedTest : Db Platform.SealedToken :=
  { Db.empty with
    roleAccounts := [⟨"role", "operator", "ops", .password, (zeroKey, .dict [("password", .str "hunter2")])⟩]
    jobs := [⟨"old", .completed, 1, 1, (zeroKey, .list []), [], none, none⟩,
      ⟨"new", .running, 2, 1, (zeroKey, .list []), [], none, some 1⟩] }

theorem open_all_or_nothing_bench :
    (openStore Platform.bench interruptedTest zeroKey).1 = .ok ⟨zeroKey, false⟩ ∧
      Recovered interruptedTest (openStore Platform.bench interruptedTest zeroKey).2 ∧
      (openStore Platform.bench interruptedTest zeroKey).2.jobs.map JobRow.status = [.completed, .failed] := by
  have follow : ∀ job ∈ interruptedTest.jobs, SlotFollows job := by
    unfold interruptedTest SlotFollows
    simp only [List.forall_mem_cons, List.not_mem_nil, false_implies, implies_true, and_true]
    decide
  have opens : ∀ token ∈ storedTokens interruptedTest, Unseals Platform.bench zeroKey token := by
    unfold interruptedTest storedTokens
    simp only [Db.empty, List.map_cons, List.map_nil, List.nil_append, List.append_nil, List.cons_append,
      List.forall_mem_cons, List.not_mem_nil, false_implies, implies_true, and_true]
    exact ⟨⟨_, rfl⟩, ⟨_, rfl⟩, ⟨_, rfl⟩⟩
  have present : zeroKey ≠ "" := by decide
  have valid : Platform.bench.validKey zeroKey = true := by decide
  rcases open_all_or_nothing present valid follow with
    ⟨⟨-, opened, recovered⟩ | ⟨unreadable, -⟩, -⟩
  · exact ⟨opened, recovered, rfl⟩
  · exact absurd (decryptable_iff.mpr opens) unreadable

end NetworkGateway.Store
