import Mathlib.Data.List.Perm.Subperm
import NetworkGateway.Proofs.Frames

/-! Jobs over whole runs: the counters, the single active slot, and what a job
keeps of the snapshot it was created with. -/

namespace NetworkGateway.Store

open Library.Dict Library.Result Library.Run Library.Table

section

variable {Token : Type} {P : Platform Token}

/-- The columns of a result that come from the snapshot and not from the worker. -/
structure Describes (P : Platform Token) (secrets : List String) (profile : Dict) (result : JobResult) :
    Prop where
  name : ∃ value, profile.lookup "name" = some value ∧ result.name = Secrets.redact P value secrets
  host : ∃ value, profile.lookup "host" = some value ∧ result.host = Secrets.redact P value secrets
  protocol : profile.lookup "protocol" = some result.protocol
  port : profile.lookup "port" = some result.port
  connectorType : ∃ connector, profile.lookup "connector" = some (.dict connector) ∧
    connector.lookup "type" = some result.connectorType
  simulated : result.simulated = (Dict.getOr profile "client_type" (.str "network") == .str "fake")

structure Tracks (P : Platform Token) (entries : List (String × Dict)) (job : JobRow Token) : Prop where
  snapshot : ∃ key iv, job.snapshot = P.encrypt key iv (encodeSnapshot entries)
  distinct : (entries.map Prod.fst).Nodup
  total : job.total = entries.length
  completed : job.completed = job.results.length
  once : (job.results.map JobResult.connectionId).Nodup
  described : ∀ result ∈ job.results, ∃ profile, (result.connectionId, profile) ∈ entries ∧
    Describes P (Secrets.credentialValues (encodeSnapshot entries)) profile result
  full : job.status = .completed → job.completed = job.total
  slot : job.activeSlot = if job.status.active then some 1 else none

structure JobsSound (P : Platform Token) (jobs : List (JobRow Token)) : Prop where
  keyed : Keyed JobRow.id jobs
  tracked : ∀ job ∈ jobs, ∃ entries, Tracks P entries job
  single : jobs.countP (·.status.active) ≤ 1

namespace Tracks

variable {entries : List (String × Dict)} {job : JobRow Token}

theorem subset (tracks : Tracks P entries job) :
    job.results.map JobResult.connectionId ⊆ entries.map Prod.fst := by
  intro id member
  obtain ⟨result, held, rfl⟩ := List.mem_map.mp member
  obtain ⟨profile, entry, -⟩ := tracks.described result held
  exact List.mem_map_of_mem (f := Prod.fst) entry

theorem bounded (tracks : Tracks P entries job) : job.completed ≤ job.total := by
  have smaller := (List.subperm_of_subset tracks.once tracks.subset).length_le
  rw [tracks.completed, tracks.total]
  simpa using smaller

theorem exact_results (tracks : Tracks P entries job) (full : job.completed = job.total) :
    (job.results.map JobResult.connectionId).Perm (entries.map Prod.fst) := by
  apply (List.subperm_of_subset tracks.once tracks.subset).perm_of_length_le
  have counted := tracks.completed
  have total := tracks.total
  simp only [List.length_map]
  omega

theorem slot_iff (tracks : Tracks P entries job) :
    job.activeSlot = some 1 ↔ job.status.active = true := by
  rw [tracks.slot]
  cases job.status.active <;> simp

end Tracks

theorem cleanedResult_ok {secrets : List String} {id : String} {profile result : Dict} {cleaned : JobResult}
    (accepted : cleanedResult P secrets id profile result = .ok cleaned) :
    cleaned.connectionId = id ∧ Describes P secrets profile cleaned := by
  simp only [cleanedResult, bind_eq_ok, raiseWhen_ok, item_ok, asDict_ok, pure_eq, Except.ok.injEq]
    at accepted
  obtain ⟨_, _, _, _, _, _, name, named, protocol, protocolHeld, host, hosted, port, portHeld, _,
    connectorHeld, connector, rfl, kind, kindHeld, rfl⟩ := accepted
  exact ⟨rfl, ⟨name, named, rfl⟩, ⟨host, hosted, rfl⟩, protocolHeld, portHeld,
    ⟨connector, connectorHeld, kindHeld⟩, rfl⟩

theorem resultEntry_ok {entries : List (String × Dict)} {result : Dict} {id : String} {profile : Dict}
    (entry : resultEntry entries result = .ok (id, profile)) : (id, profile) ∈ entries := by
  unfold resultEntry at entry
  split at entry
  · split at entry
    · rename_i found
      obtain ⟨rfl, rfl⟩ := Prod.mk.inj (Except.ok.inj entry)
      obtain ⟨before, after, split, -⟩ := List.lookup_eq_some_iff.mp found
      rw [← List.mem_reverse, split]
      simp
    · cases entry
  · cases entry

theorem snapshotEntries_ids {self : GatewayStore} {db : Db Token} {ids : List String}
    {entries : List (String × Dict)} (resolved : each (snapshotEntry P self db) ids = .ok entries) :
    entries.map Prod.fst = ids := by
  have pairwise := (each_eq_ok _ _ _).mp resolved
  clear resolved
  induction pairwise with
  | nil => rfl
  | cons head _ ih =>
      simp only [snapshotEntry, bind_eq_ok, pure_eq, Except.ok.injEq] at head
      obtain ⟨_, _, rfl⟩ := head
      rw [List.map_cons, ih]

/-! What each write does to one tracked job. -/

theorem newJob_tracks {id : String} {key : String} {iv : Nat} {entries : List (String × Dict)}
    (distinct : (entries.map Prod.fst).Nodup) :
    Tracks P entries (newJob id (P.encrypt key iv (encodeSnapshot entries)) entries.length) where
  snapshot := ⟨key, iv, rfl⟩
  distinct := distinct
  total := rfl
  completed := rfl
  once := List.nodup_nil
  described := by simp [newJob]
  full := nofun
  slot := rfl

theorem recoverJob_tracks {entries : List (String × Dict)} {job : JobRow Token}
    (tracks : Tracks P entries job) : Tracks P entries (recoverJob job) := by
  unfold recoverJob
  split
  · exact { tracks with full := nofun, slot := rfl }
  · exact tracks

theorem addResult_tracks {entries : List (String × Dict)} {job : JobRow Token} {cleaned : JobResult}
    {profile : Dict} (tracks : Tracks P entries job) (active : job.status.active = true)
    (member : (cleaned.connectionId, profile) ∈ entries)
    (unseen : ∀ held ∈ job.results, held.connectionId ≠ cleaned.connectionId)
    (described : Describes P (Secrets.credentialValues (encodeSnapshot entries)) profile cleaned) :
    Tracks P entries (addResult cleaned job) where
  snapshot := tracks.snapshot
  distinct := tracks.distinct
  total := tracks.total
  completed := rfl
  once := by
    have kept : Keyed JobResult.connectionId (job.results ++ [cleaned]) := keyed_append tracks.once unseen
    exact kept
  described := by
    intro result held
    rcases List.mem_append.mp held with held | held
    · exact tracks.described result held
    · obtain rfl := List.mem_singleton.mp held
      exact ⟨profile, member, described⟩
  full := by
    intro finished
    have finished : job.status = .completed := finished
    rw [finished] at active
    cases active
  slot := tracks.slot

theorem moveTo_tracks {entries : List (String × Dict)} {job : JobRow Token} {status : JobStatus}
    {error : Option String} (tracks : Tracks P entries job)
    (full : status = .completed → job.completed = job.total) :
    Tracks P entries (moveTo status error job) :=
  { tracks with full := full, slot := rfl }

/-- A tracked job decrypts to its entries, whichever store instance reads it. -/
theorem Tracks.opened (laws : P.VaultLaws) {self : GatewayStore} {entries : List (String × Dict)}
    {job : JobRow Token} {snapshot : Value} (tracks : Tracks P entries job)
    (opened : Secrets.decrypt P self job.snapshot = .ok snapshot) : snapshot = encodeSnapshot entries := by
  obtain ⟨key, iv, same⟩ := tracks.snapshot
  rw [same] at opened
  exact Secrets.decrypt_authentic self laws opened

/-! The invariant over one step. -/

theorem countP_map_le {jobs : List (JobRow Token)} {change : JobRow Token → JobRow Token}
    (quiet : ∀ job ∈ jobs, (change job).status.active = true → job.status.active = true) :
    (jobs.map change).countP (·.status.active) ≤ jobs.countP (·.status.active) := by
  rw [List.countP_map]
  exact List.countP_mono_left quiet

theorem JobsSound.map {jobs : List (JobRow Token)} (sound : JobsSound P jobs)
    (change : JobRow Token → JobRow Token) (keeps : ∀ job, (change job).id = job.id)
    (quiet : ∀ job ∈ jobs, (change job).status.active = true → job.status.active = true)
    (tracked : ∀ job ∈ jobs, ∀ entries, Tracks P entries job → Tracks P entries (change job)) :
    JobsSound P (jobs.map change) where
  keyed := by
    unfold Keyed
    rw [List.map_map, show JobRow.id ∘ change = JobRow.id from funext keeps]
    exact sound.keyed
  tracked := by
    intro job member
    obtain ⟨held, heldMember, rfl⟩ := List.mem_map.mp member
    obtain ⟨entries, tracks⟩ := sound.tracked held heldMember
    exact ⟨entries, tracked held heldMember entries tracks⟩
  single := (countP_map_le quiet).trans sound.single

theorem JobsSound.replace {jobs : List (JobRow Token)} (sound : JobsSound P jobs) {jobId : String}
    {job : JobRow Token} {change : JobRow Token → JobRow Token} (found : find JobRow.id jobs jobId = some job)
    (keeps : ∀ job, (change job).id = job.id)
    (quiet : (change job).status.active = true → job.status.active = true)
    (tracked : ∀ entries, Tracks P entries job → Tracks P entries (change job)) :
    JobsSound P (replace JobRow.id jobs jobId change) := by
  have only : ∀ held ∈ jobs, held.id = jobId → held = job := by
    intro held member same
    have located := find_of_mem sound.keyed member
    rw [same, found] at located
    exact (Option.some.inj located).symm
  refine sound.map _ (fun held => ?_) (fun held member => ?_) (fun held member => ?_)
  · split
    · exact keeps held
    · rfl
  · split
    · rename_i same
      rw [only held member same]
      exact quiet
    · exact id
  · split
    · rename_i same
      rw [only held member same]
      exact tracked
    · exact fun _ => id

theorem active_of_allowed {status held : JobStatus} (allowed : status ∈ allowedStatus held)
    (active : status.active = true) : held.active = true := by
  cases held <;> cases status <;> simp_all [allowedStatus, JobStatus.active]

theorem no_active {jobs : List (JobRow Token)} (sound : JobsSound P jobs) (idle : activeJob jobs = false) :
    jobs.countP (·.status.active) = 0 := by
  rw [List.countP_eq_zero]
  intro job member active
  obtain ⟨entries, tracks⟩ := sound.tracked job member
  have free := List.any_eq_false.mp idle job member
  exact free (by rw [tracks.slot_iff.mpr active]; rfl)

theorem jobsStep_sound (laws : P.VaultLaws) {self : GatewayStore} {fresh : Fresh} {db : Db Token}
    {jobs : List (JobRow Token)} (step : JobsStep P self fresh db jobs) (sound : JobsSound P db.jobs) :
    JobsSound P jobs := by
  cases step with
  | unchanged same => exact same ▸ sound
  | recovered same =>
      rw [same]
      refine sound.map recoverJob (fun job => ?_) (fun job _ => ?_) (fun job _ _ => recoverJob_tracks)
      · unfold recoverJob; split <;> rfl
      · unfold recoverJob
        split
        · exact nofun
        · exact id
  | created ids entries distinct nonempty idle unused resolved same =>
      rw [same]
      rw [← snapshotEntries_ids resolved] at distinct
      refine ⟨keyed_append sound.keyed (find_eq_none.mp unused), ?_, ?_⟩
      · intro job member
        rcases List.mem_append.mp member with member | member
        · exact sound.tracked job member
        · obtain rfl := List.mem_singleton.mp member
          exact ⟨entries, newJob_tracks distinct⟩
      · rw [List.countP_append, no_active sound idle, Nat.zero_add]
        exact List.countP_le_length
  | recorded jobId id job snapshot entries profile result cleaned found active opened decoded entry unseen
      accepted same =>
      rw [same]
      obtain ⟨rfl, described⟩ := cleanedResult_ok accepted
      refine sound.replace found (fun _ => rfl) (fun _ => active) (fun held tracks => ?_)
      obtain rfl := tracks.opened laws opened
      obtain rfl := Except.ok.inj ((decode_encodeSnapshot held).symm.trans decoded)
      exact addResult_tracks tracks active (resultEntry_ok entry) unseen described
  | moved jobId job status error found allowed full same =>
      rw [same]
      exact sound.replace found (fun _ => rfl) (active_of_allowed allowed)
        (fun _ tracks => moveTo_tracks tracks full)

theorem jobsSound_empty : JobsSound P (Db.empty : Db Token).jobs :=
  ⟨List.nodup_nil, nofun, Nat.zero_le 1⟩

theorem after_sound (laws : P.VaultLaws) (call : Call) (db : Db Token) (sound : JobsSound P db.jobs) :
    JobsSound P (after P call db).jobs :=
  jobsStep_sound laws (after_change P call db).effect.jobsStep sound

theorem run_sound (laws : P.VaultLaws) {db : Db Token} (sound : JobsSound P db.jobs) (calls : List Call) :
    JobsSound P (run (after P) db calls).jobs :=
  run_invariant (fun db : Db Token => JobsSound P db.jobs) (after_sound laws) sound calls

theorem reachable_sound (laws : P.VaultLaws) {db : Db Token} (reached : Reachable P db) :
    JobsSound P db.jobs :=
  reachable_invariant (fun db : Db Token => JobsSound P db.jobs) (after_sound laws) jobsSound_empty reached

/-! What every later state keeps of a job. -/

def progress : JobStatus → Nat
  | .queued => 0
  | .running => 1
  | .completed | .failed => 2

structure Continues (job later : JobRow Token) : Prop where
  id : later.id = job.id
  snapshot : later.snapshot = job.snapshot
  total : later.total = job.total
  results : job.results <+: later.results
  forward : progress job.status ≤ progress later.status
  settled : job.status.active = false →
    later.status = job.status ∧ later.completed = job.completed ∧ later.results = job.results

def JobsContinue (jobs later : List (JobRow Token)) : Prop :=
  ∀ id job, find JobRow.id jobs id = some job → ∃ kept, find JobRow.id later id = some kept ∧ Continues job kept

theorem Continues.refl (job : JobRow Token) : Continues job job :=
  ⟨rfl, rfl, rfl, List.prefix_refl _, Nat.le_refl _, fun _ => ⟨rfl, rfl, rfl⟩⟩

theorem Continues.trans {job held later : JobRow Token} (first : Continues job held)
    (second : Continues held later) : Continues job later where
  id := second.id.trans first.id
  snapshot := second.snapshot.trans first.snapshot
  total := second.total.trans first.total
  results := first.results.trans second.results
  forward := first.forward.trans second.forward
  settled := by
    intro inactive
    obtain ⟨status, completed, results⟩ := first.settled inactive
    obtain ⟨status', completed', results'⟩ := second.settled (by rw [status]; exact inactive)
    exact ⟨status'.trans status, completed'.trans completed, results'.trans results⟩

theorem JobsContinue.refl (jobs : List (JobRow Token)) : JobsContinue jobs jobs :=
  fun _ job found => ⟨job, found, Continues.refl job⟩

theorem JobsContinue.trans {jobs held later : List (JobRow Token)} (first : JobsContinue jobs held)
    (second : JobsContinue held later) : JobsContinue jobs later := by
  intro id job found
  obtain ⟨kept, keptFound, continues⟩ := first id job found
  obtain ⟨last, lastFound, continues'⟩ := second id kept keptFound
  exact ⟨last, lastFound, continues.trans continues'⟩

theorem JobsContinue.replace {jobs : List (JobRow Token)} {jobId : String} {job : JobRow Token}
    {change : JobRow Token → JobRow Token} (found : find JobRow.id jobs jobId = some job)
    (keeps : ∀ job, (change job).id = job.id) (continues : Continues job (change job)) :
    JobsContinue jobs (replace JobRow.id jobs jobId change) := by
  intro id held heldFound
  have stays : ∀ row : JobRow Token, row.id = jobId → (change row).id = jobId :=
    fun row same => (keeps row).trans same
  by_cases same : id = jobId
  · subst same
    obtain rfl := Option.some.inj (found.symm.trans heldFound)
    exact ⟨change job, by rw [find_replace_self jobs id change stays, found]; rfl, continues⟩
  · exact ⟨held, by rw [find_replace_other jobs change same stays, heldFound], Continues.refl held⟩

theorem find_map_same {jobs : List (JobRow Token)} {change : JobRow Token → JobRow Token}
    (keeps : ∀ job, (change job).id = job.id) (id : String) :
    find JobRow.id (jobs.map change) id = (find JobRow.id jobs id).map change := by
  unfold find
  rw [List.find?_map]
  simp only [Function.comp_def, keeps]

theorem addResult_continues {job : JobRow Token} (cleaned : JobResult) (active : job.status.active = true) :
    Continues job (addResult cleaned job) :=
  ⟨rfl, rfl, rfl, List.prefix_append _ _, Nat.le_refl _, fun inactive => by rw [active] at inactive; cases inactive⟩

theorem moveTo_continues {job : JobRow Token} {status : JobStatus} (error : Option String)
    (allowed : status ∈ allowedStatus job.status) : Continues job (moveTo status error job) := by
  refine ⟨rfl, rfl, rfl, List.prefix_refl _, ?_, fun inactive => ⟨?_, rfl, rfl⟩⟩
  · show progress job.status ≤ progress status
    cases held : job.status with
    | queued => exact Nat.zero_le _
    | running | completed | failed =>
        rw [held] at allowed
        simp only [allowedStatus, List.mem_cons, List.not_mem_nil, or_false] at allowed
        rcases allowed with rfl | rfl | rfl <;> decide
  · show status = job.status
    cases held : job.status <;> simp_all [allowedStatus, JobStatus.active]

theorem recoverJob_continues {entries : List (String × Dict)} {job : JobRow Token}
    (tracks : Tracks P entries job) : Continues job (recoverJob job) := by
  unfold recoverJob
  split
  · rename_i slot
    have active := tracks.slot_iff.mp slot
    refine ⟨rfl, rfl, rfl, List.prefix_refl _, ?_, fun inactive => by rw [active] at inactive; cases inactive⟩
    change progress job.status ≤ 2
    cases job.status <;> decide
  · exact Continues.refl job

theorem jobsStep_continue {self : GatewayStore} {fresh : Fresh} {db : Db Token}
    {jobs : List (JobRow Token)} (step : JobsStep P self fresh db jobs) (sound : JobsSound P db.jobs) :
    JobsContinue db.jobs jobs := by
  cases step with
  | unchanged same => exact same ▸ JobsContinue.refl db.jobs
  | recovered same =>
      rw [same]
      intro id job found
      obtain ⟨entries, tracks⟩ := sound.tracked job (find_mem found).1
      refine ⟨recoverJob job, ?_, recoverJob_continues tracks⟩
      rw [find_map_same (by intro job; unfold recoverJob; split <;> rfl), found]
      rfl
  | created _ _ _ _ _ _ _ same =>
      rw [same]
      intro id job found
      exact ⟨job, by rw [find_append_new, found]; rfl, Continues.refl job⟩
  | recorded _ _ job _ _ _ _ cleaned found active _ _ _ _ _ same =>
      rw [same]
      exact JobsContinue.replace found (fun _ => rfl) (addResult_continues cleaned active)
  | moved _ job _ error found allowed _ same =>
      rw [same]
      exact JobsContinue.replace found (fun _ => rfl) (moveTo_continues error allowed)

theorem run_continue (laws : P.VaultLaws) {db : Db Token} (sound : JobsSound P db.jobs)
    (calls : List Call) : JobsContinue db.jobs (run (after P) db calls).jobs :=
  run_relation_of_invariant (fun db : Db Token => JobsSound P db.jobs)
    (fun db later => JobsContinue db.jobs later.jobs) (after_sound laws)
    (fun db => JobsContinue.refl db.jobs) (fun _ _ _ => JobsContinue.trans)
    (fun call db sound => jobsStep_continue (after_change P call db).effect.jobsStep sound) sound calls

end

end NetworkGateway.Store
