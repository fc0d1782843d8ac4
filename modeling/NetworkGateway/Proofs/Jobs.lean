import NetworkGateway.Dal.Bench
import NetworkGateway.Proofs.JobHistory
import NetworkGateway.Proofs.Resolution

/-! What the jobs of a gateway promise to whoever reads them later. -/

namespace NetworkGateway.Store

open Library.Dict Library.Result Library.Run Library.Table

section

variable {Token : Type} {P : Platform Token}

def SnapshotOf (P : Platform Token) (job : JobRow Token) (entries : List (String × Dict)) : Prop :=
  ∃ key iv, job.snapshot = P.encrypt key iv (encodeSnapshot entries)

theorem job_state_machine (laws : P.VaultLaws) (calls later : List Call) :
    let db := run (after P) Db.empty calls
    db.jobs.countP (fun job => job.status.active) ≤ 1 ∧
    (∀ job ∈ db.jobs, ∃ entries, SnapshotOf P job entries ∧ (entries.map Prod.fst).Nodup ∧
      job.completed = job.results.length ∧ job.completed ≤ job.total ∧ job.total = entries.length ∧
      (job.results.map JobResult.connectionId).Nodup ∧
      (∀ result ∈ job.results, result.connectionId ∈ entries.map Prod.fst) ∧
      (job.status = .completed →
        (job.results.map JobResult.connectionId).Perm (entries.map Prod.fst))) ∧
    ∀ id job, find JobRow.id db.jobs id = some job → job.status = .completed ∨ job.status = .failed →
      ∃ kept, find JobRow.id (run (after P) db later).jobs id = some kept ∧ kept.status = job.status ∧
        kept.completed = job.completed ∧ kept.results = job.results := by
  have sound := run_sound laws jobsSound_empty calls
  refine ⟨sound.single, fun job member => ?_, fun id job found ended => ?_⟩
  · obtain ⟨entries, tracks⟩ := sound.tracked job member
    refine ⟨entries, tracks.snapshot, tracks.distinct, tracks.completed, tracks.bounded, tracks.total,
      tracks.once, fun result held => ?_, fun finished => tracks.exact_results (tracks.full finished)⟩
    exact tracks.subset (List.mem_map_of_mem held)
  · obtain ⟨kept, keptFound, continues⟩ := run_continue laws sound later id job found
    have inactive : job.status.active = false := by rcases ended with ended | ended <;> rw [ended] <;> rfl
    exact ⟨kept, keptFound, continues.settled inactive⟩

def completedTest : List Call :=
  [⟨Bench.store, Bench.fresh "device", .save "connections" Bench.fakeDevice none⟩,
   ⟨Bench.store, Bench.fresh "job", .createJob (.list [.str "device"])⟩,
   ⟨Bench.store, Bench.fresh "", .setJobStatus "job" (.str "running") .none⟩,
   ⟨Bench.store, Bench.fresh "", .recordJobResult "job"
     (.dict [("connection_id", .str "device"), ("success", .bool true)])⟩,
   ⟨Bench.store, Bench.fresh "", .setJobStatus "job" (.str "completed") .none⟩]

def afterTest : List Call :=
  [⟨Bench.store, Bench.fresh "", .delete "connections" "device"⟩,
   ⟨Bench.store, Bench.fresh "", .setJobStatus "job" (.str "failed") (.str "late")⟩,
   ⟨Bench.store, Bench.fresh "", .openStore "bench"⟩]

theorem job_state_machine_completed :
    let db := run (after Platform.bench) Db.empty completedTest
    db.jobs.countP (fun job => job.status.active) ≤ 1 ∧
    ∃ kept, find JobRow.id (run (after Platform.bench) db afterTest).jobs "job" = some kept ∧
      kept.status = .completed ∧ kept.completed = 1 := by
  obtain ⟨single, -, settled⟩ := job_state_machine Platform.bench_vaultLaws completedTest afterTest
  obtain ⟨job, found, completed, counted⟩ :
      ∃ job, find JobRow.id (run (after Platform.bench) Db.empty completedTest).jobs "job" = some job ∧
        job.status = .completed ∧ job.completed = 1 := ⟨_, rfl, rfl, rfl⟩
  obtain ⟨kept, keptFound, status, count, -⟩ := settled "job" job found (.inl completed)
  exact ⟨single, kept, keptFound, status.trans completed, count.trans counted⟩

/-- Dictionaries that compare equal: each binds the same keys to the same values. -/
def SameDict (a b : Dict) : Prop := ∀ key, a.lookup key = b.lookup key

theorem getJobConnections_ok {reader : GatewayStore} {db : Db Token} {id : String} {job : JobRow Token}
    {entries : List (String × Dict)} (found : find JobRow.id db.jobs id = some job)
    (opened : Secrets.decrypt P reader job.snapshot = .ok (encodeSnapshot entries))
    (open_ : reader.closed = false) :
    getJobConnections P reader db id =
      .ok (entries.map (fun e => (e.1, merge [("client_type", .str "network")] e.2))) := by
  rw [getJobConnections, reading_ok]
  refine ⟨open_, ?_⟩
  rw [found]
  simp only [row, ok_bind, opened, decode_encodeSnapshot, pure_eq]

theorem getJobConnections_inv {reader : GatewayStore} {db : Db Token} {id : String}
    {listed : List (String × Dict)} (returned : getJobConnections P reader db id = .ok listed) :
    ∃ job snapshot, find JobRow.id db.jobs id = some job ∧ reader.closed = false ∧
      Secrets.decrypt P reader job.snapshot = .ok snapshot := by
  rw [getJobConnections, reading_ok] at returned
  simp only [bind_eq_ok, row_ok] at returned
  obtain ⟨open_, job, found, snapshot, opened, -⟩ := returned
  exact ⟨job, snapshot, found, open_, opened⟩

theorem getJob_inv {reader : GatewayStore} {db : Db Token} {id : String} {seen : PublicJob}
    (returned : getJob reader db id = .ok seen) :
    ∃ job, find JobRow.id db.jobs id = some job ∧ seen.results = job.results := by
  rw [getJob, reading_ok] at returned
  simp only [bind_eq_ok, row_ok, pure_eq, Except.ok.injEq] at returned
  obtain ⟨-, job, found, rfl⟩ := returned
  exact ⟨job, found, rfl⟩

theorem snapshotEntries_resolved {self : GatewayStore} {db : Db Token} {ids : List String}
    {entries : List (String × Dict)} (resolved : each (snapshotEntry P self db) ids = .ok entries) :
    ∀ entry ∈ entries, resolveConnection P self db entry.1 = .ok entry.2 := by
  have pairwise := (each_eq_ok _ _ _).mp resolved
  clear resolved
  induction pairwise with
  | nil => nofun
  | cons head _ ih =>
      intro entry member
      rcases List.mem_cons.mp member with rfl | member
      · simp only [snapshotEntry, bind_eq_ok, pure_eq, Except.ok.injEq] at head
        obtain ⟨_, found, rfl⟩ := head
        exact found
      · exact ih entry member

/-- Listing the connections of a job adds nothing to a resolved profile. -/
theorem listed_same {entries : List (String × Dict)}
    (named : ∀ entry ∈ entries, (entry.2.lookup "client_type").isSome) :
    List.Forall₂ (fun entry listed => listed.1 = entry.1 ∧ SameDict listed.2 entry.2) entries
      (entries.map (fun e => (e.1, merge [("client_type", .str "network")] e.2))) := by
  induction entries with
  | nil => exact .nil
  | cons entry rest ih =>
      refine .cons ⟨rfl, fun key => ?_⟩ (ih (fun held member => named held (List.mem_cons_of_mem _ member)))
      obtain ⟨value, found⟩ := Option.isSome_iff_exists.mp (named entry List.mem_cons_self)
      rw [lookup_merge, lookup_cons_key]
      by_cases same : key = "client_type"
      · rw [same, found]
        rfl
      · rw [if_neg same, List.lookup_nil, Option.or_none]

theorem createJob_tracked {self : GatewayStore} {fresh : Fresh} {held db : Db Token} {ids : Value}
    {job : PublicJob} (created : createJob P self held fresh ids = (.ok job, db)) :
    self.closed = false ∧ ∃ entries stored, ids = .list (entries.map (fun e => .str e.1)) ∧
      (∀ entry ∈ entries, resolveConnection P self db entry.1 = .ok entry.2) ∧
      find JobRow.id db.jobs job.id = some stored ∧
      stored.snapshot = P.encrypt self.key fresh.iv (encodeSnapshot entries) := by
  unfold createJob checked at created
  split at created
  · rename_i list accepted
    obtain ⟨rfl, -, -⟩ := selection_ok accepted
    obtain ⟨open_, returned⟩ := transaction_ok.mp created
    obtain ⟨entries, -, resolved, unused, rfl, rfl⟩ := createJobRow_ok.mp returned
    refine ⟨open_, entries, newJob fresh.id _ entries.length, ?_, snapshotEntries_resolved resolved, ?_, rfl⟩
    · rw [← snapshotEntries_ids resolved, List.map_map]
      rfl
    · rw [find_append_new]
      simp [publicJob, newJob, unused]
  · cases (Prod.mk.inj created).1

theorem snapshot_immutable (laws : P.VaultLaws) (earlier later : List Call) (self : GatewayStore)
    (fresh : Fresh) (ids : Value) (job : PublicJob) (db : Db Token)
    (created : createJob P self (run (after P) Db.empty earlier) fresh ids = (.ok job, db)) :
    ∃ entries : List (String × Dict), ids = .list (entries.map (fun e => .str e.1)) ∧
      (∀ entry ∈ entries, resolve P self db entry.1 = .ok entry.2) ∧
      (∀ reader, reader.closed = false → reader.key = self.key →
        ∃ listed, getJobConnections P reader (run (after P) db later) job.id = .ok listed) ∧
      (∀ reader listed, getJobConnections P reader (run (after P) db later) job.id = .ok listed →
        List.Forall₂ (fun entry held => held.1 = entry.1 ∧ SameDict held.2 entry.2) entries listed) ∧
      ∀ reader seen, getJob reader (run (after P) db later) job.id = .ok seen →
        ∀ result ∈ seen.results, ∃ profile, (result.connectionId, profile) ∈ entries ∧
          Describes P (Secrets.credentialValues (encodeSnapshot entries)) profile result := by
  obtain ⟨open_, entries, stored, listedIds, resolved, found, snapshot⟩ := createJob_tracked created
  have soundBefore := run_sound laws (jobsSound_empty (P := P)) earlier
  have sound : JobsSound P db.jobs := by
    have kept := after_sound laws ⟨self, fresh, .createJob ids⟩ _ soundBefore
    simp only [after, perform, writing, created] at kept
    exact kept
  obtain ⟨kept, keptFound, continues⟩ := run_continue laws sound later job.id stored found
  obtain ⟨tracked, tracks⟩ := (run_sound laws sound later).tracked kept (find_mem keptFound).1
  have same : kept.snapshot = P.encrypt self.key fresh.iv (encodeSnapshot entries) :=
    continues.snapshot.trans snapshot
  have opens : ∀ reader : GatewayStore, reader.key = self.key →
      Secrets.decrypt P reader kept.snapshot = .ok (encodeSnapshot entries) := by
    intro reader key
    rw [same, ← key]
    exact Secrets.decrypt_encrypt reader laws fresh.iv _
  obtain rfl : tracked = entries := by
    have equal := tracks.opened laws (opens self rfl)
    have decoded := decode_encodeSnapshot tracked
    rw [← equal, decode_encodeSnapshot] at decoded
    exact (Except.ok.inj decoded).symm
  refine ⟨tracked, listedIds, fun entry member => ?_, fun reader readable key => ?_,
    fun reader listed returned => ?_, fun reader seen returned result member => ?_⟩
  · exact reading_ok.mpr ⟨open_, resolved entry member⟩
  · exact ⟨_, getJobConnections_ok keptFound (opens reader key) readable⟩
  · obtain ⟨held, snapshot', heldFound, readable, opened⟩ := getJobConnections_inv returned
    obtain rfl := Option.some.inj (keptFound.symm.trans heldFound)
    obtain rfl := tracks.opened laws opened
    rw [getJobConnections_ok keptFound opened readable] at returned
    rw [← Except.ok.inj returned]
    exact listed_same (fun entry member => resolveConnection_clientType (resolved entry member))
  · obtain ⟨held, heldFound, results⟩ := getJob_inv returned
    obtain rfl := Option.some.inj (keptFound.symm.trans heldFound)
    exact tracks.described result (results ▸ member)

def acceptedTest : Except PyError PublicJob × Db Platform.SealedToken :=
  createJob Platform.bench Bench.store (run (after Platform.bench) Db.empty (completedTest.take 1))
    (Bench.fresh "job") (.list [.str "device"])

theorem snapshot_immutable_deleted :
    ∃ listed, getJobConnections Platform.bench Bench.store
        (run (after Platform.bench) acceptedTest.2 afterTest) "job" = .ok listed ∧ listed.length = 1 := by
  obtain ⟨entries, ids, -, answers, same, -⟩ := snapshot_immutable Platform.bench_vaultLaws
    (completedTest.take 1) afterTest Bench.store (Bench.fresh "job") (.list [.str "device"])
    ⟨"job", .queued, 1, 0, [], none⟩ acceptedTest.2 rfl
  obtain ⟨listed, returned⟩ := answers Bench.store rfl rfl
  have counted := congrArg List.length (Value.list.inj ids)
  simp only [List.length_map, List.length_cons, List.length_nil] at counted
  exact ⟨listed, returned, (same Bench.store listed returned).length_eq.symm.trans counted.symm⟩

end

end NetworkGateway.Store
