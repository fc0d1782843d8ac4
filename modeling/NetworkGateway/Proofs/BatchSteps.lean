import NetworkGateway.Proofs.BatchPlaces

/-! The invariant of a batch service over one step of a request, of `start`, of the worker, or of `shutdown`. -/

namespace NetworkGateway.Batches

open Library.Dict Library.Result Library.Run Library.Table Management Store

section

variable {Token : Type} {S : Service Token} {s : State Token}

theorem inv_start {db : Db Token} (reachable : Reachable S.platform db) : Inv S (State.start db) := by
  refine ⟨reachable, List.nodup_nil, nofun, nofun, nofun, nofun, ?_⟩
  refine ⟨nofun, Nat.zero_le 1, fun _ => rfl, ?_, ?_, fun _ => rfl, nofun, nofun⟩
  · intro jobId given
    rcases given with queued | ⟨_, given⟩
    · cases queued
    · cases given
  · exact iff_of_true rfl rfl

/-! Requests, and `start` until it creates a job. -/

theorem Inv.reply (inv : Inv S s) (outcome : Except ManagementError PublicJob) : Inv S (s.reply outcome) :=
  inv.frame rfl rfl rfl rfl inv.reachable
    ⟨inv.threads.lock, inv.threads.single, inv.threads.alone, inv.threads.future, inv.threads.uncalled,
      inv.threads.running, inv.threads.closing, inv.threads.returned⟩
    (fun _ => ⟨rfl, rfl, id, id, id, id⟩)

theorem Inv.request (inv : Inv S s) {call : Call} (other : otherOp call.op = true) :
    Inv S { s with db := after S.platform call s.db } := by
  refine inv.frame rfl rfl rfl rfl (reachable_after call inv.reachable) ?_ ?_
  · exact ⟨inv.threads.lock, inv.threads.single, inv.threads.alone, inv.threads.future, inv.threads.uncalled,
      inv.threads.running, inv.threads.closing, inv.threads.returned⟩
  · intro jobId
    refine ⟨?_, rfl, id, id, id, id⟩
    rw [other_jobs other s.db]

/-- Without a call in the lock's section, the live job is the worker's or queued. -/
theorem State.live_unheld (unheld : ∀ place, s.holder ≠ .start place) :
    s.live = match s.worker with
      | some (jobId, place) => some (jobId, .running place)
      | none => s.queue.head?.map (fun jobId => (jobId, .waiting)) := by
  unfold State.live
  cases held : s.holder with
  | free | shutdown => rfl
  | start place => exact absurd held (unheld place)

/-- A service that is not busy has no live job. -/
theorem Inv.idle (inv : Inv S s) (free : s.holder = .free) (idle : s.busy = false) : s.queue = [] ∧ s.worker = none := by
  have live := State.live_unheld (s := s) (by rw [free]; nofun)
  have quiet : ∀ jobId, s.future = some jobId → jobId ∉ s.ended → False := by
    intro jobId future fresh
    unfold State.busy at idle
    rw [future] at idle
    have ended : s.ended.contains jobId = true := by simpa using idle
    exact fresh (by simpa using ended)
  cases held : s.worker with
  | some job =>
      rcases job with ⟨jobId, place⟩
      rw [held] at live
      exact (quiet jobId (inv.threads.future jobId (.inr ⟨place, held⟩)) (inv.known _ _ live).2).elim
  | none =>
      cases queued : s.queue with
      | nil => exact ⟨rfl, rfl⟩
      | cons jobId rest =>
          rw [held, queued] at live
          have future := inv.threads.future jobId (.inl (by rw [queued]; exact List.mem_cons_self))
          exact (quiet jobId future (inv.known _ _ live).2).elim

theorem Inv.starts (inv : Inv S s) (ids : List String) : Inv S (s.starts ids) := by
  unfold State.starts
  split
  · exact inv.reply _
  · split
    · exact inv
    · rename_i taken
      have free : s.holder = .free := not_not.mp taken
      split
      · exact inv.reply _
      · rename_i opened
        split
        · exact inv.reply _
        · rename_i idle
          have closed : s.closed = false := by simpa using opened
          have none := inv.idle free (by simpa using idle)
          have early : s.shutdown = .uncalled := inv.threads.uncalled.mpr closed
          refine inv.frame rfl ?_ rfl rfl inv.reachable ?_ (fun _ => ⟨rfl, rfl, id, id, id, id⟩)
          · unfold State.live
            rw [free]
          · refine ⟨fun _ _ => ⟨none.1, none.2, closed⟩, inv.threads.single, inv.threads.alone, inv.threads.future,
              inv.threads.uncalled, inv.threads.running, ?_, inv.threads.returned⟩
            intro closing
            cases early.symm.trans closing

theorem Inv.checks (inv : Inv S s) {ids rest : List String} (held : s.holder = .start (.checking ids rest))
    {holder : Holder} (next : holder = .free ∨ ∃ later, holder = .start (.checking ids later)) :
    Inv S { s with holder } := by
  have locked := inv.threads.lock _ held
  have early := inv.threads.uncalled.mpr locked.2.2
  refine inv.frame rfl ?_ rfl rfl inv.reachable ?_ (fun _ => ⟨rfl, rfl, id, id, id, id⟩)
  · unfold State.live
    rw [held]
    rcases next with free | ⟨later, more⟩
    · rw [free]
    · rw [more]
  · refine ⟨fun _ _ => locked, inv.threads.single, inv.threads.alone, inv.threads.future,
      inv.threads.uncalled, inv.threads.running, ?_, inv.threads.returned⟩
    intro closing
    cases early.symm.trans closing

theorem Inv.creates (inv : Inv S s) {ids : List String} (held : s.holder = .start (.checking ids [])) (input : Input) :
    Inv S (s.creates S input ids) := by
  unfold State.creates
  generalize made : reach input.available s.db (createJob S.platform S.store s.db input.fresh (.list (ids.map .str))) =
    outcome
  rcases outcome with ⟨raised | job, written⟩
  · rw [create_error made]
    exact (inv.checks held (.inl rfl)).reply _
  · rcases create_ok made with ⟨opened, distinct, entries, resolved, unused, jobs, reaches⟩
    have locked := inv.threads.lock _ held
    have early := inv.threads.uncalled.mpr locked.2.2
    have idle : s.live = none := by
      unfold State.live
      rw [held]
      dsimp only
      rw [locked.2.1, locked.1]
      rfl
    have rows : ∀ c ∈ s.created, ∃ row, find JobRow.id s.db.jobs c.id = some row := by
      intro c member
      rcases inv.jobs c member with ⟨_, row, _, found, _⟩
      exact ⟨row, found⟩
    have fresh : job.id ∉ s.created.map Created.id := by
      intro member
      rcases List.mem_map.mp member with ⟨c, listed, same⟩
      rcases rows c listed with ⟨row, found⟩
      rw [same, unused] at found
      cases found
    have old : ∀ c ∈ s.created, find JobRow.id written.jobs c.id = find JobRow.id s.db.jobs c.id := by
      intro c member
      rcases rows c member with ⟨row, found⟩
      rw [jobs, find_append_new, found]
      rfl
    refine ⟨reaches inv.reachable, ?_, ?_, ?_, ?_, ?_, ?_⟩
    · rw [List.map_append, List.nodup_append]
      refine ⟨inv.distinct, List.nodup_singleton _, ?_⟩
      intro one member other single same
      rw [same, List.mem_singleton.mp single] at member
      exact fresh member
    · intro c member
      rcases List.mem_append.mp member with listed | new
      · have apart : c.id ≠ job.id := by
          intro same
          rw [← same] at fresh
          exact fresh (List.mem_map_of_mem listed)
        have before := inv.jobs c listed
        rw [State.placeOf_idle idle] at before
        have place : State.placeOf { s with
            db := written
            holder := .start (.submitting job)
            created := s.created ++ [⟨job.id, ids, s.db⟩] } c.id = .settled := State.placeOf_other rfl apart
        rw [place]
        exact before.quiet ⟨old c listed, rfl, id, id, id, id⟩
      · rw [List.mem_singleton.mp new]
        have place : State.placeOf { s with
            db := written
            holder := .start (.submitting job)
            created := s.created ++ [⟨job.id, ids, s.db⟩] } job.id = .waiting := State.placeOf_live rfl
        rw [place]
        refine ⟨entries,
          newJob job.id (S.platform.encrypt S.store.key input.fresh.iv (encodeSnapshot entries)) entries.length,
          ⟨opened, inv.reachable, resolved, distinct⟩, ?_, ⟨⟨input.fresh.iv, rfl⟩, rfl, rfl⟩, rfl, rfl, ?_⟩
        · rw [jobs, find_append_new, unused]
          simp [newJob]
        · unfold testsOf
          rw [List.map_eq_nil_iff, List.filter_eq_nil_iff]
          intro test listed same
          have known := inv.tests test listed
          rw [of_decide_eq_true same] at known
          exact fresh known
    · intro jobId place live
      cases live
      refine ⟨List.mem_map_of_mem (List.mem_append_right _ List.mem_cons_self), ?_⟩
      intro ended
      exact fresh (inv.ended _ ended)
    · intro jobId ended
      rw [List.map_append]
      exact List.mem_append_left _ (inv.ended jobId ended)
    · intro test listed
      rw [List.map_append]
      exact List.mem_append_left _ (inv.tests test listed)
    · refine ⟨fun _ _ => locked, inv.threads.single, inv.threads.alone, inv.threads.future,
        inv.threads.uncalled, inv.threads.running, ?_, inv.threads.returned⟩
      intro closing
      cases early.symm.trans closing

/-! A job whose store call did not reach the database. -/

theorem missing_grows (available : Bool) (jobs : List String) (jobId : String) :
    ∀ other ∈ jobs, other ∈ missing available jobs jobId := by
  intro other member
  cases available with
  | true => exact member
  | false => exact List.mem_append_left _ member

theorem mem_missing (jobs : List String) (jobId : String) : jobId ∈ missing false jobs jobId :=
  List.mem_append_right _ List.mem_cons_self

theorem State.fails_eq (available : Bool) (jobId message : String) : s.fails S available jobId message =
    { s with
      db := (setStatus S available s.db jobId "failed" (.str message)).2
      unreached := missing available s.unreached jobId
      unfailed := missing available s.unfailed jobId } := rfl

/-- A job that failed, or could not be marked as failed. -/
theorem Outcome.given_up {later : State Token} {jobId : String} {entries : List (String × Dict)} {job : JobRow Token}
    {excuse : Prop} {available : Bool} (unreached : later.unreached = missing available s.unreached jobId)
    (unfailed : later.unfailed = missing available s.unfailed jobId)
    (status : available = true → job.status = .failed) (ordered : Ordered entries job.results)
    (excused : excuse ∨ jobId ∈ s.unreached) : Outcome S later jobId entries job excuse := by
  have ended : job.status.active = false ∨ jobId ∈ later.unfailed := by
    cases available with
    | true =>
        left
        rw [status rfl]
        rfl
    | false =>
        right
        rw [unfailed]
        exact mem_missing _ _
  rcases excused with excused | missed
  · cases available with
    | true => exact .failed (status rfl) ordered excused
    | false =>
        apply Outcome.unreached _ ended ordered
        rw [unreached]
        exact mem_missing _ _
  · apply Outcome.unreached _ ended ordered
    rw [unreached]
    exact missing_grows available _ jobId jobId missed

/-! `start` after it created a job. -/

theorem Inv.submits (inv : Inv S s) {job : PublicJob} (held : s.holder = .start (.submitting job)) :
    Inv S { s with holder := .free, queue := s.queue ++ [job.id], future := some job.id } := by
  have locked := inv.threads.lock _ held
  refine inv.frame rfl ?_ rfl rfl inv.reachable ?_ (fun _ => ⟨rfl, rfl, id, id, id, id⟩)
  · unfold State.live
    rw [held]
    dsimp only
    rw [locked.2.1, locked.1]
    rfl
  · refine ⟨nofun, ?_, ?_, ?_, inv.threads.uncalled, inv.threads.running, ?_, ?_⟩
    · rw [locked.1]
      exact Nat.le_refl 1
    · intro busy
      exact absurd locked.2.1 busy
    · intro jobId given
      rw [locked.1] at given
      rcases given with queued | ⟨_, worker⟩
      · rw [List.mem_singleton.mp queued]
      · cases locked.2.1.symm.trans worker
    · intro closing
      cases (inv.threads.uncalled.mpr locked.2.2).symm.trans closing
    · intro returned
      cases (inv.threads.uncalled.mpr locked.2.2).symm.trans returned

theorem Inv.unscheduled (inv : Inv S s) {job : PublicJob} (held : s.holder = .start (.submitting job)) :
    Inv S { s with holder := .start (.unscheduled job.id) } := by
  have locked := inv.threads.lock _ held
  refine inv.frame rfl ?_ rfl rfl inv.reachable ?_ (fun _ => ⟨rfl, rfl, id, id, id, id⟩)
  · unfold State.live
    rw [held]
  · refine ⟨fun _ _ => locked, inv.threads.single, inv.threads.alone, inv.threads.future,
      inv.threads.uncalled, inv.threads.running, ?_, inv.threads.returned⟩
    intro closing
    cases (inv.threads.uncalled.mpr locked.2.2).symm.trans closing

variable (laws : S.platform.VaultLaws)
include laws

theorem Inv.abandons (inv : Inv S s) {jobId : String} (held : s.holder = .start (.unscheduled jobId)) (input : Input) :
    Inv S { s.fails S input.available jobId "The batch could not be scheduled." with holder := .free } := by
  have locked := inv.threads.lock _ held
  have live : s.live = some (jobId, .waiting) := by
    unfold State.live
    rw [held]
  have known := inv.known jobId _ live
  rcases List.mem_map.mp known.1 with ⟨c, member, named⟩
  have holds := inv.jobs c member
  rw [named, State.placeOf_live live] at holds
  rcases holds with ⟨entries, job, snapshot, found, kept, status, results, tests⟩
  rw [named] at found
  have active : job.status.active = true := by
    rw [status]
    rfl
  rcases fail_runs laws snapshot.opened found kept active input.available (.str "The batch could not be scheduled.")
    input.fresh with ⟨written, stored, called, rows, reaches, row, held, recorded, failed⟩
  rw [State.fails_eq, called]
  refine inv.move live rfl (reaches inv.reachable) ?_ ?_ (.inr ⟨?_, rfl, fun _ ended => .inl ended⟩)
    (fun _ listed => .inl listed) ⟨c, member, named, entries, stored, snapshot, ?_, held, ?_⟩
  · refine ⟨nofun, inv.threads.single, inv.threads.alone, inv.threads.future,
      inv.threads.uncalled, inv.threads.running, ?_, inv.threads.returned⟩
    intro closing
    cases (inv.threads.uncalled.mpr locked.2.2).symm.trans closing
  · intro other apart
    exact ⟨rows other apart, rfl, id, missing_grows _ _ _ other, missing_grows _ _ _ other, id⟩
  · unfold State.live
    dsimp only
    rw [locked.2.1, locked.1]
    rfl
  · rw [named]
    exact row
  · rw [named]
    apply Outcome.given_up rfl rfl failed
    · rw [recorded, results]
      exact List.nil_prefix
    · exact .inl (.inr known.2)

theorem Inv.advance (inv : Inv S s) (input : Input) : Inv S (s.advance S input) := by
  unfold State.advance
  cases held : s.holder with
  | free | shutdown => exact inv
  | start place =>
      cases place with
      | checking ids rest =>
          cases rest with
          | nil => exact inv.creates held input
          | cons connectionId rest =>
              dsimp only
              split
              · exact inv.checks held (.inr ⟨rest, rfl⟩)
              · exact (inv.checks held (.inl rfl)).reply _
      | submitting job =>
          dsimp only
          split
          · exact (inv.submits held).reply _
          · exact inv.unscheduled held
      | unscheduled jobId => exact (inv.abandons laws held input).reply _

end

end NetworkGateway.Batches
