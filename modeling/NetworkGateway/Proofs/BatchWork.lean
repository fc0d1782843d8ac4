import NetworkGateway.Proofs.BatchSteps

/-! The invariant of a batch service over the worker's steps, and over whole runs. -/

namespace NetworkGateway.Batches

open Library.Dict Library.Result Library.Run Library.Table Management Store

section

variable {Token : Type} {S : Service Token} {s : State Token}

/-- While the worker has a job, no call is in the lock's section. -/
theorem Threads.live_worker (threads : Threads s) {jobId : String} {place : Running}
    (held : s.worker = some (jobId, place)) : s.live = some (jobId, .running place) := by
  rw [State.live_unheld, held]
  intro starting locked
  cases held.symm.trans (threads.lock starting locked).2.1

theorem Threads.works (threads : Threads s) {jobId : String} {place : Running} (held : s.worker = some (jobId, place))
    (db : Db Token) (next : Running) (tests : List (String × String × Answer)) (unreached unfailed : List String) :
    Threads { s with db, worker := some (jobId, next), tests, unreached, unfailed } := by
  have queue := threads.alone (by rw [held]; nofun)
  refine ⟨?_, threads.single, fun _ => queue, ?_, threads.uncalled, threads.running, threads.closing, ?_⟩
  · intro starting locked
    cases held.symm.trans (threads.lock starting locked).2.1
  · intro other given
    rcases given with queued | ⟨_, worker⟩
    · rw [queue] at queued
      cases queued
    · cases worker
      exact threads.future jobId (.inr ⟨place, held⟩)
  · intro returned
    cases held.symm.trans (threads.returned returned).2

theorem Inv.works (inv : Inv S s) {jobId : String} {place next : Running} (held : s.worker = some (jobId, place))
    {db : Db Token} {tests : List (String × String × Answer)} {unreached unfailed : List String}
    (reachable : Reachable S.platform db)
    (rows : ∀ other ≠ jobId, find JobRow.id db.jobs other = find JobRow.id s.db.jobs other)
    (tested : tests = s.tests ∨ ∃ id answer, tests = s.tests ++ [(jobId, id, answer)])
    (grows : ∀ other ∈ s.unreached, other ∈ unreached) (more : ∀ other ∈ s.unfailed, other ∈ unfailed)
    (self : ∃ c ∈ s.created, c.id = jobId ∧
      Holds S { s with db, worker := some (jobId, next), tests, unreached, unfailed } c (.running next)) :
    Inv S { s with db, worker := some (jobId, next), tests, unreached, unfailed } := by
  have threads := inv.threads.works held db next tests unreached unfailed
  refine inv.move (inv.threads.live_worker held) rfl reachable threads ?_ (.inl ⟨threads.live_worker rfl, rfl⟩) ?_ self
  · intro other apart
    refine ⟨rows other apart, ?_, id, grows other, more other, id⟩
    rcases tested with same | ⟨id, answer, more⟩
    · rw [same]
    · rw [more]
      exact testsOf_append_other s.tests apart id answer
  · intro test listed
    rcases tested with same | ⟨id, answer, more⟩
    · exact .inl (same ▸ listed)
    · rw [more] at listed
      rcases List.mem_append.mp listed with old | new
      · exact .inl old
      · rw [List.mem_singleton.mp new]
        exact .inr rfl

theorem Inv.worker (inv : Inv S s) {jobId : String} {place : Running} (held : s.worker = some (jobId, place)) :
    ∃ c ∈ s.created, c.id = jobId ∧ Holds S s c (.running place) := by
  have live := inv.threads.live_worker held
  rcases List.mem_map.mp (inv.known jobId _ live).1 with ⟨c, member, named⟩
  have holds := inv.jobs c member
  rw [named, State.placeOf_live live] at holds
  exact ⟨c, member, named, holds⟩

theorem At.active {jobId : String} {entries : List (String × Dict)} {job : JobRow Token} {place : Running}
    (holds : At S s jobId entries job (.running place)) (unfinished : place ≠ .returned) :
    job.status.active = true ∧ Ordered entries job.results := by
  have empty : job.results = [] → Ordered entries job.results := by
    intro none
    rw [none]
    exact List.nil_prefix
  cases place with
  | begun | marked =>
      rcases holds with ⟨status, results, _⟩
      rw [status]
      exact ⟨rfl, empty results⟩
  | testing rest =>
      rcases holds with ⟨status, done, todo, split, _, progress⟩
      rw [status]
      exact ⟨rfl, progress.ordered split⟩
  | recording result rest =>
      rcases holds with ⟨status, done, _, _, todo, _, _, split, _, _, progress, _⟩
      rw [status]
      exact ⟨rfl, progress.ordered split⟩
  | failing message => exact ⟨holds.1, holds.2.1⟩
  | returned => exact absurd rfl unfinished

theorem Inv.misses (inv : Inv S s) {jobId : String} {place : Running} (held : s.worker = some (jobId, place))
    (unfinished : place ≠ .returned) : Inv S (s.breaks false jobId) := by
  rcases inv.worker held with ⟨c, member, named, entries, job, snapshot, found, kept, holds⟩
  have active := holds.active unfinished
  refine inv.works held inv.reachable (fun _ _ => rfl) (.inl rfl) (missing_grows false s.unreached jobId) (fun _ => id)
    ⟨c, member, named, entries, job, snapshot, found, kept, active.1, active.2, .inr ?_⟩
  rw [named]
  exact mem_missing _ _

section

variable (laws : S.platform.VaultLaws)
include laws

theorem Inv.begins (inv : Inv S s) {jobId : String} (held : s.worker = some (jobId, .begun)) (input : Input) :
    Inv S (s.runs S jobId input .begun) := by
  unfold State.runs
  cases input.available with
  | false => exact inv.misses held nofun
  | true =>
      rcases inv.worker held with ⟨c, member, named, entries, job, snapshot, found, kept, status, results, tests⟩
      rw [named] at found tests
      have allowed : JobStatus.running ∈ allowedStatus job.status := by
        rw [status]
        decide
      have text : JobStatus.ofText "running" = some .running := rfl
      rcases setStatus_runs laws snapshot.opened found kept text allowed nofun .none input.fresh with
        ⟨written, clean, called, rewrites⟩
      rw [called]
      refine inv.works held (rewrites.reachable inv.reachable) rewrites.others (.inl rfl) (fun _ => id) (fun _ => id)
        ⟨c, member, named, entries, _, snapshot, ?_, kept.moveTo .running clean, rfl, results, ?_⟩
      · rw [named, rewrites.self, found]
        rfl
      · rw [named]
        exact tests

theorem Inv.loads (inv : Inv S s) {jobId : String} (held : s.worker = some (jobId, .marked)) (input : Input) :
    Inv S (s.runs S jobId input .marked) := by
  unfold State.runs
  cases input.available with
  | false => exact inv.misses held nofun
  | true =>
      rcases inv.worker held with ⟨c, member, named, entries, job, snapshot, found, kept, status, results, tests⟩
      rw [load_runs laws snapshot.opened (named ▸ found) kept]
      refine inv.works held inv.reachable (fun _ _ => rfl) (.inl rfl) (fun _ => id) (fun _ => id)
        ⟨c, member, named, entries, job, snapshot, found, kept, status, [], entries, rfl, rfl, ?_⟩
      rw [tests, results]
      exact Progress.start

theorem Inv.completes (inv : Inv S s) {jobId : String} (held : s.worker = some (jobId, .testing [])) (input : Input) :
    Inv S (s.runs S jobId input (.testing [])) := by
  unfold State.runs
  cases input.available with
  | false => exact inv.misses held nofun
  | true =>
      rcases inv.worker held with
        ⟨c, member, named, entries, job, snapshot, found, kept, status, done, todo, split, rest, progress⟩
      rw [named] at found progress
      have all : entries = done := by
        rw [split, List.map_eq_nil_iff.mp rest.symm, List.append_nil]
      rw [← all] at progress
      have allowed : JobStatus.completed ∈ allowedStatus job.status := by
        rw [status]
        decide
      have full : JobStatus.completed = .completed → job.completed = job.total := by
        intro _
        rw [kept.counted, kept.total, progress.length]
      have text : JobStatus.ofText "completed" = some .completed := rfl
      rcases setStatus_runs laws snapshot.opened found kept text allowed full .none input.fresh with
        ⟨written, clean, called, rewrites⟩
      rw [called]
      refine inv.works held (rewrites.reachable inv.reachable) rewrites.others (.inl rfl) (fun _ => id) (fun _ => id)
        ⟨c, member, named, entries, _, snapshot, ?_, kept.moveTo .completed clean, .completed rfl ?_⟩
      · rw [named, rewrites.self, found]
        rfl
      · rw [named]
        exact progress

theorem Inv.tries (inv : Inv S s) {jobId id : String} {profile : Dict} {rest : List (String × Dict)}
    (held : s.worker = some (jobId, .testing ((id, profile) :: rest))) (answer : Answer) :
    Inv S (s.tries S jobId id profile rest answer) := by
  rcases inv.worker held with
    ⟨c, member, named, entries, job, snapshot, found, kept, status, done, todo, split, listing, progress⟩
  rw [named] at found progress
  cases todo with
  | nil => cases listing
  | cons entry todo =>
      rcases entry with ⟨other, resolved⟩
      rcases List.cons.inj listing with ⟨head, tail⟩
      cases head
      have active : job.status.active = true := by
        rw [status]
        rfl
      have ordered := progress.ordered split
      have mine : (other, resolved) ∈ entries := by
        rw [split]
        exact List.mem_append_right _ List.mem_cons_self
      have complete := snapshot.complete laws (other, resolved) mine
      unfold State.tries
      split
      · rename_i stop
        exact inv.works held inv.reachable (fun _ _ => rfl) (.inl rfl) (fun _ => id) (fun _ => id)
          ⟨c, member, named, entries, job, snapshot, named ▸ found, kept, active, ordered, .inl (.inl stop)⟩
      · split
        · rename_i result returned
          refine inv.works held inv.reachable (fun _ _ => rfl) (.inr ⟨other, answer, rfl⟩) (fun _ => id) (fun _ => id)
            ⟨c, member, named, entries, job, snapshot, named ▸ found, kept, status, done, other, resolved, todo, _, answer,
              split, tail, ?_, progress, returned⟩
          rw [named]
          exact testsOf_append_self s.tests jobId other answer
        · rename_i raised
          have refused : ¬Permitted S resolved := by
            intro permitted
            have returns := (complete.tested_iff other answer).mpr permitted
            have none : tested S other (listed resolved) answer = none := raised
            rw [none] at returns
            cases returns
          exact inv.works held inv.reachable (fun _ _ => rfl) (.inl rfl) (fun _ => id) (fun _ => id)
            ⟨c, member, named, entries, job, snapshot, named ▸ found, kept, active, ordered,
              .inl (.inr ⟨(other, resolved), mine, refused⟩)⟩

theorem Inv.records (inv : Inv S s) {jobId : String} {result : Dict} {rest : List (String × Dict)}
    (held : s.worker = some (jobId, .recording result rest)) (input : Input) :
    Inv S (s.runs S jobId input (.recording result rest)) := by
  unfold State.runs
  cases input.available with
  | false => exact inv.misses held nofun
  | true =>
      rcases inv.worker held with
        ⟨c, member, named, entries, job, snapshot, found, kept, status, done, id, profile, todo, tests, answer, split,
          listing, last, progress, returned⟩
      rw [named] at found last
      have mine : (id, profile) ∈ entries := by
        rw [split]
        exact List.mem_append_right _ List.mem_cons_self
      have complete := snapshot.complete laws (id, profile) mine
      have active : job.status.active = true := by
        rw [status]
        rfl
      have unseen : ∀ recorded ∈ job.results, recorded.connectionId ≠ id := by
        intro recorded listed same
        have early := List.mem_map_of_mem (f := JobResult.connectionId) listed
        rw [progress.results_ids, same] at early
        have once := snapshot.nodup
        rw [split, List.map_append, List.nodup_append] at once
        exact once.2.2 id early id List.mem_cons_self rfl
      rcases record_runs laws snapshot.opened found kept snapshot.nodup active mine unseen complete returned input.fresh with
        ⟨written, cleaned, called, rewrites, same, carries⟩
      dsimp only
      rw [called]
      have permitted : Permitted S profile := by
        apply (complete.tested_iff id answer).mp
        rw [returned]
        rfl
      refine inv.works held (rewrites.reachable inv.reachable) rewrites.others (.inl rfl) (fun _ listed => listed) (fun _ listed => listed)
        ⟨c, member, named, entries, _, snapshot, ?_, kept.addResult cleaned, status, done ++ [(id, profile)], todo, ?_,
          listing, ?_⟩
      · rw [named, rewrites.self, found]
        rfl
      · rw [split, List.append_assoc]
        rfl
      · rw [named, last]
        exact progress.next mine permitted same carries

theorem Inv.fails (inv : Inv S s) {jobId message : String} (held : s.worker = some (jobId, .failing message))
    (input : Input) : Inv S (s.runs S jobId input (.failing message)) := by
  rcases inv.worker held with ⟨c, member, named, entries, job, snapshot, found, kept, active, ordered, excused⟩
  rw [named] at found excused
  rcases fail_runs laws snapshot.opened found kept active input.available (.str message) input.fresh with
    ⟨written, stored, called, rows, reaches, row, still, recorded, failed⟩
  unfold State.runs
  dsimp only
  rw [State.fails_eq, called]
  refine inv.works held (reaches inv.reachable) rows (.inl rfl) (missing_grows input.available s.unreached jobId)
    (missing_grows input.available s.unfailed jobId)
    ⟨c, member, named, entries, stored, snapshot, named ▸ row, still, ?_⟩
  rw [named]
  exact Outcome.given_up rfl rfl failed (recorded ▸ ordered) excused

end

theorem Inv.ends (inv : Inv S s) {jobId : String} (held : s.worker = some (jobId, .returned)) :
    Inv S { s with worker := none, ended := s.ended ++ [jobId] } := by
  rcases inv.worker held with ⟨c, member, named, entries, job, snapshot, found, kept, outcome⟩
  have queue := inv.threads.alone (by rw [held]; nofun)
  refine inv.move (inv.threads.live_worker held) rfl inv.reachable ?_ ?_ (.inr ⟨?_, rfl, ?_⟩) (fun _ listed => .inl listed)
    ⟨c, member, named, entries, job, snapshot, found, kept, ?_⟩
  · refine ⟨?_, inv.threads.single, fun busy => absurd rfl busy, ?_, inv.threads.uncalled, inv.threads.running,
      inv.threads.closing, fun _ => ⟨queue, rfl⟩⟩
    · intro starting locked
      cases held.symm.trans (inv.threads.lock starting locked).2.1
    · intro other given
      rcases given with queued | ⟨_, worker⟩
      · exact inv.threads.future other (.inl queued)
      · cases worker
  · intro other apart
    refine ⟨rfl, rfl, id, id, id, ?_⟩
    intro ended
    rcases List.mem_append.mp ended with old | new
    · exact old
    · exact absurd (List.mem_singleton.mp new) apart
  · rw [State.live_unheld]
    · dsimp only
      rw [queue]
      rfl
    · intro starting locked
      cases held.symm.trans (inv.threads.lock starting locked).2.1
  · intro other ended
    rcases List.mem_append.mp ended with old | new
    · exact .inl old
    · exact .inr (List.mem_singleton.mp new)
  · rw [named] at outcome ⊢
    cases outcome with
    | completed status progress => exact .completed status progress
    | failed status ordered excused => exact .failed status ordered (.inl excused)
    | unreached missed gone ordered => exact .unreached missed gone ordered

theorem Inv.takes (inv : Inv S s) {jobId : String} {rest : List String} (idle : s.worker = none)
    (queued : s.queue = jobId :: rest) : Inv S { s with queue := rest, worker := some (jobId, .begun) } := by
  have unheld : ∀ place, s.holder ≠ .start place := by
    intro place locked
    cases queued.symm.trans (inv.threads.lock place locked).1
  have live : s.live = some (jobId, .waiting) := by
    rw [State.live_unheld unheld, idle, queued]
    rfl
  have none : rest = [] := by
    have single := inv.threads.single
    rw [queued, List.length_cons] at single
    exact List.length_eq_zero_iff.mp (by omega)
  rcases List.mem_map.mp (inv.known jobId _ live).1 with ⟨c, member, named⟩
  have holds := inv.jobs c member
  rw [named, State.placeOf_live live] at holds
  rcases holds with ⟨entries, job, snapshot, found, kept, status, results, tests⟩
  have begun : ∀ later : State Token, later.tests = s.tests → At S later c.id entries job (.running .begun) := by
    intro later same
    refine ⟨status, results, ?_⟩
    rw [same]
    exact tests
  refine inv.move live rfl inv.reachable ?_ (fun _ _ => ⟨rfl, rfl, id, id, id, id⟩) (.inl ⟨?_, rfl⟩)
    (fun _ listed => .inl listed) ⟨c, member, named, entries, job, snapshot, found, kept, begun _ rfl⟩
  · refine ⟨fun place locked => absurd locked (unheld place), ?_, fun _ => none, ?_, inv.threads.uncalled,
      inv.threads.running, inv.threads.closing, ?_⟩
    · rw [none]
      exact Nat.zero_le 1
    · intro other given
      rcases given with later | ⟨_, worker⟩
      · rw [none] at later
        cases later
      · cases worker
        exact inv.threads.future jobId (.inl (by rw [queued]; exact List.mem_cons_self))
    · intro returned
      cases queued.symm.trans (inv.threads.returned returned).1
  · exact State.live_unheld unheld

/-! Runs. -/

theorem Inv.work (laws : S.platform.VaultLaws) (inv : Inv S s) (input : Input) : Inv S (s.works S input) := by
  unfold State.works
  cases held : s.worker with
  | none =>
      cases queued : s.queue with
      | nil => exact inv
      | cons jobId rest => exact inv.takes held queued
  | some job =>
      rcases job with ⟨jobId, place⟩
      cases place with
      | begun => exact inv.begins laws held input
      | marked => exact inv.loads laws held input
      | testing rest =>
          cases rest with
          | nil => exact inv.completes laws held input
          | cons entry rest => exact inv.tries laws held input.answer
      | recording result rest => exact inv.records laws held input
      | failing message => exact inv.fails laws held input
      | returned => exact inv.ends held

theorem Inv.shutsDown (inv : Inv S s) : Inv S s.shutsDown := by
  unfold State.shutsDown
  cases place : s.shutdown with
  | uncalled =>
      dsimp only
      split
      · rename_i free
        refine inv.frame rfl ?_ rfl rfl inv.reachable ?_ (fun _ => ⟨rfl, rfl, id, id, id, id⟩)
        · unfold State.live
          rw [free]
        · exact ⟨nofun, inv.threads.single, inv.threads.alone, inv.threads.future, iff_of_false nofun nofun, nofun,
            fun _ => rfl, nofun⟩
      · exact inv
  | closing =>
      have held := inv.threads.closing place
      have closed : s.closed ≠ false := by
        intro opened
        cases (inv.threads.uncalled.mpr opened).symm.trans place
      refine inv.frame rfl ?_ rfl rfl inv.reachable ?_ (fun _ => ⟨rfl, rfl, fun _ => rfl, id, id, id⟩)
      · unfold State.live
        rw [held]
      · exact ⟨nofun, inv.threads.single, inv.threads.alone, inv.threads.future, iff_of_false nofun closed, nofun,
          nofun, nofun⟩
  | stopped =>
      have closed : s.closed ≠ false := by
        intro opened
        cases (inv.threads.uncalled.mpr opened).symm.trans place
      refine inv.frame rfl rfl rfl rfl inv.reachable ?_ (fun _ => ⟨rfl, rfl, id, id, id, id⟩)
      exact ⟨inv.threads.lock, inv.threads.single, inv.threads.alone, inv.threads.future, iff_of_false nofun closed, nofun,
        nofun, nofun⟩
  | waiting =>
      have closed : s.closed ≠ false := by
        intro opened
        cases (inv.threads.uncalled.mpr opened).symm.trans place
      dsimp only
      split
      · rename_i idle
        refine inv.frame rfl rfl rfl rfl inv.reachable ?_ (fun _ => ⟨rfl, rfl, id, id, id, id⟩)
        exact ⟨inv.threads.lock, inv.threads.single, inv.threads.alone, inv.threads.future, iff_of_false nofun closed,
          nofun, nofun, fun _ => ⟨idle.1, Option.isNone_iff_eq_none.mp idle.2⟩⟩
      · exact inv
  | returned => exact inv

theorem Inv.step (laws : S.platform.VaultLaws) (inv : Inv S s) (action : Action) : Inv S (step S action s) := by
  cases action with
  | request call =>
      unfold Batches.step
      dsimp only
      split
      · rename_i other
        exact inv.request other
      · exact inv
  | start ids => exact inv.starts ids
  | advance input => exact inv.advance laws input
  | work input => exact inv.work laws input
  | shutdown => exact inv.shutsDown

theorem run_inv (laws : S.platform.VaultLaws) (inv : Inv S s) (actions : List Action) : Inv S (run (step S) s actions) :=
  run_invariant (Inv S) (fun action _ held => held.step laws action) inv actions

end

end NetworkGateway.Batches
