import NetworkGateway.Proofs.BatchEffects
import NetworkGateway.Proofs.BatchIsolation

/-! The active job of a database is one that the batch service on it created. -/

namespace NetworkGateway.Batches

open Library.Dict Library.Result Library.Run Library.Table Management Store

section

variable {Token : Type} {S : Service Token} {s later : State Token}

def Owned (s : State Token) : Prop :=
  ∀ job ∈ s.db.jobs, job.status.active = true → job.id ∈ s.created.map Created.id

theorem Owned.moved (owned : Owned s) (created : s.created ⊆ later.created)
    (ids : later.db.jobs.map JobRow.id = s.db.jobs.map JobRow.id) (sound : JobsSound S.platform s.db.jobs)
    (continues : JobsContinue s.db.jobs later.db.jobs) : Owned later := by
  intro job member active
  have listed : job.id ∈ s.db.jobs.map JobRow.id := by
    rw [← ids]
    exact List.mem_map_of_mem member
  rcases List.mem_map.mp listed with ⟨held, earlier, named⟩
  rcases continues held.id held (find_of_mem sound.keyed earlier) with ⟨kept, found, continued⟩
  have keyed : Keyed JobRow.id later.db.jobs := by
    unfold Keyed
    rw [ids]
    exact sound.keyed
  have same : kept = job := by
    rw [named, find_of_mem keyed member] at found
    exact (Option.some.inj found).symm
  have going : held.status.active = true := by
    by_contra idle
    have settled := (continued.settled (eq_false_of_ne_true idle)).1
    rw [same] at settled
    rw [settled] at active
    exact idle active
  rw [← named]
  exact List.map_subset Created.id created (owned held earlier going)

theorem Worked.own_or_idle {b : State Token} {db : Db Token} (worked : Worked S b db)
    (unchecked : ∀ ids, b.holder ≠ .start (.checking ids [])) :
    db = b.db ∨ ∃ call, OwnCall S.store.key call.op ∧ db = after S.platform call b.db := by
  cases worked with
  | idle same => exact .inl same
  | own call _ own _ called => exact .inr ⟨call, .handles own, called⟩
  | created fresh ids checked called => exact absurd checked (unchecked ids)

/-- A step makes at most one store call. -/
theorem step_reaches (action : Action) :
    (step S action s).db = s.db ∨ ∃ call, (step S action s).db = after S.platform call s.db := by
  by_cases requested : ∃ call, action = .request call
  · rcases requested with ⟨call, rfl⟩
    unfold step
    dsimp only
    split
    · exact .inr ⟨call, rfl⟩
    · exact .inl rfl
  · cases step_worked (S := S) (b := s) (fun call same => requested ⟨call, same⟩) with
    | idle same => exact .inl same
    | own call _ _ _ called => exact .inr ⟨call, called⟩
    | created fresh ids checked called => exact .inr ⟨_, called⟩

theorem step_continues (laws : S.platform.VaultLaws) (inv : Inv S s) (action : Action) :
    JobsContinue s.db.jobs (step S action s).db.jobs := by
  rcases step_reaches (S := S) (s := s) action with same | ⟨call, called⟩
  · rw [same]
    exact JobsContinue.refl _
  · rw [called]
    exact jobsStep_continue (after_change S.platform call s.db).effect.jobsStep (reachable_sound laws inv.reachable)

theorem creates_owned (owned : Owned s) (input : Input) (ids : List String) : Owned (s.creates S input ids) := by
  unfold State.creates
  generalize made : reach input.available s.db (createJob S.platform S.store s.db input.fresh (.list (ids.map .str))) =
    outcome
  rcases outcome with ⟨raised | job, written⟩
  · rw [create_error made]
    exact owned
  · rcases create_ok made with ⟨_, _, entries, _, _, jobs, _⟩
    intro row member active
    have listed : row ∈ s.db.jobs ++
        [newJob job.id (S.platform.encrypt S.store.key input.fresh.iv (encodeSnapshot entries)) entries.length] := by
      rw [← jobs]
      exact member
    rw [List.map_append]
    rcases List.mem_append.mp listed with earlier | new
    · exact List.mem_append_left _ (owned row earlier active)
    · rw [List.mem_singleton.mp new]
      exact List.mem_append_right _ List.mem_cons_self

theorem request_owned (owned : Owned s) (call : Call) : Owned (step S (.request call) s) := by
  unfold step
  dsimp only
  split
  · rename_i other
    intro job member active
    have member : job ∈ (after S.platform call s.db).jobs := member
    rw [other_jobs other s.db] at member
    exact owned job member active
  · exact owned

/-- No step leaves an active job that the service did not create. -/
theorem step_owned (laws : S.platform.VaultLaws) (inv : Inv S s) (owned : Owned s) (action : Action) :
    Owned (step S action s) := by
  have kept := step_keeps_created (S := S) (s := s) action
  have same : (step S action s).db = s.db → Owned (step S action s) := by
    intro same job member active
    rw [same] at member
    exact List.map_subset Created.id kept (owned job member active)
  by_cases requested : ∃ call, action = .request call
  · rcases requested with ⟨call, rfl⟩
    exact request_owned owned call
  · by_cases checked : ∃ ids, s.holder = .start (.checking ids [])
    · -- the worker has nothing to do while `start` holds the lock
      rcases checked with ⟨ids, held⟩
      have locked := inv.threads.lock _ held
      cases action with
      | request call => exact absurd ⟨call, rfl⟩ requested
      | start given => exact same (starts_db given)
      | advance input =>
          have created : step S (.advance input) s = s.creates S input ids := by
            unfold step State.advance
            dsimp only
            rw [held]
          rw [created]
          exact creates_owned owned input ids
      | work input =>
          apply same
          unfold step State.works
          dsimp only
          rw [locked.2.1, locked.1]
      | shutdown =>
          apply same
          unfold step State.shutsDown
          dsimp only
          rw [inv.threads.uncalled.mpr locked.2.2, held]
          rfl
    · have worked := step_worked (S := S) (b := s) (fun call same => requested ⟨call, same⟩)
      rcases worked.own_or_idle (fun ids held => checked ⟨ids, held⟩) with idle | ⟨call, own, called⟩
      · exact same idle
      · refine owned.moved kept ?_ (reachable_sound laws inv.reachable) (step_continues laws inv action)
        rw [called]
        have same := congrArg (List.map Prod.fst) (after_agrees S.platform (own.untouched .jobs) s.db)
        rw [List.map_map, List.map_map] at same
        exact same

/-- An active job is with the service, unless its failure did not reach the database. -/
theorem Inv.attended (inv : Inv S s) (laws : S.platform.VaultLaws) (owned : Owned s) {job : JobRow Token}
    (member : job ∈ s.db.jobs) (active : job.status.active = true) :
    (∃ place, s.live = some (job.id, place)) ∨ job.id ∈ s.unfailed := by
  by_cases calm : ∀ place, s.live ≠ some (job.id, place)
  · right
    rcases List.mem_map.mp (owned job member active) with ⟨c, listed, named⟩
    rw [← named] at calm
    rcases inv.settled listed calm with ⟨entries, row, snapshot, found, held, outcome⟩
    have same : row = job := by
      have keyed := (reachable_sound laws inv.reachable).keyed
      rw [named, find_of_mem keyed member] at found
      exact (Option.some.inj found).symm
    rw [← named]
    cases outcome with
    | completed status progress =>
        rw [← same, status] at active
        cases active
    | failed status ordered excused =>
        rw [← same, status] at active
        cases active
    | unreached missed ended ordered =>
        rcases ended with inactive | unfailed
        · rw [← same, inactive] at active
          cases active
        · exact unfailed
  · left
    by_contra none
    exact calm fun place live => none ⟨place, live⟩

/-! Jobs that ended. -/

/-- The jobs that ended are still there, as they were. -/
def KeepsEnded (jobs later : List (JobRow Token)) : Prop := ∀ job ∈ jobs, job.status.active = false → job ∈ later

theorem KeepsEnded.refl (jobs : List (JobRow Token)) : KeepsEnded jobs jobs := fun _ member _ => member

theorem KeepsEnded.trans {jobs seen later : List (JobRow Token)} (first : KeepsEnded jobs seen)
    (second : KeepsEnded seen later) : KeepsEnded jobs later :=
  fun job member ended => second job (first job member ended) ended

theorem keepsEnded_replace {jobs : List (JobRow Token)} {jobId : String} (change : JobRow Token → JobRow Token)
    (active : ∀ job ∈ jobs, job.id = jobId → job.status.active = true) :
    KeepsEnded jobs (replace JobRow.id jobs jobId change) := by
  intro job member ended
  refine mem_replace.mpr (.inl ⟨member, ?_⟩)
  intro same
  rw [active job member same] at ended
  cases ended

theorem JobCall.keepsEnded {call : Call} {jobId : String} (own : JobCall jobId call.op) {db : Db Token}
    (active : ∀ job ∈ db.jobs, job.id = jobId → job.status.active = true) :
    KeepsEnded db.jobs (after S.platform call db).jobs := by
  let kept := fun written : Db Token => KeepsEnded db.jobs written.jobs
  rcases call with ⟨self, fresh, op⟩
  cases own with
  | moves status error =>
      change kept (setJobStatus S.platform self db jobId status error).2
      apply checked_holds (KeepsEnded.refl db.jobs)
      intro status
      apply transaction_holds (p := kept) (KeepsEnded.refl db.jobs)
      intro _ written returned
      rcases setJobStatusRow_ok.mp returned with ⟨_, _, _, _, _, _, rfl⟩
      exact keepsEnded_replace _ active
  | records result =>
      change kept (recordJobResult S.platform self db jobId result).2
      unfold recordJobResult
      split
      · apply transaction_holds (p := kept) (KeepsEnded.refl db.jobs)
        intro _ written returned
        rcases recordJobResultRow_ok.mp returned with ⟨_, _, _, _, _, _, _, _, _, _, _, _, _, rfl⟩
        exact keepsEnded_replace _ active
      · exact KeepsEnded.refl db.jobs

theorem Inv.handled (inv : Inv S s) (laws : S.platform.VaultLaws) {jobId : String} (handled : s.handles jobId) :
    ∀ job ∈ s.db.jobs, job.id = jobId → job.status.active = true := by
  intro job member named
  have keyed := (reachable_sound laws inv.reachable).keyed
  have only : ∀ c : Created Token, c.id = jobId → ∀ row, find JobRow.id s.db.jobs c.id = some row → row = job := by
    intro c same row found
    rw [same, ← named, find_of_mem keyed member] at found
    exact (Option.some.inj found).symm
  rcases handled with ⟨place, held, unfinished⟩ | held
  · rcases inv.worker held with ⟨c, _, same, entries, row, _, found, _, holds⟩
    rw [← only c same row found]
    exact (holds.active unfinished).1
  · have live : s.live = some (jobId, .waiting) := by
      unfold State.live
      rw [held]
    rcases List.mem_map.mp (inv.known jobId _ live).1 with ⟨c, listed, same⟩
    have holds := inv.jobs c listed
    rw [same, State.placeOf_live live] at holds
    rcases holds with ⟨entries, row, _, found, _, status, _⟩
    rw [← only c same row found, status]
    rfl

theorem step_keepsEnded (laws : S.platform.VaultLaws) (inv : Inv S s) (action : Action) :
    KeepsEnded s.db.jobs (step S action s).db.jobs := by
  have same : ∀ {db : Db Token}, db.jobs = s.db.jobs → KeepsEnded s.db.jobs db.jobs := by
    intro db jobs
    rw [jobs]
    exact KeepsEnded.refl _
  by_cases requested : ∃ call, action = .request call
  · rcases requested with ⟨call, rfl⟩
    unfold step
    dsimp only
    split
    · rename_i other
      exact same (other_jobs other s.db)
    · exact KeepsEnded.refl _
  · cases step_worked (S := S) (b := s) (fun call same => requested ⟨call, same⟩) with
    | idle idle => exact same (congrArg Db.jobs idle)
    | own call jobId own handled called =>
        rw [called]
        exact own.keepsEnded (inv.handled laws handled)
    | created fresh ids checked called =>
        rw [called]
        let kept := fun written : Db Token => KeepsEnded s.db.jobs written.jobs
        change kept (createJob S.platform S.store s.db fresh (.list (ids.map .str))).2
        apply checked_holds (p := kept) (KeepsEnded.refl s.db.jobs)
        intro ids
        apply transaction_holds (p := kept) (KeepsEnded.refl s.db.jobs)
        intro _ written returned
        rcases createJobRow_ok.mp returned with ⟨_, _, _, _, _, rfl⟩
        exact fun job member _ => List.mem_append_left _ member

/-- A service without a job at hand, whose failures all reached the database, leaves room for a new one. -/
theorem Inv.room (inv : Inv S s) (laws : S.platform.VaultLaws) (owned : Owned s) (idle : s.live = none)
    (failed : s.unfailed = []) : activeJob s.db.jobs = false := by
  unfold activeJob
  rw [List.any_eq_false]
  intro job member slot
  rcases (reachable_sound laws inv.reachable).tracked job member with ⟨entries, tracks⟩
  have active := tracks.slot_iff.mp (by simpa using slot)
  rcases inv.attended laws owned member active with ⟨place, live⟩ | missed
  · cases idle.symm.trans live
  · rw [failed] at missed
    cases missed

end

end NetworkGateway.Batches
