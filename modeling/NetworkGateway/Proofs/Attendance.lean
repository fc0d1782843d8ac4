import NetworkGateway.Api.Bench
import NetworkGateway.Proofs.Authorization
import NetworkGateway.Proofs.JobOwners

/-! The application behaves towards its batch service as an environment of requests, and no job is left behind. -/

namespace NetworkGateway.Api

open Library Library.Result Library.Interaction Library.Table Management Store

section

variable {Token : Type} {app : Application Token} {s : State app}

def Step.isWork : Step app → Bool
  | .batches (.work _) => true
  | _ => false

def Step.isRestart : Step app → Bool
  | .restart => true
  | _ => false

/-- The routes leave the jobs to the batch service. -/
theorem writes_other {β : Type} {command : ServiceCommand β} {op : Op} (writes : command.writes = some op) :
    Batches.otherOp op = true := by
  cases command <;> cases writes <;> rfl

/-- The batch service went through steps of its own and of its environment, `work` of them the worker's. -/
def Simulated (s later : State app) (work : Nat) : Prop :=
  later.opened = s.opened ∧ ∃ actions : List Batches.Action,
    later.batches = Library.Run.run (Batches.step app.service) s.batches actions ∧
      actions.countP Batches.Action.isWork = work

theorem Simulated.idle {later : State app} (opened : later.opened = s.opened) (same : later.batches = s.batches) :
    Simulated s later 0 :=
  ⟨opened, [], same, rfl⟩

theorem opens_again (opened : s.opened = true) (available : Bool) : s.opens available = s := by
  unfold State.opens
  rw [if_pos opened]

theorem arrives_opens (arrival : Arrival app) :
    ((s.arrives arrival).opened = s.opened ∧ (s.arrives arrival).batches = s.batches) ∨
      (s.arrives arrival).opened = (s.opens arrival.available).opened ∧
        (s.arrives arrival).batches = (s.opens arrival.available).batches := by
  unfold State.arrives
  split
  · exact .inl ⟨rfl, rfl⟩
  · right
    dsimp only
    split
    · split
      · exact ⟨rfl, rfl⟩
      · exact ⟨rfl, rfl⟩
    · exact ⟨rfl, rfl⟩

theorem advances_simulated (place : Nat) (input : Batches.Input) : Simulated s (s.advances place input) 0 := by
  unfold State.advances
  split
  · rename_i id task found
    unfold State.turn
    cases task with
    | batch ids =>
        dsimp only
        split
        · exact ⟨rfl, [.start ids], rfl, rfl⟩
        · exact .idle rfl rfl
    | route program =>
        cases program with
        | done outcome => exact .idle rfl rfl
        | call command next =>
            dsimp only [Interleaving.advance]
            rcases @performCall_writes Token app _ command input s.db with same | ⟨op, writes, called⟩
            · refine .idle rfl ?_
              rw [same]
              rfl
            · refine ⟨rfl, [.request ⟨app.store, input.fresh, op⟩], ?_, rfl⟩
              rw [called, Library.Run.run_cons, Library.Run.run_nil]
              unfold Batches.step
              dsimp only
              rw [if_pos (writes_other writes)]
              rfl
  · exact .idle rfl rfl

theorem batches_simulated (action : Batches.Action) : Simulated s (step app (.batches action) s)
    (if s.opened && (Step.batches action : Step app).isWork then 1 else 0) := by
  cases opened : s.opened with
  | false =>
      have barred : step app (.batches action) s = s := by
        simp [step, opened]
      rw [barred]
      exact .idle rfl rfl
  | true =>
      have taken : ownAction action = true → step app (.batches action) s =
          { s with batches := Batches.step app.service action s.batches } := by
        intro own
        simp [step, opened, own]
      cases action with
      | request call => exact .idle (by simp [step, ownAction]) (by simp [step, ownAction])
      | start ids => exact .idle (by simp [step, ownAction]) (by simp [step, ownAction])
      | advance given =>
          rw [taken rfl]
          exact ⟨rfl, [.advance given], rfl, rfl⟩
      | work given =>
          rw [taken rfl]
          exact ⟨rfl, [.work given], rfl, rfl⟩
      | shutdown =>
          rw [taken rfl]
          exact ⟨rfl, [.shutdown], rfl, rfl⟩

/-- Until the process ends, its steps are steps of the batch service and of the service's environment. -/
theorem step_simulated (input : Step app) (opened : s.opened = true) (running : input.isRestart = false) :
    Simulated s (step app input s) (if input.isWork then 1 else 0) := by
  cases input with
  | arrive arrival =>
      rcases arrives_opens (s := s) arrival with same | same
      · exact .idle same.1 same.2
      · rw [opens_again opened] at same
        exact .idle same.1 same.2
  | advance place given => exact advances_simulated place given
  | batches action =>
      have simulated := batches_simulated (s := s) action
      rw [opened, Bool.true_and] at simulated
      exact simulated
  | restart => cases running

theorem run_simulated (opened : s.opened = true) {steps : List (Step app)}
    (running : ∀ input ∈ steps, input.isRestart = false) :
    Simulated s (Interleaving.run (step app) s steps) (steps.countP Step.isWork) := by
  induction steps generalizing s with
  | nil => exact .idle rfl rfl
  | cons input rest ih =>
      rcases step_simulated input opened (running input List.mem_cons_self) with ⟨still, first, reached, worked⟩
      rcases ih (still.trans opened) (fun other member => running other (List.mem_cons_of_mem _ member)) with
        ⟨last, second, ended, more⟩
      refine ⟨last.trans still, first ++ second, ?_, ?_⟩
      · rw [Interleaving.run_cons, ended, reached, Library.Run.run_append]
      · rw [List.countP_append, worked, more, List.countP_cons]
        omega

/-! The jobs. -/

/-- The batch service is in order, the jobs continue those of `jobs`, and once the store is open every active one
is the service's. -/
structure Attended (jobs : List (JobRow Token)) (s : State app) : Prop where
  sound : Batches.Inv app.service s.batches
  accepted : Batches.Accepted s.batches
  continues : JobsContinue jobs s.db.jobs
  kept : Batches.KeepsEnded jobs s.db.jobs
  owned : s.opened = true → Batches.Owned s.batches

theorem Attended.same {jobs : List (JobRow Token)} {later : State app} (attended : Attended jobs s)
    (opened : later.opened = s.opened) (batches : later.batches = s.batches) : Attended jobs later := by
  refine ⟨?_, ?_, ?_, ?_, ?_⟩
  · rw [batches]
    exact attended.sound
  · rw [batches]
    exact attended.accepted
  · rw [State.db, batches]
    exact attended.continues
  · rw [State.db, batches]
    exact attended.kept
  · rw [batches, opened]
    exact attended.owned

theorem Attended.start {db : Db Token} (reached : Reachable app.platform db) {jobs : List (JobRow Token)}
    (continues : JobsContinue jobs db.jobs) (kept : Batches.KeepsEnded jobs db.jobs)
    (unopened : s.opened = true → ∀ job ∈ db.jobs, job.status.active = false) (made : s.batches = .start db) :
    Attended jobs s := by
  refine ⟨?_, ?_, ?_, ?_, ?_⟩
  · rw [made]
    exact Batches.inv_start reached
  · rw [made]
    exact fun job replied => absurd replied List.not_mem_nil
  · rw [State.db, made]
    exact continues
  · rw [State.db, made]
    exact kept
  · rw [made]
    intro opened job member active
    rw [unopened opened job member] at active
    cases active

/-- Opening the store fails every job that was left active, and touches no other. -/
theorem openStore_jobs {db written : Db Token} {key : String} {store : GatewayStore}
    (sound : JobsSound app.platform db.jobs) (returned : openStore app.platform db key = (.ok store, written)) :
    (∀ job ∈ written.jobs, job.status.active = false) ∧ Batches.KeepsEnded db.jobs written.jobs := by
  unfold openStore at returned
  split at returned
  · cases returned
  · split at returned
    · cases returned
    · rcases transaction_ok.mp returned with ⟨_, body⟩
      simp only [bind_eq_ok, pure_eq, Except.ok.injEq, Prod.mk.injEq] at body
      rcases body with ⟨_, _, _, rfl⟩
      constructor
      · intro job member
        rcases List.mem_map.mp member with ⟨held, earlier, rfl⟩
        rcases sound.tracked held earlier with ⟨entries, tracks⟩
        unfold recoverJob
        split
        · rfl
        · rename_i free
          exact eq_false_of_ne_true fun active => free (tracks.slot_iff.mpr active)
      · intro job member ended
        rcases sound.tracked job member with ⟨entries, tracks⟩
        have same : recoverJob job = job := by
          unfold recoverJob
          rw [if_neg]
          intro slot
          rw [tracks.slot_iff.mp slot] at ended
          cases ended
        exact List.mem_map.mpr ⟨job, member, same⟩

section

variable (laws : app.service.platform.VaultLaws) {jobs : List (JobRow Token)}
include laws

theorem Attended.follows {later : State app} {work : Nat} (attended : Attended jobs s) (simulated : Simulated s later work) :
    Attended jobs later := by
  rcases simulated with ⟨opened, actions, reached, -⟩
  let holds := fun b : Batches.State Token => Batches.Inv app.service b ∧ Batches.Accepted b ∧
    JobsContinue jobs b.db.jobs ∧ Batches.KeepsEnded jobs b.db.jobs ∧ (s.opened = true → Batches.Owned b)
  have held : holds later.batches := by
    rw [reached]
    apply Library.Run.run_invariant holds
    · intro action b before
      refine ⟨before.1.step laws action, Batches.accepted_step laws before.1 before.2.1 action,
        before.2.2.1.trans (Batches.step_continues laws before.1 action),
        before.2.2.2.1.trans (Batches.step_keepsEnded laws before.1 action), ?_⟩
      exact fun opened => Batches.step_owned laws before.1 (before.2.2.2.2 opened) action
    · exact ⟨attended.sound, attended.accepted, attended.continues, attended.kept, attended.owned⟩
  refine ⟨held.1, held.2.1, held.2.2.1, held.2.2.2.1, ?_⟩
  rw [opened]
  exact held.2.2.2.2

theorem Attended.opens (attended : Attended jobs s) (available : Bool) : Attended jobs (s.opens available) := by
  have reached := attended.sound.reachable
  have sound : JobsSound app.platform s.db.jobs := reachable_sound laws reached
  unfold State.opens
  split
  · exact attended
  · split
    · rename_i store db opened
      have called := (Batches.reach_ok opened).2
      have after : db = after app.platform ⟨app.store, undrawn, .openStore app.key⟩ s.db :=
        (congrArg Prod.snd called).symm
      have jobs := openStore_jobs sound called
      refine .start ?_ ?_ (attended.kept.trans jobs.2) (fun _ => jobs.1) rfl
      · rw [after]
        exact Batches.reachable_after _ reached
      · rw [after]
        exact attended.continues.trans (jobsStep_continue (after_change app.platform _ s.db).effect.jobsStep sound)
    · rename_i raised db opened
      have same : db = s.db := by
        apply Batches.reach_error opened
        intro error failed
        unfold openStore at failed ⊢
        split
        · rfl
        · split
          · rfl
          · rename_i some valid
            rw [if_neg some, if_neg valid] at failed
            exact transaction_kept failed
      rw [same]
      exact attended.same rfl rfl

theorem Attended.step (attended : Attended jobs s) (input : Step app) : Attended jobs (Api.step app input s) := by
  cases input with
  | arrive arrival =>
      rcases arrives_opens (s := s) arrival with same | same
      · exact attended.same same.1 same.2
      · exact (attended.opens laws arrival.available).same same.1 same.2
  | advance place given => exact attended.follows laws (advances_simulated place given)
  | batches action => exact attended.follows laws (batches_simulated action)
  | restart =>
      exact .start attended.sound.reachable attended.continues attended.kept (fun opened => by cases opened) rfl

theorem run_attended (attended : Attended jobs s) (steps : List (Step app)) :
    Attended jobs (Interleaving.run (Api.step app) s steps) :=
  Interleaving.run_invariant (Attended jobs) (fun input _ attended => attended.step laws input) attended steps

/-- The worker's steps of a run without a restart are steps of the accepted job. -/
theorem accepted_ends {seen : List (JobRow Token)} (before : Attended jobs s) (opened : s.opened = true)
    {later : List (Step app)} (running : ∀ input ∈ later, input.isRestart = false)
    (after : Attended seen (Interleaving.run (Api.step app) s later)) {job : PublicJob} (replied : .ok job ∈ s.batches.replies) :
    ∃ row, find JobRow.id (Interleaving.run (Api.step app) s later).db.jobs job.id = some row ∧
      (2 * row.total + 6 ≤ later.countP Step.isWork → row.status.active = false ∨
        job.id ∈ (Interleaving.run (Api.step app) s later).batches.unfailed) := by
  rcases run_simulated opened running with ⟨still, actions, ended, worked⟩
  rcases before.accepted job replied with ⟨c, listed, same, left⟩
  rcases Option.isSome_iff_exists.mp left with ⟨steps, left⟩
  have bound := before.sound.left_bound listed left
  rcases Batches.run_left (S := app.service) laws before.sound listed left actions with ⟨kept, fewer, last, small⟩
  rw [← ended] at kept last
  rw [worked] at small
  rcases after.sound.jobs c kept with ⟨entries, row, snapshot, located, held, -⟩
  rw [same] at located
  refine ⟨row, located, ?_⟩
  intro enough
  have size : row.total = c.ids.length := by
    rw [held.total, ← snapshot.ids, List.length_map]
  have none : fewer = 0 := by omega
  rw [none] at last
  by_cases active : row.status.active = true
  · right
    have member := find_mem located
    rcases after.sound.attended laws (after.owned (still.trans opened)) member.1 active with ⟨place, live⟩ | missed
    · have unended := (after.sound.known _ _ live).2
      rw [member.2, ← same] at unended
      exact absurd (Batches.left_zero last) unended
    · rw [← member.2]
      exact missed
  · exact .inl (eq_false_of_ne_true active)

end

/-- In every run of the application from a reachable database, requests interleaved call by call and restarts at
any moment: jobs only go forward, and one that ended stays as it is; once the store is open, an active job is in the
hands of the batch service unless its failure did not reach the database, so that an idle service has room for a new
one; and a job that was accepted is there and ends within the worker's next `2 * total + 6` steps, unless the process
ends first. -/
theorem jobs_attended (laws : app.platform.VaultLaws) {db : Db Token} (reached : Reachable app.platform db)
    (earlier later : List (Step app)) :
    let s := Interleaving.run (step app) (State.start db) earlier
    let t := Interleaving.run (step app) s later
    (JobsContinue s.db.jobs t.db.jobs ∧ Batches.KeepsEnded s.db.jobs t.db.jobs) ∧
      (t.opened = true → (∀ job ∈ t.db.jobs, job.status.active = true →
          (∃ place, t.batches.live = some (job.id, place)) ∨ job.id ∈ t.batches.unfailed) ∧
        (t.batches.live = none → t.batches.unfailed = [] → activeJob t.db.jobs = false)) ∧
      (s.opened = true → (∀ input ∈ later, input.isRestart = false) → ∀ job, .ok job ∈ s.batches.replies →
        ∃ row, find JobRow.id t.db.jobs job.id = some row ∧ (2 * row.total + 6 ≤ later.countP Step.isWork →
          row.status.active = false ∨ job.id ∈ t.batches.unfailed)) := by
  intro s t
  have before : Attended db.jobs s := by
    apply run_attended laws _ earlier
    exact .start reached (JobsContinue.refl db.jobs) (Batches.KeepsEnded.refl db.jobs) (fun opened => by cases opened) rfl
  have after : Attended s.db.jobs t := by
    apply run_attended laws
    exact ⟨before.sound, before.accepted, JobsContinue.refl _, Batches.KeepsEnded.refl _, before.owned⟩
  refine ⟨⟨after.continues, after.kept⟩, ?_, ?_⟩
  · intro opened
    exact ⟨fun job member active => after.sound.attended laws (after.owned opened) member active,
      after.sound.room laws (after.owned opened)⟩
  · intro opened running job replied
    exact accepted_ends laws before opened running after replied

end

def acceptedBatch : List (Step Bench.application) :=
  [.arrive (Bench.arrival (.create .connections) (.json NetworkGateway.Bench.fakeDevice)), .advance 0 (Bench.input "first"),
   .advance 0 (Bench.input ""),
   .arrive (Bench.arrival .createBatch (.json (.dict [("connection_ids", .list [.str "first"])]))), .advance 0 (Bench.input ""),
   .batches (.advance (Bench.input "")), .batches (.advance (Bench.input "job")), .batches (.advance (Bench.input ""))]

def workedBatch : List (Step Bench.application) := List.replicate 8 (.batches (.work (Bench.input "")))

theorem jobs_attended_one :
    let s := Interleaving.run (step Bench.application) (State.start Db.empty) acceptedBatch
    let t := Interleaving.run (step Bench.application) s workedBatch
    (JobsContinue s.db.jobs t.db.jobs ∧ Batches.KeepsEnded s.db.jobs t.db.jobs) ∧ activeJob t.db.jobs = false ∧
      ∃ row, find JobRow.id t.db.jobs "job" = some row ∧ (row.status.active = false ∨ "job" ∈ t.batches.unfailed) := by
  intro s t
  have attended := @jobs_attended _ Bench.application Platform.bench_vaultLaws _ ⟨[], rfl⟩ acceptedBatch workedBatch
  have accepted : .ok ⟨"job", .queued, 1, 0, [], none⟩ ∈ s.batches.replies := List.mem_singleton.mpr rfl
  have running : ∀ input ∈ workedBatch, input.isRestart = false := by decide
  rcases attended.2.2 rfl running _ accepted with ⟨row, found, ends⟩
  have found : find JobRow.id t.db.jobs "job" = some row := found
  have total : (find JobRow.id t.db.jobs "job").all (fun row => row.total == 1) = true := rfl
  have enough : 2 * row.total + 6 ≤ workedBatch.countP Step.isWork := by
    rw [found] at total
    rw [show row.total = 1 from eq_of_beq total]
    decide
  exact ⟨attended.1, (attended.2.1 rfl).2 rfl rfl, row, found, ends enough⟩

end NetworkGateway.Api
