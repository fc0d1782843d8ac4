import NetworkGateway.Dal.Bench
import NetworkGateway.Proofs.BatchLifecycle

/-! What a batch service promises: failures stay with their devices, and `shutdown` strands no job. -/

namespace NetworkGateway.Batches

open Library.Dict Library.Result Library.Run Library.Table Management Store

section

variable {Token : Type} {S : Service Token} {s : State Token}

def Action.isWork : Action → Bool
  | .work _ => true
  | _ => false

theorem step_left {action : Action} (idle : action.isWork = false) {count : Nat} {jobId : String} {steps : Nat}
    (left : s.left count jobId = some steps) : (step S action s).left count jobId = some steps := by
  cases action with
  | request call =>
      unfold step
      dsimp only
      split
      · exact left_kept rfl rfl (List.Subset.refl _) left
      · exact left
  | start ids =>
      have phase := starts_phase (s := s) ids
      apply left_kept phase.2.2.2.2.1 phase.2.2.2.1 _ left
      rw [phase.2.2.1]
      exact List.Subset.refl _
  | advance input =>
      have advanced := advance_advanced (S := S) (s := s) input
      exact left_kept advanced.ended advanced.worker advanced.queue left
  | work input => cases idle
  | shutdown =>
      unfold step State.shutsDown
      dsimp only
      split
      · split
        · exact left_kept rfl rfl (List.Subset.refl _) left
        · exact left
      · exact left_kept rfl rfl (List.Subset.refl _) left
      · exact left_kept rfl rfl (List.Subset.refl _) left
      · split
        · exact left_kept rfl rfl (List.Subset.refl _) left
        · exact left
      · exact left

theorem step_keeps_created (action : Action) : s.created ⊆ (step S action s).created := by
  rcases step_created (S := S) (s := s) action with same | ⟨_, more⟩
  · rw [same]
    exact List.Subset.refl _
  · exact more

theorem run_left (laws : S.platform.VaultLaws) (inv : Inv S s) {c : Created Token} (member : c ∈ s.created) {steps : Nat}
    (left : s.left c.ids.length c.id = some steps) (actions : List Action) :
    c ∈ (run (step S) s actions).created ∧ ∃ fewer, (run (step S) s actions).left c.ids.length c.id = some fewer ∧
      fewer ≤ steps - actions.countP Action.isWork := by
  induction actions generalizing s steps with
  | nil => exact ⟨member, steps, left, Nat.le_refl _⟩
  | cons action rest ih =>
      have kept := step_keeps_created (S := S) action member
      rw [run_cons]
      cases working : action.isWork with
      | false =>
          rw [List.countP_cons_of_neg (by rw [working]; decide)]
          exact ih (inv.step laws action) kept (step_left working left)
      | true =>
          rw [List.countP_cons_of_pos working]
          cases action with
          | work input =>
              rcases work_left laws inv member left input with ⟨fewer, next, less⟩
              rcases ih (inv.step laws (.work input)) kept next with ⟨still, last, ends, small⟩
              refine ⟨still, last, ends, ?_⟩
              omega
          | request | start | advance | shutdown => cases working

theorem left_zero {count : Nat} {jobId : String} (left : s.left count jobId = some 0) : jobId ∈ s.ended := by
  unfold State.left at left
  by_contra going
  rw [if_neg going] at left
  cases held : s.worker with
  | none =>
      rw [held] at left
      dsimp only at left
      split at left
      · cases left
      · cases left
  | some job =>
      rcases job with ⟨other, place⟩
      rw [held] at left
      dsimp only at left
      split at left
      · cases place with
        | begun | marked | testing | recording | failing | returned => cases left
      · cases left

theorem Inv.left_bound (inv : Inv S s) {c : Created Token} (member : c ∈ s.created) {steps : Nat}
    (left : s.left c.ids.length c.id = some steps) : steps ≤ 2 * c.ids.length + 6 := by
  unfold State.left at left
  split at left
  · have none := Option.some.inj left
    omega
  · split at left
    · rename_i jobId place held
      split at left
      · rename_i same
        rw [same] at held
        rw [← Option.some.inj left]
        rcases inv.worker held with ⟨other, listed, named, entries, job, snapshot, _, _, holds⟩
        rw [inv.only listed member named] at snapshot
        have size : entries.length = c.ids.length := by
          rw [← snapshot.ids, List.length_map]
        cases place with
        | begun | marked | failing | returned =>
            simp only [Running.left]
            omega
        | testing rest =>
            rcases holds with ⟨_, done, todo, split, listing, _⟩
            rw [split, List.length_append] at size
            rw [listing]
            simp only [Running.left, List.length_map]
            omega
        | recording result rest =>
            rcases holds with ⟨_, done, _, _, todo, _, _, split, listing, _⟩
            rw [split, List.length_append, List.length_cons] at size
            rw [listing]
            simp only [Running.left, List.length_map]
            omega
      · cases left
    · split at left
      · rw [← Option.some.inj left]
      · cases left

theorem Inv.queued (inv : Inv S s) {jobId : String} (queued : jobId ∈ s.queue) :
    ∃ c ∈ s.created, c.id = jobId ∧ (s.left c.ids.length c.id).isSome := by
  cases list : s.queue with
  | nil =>
      rw [list] at queued
      cases queued
  | cons first rest =>
      have single := inv.threads.single
      rw [list, List.length_cons] at single
      rw [list, List.length_eq_zero_iff.mp (by omega : rest.length = 0)] at queued
      have idle : s.worker = none := by
        by_contra busy
        cases list.symm.trans (inv.threads.alone busy)
      have live : s.live = some (first, .waiting) := by
        rw [State.live_unheld, idle, list]
        · rfl
        · intro place held
          cases list.symm.trans (inv.threads.lock place held).1
      have known := inv.known first _ live
      rcases List.mem_map.mp known.1 with ⟨c, member, named⟩
      refine ⟨c, member, named.trans (List.mem_singleton.mp queued).symm, ?_⟩
      unfold State.left
      rw [named, if_neg known.2, idle, list]
      dsimp only
      rw [if_pos List.mem_cons_self]
      rfl

/-- A job that `start` returned is queued, with the worker, or ended. -/
def Accepted (s : State Token) : Prop :=
  ∀ job, .ok job ∈ s.replies → ∃ c ∈ s.created, c.id = job.id ∧ (s.left c.ids.length c.id).isSome

theorem accepted_step (laws : S.platform.VaultLaws) (inv : Inv S s) (accepted : Accepted s) (action : Action) :
    Accepted (step S action s) := by
  have old : action.isWork = false → ∀ job, .ok job ∈ s.replies →
      ∃ c ∈ (step S action s).created, c.id = job.id ∧ ((step S action s).left c.ids.length c.id).isSome := by
    intro idle job member
    rcases accepted job member with ⟨c, listed, named, left⟩
    rcases Option.isSome_iff_exists.mp left with ⟨steps, left⟩
    refine ⟨c, step_keeps_created action listed, named, ?_⟩
    rw [step_left idle left]
    rfl
  intro job member
  cases action with
  | request call =>
      apply old rfl job
      unfold step at member
      dsimp only at member
      split at member
      · exact member
      · exact member
  | start ids => exact old rfl job ((starts_phase ids).2.2.2.2.2 job member)
  | advance input =>
      have advanced := advance_advanced (S := S) (s := s) input
      rcases advanced.replies job member with before | queued
      · exact old rfl job before
      · exact (inv.advance laws input).queued queued
  | work input =>
      have same : (step S (.work input) s).replies = s.replies := (works_phase input).2.2
      rw [same] at member
      rcases accepted job member with ⟨c, listed, named, left⟩
      rcases Option.isSome_iff_exists.mp left with ⟨steps, left⟩
      rcases work_left laws inv listed left input with ⟨fewer, next, _⟩
      refine ⟨c, step_keeps_created _ listed, named, ?_⟩
      have later : (step S (.work input) s).left c.ids.length c.id = some fewer := next
      rw [later]
      rfl
  | shutdown =>
      apply old rfl job
      unfold step State.shutsDown at member
      dsimp only at member
      split at member
      · split at member
        · exact member
        · exact member
      · exact member
      · exact member
      · split at member
        · exact member
        · exact member
      · exact member

theorem run_accepted (laws : S.platform.VaultLaws) {db : Db Token} (reached : Reachable S.platform db)
    (actions : List Action) : Accepted (run (step S) (State.start db) actions) := by
  have both : Inv S (run (step S) (State.start db) actions) ∧ Accepted (run (step S) (State.start db) actions) := by
    apply run_invariant (fun s => Inv S s ∧ Accepted s)
    · intro action s held
      exact ⟨held.1.step laws action, accepted_step laws held.1 held.2 action⟩
    · exact ⟨inv_start reached, nofun⟩
  exact both.2

theorem Inv.settled (inv : Inv S s) {c : Created Token} (member : c ∈ s.created)
    (calm : ∀ place, s.live ≠ some (c.id, place)) : Holds S s c .settled := by
  have holds := inv.jobs c member
  have settled : s.placeOf c.id = .settled := by
    cases live : s.live with
    | none => exact State.placeOf_idle live c.id
    | some job =>
        rcases job with ⟨jobId, place⟩
        apply State.placeOf_other live
        intro same
        rw [← same] at live
        exact calm place live
  rw [settled] at holds
  exact holds

theorem run_unstopped (laws : S.platform.VaultLaws) {db : Db Token} (reached : Reachable S.platform db)
    {actions : List Action} (running : .shutdown ∉ actions) : (run (step S) (State.start db) actions).stop = false := by
  have inv := run_inv laws (inv_start (S := S) reached) actions
  apply inv.threads.running
  apply run_invariant_allowed (fun s : State Token => s.shutdown = .uncalled) (fun action => action ≠ .shutdown)
  · intro action s other uncalled
    rw [step_phase other]
    exact uncalled
  · rfl
  · intro action member same
    rw [same] at member
    exact running member

variable (S) in
/-- The job completed with one result for each selected connection, in order, and each is that of the device's own
test. -/
def Isolated (s : State Token) (c : Created Token) : Prop :=
  ∃ entries job, each (snapshotEntry S.platform S.store c.inventory) c.ids = .ok entries ∧
    find JobRow.id s.db.jobs c.id = some job ∧ job.status = .completed ∧
    job.results.map JobResult.connectionId = c.ids ∧
    List.Forall₂ (Recorded S entries) (testsOf s.tests c.id) job.results

/-- A service whose provider setting leaves simulated devices off. -/
def benchService : Service Platform.SealedToken := ⟨Bench.libraries, Bench.store, "disabled", false⟩

def benchAnswer : Answer := ⟨some (.dict [("success", .bool true)]), ⟨1, 1, 1⟩, by decide, by decide⟩

def benchInput : Input := ⟨Bench.fresh "job", true, true, benchAnswer⟩

def benchSave (id : String) (payload : Value) (itemId : Option String) : Action :=
  .request ⟨Bench.store, Bench.fresh id, .save "connections" payload itemId⟩

def networkDevice (name : String) : Value := .dict
  [("name", .str name), ("host", .str "192.0.2.1"), ("port", .int 22), ("protocol", .str "ssh"),
   ("username", .str "ops"), ("password", .str "hunter2")]

/-- `start` checks the two devices saved. -/
def checkedTwo : List Action :=
  [benchSave "first" (networkDevice "first") none, benchSave "second" (networkDevice "second") none,
   .start ["first", "second"], .advance benchInput, .advance benchInput]

/-- `create_job`, and `submit`. -/
def acceptedTwo : List Action := [.advance benchInput, .advance benchInput]

def workedTwo : List Action := List.replicate 10 (.work benchInput)

/-- After the checks another request turns the first device into a simulated one. -/
def editedTwo : List Action := checkedTwo ++ [benchSave "" (.dict [("client_type", .str "fake")]) (some "first")]

def Action.isShutdown : Action → Bool
  | .shutdown => true
  | _ => false

theorem no_shutdown {actions : List Action} (others : actions.any Action.isShutdown = false) : .shutdown ∉ actions := by
  intro member
  exact List.any_eq_false.mp others _ member rfl

theorem Outcome.ordered {jobId : String} {entries : List (String × Dict)} {job : JobRow Token} {excuse : Prop}
    (outcome : Outcome S s jobId entries job excuse) : Ordered entries job.results := by
  cases outcome with
  | completed _ progress => exact progress.ordered (List.append_nil entries).symm
  | failed _ ordered => exact ordered
  | unreached _ _ ordered => exact ordered

/-- Wherever a job is, its results are those of its first devices. -/
theorem At.ordered {jobId : String} {entries : List (String × Dict)} {job : JobRow Token} {place : Place}
    (holds : At S s jobId entries job place) : Ordered entries job.results := by
  cases place with
  | waiting =>
      rcases holds with ⟨_, results, _⟩
      rw [results]
      exact List.nil_prefix
  | settled => exact Outcome.ordered holds
  | running place =>
      cases place with
      | returned => exact Outcome.ordered holds
      | begun | marked | testing | recording | failing => exact (At.active holds nofun).2

variable (S) in
/-- Each job's results follow its snapshot, one job at most is active, nothing is created once `shutdown` began, and no
job is left active when it returned. -/
theorem shutdown_strands_nothing (laws : S.platform.VaultLaws) {db : Db Token} (reached : Reachable S.platform db)
    (actions later : List Action) :
    (run (step S) (State.start db) actions).db.jobs.countP (fun job => job.status.active) ≤ 1 ∧
    (∀ c ∈ (run (step S) (State.start db) actions).created, ∃ job profiles,
      find JobRow.id (run (step S) (State.start db) actions).db.jobs c.id = some job ∧
      getJobConnections S.platform S.store (run (step S) (State.start db) actions).db c.id = .ok profiles ∧
      profiles.map Prod.fst = c.ids ∧ job.results.map JobResult.connectionId <+: profiles.map Prod.fst) ∧
    ((run (step S) (State.start db) actions).shutdown ≠ .uncalled →
      (run (step S) (State.start db) (actions ++ later)).created = (run (step S) (State.start db) actions).created) ∧
    ((run (step S) (State.start db) actions).shutdown = .returned →
      (run (step S) (State.start db) actions).unreached = [] →
      ∀ c ∈ (run (step S) (State.start db) actions).created, ∃ job,
        find JobRow.id (run (step S) (State.start db) actions).db.jobs c.id = some job ∧
        (job.status = .completed ∨ job.status = .failed)) := by
  have inv := run_inv laws (inv_start (S := S) reached) actions
  refine ⟨(reachable_sound laws inv.reachable).single, ?_, ?_, ?_⟩
  · intro c member
    rcases inv.jobs c member with ⟨entries, job, snapshot, found, held, holds⟩
    have ids : (entries.map (fun entry => (entry.1, listed entry.2))).map Prod.fst = entries.map Prod.fst := by
      rw [List.map_map]
      rfl
    refine ⟨job, _, found, congrArg Prod.fst (load_runs laws snapshot.opened found held), ids.trans snapshot.ids, ?_⟩
    rw [ids]
    exact holds.ordered
  · intro called
    rw [run_append]
    generalize run (step S) (State.start db) actions = s at inv called
    have frozen : Inv S (run (step S) s later) ∧ (run (step S) s later).shutdown ≠ .uncalled ∧
        (run (step S) s later).created = s.created := by
      apply run_invariant (fun t => Inv S t ∧ t.shutdown ≠ .uncalled ∧ t.created = s.created)
      · intro action t held
        refine ⟨held.1.step laws action, step_called action held.2.1, ?_⟩
        rcases step_created (S := S) (s := t) action with same | ⟨⟨ids, locked⟩, _⟩
        · rw [same]
          exact held.2.2
        · exact absurd (held.1.threads.uncalled.mpr (held.1.threads.lock _ locked).2.2) held.2.1
      · exact ⟨inv, called, rfl⟩
    exact frozen.2.2
  · intro returned stored c member
    have idle := inv.threads.returned returned
    have live : (run (step S) (State.start db) actions).live = none := by
      rw [State.live_unheld, idle.2, idle.1]
      · rfl
      · intro place locked
        cases returned.symm.trans (inv.threads.uncalled.mpr (inv.threads.lock place locked).2.2)
    rcases inv.settled member (by rw [live]; nofun) with ⟨entries, job, snapshot, found, held, outcome⟩
    refine ⟨job, found, ?_⟩
    cases outcome with
    | completed status => exact .inl status
    | failed status => exact .inr status
    | unreached missed =>
        rw [stored] at missed
        cases missed

/-- `shutdown` is called while the first device is tested. -/
def shutdownTwo : List Action :=
  checkedTwo ++ acceptedTwo ++ List.replicate 4 (.work benchInput) ++ List.replicate 3 .shutdown ++
    .start ["first"] :: List.replicate 5 (.work benchInput) ++ [.shutdown]

theorem shutdown_strands_nothing_two :
    (run (step benchService) (State.start Db.empty) shutdownTwo).shutdown = .returned ∧
      ∃ job, find JobRow.id (run (step benchService) (State.start Db.empty) shutdownTwo).db.jobs "job" = some job ∧
        (job.status = .completed ∨ job.status = .failed) := by
  have returned : (run (step benchService) (State.start Db.empty) shutdownTwo).shutdown = .returned := rfl
  have created : ∃ c ∈ (run (step benchService) (State.start Db.empty) shutdownTwo).created, c.id = "job" :=
    ⟨_, List.mem_singleton.mpr rfl, rfl⟩
  rcases created with ⟨c, member, named⟩
  have reached : Reachable benchService.platform Db.empty := ⟨[], rfl⟩
  have strands := shutdown_strands_nothing benchService Platform.bench_vaultLaws reached shutdownTwo []
  have ended := strands.2.2.2 returned rfl c member
  rw [named] at ended
  exact ⟨returned, ended⟩

end

end NetworkGateway.Batches
