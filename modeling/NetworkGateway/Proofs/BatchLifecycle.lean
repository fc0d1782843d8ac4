import NetworkGateway.Proofs.BatchWork

/-! A batch service over whole runs: which jobs isolate the failures of their devices, and what `shutdown` leaves. -/

namespace NetworkGateway.Batches

open Library.Dict Library.Result Library.Run Library.Table Management Store

section

variable {Token : Type} {S : Service Token} {s : State Token}

/-! What a step leaves alone. -/

theorem runs_phase (jobId : String) (input : Input) (place : Running) :
    (s.runs S jobId input place).shutdown = s.shutdown ∧ (s.runs S jobId input place).created = s.created ∧
      (s.runs S jobId input place).replies = s.replies := by
  unfold State.runs
  cases place with
  | begun | marked | recording =>
      dsimp only
      split
      · exact ⟨rfl, rfl, rfl⟩
      · exact ⟨rfl, rfl, rfl⟩
  | testing rest =>
      cases rest with
      | nil =>
          dsimp only
          split
          · exact ⟨rfl, rfl, rfl⟩
          · exact ⟨rfl, rfl, rfl⟩
      | cons entry rest =>
          dsimp only
          unfold State.tries
          split
          · exact ⟨rfl, rfl, rfl⟩
          · split
            · exact ⟨rfl, rfl, rfl⟩
            · exact ⟨rfl, rfl, rfl⟩
  | failing message | returned => exact ⟨rfl, rfl, rfl⟩

theorem works_phase (input : Input) :
    (s.works S input).shutdown = s.shutdown ∧ (s.works S input).created = s.created ∧
      (s.works S input).replies = s.replies := by
  unfold State.works
  split
  · exact runs_phase _ input _
  · split
    · exact ⟨rfl, rfl, rfl⟩
    · exact ⟨rfl, rfl, rfl⟩

theorem starts_phase (ids : List String) :
    (s.starts ids).shutdown = s.shutdown ∧ (s.starts ids).created = s.created ∧ (s.starts ids).queue = s.queue ∧
      (s.starts ids).worker = s.worker ∧ (s.starts ids).ended = s.ended ∧
      ∀ job, .ok job ∈ (s.starts ids).replies → .ok job ∈ s.replies := by
  have replied : ∀ error : ManagementError, ∀ job, .ok job ∈ (s.reply (.error error)).replies → .ok job ∈ s.replies := by
    intro error job member
    rcases List.mem_append.mp member with old | new
    · exact old
    · cases List.mem_singleton.mp new
  unfold State.starts
  split
  · exact ⟨rfl, rfl, rfl, rfl, rfl, replied _⟩
  · split
    · exact ⟨rfl, rfl, rfl, rfl, rfl, fun _ => id⟩
    · split
      · exact ⟨rfl, rfl, rfl, rfl, rfl, replied _⟩
      · split
        · exact ⟨rfl, rfl, rfl, rfl, rfl, replied _⟩
        · exact ⟨rfl, rfl, rfl, rfl, rfl, fun _ => id⟩

/-- What the call of `start` that holds the lock can change besides the lock. -/
structure Advanced (s later : State Token) : Prop where
  shutdown : later.shutdown = s.shutdown
  created : later.created = s.created ∨ (∃ ids, s.holder = .start (.checking ids [])) ∧ s.created ⊆ later.created
  worker : later.worker = s.worker
  ended : later.ended = s.ended
  queue : s.queue ⊆ later.queue
  replies : ∀ job, .ok job ∈ later.replies → .ok job ∈ s.replies ∨ job.id ∈ later.queue

theorem Advanced.refused (s : State Token) (db : Db Token) (holder : Holder) (unreached unfailed : List String)
    (error : ManagementError) : Advanced s ({ s with db, holder, unreached, unfailed }.reply (.error error)) := by
  refine ⟨rfl, .inl rfl, rfl, rfl, List.Subset.refl _, ?_⟩
  intro job member
  rcases List.mem_append.mp member with old | new
  · exact .inl old
  · cases List.mem_singleton.mp new

theorem advance_advanced (input : Input) : Advanced s (s.advance S input) := by
  have still : ∀ holder, Advanced s { s with holder } := by
    intro holder
    exact ⟨rfl, .inl rfl, rfl, rfl, List.Subset.refl _, fun _ => .inl⟩
  unfold State.advance
  cases held : s.holder with
  | free | shutdown => exact still s.holder
  | start place =>
      cases place with
      | checking ids rest =>
          cases rest with
          | nil =>
              dsimp only
              unfold State.creates
              split
              · exact ⟨rfl, .inr ⟨⟨ids, held⟩, List.subset_append_left _ _⟩, rfl, rfl, List.Subset.refl _, fun _ => .inl⟩
              · exact Advanced.refused s _ .free s.unreached s.unfailed _
          | cons connectionId rest =>
              dsimp only
              split
              · exact still _
              · exact Advanced.refused s s.db .free s.unreached s.unfailed _
      | submitting job =>
          dsimp only
          split
          · refine ⟨rfl, .inl rfl, rfl, rfl, List.subset_append_left _ _, ?_⟩
            intro other member
            rcases List.mem_append.mp member with old | new
            · exact .inl old
            · cases List.mem_singleton.mp new
              exact .inr (List.mem_append_right _ List.mem_cons_self)
          · exact still _
      | unscheduled jobId =>
          dsimp only
          rw [State.fails_eq]
          exact Advanced.refused s _ .free _ _ _

theorem step_phase {action : Action} (other : action ≠ .shutdown) : (step S action s).shutdown = s.shutdown := by
  cases action with
  | request call =>
      unfold step
      dsimp only
      split
      · rfl
      · rfl
  | start ids => exact (starts_phase ids).1
  | advance input => exact (advance_advanced input).shutdown
  | work input => exact (works_phase input).1
  | shutdown => exact absurd rfl other

/-- Jobs are created in the lock's section only. -/
theorem step_created (action : Action) :
    (step S action s).created = s.created ∨
      (∃ ids, s.holder = .start (.checking ids [])) ∧ s.created ⊆ (step S action s).created := by
  cases action with
  | request call =>
      unfold step
      dsimp only
      split
      · exact .inl rfl
      · exact .inl rfl
  | start ids => exact .inl (starts_phase ids).2.1
  | advance input => exact (advance_advanced input).created
  | work input => exact .inl (works_phase input).2.1
  | shutdown =>
      apply Or.inl
      unfold step State.shutsDown
      dsimp only
      split
      · split
        · rfl
        · rfl
      · rfl
      · rfl
      · split
        · rfl
        · rfl
      · rfl

theorem step_called (action : Action) (called : s.shutdown ≠ .uncalled) : (step S action s).shutdown ≠ .uncalled := by
  by_cases other : action = .shutdown
  · rw [other]
    unfold step State.shutsDown
    dsimp only
    split
    · rename_i uncalled
      exact absurd uncalled called
    · exact nofun
    · exact nofun
    · split
      · exact nofun
      · exact called
    · exact called
  · rw [step_phase other]
    exact called

/-! The steps the worker has left for a job. -/

/-- An upper bound for the worker's steps from a place of `_run`, for a job of `count` devices. -/
def Running.left (count : Nat) : Running → Nat
  | .begun => 2 * count + 5
  | .marked => 2 * count + 4
  | .testing rest => 2 * rest.length + 3
  | .recording _ rest => 2 * rest.length + 4
  | .failing _ => 2
  | .returned => 1

def State.left (s : State Token) (count : Nat) (jobId : String) : Option Nat :=
  if jobId ∈ s.ended then some 0
  else match s.worker with
    | some (other, place) => if other = jobId then some (place.left count) else none
    | none => if jobId ∈ s.queue then some (2 * count + 6) else none

theorem left_kept {later : State Token} (ended : later.ended = s.ended) (worker : later.worker = s.worker)
    (queue : s.queue ⊆ later.queue) {count : Nat} {jobId : String} {steps : Nat}
    (left : s.left count jobId = some steps) : later.left count jobId = some steps := by
  unfold State.left at left ⊢
  rw [ended, worker]
  by_cases done : jobId ∈ s.ended
  · rw [if_pos done] at left ⊢
    exact left
  · rw [if_neg done] at left ⊢
    cases held : s.worker with
    | some job =>
        rw [held] at left
        exact left
    | none =>
        rw [held] at left
        dsimp only at left ⊢
        by_cases queued : jobId ∈ s.queue
        · rw [if_pos queued] at left
          rw [if_pos (queue queued)]
          exact left
        · rw [if_neg queued] at left
          cases left

theorem runs_left (laws : S.platform.VaultLaws) (inv : Inv S s) {c : Created Token} (member : c ∈ s.created)
    {place : Running} (held : s.worker = some (c.id, place)) (input : Input) :
    (s.runs S c.id input place).ended = s.ended ++ [c.id] ∧ (s.runs S c.id input place).worker = none ∨
      (s.runs S c.id input place).ended = s.ended ∧ ∃ next, (s.runs S c.id input place).worker = some (c.id, next) ∧
        next.left c.ids.length + 1 ≤ place.left c.ids.length := by
  have broken : ∀ db : Db Token, 2 + 1 ≤ place.left c.ids.length →
      ({ s with db }.breaks input.available c.id).ended = s.ended ∧
        ∃ next, ({ s with db }.breaks input.available c.id).worker = some (c.id, next) ∧
          next.left c.ids.length + 1 ≤ place.left c.ids.length := by
    intro db more
    exact ⟨rfl, _, rfl, more⟩
  unfold State.runs
  cases place with
  | begun =>
      dsimp only
      split
      · exact .inr ⟨rfl, .marked, rfl, Nat.le_refl _⟩
      · exact .inr (broken _ (by simp only [Running.left]; omega))
  | marked =>
      dsimp only
      split
      · rename_i profiles db loaded
        have size : profiles.length = c.ids.length := by
          rcases inv.worker held with ⟨other, listed, named, entries, job, snapshot, found, kept, _⟩
          rw [inv.only listed member named] at snapshot found
          have reached : input.available = true := by
            cases available : input.available with
            | true => rfl
            | false =>
                rw [available] at loaded
                cases loaded
          rw [reached, load_runs laws snapshot.opened found kept] at loaded
          cases loaded
          rw [List.length_map, ← snapshot.ids, List.length_map]
        refine .inr ⟨rfl, .testing profiles, rfl, ?_⟩
        simp only [Running.left]
        omega
      · exact .inr (broken _ (by simp only [Running.left]; omega))
  | testing rest =>
      cases rest with
      | nil =>
          dsimp only
          split
          · exact .inr ⟨rfl, .returned, rfl, by simp only [Running.left]; omega⟩
          · exact .inr (broken _ (by simp only [Running.left]; omega))
      | cons entry rest =>
          have more : 2 + 1 ≤ Running.left c.ids.length (.testing (entry :: rest)) := by
            simp only [Running.left]
            omega
          dsimp only
          unfold State.tries
          split
          · exact .inr ⟨rfl, _, rfl, more⟩
          · split
            · refine .inr ⟨rfl, _, rfl, ?_⟩
              simp only [Running.left, List.length_cons]
              omega
            · exact .inr ⟨rfl, _, rfl, more⟩
  | recording result rest =>
      dsimp only
      split
      · refine .inr ⟨rfl, .testing rest, rfl, ?_⟩
        simp only [Running.left]
        omega
      · exact .inr (broken _ (by simp only [Running.left]; omega))
  | failing message =>
      dsimp only
      rw [State.fails_eq]
      exact .inr ⟨rfl, .returned, rfl, Nat.le_refl _⟩
  | returned => exact .inl ⟨rfl, rfl⟩

/-- A step of the worker is one step less for the accepted job. -/
theorem work_left (laws : S.platform.VaultLaws) (inv : Inv S s) {c : Created Token} (member : c ∈ s.created)
    {steps : Nat} (left : s.left c.ids.length c.id = some steps) (input : Input) :
    ∃ fewer, (s.works S input).left c.ids.length c.id = some fewer ∧ fewer ≤ steps - 1 := by
  have finished : ∀ later : State Token, c.id ∈ later.ended →
      ∃ fewer, later.left c.ids.length c.id = some fewer ∧ fewer ≤ steps - 1 := by
    intro later ended
    refine ⟨0, ?_, Nat.zero_le _⟩
    unfold State.left
    rw [if_pos ended]
  by_cases done : c.id ∈ s.ended
  · apply finished
    unfold State.works
    cases held : s.worker with
    | none =>
        cases queued : s.queue with
        | nil => exact done
        | cons jobId rest => exact done
    | some job =>
        rcases job with ⟨jobId, place⟩
        rcases inv.worker held with ⟨other, listed, named, _⟩
        rw [← named] at held
        dsimp only
        rw [← named]
        rcases runs_left laws inv listed held input with ⟨ended, _⟩ | ⟨ended, _⟩
        · rw [ended]
          exact List.mem_append_left _ done
        · rw [ended]
          exact done
  · unfold State.left at left
    rw [if_neg done] at left
    unfold State.works
    cases held : s.worker with
    | none =>
        rw [held] at left
        dsimp only at left ⊢
        cases queued : s.queue with
        | nil =>
            rw [queued, if_neg List.not_mem_nil] at left
            cases left
        | cons jobId rest =>
            have single := inv.threads.single
            rw [queued, List.length_cons] at single
            rw [queued] at left
            have first : c.id = jobId := by
              by_contra apart
              rw [List.length_eq_zero_iff.mp (by omega : rest.length = 0), if_neg] at left
              · cases left
              · intro listed
                exact apart (List.mem_singleton.mp listed)
            rw [first, if_pos List.mem_cons_self] at left
            refine ⟨2 * c.ids.length + 5, ?_, ?_⟩
            · unfold State.left
              rw [if_neg done]
              dsimp only
              rw [if_pos first.symm]
              rfl
            · have equal := Option.some.inj left
              omega
    | some job =>
        rcases job with ⟨jobId, place⟩
        rw [held] at left
        dsimp only at left ⊢
        by_cases same : jobId = c.id
        · rw [if_pos same] at left
          rw [same] at held ⊢
          have equal := Option.some.inj left
          rcases runs_left laws inv member held input with ⟨ended, _⟩ | ⟨ended, next, worker, less⟩
          · apply finished
            rw [ended]
            exact List.mem_append_right _ List.mem_cons_self
          · refine ⟨next.left c.ids.length, ?_, by omega⟩
            unfold State.left
            rw [ended, if_neg done, worker]
            exact if_pos rfl
        · rw [if_neg same] at left
          cases left

end

end NetworkGateway.Batches
