import NetworkGateway.Proofs.BatchSteps
import NetworkGateway.Proofs.Footprints

/-! The store calls of the batch service. -/

namespace NetworkGateway.Batches

open Library.Result Management Store

section

variable {Token : Type} {S : Service Token} {b : State Token}

theorem reach_writes {α : Type} (available : Bool) (db : Db Token) (outcome : Except PyError α × Db Token) :
    (reach available db outcome).2 = db ∨ (reach available db outcome).2 = outcome.2 := by
  cases available with
  | true => exact .inr rfl
  | false => exact .inl rfl

theorem reach_reads {α : Type} (available : Bool) (db : Db Token) (outcome : Except PyError α) :
    (reach available db (outcome, db)).2 = db := by
  cases available <;> rfl

inductive JobCall (jobId : String) : Op → Prop where
  | moves (status error : Value) : JobCall jobId (.setJobStatus jobId status error)
  | records (result : Value) : JobCall jobId (.recordJobResult jobId result)

/-- Calls that a process makes on no request's behalf: they touch nothing but the state of jobs. -/
inductive OwnCall (key : String) : Op → Prop where
  | opens : OwnCall key (.openStore key)
  | handles {jobId : String} {op : Op} (call : JobCall jobId op) : OwnCall key op

theorem JobCall.untouched {jobId : String} {op : Op} (call : JobCall jobId op) (part : Part) : op.touches part = false := by
  cases call <;> cases part <;> rfl

theorem OwnCall.untouched {key : String} {op : Op} (own : OwnCall key op) (part : Part) : op.touches part = false := by
  cases own with
  | opens => cases part <;> rfl
  | handles call => exact call.untouched part

/-- The job is at a place of `_run`, or of `start`, that may call the store. -/
def State.handles (b : State Token) (jobId : String) : Prop :=
  (∃ place, b.worker = some (jobId, place) ∧ place ≠ .returned) ∨ b.holder = .start (.unscheduled jobId)

inductive Worked (S : Service Token) (b : State Token) (db : Db Token) : Prop where
  | idle (same : db = b.db)
  | own (call : Call) (jobId : String) (own : JobCall jobId call.op) (handled : b.handles jobId)
      (called : db = after S.platform call b.db)
  | created (fresh : Fresh) (ids : List String) (checked : b.holder = .start (.checking ids []))
      (called : db = after S.platform ⟨S.store, fresh, .createJob (.list (ids.map .str))⟩ b.db)

theorem setStatus_worked {jobId : String} (handled : b.handles jobId) (available : Bool) (fresh : Fresh) (status : String)
    (error : Value) : Worked S b (setStatus S available b.db jobId status error).2 := by
  rcases reach_writes available b.db
    (setJobStatus S.platform S.store b.db jobId (.str status) error) with same | written
  · exact .idle same
  · exact .own ⟨S.store, fresh, .setJobStatus jobId (.str status) error⟩ jobId (.moves _ _) handled written

theorem fails_worked {jobId : String} (handled : b.handles jobId) (available : Bool) (fresh : Fresh) (message : String) :
    Worked S b (b.fails S available jobId message).db := setStatus_worked handled available fresh "failed" _

theorem creates_db (input : Input) (ids : List String) : (b.creates S input ids).db =
    (reach input.available b.db
      (createJob S.platform S.store b.db input.fresh (.list (ids.map .str)))).2 := by
  unfold State.creates
  split
  · rename_i reached
    exact (congrArg Prod.snd reached).symm
  · rename_i reached
    exact (congrArg Prod.snd reached).symm

theorem creates_worked (input : Input) {ids : List String} (checked : b.holder = .start (.checking ids [])) :
    Worked S b (b.creates S input ids).db := by
  rw [creates_db]
  rcases reach_writes input.available b.db
    (createJob S.platform S.store b.db input.fresh (.list (ids.map .str))) with same | written
  · exact .idle same
  · exact .created input.fresh ids checked written

theorem advance_worked (input : Input) : Worked S b (b.advance S input).db := by
  unfold State.advance
  cases held : b.holder with
  | free => exact .idle rfl
  | shutdown => exact .idle rfl
  | start place =>
      cases place with
      | checking ids rest =>
          cases rest with
          | nil => exact creates_worked input held
          | cons connectionId rest =>
              dsimp only
              split
              · exact .idle rfl
              · exact .idle rfl
      | submitting job =>
          dsimp only
          split
          · exact .idle rfl
          · exact .idle rfl
      | unscheduled jobId => exact fails_worked (.inr held) input.available input.fresh _

theorem runs_worked {jobId : String} (input : Input) {place : Running} (held : b.worker = some (jobId, place)) :
    Worked S b (b.runs S jobId input place).db := by
  have handled : place ≠ .returned → b.handles jobId := fun unfinished => .inl ⟨place, held, unfinished⟩
  have moved := fun unfinished status error =>
    setStatus_worked (S := S) (handled unfinished) input.available input.fresh status error
  cases place with
  | begun =>
      have moved := moved nofun "running" .none
      unfold State.runs
      dsimp only
      split
      · rename_i reached
        rw [reached] at moved
        exact moved
      · rename_i reached
        rw [reached] at moved
        exact moved
  | marked =>
      have read := reach_reads input.available b.db (getJobConnections S.platform S.store b.db jobId)
      unfold State.runs
      dsimp only
      split
      · rename_i reached
        exact .idle ((congrArg Prod.snd reached).symm.trans read)
      · rename_i reached
        exact .idle ((congrArg Prod.snd reached).symm.trans read)
  | testing entries =>
      cases entries with
      | nil =>
          have moved := moved nofun "completed" .none
          unfold State.runs
          dsimp only
          split
          · rename_i reached
            rw [reached] at moved
            exact moved
          · rename_i reached
            rw [reached] at moved
            exact moved
      | cons entry rest =>
          unfold State.runs State.tries
          dsimp only
          split
          · exact .idle rfl
          · split
            · exact .idle rfl
            · exact .idle rfl
  | recording result rest =>
      have recorded : Worked S b (reach input.available b.db
          (recordJobResult S.platform S.store b.db jobId (.dict result))).2 := by
        rcases reach_writes input.available b.db
          (recordJobResult S.platform S.store b.db jobId (.dict result)) with same | written
        · exact .idle same
        · exact .own ⟨S.store, input.fresh, .recordJobResult jobId (.dict result)⟩ jobId (.records _) (handled nofun) written
      unfold State.runs
      dsimp only
      split
      · rename_i reached
        rw [reached] at recorded
        exact recorded
      · rename_i reached
        rw [reached] at recorded
        exact recorded
  | failing message => exact fails_worked (handled nofun) input.available input.fresh message
  | returned => exact .idle rfl

theorem starts_db (ids : List String) : (b.starts ids).db = b.db := by
  unfold State.starts
  split
  · rfl
  · split
    · rfl
    · split
      · rfl
      · split
        · rfl
        · rfl

/-- A step of the batch service makes at most one store call. -/
theorem step_worked {action : Action} (unrequested : ∀ call, action ≠ .request call) :
    Worked S b (step S action b).db := by
  cases action with
  | request call => exact absurd rfl (unrequested call)
  | start ids => exact .idle (starts_db ids)
  | advance input => exact advance_worked input
  | work input =>
      change Worked S b (b.works S input).db
      unfold State.works
      split
      · rename_i held
        exact runs_worked input held
      · split
        · exact .idle rfl
        · exact .idle rfl
  | shutdown =>
      change Worked S b b.shutsDown.db
      unfold State.shutsDown
      split
      · split
        · exact .idle rfl
        · exact .idle rfl
      · exact .idle rfl
      · exact .idle rfl
      · split
        · exact .idle rfl
        · exact .idle rfl
      · exact .idle rfl

/-! Whose connections the call of `start` that holds the lock checks. -/

theorem runs_holder (jobId : String) (input : Input) (place : Running) :
    (b.runs S jobId input place).holder = b.holder := by
  unfold State.runs
  cases place with
  | begun | marked | recording =>
      dsimp only
      split
      · rfl
      · rfl
  | testing rest =>
      cases rest with
      | nil =>
          dsimp only
          split
          · rfl
          · rfl
      | cons entry rest =>
          dsimp only
          unfold State.tries
          split
          · rfl
          · split
            · rfl
            · rfl
  | failing message | returned => rfl

theorem works_holder (input : Input) : (b.works S input).holder = b.holder := by
  unfold State.works
  split
  · exact runs_holder _ input _
  · split
    · rfl
    · rfl

variable {ids rest : List String}

theorem advance_checking {input : Input} (held : (b.advance S input).holder = .start (.checking ids rest)) :
    ∃ earlier, b.holder = .start (.checking ids earlier) := by
  unfold State.advance at held
  cases holds : b.holder with
  | free | shutdown =>
      rw [holds] at held
      cases holds.symm.trans held
  | start place =>
      rw [holds] at held
      cases place with
      | checking given left =>
          cases left with
          | nil =>
              dsimp only at held
              unfold State.creates at held
              split at held
              · cases held
              · cases held
          | cons connectionId left =>
              dsimp only at held
              split at held
              · cases held
                exact ⟨_, rfl⟩
              · cases held
      | submitting job =>
          dsimp only at held
          split at held
          · cases held
          · cases held
      | unscheduled jobId =>
          dsimp only at held
          cases held

theorem shutsDown_checking (held : b.shutsDown.holder = .start (.checking ids rest)) :
    b.holder = .start (.checking ids rest) := by
  unfold State.shutsDown at held
  split at held
  · split at held
    · cases held
    · exact held
  · cases held
  · exact held
  · split at held
    · exact held
    · exact held
  · exact held

theorem starts_checking {given : List String} (held : (b.starts given).holder = .start (.checking ids rest)) :
    b.holder = .start (.checking ids rest) ∨ ids = given := by
  unfold State.starts at held
  split at held
  · exact .inl held
  · split at held
    · exact .inl held
    · split at held
      · exact .inl held
      · split at held
        · exact .inl held
        · cases held
          exact .inr rfl

theorem step_checking {action : Action} (unstarted : ∀ given, action ≠ .start given)
    (held : (step S action b).holder = .start (.checking ids rest)) :
    ∃ earlier, b.holder = .start (.checking ids earlier) := by
  cases action with
  | request call =>
      unfold step at held
      dsimp only at held
      split at held
      · exact ⟨rest, held⟩
      · exact ⟨rest, held⟩
  | start given => exact absurd rfl (unstarted given)
  | advance input => exact advance_checking held
  | work input => exact ⟨rest, (works_holder input).symm.trans held⟩
  | shutdown => exact ⟨rest, shutsDown_checking held⟩

end

end NetworkGateway.Batches
