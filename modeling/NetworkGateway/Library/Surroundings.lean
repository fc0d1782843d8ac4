import NetworkGateway.Library.Interaction

/-! Programs in surroundings that have a state and answer deterministically. A triple gives the one
outcome a program has there; a stuck program waits for an answer that never comes. -/

namespace Library.Interaction

/-- `none`: the command is never answered. -/
structure Surroundings (C : Type → Type) (σ : Type) where
  answer : {β : Type} → C β → σ → Option (β × σ)

namespace Program

variable {C : Type → Type} {σ ε α β : Type}

def play (S : Surroundings C σ) : Program C ε α → σ → Option (Except ε α × σ)
  | .done outcome, s => some (outcome, s)
  | .call command next, s =>
      match S.answer command s with
      | none => none
      | some (answer, s') => (next answer).play S s'

variable {S : Surroundings C σ}

theorem play_andThen (p : Program C ε α) (rest : Except ε α → Program C ε β) (s : σ) :
    (p.andThen rest).play S s =
      match p.play S s with
      | none => none
      | some (outcome, s') => (rest outcome).play S s' := by
  induction p generalizing s with
  | done outcome => rfl
  | call command next ih =>
      rw [andThen, play, play]
      cases S.answer command s with
      | none => rfl
      | some answered => exact ih answered.1 answered.2

theorem play_bind {p : Program C ε α} {f : α → Program C ε β} {s s' : σ} {a : α}
    (played : p.play S s = some (.ok a, s')) : (p >>= f).play S s = (f a).play S s' := by
  change (p.andThen (onOk f)).play S s = _
  rw [play_andThen, played]
  rfl

theorem play_bind_none {p : Program C ε α} {f : α → Program C ε β} {s : σ} (silent : p.play S s = none) :
    (p >>= f).play S s = none := by
  change (p.andThen (onOk f)).play S s = _
  rw [play_andThen, silent]

theorem play_runs {p : Program C ε α} {s s' : σ} {outcome : Except ε α} (played : p.play S s = some (outcome, s')) :
    ∃ events, Runs p events outcome := by
  induction p generalizing s with
  | done result =>
      cases played
      exact ⟨[], Runs.done outcome⟩
  | call command next ih =>
      rw [play] at played
      split at played
      · cases played
      · rename_i answer _ _
        rcases ih answer played with ⟨events, runs⟩
        exact ⟨_, .call answer runs⟩

theorem play_returns {p : Program C ε α} {s : σ} {view : α → β} {seen : β}
    (played : (p.play S s).bind (fun result => result.1.toOption.map view) = some seen) :
    ∃ events a, Runs p events (.ok a) ∧ view a = seen := by
  rcases Option.bind_eq_some_iff.mp played with ⟨⟨outcome, s'⟩, ends, viewed⟩
  cases outcome with
  | error e => cases viewed
  | ok a =>
      rcases play_runs ends with ⟨events, runs⟩
      exact ⟨events, a, runs, Option.some.inj viewed⟩

/-- From every state of `pre` the program has this outcome, and leaves a state of `post`. -/
def Yields (S : Surroundings C σ) (pre : σ → Prop) (p : Program C ε α) (outcome : Except ε α) (post : σ → Prop) :
    Prop :=
  ∀ s, pre s → ∃ s', p.play S s = some (outcome, s') ∧ post s'

/-- From every state of `pre` the program returns, and leaves a state of `post`. -/
def Returns (S : Surroundings C σ) (pre : σ → Prop) (p : Program C ε α) (post : σ → Prop) : Prop :=
  ∀ s, pre s → ∃ a s', p.play S s = some (.ok a, s') ∧ post s'

/-- In no state of `pre` the program ends. -/
def Stuck (S : Surroundings C σ) (pre : σ → Prop) (p : Program C ε α) : Prop := ∀ s, pre s → p.play S s = none

/-- From no state of `pre` the program returns. -/
def Fails (S : Surroundings C σ) (pre : σ → Prop) (p : Program C ε α) : Prop :=
  ∀ s, pre s → ∀ a s', p.play S s ≠ some (.ok a, s')

section Rules

variable {pre mid post : σ → Prop} {p : Program C ε α} {f : α → Program C ε β} {a : α} {e : ε}

theorem Yields.done {outcome : Except ε α} (implies : ∀ s, pre s → post s) :
    Yields S pre (.done outcome : Program C ε α) outcome post :=
  fun s held => ⟨s, rfl, implies s held⟩

theorem Yields.ask {command : C α} (answered : ∀ s, pre s → ∃ s', S.answer command s = some (a, s') ∧ post s') :
    Yields S pre (Program.ask command : Program C ε α) (.ok a) post := by
  intro s held
  rcases answered s held with ⟨s', same, kept⟩
  refine ⟨s', ?_, kept⟩
  unfold Program.ask
  rw [play, same]
  rfl

theorem Returns.continues (first : Returns S pre p mid) {s : σ} (held : pre s) :
    ∃ a s', mid s' ∧ (p >>= f).play S s = (f a).play S s' := by
  rcases first s held with ⟨a, s', played, between⟩
  exact ⟨a, s', between, play_bind played⟩

theorem Yields.continues (first : Yields S pre p (.ok a) mid) {s : σ} (held : pre s) :
    ∃ s', mid s' ∧ (p >>= f).play S s = (f a).play S s' := by
  rcases first s held with ⟨s', played, between⟩
  exact ⟨s', between, play_bind played⟩

theorem Yields.bind {outcome : Except ε β} (first : Yields S pre p (.ok a) mid) (rest : Yields S mid (f a) outcome post) :
    Yields S pre (p >>= f) outcome post := by
  intro s held
  rcases first.continues (f := f) held with ⟨s', between, played⟩
  rw [played]
  exact rest s' between

theorem Yields.bind_error (first : Yields S pre p (.error e) post) : Yields S pre (p >>= f) (.error e) post := by
  intro s held
  rcases first s held with ⟨s', played, kept⟩
  refine ⟨s', ?_, kept⟩
  change (p.andThen (onOk f)).play S s = _
  rw [play_andThen, played]
  rfl

theorem Returns.bind {outcome : Except ε β} (first : Returns S pre p mid)
    (rest : ∀ a, Yields S mid (f a) outcome post) : Yields S pre (p >>= f) outcome post := by
  intro s held
  rcases first.continues (f := f) held with ⟨a, s', between, played⟩
  rw [played]
  exact rest a s' between

theorem Yields.catching {handler : ε → Program C ε α} (yields : Yields S pre p (.ok a) post) :
    Yields S pre (p.catching handler) (.ok a) post := by
  intro s held
  rcases yields s held with ⟨s', played, kept⟩
  refine ⟨s', ?_, kept⟩
  unfold Program.catching
  rw [play_andThen, played]
  rfl

theorem Stuck.ask {command : C α} (silent : ∀ s, pre s → S.answer command s = none) :
    Stuck S pre (Program.ask command : Program C ε α) := by
  intro s held
  unfold Program.ask
  rw [play, silent s held]

theorem Stuck.bind (stuck : Stuck S pre p) : Stuck S pre (p >>= f) :=
  fun s held => play_bind_none (stuck s held)

theorem Yields.bind_stuck (first : Yields S pre p (.ok a) mid) (rest : Stuck S mid (f a)) : Stuck S pre (p >>= f) := by
  intro s held
  rcases first.continues (f := f) held with ⟨s', between, played⟩
  rw [played]
  exact rest s' between

theorem Returns.bind_stuck (first : Returns S pre p mid) (rest : ∀ a, Stuck S mid (f a)) : Stuck S pre (p >>= f) := by
  intro s held
  rcases first.continues (f := f) held with ⟨a, s', between, played⟩
  rw [played]
  exact rest a s' between

theorem Fails.raise (e : ε) : Fails S pre (raise e : Program C ε α) := nofun

theorem Fails.bind (fails : Fails S pre p) : Fails S pre (p >>= f) := by
  intro s held b s' returned
  change (p.andThen (onOk f)).play S s = _ at returned
  rw [play_andThen] at returned
  cases played : p.play S s with
  | none =>
      rw [played] at returned
      cases returned
  | some result =>
      rcases result with ⟨outcome, middle⟩
      cases outcome with
      | ok a => exact fails s held a middle played
      | error e =>
          rw [played] at returned
          cases returned

theorem Yields.bind_fails (first : Yields S pre p (.ok a) mid) (rest : Fails S mid (f a)) : Fails S pre (p >>= f) := by
  intro s held
  rcases first.continues (f := f) held with ⟨s', between, played⟩
  rw [played]
  exact rest s' between

end Rules

end Program

end Library.Interaction
