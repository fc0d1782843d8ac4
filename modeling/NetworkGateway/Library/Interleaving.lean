import NetworkGateway.Library.Interaction

/-! Programs that share a state and take their commands by turns. -/

namespace Library.Interleaving

open Interaction

universe u v

/-! Runs of a system whose states may hold programs. -/

section

variable {σ : Type u} {ι : Type v} (step : ι → σ → σ)

def run (start : σ) (inputs : List ι) : σ := inputs.foldl (fun s input => step input s) start

@[simp] theorem run_cons (start : σ) (input : ι) (inputs : List ι) :
    run step start (input :: inputs) = run step (step input start) inputs := rfl

variable {step}

theorem run_invariant (holds : σ → Prop) (preserved : ∀ input s, holds s → holds (step input s)) {start : σ}
    (initial : holds start) (inputs : List ι) : holds (run step start inputs) := by
  induction inputs generalizing start with
  | nil => exact initial
  | cons input rest ih => exact ih (preserved input start initial)

end

/-! One turn of a program. -/

variable {C : Type → Type} {σ ι ε α : Type}

/-- How a command is carried out on the shared state: its answer and the state after it. -/
abbrev Semantics (C : Type → Type) (ι σ : Type) := (β : Type) → C β → ι → σ → β × σ

variable (perform : Semantics C ι σ)

def advance (input : ι) (s : σ) : Program C ε α → Program C ε α × σ
  | .done outcome => (.done outcome, s)
  | .call command next => (next (perform _ command input s).1, (perform _ command input s).2)

variable {allowed : (β : Type) → C β → Prop}

/-- A confined program stays confined, and a turn of it is an allowed command. -/
theorem advance_confined {p : Program C ε α} (confined : p.Confined allowed) (input : ι) (s : σ) :
    (advance perform input s p).1.Confined allowed ∧ ((advance perform input s p).2 = s ∨
      ∃ β, ∃ command : C β, allowed β command ∧ (advance perform input s p).2 = (perform β command input s).2) := by
  cases p with
  | done outcome => exact ⟨confined, .inl rfl⟩
  | call command next => exact ⟨confined.2 _, .inr ⟨_, command, confined.1, rfl⟩⟩

end Library.Interleaving
