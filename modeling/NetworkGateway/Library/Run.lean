import Mathlib.Data.List.Basic

/-! Runs of a system whose inputs each change its state once. -/

namespace Library.Run

variable {σ ι : Type} (step : ι → σ → σ)

def run (start : σ) (inputs : List ι) : σ := inputs.foldl (fun s i => step i s) start

/-- States some run from `start` ends in. -/
def Reachable (start s : σ) : Prop := ∃ inputs, run step start inputs = s

@[simp] theorem run_nil (start : σ) : run step start [] = start := rfl

@[simp] theorem run_cons (start : σ) (input : ι) (inputs : List ι) :
    run step start (input :: inputs) = run step (step input start) inputs := rfl

theorem run_append (start : σ) (first second : List ι) :
    run step start (first ++ second) = run step (run step start first) second := by
  simp [run, List.foldl_append]

variable {step}

theorem run_invariant (holds : σ → Prop) (preserved : ∀ i s, holds s → holds (step i s))
    {start : σ} (initial : holds start) (inputs : List ι) : holds (run step start inputs) := by
  induction inputs generalizing start with
  | nil => exact initial
  | cons input rest ih => exact ih (preserved input start initial)

theorem run_invariant_allowed (holds : σ → Prop) (allowed : ι → Prop)
    (preserved : ∀ i s, allowed i → holds s → holds (step i s)) {start : σ} (initial : holds start)
    {inputs : List ι} (all : ∀ i ∈ inputs, allowed i) : holds (run step start inputs) := by
  induction inputs generalizing start with
  | nil => exact initial
  | cons input rest ih =>
      have first := preserved input start (all input List.mem_cons_self) initial
      exact ih first (fun i later => all i (List.mem_cons_of_mem input later))

variable (step) in
/-- Every input meets a condition on the state it finds. -/
def Along (allowed : ι → σ → Prop) : σ → List ι → Prop
  | _, [] => True
  | start, input :: rest => allowed input start ∧ Along allowed (step input start) rest

/-- What every step that meets its condition preserves, every run of such steps preserves. -/
theorem run_invariant_along (holds : σ → Prop) (allowed : ι → σ → Prop)
    (preserved : ∀ i s, allowed i s → holds s → holds (step i s)) {start : σ} (initial : holds start)
    {inputs : List ι} (along : Along step allowed start inputs) : holds (run step start inputs) := by
  induction inputs generalizing start with
  | nil => exact initial
  | cons input rest ih =>
      have first := preserved input start along.1 initial
      exact ih first along.2

/-- A preorder every step respects relates the two ends of a run. -/
theorem run_relation (related : σ → σ → Prop) (refl : ∀ s, related s s)
    (trans : ∀ a b c, related a b → related b c → related a c)
    (steps : ∀ i s, related s (step i s)) (start : σ) (inputs : List ι) :
    related start (run step start inputs) := by
  induction inputs generalizing start with
  | nil => exact refl start
  | cons input rest ih => exact trans _ _ _ (steps input start) (ih (step input start))

/-- A preorder that every step respects while an invariant holds. -/
theorem run_relation_of_invariant (holds : σ → Prop) (related : σ → σ → Prop)
    (preserved : ∀ i s, holds s → holds (step i s)) (refl : ∀ s, related s s)
    (trans : ∀ a b c, related a b → related b c → related a c)
    (steps : ∀ i s, holds s → related s (step i s)) {start : σ} (initial : holds start)
    (inputs : List ι) : related start (run step start inputs) := by
  induction inputs generalizing start with
  | nil => exact refl start
  | cons input rest ih =>
      exact trans _ _ _ (steps input start initial) (ih (preserved input start initial))

theorem reachable_invariant (holds : σ → Prop) (preserved : ∀ i s, holds s → holds (step i s))
    {start : σ} (initial : holds start) {s : σ} (reached : Reachable step start s) : holds s := by
  obtain ⟨inputs, rfl⟩ := reached
  exact run_invariant holds preserved initial inputs

theorem reachable_step {start s : σ} (reached : Reachable step start s) (input : ι) :
    Reachable step start (step input s) := by
  obtain ⟨inputs, rfl⟩ := reached
  exact ⟨inputs ++ [input], by simp [run_append]⟩

end Library.Run
