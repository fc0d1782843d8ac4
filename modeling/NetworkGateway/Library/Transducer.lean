import Mathlib.Data.List.Basic

/-! Machines that read their input symbol by symbol and emit output on the way. What they emit and
where they end does not depend on how the input is cut into pieces. -/

namespace Library.Transducer

variable {σ ι ο τ : Type} (next : σ → ι → σ) (emit : σ → ι → List ο)

/-- The output of a run from a state; the state it ends in is `List.foldl next`. -/
def emitted : σ → List ι → List ο
  | _, [] => []
  | state, symbol :: rest => emit state symbol ++ emitted (next state symbol) rest

@[simp] theorem emitted_nil (state : σ) : emitted next emit state [] = [] := rfl

@[simp] theorem emitted_cons (state : σ) (symbol : ι) (rest : List ι) :
    emitted next emit state (symbol :: rest) = emit state symbol ++ emitted next emit (next state symbol) rest := rfl

theorem emitted_append (state : σ) (first second : List ι) :
    emitted next emit state (first ++ second) =
      emitted next emit state first ++ emitted next emit (first.foldl next state) second := by
  induction first generalizing state with
  | nil => rfl
  | cons symbol rest ih => rw [List.cons_append, emitted_cons, ih, emitted_cons, List.append_assoc, List.foldl_cons]

/-- A longer input only adds to the output. -/
theorem emitted_prefix (state : σ) {first whole : List ι} (starts : first <+: whole) :
    emitted next emit state first <+: emitted next emit state whole := by
  rcases starts with ⟨second, rfl⟩
  rw [emitted_append]
  exact List.prefix_append _ _

/-- Code words that lead from a resting state back to it, each emitting its meaning. -/
structure Code (rest : σ) (word : τ → List ι) (meaning : τ → List ο) : Prop where
  returns : ∀ token, (word token).foldl next rest = rest
  emits : ∀ token, emitted next emit rest (word token) = meaning token

namespace Code

variable {next emit} {rest : σ} {word : τ → List ι} {meaning : τ → List ο}

theorem final (code : Code next emit rest word meaning) (tokens : List τ) :
    (tokens.flatMap word).foldl next rest = rest := by
  induction tokens with
  | nil => rfl
  | cons token tokens ih => rw [List.flatMap_cons, List.foldl_append, code.returns, ih]

theorem output (code : Code next emit rest word meaning) (tokens : List τ) :
    emitted next emit rest (tokens.flatMap word) = tokens.flatMap meaning := by
  induction tokens with
  | nil => rfl
  | cons token tokens ih =>
      rw [List.flatMap_cons, emitted_append, code.emits, code.returns, ih, List.flatMap_cons]

end Code

end Library.Transducer
