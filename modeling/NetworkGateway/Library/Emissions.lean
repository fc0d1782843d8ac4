import NetworkGateway.Library.Interaction

/-! Programs whose commands hand over a fixed sequence of values, whatever they are answered. -/

namespace Library.Interaction.Program

variable {C : Type → Type} {ε α β ω : Type}

def emissions (emit : (β : Type) → C β → List ω) (events : List (Event C)) : List ω :=
  events.flatMap (fun event => emit _ event.command)

/-- Every run hands over a beginning of `values`, and all of them when it returns. -/
def Emits (emit : (β : Type) → C β → List ω) (p : Program C ε α) (values : List ω) : Prop :=
  ∀ events outcome, Runs p events outcome →
    emissions emit events <+: values ∧ ∀ a, outcome = .ok a → emissions emit events = values

namespace Emits

variable {emit : (β : Type) → C β → List ω} {p : Program C ε α} {f : α → Program C ε β} {values later : List ω}

theorem emissions_append (first second : List (Event C)) :
    emissions emit (first ++ second) = emissions emit first ++ emissions emit second :=
  List.flatMap_append

theorem raise (e : ε) : Emits emit (raise e : Program C ε α) values := by
  intro events outcome runs
  cases runs
  exact ⟨List.nil_prefix, nofun⟩

theorem lift (outcome : Except ε α) : Emits emit (lift outcome : Program C ε α) [] := by
  intro events final runs
  cases runs
  exact ⟨List.nil_prefix, fun _ _ => rfl⟩

theorem ask (command : C α) : Emits emit (ask command : Program C ε α) (emit _ command) := by
  intro events outcome runs
  cases runs with
  | call answer rest =>
      cases rest
      have only : emissions emit [⟨command, answer⟩] = emit _ command := List.append_nil (emit _ command)
      rw [only]
      exact ⟨List.prefix_rfl, fun _ _ => rfl⟩

theorem silent (confined : Confined (fun _ command => emit _ command = []) p) : Emits emit p [] := by
  intro events outcome runs
  have nothing : emissions emit events = [] := by
    induction runs with
    | done outcome => rfl
    | call answer rest ih =>
        have further := ih (confined.2 answer)
        unfold emissions at further ⊢
        rw [List.flatMap_cons, confined.1, further]
        rfl
  rw [nothing]
  exact ⟨List.prefix_rfl, fun _ _ => rfl⟩

theorem bind (first : Emits emit p values) (rest : ∀ a, Emits emit (f a) later) :
    Emits emit (p >>= f) (values ++ later) := by
  intro events outcome runs
  rcases runs_andThen runs with ⟨early, late, middle, before, after, rfl⟩
  have begun := first early middle before
  rw [emissions_append]
  cases middle with
  | ok a =>
      have whole := begun.2 a rfl
      have continued := rest a late outcome after
      rw [whole]
      refine ⟨(List.prefix_append_right_inj values).mpr continued.1, ?_⟩
      intro result returned
      rw [continued.2 result returned]
  | error e =>
      cases after
      have nothing : emissions emit ([] : List (Event C)) = [] := rfl
      rw [nothing, List.append_nil]
      exact ⟨begun.1.trans (List.prefix_append values later), nofun⟩

theorem lift_bind {outcome : Except ε α} {a : α} (succeeds : outcome = .ok a) (rest : Emits emit (f a) values) :
    Emits emit (Program.lift outcome >>= f) values := by
  rw [succeeds]
  exact rest

theorem bind_silent (first : Emits emit p values) (rest : ∀ a, Emits emit (f a) []) : Emits emit (p >>= f) values := by
  have both := first.bind rest
  rw [List.append_nil] at both
  exact both

theorem silent_bind (first : Emits emit p []) (rest : ∀ a, Emits emit (f a) values) : Emits emit (p >>= f) values :=
  first.bind rest

end Emits

end Library.Interaction.Program
