import Mathlib.Data.List.Basic

/-! Programs that issue commands to their surroundings and continue with whatever is
answered. Nothing is assumed of the answers: a property of all runs holds whatever
the surroundings do. -/

namespace Library.Interaction

/-- Issues commands of `C`, each indexed by the type of its answers. -/
inductive Program (C : Type → Type) (ε α : Type) : Type 1 where
  | done (outcome : Except ε α)
  | call {β : Type} (command : C β) (next : β → Program C ε α)

structure Event (C : Type → Type) : Type 1 where
  {Answer : Type}
  command : C Answer
  answer : Answer

namespace Program

variable {C : Type → Type} {ε α β γ : Type}

def andThen : Program C ε α → (Except ε α → Program C ε β) → Program C ε β
  | .done outcome, rest => rest outcome
  | .call command next, rest => .call command (fun answer => (next answer).andThen rest)

def onOk (f : α → Program C ε β) : Except ε α → Program C ε β
  | .ok a => f a
  | .error e => .done (.error e)

/-- Continues with a raised exception. -/
def onError (handler : ε → Program C ε α) : Except ε α → Program C ε α
  | .ok a => .done (.ok a)
  | .error e => handler e

instance : Monad (Program C ε) where
  pure a := .done (.ok a)
  bind p f := p.andThen (onOk f)

def raise (e : ε) : Program C ε α := .done (.error e)

/-- `try: p except: handler`. -/
def catching (p : Program C ε α) (handler : ε → Program C ε α) : Program C ε α := p.andThen (onError handler)

def settle (p : Program C ε α) : Program C ε (Except ε α) := p.andThen (fun outcome => .done (.ok outcome))

def ask (command : C α) : Program C ε α :=
  .call command (fun answer => .done (.ok answer))

def lift (outcome : Except ε α) : Program C ε α := .done outcome

/-! Runs: every way of answering. -/

inductive Runs : Program C ε α → List (Event C) → Except ε α → Prop
  | done (outcome : Except ε α) : Runs (.done outcome) [] outcome
  | call {δ : Type} {command : C δ} {next : δ → Program C ε α} (answer : δ)
      {events : List (Event C)} {outcome : Except ε α} (rest : Runs (next answer) events outcome) :
      Runs (.call command next) (⟨command, answer⟩ :: events) outcome

theorem runs_andThen {p : Program C ε α} {rest : Except ε α → Program C ε β} {events : List (Event C)}
    {outcome : Except ε β} (runs : Runs (p.andThen rest) events outcome) :
    ∃ first later middle, Runs p first middle ∧ Runs (rest middle) later outcome ∧ events = first ++ later := by
  induction p generalizing events with
  | done middle => exact ⟨[], events, middle, .done middle, runs, rfl⟩
  | call command next ih =>
      cases runs with
      | call answer further =>
          rcases ih answer further with ⟨first, later, middle, before, after, rfl⟩
          exact ⟨_ :: first, later, middle, .call answer before, after, rfl⟩

theorem Runs.andThen {p : Program C ε α} {rest : Except ε α → Program C ε β} {first later : List (Event C)}
    {middle : Except ε α} {outcome : Except ε β} (before : Runs p first middle)
    (after : Runs (rest middle) later outcome) : Runs (p.andThen rest) (first ++ later) outcome := by
  induction before with
  | done middle => exact after
  | call answer _ ih => exact .call answer (ih after)

theorem runs_bind_ok {p : Program C ε α} {f : α → Program C ε β} {events : List (Event C)} {result : β}
    (runs : Runs (p >>= f) events (.ok result)) :
    ∃ first later a, Runs p first (.ok a) ∧ Runs (f a) later (.ok result) ∧ events = first ++ later := by
  rcases runs_andThen runs with ⟨first, later, middle, before, after, same⟩
  cases middle with
  | ok a => exact ⟨first, later, a, before, after, same⟩
  | error e => cases after

theorem runs_lift {outcome final : Except ε α} {events : List (Event C)}
    (runs : Runs (lift outcome : Program C ε α) events final) : outcome = final ∧ events = [] := by
  cases runs
  exact ⟨rfl, rfl⟩

/-- Where every command can be answered, a program has a run with such answers. -/
theorem runs_exist {kind : {β : Type} → C β → β → Prop} (able : ∀ (β : Type) (command : C β), ∃ answer, kind command answer)
    (p : Program C ε α) :
    ∃ events outcome, Runs p events outcome ∧ ∀ event ∈ events, kind event.command event.answer := by
  induction p with
  | done outcome => exact ⟨[], outcome, .done outcome, nofun⟩
  | call command next ih =>
      rcases able _ command with ⟨answer, answered⟩
      rcases ih answer with ⟨events, outcome, runs, kinds⟩
      refine ⟨⟨command, answer⟩ :: events, outcome, .call answer runs, ?_⟩
      rw [List.forall_mem_cons]
      exact ⟨answered, kinds⟩

/-- The weakest condition on the events so far under which every further command is safe
when it is issued and every outcome meets `post`. -/
def wp (safe : List (Event C) → (β : Type) → C β → Prop) :
    Program C ε α → (List (Event C) → Except ε α → Prop) → List (Event C) → Prop
  | .done outcome, post, past => post past outcome
  | .call command next, post, past =>
      safe past _ command ∧ ∀ answer, wp safe (next answer) post (past ++ [⟨command, answer⟩])

section Rules

variable {safe : List (Event C) → (β : Type) → C β → Prop} {past : List (Event C)}

theorem wp_andThen (p : Program C ε α) (rest : Except ε α → Program C ε β)
    (post : List (Event C) → Except ε β → Prop) :
    wp safe (p.andThen rest) post past ↔ wp safe p (fun now outcome => wp safe (rest outcome) post now) past := by
  induction p generalizing past with
  | done outcome => rfl
  | call command next ih =>
      constructor
      · intro met
        exact ⟨met.1, fun answer => (ih answer).mp (met.2 answer)⟩
      · intro met
        exact ⟨met.1, fun answer => (ih answer).mpr (met.2 answer)⟩

theorem wp_mono {p : Program C ε α} {post weaker : List (Event C) → Except ε α → Prop}
    (implies : ∀ now outcome, post now outcome → weaker now outcome) (met : wp safe p post past) :
    wp safe p weaker past := by
  induction p generalizing past with
  | done outcome => exact implies past outcome met
  | call command next ih => exact ⟨met.1, fun answer => ih answer (met.2 answer)⟩

theorem wp_weaken {safer : List (Event C) → (β : Type) → C β → Prop}
    (implies : ∀ past β command, safer past β command → safe past β command) {p : Program C ε α}
    {post : List (Event C) → Except ε α → Prop} (met : wp safer p post past) : wp safe p post past := by
  induction p generalizing past with
  | done outcome => exact met
  | call command next ih => exact ⟨implies past _ command met.1, fun answer => ih answer (met.2 answer)⟩

/-- A raised exception skips the continuation, so it has to meet the postcondition. -/
theorem wp_bind {p : Program C ε α} {f : α → Program C ε β} {post : List (Event C) → Except ε β → Prop}
    (met : wp safe p (fun now outcome => match outcome with
      | .ok a => wp safe (f a) post now
      | .error e => post now (.error e)) past) : wp safe (p >>= f) post past := by
  apply (wp_andThen p (onOk f) post).mpr
  apply wp_mono _ met
  intro now outcome held
  cases outcome with
  | ok a => exact held
  | error e => exact held

theorem wp_catching {p : Program C ε α} {handler : ε → Program C ε α}
    {post : List (Event C) → Except ε α → Prop}
    (met : wp safe p (fun now outcome => match outcome with
      | .ok a => post now (.ok a)
      | .error e => wp safe (handler e) post now) past) : wp safe (p.catching handler) post past := by
  apply (wp_andThen p (onError handler) post).mpr
  apply wp_mono _ met
  intro now outcome held
  cases outcome with
  | ok a => exact held
  | error e => exact held

theorem wp_settle {p : Program C ε α} {post : List (Event C) → Except ε (Except ε α) → Prop}
    (met : wp safe p (fun now outcome => post now (.ok outcome)) past) : wp safe p.settle post past :=
  (wp_andThen p _ post).mpr met

/-- In every run each command was safe after the events before it. -/
theorem wp_sound {p : Program C ε α} {post : List (Event C) → Except ε α → Prop} {events : List (Event C)}
    {outcome : Except ε α} (runs : Runs p events outcome) (met : wp safe p post past) :
    (∀ before event later, events = before ++ event :: later → safe (past ++ before) _ event.command) ∧
      post (past ++ events) outcome := by
  induction runs generalizing past with
  | done outcome =>
      have met : post past outcome := met
      refine ⟨?_, by simpa using met⟩
      intro before event later split
      cases before <;> cases split
  | @call δ command next answer events outcome rest ih =>
      have further := ih (met.2 answer)
      refine ⟨?_, by simpa using further.2⟩
      intro before event later split
      cases before with
      | nil =>
          have head := List.cons.inj split
          rw [← head.1]
          simpa using met.1
      | cons first before =>
          have head := List.cons.inj split
          have held := further.1 before event later head.2
          rw [← head.1]
          simpa using held

end Rules

/-! Programs all of whose commands are of an allowed kind. -/

def Confined (allowed : (β : Type) → C β → Prop) : Program C ε α → Prop
  | .done _ => True
  | .call command next => allowed _ command ∧ ∀ answer, Confined allowed (next answer)

namespace Confined

variable {allowed : (β : Type) → C β → Prop}

theorem andThen {p : Program C ε α} {rest : Except ε α → Program C ε β} (first : Confined allowed p)
    (further : ∀ outcome, Confined allowed (rest outcome)) : Confined allowed (p.andThen rest) := by
  induction p with
  | done outcome => exact further outcome
  | call command next ih => exact ⟨first.1, fun answer => ih answer (first.2 answer)⟩

theorem bind {p : Program C ε α} {f : α → Program C ε β} (first : Confined allowed p)
    (further : ∀ a, Confined allowed (f a)) : Confined allowed (p >>= f) := by
  apply first.andThen
  intro outcome
  cases outcome with
  | ok a => exact further a
  | error e => trivial

theorem catching {p : Program C ε α} {handler : ε → Program C ε α} (first : Confined allowed p)
    (handled : ∀ e, Confined allowed (handler e)) : Confined allowed (p.catching handler) := by
  apply first.andThen
  intro outcome
  cases outcome with
  | ok a => trivial
  | error e => exact handled e

theorem mono {wider : (β : Type) → C β → Prop} (implies : ∀ β command, allowed β command → wider β command)
    {p : Program C ε α} (confined : Confined allowed p) : Confined wider p := by
  induction p with
  | done outcome => trivial
  | call command next ih => exact ⟨implies _ command confined.1, fun answer => ih answer (confined.2 answer)⟩

theorem settle {p : Program C ε α} (confined : Confined allowed p) : Confined allowed p.settle :=
  confined.andThen (fun _ => trivial)

theorem pure (a : α) : Confined allowed (pure a : Program C ε α) := trivial

theorem raise (e : ε) : Confined allowed (raise e : Program C ε α) := trivial

theorem lift (outcome : Except ε α) : Confined allowed (lift outcome : Program C ε α) := trivial

theorem ask {command : C α} (kind : allowed α command) : Confined allowed (ask command : Program C ε α) :=
  ⟨kind, fun _ => trivial⟩

theorem ite {condition : Prop} [Decidable condition] {p q : Program C ε α} (left : Confined allowed p)
    (right : Confined allowed q) : Confined allowed (if condition then p else q) := by
  split
  · exact left
  · exact right

theorem lift_bind {outcome : Except ε α} {f : α → Program C ε β}
    (further : ∀ a, outcome = .ok a → Confined allowed (f a)) : Confined allowed (Program.lift outcome >>= f) := by
  cases outcome with
  | ok a => exact further a rfl
  | error e => trivial

theorem commands {p : Program C ε α} (confined : Confined allowed p) {events : List (Event C)} {outcome : Except ε α}
    (runs : Runs p events outcome) : ∀ event ∈ events, allowed _ event.command := by
  induction runs with
  | done outcome => exact nofun
  | call answer rest ih => exact List.forall_mem_cons.mpr ⟨confined.1, ih (confined.2 answer)⟩

section

variable {safe : List (Event C) → (β : Type) → C β → Prop}

/-- A confined program is safe wherever its commands are; the past only grows. -/
theorem wp (implies : ∀ past β command, allowed β command → safe past β command) {p : Program C ε α}
    (confined : Confined allowed p) (past : List (Event C)) : wp safe p (fun now _ => past <+: now) past := by
  have grows : ∀ now, past <+: now → Program.wp safe p (fun later _ => past <+: later) now := by
    induction p with
    | done outcome => exact fun now held => held
    | call command next ih =>
        intro now held
        refine ⟨implies now _ command confined.1, fun answer => ih answer (confined.2 answer) _ ?_⟩
        exact held.trans (List.prefix_append _ _)
  exact grows past List.prefix_rfl

theorem wp_bind (implies : ∀ past β command, allowed β command → safe past β command) {p : Program C ε α}
    {f : α → Program C ε β} {post : List (Event C) → Except ε β → Prop} {past : List (Event C)}
    (confined : Confined allowed p) (raised : ∀ now e, post now (.error e))
    (rest : ∀ a now, past <+: now → Program.wp safe (f a) post now) : Program.wp safe (p >>= f) post past := by
  apply Program.wp_bind
  apply wp_mono _ (confined.wp implies past)
  intro now outcome held
  cases outcome with
  | ok a => exact rest a now held
  | error e => exact raised now e

end

end Confined

end Program

end Library.Interaction
