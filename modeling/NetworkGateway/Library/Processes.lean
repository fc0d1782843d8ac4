import Mathlib.Data.List.Basic
import Mathlib.Logic.Relation

/-! Two parties that send each other symbols over a pair of queues, and processes, whose every
conversation ends in the same state. -/

namespace Library.Processes

open Relation

universe u v

/-! Runs that cannot be led astray. -/

section Runs

variable {τ : Type u} (step : τ → τ → Prop)

/-- Whatever steps are taken, the goal is reached. -/
inductive Inevitable (goal : τ → Prop) : τ → Prop where
  | now {s : τ} (reached : goal s) : Inevitable goal s
  | later {s : τ} (able : ∃ s', step s s') (further : ∀ s', step s s' → Inevitable goal s') : Inevitable goal s

/-- Every run ends in `final`, after this number of steps. -/
def Settled (final : τ) : Nat → τ → Prop
  | 0, s => s = final ∧ ∀ s', ¬step s s'
  | n + 1, s => (∃ s', step s s') ∧ ∀ s', step s s' → Settled final n s'

variable {step} {final : τ}

theorem Inevitable.mono {goal weaker : τ → Prop} {s : τ} (inevitable : Inevitable step goal s)
    (implies : ∀ s, goal s → weaker s) : Inevitable step weaker s := by
  induction inevitable with
  | now reached => exact .now (implies _ reached)
  | later able _ ih => exact .later able ih

theorem Settled.reaches {n : Nat} {s t : τ} (settled : Settled step final n s) (reached : ReflTransGen step s t) :
    ∃ m, Settled step final m t := by
  induction reached with
  | refl => exact ⟨n, settled⟩
  | tail _ taken ih =>
      rcases ih with ⟨m, settled⟩
      cases m with
      | zero => exact absurd taken (settled.2 _)
      | succ m => exact ⟨m, settled.2 _ taken⟩

/-- Two steps from one state lead to the same state, or can be brought together by a step each. -/
def Diamond (step : τ → τ → Prop) : Prop :=
  ∀ s a b, step s a → step s b → a = b ∨ ∃ c, step a c ∧ step b c

theorem Settled.other (diamond : Diamond step) {n : Nat} {s a b : τ} (settled : Settled step final n a)
    (first : step s a) (second : step s b) : Settled step final n b := by
  induction n generalizing s a b with
  | zero =>
      rcases diamond s a b first second with rfl | ⟨c, closing, -⟩
      · exact settled
      · exact absurd closing (settled.2 c)
  | succ n ih =>
      rcases diamond s a b first second with rfl | ⟨c, closing, opening⟩
      · exact settled
      · exact ⟨⟨c, opening⟩, fun d taken => ih (settled.2 c closing) opening taken⟩

/-- One run that ends decides how all runs end. -/
theorem settled_of_run (diamond : Diamond step) (ended : ∀ s', ¬step final s') {s : τ}
    (run : ReflTransGen step s final) : ∃ n, Settled step final n s := by
  induction run using ReflTransGen.head_induction_on with
  | refl => exact ⟨0, rfl, ended⟩
  | head taken _ ih =>
      rcases ih with ⟨n, settled⟩
      exact ⟨n + 1, ⟨_, taken⟩, fun b other => settled.other diamond taken other⟩

end Runs

/-! Two parties. -/

/-- What a party is at, what is on its way to it, and the marks it has left behind. -/
structure Party (π : Type u) (σ ω : Type) where
  doing : π
  inbox : List σ
  marks : List ω

def Party.get {π : Type u} {σ ω : Type} (party : Party π σ ω) (symbols : List σ) : Party π σ ω :=
  { party with inbox := party.inbox ++ symbols }

structure Pair (π : Type u) (ρ : Type v) (σ ω : Type) where
  left : Party π σ ω
  right : Party ρ σ ω

/-- How a party moves and what it sends; the flag tells whether the other one has closed its end. -/
abbrev Moves (π : Type u) (σ ω : Type) := Bool → Party π σ ω → Party π σ ω → List σ → Prop

section Parties

variable {π : Type u} {ρ : Type v} {σ ω : Type} (moves : Moves π σ ω) (moves' : Moves ρ σ ω) (closed : π → Bool)
  (closed' : ρ → Bool)

inductive Step : Pair π ρ σ ω → Pair π ρ σ ω → Prop where
  | left {l l' : Party π σ ω} {r : Party ρ σ ω} {sent : List σ} (moved : moves (closed' r.doing) l l' sent) :
      Step ⟨l, r⟩ ⟨l', r.get sent⟩
  | right {l : Party π σ ω} {r r' : Party ρ σ ω} {sent : List σ} (moved : moves' (closed l.doing) r r' sent) :
      Step ⟨l, r⟩ ⟨l.get sent, r'⟩

/-- A party moves on by itself, and sends these symbols in all. -/
inductive Goes (shut : Bool) : Party π σ ω → Party π σ ω → List σ → Prop where
  | stay (party : Party π σ ω) : Goes shut party party []
  | on {party next last : Party π σ ω} {sent more : List σ} (moved : moves shut party next sent)
      (further : Goes shut next last more) : Goes shut party last (sent ++ more)

variable {moves moves' closed closed'} {shut : Bool} {party next last : Party π σ ω} {sent more : List σ}

theorem Party.get_nil (party : Party π σ ω) : party.get [] = party := by
  simp [Party.get]

theorem Party.get_append (party : Party π σ ω) (first second : List σ) :
    party.get (first ++ second) = (party.get first).get second := by
  simp [Party.get]

theorem Goes.trans (first : Goes moves shut party next sent) (second : Goes moves shut next last more) :
    Goes moves shut party last (sent ++ more) := by
  induction first with
  | stay => exact second
  | on moved _ ih =>
      rw [List.append_assoc]
      exact .on moved (ih second)

theorem Goes.single (moved : moves shut party next sent) : Goes moves shut party next sent := by
  have both : Goes moves shut party next (sent ++ []) := .on moved (.stay next)
  rw [List.append_nil] at both
  exact both

theorem Goes.quiet (moved : moves shut party next []) (further : Goes moves shut next last more) :
    Goes moves shut party last more := by
  have both : Goes moves shut party last ([] ++ more) := .on moved further
  exact both

theorem left_goes {l l' : Party π σ ω} {r : Party ρ σ ω} (goes : Goes moves (closed' r.doing) l l' sent) :
    ReflTransGen (Step moves moves' closed closed') ⟨l, r⟩ ⟨l', r.get sent⟩ := by
  generalize same : closed' r.doing = shut at goes
  induction goes generalizing r with
  | stay party => rw [Party.get_nil]
  | on moved _ ih =>
      subst same
      rw [Party.get_append]
      exact .head (.left moved) (ih rfl)

theorem right_goes {l : Party π σ ω} {r r' : Party ρ σ ω} (goes : Goes moves' (closed l.doing) r r' sent) :
    ReflTransGen (Step moves moves' closed closed') ⟨l, r⟩ ⟨l.get sent, r'⟩ := by
  generalize same : closed l.doing = shut at goes
  induction goes generalizing l with
  | stay party => rw [Party.get_nil]
  | on moved _ ih =>
      subst same
      rw [Party.get_append]
      exact .head (.right moved) (ih rfl)

end Parties

/-! Processes. -/

/-- Sends symbols, reads them one by one, and leaves marks behind. A read is answered with `none`
when the other side has closed its end. -/
inductive Process (σ ω ε α : Type) where
  | done (outcome : Except ε α)
  | send (symbols : List σ) (next : Process σ ω ε α)
  | read (next : Option σ → Process σ ω ε α)
  | mark (sign : ω) (next : Process σ ω ε α)

variable {σ ω ε δ α β : Type}

namespace Process

def andThen : Process σ ω ε α → (Except ε α → Process σ ω ε β) → Process σ ω ε β
  | .done outcome, rest => rest outcome
  | .send symbols next, rest => .send symbols (next.andThen rest)
  | .read next, rest => .read (fun symbol => (next symbol).andThen rest)
  | .mark sign next, rest => .mark sign (next.andThen rest)

/-- Reads so many symbols behind those in `data`, and ends with what `result` makes of them all. -/
def gather (result : List σ → Except ε α) (ended : ε) : Nat → List σ → Process σ ω ε α
  | 0, data => .done (result data)
  | missing + 1, data => .read fun symbol =>
      match symbol with
      | none => .done (.error ended)
      | some symbol => gather result ended missing (data ++ [symbol])

def fed : Process σ ω ε α → List σ → Option (Process σ ω ε α)
  | p, [] => some p
  | .read next, symbol :: symbols => (next (some symbol)).fed symbols
  | _, _ :: _ => none

variable {p p' : Process σ ω ε α} {symbols : List σ}

@[simp] theorem fed_nil (p : Process σ ω ε α) : p.fed [] = some p := by
  cases p <;> rfl

theorem fed_andThen (rest : Except ε α → Process σ ω ε β) (reads : p.fed symbols = some p') :
    (p.andThen rest).fed symbols = some (p'.andThen rest) := by
  induction symbols generalizing p with
  | nil =>
      cases Option.some.inj ((fed_nil p).symm.trans reads)
      exact fed_nil _
  | cons symbol symbols ih =>
      cases p with
      | read next => exact ih reads
      | done outcome => cases reads
      | send sent next => cases reads
      | mark sign next => cases reads

theorem gather_fed (result : List σ → Except ε α) (ended : ε) {missing : Nat} {data : List σ}
    (enough : symbols.length ≤ missing) :
    (gather result ended missing data : Process σ ω ε α).fed symbols =
      some (gather result ended (missing - symbols.length) (data ++ symbols)) := by
  induction symbols generalizing missing data with
  | nil => simp
  | cons symbol symbols ih =>
      cases missing with
      | zero => simp at enough
      | succ missing =>
          have fewer : symbols.length ≤ missing := by simpa using enough
          have next := @ih missing (data ++ [symbol]) fewer
          rw [List.append_assoc] at next
          simpa [gather, fed] using next

def closed (ends : Except ε α → Bool) : Process σ ω ε α → Bool
  | .done outcome => ends outcome
  | _ => false

def move (shut : Bool) : Party (Process σ ω ε α) σ ω → Option (Party (Process σ ω ε α) σ ω × List σ)
  | ⟨.done _, _, _⟩ => none
  | ⟨.send symbols next, inbox, marks⟩ => some (⟨next, inbox, marks⟩, symbols)
  | ⟨.mark sign next, inbox, marks⟩ => some (⟨next, inbox, marks ++ [sign]⟩, [])
  | ⟨.read next, symbol :: inbox, marks⟩ => some (⟨next (some symbol), inbox, marks⟩, [])
  | ⟨.read next, [], marks⟩ => if shut then some (⟨next none, [], marks⟩, []) else none

def Moved : Moves (Process σ ω ε α) σ ω := fun shut party next sent => move shut party = some (next, sent)

variable {ends : Except ε α → Bool} {ends' : Except δ β → Bool} {party next : Party (Process σ ω ε α) σ ω} {sent : List σ}

theorem unclosed_of_moved {shut : Bool} (moved : Moved shut party next sent) : party.doing.closed ends = false := by
  rcases party with ⟨process, inbox, marks⟩
  cases process with
  | done outcome => cases moved
  | send | read | mark => rfl

/-- What comes in later is left behind what is there, and a move that is not the end of the other side
is made all the same. -/
theorem moved_get (moved : Moved false party next sent) (shut : Bool) (more : List σ) :
    Moved shut (party.get more) (next.get more) sent := by
  rcases party with ⟨process, inbox, marks⟩
  cases process with
  | done outcome => cases moved
  | send symbols rest =>
      cases moved
      rfl
  | mark sign rest =>
      cases moved
      rfl
  | read rest =>
      cases inbox with
      | nil => cases moved
      | cons symbol inbox =>
          cases moved
          rfl

theorem goes_shut (goes : Goes Moved false party next sent) (shut : Bool) : Goes Moved shut party next sent := by
  induction goes with
  | stay => exact .stay _
  | on moved _ ih =>
      have same := moved_get moved shut []
      rw [Party.get_nil, Party.get_nil] at same
      exact .on same ih

theorem goes_fed {shut : Bool} {inbox : List σ} {marks : List ω} (reads : p.fed symbols = some p') :
    Goes Moved shut ⟨p, symbols ++ inbox, marks⟩ ⟨p', inbox, marks⟩ [] := by
  induction symbols generalizing p with
  | nil =>
      cases Option.some.inj ((fed_nil p).symm.trans reads)
      exact .stay _
  | cons symbol symbols ih =>
      cases p with
      | read rest =>
          have moved : Moved shut ⟨.read rest, symbol :: (symbols ++ inbox), marks⟩ ⟨rest (some symbol), symbols ++ inbox, marks⟩ [] :=
            rfl
          exact .quiet moved (ih reads)
      | done outcome => cases reads
      | send sent rest => cases reads
      | mark sign rest => cases reads

theorem together {l l' : Party (Process σ ω ε α) σ ω} {r r' : Party (Process σ ω δ β) σ ω} {first second : List σ}
    (left : Moved (closed ends' r.doing) l l' first) (right : Moved (closed ends l.doing) r r' second) :
    ∃ c, Step Moved Moved (closed ends) (closed ends') ⟨l', r.get first⟩ c ∧
      Step Moved Moved (closed ends) (closed ends') ⟨l.get second, r'⟩ c := by
  rw [unclosed_of_moved right] at left
  rw [unclosed_of_moved left] at right
  exact ⟨⟨l'.get second, r'.get first⟩, .right (moved_get right _ first), .left (moved_get left _ second)⟩

/-- Moves of the two sides do not get in each other's way. -/
theorem diamond : Diamond (Step (Moved (σ := σ) (ω := ω)) Moved (closed ends) (closed ends')) := by
  intro s a b first second
  cases first with
  | left left =>
      cases second with
      | left again =>
          cases Option.some.inj (left.symm.trans again)
          exact .inl rfl
      | right right => exact .inr (together left right)
  | right right =>
      cases second with
      | left left =>
          rcases together left right with ⟨c, second, first⟩
          exact .inr ⟨c, first, second⟩
      | right again =>
          cases Option.some.inj (right.symm.trans again)
          exact .inl rfl

end Process

end Library.Processes
