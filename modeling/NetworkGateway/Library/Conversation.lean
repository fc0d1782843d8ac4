import Mathlib.Order.GameAdd
import NetworkGateway.Library.Interaction
import NetworkGateway.Library.Processes

/-! Programs on the two ends of a connection that delivers in order, in pieces of any size. Where
neither depends on how its input is cut, one conversation that ends decides how all of them end. -/

namespace Library.Conversation

open Relation Interaction Processes

inductive Use (σ ω β : Type) where
  /-- Nothing: it gets one of these answers. -/
  | apart (answers : β → Prop)
  | send (symbols : List σ) (sent : β)
  /-- Some of what has arrived, as many symbols as this at most. -/
  | receive (size : Nat) (received : List σ → β)
  | mark (sign : ω) (answer : β)

variable {C D : Type → Type} {σ ω ε δ α β : Type}

/-- A program that has ended in one of these ways has closed its end. -/
def closed (ends : Except ε α → Bool) : Program C ε α → Bool
  | .done outcome => ends outcome
  | .call _ _ => false

section Turns

variable (use : (γ : Type) → C γ → Use σ ω γ)

/-- One command of a program. A receiving program gets any beginning of what is on its way to it, and
nothing when the other side has closed its end. -/
inductive Turn (shut : Bool) : Party (Program C ε α) σ ω → Party (Program C ε α) σ ω → List σ → Prop where
  | apart {γ : Type} {command : C γ} {next : γ → Program C ε α} {inbox : List σ} {marks : List ω} {answers : γ → Prop}
      {answer : γ} (used : use γ command = .apart answers) (answered : answers answer) :
      Turn shut ⟨.call command next, inbox, marks⟩ ⟨next answer, inbox, marks⟩ []
  | send {γ : Type} {command : C γ} {next : γ → Program C ε α} {inbox : List σ} {marks : List ω} {symbols : List σ}
      {sent : γ} (used : use γ command = .send symbols sent) :
      Turn shut ⟨.call command next, inbox, marks⟩ ⟨next sent, inbox, marks⟩ symbols
  | mark {γ : Type} {command : C γ} {next : γ → Program C ε α} {inbox : List σ} {marks : List ω} {sign : ω}
      {answer : γ} (used : use γ command = .mark sign answer) :
      Turn shut ⟨.call command next, inbox, marks⟩ ⟨next answer, inbox, marks ++ [sign]⟩ []
  | receive {γ : Type} {command : C γ} {next : γ → Program C ε α} {inbox : List σ} {marks : List ω} {size : Nat}
      {received : List σ → γ} {piece : List σ} (used : use γ command = .receive size received)
      (present : piece ≠ []) (fits : piece.length ≤ size) :
      Turn shut ⟨.call command next, piece ++ inbox, marks⟩ ⟨next (received piece), inbox, marks⟩ []
  | ended {γ : Type} {command : C γ} {next : γ → Program C ε α} {marks : List ω} {size : Nat}
      {received : List σ → γ} (used : use γ command = .receive size received) (finish : shut = true) :
      Turn shut ⟨.call command next, [], marks⟩ ⟨next (received []), [], marks⟩ []

/-- The program carries out the process, however what it receives is cut. -/
inductive Carries : Program C ε α → Process σ ω ε α → Prop where
  | done (outcome : Except ε α) : Carries (.done outcome) (.done outcome)
  | apart {γ : Type} {command : C γ} {next : γ → Program C ε α} {process : Process σ ω ε α} {answers : γ → Prop}
      (used : use γ command = .apart answers) (able : ∃ answer, answers answer)
      (further : ∀ answer, answers answer → Carries (next answer) process) : Carries (.call command next) process
  | send {γ : Type} {command : C γ} {next : γ → Program C ε α} {process : Process σ ω ε α} {symbols : List σ} {sent : γ}
      (used : use γ command = .send symbols sent) (further : Carries (next sent) process) :
      Carries (.call command next) (.send symbols process)
  | mark {γ : Type} {command : C γ} {next : γ → Program C ε α} {process : Process σ ω ε α} {sign : ω} {answer : γ}
      (used : use γ command = .mark sign answer) (further : Carries (next answer) process) :
      Carries (.call command next) (.mark sign process)
  | receive {γ : Type} {command : C γ} {next : γ → Program C ε α} {rest : Option σ → Process σ ω ε α} {size : Nat}
      {received : List σ → γ} (used : use γ command = .receive size received) (positive : 0 < size)
      (after : List σ → Process σ ω ε α)
      (fed : ∀ piece, piece ≠ [] → piece.length ≤ size → (Process.read rest).fed piece = some (after piece))
      (further : ∀ piece, piece ≠ [] → piece.length ≤ size → Carries (next (received piece)) (after piece))
      (finish : Carries (next (received [])) (rest none)) : Carries (.call command next) (.read rest)

/-- It makes no difference to the program how its input is cut. -/
def Uniform (p : Program C ε α) : Prop := ∃ process : Process σ ω ε α, Carries use p process

end Turns

/-! Programs to which the cuts make no difference. -/

section Uniform

variable {use : (γ : Type) → C γ → Use σ ω γ} {p : Program C ε α} {f : α → Program C ε β}

theorem Carries.andThen {process : Process σ ω ε α} {rest : Except ε α → Program C ε β}
    {rest' : Except ε α → Process σ ω ε β} (first : Carries use p process)
    (further : ∀ outcome, Carries use (rest outcome) (rest' outcome)) :
    Carries use (p.andThen rest) (process.andThen rest') := by
  induction first with
  | done outcome => exact further outcome
  | apart used able _ ih => exact .apart used able ih
  | send used _ ih => exact .send used ih
  | mark used _ ih => exact .mark used ih
  | receive used positive after fed _ _ ih finish =>
      exact .receive used positive (fun piece => (after piece).andThen rest')
        (fun piece present fits => Process.fed_andThen rest' (fed piece present fits)) ih finish

namespace Uniform

theorem done (outcome : Except ε α) : Uniform use (.done outcome : Program C ε α) := ⟨.done outcome, .done outcome⟩

theorem andThen {rest : Except ε α → Program C ε β} (first : Uniform use p)
    (further : ∀ outcome, Uniform use (rest outcome)) : Uniform use (p.andThen rest) := by
  rcases first with ⟨process, first⟩
  choose rest' further using further
  exact ⟨process.andThen rest', first.andThen further⟩

theorem bind (first : Uniform use p) (further : ∀ a, Uniform use (f a)) : Uniform use (p >>= f) := by
  apply first.andThen
  intro outcome
  cases outcome with
  | ok a => exact further a
  | error e => exact done (.error e)

theorem send {γ : Type} {command : C γ} {next : γ → Program C ε α} {symbols : List σ} {sent : γ}
    (used : use γ command = .send symbols sent) (further : Uniform use (next sent)) :
    Uniform use (.call command next) := by
  rcases further with ⟨process, further⟩
  exact ⟨.send symbols process, .send used further⟩

theorem mark {γ : Type} {command : C γ} {next : γ → Program C ε α} {sign : ω} {answer : γ}
    (used : use γ command = .mark sign answer) (further : Uniform use (next answer)) :
    Uniform use (.call command next) := by
  rcases further with ⟨process, further⟩
  exact ⟨.mark sign process, .mark used further⟩

end Uniform

/-- A loop that receives until it holds `size` symbols carries out the process that reads as many. -/
theorem gathers {loop : List σ → Program C ε α} {size : Nat} {result : List σ → Except ε α} {ended : ε}
    (short : ∀ data (rest : Option σ → Process σ ω ε α) (after : List σ → Process σ ω ε α), data.length < size →
      (∀ piece, piece ≠ [] → piece.length ≤ size - data.length → (Process.read rest).fed piece = some (after piece)) →
      (∀ piece, piece ≠ [] → piece.length ≤ size - data.length → Carries use (loop (data ++ piece)) (after piece)) →
      rest none = .done (.error ended) → Carries use (loop data) (.read rest))
    (full : ∀ data, data.length = size → Carries use (loop data) (.done (result data)))
    {data : List σ} (room : data.length ≤ size) :
    Carries use (loop data) (Process.gather result ended (size - data.length) data) := by
  induction missing : size - data.length using Nat.strongRecOn generalizing data with
  | ind n ih =>
      cases n with
      | zero => exact full data (by omega)
      | succ n =>
          refine short data _ (fun piece => Process.gather result ended (n + 1 - piece.length) (data ++ piece)) (by omega)
            ?_ ?_ rfl
          · intro piece present fits
            have enough : piece.length ≤ n + 1 := by omega
            have fed := @Process.gather_fed σ ω ε α piece result ended (n + 1) data enough
            exact fed
          · intro piece present fits
            have positive := List.length_pos_iff.mpr present
            have fewer : size - (data ++ piece).length = n + 1 - piece.length := by
              rw [List.length_append]
              omega
            exact ih (n + 1 - piece.length) (by omega) (by rw [List.length_append]; omega) fewer

end Uniform

/-! Programs that take a given part in a conversation. -/

section Parts

variable {use : (γ : Type) → C γ → Use σ ω γ} {p : Program C ε α} {f : α → Program C ε β} {shut : Bool}
  {read more sent sending : List σ} {signs later : List ω}

theorem turn_andThen {party next : Party (Program C ε α) σ ω} (rest : Except ε α → Program C ε β)
    (turn : Turn use shut party next sent) :
    Turn use shut ⟨party.doing.andThen rest, party.inbox, party.marks⟩ ⟨next.doing.andThen rest, next.inbox, next.marks⟩ sent := by
  cases turn with
  | apart used answered => exact .apart used answered
  | send used => exact .send used
  | mark used => exact .mark used
  | receive used present fits => exact .receive used present fits
  | ended used finish => exact .ended used finish

theorem goes_andThen {party last : Party (Program C ε α) σ ω} (rest : Except ε α → Program C ε β)
    (goes : Goes (Turn use) shut party last sent) :
    Goes (Turn use) shut ⟨party.doing.andThen rest, party.inbox, party.marks⟩
      ⟨last.doing.andThen rest, last.inbox, last.marks⟩ sent := by
  induction goes with
  | stay => exact .stay _
  | on moved _ ih => exact .on (turn_andThen rest moved) ih

variable (use) in
/-- Reads these symbols, leaves these marks and sends these symbols on its way to an outcome. -/
def Plays (p : Program C ε α) (read : List σ) (outcome : Except ε α) (signs : List ω) (sent : List σ) : Prop :=
  ∀ shut inbox marks, Goes (Turn use) shut ⟨p, read ++ inbox, marks⟩ ⟨.done outcome, inbox, marks ++ signs⟩ sent

namespace Plays

theorem done (outcome : Except ε α) : Plays use (.done outcome : Program C ε α) [] outcome ([] : List ω) ([] : List σ) := by
  intro shut inbox marks
  rw [List.append_nil]
  exact .stay _

theorem further {a : α} (plays : Plays use p read (.ok a) signs sent) (inbox : List σ) (marks : List ω) :
    Goes (Turn use) shut ⟨p >>= f, read ++ inbox, marks⟩ ⟨f a, inbox, marks ++ signs⟩ sent :=
  goes_andThen (Program.onOk f) (plays shut inbox marks)

theorem bind {a : α} {outcome : Except ε β} (first : Plays use p read (.ok a) signs sent)
    (second : Plays use (f a) more outcome later sending) :
    Plays use (p >>= f) (read ++ more) outcome (signs ++ later) (sent ++ sending) := by
  intro shut inbox marks
  rw [List.append_assoc read, ← List.append_assoc marks]
  exact (first.further (more ++ inbox) marks).trans (second shut inbox (marks ++ signs))

theorem reads {a : α} {marks : List ω} {last : Party (Program C ε β) σ ω} (plays : Plays use p read (.ok a) [] [])
    (inbox : List σ) (further : Goes (Turn use) shut ⟨f a, inbox, marks⟩ last sending) :
    Goes (Turn use) shut ⟨p >>= f, read ++ inbox, marks⟩ last sending := by
  have before : Goes (Turn use) shut ⟨p >>= f, read ++ inbox, marks⟩ ⟨f a, inbox, marks ++ []⟩ [] :=
    plays.further inbox marks
  rw [List.append_nil] at before
  have both := before.trans further
  exact both

theorem last {a : α} {outcome : Except ε β} (first : Plays use p read (.ok a) signs sent) (ends : f a = .done outcome) :
    Plays use (p >>= f) read outcome signs sent := by
  intro shut inbox marks
  have before : Goes (Turn use) shut ⟨p >>= f, read ++ inbox, marks⟩ ⟨f a, inbox, marks ++ signs⟩ sent :=
    first.further inbox marks
  rw [ends] at before
  exact before

theorem quietly {a : α} {outcome : Except ε β} (first : Plays use p [] (.ok a) signs [])
    (second : Plays use (f a) more outcome [] sending) : Plays use (p >>= f) more outcome signs sending := by
  have both := first.bind second
  rw [List.append_nil] at both
  exact both

theorem bind_error {e : ε} (first : Plays use p read (.error e) signs sent) :
    Plays use (p >>= f) read (.error e) signs sent :=
  fun shut inbox marks => goes_andThen (Program.onOk f) (first shut inbox marks)

theorem settle {outcome : Except ε α} (plays : Plays use p read outcome signs sent) :
    Plays use p.settle read (.ok outcome) signs sent :=
  fun shut inbox marks => goes_andThen _ (plays shut inbox marks)

end Plays

end Parts

/-! Conversations. -/

section Conversations

variable {use : (γ : Type) → C γ → Use σ ω γ} {use' : (γ : Type) → D γ → Use σ ω γ} {ends : Except ε α → Bool}
  {ends' : Except δ β → Bool}

variable (use use' ends ends') in
abbrev Talks : Pair (Program C ε α) (Program D δ β) σ ω → Pair (Program C ε α) (Program D δ β) σ ω → Prop :=
  Step (Turn use) (Turn use') (closed ends) (closed ends')

variable (ends ends') in
abbrev Proceeds : Pair (Process σ ω ε α) (Process σ ω δ β) σ ω → Pair (Process σ ω ε α) (Process σ ω δ β) σ ω → Prop :=
  Step Process.Moved Process.Moved (Process.closed ends) (Process.closed ends')

section One

variable {shut : Bool} {party next : Party (Program C ε α) σ ω} {sent : List σ} {process : Process σ ω ε α}

def as (process : Process σ ω ε α) (party : Party (Program C ε α) σ ω) : Party (Process σ ω ε α) σ ω :=
  ⟨process, party.inbox, party.marks⟩

/-- What a turn does, the process does in its moves. -/
theorem turn_carried (turn : Turn use shut party next sent) (carries : Carries use party.doing process) :
    ∃ process', Goes Process.Moved shut (as process party) (as process' next) sent ∧ Carries use next.doing process' := by
  cases turn with
  | apart used answered =>
      cases carries with
      | apart again able further =>
          rw [used] at again
          cases again
          exact ⟨process, .stay _, further _ answered⟩
      | send again | mark again | receive again =>
          rw [used] at again
          cases again
  | send used =>
      cases carries with
      | send again further =>
          rw [used] at again
          cases again
          exact ⟨_, .single rfl, further⟩
      | apart again | mark again | receive again =>
          rw [used] at again
          cases again
  | mark used =>
      cases carries with
      | mark again further =>
          rw [used] at again
          cases again
          exact ⟨_, .single rfl, further⟩
      | apart again | send again | receive again =>
          rw [used] at again
          cases again
  | receive used present fits =>
      cases carries with
      | receive again positive after fed further finish =>
          rw [used] at again
          cases again
          exact ⟨after _, Process.goes_fed (fed _ present fits), further _ present fits⟩
      | apart again | send again | mark again =>
          rw [used] at again
          cases again
  | ended used finish =>
      subst finish
      cases carries with
      | receive again positive after fed further finish =>
          rw [used] at again
          cases again
          exact ⟨_, .single rfl, finish⟩
      | apart again | send again | mark again =>
          rw [used] at again
          cases again

/-- A program without a turn has ended, or reads from an end that is open and has nothing for it. -/
inductive Idle (shut : Bool) : Party (Program C ε α) σ ω → Process σ ω ε α → Prop where
  | ended (outcome : Except ε α) (inbox : List σ) (marks : List ω) : Idle shut ⟨.done outcome, inbox, marks⟩ (.done outcome)
  | reading {γ : Type} {command : C γ} {next : γ → Program C ε α} {rest : Option σ → Process σ ω ε α} (marks : List ω)
      (unshut : shut = false) : Idle shut ⟨.call command next, [], marks⟩ (.read rest)

theorem idle (carries : Carries use party.doing process) (stuck : ∀ next sent, ¬Turn use shut party next sent) :
    Idle shut party process := by
  rcases party with ⟨program, inbox, marks⟩
  cases carries with
  | done outcome => exact .ended outcome inbox marks
  | apart used able further =>
      rcases able with ⟨answer, answered⟩
      exact absurd (.apart used answered) (stuck _ _)
  | send used further => exact absurd (.send used) (stuck _ _)
  | mark used further => exact absurd (.mark used) (stuck _ _)
  | receive used positive after fed further finish =>
      cases inbox with
      | nil =>
          apply Idle.reading
          by_contra open_
          exact absurd (.ended used (by simpa using open_)) (stuck _ _)
      | cons symbol inbox =>
          have one : [symbol].length ≤ _ := positive
          exact absurd (.receive used (List.cons_ne_nil symbol []) one) (stuck _ _)

theorem Idle.closed (idle : Idle shut party process) (ends : Except ε α → Bool) :
    process.closed ends = closed ends party.doing := by
  cases idle <;> rfl

theorem Idle.still (idle : Idle shut party process) (next : Party (Process σ ω ε α) σ ω) (sent : List σ) :
    ¬Process.Moved shut (as process party) next sent := by
  cases idle with
  | ended => exact nofun
  | reading marks unshut =>
      rw [unshut]
      exact nofun

theorem closed_carried {program : Program C ε α} (carries : Carries use program process)
    (finish : closed ends program = true) : process.closed ends = true := by
  cases program with
  | done outcome =>
      cases carries
      exact finish
  | call command next => cases finish

theorem goes_closed {shut' : Bool} {before after : Party (Process σ ω ε α) σ ω}
    (goes : Goes Process.Moved shut before after sent) (implies : shut = true → shut' = true) :
    Goes Process.Moved shut' before after sent := by
  cases shut with
  | false => exact Process.goes_shut goes shut'
  | true =>
      rw [implies rfl]
      exact goes

end One

variable {talk talk' : Pair (Program C ε α) (Program D δ β) σ ω} {left : Process σ ω ε α} {right : Process σ ω δ β}

def shadow (talk : Pair (Program C ε α) (Program D δ β) σ ω) (left : Process σ ω ε α) (right : Process σ ω δ β) :
    Pair (Process σ ω ε α) (Process σ ω δ β) σ ω :=
  ⟨as left talk.left, as right talk.right⟩

/-- A step of a conversation is a run of the processes. -/
theorem step_carried (taken : Talks use use' ends ends' talk talk') (first : Carries use talk.left.doing left)
    (second : Carries use' talk.right.doing right) :
    ∃ left' right', ReflTransGen (Proceeds ends ends') (shadow talk left right) (shadow talk' left' right') ∧
      Carries use talk'.left.doing left' ∧ Carries use' talk'.right.doing right' := by
  cases taken with
  | left turn =>
      rcases turn_carried turn first with ⟨left', goes, carries⟩
      exact ⟨left', right, left_goes (goes_closed goes (closed_carried second)), carries, second⟩
  | right turn =>
      rcases turn_carried turn second with ⟨right', goes, carries⟩
      exact ⟨left, right', right_goes (goes_closed goes (closed_carried first)), first, carries⟩

theorem run_carried (run : ReflTransGen (Talks use use' ends ends') talk talk') (first : Carries use talk.left.doing left)
    (second : Carries use' talk.right.doing right) :
    ∃ left' right', ReflTransGen (Proceeds ends ends') (shadow talk left right) (shadow talk' left' right') ∧
      Carries use talk'.left.doing left' ∧ Carries use' talk'.right.doing right' := by
  induction run with
  | refl => exact ⟨left, right, .refl, first, second⟩
  | tail _ taken ih =>
      rcases ih with ⟨middle, middle', before, first, second⟩
      rcases step_carried taken first second with ⟨left', right', after, carries⟩
      exact ⟨left', right', before.trans after, carries⟩

/-- Where a conversation cannot go on, its processes cannot either. -/
theorem stuck_carried (stuck : ∀ talk', ¬Talks use use' ends ends' talk talk') (first : Carries use talk.left.doing left)
    (second : Carries use' talk.right.doing right) :
    Idle (closed ends' talk.right.doing) talk.left left ∧ Idle (closed ends talk.left.doing) talk.right right ∧
      ∀ pair, ¬Proceeds ends ends' (shadow talk left right) pair := by
  have idleLeft := idle first fun _ _ turn => stuck _ (.left turn)
  have idleRight := idle second fun _ _ turn => stuck _ (.right turn)
  refine ⟨idleLeft, idleRight, ?_⟩
  intro pair taken
  cases taken with
  | left moved =>
      have same : Process.closed ends' (as right talk.right).doing = _ := idleRight.closed ends'
      rw [same] at moved
      exact idleLeft.still _ _ moved
  | right moved =>
      have same : Process.closed ends (as left talk.left).doing = _ := idleLeft.closed ends
      rw [same] at moved
      exact idleRight.still _ _ moved

def Under (later now : Program C ε α) : Prop :=
  ∃ γ, ∃ command : C γ, ∃ next : γ → Program C ε α, ∃ answer, now = .call command next ∧ later = next answer

theorem under_wellFounded : WellFounded (Under : Program C ε α → Program C ε α → Prop) := by
  constructor
  intro p
  induction p with
  | done outcome =>
      constructor
      intro later under
      rcases under with ⟨γ, command, next, answer, same, -⟩
      cases same
  | call command next ih =>
      constructor
      intro later under
      rcases under with ⟨γ, command', next', answer, same, rfl⟩
      cases same
      exact ih answer

theorem turn_under {shut : Bool} {party next : Party (Program C ε α) σ ω} {sent : List σ}
    (turn : Turn use shut party next sent) : Under next.doing party.doing := by
  cases turn <;> exact ⟨_, _, _, _, rfl, rfl⟩

/-- Every turn uses up a command of one of the programs, so no conversation goes on for ever. -/
theorem talks_wellFounded : WellFounded (fun later now => Talks use use' ends ends' now later) := by
  have order := (under_wellFounded (C := C) (ε := ε) (α := α)).prod_gameAdd (under_wellFounded (C := D) (ε := δ) (α := β))
  apply Subrelation.wf _ (InvImage.wf
    (fun talk : Pair (Program C ε α) (Program D δ β) σ ω => (talk.left.doing, talk.right.doing)) order)
  intro later now taken
  cases taken with
  | left turn => exact .fst (turn_under turn)
  | right turn => exact .snd (turn_under turn)

/-- Where the processes are bound to end so, the programs are. -/
theorem settled_inevitable {outcome : Except ε α} {outcome' : Except δ β} {inbox inbox' : List σ} {marks marks' : List ω}
    {n : Nat} (first : Carries use talk.left.doing left) (second : Carries use' talk.right.doing right)
    (settled : Settled (Proceeds ends ends') ⟨⟨.done outcome, inbox, marks⟩, ⟨.done outcome', inbox', marks'⟩⟩ n
      (shadow talk left right)) :
    Inevitable (Talks use use' ends ends')
      (fun s => s = ⟨⟨.done outcome, inbox, marks⟩, ⟨.done outcome', inbox', marks'⟩⟩) talk := by
  have order := @talks_wellFounded C D σ ω ε δ α β use use' ends ends'
  induction talk using order.induction generalizing left right n with
  | _ talk ih =>
      by_cases able : ∃ talk', Talks use use' ends ends' talk talk'
      · apply Inevitable.later able
        intro talk' taken
        rcases step_carried taken first second with ⟨left', right', reached, first', second'⟩
        rcases settled.reaches reached with ⟨m, settled'⟩
        exact ih talk' taken first' second' settled'
      · rcases stuck_carried (not_exists.mp able) first second with ⟨idleLeft, idleRight, still⟩
        cases n with
        | succ n =>
            rcases settled.1 with ⟨pair, taken⟩
            exact absurd taken (still pair)
        | zero =>
            have ended := settled.1
            rcases talk with ⟨left', right'⟩
            cases ended
            cases idleLeft
            cases idleRight
            exact .now rfl

/-- One conversation of two such programs that ends decides how all of them end: whichever turn is
taken next and however what is received is cut. -/
theorem inevitable (first : Uniform use talk.left.doing) (second : Uniform use' talk.right.doing)
    {outcome : Except ε α} {outcome' : Except δ β} {inbox inbox' : List σ} {marks marks' : List ω}
    (run : ReflTransGen (Talks use use' ends ends') talk
      ⟨⟨.done outcome, inbox, marks⟩, ⟨.done outcome', inbox', marks'⟩⟩) :
    Inevitable (Talks use use' ends ends')
      (fun s => s = ⟨⟨.done outcome, inbox, marks⟩, ⟨.done outcome', inbox', marks'⟩⟩) talk := by
  rcases first with ⟨left, first⟩
  rcases second with ⟨right, second⟩
  rcases run_carried run first second with ⟨left', right', reached, ended, ended'⟩
  cases ended
  cases ended'
  have finish : ∀ pair, ¬Proceeds ends ends' (⟨⟨.done outcome, inbox, marks⟩, ⟨.done outcome', inbox', marks'⟩⟩ :
      Pair (Process σ ω ε α) (Process σ ω δ β) σ ω) pair := by
    intro pair taken
    cases taken with
    | left moved => cases moved
    | right moved => cases moved
  rcases settled_of_run Process.diamond finish reached with ⟨n, settled⟩
  exact settled_inevitable first second settled

end Conversations

end Library.Conversation
