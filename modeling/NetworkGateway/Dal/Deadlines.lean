import Mathlib.Data.List.Sort
import NetworkGateway.Library.Run

/-! `Deadline` of `app/dal/proxy/connectors.py`, entered: the thread of the `with` block and the timer's
thread run side by side.

One step is one section under the lock, or one call outside of it. What a call raises is swallowed by
`close`, and ends `own` either way. -/

namespace NetworkGateway.Deadlines

/-- What `close` asks of a resource with `isinstance`. -/
inductive Kind where
  | sshClient
  | socket
  | other
  deriving DecidableEq, Repr

/-- The key `close` sorts by: outer transports come first. -/
def Kind.key : Kind → Nat
  | .sshClient => 0
  | .socket | .other => 1

variable {ρ : Type}

inductive Call (ρ : Type) where
  | shutdown (resource : ρ)
  | close (resource : ρ)
  deriving DecidableEq, Repr

/-- What one round of the loop in `close` calls. -/
def round (kind : ρ → Kind) (resource : ρ) : List (Call ρ) :=
  if kind resource = .socket then [.shutdown resource, .close resource] else [.close resource]

/-- What `close` calls, once it has taken the resources. -/
def rounds (kind : ρ → Kind) (resources : List ρ) : List (Call ρ) :=
  (resources.insertionSort (fun a b => (kind a).key ≤ (kind b).key)).flatMap (round kind)

/-- Where the thread of the `with` block is. -/
inductive Worker (ρ : Type) where
  | body
  /-- `own` found the deadline closed. -/
  | rejecting (resource : ρ)
  /-- In `__exit__`, the timer is cancelled. -/
  | exiting
  | closing (calls : List (Call ρ))
  | exited
  deriving DecidableEq, Repr

inductive Timer (ρ : Type) where
  | waiting
  /-- `_expire` is called. -/
  | expiring
  /-- The event is set. -/
  | expired
  | closing (calls : List (Call ρ))
  | finished
  deriving DecidableEq, Repr

inductive Event (ρ : Type) where
  | passed (resource : ρ)
  | returned (resource : ρ)
  | rejected (resource : ρ)
  | closed
  | called (call : Call ρ) (raised : Bool)
  deriving DecidableEq, Repr

structure State (ρ : Type) where
  resources : List ρ
  closed : Bool
  expired : Bool
  /-- `_timer.finished` is set. -/
  cancelled : Bool
  worker : Worker ρ
  timer : Timer ρ
  log : List (Event ρ)
  deriving DecidableEq, Repr

def State.start : State ρ where
  resources := []
  closed := false
  expired := false
  cancelled := false
  worker := .body
  timer := .waiting
  log := []

inductive Action (ρ : Type) where
  | own (resource : ρ)
  /-- `own` closes what it rejects. -/
  | reject (raised : Bool)
  /-- The block is left, in any way. -/
  | exit
  | workerTakes
  | workerCalls (raised : Bool)
  /-- `join` returns, the timer's thread finished or not. -/
  | join
  /-- The timer's wait is over. -/
  | wake
  | expire
  | timerTakes
  | timerCalls (raised : Bool)
  | finish
  deriving DecidableEq, Repr

/-- The section of `own`. -/
def State.own (s : State ρ) (resource : ρ) : State ρ :=
  if s.closed then { s with worker := .rejecting resource, log := s.log ++ [.passed resource] }
  else { s with
    resources := s.resources ++ [resource]
    log := s.log ++ [.passed resource, .returned resource] }

/-- The section of `close`. -/
def State.takes (s : State ρ) : State ρ :=
  { s with closed := true, resources := [], log := s.log ++ [.closed] }

def State.calls (s : State ρ) (call : Call ρ) (raised : Bool) : State ρ :=
  { s with log := s.log ++ [.called call raised] }

/-- An action the threads are not at changes nothing. -/
def step (kind : ρ → Kind) (action : Action ρ) (s : State ρ) : State ρ :=
  match action, s.worker, s.timer with
  | .own resource, .body, _ => s.own resource
  | .reject raised, .rejecting resource, _ =>
      { s with
        worker := .body
        log := s.log ++ [.called (.close resource) raised, .rejected resource] }
  | .exit, .body, _ => { s with cancelled := true, worker := .exiting }
  | .workerTakes, .exiting, _ => { s.takes with worker := .closing (rounds kind s.resources) }
  | .workerCalls raised, .closing (call :: rest), _ => { s.calls call raised with worker := .closing rest }
  | .join, .closing [], _ => { s with worker := .exited }
  | .wake, _, .waiting => { s with timer := if s.cancelled then .finished else .expiring }
  | .expire, _, .expiring => { s with expired := true, timer := .expired }
  | .timerTakes, _, .expired => { s.takes with timer := .closing (rounds kind s.resources) }
  | .timerCalls raised, _, .closing (call :: rest) => { s.calls call raised with timer := .closing rest }
  | .finish, _, .closing [] => { s with timer := .finished }
  | _, _, _ => s

def Timer.idle : Timer ρ → Bool
  | .waiting | .finished => true
  | .expiring | .expired | .closing _ => false

end NetworkGateway.Deadlines
