import Mathlib.Algebra.Order.Group.Multiset
import Mathlib.Tactic.Abel
import NetworkGateway.Dal.Deadlines

/-! Every resource passed to `own` is in one pair of hands until it is closed. -/

namespace NetworkGateway.Deadlines

open Library.Run

variable {ρ : Type} {kind : ρ → Kind} {s : State ρ}

/-! Where resources are. -/

def Event.passes : Event ρ → Option ρ
  | .passed resource => some resource
  | .returned _ | .rejected _ | .closed | .called _ _ => none

def Call.closes : Call ρ → Option ρ
  | .close resource => some resource
  | .shutdown _ => none

def Event.closes : Event ρ → Option ρ
  | .called call _ => call.closes
  | .passed _ | .returned _ | .rejected _ | .closed => none

/-- The resources passed to `own`, each as often as it was. -/
def passed (log : List (Event ρ)) : Multiset ρ := log.filterMap Event.passes

/-- The resources `close` was called on, each as often as it was. -/
def closedOnes (log : List (Event ρ)) : Multiset ρ := log.filterMap Event.closes

def closedBy (calls : List (Call ρ)) : Multiset ρ := calls.filterMap Call.closes

def Worker.holds : Worker ρ → Multiset ρ
  | .rejecting resource => {resource}
  | .closing calls => closedBy calls
  | .body | .exiting | .exited => 0

def Timer.holds : Timer ρ → Multiset ρ
  | .closing calls => closedBy calls
  | .waiting | .expiring | .expired | .finished => 0

@[simp] theorem passed_append (first second : List (Event ρ)) :
    passed (first ++ second) = passed first + passed second := by
  simp [passed, List.filterMap_append]

@[simp] theorem closedOnes_append (first second : List (Event ρ)) :
    closedOnes (first ++ second) = closedOnes first + closedOnes second := by
  simp [closedOnes, List.filterMap_append]

@[simp] theorem closedOnes_called (call : Call ρ) (raised : Bool) :
    closedOnes [.called call raised] = closedBy [call] := rfl

theorem closedBy_cons (call : Call ρ) (rest : List (Call ρ)) :
    closedBy (call :: rest) = closedBy [call] + closedBy rest := by
  have split : call :: rest = [call] ++ rest := rfl
  rw [split, closedBy, List.filterMap_append, ← Multiset.coe_add]
  rfl

/-- A round closes its resource, once. -/
theorem round_closes (kind : ρ → Kind) (resource : ρ) : (round kind resource).filterMap Call.closes = [resource] := by
  unfold round
  split
  · rfl
  · rfl

theorem rounds_close (kind : ρ → Kind) (resources : List ρ) : closedBy (rounds kind resources) = resources := by
  have each : (rounds kind resources).filterMap Call.closes =
      resources.insertionSort (fun a b => (kind a).key ≤ (kind b).key) := by
    simp [rounds, List.filterMap_flatMap, round_closes]
  rw [closedBy, each]
  exact Multiset.coe_eq_coe.mpr (List.perm_insertionSort _ resources)

/-! Custody. -/

/-- What was passed is closed, retained, or in the hands of one of the two threads. -/
def Custody (log : List (Event ρ)) (retained worker timer : Multiset ρ) : Prop :=
  passed log = closedOnes log + retained + worker + timer

section

variable {log : List (Event ρ)} {retained worker timer : Multiset ρ}

theorem Custody.swap (custody : Custody log retained worker timer) : Custody log retained timer worker :=
  custody.trans (add_right_comm _ _ _)

theorem Custody.passes (custody : Custody log retained 0 timer) (resource : ρ) :
    Custody (log ++ [.passed resource]) retained {resource} timer := by
  have handed : passed [.passed resource] = {resource} := rfl
  have open_still : closedOnes [.passed resource] = 0 := rfl
  rw [Custody, passed_append, closedOnes_append, custody, handed, open_still]
  abel

theorem Custody.returns (custody : Custody log retained worker timer) (resource : ρ) :
    Custody (log ++ [.passed resource, .returned resource]) (retained + {resource}) worker timer := by
  have handed : passed [.passed resource, .returned resource] = {resource} := rfl
  have open_still : closedOnes [.passed resource, .returned resource] = 0 := rfl
  rw [Custody, passed_append, closedOnes_append, custody, handed, open_still]
  abel

theorem Custody.rejects {resource : ρ} (custody : Custody log retained {resource} timer) (raised : Bool) :
    Custody (log ++ [.called (.close resource) raised, .rejected resource]) retained 0 timer := by
  have handed : passed [.called (.close resource) raised, .rejected resource] = 0 := rfl
  have shut : closedOnes [.called (.close resource) raised, .rejected resource] = {resource} := rfl
  rw [Custody, passed_append, closedOnes_append, custody, handed, shut]
  abel

theorem Custody.taken (custody : Custody log retained 0 timer) : Custody (log ++ [.closed]) 0 retained timer := by
  have handed : passed ([.closed] : List (Event ρ)) = 0 := rfl
  have shut : closedOnes ([.closed] : List (Event ρ)) = 0 := rfl
  rw [Custody, passed_append, closedOnes_append, custody, handed, shut]
  abel

theorem Custody.called {call : Call ρ} {rest : List (Call ρ)}
    (custody : Custody log retained (closedBy (call :: rest)) timer) (raised : Bool) :
    Custody (log ++ [.called call raised]) retained (closedBy rest) timer := by
  have handed : passed [.called call raised] = 0 := rfl
  rw [Custody, passed_append, closedOnes_append, custody, handed, closedBy_cons, closedOnes_called]
  abel

end

/-! The order of events. -/

/-- No resource is returned once the deadline is closed. -/
def Ordered (log : List (Event ρ)) : Prop :=
  log.Pairwise (fun earlier later => earlier = .closed → ∀ resource, later ≠ .returned resource)

theorem Ordered.append {log more : List (Event ρ)} (ordered : Ordered log)
    (unreturned : ∀ event ∈ more, ∀ resource, event ≠ .returned resource) : Ordered (log ++ more) := by
  apply List.pairwise_append.mpr
  refine ⟨ordered, ?_, ?_⟩
  · apply List.Pairwise.imp_of_mem (R := fun _ _ => True)
    · intro earlier later _ member _ _
      exact unreturned later member
    · exact List.pairwise_of_forall (fun _ _ => trivial)
  · intro earlier _ later member _
    exact unreturned later member

theorem Ordered.returns {log : List (Event ρ)} (ordered : Ordered log) (unclosed : .closed ∉ log) (resource : ρ) :
    Ordered (log ++ [.passed resource, .returned resource]) := by
  apply List.pairwise_append.mpr
  refine ⟨ordered, ?_, ?_⟩
  · simp
  · intro earlier member later _ closed
    rw [closed] at member
    exact absurd member unclosed

/-! The invariant. -/

def Worker.left : Worker ρ → Prop
  | .closing _ | .exited => True
  | .body | .rejecting _ | .exiting => False

structure Sound (s : State ρ) : Prop where
  custody : Custody s.log s.resources s.worker.holds s.timer.holds
  emptied : s.closed = true → s.resources = []
  flag : s.closed = true ↔ .closed ∈ s.log
  ordered : Ordered s.log
  left : s.worker.left → s.closed = true

theorem start_sound : Sound (State.start : State ρ) where
  custody := rfl
  emptied := fun _ => rfl
  flag := by simp [State.start]
  ordered := List.Pairwise.nil
  left := False.elim

theorem own_sound (sound : Sound s) (body : s.worker = .body) (resource : ρ) : Sound (s.own resource) := by
  have custody := sound.custody
  unfold State.own
  split
  · rw [body] at custody
    refine ⟨custody.passes resource, sound.emptied, ?_, ?_, False.elim⟩
    · simpa using sound.flag
    · apply sound.ordered.append
      simp
  · rename_i unclosed
    have fresh : .closed ∉ s.log := fun member => unclosed (sound.flag.mpr member)
    have retained := custody.returns resource
    refine ⟨?_, fun closed => absurd closed unclosed, ?_, sound.ordered.returns fresh resource, sound.left⟩
    · rw [← Multiset.coe_singleton, Multiset.coe_add] at retained
      exact retained
    · simpa using sound.flag

theorem reject_sound (sound : Sound s) {resource : ρ} (rejecting : s.worker = .rejecting resource) (raised : Bool) :
    Sound { s with worker := .body, log := s.log ++ [.called (.close resource) raised, .rejected resource] } := by
  have custody := sound.custody
  rw [rejecting] at custody
  refine ⟨custody.rejects raised, sound.emptied, ?_, ?_, False.elim⟩
  · simpa using sound.flag
  · apply sound.ordered.append
    simp

theorem takes_ordered (sound : Sound s) : Ordered s.takes.log := by
  apply sound.ordered.append
  simp

theorem takes_flag (s : State ρ) : s.takes.closed = true ↔ .closed ∈ s.takes.log := by
  simp [State.takes]

theorem calls_ordered (sound : Sound s) (call : Call ρ) (raised : Bool) : Ordered (s.calls call raised).log := by
  apply sound.ordered.append
  simp

theorem calls_flag (sound : Sound s) (call : Call ρ) (raised : Bool) :
    (s.calls call raised).closed = true ↔ .closed ∈ (s.calls call raised).log := by
  simpa [State.calls] using sound.flag

theorem step_sound (kind : ρ → Kind) (action : Action ρ) (sound : Sound s) : Sound (step kind action s) := by
  have custody := sound.custody
  unfold step
  split
  · rename_i resource body
    exact own_sound sound body resource
  · rename_i raised resource rejecting
    exact reject_sound sound rejecting raised
  · rename_i _ body
    rw [body] at custody
    exact ⟨custody, sound.emptied, sound.flag, sound.ordered, False.elim⟩
  · rename_i _ exiting
    rw [exiting] at custody
    refine ⟨?_, fun _ => rfl, takes_flag s, takes_ordered sound, fun _ => rfl⟩
    have taken := custody.taken
    rw [← rounds_close kind s.resources] at taken
    exact taken
  · rename_i raised call rest closing
    rw [closing] at custody
    refine ⟨custody.called raised, sound.emptied, calls_flag sound call raised, calls_ordered sound call raised, ?_⟩
    intro _
    apply sound.left
    rw [closing]
    trivial
  · rename_i _ closing
    rw [closing] at custody
    refine ⟨custody, sound.emptied, sound.flag, sound.ordered, ?_⟩
    intro _
    apply sound.left
    rw [closing]
    trivial
  · rename_i waiting
    rw [waiting] at custody
    refine ⟨?_, sound.emptied, sound.flag, sound.ordered, sound.left⟩
    dsimp only
    split
    · exact custody
    · exact custody
  · rename_i expiring
    rw [expiring] at custody
    exact ⟨custody, sound.emptied, sound.flag, sound.ordered, sound.left⟩
  · rename_i expired
    rw [expired] at custody
    refine ⟨?_, fun _ => rfl, takes_flag s, takes_ordered sound, fun _ => rfl⟩
    have taken := custody.swap.taken.swap
    rw [← rounds_close kind s.resources] at taken
    exact taken
  · rename_i raised call rest closing
    rw [closing] at custody
    exact ⟨(custody.swap.called raised).swap, sound.emptied, calls_flag sound call raised,
      calls_ordered sound call raised, sound.left⟩
  · rename_i closing
    rw [closing] at custody
    exact ⟨custody, sound.emptied, sound.flag, sound.ordered, sound.left⟩
  · exact sound

theorem run_sound (kind : ρ → Kind) (actions : List (Action ρ)) : Sound (run (step kind) State.start actions) :=
  run_invariant Sound (fun action _ sound => step_sound kind action sound) start_sound actions

theorem idle_holds {timer : Timer ρ} (idle : timer.idle = true) : timer.holds = 0 := by
  cases timer with
  | waiting => rfl
  | finished => rfl
  | expiring => cases idle
  | expired => cases idle
  | closing calls => cases idle

/-- Once the block was left and no expiry is under way, every resource was closed as often as it was passed. -/
theorem Sound.settled (sound : Sound s) (exited : s.worker = .exited) (idle : s.timer.idle = true) :
    passed s.log = closedOnes s.log := by
  have left : s.worker.left := by
    rw [exited]
    trivial
  have custody := sound.custody
  rw [exited, sound.emptied (sound.left left), idle_holds idle] at custody
  simpa [Custody, Worker.holds] using custody

theorem mem_passed {log : List (Event ρ)} {resource : ρ} : resource ∈ passed log ↔ .passed resource ∈ log := by
  rw [passed, Multiset.mem_coe, List.mem_filterMap]
  constructor
  · intro found
    rcases found with ⟨event, member, same⟩
    cases event with
    | passed other =>
        cases same
        exact member
    | returned other => cases same
    | rejected other => cases same
    | closed => cases same
    | called call raised => cases same
  · intro member
    exact ⟨_, member, rfl⟩

theorem mem_closedOnes {log : List (Event ρ)} {resource : ρ} :
    resource ∈ closedOnes log ↔ ∃ raised, .called (.close resource) raised ∈ log := by
  rw [closedOnes, Multiset.mem_coe, List.mem_filterMap]
  constructor
  · intro found
    rcases found with ⟨event, member, same⟩
    cases event with
    | called call raised =>
        cases call with
        | close other =>
            cases same
            exact ⟨raised, member⟩
        | shutdown other => cases same
    | passed other => cases same
    | returned other => cases same
    | rejected other => cases same
    | closed => cases same
  · intro found
    rcases found with ⟨raised, member⟩
    exact ⟨_, member, rfl⟩

/-- Once the block was left and no expiry is under way, `close` was called on every resource passed to `own`;
none was returned after the deadline was closed, and then none is retained. -/
theorem deadline_leaks_nothing (kind : ρ → Kind) (actions : List (Action ρ)) :
    ((run (step kind) State.start actions).worker = .exited →
      (run (step kind) State.start actions).timer.idle = true →
      ∀ resource, .passed resource ∈ (run (step kind) State.start actions).log →
        ∃ raised, .called (.close resource) raised ∈ (run (step kind) State.start actions).log) ∧
    (∀ before resource after,
      (run (step kind) State.start actions).log = before ++ .returned resource :: after → .closed ∉ before) ∧
    (.closed ∈ (run (step kind) State.start actions).log → (run (step kind) State.start actions).resources = []) := by
  have sound := run_sound kind actions
  refine ⟨?_, ?_, ?_⟩
  · intro exited idle resource handed
    have settled := sound.settled exited idle
    apply mem_closedOnes.mp
    rw [← settled]
    exact mem_passed.mpr handed
  · intro before resource after split closed
    have ordered := sound.ordered
    rw [split] at ordered
    exact (List.pairwise_append.mp ordered).2.2 _ closed _ List.mem_cons_self rfl resource rfl
  · intro closed
    exact sound.emptied (sound.flag.mpr closed)

/-- A socket is registered; the timer expires and takes it while the block registers a second one. -/
def expiry : List (Action (Nat × Kind)) :=
  [.own (1, .socket), .wake, .expire, .timerTakes, .own (2, .sshClient), .timerCalls true, .reject false, .exit,
    .timerCalls true, .workerTakes, .finish, .join]

theorem expiry_leaks_nothing :
    (∃ raised, .called (.close (1, .socket)) raised ∈ (run (step Prod.snd) State.start expiry).log) ∧
    (∃ raised, .called (.close (2, .sshClient)) raised ∈ (run (step Prod.snd) State.start expiry).log) ∧
    .closed ∉ [Event.passed ((1, .socket) : Nat × Kind)] ∧ (run (step Prod.snd) State.start expiry).resources = [] := by
  have closed := deadline_leaks_nothing Prod.snd expiry
  refine ⟨closed.1 rfl rfl (1, .socket) ?_, closed.1 rfl rfl (2, .sshClient) ?_, ?_, closed.2.2 ?_⟩
  · decide
  · decide
  · exact closed.2.1 [.passed (1, .socket)] (1, .socket) ((run (step Prod.snd) State.start expiry).log.drop 2) rfl
  · decide

end NetworkGateway.Deadlines
