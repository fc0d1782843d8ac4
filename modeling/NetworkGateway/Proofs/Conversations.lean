import Mathlib.Tactic.Linarith
import NetworkGateway.Library.Conversation
import NetworkGateway.Dal.Streams
import NetworkGateway.Demo.LoopbackPeer

/-! The gateway and a demo proxy on the two ends of a connection, before the deadline of the test. -/

namespace NetworkGateway

open Library.Interaction Library.Conversation Library.Processes

/-- What a demo proxy leaves behind: its events, and the destinations it asks for a connection. -/
inductive Mark where
  | event (text : String)
  | connect (host : String) (port : Nat)
  deriving DecidableEq, Repr

namespace Connectors

/-- The commands of a handshake on `stream`, whose deadline is not reached. -/
def use (deadline : Deadline) (stream : Handle) : (γ : Type) → Command γ → Use UInt8 Mark γ
  | _, .monotonic => .apart (fun now => now < deadline.endsAt)
  | _, .expired => .apart (fun expired => expired = false)
  | _, .settimeout _ _ => .apart (fun answer => answer = .ok ())
  | _, .sendall handle payload => if handle = stream then .send payload (.ok ()) else .apart (fun _ => True)
  | _, .recv handle size => if handle = stream then .receive size .ok else .apart (fun _ => True)
  | _, _ => .apart (fun _ => True)

variable {deadline : Deadline} {stream : Handle} {α : Type} {shut : Bool} {inbox : Bytes} {marks : List Mark}

theorem use_monotonic : use deadline stream _ .monotonic = .apart (fun now => now < deadline.endsAt) := rfl

theorem use_expired : use deadline stream _ .expired = .apart (fun expired => expired = false) := rfl

theorem use_settimeout (seconds : Rat) :
    use deadline stream _ (.settimeout stream seconds) = .apart (fun answer => answer = .ok ()) := rfl

theorem use_recv (size : Nat) : use deadline stream _ (.recv stream size) = .receive size .ok := if_pos rfl

theorem use_sendall (payload : Bytes) : use deadline stream _ (.sendall stream payload) = .send payload (.ok ()) :=
  if_pos rfl

theorem remaining_asks : remaining deadline = .call .monotonic fun now =>
    if deadline.endsAt - now ≤ 0 then Program.raise expiredError
    else .call .expired fun expired => if expired then Program.raise expiredError else .done (.ok (deadline.endsAt - now)) :=
  rfl

theorem unexpired {now : Rat} (ahead : now < deadline.endsAt) : ¬deadline.endsAt - now ≤ 0 := by
  intro finish
  linarith

theorem timed_carries {p : Net α} {process : Process UInt8 Mark Raised α}
    (further : Carries (use deadline stream) p process) :
    Carries (use deadline stream) (remaining deadline >>= fun left => Net.settimeout stream left >>= fun _ => p) process := by
  have able : ∃ now, now < deadline.endsAt := ⟨deadline.endsAt - 1, by linarith⟩
  rw [remaining_asks]
  apply Carries.apart use_monotonic able
  intro now ahead
  beta_reduce
  rw [if_neg (unexpired ahead)]
  apply Carries.apart use_expired ⟨false, rfl⟩
  intro expired same
  subst same
  apply Carries.apart (use_settimeout _) ⟨.ok (), rfl⟩
  intro answer same
  subst same
  exact further

theorem timed_plays {p : Net α} {read sent : Bytes} {outcome : Except Raised α}
    (further : Plays (use deadline stream) p read outcome ([] : List Mark) sent) :
    Plays (use deadline stream) (remaining deadline >>= fun left => Net.settimeout stream left >>= fun _ => p) read outcome
      ([] : List Mark) sent := by
  intro shut inbox marks
  have ahead : deadline.endsAt - 1 < deadline.endsAt := by linarith
  rw [remaining_asks]
  apply Goes.quiet (.apart use_monotonic ahead)
  beta_reduce
  rw [if_neg (unexpired ahead)]
  apply Goes.quiet (.apart use_expired rfl)
  apply Goes.quiet (.apart (use_settimeout _) rfl)
  exact further shut inbox marks

theorem send_uniform (payload : Bytes) : Uniform (use deadline stream) (send deadline stream payload) :=
  ⟨_, timed_carries (.send (use_sendall payload) (.done (.ok ())))⟩

theorem send_plays (payload : Bytes) :
    Plays (use deadline stream) (send deadline stream payload) [] (.ok ()) ([] : List Mark) payload := by
  apply timed_plays
  intro shut inbox marks
  rw [List.append_nil]
  exact .single (.send (use_sendall payload))

def sized (ended : Raised) (size : Nat) (data : Bytes) : Except Raised {data : Bytes // size ≤ data.length} :=
  if enough : size ≤ data.length then .ok ⟨data, enough⟩ else .error ended

theorem receiveExact_uniform (size : Nat) : Uniform (use deadline stream) (receiveExact deadline stream size) := by
  let ended : Raised := .connector "protocol" "The peer closed before completing the protocol handshake."
  have loop : ∀ data : Bytes, data.length ≤ size → Carries (use deadline stream) (receiveMore deadline stream size data)
      (Process.gather (sized ended size) ended (size - data.length) data) := by
    intro data room
    apply gathers _ _ room
    · intro data rest after short fed further finish
      rw [receiveMore, dif_pos short]
      apply timed_carries
      refine .receive (use_recv _) (by omega) after fed ?_ ?_
      · intro piece present fits
        change Carries _ (if piece = [] then _ else _) _
        rw [if_neg present]
        exact further piece present fits
      · rw [finish]
        exact .done (.error ended)
    · intro data full
      rw [receiveMore, dif_neg (by omega)]
      unfold sized
      rw [dif_pos (by omega)]
      exact .done _
  exact ⟨_, loop [] (Nat.zero_le size)⟩

theorem receiveMore_full {size : Nat} {data : Bytes} (enough : size ≤ data.length) :
    receiveMore deadline stream size data = .done (.ok ⟨data, enough⟩) := by
  rw [receiveMore, dif_neg (Nat.not_lt_of_le enough)]
  rfl

theorem receiveExact_plays {size : Nat} {part : Bytes} (exact : part.length = size) :
    Plays (use deadline stream) (receiveExact deadline stream size) part (.ok ⟨part, exact.ge⟩) ([] : List Mark) [] := by
  cases part with
  | nil =>
      have done : receiveExact deadline stream size = .done (.ok ⟨[], exact.ge⟩) := receiveMore_full exact.ge
      rw [done]
      exact .done _
  | cons byte part =>
      unfold receiveExact
      rw [receiveMore, dif_pos (by rw [← exact]; exact Nat.zero_lt_succ _)]
      apply timed_plays
      intro shut inbox marks
      have fits : (byte :: part).length ≤ size - ([] : Bytes).length := exact.le
      apply Goes.quiet (.receive (use_recv _) (List.cons_ne_nil byte part) fits)
      change Goes _ shut ⟨if byte :: part = [] then
        Program.raise (.connector "protocol" "The peer closed before completing the protocol handshake.")
        else receiveMore deadline stream size (byte :: part), inbox, marks⟩ _ _
      rw [if_neg (List.cons_ne_nil byte part), receiveMore_full exact.ge, List.append_nil]
      exact .stay _

section Goes

variable {β : Type} {shut : Bool} {inbox : Bytes} {marks : List Mark} {last : Party (Net β) UInt8 Mark} {sent : Bytes}

theorem receiveExact_goes {size : Nat} {f : {data : Bytes // size ≤ data.length} → Net β} (part inbox : Bytes)
    (exact : part.length = size) (further : Goes (Turn (use deadline stream)) shut ⟨f ⟨part, exact.ge⟩, inbox, marks⟩ last sent) :
    Goes (Turn (use deadline stream)) shut ⟨receiveExact deadline stream size >>= f, part ++ inbox, marks⟩ last sent :=
  (receiveExact_plays exact).reads inbox further

theorem send_goes {f : Unit → Net β} (payload : Bytes) :
    Goes (Turn (use deadline stream)) shut ⟨send deadline stream payload >>= f, inbox, marks⟩ ⟨f (), inbox, marks⟩ payload := by
  have goes : Goes (Turn (use deadline stream)) shut ⟨send deadline stream payload >>= f, [] ++ inbox, marks⟩
      ⟨f (), inbox, marks ++ []⟩ payload := (send_plays payload).further inbox marks
  rw [List.append_nil] at goes
  exact goes

end Goes

end Connectors

/-! The proxy. -/

namespace LoopbackPeer

/-- The commands of a handler, where `network` tells which connections to a destination are accepted. -/
def use (network : String → Nat → Bool) : (γ : Type) → Command γ → Use UInt8 Mark γ
  | _, .recv size => .receive size .ok
  | _, .sendall payload => .send payload (.ok ())
  | _, .connect host port => .mark (.connect host port) (if network host port then .ok () else .error .os)
  | _, .event text => .mark (.event text) ()

variable {network : String → Nat → Bool}

theorem sendall_uniform (payload : Bytes) : Uniform (use network) (sendall payload) :=
  .send rfl (.done (.ok ()))

theorem sendall_plays (payload : Bytes) : Plays (use network) (sendall payload) [] (.ok ()) [] payload := by
  intro shut inbox marks
  rw [List.append_nil]
  exact .single (.send rfl)

theorem event_uniform (text : String) : Uniform (use network) (event text) := .mark rfl (.done (.ok ()))

theorem event_plays (text : String) : Plays (use network) (event text) [] (.ok ()) [.event text] [] :=
  fun _ _ _ => .single (.mark rfl)

def connected (network : String → Nat → Bool) (host : String) (port : Nat) : Except Raised Unit :=
  if network host port then .ok () else .error .os

theorem connect_uniform (host : String) (port : Nat) : Uniform (use network) (connect host port) :=
  .mark rfl (.done (connected network host port))

theorem connect_plays (host : String) (port : Nat) :
    Plays (use network) (connect host port) [] (connected network host port) [.connect host port] [] :=
  fun _ _ _ => .single (.mark rfl)

theorem exact_uniform (size : Nat) : Uniform (use network) (exact size) := by
  have loop : ∀ data : Bytes, data.length ≤ size → Carries (use network) (exactMore size data)
      (Process.gather (Connectors.sized Raised.eof size) Raised.eof (size - data.length) data) := by
    intro data room
    apply gathers _ _ room
    · intro data rest after short fed further finish
      rw [exactMore, dif_pos short]
      refine .receive rfl (by omega) after fed ?_ ?_
      · intro piece present fits
        change Carries _ (if piece = [] then _ else _) _
        rw [if_neg present]
        exact further piece present fits
      · rw [finish]
        exact .done (.error Raised.eof)
    · intro data full
      rw [exactMore, dif_neg (by omega)]
      unfold Connectors.sized
      rw [dif_pos (by omega)]
      exact .done _
  exact ⟨_, loop [] (Nat.zero_le size)⟩

theorem exactMore_full {size : Nat} {data : Bytes} (enough : size ≤ data.length) :
    exactMore size data = .done (.ok ⟨data, enough⟩) := by
  rw [exactMore, dif_neg (Nat.not_lt_of_le enough)]
  rfl

theorem exact_plays {size : Nat} {part : Bytes} (length : part.length = size) :
    Plays (use network) (exact size) part (.ok ⟨part, length.ge⟩) [] [] := by
  cases part with
  | nil =>
      have done : exact size = .done (.ok ⟨[], length.ge⟩) := exactMore_full length.ge
      rw [done]
      exact .done _
  | cons byte part =>
      unfold exact
      rw [exactMore, dif_pos (by rw [← length]; exact Nat.zero_lt_succ _)]
      intro shut inbox marks
      have fits : (byte :: part).length ≤ size - ([] : Bytes).length := length.le
      apply Goes.quiet (.receive rfl (List.cons_ne_nil byte part) fits)
      change Goes _ shut ⟨if byte :: part = [] then Program.raise Raised.eof else exactMore size (byte :: part), inbox, marks⟩ _ _
      rw [if_neg (List.cons_ne_nil byte part), exactMore_full length.ge, List.append_nil]
      exact .stay _

variable {Token : Type} {N : Libraries Token}

theorem destination_uniform (host : String) (port : Nat) : Uniform (use network) (destination N host port) := by
  apply Uniform.bind (.done _)
  intro host
  apply Uniform.bind (.done _)
  intro _
  apply (connect_uniform host port).bind
  intro _
  exact (event_uniform _).bind fun _ => .done _

theorem reach_uniform (host : String) (port : Nat) (unreached reached : Bytes) :
    Uniform (use network) (reach N host port unreached reached) := by
  apply Uniform.bind ((destination_uniform host port).andThen fun _ => .done _)
  intro target
  cases target with
  | error raised =>
      dsimp only
      split
      · exact (sendall_uniform _).bind fun _ => .done _
      · exact .done _
  | ok target => exact (sendall_uniform _).bind fun _ => .done _

/-! Destinations. -/

/-- What `destination` comes to. -/
def attempt (N : Libraries Token) (network : String → Nat → Bool) (host : String) (port : Nat) :
    Except Raised (String × Nat) :=
  match loopback N host with
  | .ok address => if network address port then .ok (address, port) else .error .os
  | .error raised => .error raised

def visits (N : Libraries Token) (network : String → Nat → Bool) (host : String) (port : Nat) : List Mark :=
  match loopback N host with
  | .ok address => .connect address port :: if network address port then [.event "destination_connected"] else []
  | .error _ => []

theorem destination_plays (host : String) {port : Nat} (inRange : 1 ≤ port ∧ port ≤ 65535) :
    Plays (use network) (destination N host port) [] (attempt N network host port) (visits N network host port) [] := by
  have valid : (port < 1 || 65535 < port) = false := by
    rw [Bool.or_eq_false_iff, decide_eq_false_iff_not, decide_eq_false_iff_not]
    omega
  unfold destination attempt visits
  rw [valid]
  cases loopback N host with
  | error raised => exact .done _
  | ok address =>
      dsimp only
      have asked : Plays (use network) (connect address port) [] (connected network address port)
          [.connect address port] [] := connect_plays address port
      unfold connected at asked
      cases accepted : network address port with
      | true =>
          rw [accepted] at asked
          exact asked.bind ((event_plays "destination_connected").bind (.done _))
      | false =>
          rw [accepted] at asked
          exact asked.bind_error

theorem attempt_failed {host : String} {port : Nat} {raised : Raised} (failed : attempt N network host port = .error raised) :
    (raised.isValue || raised.isOs) = true := by
  unfold attempt loopback at failed
  split at failed
  · split at failed
    · cases failed
    · cases failed
      rfl
  · rename_i refused
    cases failed
    split at refused
    · cases refused
    · split at refused
      · cases refused
        rfl
      · split at refused
        · cases refused
        · cases refused
          rfl

theorem reach_plays (host : String) {port : Nat} (inRange : 1 ≤ port ∧ port ≤ 65535) (unreached reached : Bytes) :
    Plays (use network) (reach N host port unreached reached) [] (.ok (attempt N network host port).toOption)
      (visits N network host port) (if (attempt N network host port).toOption.isSome then reached else unreached) := by
  have tried : Plays (use network) (destination N host port).settle [] (.ok (attempt N network host port))
      (visits N network host port) [] := (destination_plays host inRange).settle
  cases attempted : attempt N network host port with
  | error raised =>
      rw [attempted] at tried
      have answered : Plays (use network) (if raised.isValue || raised.isOs then (do
          sendall unreached
          return none) else Program.raise raised : Peer Served) [] (.ok none) [] unreached := by
        rw [attempt_failed attempted, if_pos rfl]
        exact (sendall_plays unreached).last rfl
      exact tried.quietly answered
  | ok target =>
      rw [attempted] at tried
      have answered : Plays (use network) (do
          sendall reached
          return some target : Peer Served) [] (.ok (some target)) [] reached := (sendall_plays reached).last rfl
      exact tried.quietly answered

section Goes

variable {β : Type} {shut : Bool} {marks : List Mark} {last : Party (Peer β) UInt8 Mark} {sent : Bytes}

theorem exact_goes {size : Nat} {f : {data : Bytes // size ≤ data.length} → Peer β} (part inbox : Bytes)
    (length : part.length = size) (further : Goes (Turn (use network)) shut ⟨f ⟨part, length.ge⟩, inbox, marks⟩ last sent) :
    Goes (Turn (use network)) shut ⟨exact size >>= f, part ++ inbox, marks⟩ last sent :=
  (exact_plays length).reads inbox further

theorem sendall_goes {f : Unit → Peer β} (payload inbox : Bytes) :
    Goes (Turn (use network)) shut ⟨sendall payload >>= f, inbox, marks⟩ ⟨f (), inbox, marks⟩ payload := by
  have goes : Goes (Turn (use network)) shut ⟨sendall payload >>= f, [] ++ inbox, marks⟩ ⟨f (), inbox, marks ++ []⟩ payload :=
    (sendall_plays payload).further inbox marks
  rw [List.append_nil] at goes
  exact goes

end Goes

end LoopbackPeer

end NetworkGateway
