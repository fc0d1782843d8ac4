import Mathlib.Algebra.Order.Ring.Rat
import Mathlib.Tactic.Linarith
import NetworkGateway.Library.Surroundings
import NetworkGateway.Dal.Streams
import NetworkGateway.Dal.TelnetClient

/-! A peer that has sent its bytes, as the gateway meets it before the deadline. -/

namespace NetworkGateway

open Library.Interaction Library.Transducer Connectors

structure Peer where
  pieces : List Bytes
  sent : Bytes
  clock : Nat → Rat

/-- Sends succeed; after its last piece the peer closes the connection or stays silent. -/
def peer (closes : Bool) : Surroundings Command Peer where
  answer command s :=
    match command with
    | .monotonic => some (s.clock 0, { s with clock := fun n => s.clock (n + 1) })
    | .expired => some (false, s)
    | .settimeout _ _ => some (.ok (), s)
    | .sendall _ payload => some (.ok (), { s with sent := s.sent ++ payload })
    | .recv _ size =>
        match s.pieces with
        | [] => if closes then some (.ok [], s) else none
        | piece :: rest =>
            if piece.length ≤ size then some (.ok piece, { s with pieces := rest })
            else some (.ok (piece.take size), { s with pieces := piece.drop size :: rest })
    | _ => none

structure At (deadline : Deadline) (pieces : List Bytes) (sent : Bytes) (s : Peer) : Prop where
  pieces_eq : s.pieces = pieces
  sent_eq : s.sent = sent
  early : ∀ n, s.clock n < deadline.endsAt

/-- The deadline is not reached, these bytes are still to arrive, in pieces of any size, and so much has been sent. -/
def Holding (deadline : Deadline) (bytes sent : Bytes) (s : Peer) : Prop :=
  ∃ pieces : List Bytes, pieces.flatten = bytes ∧ (∀ piece ∈ pieces, piece ≠ []) ∧ At deadline pieces sent s

namespace Peer

variable {deadline : Deadline} {closes : Bool} {pieces rest : List Bytes} {sent : Bytes} {stream : Handle}

theorem remaining_returns :
    Program.Returns (peer closes) (At deadline pieces sent) (remaining deadline) (At deadline pieces sent) := by
  intro s held
  have ahead := held.early 0
  have positive : ¬deadline.endsAt - s.clock 0 ≤ 0 := by
    intro ended
    linarith
  refine ⟨deadline.endsAt - s.clock 0, { s with clock := fun n => s.clock (n + 1) }, ?_, ?_⟩
  · change (if deadline.endsAt - s.clock 0 ≤ 0 then Program.raise expiredError
      else (Net.expired >>= fun expired => if expired then Program.raise expiredError
        else pure (deadline.endsAt - s.clock 0)) : Net Rat).play (peer closes) _ = _
    rw [if_neg positive]
    rfl
  · exact ⟨held.pieces_eq, held.sent_eq, fun n => held.early (n + 1)⟩

theorem settimeout_yields (seconds : Rat) :
    Program.Yields (peer closes) (At deadline pieces sent) (Net.settimeout stream seconds) (.ok ())
      (At deadline pieces sent) :=
  fun s held => ⟨s, rfl, held⟩

theorem timed_yields {α : Type} {p : Net α} {outcome : Except Raised α} {post : Peer → Prop}
    (rest : Program.Yields (peer closes) (At deadline pieces sent) p outcome post) :
    Program.Yields (peer closes) (At deadline pieces sent)
      (remaining deadline >>= fun left => Net.settimeout stream left >>= fun _ => p) outcome post := by
  apply remaining_returns.bind
  intro left
  exact (settimeout_yields left).bind rest

theorem timed_stuck {α : Type} {p : Net α} (rest : Program.Stuck (peer closes) (At deadline pieces sent) p) :
    Program.Stuck (peer closes) (At deadline pieces sent)
      (remaining deadline >>= fun left => Net.settimeout stream left >>= fun _ => p) := by
  apply remaining_returns.bind_stuck
  intro left
  exact (settimeout_yields left).bind_stuck rest

theorem sendall_yields (payload : Bytes) :
    Program.Yields (peer closes) (At deadline pieces sent) (Net.sendall stream payload) (.ok ())
      (At deadline pieces (sent ++ payload)) := by
  intro s held
  refine ⟨{ s with sent := s.sent ++ payload }, rfl, held.pieces_eq, ?_, held.early⟩
  rw [held.sent_eq]

theorem send_yields (payload : Bytes) :
    Program.Yields (peer closes) (At deadline pieces sent) (send deadline stream payload) (.ok ())
      (At deadline pieces (sent ++ payload)) :=
  timed_yields (sendall_yields payload)

theorem recv_yields {piece : Bytes} {size : Nat} (fits : piece.length ≤ size) :
    Program.Yields (peer closes) (At deadline (piece :: rest) sent) (Net.recv stream size) (.ok piece)
      (At deadline rest sent) := by
  have answered : Program.Yields (peer closes) (At deadline (piece :: rest) sent)
      (Program.ask (.recv stream size) : Net (Except Raised Bytes)) (.ok (.ok piece)) (At deadline rest sent) := by
    apply Program.Yields.ask
    intro s held
    refine ⟨{ s with pieces := rest }, ?_, rfl, held.sent_eq, held.early⟩
    simp only [peer, held.pieces_eq, fits, if_true]
  exact answered.bind (Program.Yields.done fun _ held => held)

theorem recv_stuck (size : Nat) : Program.Stuck (peer false) (At deadline [] sent) (Net.recv stream size) := by
  apply Program.Stuck.bind
  apply Program.Stuck.ask
  intro s held
  simp only [peer, held.pieces_eq, Bool.false_eq_true, if_false]

/-! Bytes that arrive in any pieces. -/

variable {bytes part more : Bytes} {size : Nat}

theorem holding_yields {α : Type} {p : Net α} {outcome : Except Raised α} {sent' : Bytes}
    (yields : ∀ pieces, Program.Yields (peer closes) (At deadline pieces sent) p outcome (At deadline pieces sent')) :
    Program.Yields (peer closes) (Holding deadline bytes sent) p outcome (Holding deadline bytes sent') := by
  intro s held
  rcases held with ⟨pieces, whole, nonempty, held⟩
  rcases yields pieces s held with ⟨s', played, after⟩
  exact ⟨s', played, pieces, whole, nonempty, after⟩

theorem send_holding (payload : Bytes) :
    Program.Yields (peer closes) (Holding deadline bytes sent) (send deadline stream payload) (.ok ())
      (Holding deadline bytes (sent ++ payload)) :=
  holding_yields fun _ => send_yields payload

variable (stream closes) in
theorem timed_play {α : Type} (p : Net α) {s : Peer} (held : Holding deadline bytes sent s) :
    ∃ s', Holding deadline bytes sent s' ∧
      (remaining deadline >>= fun left => Net.settimeout stream left >>= fun _ => p).play (peer closes) s =
        p.play (peer closes) s' := by
  rcases held with ⟨pieces, whole, nonempty, held⟩
  rcases remaining_returns.continues
    (f := fun left => Net.settimeout stream left >>= fun _ => p) held with ⟨left, middle, between, played⟩
  rcases (settimeout_yields left).continues (f := fun _ => p) between with ⟨s', after, further⟩
  exact ⟨s', ⟨pieces, whole, nonempty, after⟩, played.trans further⟩

variable (stream) in
theorem recv_play {s : Peer} (positive : 0 < size) (present : bytes ≠ []) (held : Holding deadline bytes sent s) :
    ∃ chunk rest s', (Net.recv stream size).play (peer closes) s = some (.ok chunk, s') ∧ chunk ≠ [] ∧
      chunk.length ≤ size ∧ bytes = chunk ++ rest ∧ Holding deadline rest sent s' := by
  rcases held with ⟨pieces, rfl, nonempty, held⟩
  cases pieces with
  | nil => exact absurd rfl present
  | cons piece pieces =>
      have some := nonempty piece List.mem_cons_self
      have others := fun other member => nonempty other (List.mem_cons_of_mem piece member)
      by_cases fits : piece.length ≤ size
      · rcases recv_yields fits s held with ⟨s', played, after⟩
        exact ⟨piece, pieces.flatten, s', played, some, fits, rfl, pieces, rfl, others, after⟩
      · have answered : (peer closes).answer (.recv stream size) s =
            Option.some (.ok (piece.take size), { s with pieces := piece.drop size :: pieces }) := by
          simp only [peer, held.pieces_eq, fits, if_false]
        have asked : Program.Yields (peer closes) (fun t => t = s)
            (Program.ask (.recv stream size) : Net (Except Raised Bytes)) (.ok (.ok (piece.take size)))
            (fun t => t = { s with pieces := piece.drop size :: pieces }) := by
          apply Program.Yields.ask
          intro t same
          rw [same]
          exact ⟨_, answered, rfl⟩
        have received : Program.Yields (peer closes) (fun t => t = s) (Net.recv stream size) (.ok (piece.take size))
            (fun t => t = { s with pieces := piece.drop size :: pieces }) :=
          asked.bind (Program.Yields.done fun _ same => same)
        rcases received s rfl with ⟨_, played, rfl⟩
        refine ⟨piece.take size, (piece.drop size :: pieces).flatten, _, played, ?_, ?_, ?_, piece.drop size :: pieces,
          rfl, ?_, rfl, held.sent_eq, held.early⟩
        · intro empty
          have length := congrArg List.length empty
          rw [List.length_take, List.length_nil] at length
          omega
        · rw [List.length_take]
          omega
        · rw [List.flatten_cons, List.flatten_cons, ← List.append_assoc, List.take_append_drop]
        · intro other member
          rcases List.mem_cons.mp member with rfl | member
          · intro empty
            have length := congrArg List.length empty
            rw [List.length_drop, List.length_nil] at length
            omega
          · exact others other member

theorem split_within {chunk rest : Bytes} (same : part ++ more = chunk ++ rest) (short : chunk.length ≤ part.length) :
    ∃ further, part = chunk ++ further ∧ rest = further ++ more := by
  have starts : chunk <+: part ++ more := ⟨rest, same.symm⟩
  rcases List.prefix_of_prefix_length_le starts (List.prefix_append part more) short with ⟨further, rfl⟩
  refine ⟨further, rfl, ?_⟩
  rw [List.append_assoc] at same
  exact (List.append_cancel_left same).symm

/-- The bytes asked for are received, however they are cut, and none of those behind them. -/
theorem receiveMore_play {data : Bytes} {s : Peer} (enough : data.length + part.length = size)
    (held : Holding deadline (part ++ more) sent s) :
    ∃ read s', (receiveMore deadline stream size data).play (peer closes) s = some (.ok read, s') ∧
      read.1 = data ++ part ∧ Holding deadline more sent s' := by
  induction length : part.length using Nat.strongRecOn generalizing part data s with
  | ind n ih =>
      rw [receiveMore]
      by_cases short : data.length < size
      · rw [dif_pos short]
        have present : part ++ more ≠ [] := by
          intro empty
          rw [(List.append_eq_nil_iff.mp empty).1, List.length_nil] at enough
          omega
        have room : 0 < size - data.length := by omega
        rcases timed_play closes stream (Net.recv stream (size - data.length) >>= fun chunk =>
          if chunk = [] then
            Program.raise (.connector "protocol" "The peer closed before completing the protocol handshake.")
          else receiveMore deadline stream size (data ++ chunk)) held with ⟨middle, between, timed⟩
        rcases recv_play stream room present between with ⟨chunk, rest, after, received, nonempty, small, split, left⟩
        rcases split_within split (by omega) with ⟨further, rfl, rfl⟩
        have positive := List.length_pos_iff.mpr nonempty
        rw [List.length_append] at enough length
        have remaining : (data ++ chunk).length + further.length = size := by
          rw [List.length_append]
          omega
        rcases ih further.length (by omega) remaining left rfl with ⟨read, s', played, value, holds⟩
        refine ⟨read, s', ?_, ?_, holds⟩
        · calc
            _ = _ := timed
            _ = _ := Program.play_bind received
            _ = (receiveMore deadline stream size (data ++ chunk)).play (peer closes) after := by rw [if_neg nonempty]
            _ = _ := played
        · rw [value, List.append_assoc]
      · rw [dif_neg short]
        have done : part = [] := List.length_eq_zero_iff.mp (by omega)
        subst done
        exact ⟨_, s, rfl, (List.append_nil data).symm, held⟩

theorem holding_nil {s : Peer} (held : Holding deadline [] sent s) : At deadline [] sent s := by
  rcases held with ⟨pieces, whole, nonempty, held⟩
  cases pieces with
  | cons piece pieces => exact absurd (List.append_eq_nil_iff.mp whole).1 (nonempty piece List.mem_cons_self)
  | nil => exact held

theorem recv_closed : Program.Yields (peer true) (Holding deadline [] sent) (Net.recv stream size) (.ok [])
    (Holding deadline [] sent) := by
  have answered : Program.Yields (peer true) (Holding deadline [] sent)
      (Program.ask (.recv stream size) : Net (Except Raised Bytes)) (.ok (.ok [])) (Holding deadline [] sent) := by
    apply Program.Yields.ask
    intro t held
    refine ⟨t, ?_, held⟩
    simp only [peer, (holding_nil held).pieces_eq, if_true]
  exact answered.bind (Program.Yields.done fun _ held => held)

variable (closes stream size) in
theorem recv_over {s : Peer} (held : Holding deadline [] sent s) :
    (Net.recv stream size).play (peer closes) s = none ∨
      ∃ s', (Net.recv stream size).play (peer closes) s = some (.ok [], s') := by
  cases closes with
  | false => exact .inl (recv_stuck size s (holding_nil held))
  | true =>
      rcases recv_closed s held with ⟨s', played, -⟩
      exact .inr ⟨s', played⟩

theorem receiveMore_fails {data : Bytes} (few : data.length + bytes.length < size) :
    Program.Fails (peer closes) (Holding deadline bytes sent) (receiveMore deadline stream size data) := by
  induction length : bytes.length using Nat.strongRecOn generalizing bytes data with
  | ind n ih =>
      intro s held read s'
      have short : data.length < size := by omega
      rw [receiveMore, dif_pos short]
      rcases timed_play closes stream (Net.recv stream (size - data.length) >>= fun chunk =>
        if chunk = [] then
          Program.raise (.connector "protocol" "The peer closed before completing the protocol handshake.")
        else receiveMore deadline stream size (data ++ chunk)) held with ⟨middle, between, timed⟩
      rw [timed]
      by_cases present : bytes = []
      · subst present
        rcases recv_over closes stream (size - data.length) between with silent | ⟨after, closed⟩
        · rw [Program.play_bind_none silent]
          exact nofun
        · rw [Program.play_bind closed]
          exact nofun
      · have room : 0 < size - data.length := by omega
        rcases recv_play stream room present between with ⟨chunk, rest, after, received, nonempty, small, split, left⟩
        have positive := List.length_pos_iff.mpr nonempty
        rw [split, List.length_append] at few length
        rw [Program.play_bind received, if_neg nonempty]
        have fewer : (data ++ chunk).length + rest.length < size := by
          rw [List.length_append]
          omega
        exact ih rest.length (by omega) fewer rfl after left read s'

/-! Reads of a fixed size. -/

theorem receiveExact_yields (exact : part.length = size) :
    ∃ read, read.1 = part ∧ Program.Yields (peer closes) (Holding deadline (part ++ more) sent)
      (receiveExact deadline stream size) (.ok read) (Holding deadline more sent) := by
  refine ⟨⟨part, exact.ge⟩, rfl, ?_⟩
  intro s held
  have enough : ([] : Bytes).length + part.length = size := by simpa using exact
  rcases receiveMore_play enough held with ⟨read, s', played, value, holds⟩
  refine ⟨s', ?_, holds⟩
  have same : read = ⟨part, exact.ge⟩ := Subtype.ext value
  rw [← same]
  exact played

theorem receiveExact_fails (few : bytes.length < size) :
    Program.Fails (peer closes) (Holding deadline bytes sent) (receiveExact deadline stream size) := by
  apply receiveMore_fails
  rw [List.length_nil, Nat.zero_add]
  exact few

theorem receiveExact_closed (positive : 0 < size) :
    Program.Yields (peer true) (Holding deadline [] sent) (receiveExact deadline stream size)
      (.error (.connector "protocol" "The peer closed before completing the protocol handshake."))
      (Holding deadline [] sent) := by
  unfold receiveExact
  rw [receiveMore, dif_pos (by rw [List.length_nil]; exact positive)]
  intro s held
  rcases timed_play true stream (Net.recv stream (size - ([] : Bytes).length) >>= fun chunk =>
    if chunk = [] then
      Program.raise (.connector "protocol" "The peer closed before completing the protocol handshake.")
    else receiveMore deadline stream size ([] ++ chunk)) held with ⟨middle, between, timed⟩
  rcases recv_closed middle between with ⟨s', received, left⟩
  refine ⟨s', ?_, left⟩
  rw [timed, Program.play_bind received]
  rfl

theorem receiveExact_stuck (positive : 0 < size) :
    Program.Stuck (peer false) (Holding deadline [] sent) (receiveExact deadline stream size) := by
  unfold receiveExact
  rw [receiveMore, dif_pos (by rw [List.length_nil]; exact positive)]
  intro s held
  apply timed_stuck _ s (holding_nil held)
  exact (recv_stuck _).bind

/-! The negotiator on a connection. -/

theorem sendReply_yields (payload : Option Bytes) :
    Program.Yields (peer closes) (At deadline pieces sent) (Telnet.sendReply stream payload) (.ok ())
      (At deadline pieces (sent ++ payload.getD [])) := by
  cases payload with
  | none =>
      rw [Option.getD_none, List.append_nil]
      exact Program.Yields.done fun _ held => held
  | some bytes => exact (sendall_yields bytes).catching

theorem feed_yields (state : Telnet.State) (bytes : Bytes) :
    Program.Yields (peer closes) (At deadline pieces sent) (Telnet.feed stream state bytes)
      (.ok (Telnet.after state bytes, Telnet.decoded state bytes))
      (At deadline pieces (sent ++ (emitted Telnet.next Telnet.replies state bytes).flatten)) := by
  induction bytes generalizing state sent with
  | nil =>
      rw [emitted_nil, List.flatten_nil, List.append_nil]
      exact Program.Yields.done fun _ held => held
  | cons byte bytes ih =>
      have flat : (Telnet.replies state byte).flatten = (Telnet.react state byte).2.2.getD [] := by
        unfold Telnet.replies
        cases (Telnet.react state byte).2.2 with
        | none => rfl
        | some payload => exact List.append_nil payload
      rw [emitted_cons, List.flatten_append, ← List.append_assoc, flat]
      apply Program.Yields.bind (sendReply_yields (Telnet.react state byte).2.2)
      apply Program.Yields.bind (ih (Telnet.next state byte))
      exact Program.Yields.done fun _ held => held

end Peer

end NetworkGateway
