import NetworkGateway.Library.Cuts
import NetworkGateway.Proofs.Peers

/-! When the verdict on a login prompt does not depend on how the peer's bytes were cut. -/

namespace NetworkGateway.Connectors

open Library.Interaction Library.Transducer Library.Cuts

variable {pattern : Bytes → Bool} {negotiator : Option Telnet.State} {deadline : Deadline} {stream : Handle}

/-! The verdict on what has arrived so far. -/

def received (negotiator : Option Telnet.State) (bytes : Bytes) : Bytes :=
  match negotiator with
  | none => bytes
  | some state => Telnet.decoded state bytes

def negotiatorAfter (negotiator : Option Telnet.State) (bytes : Bytes) : Option Telnet.State :=
  negotiator.map (fun state => Telnet.after state bytes)

theorem received_append (first second : Bytes) :
    received negotiator (first ++ second) =
      received negotiator first ++ received (negotiatorAfter negotiator first) second := by
  cases negotiator with
  | none => rfl
  | some state => exact emitted_append Telnet.next Telnet.data state first second

theorem negotiatorAfter_append (first second : Bytes) :
    negotiatorAfter negotiator (first ++ second) = negotiatorAfter (negotiatorAfter negotiator first) second := by
  cases negotiator with
  | none => rfl
  | some state => exact congrArg some List.foldl_append

def oversize : Raised := .connector "protocol" "The login prompt exceeded the allowed response size."

def rejection : Raised :=
  .connector "device_auth" "The remote login was rejected or the remote connection closed."

/-- `none`: still waiting. -/
def verdictAt (pattern : Bytes → Bool) (negotiator : Option Telnet.State) (bytes : Bytes) :
    Option (Except Raised Unit) :=
  if 16384 < bytes.length then some (.error oversize)
  else if loginRejected (received negotiator bytes) then some (.error rejection)
  else if pattern (received negotiator bytes) then some (.ok ())
  else none

def settled (pattern : Bytes → Bool) (negotiator : Option Telnet.State) (bytes : Bytes) : Bool :=
  (verdictAt pattern negotiator bytes).isSome

/-- The outcome of `read_prompt` when it stops at these bytes. -/
def outcomeAt (pattern : Bytes → Bool) (negotiator : Option Telnet.State) (bytes : Bytes) :
    Except Raised (Option Telnet.State × Bytes) :=
  match verdictAt pattern negotiator bytes with
  | some (.error raised) => .error raised
  | some (.ok _) | none => .ok (negotiatorAfter negotiator bytes, received negotiator bytes)

/-! Runs of `read_prompt` on a cut stream. -/

theorem negotiated_yields {closes : Bool} {pieces : List Bytes} {sent : Bytes} (chunk : Bytes) :
    ∃ sent', Program.Yields (peer closes) (At deadline pieces sent) (negotiated stream negotiator chunk)
      (.ok (negotiatorAfter negotiator chunk, received negotiator chunk)) (At deadline pieces sent') := by
  cases negotiator with
  | none => exact ⟨sent, Program.Yields.done fun _ held => held⟩
  | some state => exact ⟨_, (Peer.feed_yields state chunk).bind (Program.Yields.done fun _ held => held)⟩

variable (stream pattern negotiator) in
/-- One turn of the loop of `read_prompt` on a piece. -/
theorem readOn_piece (closes : Bool) {rest : List Bytes} {sent : Bytes} (seen : Bytes) {piece : Bytes} {s : Peer}
    (present : piece ≠ []) (short : piece.length ≤ 1024) (held : At deadline (piece :: rest) sent s) :
    ∃ sent' s', At deadline rest sent' s' ∧
      (readOn deadline stream pattern (negotiatorAfter negotiator seen) (received negotiator seen) seen.length).play
          (peer closes) s =
        if settled pattern negotiator (seen ++ piece) then some (outcomeAt pattern negotiator (seen ++ piece), s')
        else (readOn deadline stream pattern (negotiatorAfter negotiator (seen ++ piece))
          (received negotiator (seen ++ piece)) (seen ++ piece).length).play (peer closes) s' := by
  rw [readOn]
  rcases Peer.remaining_returns.continues held with ⟨left, s₁, held₁, played₁⟩
  rcases (Peer.settimeout_yields left).continues held₁ with ⟨s₂, held₂, played₂⟩
  rcases (Peer.recv_yields short).continues held₂ with ⟨s₃, held₃, played₃⟩
  rw [played₁, played₂, played₃, if_neg present, ← List.length_append]
  unfold settled outcomeAt verdictAt
  by_cases large : 16384 < (seen ++ piece).length
  · rw [if_pos large, if_pos large]
    exact ⟨sent, s₃, held₃, rfl⟩
  · rw [if_neg large, if_neg large]
    rcases negotiated_yields piece with ⟨sent', yields⟩
    rcases yields.continues held₃ with ⟨s₄, held₄, played₄⟩
    refine ⟨sent', s₄, held₄, ?_⟩
    rw [played₄]
    simp only [← received_append, ← negotiatorAfter_append]
    by_cases refused : loginRejected (received negotiator (seen ++ piece)) = true
    · rw [if_pos refused, if_pos refused]
      rfl
    · rw [if_neg refused, if_neg refused]
      by_cases found : pattern (received negotiator (seen ++ piece)) = true
      · rw [if_pos found, if_pos found]
        rfl
      · rw [if_neg found, if_neg found]
        rfl

variable (stream) in
theorem readOn_stop (closes : Bool) {pieces rest : List Bytes} {whole seen read : Bytes} {sent : Bytes} {s : Peer}
    (cut : Cut 1024 whole pieces) (held : At deadline pieces sent s)
    (stopped : stop (settled pattern negotiator) seen pieces = some (read, rest)) :
    ∃ s', (readOn deadline stream pattern (negotiatorAfter negotiator seen) (received negotiator seen) seen.length).play
      (peer closes) s = some (outcomeAt pattern negotiator read, s') := by
  induction pieces generalizing whole seen sent s with
  | nil => cases stopped
  | cons piece pieces ih =>
      rcases cut.uncons with ⟨present, short, later, rfl, further⟩
      rcases readOn_piece pattern negotiator stream closes seen present short held with ⟨sent', s', held', played⟩
      rw [played]
      by_cases beyond : settled pattern negotiator (seen ++ piece) = true
      · rw [stop_here beyond] at stopped
        cases stopped
        exact ⟨s', if_pos beyond⟩
      · rw [stop, if_neg beyond] at stopped
        rw [if_neg beyond]
        exact ih further held' stopped

theorem readOn_waits {pieces : List Bytes} {whole seen sent : Bytes} {s : Peer} (cut : Cut 1024 whole pieces)
    (held : At deadline pieces sent s) (unstopped : stop (settled pattern negotiator) seen pieces = none) :
    (readOn deadline stream pattern (negotiatorAfter negotiator seen) (received negotiator seen) seen.length).play
      (peer false) s = none := by
  induction pieces generalizing whole seen sent s with
  | nil =>
      rw [readOn]
      exact Peer.timed_stuck (Program.Stuck.bind (Peer.recv_stuck 1024)) s held
  | cons piece pieces ih =>
      rcases cut.uncons with ⟨present, short, later, rfl, further⟩
      rcases readOn_piece pattern negotiator stream false seen present short held with ⟨sent', s', held', played⟩
      rw [played]
      by_cases beyond : settled pattern negotiator (seen ++ piece) = true
      · rw [stop_here beyond] at unstopped
        cases unstopped
      · rw [stop, if_neg beyond] at unstopped
        rw [if_neg beyond]
        exact ih further held' unstopped

/-- What a peer that sends these pieces and then waits makes of `read_prompt`: `none` when that waits,
too, before its deadline. -/
def verdict (deadline : Deadline) (stream : Handle) (pattern : Bytes → Bool) (negotiator : Option Telnet.State)
    (pieces : List Bytes) (clock : Nat → Rat) : Option (Except Raised Unit) :=
  ((readPrompt deadline stream pattern negotiator).play (peer false) ⟨pieces, [], clock⟩).map
    (fun played => played.1.map (fun _ => ()))

/-- The verdict on a cut is the one at the first piece that settles it. -/
def verdictOf (pattern : Bytes → Bool) (negotiator : Option Telnet.State) (pieces : List Bytes) :
    Option (Except Raised Unit) :=
  match stop (settled pattern negotiator) [] pieces with
  | some (read, _) => verdictAt pattern negotiator read
  | none => none

variable (stream) in
theorem verdict_eq {pieces : List Bytes} {whole : Bytes} {clock : Nat → Rat} (cut : Cut 1024 whole pieces)
    (early : ∀ n, clock n < deadline.endsAt) :
    verdict deadline stream pattern negotiator pieces clock = verdictOf pattern negotiator pieces := by
  have held : At deadline pieces [] ⟨pieces, [], clock⟩ := ⟨rfl, rfl, early⟩
  have begins : readPrompt deadline stream pattern negotiator =
      readOn deadline stream pattern (negotiatorAfter negotiator []) (received negotiator []) ([] : Bytes).length := by
    cases negotiator <;> rfl
  unfold verdict verdictOf
  rw [begins]
  cases stopped : stop (settled pattern negotiator) [] pieces with
  | none =>
      rw [readOn_waits cut held stopped]
      rfl
  | some result =>
      rcases readOn_stop stream false cut held stopped with ⟨s', played⟩
      have beyond := (stop_some cut stopped).1
      rw [played]
      unfold settled at beyond
      unfold outcomeAt
      cases at_end : verdictAt pattern negotiator result.1 with
      | none =>
          rw [at_end] at beyond
          cases beyond
      | some verdict => cases verdict <;> simp [at_end] <;> rfl

/-! Prompts and rejections in growing prefixes. -/

theorem loginRejected_append {data : Bytes} (more : Bytes) (refused : loginRejected data = true) :
    loginRejected (data ++ more) = true := by
  unfold loginRejected at refused ⊢
  rw [List.any_eq_true] at refused ⊢
  rcases refused with ⟨phrase, member, found⟩
  refine ⟨phrase, member, ?_⟩
  rw [Bytes.upper, List.map_append]
  exact Bytes.contains_append _ found

def rejectedAt (negotiator : Option Telnet.State) (bytes : Bytes) : Bool := loginRejected (received negotiator bytes)

theorem rejectedAt_extends {part whole : Bytes} (starts : part <+: whole) (refused : rejectedAt negotiator part = true) :
    rejectedAt negotiator whole = true := by
  rcases starts with ⟨more, rfl⟩
  unfold rejectedAt
  rw [received_append]
  exact loginRejected_append _ refused

/-- The bytes end in the prompt, within the allowed size and without a rejection. -/
structure Prompted (pattern : Bytes → Bool) (negotiator : Option Telnet.State) (bytes : Bytes) : Prop where
  small : bytes.length ≤ 16384
  accepted : rejectedAt negotiator bytes = false
  found : pattern (received negotiator bytes) = true

theorem verdictAt_large {bytes : Bytes} (large : 16384 < bytes.length) :
    verdictAt pattern negotiator bytes = some (.error oversize) := if_pos large

theorem verdictAt_rejected {bytes : Bytes} (small : bytes.length ≤ 16384) (refused : rejectedAt negotiator bytes = true) :
    verdictAt pattern negotiator bytes = some (.error rejection) := by
  unfold verdictAt
  rw [if_neg (by omega)]
  exact if_pos refused

theorem verdictAt_accepted {bytes : Bytes} (small : bytes.length ≤ 16384) (accepted : rejectedAt negotiator bytes = false) :
    verdictAt pattern negotiator bytes = if pattern (received negotiator bytes) then some (.ok ()) else none := by
  unfold verdictAt
  rw [if_neg (by omega)]
  exact if_neg (by simp [rejectedAt] at accepted; simp [accepted])

theorem verdictAt_prompted {bytes : Bytes} :
    verdictAt pattern negotiator bytes = some (.ok ()) ↔ Prompted pattern negotiator bytes := by
  constructor
  · intro recognised
    by_cases small : bytes.length ≤ 16384
    · cases refused : rejectedAt negotiator bytes with
      | true =>
          rw [verdictAt_rejected small refused] at recognised
          cases recognised
      | false =>
          rw [verdictAt_accepted small refused] at recognised
          refine ⟨small, refused, ?_⟩
          split at recognised
          · assumption
          · cases recognised
    · rw [verdictAt_large (by omega)] at recognised
      cases recognised
  · intro prompted
    rw [verdictAt_accepted prompted.small prompted.accepted, if_pos prompted.found]

theorem settled_before {part whole : Bytes} (prompted : Prompted pattern negotiator whole) (starts : part <+: whole)
    (beyond : settled pattern negotiator part = true) : verdictAt pattern negotiator part = some (.ok ()) := by
  have small := starts.length_le.trans prompted.small
  have accepted : rejectedAt negotiator part = false := by
    rw [← Bool.not_eq_true]
    intro refused
    have later := rejectedAt_extends starts refused
    rw [prompted.accepted] at later
    cases later
  unfold settled at beyond
  rw [verdictAt_accepted small accepted] at beyond ⊢
  split at beyond
  · rw [if_pos ‹_›]
  · cases beyond

theorem settled_prompted {bytes : Bytes} (prompted : Prompted pattern negotiator bytes) :
    settled pattern negotiator bytes = true := by
  unfold settled
  rw [verdictAt_prompted.mpr prompted]
  rfl

/-! Streams on which every cut agrees. -/

section Cuts

variable {whole : Bytes} {pieces rest : List Bytes} {read : Bytes}

theorem verdictOf_some (stopped : stop (settled pattern negotiator) [] pieces = some (read, rest)) :
    verdictOf pattern negotiator pieces = verdictAt pattern negotiator read := by
  unfold verdictOf
  rw [stopped]

theorem verdictOf_none (unstopped : stop (settled pattern negotiator) [] pieces = none) :
    verdictOf pattern negotiator pieces = none := by
  unfold verdictOf
  rw [unstopped]

theorem read_prefix (cut : Cut 1024 whole pieces)
    (stopped : stop (settled pattern negotiator) [] pieces = some (read, rest)) :
    read ≠ [] ∧ read <+: whole ∧ settled pattern negotiator read = true := by
  rcases stop_some cut stopped with ⟨beyond, part, later, present, rfl, rfl, -⟩
  exact ⟨present, List.prefix_append _ later, beyond⟩

/-- A stream that settles the verdict at its end settles it in every cut. -/
theorem stops (cut : Cut 1024 whole pieces) (present : whole ≠ []) (beyond : settled pattern negotiator whole = true) :
    ∃ read rest, stop (settled pattern negotiator) [] pieces = some (read, rest) := by
  cases stopped : stop (settled pattern negotiator) [] pieces with
  | some result => exact ⟨result.1, result.2, rfl⟩
  | none =>
      have open_end := stop_none cut present stopped
      rw [List.nil_append, beyond] at open_end
      cases open_end

theorem verdictOf_prompted (prompted : Prompted pattern negotiator whole) (cut : Cut 1024 whole pieces) :
    verdictOf pattern negotiator pieces = if whole = [] then none else some (.ok ()) := by
  by_cases empty : whole = []
  · rw [if_pos empty]
    apply verdictOf_none
    apply stop_never cut
    intro part present starts
    rw [empty, List.prefix_nil] at starts
    exact absurd starts present
  · rw [if_neg empty]
    rcases stops cut empty (settled_prompted prompted) with ⟨read, rest, stopped⟩
    rcases read_prefix cut stopped with ⟨-, starts, beyond⟩
    rw [verdictOf_some stopped]
    exact settled_before prompted starts beyond

theorem verdictOf_stretch {part later : Bytes} (present : part ≠ []) (long : 1023 ≤ later.length)
    (stretch : ∀ more, more <+: later.take 1023 → Prompted pattern negotiator (part ++ more))
    (cut : Cut 1024 (part ++ later) pieces) : verdictOf pattern negotiator pieces = some (.ok ()) := by
  have halting : ∀ more, more <+: later.take (1024 - 1) → settled pattern negotiator ([] ++ part ++ more) = true :=
    fun more starts => settled_prompted (stretch more starts)
  rcases stop_within present cut (by omega) halting with ⟨read, rest, stopped, starts⟩
  rcases read_prefix cut stopped with ⟨-, -, beyond⟩
  rw [verdictOf_some stopped]
  exact settled_before (stretch _ List.prefix_rfl) starts beyond

theorem verdictAt_unprompted (unprompted : ∀ part, part ≠ [] → part <+: whole → ¬Prompted pattern negotiator part)
    {part : Bytes} (present : part ≠ []) (starts : part <+: whole) (small : part.length ≤ 16384)
    (beyond : settled pattern negotiator part = true) :
    verdictAt pattern negotiator part = some (.error rejection) ∧ rejectedAt negotiator part = true := by
  cases refused : rejectedAt negotiator part with
  | true => exact ⟨verdictAt_rejected small refused, rfl⟩
  | false =>
      unfold settled at beyond
      rw [verdictAt_accepted small refused] at beyond
      split at beyond
      · rename_i found
        exact absurd ⟨small, refused, found⟩ (unprompted part present starts)
      · cases beyond

variable (pattern) in
theorem settled_rejected {bytes : Bytes} (refused : rejectedAt negotiator bytes = true) :
    settled pattern negotiator bytes = true := by
  unfold settled
  by_cases small : bytes.length ≤ 16384
  · rw [verdictAt_rejected small refused]
    rfl
  · rw [verdictAt_large (by omega)]
    rfl

theorem rejectedAt_nil : rejectedAt negotiator [] = false := by
  have empty : received negotiator [] = [] := by cases negotiator <;> rfl
  unfold rejectedAt
  rw [empty]
  decide +kernel

theorem verdictOf_small (unprompted : ∀ part, part ≠ [] → part <+: whole → ¬Prompted pattern negotiator part)
    (small : whole.length ≤ 16384) (cut : Cut 1024 whole pieces) :
    verdictOf pattern negotiator pieces = if rejectedAt negotiator whole then some (.error rejection) else none := by
  cases refused : rejectedAt negotiator whole with
  | true =>
      have present : whole ≠ [] := by
        rintro rfl
        rw [rejectedAt_nil] at refused
        cases refused
      rcases stops cut present (settled_rejected pattern refused) with ⟨read, rest, stopped⟩
      rcases read_prefix cut stopped with ⟨nonempty, starts, beyond⟩
      rw [verdictOf_some stopped]
      exact (verdictAt_unprompted unprompted nonempty starts (starts.length_le.trans small) beyond).1
  | false =>
      apply verdictOf_none
      apply stop_never cut
      intro part present starts
      rw [← Bool.not_eq_true]
      intro beyond
      rw [List.nil_append] at beyond
      have early := (verdictAt_unprompted unprompted present starts (starts.length_le.trans small) beyond).2
      have late := rejectedAt_extends starts early
      rw [refused] at late
      cases late

theorem verdictOf_early (unprompted : ∀ part, part ≠ [] → part <+: whole → ¬Prompted pattern negotiator part)
    (large : 16384 < whole.length) (early : rejectedAt negotiator (whole.take 15361) = true)
    (cut : Cut 1024 whole pieces) : verdictOf pattern negotiator pieces = some (.error rejection) := by
  have present : whole.take 15361 ≠ [] := by
    intro empty
    rw [empty, rejectedAt_nil] at early
    cases early
  have halting : ∀ more, more <+: (whole.drop 15361).take (1024 - 1) →
      settled pattern negotiator ([] ++ whole.take 15361 ++ more) = true :=
    fun more _ => settled_rejected pattern (rejectedAt_extends (List.prefix_append _ more) early)
  have split : Cut 1024 (whole.take 15361 ++ whole.drop 15361) pieces := by
    rw [List.take_append_drop]
    exact cut
  have room : 1024 ≤ (whole.drop 15361).length + 1 := by
    rw [List.length_drop]
    omega
  rcases stop_within present split room halting with ⟨read, rest, stopped, reach⟩
  rcases read_prefix cut stopped with ⟨nonempty, starts, beyond⟩
  have small := reach.length_le
  rw [List.nil_append, List.length_append, List.length_take, List.length_take] at small
  rw [verdictOf_some stopped]
  exact (verdictAt_unprompted unprompted nonempty starts (by omega) beyond).1

theorem verdictOf_large (unprompted : ∀ part, part ≠ [] → part <+: whole → ¬Prompted pattern negotiator part)
    (large : 16384 < whole.length) (accepted : rejectedAt negotiator (whole.take 16384) = false)
    (cut : Cut 1024 whole pieces) : verdictOf pattern negotiator pieces = some (.error oversize) := by
  have present : whole ≠ [] := by
    rintro rfl
    cases large
  have beyond : settled pattern negotiator whole = true := by
    unfold settled
    rw [verdictAt_large large]
    rfl
  rcases stops cut present beyond with ⟨read, rest, stopped⟩
  rcases read_prefix cut stopped with ⟨nonempty, starts, ended⟩
  rw [verdictOf_some stopped]
  by_cases small : read.length ≤ 16384
  · have refused := (verdictAt_unprompted unprompted nonempty starts small ended).2
    have within : read <+: whole.take 16384 := List.prefix_take_iff.mpr ⟨starts, small⟩
    have late := rejectedAt_extends within refused
    rw [accepted] at late
    cases late
  · exact verdictAt_large (by omega)

end Cuts

/-! Every cut agrees exactly on these. -/

/-- The prompt stands at the end of all the bytes, or at the end of each of 1024 prefixes in a row; or
it stands at the end of no prefix, and the size limit is not reached, or only long after a rejection,
or before any. -/
def Steady (pattern : Bytes → Bool) (negotiator : Option Telnet.State) (whole : Bytes) : Prop :=
  Prompted pattern negotiator whole ∨
  (∃ part later, whole = part ++ later ∧ part ≠ [] ∧ 1023 ≤ later.length ∧
    ∀ more, more <+: later.take 1023 → Prompted pattern negotiator (part ++ more)) ∨
  (∀ part, part ≠ [] → part <+: whole → ¬Prompted pattern negotiator part) ∧
    (whole.length ≤ 16384 ∨ rejectedAt negotiator (whole.take 15361) = true ∨
      rejectedAt negotiator (whole.take 16384) = false)

theorem steady_agrees {whole : Bytes} (steady : Steady pattern negotiator whole) {left right : List Bytes}
    (leftCut : Cut 1024 whole left) (rightCut : Cut 1024 whole right) :
    verdictOf pattern negotiator left = verdictOf pattern negotiator right := by
  rcases steady with prompted | ⟨part, later, rfl, present, long, stretch⟩ | ⟨unprompted, limit⟩
  · rw [verdictOf_prompted prompted leftCut, verdictOf_prompted prompted rightCut]
  · rw [verdictOf_stretch present long stretch leftCut, verdictOf_stretch present long stretch rightCut]
  · by_cases small : whole.length ≤ 16384
    · rw [verdictOf_small unprompted small leftCut, verdictOf_small unprompted small rightCut]
    · have large : 16384 < whole.length := by omega
      rcases limit with reached | early | accepted
      · exact absurd reached small
      · rw [verdictOf_early unprompted large early leftCut, verdictOf_early unprompted large early rightCut]
      · rw [verdictOf_large unprompted large accepted leftCut, verdictOf_large unprompted large accepted rightCut]

theorem verdictOf_singles {whole part : Bytes} (present : part ≠ []) (starts : part <+: whole)
    (prompted : Prompted pattern negotiator part) :
    verdictOf pattern negotiator (singles whole) = some (.ok ()) := by
  have halting : ∃ first, first ≠ [] ∧ first <+: part ∧ settled pattern negotiator ([] ++ first) = true :=
    ⟨part, present, List.prefix_rfl, settled_prompted prompted⟩
  rcases shortest_exists halting with ⟨first, later, rfl, shortest⟩
  rcases starts with ⟨more, rfl⟩
  rw [List.append_assoc, singles_append, verdictOf_some (stop_singles shortest _), List.nil_append]
  exact settled_before prompted (List.prefix_append first later) shortest.halted

/-- A prompt that does not last is passed over by some cut. -/
theorem prompt_missed {whole part : Bytes} (present : part ≠ []) (starts : part <+: whole)
    (prompted : Prompted pattern negotiator part) (passes : ¬Prompted pattern negotiator whole)
    (gaps : ¬∃ part later, whole = part ++ later ∧ part ≠ [] ∧ 1023 ≤ later.length ∧
      ∀ more, more <+: later.take 1023 → Prompted pattern negotiator (part ++ more)) :
    ∃ left right, Cut 1024 whole left ∧ Cut 1024 whole right ∧
      verdictOf pattern negotiator left ≠ verdictOf pattern negotiator right := by
  have avoiding := @cut_avoiding _ 1024 whole (settled pattern negotiator) [] (Prompted pattern negotiator)
    (by decide) (fun _ => passes) ?_
  · rcases avoiding with ⟨pieces, cut, avoids⟩
    refine ⟨singles whole, pieces, singles_cut (by decide) whole, cut, ?_⟩
    rw [verdictOf_singles present starts prompted]
    cases stopped : stop (settled pattern negotiator) [] pieces with
    | none =>
        rw [verdictOf_none stopped]
        exact Option.some_ne_none _
    | some result =>
        rw [verdictOf_some stopped]
        intro recognised
        exact avoids _ _ stopped (verdictAt_prompted.mp recognised.symm)
  · intro first later same nonempty room
    by_contra every
    apply gaps
    refine ⟨first, later, same, nonempty, by omega, ?_⟩
    intro more within
    by_contra good
    exact every ⟨more, within, good⟩

/-- A rejection close to the size limit is passed over by some cut. -/
theorem rejection_missed {whole : Bytes} (unprompted : ∀ part, part ≠ [] → part <+: whole → ¬Prompted pattern negotiator part)
    (large : 16384 < whole.length) (late : rejectedAt negotiator (whole.take 15361) = false)
    (refused : rejectedAt negotiator (whole.take 16384) = true) :
    ∃ left right, Cut 1024 whole left ∧ Cut 1024 whole right ∧
      verdictOf pattern negotiator left ≠ verdictOf pattern negotiator right := by
  have present : whole.take 16384 ≠ [] := by
    intro empty
    rw [empty, rejectedAt_nil] at refused
    cases refused
  have halting : ∃ first, first ≠ [] ∧ first <+: whole.take 16384 ∧ settled pattern negotiator ([] ++ first) = true :=
    ⟨_, present, List.prefix_rfl, settled_rejected pattern refused⟩
  rcases shortest_exists halting with ⟨first, rest, split, shortest⟩
  have small : first.length ≤ 16384 := by
    have length := congrArg List.length split
    rw [List.length_append, List.length_take] at length
    omega
  have starts : first <+: whole := (List.prefix_append first rest).trans (split ▸ List.take_prefix 16384 whole)
  have rejected := verdictAt_unprompted unprompted shortest.nonempty starts small shortest.halted
  have far : 15361 < first.length := by
    by_contra near
    have within : first <+: whole.take 15361 := List.prefix_take_iff.mpr ⟨starts, by omega⟩
    have early := rejectedAt_extends within rejected.2
    rw [late] at early
    cases early
  rcases starts with ⟨later, rfl⟩
  rcases List.eq_nil_or_concat first with rfl | ⟨before, last, rfl⟩
  · exact absurd rfl shortest.nonempty
  rw [List.concat_eq_append] at *
  have finest := (singles_cut (by decide : 0 < 1024) (before ++ [last])).append
    (singles_cut (by decide : 0 < 1024) later)
  have short : (last :: later.take 1023).length ≤ 1024 := by
    rw [List.length_cons, List.length_take]
    omega
  have joined : Cut 1024 (before ++ [last] ++ later)
      (singles before ++ (last :: later.take 1023) :: singles (later.drop 1023)) := by
    have tail := Cut.cons (List.cons_ne_nil _ _) short (singles_cut (by decide : 0 < 1024) (later.drop 1023))
    have cut := (singles_cut (by decide : 0 < 1024) before).append tail
    rw [List.cons_append, List.take_append_drop] at cut
    rw [List.append_assoc]
    exact cut
  have beyond : 16384 < (before ++ last :: later.take 1023).length := by
    rw [List.length_append, List.length_append, List.length_singleton] at large
    rw [List.length_append, List.length_singleton] at far
    rw [List.length_append, List.length_cons, List.length_take]
    omega
  have halted : settled pattern negotiator ([] ++ (before ++ last :: later.take 1023)) = true := by
    unfold settled
    rw [List.nil_append, verdictAt_large beyond]
    rfl
  refine ⟨_, _, finest, joined, ?_⟩
  rw [verdictOf_some (stop_singles shortest _), verdictOf_some (stop_joined shortest halted _), List.nil_append,
    List.nil_append, rejected.1, verdictAt_large beyond]
  intro same
  simp [rejection, oversize] at same

/-- `read_prompt` gives every cut of a peer's bytes the same verdict exactly when the bytes are steady. -/
theorem verdict_agrees_iff (deadline : Deadline) (stream : Handle) (pattern : Bytes → Bool)
    (negotiator : Option Telnet.State) (whole : Bytes) :
    (∀ left right clock clock', Cut 1024 whole left → Cut 1024 whole right →
      (∀ n, clock n < deadline.endsAt) → (∀ n, clock' n < deadline.endsAt) →
      verdict deadline stream pattern negotiator left clock = verdict deadline stream pattern negotiator right clock') ↔
      Steady pattern negotiator whole := by
  constructor
  · intro agrees
    by_contra unsteady
    have early : ∀ n : Nat, (fun _ => deadline.endsAt - 1 : Nat → Rat) n < deadline.endsAt := fun _ => by linarith
    have same : ∀ left right, Cut 1024 whole left → Cut 1024 whole right →
        verdictOf pattern negotiator left = verdictOf pattern negotiator right := by
      intro left right leftCut rightCut
      rw [← verdict_eq stream leftCut early, ← verdict_eq stream rightCut early]
      exact agrees left right _ _ leftCut rightCut early early
    unfold Steady at unsteady
    push Not at unsteady
    rcases unsteady with ⟨passes, gaps, limit⟩
    by_cases prompts : ∃ part, part ≠ [] ∧ part <+: whole ∧ Prompted pattern negotiator part
    · rcases prompts with ⟨part, present, starts, prompted⟩
      have missed := prompt_missed present starts prompted passes (by push Not; exact gaps)
      rcases missed with ⟨left, right, leftCut, rightCut, differs⟩
      exact differs (same left right leftCut rightCut)
    · push Not at prompts
      rcases limit prompts with ⟨large, late, refused⟩
      have missed := rejection_missed prompts large (by simpa using late) (by simpa using refused)
      rcases missed with ⟨left, right, leftCut, rightCut, differs⟩
      exact differs (same left right leftCut rightCut)
  · intro steady left right clock clock' leftCut rightCut early early'
    rw [verdict_eq stream leftCut early, verdict_eq stream rightCut early']
    exact steady_agrees steady leftCut rightCut

def refusedLogin : Bytes := Bytes.utf8 "checking > \r\nLogin incorrect\r\n"

/-- Cut behind the line the login succeeds; in one piece it is rejected. -/
theorem verdict_disagrees :
    ¬∀ left right clock clock', Cut 1024 refusedLogin left → Cut 1024 refusedLogin right →
      (∀ n, clock n < (1 : Rat)) → (∀ n, clock' n < (1 : Rat)) →
      verdict ⟨1⟩ 0 shellPrompt (some .normal) left clock = verdict ⟨1⟩ 0 shellPrompt (some .normal) right clock' := by
  intro agrees
  have apart : Cut 1024 refusedLogin [Bytes.utf8 "checking > ", Bytes.utf8 "\r\nLogin incorrect\r\n"] :=
    ⟨by decide +kernel, by decide +kernel⟩
  have together : Cut 1024 refusedLogin [refusedLogin] := ⟨by decide +kernel, by decide +kernel⟩
  have early : ∀ n : Nat, (fun _ => 0 : Nat → Rat) n < 1 := fun _ => by norm_num
  have recognised : verdictOf shellPrompt (some .normal) [Bytes.utf8 "checking > ", Bytes.utf8 "\r\nLogin incorrect\r\n"] =
      some (.ok ()) := by decide +kernel
  have rejected : verdictOf shellPrompt (some .normal) [refusedLogin] = some (.error rejection) := by decide +kernel
  have same := agrees _ _ _ _ apart together early early
  rw [verdict_eq _ apart early, verdict_eq _ together early, recognised, rejected] at same
  cases same

end NetworkGateway.Connectors
