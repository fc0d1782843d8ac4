import NetworkGateway.Library.Cuts
import NetworkGateway.Dal.TelnetClient

/-! When a sequence of Telnet reads does not depend on how the device's bytes were cut. -/

namespace NetworkGateway.TelnetClient

open Library.Transducer Library.Cuts Telnet

variable {state : State} {marker : Bytes} {maxBytes : Nat} {closes : Bool} {sent : List Bytes}

/-! Decoding and searching a growing prefix. -/

theorem decoded_append (first second : Bytes) :
    decoded state (first ++ second) = decoded state first ++ decoded (after state first) second :=
  emitted_append next data state first second

theorem after_append (first second : Bytes) : after state (first ++ second) = after (after state first) second :=
  List.foldl_append

def enough (state : State) (marker : Bytes) (maxBytes : Nat) (bytes : Bytes) : Bool :=
  Bytes.contains (decoded state bytes) marker || maxBytes < (decoded state bytes).length

theorem enough_append {part : Bytes} (more : Bytes) (beyond : enough state marker maxBytes part) :
    enough state marker maxBytes (part ++ more) := by
  unfold enough at beyond ⊢
  rw [decoded_append, Bool.or_eq_true, decide_eq_true_iff] at *
  rw [List.length_append]
  rcases beyond with found | long
  · exact .inl (Bytes.contains_append _ found)
  · exact .inr (by omega)

variable (maxBytes) in
/-- Bytes that decode to nothing do not end a read. -/
theorem enough_silent (nonempty : marker ≠ []) {skipped : Bytes} (silent : decoded state skipped = []) :
    enough state marker maxBytes skipped = false := by
  have absent : Bytes.contains [] marker = false := by
    rw [← Bool.not_eq_true, Bytes.contains_iff, List.infix_nil]
    exact nonempty
  rw [enough, silent, absent]
  rfl

theorem enough_after {skipped : Bytes} (silent : decoded state skipped = []) (bytes : Bytes) :
    enough (after state skipped) marker maxBytes bytes = enough state marker maxBytes (skipped ++ bytes) := by
  unfold enough
  rw [decoded_append, silent, List.nil_append]

/-! One read of a cut stream. -/

def arrivals (closes : Bool) (pieces : List Bytes) : List Receipt :=
  pieces.map .chunk ++ if closes then [.chunk []] else []

theorem recvOn_found {buf : Bytes} (found : Bytes.contains buf marker = true) (incoming : List Receipt) :
    recvOn marker maxBytes state sent buf incoming = .returned buf ⟨state, sent, incoming⟩ := by
  cases incoming <;> simp [recvOn, found]

variable (closes sent) in
theorem recvOn_none {pieces : List Bytes} {stream seen : Bytes} (cut : Cut 1024 stream pieces)
    (unfinished : Bytes.contains (decoded state seen) marker = false)
    (unstopped : stop (enough state marker maxBytes) seen pieces = none) :
    recvOn marker maxBytes (after state seen) sent (decoded state seen) (arrivals closes pieces) =
      if closes then .raised ⟨.closed, marker, decoded state (seen ++ stream)⟩ else .waiting := by
  induction pieces generalizing seen stream sent with
  | nil =>
      rw [← cut.whole, List.flatten_nil, List.append_nil]
      cases closes <;> simp [arrivals, recvOn, unfinished]
  | cons piece pieces ih =>
      rcases cut.uncons with ⟨nonempty, -, later, rfl, further⟩
      by_cases beyond : enough state marker maxBytes (seen ++ piece)
      · rw [stop_here beyond] at unstopped
        cases unstopped
      · rw [stop, if_neg beyond] at unstopped
        have under := beyond
        simp only [enough, Bool.or_eq_true, not_or, Bool.not_eq_true, decide_eq_true_iff] at under
        have rest := ih (sent ++ emitted next replies (after state seen) piece) further under.1 unstopped
        rw [decoded_append, after_append, List.append_assoc] at rest
        rw [decoded_append] at under
        rw [← rest]
        simp only [arrivals, List.map_cons, List.cons_append, recvOn, unfinished, Bool.false_eq_true, if_false, nonempty,
          under.2]

variable (closes sent) in
theorem recvOn_some {pieces rest : List Bytes} {stream seen read : Bytes} (cut : Cut 1024 stream pieces)
    (unfinished : Bytes.contains (decoded state seen) marker = false)
    (stopped : stop (enough state marker maxBytes) seen pieces = some (read, rest)) :
    ∃ sent', recvOn marker maxBytes (after state seen) sent (decoded state seen) (arrivals closes pieces) =
      if maxBytes < (decoded state read).length then .raised ⟨.exceeded maxBytes, marker, decoded state read⟩
      else .returned (decoded state read) ⟨after state read, sent', arrivals closes rest⟩ := by
  induction pieces generalizing seen stream sent with
  | nil => cases stopped
  | cons piece pieces ih =>
      rcases cut.uncons with ⟨nonempty, -, later, rfl, further⟩
      have turn : recvOn marker maxBytes (after state seen) sent (decoded state seen) (arrivals closes (piece :: pieces)) =
          if maxBytes < (decoded state (seen ++ piece)).length then
            .raised ⟨.exceeded maxBytes, marker, decoded state (seen ++ piece)⟩
          else recvOn marker maxBytes (after state (seen ++ piece))
            (sent ++ emitted next replies (after state seen) piece) (decoded state (seen ++ piece))
            (arrivals closes pieces) := by
        simp only [arrivals, List.map_cons, List.cons_append, recvOn, unfinished, Bool.false_eq_true, if_false, nonempty,
          decoded_append, after_append]
      rw [turn]
      by_cases beyond : enough state marker maxBytes (seen ++ piece)
      · rw [stop_here beyond] at stopped
        cases stopped
        by_cases long : maxBytes < (decoded state (seen ++ piece)).length
        · refine ⟨[], ?_⟩
          rw [if_pos long, if_pos long]
        · simp only [enough, long, decide_false, Bool.or_false] at beyond
          refine ⟨sent ++ emitted next replies (after state seen) piece, ?_⟩
          rw [if_neg long, if_neg long, recvOn_found beyond]
      · rw [stop, if_neg beyond] at stopped
        have under := beyond
        simp only [enough, Bool.or_eq_true, not_or, Bool.not_eq_true, decide_eq_true_iff] at under
        rw [if_neg under.2]
        exact ih _ further under.1 stopped

/-! Reads after reads. -/

/-- The device sends no data in the 1023 bytes after one that ends a successful read: a chunk that
ends a read holds nothing for the next one. -/
def Paced (maxBytes : Nat) : List Bytes → State → Bytes → Prop
  | [], _, _ => True
  | marker :: markers, state, stream =>
      if marker = [] then Paced maxBytes markers state stream
      else ∀ part later, stream = part ++ later → Shortest (enough state marker maxBytes) [] part →
        (decoded state part).length ≤ maxBytes →
          decoded (after state part) (later.take 1023) = [] ∧ Paced maxBytes markers (after state part) later

theorem decoded_skip {skipped : Bytes} (silent : decoded state skipped = []) (bytes : Bytes) :
    decoded (after state skipped) bytes = decoded state (skipped ++ bytes) := by
  rw [decoded_append, silent, List.nil_append]

/-- What ends a read from before a silent stretch ends it from behind the stretch. -/
theorem shortest_skip (nonempty : marker ≠ []) {part later skipped stream : Bytes}
    (shortest : Shortest (enough state marker maxBytes) [] part) (whole : part ++ later = skipped ++ stream)
    (silent : decoded state skipped = []) :
    ∃ fresh, part = skipped ++ fresh ∧ stream = fresh ++ later ∧
      Shortest (enough (after state skipped) marker maxBytes) [] fresh := by
  rcases List.append_eq_append_iff.mp whole with ⟨more, rfl, -⟩ | ⟨fresh, rfl, same⟩
  · rw [decoded_append, List.append_eq_nil_iff] at silent
    have early := enough_silent maxBytes nonempty silent.1
    have halted := shortest.halted
    rw [List.nil_append, early] at halted
    cases halted
  · refine ⟨fresh, rfl, same, ?_, ?_, ?_⟩
    · rintro rfl
      have early := enough_silent maxBytes nonempty silent
      have halted := shortest.halted
      rw [List.append_nil, List.nil_append, early] at halted
      cases halted
    · rw [List.nil_append, enough_after silent]
      exact shortest.halted
    · intro shorter present starts differs
      rw [List.nil_append, enough_after silent]
      apply shortest.fresh
      · exact List.append_ne_nil_of_right_ne_nil skipped present
      · exact (List.prefix_append_right_inj skipped).mpr starts
      · exact fun same => differs (List.append_cancel_left same)

theorem unread (nonempty : marker ≠ []) : Bytes.contains (decoded state []) marker = false := by
  rw [← Bool.not_eq_true, Bytes.contains_iff]
  exact fun within => nonempty (List.infix_nil.mp within)

variable (closes sent) in
/-- A read that succeeds returns what precedes the silent stretch, and leaves the reader inside it. -/
theorem recvUntil_paced (nonempty : marker ≠ []) {part later skipped stream : Bytes} {pieces : List Bytes}
    (shortest : Shortest (enough state marker maxBytes) [] part) (fits : (decoded state part).length ≤ maxBytes)
    (quiet : decoded (after state part) (later.take 1023) = []) (whole : part ++ later = skipped ++ stream)
    (silent : decoded state skipped = []) (cut : Cut 1024 stream pieces) :
    ∃ sent' beyond left rest,
      recvUntil marker maxBytes ⟨after state skipped, sent, arrivals closes pieces⟩ =
        .returned (decoded state part) ⟨after (after state part) beyond, sent', arrivals closes rest⟩ ∧
      later = beyond ++ left ∧ decoded (after state part) beyond = [] ∧ Cut 1024 left rest := by
  rcases shortest_skip nonempty shortest whole silent with ⟨fresh, rfl, rfl, shortestFresh⟩
  rcases stop_shortest (fun _ more => enough_append more) shortestFresh cut with
    ⟨beyond, left, rest, stopped, bounded, rfl, remaining⟩
  have within : decoded (after state (skipped ++ fresh)) beyond = [] := by
    have starts : beyond <+: (beyond ++ left).take 1023 := by
      rw [List.prefix_take_iff]
      exact ⟨List.prefix_append beyond left, by omega⟩
    have decodes := emitted_prefix next data (after state (skipped ++ fresh)) starts
    unfold decoded at quiet
    rw [quiet] at decodes
    exact List.prefix_nil.mp decodes
  rcases recvOn_some closes sent cut (unread nonempty) stopped with ⟨sent', read⟩
  have text : decoded (after state skipped) ([] ++ fresh ++ beyond) = decoded state (skipped ++ fresh) := by
    rw [decoded_skip silent, List.nil_append, ← List.append_assoc, decoded_append, within, List.append_nil]
  have left_in : after (after state skipped) ([] ++ fresh ++ beyond) = after (after state (skipped ++ fresh)) beyond := by
    rw [List.nil_append, after_append, after_append]
  rw [text, if_neg (by omega), left_in] at read
  exact ⟨sent', beyond, left, rest, read, rfl, within, remaining⟩

variable (closes sent) in
/-- A read that overflows does so in every cut. -/
theorem recvUntil_overflow (nonempty : marker ≠ []) {part later skipped stream : Bytes} {pieces : List Bytes}
    (shortest : Shortest (enough state marker maxBytes) [] part) (long : maxBytes < (decoded state part).length)
    (whole : part ++ later = skipped ++ stream) (silent : decoded state skipped = []) (cut : Cut 1024 stream pieces) :
    ∃ error, recvUntil marker maxBytes ⟨after state skipped, sent, arrivals closes pieces⟩ = .raised error ∧
      error.fault = .exceeded maxBytes := by
  rcases shortest_skip nonempty shortest whole silent with ⟨fresh, rfl, rfl, shortestFresh⟩
  rcases stop_shortest (fun _ more => enough_append more) shortestFresh cut with
    ⟨beyond, left, rest, stopped, -, -, -⟩
  rcases recvOn_some closes sent cut (unread nonempty) stopped with ⟨sent', read⟩
  have longer : maxBytes < (decoded (after state skipped) ([] ++ fresh ++ beyond)).length := by
    rw [decoded_skip silent, List.nil_append, ← List.append_assoc, decoded_append, List.length_append]
    omega
  rw [if_pos longer] at read
  exact ⟨_, read, rfl⟩

variable (sent) in
theorem recvUntil_unfinished (nonempty : marker ≠ []) {whole skipped stream : Bytes} {pieces : List Bytes}
    (never : ∀ part, part ≠ [] → part <+: whole → enough state marker maxBytes part = false)
    (same : whole = skipped ++ stream) (silent : decoded state skipped = []) (cut : Cut 1024 stream pieces) :
    (∃ error, recvUntil marker maxBytes ⟨after state skipped, sent, arrivals true pieces⟩ = .raised error ∧
      error.fault = .closed) ∧
    recvUntil marker maxBytes ⟨after state skipped, sent, arrivals false pieces⟩ = .waiting := by
  have unstopped : stop (enough (after state skipped) marker maxBytes) [] pieces = none := by
    apply stop_never cut
    intro part present starts
    rw [List.nil_append, enough_after silent]
    apply never
    · exact List.append_ne_nil_of_right_ne_nil skipped present
    · rw [same]
      exact (List.prefix_append_right_inj skipped).mpr starts
  have read := fun closes => recvOn_none closes sent cut (unread nonempty) unstopped
  exact ⟨⟨_, read true, rfl⟩, read false⟩

/-! Whole sequences of reads. -/

theorem recvEach_paced {markers : List Bytes} {whole first second before after' : Bytes} {left right : List Bytes}
    (paced : Paced maxBytes markers state whole) (firstWhole : whole = before ++ first)
    (secondWhole : whole = after' ++ second) (firstSilent : decoded state before = [])
    (secondSilent : decoded state after' = []) (firstCut : Cut 1024 first left) (secondCut : Cut 1024 second right)
    (sentFirst sentSecond : List Bytes) :
    recvEach maxBytes markers ⟨after state before, sentFirst, arrivals closes left⟩ =
      recvEach maxBytes markers ⟨after state after', sentSecond, arrivals closes right⟩ := by
  induction markers generalizing state whole first second before after' left right sentFirst sentSecond with
  | nil => rfl
  | cons marker markers ih =>
      rw [Paced] at paced
      by_cases empty : marker = []
      · rw [if_pos empty] at paced
        have found : ∀ incoming state sent, recvUntil marker maxBytes ⟨state, sent, incoming⟩ =
            .returned [] ⟨state, sent, incoming⟩ := by
          intro incoming state sent
          apply recvOn_found
          exact (Bytes.contains_iff _ _).mpr (empty ▸ List.nil_infix)
        simp only [recvEach, found, ih paced firstWhole secondWhole firstSilent secondSilent firstCut secondCut
          sentFirst sentSecond]
      · rw [if_neg empty] at paced
        by_cases halting : ∃ part, part ≠ [] ∧ part <+: whole ∧ enough state marker maxBytes ([] ++ part)
        · rcases shortest_exists halting with ⟨part, later, rfl, shortest⟩
          by_cases fits : (decoded state part).length ≤ maxBytes
          · rcases paced part later rfl shortest fits with ⟨quiet, further⟩
            rcases recvUntil_paced closes sentFirst empty shortest fits quiet firstWhole
              firstSilent firstCut with ⟨sent', beyond, rest, pieces, read, split, silent, cut⟩
            rcases recvUntil_paced closes sentSecond empty shortest fits quiet secondWhole
              secondSilent secondCut with ⟨sent'', beyond', rest', pieces', read', split', silent', cut'⟩
            simp only [recvEach, read, read', ih further split split' silent silent' cut cut' sent' sent'']
          · have long : maxBytes < (decoded state part).length := by omega
            rcases recvUntil_overflow closes sentFirst empty shortest long firstWhole
              firstSilent firstCut with ⟨error, read, fault⟩
            rcases recvUntil_overflow closes sentSecond empty shortest long secondWhole
              secondSilent secondCut with ⟨error', read', fault'⟩
            simp only [recvEach, read, read', fault, fault']
        · have never : ∀ part, part ≠ [] → part <+: whole → enough state marker maxBytes part = false := by
            intro part present starts
            rw [← Bool.not_eq_true]
            exact fun beyond => halting ⟨part, present, starts, beyond⟩
          rcases recvUntil_unfinished sentFirst empty never firstWhole firstSilent firstCut with
            ⟨⟨error, closed, fault⟩, waiting⟩
          rcases recvUntil_unfinished sentSecond empty never secondWhole secondSilent secondCut with
            ⟨⟨error', closed', fault'⟩, waiting'⟩
          cases closes with
          | true => simp only [recvEach, closed, closed', fault, fault']
          | false => simp only [recvEach, waiting, waiting']

variable (closes sent) in
/-- In the finest cut a successful read returns what its shortest part decodes to. -/
theorem recvUntil_singles (nonempty : marker ≠ []) {part later : Bytes} {pieces : List Bytes}
    (shortest : Shortest (enough state marker maxBytes) [] part) (fits : (decoded state part).length ≤ maxBytes)
    (cut : Cut 1024 later pieces) :
    ∃ sent', recvUntil marker maxBytes ⟨state, sent, arrivals closes (singles part ++ pieces)⟩ =
      .returned (decoded state part) ⟨after state part, sent', arrivals closes pieces⟩ := by
  have whole := (singles_cut (by decide) part).append cut
  have stopped := stop_singles shortest pieces
  rcases recvOn_some closes sent whole (unread nonempty) stopped with ⟨sent', read⟩
  rw [List.nil_append, if_neg (by omega)] at read
  exact ⟨sent', read⟩

variable (closes) in
/-- A chunk that ends the read and carries data behind it changes what the read returns. -/
theorem recvUntil_joined (nonempty : marker ≠ []) {early later : Bytes} {last : UInt8}
    (shortest : Shortest (enough state marker maxBytes) [] (early ++ [last]))
    (heard : decoded (after state (early ++ [last])) (later.take 1023) ≠ []) :
    ∃ pieces, Cut 1024 (early ++ [last] ++ later) pieces ∧ ∀ sent connection,
      recvUntil marker maxBytes ⟨state, sent, arrivals closes pieces⟩ ≠
        .returned (decoded state (early ++ [last])) connection := by
  have joined : early ++ last :: later.take 1023 = early ++ [last] ++ later.take 1023 := by simp
  have halted : enough state marker maxBytes ([] ++ (early ++ last :: later.take 1023)) = true := by
    rw [joined, ← List.append_assoc]
    exact enough_append _ shortest.halted
  have stopped := stop_joined shortest halted (singles (later.drop 1023))
  have short : (last :: later.take 1023).length ≤ 1024 := by
    rw [List.length_cons, List.length_take]
    omega
  have cut : Cut 1024 (early ++ [last] ++ later) (singles early ++ (last :: later.take 1023) :: singles (later.drop 1023)) := by
    have tail := Cut.cons (List.cons_ne_nil _ _) short (singles_cut (by decide : 0 < 1024) (later.drop 1023))
    have whole := (singles_cut (by decide : 0 < 1024) early).append tail
    rw [List.cons_append, List.take_append_drop] at whole
    rw [List.append_assoc]
    exact whole
  refine ⟨_, cut, ?_⟩
  intro sent connection same
  rcases recvOn_some closes sent cut (unread nonempty) stopped with ⟨sent', read⟩
  rw [List.nil_append, joined, decoded_append] at read
  have outcome := read.symm.trans same
  split at outcome
  · cases outcome
  · have texts := (Reading.returned.inj outcome).1
    exact heard (by simpa using texts)

variable (closes) in
theorem recvEach_unpaced {markers : List Bytes} {stream : Bytes} (unpaced : ¬Paced maxBytes markers state stream) :
    ∃ left right, Cut 1024 stream left ∧ Cut 1024 stream right ∧ ∀ sentFirst sentSecond,
      recvEach maxBytes markers ⟨state, sentFirst, arrivals closes left⟩ ≠
        recvEach maxBytes markers ⟨state, sentSecond, arrivals closes right⟩ := by
  induction markers generalizing state stream with
  | nil => exact absurd trivial unpaced
  | cons marker markers ih =>
      rw [Paced] at unpaced
      by_cases empty : marker = []
      · rw [if_pos empty] at unpaced
        rcases ih unpaced with ⟨left, right, leftCut, rightCut, differs⟩
        refine ⟨left, right, leftCut, rightCut, ?_⟩
        intro sentFirst sentSecond same
        have found : ∀ incoming sent, recvUntil marker maxBytes ⟨state, sent, incoming⟩ =
            .returned [] ⟨state, sent, incoming⟩ := by
          intro incoming sent
          apply recvOn_found
          exact (Bytes.contains_iff _ _).mpr (empty ▸ List.nil_infix)
        simp only [recvEach, found, Prod.mk.injEq, List.cons.injEq, true_and] at same
        exact differs sentFirst sentSecond (Prod.ext same.1 same.2)
      · rw [if_neg empty] at unpaced
        push Not at unpaced
        rcases unpaced with ⟨part, later, rfl, shortest, fits, unquiet⟩
        by_cases quiet : decoded (after state part) (later.take 1023) = []
        · rcases ih (unquiet quiet) with ⟨left, right, leftCut, rightCut, differs⟩
          refine ⟨singles part ++ left, singles part ++ right, (singles_cut (by decide) part).append leftCut,
            (singles_cut (by decide) part).append rightCut, ?_⟩
          intro sentFirst sentSecond same
          rcases recvUntil_singles closes sentFirst empty shortest fits leftCut with ⟨sent', read⟩
          rcases recvUntil_singles closes sentSecond empty shortest fits rightCut with
            ⟨sent'', read'⟩
          simp only [recvEach, read, read', Prod.mk.injEq, List.cons.injEq, true_and] at same
          exact differs sent' sent'' (Prod.ext same.1 same.2)
        · rcases List.eq_nil_or_concat part with rfl | ⟨early, last, rfl⟩
          · exact absurd rfl shortest.nonempty
          · rw [List.concat_eq_append] at *
            rcases recvUntil_joined closes empty shortest quiet with ⟨pieces, cut, differs⟩
            refine ⟨singles (early ++ [last]) ++ singles later, pieces, ?_, cut, ?_⟩
            · exact (singles_cut (by decide) _).append (singles_cut (by decide) later)
            · intro sentFirst sentSecond same
              rcases recvUntil_singles closes sentFirst empty shortest fits
                (singles_cut (by decide) later) with ⟨sent', read⟩
              simp only [recvEach, read] at same
              split at same
              · rename_i data connection returned
                simp only [Prod.mk.injEq, List.cons.injEq] at same
                rw [← same.1.1] at returned
                exact differs sentSecond connection returned
              · cases same
              · cases same

/-- The reads of a connection give the same texts and end alike in every cut exactly when the device
never sends data behind an awaited marker within one chunk's reach. -/
theorem recvEach_agrees_iff (maxBytes : Nat) (closes : Bool) (state : State) (markers : List Bytes) (stream : Bytes) :
    (∀ left right, Cut 1024 stream left → Cut 1024 stream right →
      recvEach maxBytes markers ⟨state, [], arrivals closes left⟩ =
        recvEach maxBytes markers ⟨state, [], arrivals closes right⟩) ↔
      Paced maxBytes markers state stream := by
  constructor
  · intro agrees
    by_contra unpaced
    rcases recvEach_unpaced closes unpaced with ⟨left, right, leftCut, rightCut, differs⟩
    exact differs [] [] (agrees left right leftCut rightCut)
  · intro paced left right leftCut rightCut
    exact recvEach_paced paced (List.nil_append stream).symm (List.nil_append stream).symm rfl rfl leftCut rightCut [] []

/-- Two prompts in one chunk: the second is lost to its read. A response with the marker in its middle:
cut behind the marker, its first half is returned as if it were complete. -/
theorem recvEach_disagrees :
    (¬∀ left right, Cut 1024 (Bytes.utf8 "Username:Password:") left → Cut 1024 (Bytes.utf8 "Username:Password:") right →
      recvEach defaultMaxResponseBytes [Bytes.utf8 "Username:", Bytes.utf8 "Password:"] ⟨.normal, [], arrivals true left⟩ =
        recvEach defaultMaxResponseBytes [Bytes.utf8 "Username:", Bytes.utf8 "Password:"]
          ⟨.normal, [], arrivals true right⟩) ∧
    ¬∀ left right, Cut 1024 (Bytes.utf8 "a -> b\r\n> ") left → Cut 1024 (Bytes.utf8 "a -> b\r\n> ") right →
      recvEach defaultMaxResponseBytes [Bytes.utf8 "> "] ⟨.normal, [], arrivals true left⟩ =
        recvEach defaultMaxResponseBytes [Bytes.utf8 "> "] ⟨.normal, [], arrivals true right⟩ := by
  constructor
  · intro agrees
    have apart : Cut 1024 (Bytes.utf8 "Username:Password:") [Bytes.utf8 "Username:", Bytes.utf8 "Password:"] :=
      ⟨by decide +kernel, by decide +kernel⟩
    have whole : Cut 1024 (Bytes.utf8 "Username:Password:") [Bytes.utf8 "Username:Password:"] :=
      ⟨by decide +kernel, by decide +kernel⟩
    have same := agrees _ _ apart whole
    revert same
    decide +kernel
  · intro agrees
    have apart : Cut 1024 (Bytes.utf8 "a -> b\r\n> ") [Bytes.utf8 "a -> ", Bytes.utf8 "b\r\n> "] :=
      ⟨by decide +kernel, by decide +kernel⟩
    have whole : Cut 1024 (Bytes.utf8 "a -> b\r\n> ") [Bytes.utf8 "a -> b\r\n> "] :=
      ⟨by decide +kernel, by decide +kernel⟩
    have same := agrees _ _ apart whole
    revert same
    decide +kernel

end NetworkGateway.TelnetClient
