import Mathlib.Data.List.TakeWhile
import NetworkGateway.Library.Cuts
import NetworkGateway.Proofs.TextProtocols

/-! The head of a proxy's CONNECT reply: which heads are accepted, and how much of the stream is taken. -/

namespace NetworkGateway.Connectors

open Library.Interaction Library.Cuts

/-! The grammar of a reply head. -/

def crlf : Bytes := [13, 10]

def blankLine : Bytes := [13, 10, 13, 10]

/-- `HTTP/1.0` or `HTTP/1.1`, a code of three digits, and a reason phrase behind a space, if any. -/
def StatusLine (line : Bytes) (code : Nat) : Prop :=
  ∃ minor a b c reason, line = Bytes.utf8 "HTTP/1." ++ minor :: 32 :: a :: b :: c :: reason ∧ (minor = 48 ∨ minor = 49) ∧
    (Bytes.isDigit a ∧ Bytes.isDigit b ∧ Bytes.isDigit c) ∧
    code = (a.toNat - 48) * 100 + (b.toNat - 48) * 10 + (c.toNat - 48) ∧
    (reason = [] ∨ ∃ text, reason = 32 :: text ∧ ∀ byte ∈ text, Bytes.isPrintable byte)

def HeaderLine (line : Bytes) : Prop :=
  ∃ name value, line = name ++ 58 :: value ∧ name ≠ [] ∧ (∀ byte ∈ name, isToken byte) ∧
    ∀ byte ∈ value, Bytes.isPrintable byte ∨ byte = 9

def following (lines : List Bytes) : Bytes := lines.flatMap (fun line => crlf ++ line)

/-- A well-formed head of a reply with this code, its empty line included. -/
def Head (bytes : Bytes) (code : Nat) : Prop :=
  ∃ line headers, bytes = line ++ following headers ++ blankLine ∧ StatusLine line code ∧
    ∀ header ∈ headers, HeaderLine header

/-! Lines. -/

def Unbroken (line : Bytes) : Prop := (13 : UInt8) ∉ line

theorem unprintable_return : Bytes.isPrintable 13 = false := by decide

theorem StatusLine.unbroken {line : Bytes} {code : Nat} (status : StatusLine line code) : Unbroken line := by
  rcases status with ⟨minor, a, b, c, reason, rfl, version, digits, -, phrase⟩
  have digit : ∀ d, Bytes.isDigit d = true → (13 : UInt8) ≠ d := by
    rintro d numeral rfl
    cases numeral
  intro member
  rcases List.mem_append.mp member with name | member
  · exact absurd name (by decide)
  · simp only [List.mem_cons] at member
    rcases member with here | here | here | here | here | behind
    · rcases version with rfl | rfl <;> cases here
    · cases here
    · exact digit a digits.1 here
    · exact digit b digits.2.1 here
    · exact digit c digits.2.2 here
    · rcases phrase with rfl | ⟨text, rfl, printable⟩
      · cases behind
      · rcases List.mem_cons.mp behind with space | within
        · cases space
        · have printed := printable _ within
          rw [unprintable_return] at printed
          cases printed

theorem HeaderLine.unbroken {line : Bytes} (header : HeaderLine line) : Unbroken line := by
  rcases header with ⟨name, value, rfl, -, token, printable⟩
  intro member
  rcases List.mem_append.mp member with within | member
  · exact absurd (token _ within) (by decide)
  · rcases List.mem_cons.mp member with colon | within
    · cases colon
    · rcases printable _ within with printed | tab
      · rw [unprintable_return] at printed
        cases printed
      · cases tab

theorem HeaderLine.nonempty {line : Bytes} (header : HeaderLine line) : line ≠ [] := by
  rcases header with ⟨name, value, rfl, -, -, -⟩
  exact List.append_ne_nil_of_right_ne_nil _ (List.cons_ne_nil _ _)

theorem statusLine_iff {line : Bytes} {code : Nat} : statusLine line = some code ↔ StatusLine line code := by
  constructor
  · intro read
    unfold statusLine at read
    split at read
    · rename_i h t t' p slash major dot minor space a b c reason parts
      split at read
      · rename_i checked
        rw [List.splitAt_eq, Prod.mk.injEq] at parts
        simp only [Bool.and_eq_true, Bool.or_eq_true, decide_eq_true_iff, List.all_cons, List.all_nil, and_true,
          List.all_eq_true] at checked
        rcases checked with ⟨⟨⟨⟨name, version⟩, rfl⟩, digits⟩, phrase⟩
        refine ⟨minor, a, b, c, reason, ?_, version, digits, (Option.some.inj read).symm, ?_⟩
        · rw [← List.take_append_drop 12 line, parts.1, parts.2, ← name]
          rfl
        · rcases phrase with empty | ⟨spaced, printable⟩
          · exact .inl empty
          · cases reason with
            | nil => exact .inl rfl
            | cons first text =>
                rw [List.head?_cons, Option.some.injEq] at spaced
                rw [spaced]
                exact .inr ⟨text, rfl, fun byte member => printable byte (List.mem_cons_of_mem _ member)⟩
      · cases read
    · cases read
  · rintro ⟨minor, a, b, c, reason, rfl, version, digits, rfl, phrase⟩
    have parts : List.splitAt 12 (Bytes.utf8 "HTTP/1." ++ minor :: 32 :: a :: b :: c :: reason) =
        ([72, 84, 84, 80, 47, 49, 46, minor, 32, a, b, c], reason) := by
      rw [List.splitAt_eq]
      rfl
    have spaced : (decide (reason = []) || (decide (reason.head? = some 32) && reason.all Bytes.isPrintable)) = true := by
      rcases phrase with rfl | ⟨text, rfl, printable⟩
      · rfl
      · rw [List.all_cons, List.head?_cons, List.all_eq_true.mpr printable]
        rfl
    unfold statusLine
    rw [parts]
    dsimp only
    rw [if_pos]
    rw [spaced]
    rcases version with rfl | rfl <;> simp [digits, Bytes.utf8] <;> decide

theorem headerLine_iff {line : Bytes} : headerLine line = true ↔ HeaderLine line := by
  constructor
  · intro accepted
    unfold headerLine at accepted
    dsimp only at accepted
    split at accepted
    · rename_i value rest
      rw [Bool.and_eq_true, Bool.not_eq_true', List.isEmpty_eq_false_iff, List.all_eq_true] at accepted
      refine ⟨line.takeWhile isToken, value, ?_, accepted.1, ?_, ?_⟩
      · rw [← rest]
        exact List.takeWhile_append_dropWhile.symm
      · exact fun byte member => List.mem_takeWhile_imp member
      · intro byte member
        simpa using accepted.2 byte member
    · cases accepted
  · rintro ⟨name, value, rfl, present, token, printable⟩
    have colon : isToken 58 = false := by decide
    have taken : (name ++ 58 :: value).takeWhile isToken = name := by
      rw [List.takeWhile_append_of_pos token, List.takeWhile_cons, colon, if_neg Bool.false_ne_true, List.append_nil]
    have dropped : (name ++ 58 :: value).dropWhile isToken = 58 :: value := by
      rw [List.dropWhile_append_of_pos token, List.dropWhile_cons, colon, if_neg Bool.false_ne_true]
    unfold headerLine
    rw [taken, dropped]
    change (!name.isEmpty && value.all (fun b => Bytes.isPrintable b || b = 9)) = true
    rw [Bool.and_eq_true, Bool.not_eq_true', List.isEmpty_eq_false_iff, List.all_eq_true]
    refine ⟨present, ?_⟩
    intro byte member
    simpa using printable byte member

/-! Splitting at line breaks. -/

theorem following_cons (line : Bytes) (lines : List Bytes) :
    following (line :: lines) = 13 :: 10 :: (line ++ following lines) := rfl

theorem splitPair_unbroken {line : Bytes} (unbroken : Unbroken line) : Bytes.splitPair 13 10 line = [line] := by
  induction line with
  | nil => rfl
  | cons b rest ih =>
      rw [Unbroken, List.mem_cons, not_or] at unbroken
      cases rest with
      | nil => rfl
      | cons c rest =>
          have apart : ¬(b = 13 ∧ c = 10) := fun both => unbroken.1 both.1.symm
          rw [Bytes.splitPair, if_neg apart, ih unbroken.2]

theorem splitPair_break {line : Bytes} (unbroken : Unbroken line) (rest : Bytes) :
    Bytes.splitPair 13 10 (line ++ 13 :: 10 :: rest) = line :: Bytes.splitPair 13 10 rest := by
  induction line with
  | nil => exact if_pos ⟨rfl, rfl⟩
  | cons b line ih =>
      rw [Unbroken, List.mem_cons, not_or] at unbroken
      have further := ih unbroken.2
      have apart : ∀ c : UInt8, ¬(b = 13 ∧ c = 10) := fun c both => unbroken.1 both.1.symm
      cases line with
      | nil =>
          rw [List.nil_append] at further
          rw [List.singleton_append, Bytes.splitPair, if_neg (apart 13), further]
      | cons c line =>
          rw [List.cons_append, List.cons_append, Bytes.splitPair, if_neg (apart c), ← List.cons_append, further]

theorem splitPair_following {line : Bytes} {lines : List Bytes} (unbroken : Unbroken line)
    (others : ∀ other ∈ lines, Unbroken other) : Bytes.splitPair 13 10 (line ++ following lines) = line :: lines := by
  induction lines generalizing line with
  | nil =>
      rw [following, List.flatMap_nil, List.append_nil]
      exact splitPair_unbroken unbroken
  | cons next lines ih =>
      have here := others next List.mem_cons_self
      rw [following_cons, splitPair_break unbroken, ih here (fun other member => others other (List.mem_cons_of_mem _ member))]

theorem following_splitPair (data : Bytes) :
    ∃ line lines, Bytes.splitPair 13 10 data = line :: lines ∧ data = line ++ following lines := by
  induction data using Bytes.splitPair.induct 13 10 with
  | case1 => exact ⟨[], [], rfl, rfl⟩
  | case2 b => exact ⟨[b], [], rfl, rfl⟩
  | case3 b c rest breaks ih =>
      rcases ih with ⟨line, lines, split, rfl⟩
      refine ⟨[], line :: lines, ?_, ?_⟩
      · rw [Bytes.splitPair, if_pos breaks, split]
      · rw [breaks.1, breaks.2, following_cons]
        rfl
  | case4 b c rest plain first others split ih =>
      rcases ih with ⟨line, lines, again, same⟩
      refine ⟨b :: line, lines, ?_, ?_⟩
      · rw [Bytes.splitPair, if_neg plain, again]
      · rw [same, List.cons_append]
  | case5 b c rest plain split ih =>
      rcases ih with ⟨line, lines, again, -⟩
      rw [split] at again
      cases again

theorem connectStatus_iff {bytes : Bytes} {code : Nat} (ends : blankLine <:+ bytes) :
    connectStatus bytes = some code ↔ Head bytes code := by
  rcases ends with ⟨body, rfl⟩
  have cut : (body ++ blankLine).take ((body ++ blankLine).length - 4) = body := by
    rw [List.length_append]
    exact List.take_left
  unfold connectStatus
  rw [cut]
  constructor
  · intro read
    rcases following_splitPair body with ⟨line, headers, split, same⟩
    rw [split] at read
    dsimp only at read
    split at read
    · rename_i accepted
      refine ⟨line, headers, by rw [same], statusLine_iff.mp read, ?_⟩
      intro header listed
      exact headerLine_iff.mp (List.all_eq_true.mp accepted header listed)
    · cases read
  · rintro ⟨line, headers, same, status, accepted⟩
    have split := splitPair_following status.unbroken (fun header listed => (accepted header listed).unbroken)
    rw [List.append_cancel_right same, split]
    dsimp only
    rw [if_pos (List.all_eq_true.mpr fun header listed => headerLine_iff.mpr (accepted header listed))]
    exact statusLine_iff.mpr status

/-! The first empty line. -/

theorem unbroken_start {line rest tail : Bytes} (unbroken : Unbroken line) (present : line ≠ []) :
    line ++ rest ≠ 13 :: tail := by
  intro same
  cases line with
  | nil => exact present rfl
  | cons b line =>
      rw [(List.cons.inj same).1] at unbroken
      exact unbroken List.mem_cons_self

theorem unbroken_within {before more tail rest : Bytes} (unbroken : Unbroken (before ++ more))
    (ends : more ++ tail = 13 :: rest) : more = [] := by
  cases more with
  | nil => rfl
  | cons first more =>
      rw [(List.cons.inj ends).1] at unbroken
      exact absurd (List.mem_append_right before List.mem_cons_self) unbroken

/-- No empty line stands in front of the one that ends a head. -/
theorem blankLine_last {line : Bytes} {headers : List Bytes} (unbroken : Unbroken line)
    (others : ∀ header ∈ headers, Unbroken header ∧ header ≠ []) {before after : Bytes}
    (found : line ++ following headers ++ blankLine = before ++ blankLine ++ after) : after = [] := by
  induction headers generalizing line before with
  | nil =>
      rw [following, List.flatMap_nil, List.append_nil, List.append_assoc] at found
      have room : line.length ≤ before.length := by
        rcases List.append_eq_append_iff.mp found with ⟨more, rfl, -⟩ | ⟨more, rfl, ends⟩
        · rw [List.length_append]
          omega
        · rw [unbroken_within unbroken ends.symm, List.append_nil]
      have length := congrArg List.length found
      simp only [List.length_append] at length
      exact List.length_eq_zero_iff.mp (by omega)
  | cons header headers ih =>
      have here := others header List.mem_cons_self
      have rest := fun other member => others other (List.mem_cons_of_mem header member)
      rw [following_cons, List.append_assoc, List.append_assoc] at found
      -- the empty line begins where the first line ends, at its line break, or behind both
      have atEnd : ∀ {after : Bytes}, 13 :: 10 :: (header ++ following headers) ++ blankLine ≠ blankLine ++ after := by
        intro after same
        have behind : header ++ (following headers ++ blankLine) = 13 :: 10 :: after := by simpa [blankLine] using same
        exact unbroken_start here.1 here.2 behind
      rcases List.append_eq_append_iff.mp found with ⟨more, rfl, ends⟩ | ⟨more, rfl, ends⟩
      · rcases more with _ | ⟨first, _ | ⟨second, more⟩⟩
        · exact absurd ends atEnd
        · cases (List.cons.inj (List.cons.inj ends).2).1
        · have tail := (List.cons.inj (List.cons.inj ends).2).2
          exact @ih header here.1 rest more (by simpa using tail)
      · have none := unbroken_within unbroken ends.symm
        rw [none, List.nil_append] at ends
        exact absurd ends.symm atEnd

theorem isSuffixOf_blankLine {data : Bytes} : blankLine.isSuffixOf data = true ↔ blankLine <:+ data :=
  List.isSuffixOf_iff_suffix

/-- A well-formed head is the shortest beginning of the stream that ends with an empty line. -/
theorem Head.shortest {bytes : Bytes} {code : Nat} (head : Head bytes code) :
    Shortest (fun data => blankLine.isSuffixOf data) [] bytes := by
  rcases head with ⟨line, headers, rfl, status, accepted⟩
  refine ⟨?_, ?_, ?_⟩
  · exact List.append_ne_nil_of_right_ne_nil _ (List.cons_ne_nil _ _)
  · exact isSuffixOf_blankLine.mpr (List.suffix_append _ _)
  · intro shorter _ starts differs
    rw [List.nil_append, Bool.eq_false_iff]
    intro ends
    rcases isSuffixOf_blankLine.mp ends with ⟨before, rfl⟩
    rcases starts with ⟨after, whole⟩
    have empty := blankLine_last status.unbroken
      (fun header listed => ⟨(accepted header listed).unbroken, (accepted header listed).nonempty⟩) whole.symm
    rw [empty, List.append_nil] at whole
    exact differs whole

/-! The reader. -/

section Reader

open Peer

variable {deadline : Deadline} {stream : Handle} {closes : Bool} {marker data part bytes more sent : Bytes} {limit : Nat}

theorem receiveOn_pass
    (unhalted : ∀ shorter, shorter <+: part → shorter ≠ part → marker.isSuffixOf (data ++ shorter) = false)
    (fits : data.length + part.length ≤ limit) {s : Peer} (held : Holding deadline (part ++ more) sent s) :
    ∃ s', Holding deadline more sent s' ∧ (receiveOn deadline stream marker limit data).play (peer closes) s =
      (receiveOn deadline stream marker limit (data ++ part)).play (peer closes) s' := by
  induction part generalizing data s with
  | nil =>
      rw [List.append_nil]
      exact ⟨s, held, rfl⟩
  | cons b part ih =>
      have on := unhalted [] List.nil_prefix (List.cons_ne_nil b part).symm
      have room : ¬limit ≤ data.length := by
        rw [List.length_cons] at fits
        omega
      rw [List.append_nil] at on
      rcases @receiveExact_yields deadline closes sent stream [b] (part ++ more) 1 rfl with ⟨read, value, yields⟩
      rcases yields.continues (f := fun chunk => receiveOn deadline stream marker limit (data ++ chunk.1)) held
        with ⟨middle, between, played⟩
      have further : ∀ shorter, shorter <+: part → shorter ≠ part →
          marker.isSuffixOf (data ++ [b] ++ shorter) = false := by
        intro shorter starts differs
        rw [List.append_assoc]
        refine unhalted (b :: shorter) ((List.prefix_cons_inj b).mpr starts) ?_
        intro same
        exact differs (List.cons.inj same).2
      have less : (data ++ [b]).length + part.length ≤ limit := by
        rw [List.length_append]
        rw [List.length_cons] at fits
        simp only [List.length_singleton]
        omega
      rcases ih further less between with ⟨s', left, rest⟩
      refine ⟨s', left, ?_⟩
      rw [receiveOn, if_neg (by rw [on]; exact Bool.false_ne_true), if_neg room]
      rw [value] at played
      rw [List.append_assoc] at rest
      exact played.trans rest

/-- The shortest beginning that ends with the marker is taken, and nothing behind it. -/
theorem receiveUntil_yields (shortest : Shortest (fun data => marker.isSuffixOf data) [] part)
    (present : marker ≠ []) (fits : part.length ≤ limit) :
    Program.Yields (peer closes) (Holding deadline (part ++ more) sent) (receiveUntil deadline stream marker limit)
      (.ok part) (Holding deadline more sent) := by
  intro s held
  have unhalted : ∀ shorter, shorter <+: part → shorter ≠ part → marker.isSuffixOf ([] ++ shorter) = false := by
    intro shorter starts differs
    by_cases empty : shorter = []
    · rw [empty, Bool.eq_false_iff]
      intro ends
      exact present (List.suffix_nil.mp (List.isSuffixOf_iff_suffix.mp ends))
    · exact shortest.fresh shorter empty starts differs
  have within : ([] : Bytes).length + part.length ≤ limit := by rwa [List.length_nil, Nat.zero_add]
  have ends : marker.isSuffixOf part = true := shortest.halted
  rcases receiveOn_pass unhalted within held with ⟨s', left, played⟩
  refine ⟨s', ?_, left⟩
  rw [receiveUntil, played, List.nil_append, receiveOn, if_pos ends]
  rfl

theorem receiveUntil_exceeds
    (unhalted : ∀ shorter, shorter <+: bytes → shorter.length ≤ limit → marker.isSuffixOf shorter = false)
    (long : limit ≤ bytes.length) :
    Program.Yields (peer closes) (Holding deadline bytes sent) (receiveUntil deadline stream marker limit)
      (.error (.connector "protocol" "The protocol handshake exceeded the allowed response size."))
      (Holding deadline (bytes.drop limit) sent) := by
  intro s held
  have length : (bytes.take limit).length = limit := List.length_take_of_le long
  have small : ∀ shorter, shorter <+: bytes.take limit → marker.isSuffixOf ([] ++ shorter) = false := by
    intro shorter starts
    have within := starts.length_le
    rw [length] at within
    exact unhalted shorter (starts.trans (List.take_prefix limit bytes)) within
  have within : ([] : Bytes).length + (bytes.take limit).length ≤ limit := by rw [length, List.length_nil, Nat.zero_add]
  rw [← List.take_append_drop limit bytes] at held
  rcases receiveOn_pass (fun shorter starts _ => small shorter starts) within held with ⟨s', left, played⟩
  refine ⟨s', ?_, left⟩
  have reached : limit ≤ ([] ++ bytes.take limit : Bytes).length := by rw [List.nil_append, length]
  rw [receiveUntil, played, receiveOn, if_neg (by rw [small _ List.prefix_rfl]; exact Bool.false_ne_true), if_pos reached]
  rfl

/-- The stream ends in front of a marker and of the limit. -/
structure Short (marker : Bytes) (limit : Nat) (bytes : Bytes) : Prop where
  unhalted : ∀ shorter, shorter <+: bytes → marker.isSuffixOf shorter = false
  few : bytes.length < limit

theorem Short.pass (short : Short marker limit bytes) {s : Peer} (held : Holding deadline bytes sent s) :
    ∃ s', Holding deadline [] sent s' ∧ (receiveUntil deadline stream marker limit).play (peer closes) s =
      (receiveExact deadline stream 1 >>= fun chunk =>
        receiveOn deadline stream marker limit (bytes ++ chunk.1)).play (peer closes) s' := by
  have within : ([] : Bytes).length + bytes.length ≤ limit := by
    rw [List.length_nil, Nat.zero_add]
    exact short.few.le
  rw [← List.append_nil bytes] at held
  rcases receiveOn_pass (fun shorter starts _ => short.unhalted shorter starts) within held with ⟨s', left, played⟩
  refine ⟨s', left, ?_⟩
  have on := short.unhalted bytes List.prefix_rfl
  rw [receiveUntil, played, List.nil_append, receiveOn, if_neg (by rw [on]; exact Bool.false_ne_true),
    if_neg (Nat.not_le_of_lt short.few)]

theorem receiveUntil_closed (short : Short marker limit bytes) :
    Program.Yields (peer true) (Holding deadline bytes sent) (receiveUntil deadline stream marker limit)
      (.error (.connector "protocol" "The peer closed before completing the protocol handshake."))
      (Holding deadline [] sent) := by
  intro s held
  rcases short.pass held with ⟨middle, between, played⟩
  rcases (receiveExact_closed Nat.one_pos).bind_error middle between with ⟨s', further, left⟩
  exact ⟨s', played.trans further, left⟩

theorem receiveUntil_stuck (short : Short marker limit bytes) :
    Program.Stuck (peer false) (Holding deadline bytes sent) (receiveUntil deadline stream marker limit) := by
  intro s held
  rcases short.pass held with ⟨middle, between, played⟩
  rw [played]
  exact (receiveExact_stuck Nat.one_pos).bind middle between

end Reader

/-! The whole exchange. -/

def judgement (code : Nat) : Except Raised Unit :=
  if code = 407 then .error (.connector "proxy_auth" "HTTP CONNECT proxy authentication was rejected.")
  else if code < 200 || 300 ≤ code then
    .error (.connector "proxy_connect" "The HTTP CONNECT proxy denied or could not reach the destination.")
  else .ok ()

theorem judgement_ok {code : Nat} : judgement code = .ok () ↔ 200 ≤ code ∧ code < 300 := by
  unfold judgement
  by_cases login : code = 407
  · rw [if_pos login, login]
    exact ⟨nofun, fun within => absurd within (by decide)⟩
  · rw [if_neg login]
    by_cases denied : (code < 200 || 300 ≤ code) = true
    · rw [if_pos denied]
      simp only [Bool.or_eq_true, decide_eq_true_iff] at denied
      exact ⟨nofun, fun within => absurd within (by omega)⟩
    · rw [if_neg denied]
      simp only [Bool.or_eq_true, decide_eq_true_iff] at denied
      exact ⟨fun _ => by omega, fun _ => rfl⟩

theorem judgement_refused {code : Nat} (refused : ¬(200 ≤ code ∧ code < 300)) :
    ∃ detail, judgement code = .error (.connector (if code = 407 then "proxy_auth" else "proxy_connect") detail) := by
  unfold judgement
  by_cases login : code = 407
  · rw [if_pos login, if_pos login]
    exact ⟨_, rfl⟩
  · have denied : (code < 200 || 300 ≤ code) = true := by
      simp only [Bool.or_eq_true, decide_eq_true_iff]
      omega
    rw [if_neg login, if_neg login, if_pos denied]
    exact ⟨_, rfl⟩

section Exchange

open Peer

variable {deadline : Deadline} {stream : Handle} {closes : Bool} {bytes head rest sent payload response : Bytes}
  {connector : Endpoint} {device : Device} {request : String} {code : Nat} {after : Peer → Prop}

theorem httpConnect_steps (written : connectRequest connector device = .ok request)
    (encoded : encodeAscii request = .ok payload) :
    httpConnect deadline stream connector device =
      (send deadline stream payload >>= fun _ => receiveUntil deadline stream blankLine 8192 >>= fun response =>
        match connectStatus response with
        | none => Program.raise (.connector "protocol" "The HTTP proxy returned an invalid CONNECT response.")
        | some code =>
            if code = 407 then
              Program.raise (.connector "proxy_auth" "HTTP CONNECT proxy authentication was rejected.")
            else if code < 200 || 300 ≤ code then
              Program.raise
                (.connector "proxy_connect" "The HTTP CONNECT proxy denied or could not reach the destination.")
            else return ()) := by
  unfold httpConnect
  rw [written]
  change (Program.lift (encodeAscii request) >>= _) = _
  rw [encoded]
  rfl

theorem httpConnect_judges (written : connectRequest connector device = .ok request)
    (encoded : encodeAscii request = .ok payload)
    (read : Program.Yields (peer closes) (Holding deadline bytes (sent ++ payload))
      (receiveUntil deadline stream blankLine 8192) (.ok response) after) :
    Program.Yields (peer closes) (Holding deadline bytes sent) (httpConnect deadline stream connector device)
      (match connectStatus response with
        | none => .error (.connector "protocol" "The HTTP proxy returned an invalid CONNECT response.")
        | some code => judgement code) after := by
  rw [httpConnect_steps written encoded]
  apply (send_holding payload).bind
  apply read.bind
  cases connectStatus response with
  | none => exact Program.Yields.done fun _ held => held
  | some code =>
      dsimp only [judgement]
      by_cases login : code = 407
      · rw [if_pos login, if_pos login]
        exact Program.Yields.done fun _ held => held
      · rw [if_neg login, if_neg login]
        by_cases denied : (code < 200 || 300 ≤ code) = true
        · rw [if_pos denied, if_pos denied]
          exact Program.Yields.done fun _ held => held
        · rw [if_neg denied, if_neg denied]
          exact Program.Yields.done fun _ held => held

/-- The stream starts with a well-formed head of at most 8192 bytes, up to its first empty line. -/
structure Reply (bytes head rest : Bytes) (code : Nat) : Prop where
  whole : bytes = head ++ rest
  fits : head.length ≤ 8192
  first : ∀ shorter, shorter <+: head → blankLine <:+ shorter → shorter = head
  formed : Head head code

/-- A first empty line within the limit, no empty line up to the limit, or the end of the stream before both. -/
theorem heads (bytes : Bytes) :
    (∃ head rest, bytes = head ++ rest ∧ head.length ≤ 8192 ∧ Shortest (fun data => blankLine.isSuffixOf data) [] head) ∨
      ((∀ shorter, shorter <+: bytes → shorter.length ≤ 8192 → blankLine.isSuffixOf shorter = false) ∧
        8192 ≤ bytes.length) ∨
      Short blankLine 8192 bytes := by
  have unended : blankLine.isSuffixOf [] = false := rfl
  by_cases halting : ∃ part, part ≠ [] ∧ part <+: bytes ∧ blankLine.isSuffixOf ([] ++ part) = true
  · have found : ∃ head rest, bytes = head ++ rest ∧ Shortest (fun data => blankLine.isSuffixOf data) [] head :=
      shortest_exists halting
    rcases found with ⟨head, rest, rfl, shortest⟩
    by_cases fits : head.length ≤ 8192
    · exact .inl ⟨head, rest, rfl, fits, shortest⟩
    · refine .inr (.inl ⟨?_, ?_⟩)
      · intro shorter starts small
        by_cases empty : shorter = []
        · rw [empty, unended]
        · have within : shorter <+: head :=
            List.prefix_of_prefix_length_le starts (List.prefix_append head rest) (by omega)
          refine shortest.fresh shorter empty within ?_
          rintro rfl
          exact fits small
      · rw [List.length_append]
        omega
  · have none : ∀ shorter, shorter <+: bytes → blankLine.isSuffixOf shorter = false := by
      intro shorter starts
      by_cases empty : shorter = []
      · rw [empty, unended]
      · rw [Bool.eq_false_iff]
        intro ends
        exact halting ⟨shorter, empty, starts, ends⟩
    by_cases long : 8192 ≤ bytes.length
    · exact .inr (.inl ⟨fun shorter starts _ => none shorter starts, long⟩)
    · exact .inr (.inr ⟨none, Nat.lt_of_not_le long⟩)

theorem Reply.read (reply : Reply bytes head rest code) :
    Program.Yields (peer closes) (Holding deadline bytes sent) (receiveUntil deadline stream blankLine 8192) (.ok head)
      (Holding deadline rest sent) := by
  rw [reply.whole]
  exact receiveUntil_yields reply.formed.shortest (List.cons_ne_nil _ _) reply.fits

theorem Reply.status (reply : Reply bytes head rest code) : connectStatus head = some code := by
  rcases reply.formed with ⟨line, headers, same, -, -⟩
  exact (connectStatus_iff ⟨line ++ following headers, same.symm⟩).mpr reply.formed

theorem reply_of_shortest (shortest : Shortest (fun data => blankLine.isSuffixOf data) [] head)
    (fits : head.length ≤ 8192) (status : connectStatus head = some code) : Reply (head ++ rest) head rest code := by
  refine ⟨rfl, fits, ?_, (connectStatus_iff (isSuffixOf_blankLine.mp shortest.halted)).mp status⟩
  intro shorter starts ends
  by_contra differs
  have present : shorter ≠ [] := by
    rintro rfl
    cases List.suffix_nil.mp ends
  have fresh := shortest.fresh shorter present starts differs
  rw [List.nil_append, isSuffixOf_blankLine.mpr ends] at fresh
  cases fresh

theorem httpConnect_replied (written : connectRequest connector device = .ok request)
    (encoded : encodeAscii request = .ok payload) (reply : Reply bytes head rest code) :
    Program.Yields (peer closes) (Holding deadline bytes sent) (httpConnect deadline stream connector device)
      (judgement code) (Holding deadline rest (sent ++ payload)) := by
  have judged := httpConnect_judges written encoded (@Reply.read deadline stream closes _ _ _ (sent ++ payload) _ reply)
  rw [reply.status] at judged
  exact judged

/-- Any other stream is refused, unless the peer leaves the head open and stays silent. -/
theorem httpConnect_unreplied (written : connectRequest connector device = .ok request)
    (encoded : encodeAscii request = .ok payload) (unreplied : ¬∃ head rest code, Reply bytes head rest code) :
    (Short blankLine 8192 bytes ∧ closes = false ∧
      Program.Stuck (peer closes) (Holding deadline bytes sent) (httpConnect deadline stream connector device)) ∨
    (¬(Short blankLine 8192 bytes ∧ closes = false) ∧
      ∃ detail left, Program.Yields (peer closes) (Holding deadline bytes sent) (httpConnect deadline stream connector device)
        (.error (.connector "protocol" detail)) (Holding deadline left (sent ++ payload))) := by
  rcases heads bytes with ⟨head, rest, rfl, fits, shortest⟩ | ⟨unhalted, long⟩ | short
  · refine .inr ⟨?_, "The HTTP proxy returned an invalid CONNECT response.", rest, ?_⟩
    · rintro ⟨short, -⟩
      have unended := short.unhalted head (List.prefix_append head rest)
      have ends := shortest.halted
      rw [List.nil_append, unended] at ends
      cases ends
    · have status : connectStatus head = none := by
        cases status : connectStatus head with
        | none => rfl
        | some code => exact absurd ⟨head, rest, code, reply_of_shortest shortest fits status⟩ unreplied
      have judged := httpConnect_judges written encoded
        (@receiveUntil_yields deadline stream closes blankLine head rest (sent ++ payload) 8192 shortest
          (List.cons_ne_nil _ _) fits)
      rw [status] at judged
      exact judged
  · refine .inr ⟨fun waiting => absurd waiting.1.few (Nat.not_lt_of_le long),
      "The protocol handshake exceeded the allowed response size.", bytes.drop 8192, ?_⟩
    rw [httpConnect_steps written encoded]
    exact (send_holding payload).bind (receiveUntil_exceeds unhalted long).bind_error
  · cases closes with
    | false =>
        refine .inl ⟨short, rfl, ?_⟩
        rw [httpConnect_steps written encoded]
        exact (send_holding payload).bind_stuck (receiveUntil_stuck short).bind
    | true =>
        refine .inr ⟨nofun, "The peer closed before completing the protocol handshake.", [], ?_⟩
        rw [httpConnect_steps written encoded]
        exact (send_holding payload).bind (receiveUntil_closed short).bind_error

end Exchange

/-- What `_http_connect` makes of any stream, in any pieces, once it has sent its request. -/
structure ExactReplies (connector : Endpoint) (device : Device) (payload : Bytes) : Prop where
  /-- It returns exactly on a well-formed head with a code that grants the tunnel. -/
  returns : ∀ deadline stream closes bytes sent s, Holding deadline bytes sent s →
    ((∃ s', (httpConnect deadline stream connector device).play (peer closes) s = some (.ok (), s')) ↔
      ∃ head rest code, Reply bytes head rest code ∧ 200 ≤ code ∧ code < 300)
  /-- The head has been taken then, and what stands behind it is still to be read. -/
  takes : ∀ deadline stream closes bytes sent s s', Holding deadline bytes sent s →
    (httpConnect deadline stream connector device).play (peer closes) s = some (.ok (), s') →
      ∃ head rest code, Reply bytes head rest code ∧ Holding deadline rest (sent ++ payload) s'
  /-- Another code is refused, at the login or at the connection. -/
  refuses : ∀ deadline stream closes bytes sent s head rest code, Holding deadline bytes sent s →
    Reply bytes head rest code → ¬(200 ≤ code ∧ code < 300) →
      ∃ detail s', (httpConnect deadline stream connector device).play (peer closes) s =
        some (.error (.connector (if code = 407 then "proxy_auth" else "proxy_connect") detail), s')
  /-- A head that is malformed, too long or cut off breaks the protocol. -/
  breaks : ∀ deadline stream closes bytes sent s, Holding deadline bytes sent s →
    (¬∃ head rest code, Reply bytes head rest code) → ¬(Short blankLine 8192 bytes ∧ closes = false) →
      ∃ detail s', (httpConnect deadline stream connector device).play (peer closes) s =
        some (.error (.connector "protocol" detail), s')
  /-- A peer that leaves its head open and the connection too is waited for. -/
  waits : ∀ deadline stream bytes sent s, Holding deadline bytes sent s → Short blankLine 8192 bytes →
    (httpConnect deadline stream connector device).play (peer false) s = none

theorem Reply.unshort {bytes head rest : Bytes} {code : Nat} (reply : Reply bytes head rest code) :
    ¬Short blankLine 8192 bytes := by
  intro short
  have unended := short.unhalted head ⟨rest, reply.whole.symm⟩
  have ends := reply.formed.shortest.halted
  rw [List.nil_append, unended] at ends
  cases ends

theorem connect_replies_exact {connector : Endpoint} {device : Device} {request : String} {payload : Bytes}
    (written : connectRequest connector device = .ok request) (encoded : encodeAscii request = .ok payload) :
    ExactReplies connector device payload := by
  have when : ∀ deadline stream closes bytes sent s s', Holding deadline bytes sent s →
      (httpConnect deadline stream connector device).play (peer closes) s = some (.ok (), s') →
      ∃ head rest code, Reply bytes head rest code ∧ judgement code = .ok () ∧
        Holding deadline rest (sent ++ payload) s' := by
    intro deadline stream closes bytes sent s s' held returned
    by_cases replied : ∃ head rest code, Reply bytes head rest code
    · rcases replied with ⟨head, rest, code, reply⟩
      rcases httpConnect_replied written encoded reply s held with ⟨other, played, left⟩
      rw [returned] at played
      cases granted : judgement code with
      | error raised =>
          rw [granted] at played
          cases played
      | ok value =>
          rw [granted] at played
          cases played
          exact ⟨head, rest, code, reply, granted, left⟩
    · rcases httpConnect_unreplied written encoded replied with ⟨-, -, stuck⟩ | ⟨-, detail, left, refused⟩
      · rw [stuck s held] at returned
        cases returned
      · rcases refused s held with ⟨other, played, -⟩
        rw [returned] at played
        cases played
  refine ⟨?_, ?_, ?_, ?_, ?_⟩
  · intro deadline stream closes bytes sent s held
    constructor
    · rintro ⟨s', returned⟩
      rcases when deadline stream closes bytes sent s s' held returned with ⟨head, rest, code, reply, granted, -⟩
      exact ⟨head, rest, code, reply, judgement_ok.mp granted⟩
    · rintro ⟨head, rest, code, reply, granted⟩
      rcases httpConnect_replied written encoded reply s held with ⟨s', played, -⟩
      rw [judgement_ok.mpr granted] at played
      exact ⟨s', played⟩
  · intro deadline stream closes bytes sent s s' held returned
    rcases when deadline stream closes bytes sent s s' held returned with ⟨head, rest, code, reply, -, left⟩
    exact ⟨head, rest, code, reply, left⟩
  · intro deadline stream closes bytes sent s head rest code held reply refused
    rcases judgement_refused refused with ⟨detail, value⟩
    rcases httpConnect_replied written encoded reply s held with ⟨s', played, -⟩
    rw [value] at played
    exact ⟨detail, s', played⟩
  · intro deadline stream closes bytes sent s held unreplied heard
    rcases httpConnect_unreplied written encoded unreplied with ⟨short, silent, -⟩ | ⟨-, detail, left, refused⟩
    · exact absurd ⟨short, silent⟩ heard
    · rcases refused s held with ⟨s', played, -⟩
      exact ⟨detail, s', played⟩
  · intro deadline stream bytes sent s held short
    have unreplied : ¬∃ head rest code, Reply bytes head rest code := by
      rintro ⟨head, rest, code, reply⟩
      exact reply.unshort short
    rcases httpConnect_unreplied written encoded unreplied with ⟨-, -, stuck⟩ | ⟨heard, -⟩
    · exact stuck s held
    · exact absurd ⟨short, rfl⟩ heard

/-- A proxy that is logged in to. -/
theorem connect_replies_exact_bench :
    ∃ device connector seconds request payload,
      validateProfile Bench.networked (Bench.through "http_connect" "ssh" "ops" "pass:word") false =
        .ok (device, .proxy .httpConnect connector, seconds) ∧
      connectRequest connector device = .ok request ∧ encodeAscii request = .ok payload ∧
      ExactReplies connector device payload := by
  have kind : (validateProfile Bench.networked (Bench.through "http_connect" "ssh" "ops" "pass:word") false).toOption.map
      (fun checked => checked.2.1.kind) = some (some .httpConnect) := by decide +kernel
  cases accepted : validateProfile Bench.networked (Bench.through "http_connect" "ssh" "ops" "pass:word") false with
  | error raised =>
      rw [accepted] at kind
      cases kind
  | ok checked =>
      rw [accepted] at kind
      rcases checked with ⟨device, access, seconds⟩
      rcases Connector.kind_proxy (Option.some.inj kind) with ⟨connector, rfl⟩
      have laws : AddressLaws Bench.networked := addressLaws rfl rfl
      have valid := validateProfile_accepted laws accepted
      rcases httpLogin_configured (valid.proxy .httpConnect connector rfl).2.1 with ⟨login, configured, -⟩
      rcases request_written laws valid.target configured with ⟨request, payload, written, ascii, -⟩
      have encoded : encodeAscii request = .ok payload := by rw [encodeAscii, ascii]
      exact ⟨device, connector, seconds, request, payload, rfl, written, encoded, connect_replies_exact written encoded⟩

end NetworkGateway.Connectors
