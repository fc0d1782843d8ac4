import NetworkGateway.Dal.TelnetClient

/-! The negotiator undoes the Telnet encoding and refuses every option, however its input is cut. -/

namespace NetworkGateway.Telnet

open Library.Interaction Library.Transducer

def sends {α : Type} : Command α → Option (Handle × Bytes)
  | .sendall stream payload => some (stream, payload)
  | _ => none

/-- A send is answered by its success or by an `OSError`. -/
def Answered : {α : Type} → Command α → α → Prop
  | _, .sendall _ _, answer => ∀ raised, answer = .error raised → raised.isOs
  | _, _, _ => True

def Delivered (events : List (Event Command)) : Prop := ∀ event ∈ events, Answered event.command event.answer

def sentBy (events : List (Event Command)) : List (Option (Handle × Bytes)) :=
  events.map (fun event => sends event.command)

theorem Delivered.append {first second : List (Event Command)} (delivered : Delivered (first ++ second)) :
    Delivered first ∧ Delivered second := by
  unfold Delivered at delivered
  rw [List.forall_mem_append] at delivered
  exact delivered

variable {stream : Handle} {events : List (Event Command)}

theorem sendReply_runs {payload : Option Bytes} {outcome : Except Raised Unit}
    (runs : Program.Runs (sendReply stream payload) events outcome) (delivered : Delivered events) :
    outcome = .ok () ∧ sentBy events = payload.toList.map (fun bytes => some (stream, bytes)) := by
  cases payload with
  | none =>
      cases runs
      exact ⟨rfl, rfl⟩
  | some bytes =>
      have command : sendReply stream (some bytes) = .call (.sendall stream bytes) (fun answer =>
          (Program.lift answer).catching fun raised => if raised.isOs then pure () else Program.raise raised) := rfl
      rw [command] at runs
      cases runs with
      | call answer rest =>
          have kind := delivered _ List.mem_cons_self
          cases answer with
          | ok u =>
              cases rest
              exact ⟨rfl, rfl⟩
          | error raised =>
              have os : raised.isOs = true := kind raised rfl
              change Program.Runs (if raised.isOs then pure () else Program.raise raised) _ _ at rest
              rw [if_pos os] at rest
              cases rest
              exact ⟨rfl, rfl⟩

/-- `feed` runs the machine over its bytes and sends the machine's replies in their order. -/
theorem feed_runs {state : State} {bytes : Bytes} {outcome : Except Raised (State × Bytes)}
    (runs : Program.Runs (feed stream state bytes) events outcome) (delivered : Delivered events) :
    outcome = .ok (bytes.foldl next state, emitted next data state bytes) ∧
      sentBy events = (emitted next replies state bytes).map (fun payload => some (stream, payload)) := by
  induction bytes generalizing state events outcome with
  | nil =>
      cases runs
      exact ⟨rfl, rfl⟩
  | cons byte rest ih =>
      rcases Program.runs_andThen runs with ⟨first, later, sent, replied, further, rfl⟩
      rcases delivered.append with ⟨atFirst, atLater⟩
      rcases sendReply_runs replied atFirst with ⟨rfl, firstSent⟩
      rcases Program.runs_andThen further with ⟨middle, last, fed, restRuns, final, rfl⟩
      rcases atLater.append with ⟨atMiddle, -⟩
      rcases ih restRuns atMiddle with ⟨rfl, middleSent⟩
      cases final
      refine ⟨rfl, ?_⟩
      rw [List.append_nil, sentBy, List.map_append, ← sentBy, ← sentBy, firstSent, middleSent, emitted_cons,
        List.map_append]
      rfl

/-- `feed` on one chunk after the other, with all their data. -/
def feedAll (stream : Handle) (state : State) : List Bytes → Net (State × Bytes)
  | [] => return (state, [])
  | chunk :: rest => do
      let (state, data) ← feed stream state chunk
      let (state, further) ← feedAll stream state rest
      return (state, data ++ further)

theorem feedAll_runs {state : State} {chunks : List Bytes} {outcome : Except Raised (State × Bytes)}
    (runs : Program.Runs (feedAll stream state chunks) events outcome) (delivered : Delivered events) :
    outcome = .ok (chunks.flatten.foldl next state, emitted next data state chunks.flatten) ∧
      sentBy events = (emitted next replies state chunks.flatten).map (fun payload => some (stream, payload)) := by
  induction chunks generalizing state events outcome with
  | nil =>
      cases runs
      exact ⟨rfl, rfl⟩
  | cons chunk rest ih =>
      rcases Program.runs_andThen runs with ⟨first, later, fed, fedRuns, further, rfl⟩
      rcases delivered.append with ⟨atFirst, atLater⟩
      rcases feed_runs fedRuns atFirst with ⟨rfl, firstSent⟩
      rcases Program.runs_andThen further with ⟨middle, last, remaining, restRuns, final, rfl⟩
      rcases atLater.append with ⟨atMiddle, -⟩
      rcases ih restRuns atMiddle with ⟨rfl, middleSent⟩
      cases final
      constructor
      · rw [List.flatten_cons, List.foldl_append, emitted_append]
      · rw [List.append_nil, sentBy, List.map_append, ← sentBy, ← sentBy, firstSent, middleSent, List.flatten_cons,
          emitted_append, List.map_append]

/-! The encoding. -/

inductive Verb where
  | do_
  | dont
  | will
  | wont
  deriving DecidableEq, Repr

def Verb.code : Verb → UInt8
  | do_ => Telnet.do_
  | dont => Telnet.dont
  | will => Telnet.will
  | wont => Telnet.wont

/-- What a device sends: data, escaped data, option requests, subnegotiations and other commands. -/
inductive Token where
  | data (byte : UInt8) (plain : byte ≠ iac)
  | escaped
  | option (verb : Verb) (code : UInt8)
  | subnegotiation (payload : Bytes)
  | command (code : UInt8) (other : code ∉ [iac, do_, dont, will, wont, sb])

namespace Token

/-- A subnegotiation's payload with `0xFF` doubled. -/
def escape (payload : Bytes) : Bytes := payload.flatMap (fun byte => if byte = iac then [iac, iac] else [byte])

def encode : Token → Bytes
  | .data byte _ => [byte]
  | .escaped => [iac, iac]
  | .option verb code => [iac, verb.code, code]
  | .subnegotiation payload => [iac, sb] ++ escape payload ++ [iac, se]
  | .command code _ => [iac, code]

def content : Token → Bytes
  | .data byte _ => [byte]
  | .escaped => [iac]
  | .option _ _ | .subnegotiation _ | .command _ _ => []

/-- `DO` is answered by `WONT`, `WILL` by `DONT`. -/
def refusals : Token → List Bytes
  | .option .do_ code => [[iac, Telnet.wont, code]]
  | .option .will code => [[iac, Telnet.dont, code]]
  | _ => []

end Token

/-- Inside a subnegotiation nothing is emitted, and an escaped payload stays inside. -/
theorem escape_final (payload : Bytes) : (Token.escape payload).foldl next .gotSb = .gotSb := by
  induction payload with
  | nil => rfl
  | cons byte rest ih =>
      rw [Token.escape, List.flatMap_cons, List.foldl_append, ← Token.escape]
      by_cases escaped : byte = iac
      · rw [if_pos escaped]
        exact ih
      · rw [if_neg escaped]
        have stays : next .gotSb byte = .gotSb := by simp [next, react, escaped]
        rw [List.foldl_cons, List.foldl_nil, stays, ih]

theorem escape_silent {ο : Type} {emit : State → UInt8 → List ο} (quiet : ∀ byte, emit .gotSb byte = [])
    (escaping : emit .gotSbIac iac = []) (payload : Bytes) : emitted next emit .gotSb (Token.escape payload) = [] := by
  induction payload with
  | nil => rfl
  | cons byte rest ih =>
      rw [Token.escape, List.flatMap_cons, emitted_append, ← Token.escape]
      by_cases escaped : byte = iac
      · rw [if_pos escaped, emitted_cons, emitted_cons, quiet]
        change [] ++ (emit .gotSbIac iac ++ []) ++ emitted next emit .gotSb (Token.escape rest) = []
        rw [escaping, ih]
        rfl
      · rw [if_neg escaped]
        have stays : next .gotSb byte = .gotSb := by simp [next, react, escaped]
        rw [emitted_cons, quiet, List.foldl_cons, List.foldl_nil, stays, ih]
        rfl

theorem subnegotiation_final (payload : Bytes) :
    (Token.encode (.subnegotiation payload)).foldl next .normal = .normal := by
  change (([iac, sb] ++ Token.escape payload) ++ [iac, se]).foldl next .normal = .normal
  rw [List.foldl_append, List.foldl_append]
  change [iac, se].foldl next ((Token.escape payload).foldl next .gotSb) = .normal
  rw [escape_final]
  rfl

theorem subnegotiation_silent {ο : Type} {emit : State → UInt8 → List ο} (opening : emitted next emit .normal [iac, sb] = [])
    (quiet : ∀ byte, emit .gotSb byte = []) (escaping : emit .gotSbIac iac = [])
    (closing : emitted next emit .gotSb [iac, se] = []) (payload : Bytes) :
    emitted next emit .normal (Token.encode (.subnegotiation payload)) = [] := by
  change emitted next emit .normal (([iac, sb] ++ Token.escape payload) ++ [iac, se]) = []
  rw [emitted_append, emitted_append, opening, List.foldl_append]
  change [] ++ emitted next emit .gotSb (Token.escape payload) ++
    emitted next emit ((Token.escape payload).foldl next .gotSb) [iac, se] = []
  rw [escape_silent quiet escaping, escape_final, closing]
  rfl

theorem command_ignored {code : UInt8} (other : code ∉ [iac, do_, dont, will, wont, sb]) :
    react .gotIac code = (.normal, [], none) := by
  simp only [List.mem_cons, List.not_mem_nil, or_false, not_or] at other
  rcases other with ⟨escape, request, refusal, offer, withdrawal, begins⟩
  simp [react, escape, request, refusal, offer, withdrawal, begins]

theorem data_code : Code next data .normal Token.encode Token.content where
  returns token := by
    cases token with
    | data byte plain => simp [Token.encode, next, react, plain]
    | escaped => rfl
    | option verb code => cases verb <;> rfl
    | subnegotiation payload => exact subnegotiation_final payload
    | command code other =>
        change next (next .normal iac) code = .normal
        change (react .gotIac code).1 = .normal
        rw [command_ignored other]
  emits token := by
    cases token with
    | data byte plain => simp [Token.encode, Token.content, data, react, plain]
    | escaped => rfl
    | option verb code => cases verb <;> rfl
    | subnegotiation payload =>
        apply subnegotiation_silent rfl _ rfl rfl
        intro byte
        by_cases escape : byte = iac <;> simp [data, react, escape]
    | command code other =>
        change (react .gotIac code).2.1 ++ [] = []
        rw [command_ignored other]
        rfl

theorem replies_code : Code next replies .normal Token.encode Token.refusals where
  returns := data_code.returns
  emits token := by
    cases token with
    | data byte plain => simp [Token.encode, Token.refusals, replies, react, plain]
    | escaped => rfl
    | option verb code => cases verb <;> rfl
    | subnegotiation payload =>
        apply subnegotiation_silent rfl _ rfl rfl
        intro byte
        by_cases escape : byte = iac <;> simp [replies, react, escape]
    | command code other =>
        change (react .gotIac code).2.2.toList ++ [] = []
        rw [command_ignored other]
        rfl

/-- Whatever the device encodes and however it arrives, the data comes out, every option request is
refused in its turn, and the negotiator rests. -/
theorem feed_decodes (tokens : List Token) (chunks : List Bytes)
    (cut : chunks.flatten = tokens.flatMap Token.encode) {outcome : Except Raised (State × Bytes)}
    (runs : Program.Runs (feedAll stream .normal chunks) events outcome) (delivered : Delivered events) :
    outcome = .ok (.normal, tokens.flatMap Token.content) ∧
      sentBy events = (tokens.flatMap Token.refusals).map (fun payload => some (stream, payload)) := by
  have fed := feedAll_runs runs delivered
  rw [cut, data_code.final, data_code.output, replies_code.output] at fed
  exact fed

theorem answerable (α : Type) (command : Command α) : ∃ answer, Answered command answer := by
  cases command
  case sendall stream payload => exact ⟨.ok (), nofun⟩
  case awaitLookup host port timeout => exact ⟨.pending, trivial⟩
  all_goals exact ⟨default, trivial⟩

/-- A request split between two reads, and an option numbered `0xFF`. -/
theorem feed_decodes_split : ∃ chunks : List Bytes, ∃ events,
    chunks = [[65, 255], [253], [255, 255, 250, 255], [255, 240, 255, 240, 255, 255, 255, 251, 1]] ∧
    Program.Runs (feedAll 0 .normal chunks) events (.ok (.normal, [65, 255])) ∧
    sentBy events = [some (0, [255, 252, 255]), some (0, [255, 254, 1])] := by
  have plain : (65 : UInt8) ≠ iac := by decide
  have cut : [[65, 255], [253], [255, 255, 250, 255], [255, 240, 255, 240, 255, 255, 255, 251, 1]].flatten =
      [Token.data 65 plain, .option .do_ 255, .subnegotiation [255, 240], .escaped, .option .will 1].flatMap
        Token.encode := rfl
  rcases Program.runs_exist answerable
    (feedAll 0 .normal [[65, 255], [253], [255, 255, 250, 255], [255, 240, 255, 240, 255, 255, 255, 251, 1]])
    with ⟨events, outcome, runs, delivered⟩
  have decoded := feed_decodes _ _ cut runs delivered
  rw [decoded.1] at runs
  exact ⟨_, events, rfl, runs, decoded.2⟩

end NetworkGateway.Telnet
