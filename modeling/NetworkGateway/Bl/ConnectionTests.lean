import NetworkGateway.Dal.Streams

/-! `app/bl/services/connection_tests.py`: read-only authentication checks. -/

namespace NetworkGateway.ConnectionTests

open Library.Interaction Connectors

/-! Telnet. -/

/-- A prompt that ends the data: one of the words, a colon, blanks. -/
def prompt (words : List String) : Bytes → Bool := Bytes.afterBreak fun data =>
  words.any fun name =>
    let opening := Bytes.utf8 (name ++ ":")
    opening.isPrefixOf data &&
      [[], [10]].contains ((data.drop opening.length).dropWhile (fun b => b = 32 || b = 9))

/-- `_USERNAME`. -/
def usernamePrompt : Bytes → Bool := prompt ["Username", "username", "Login", "login"]

/-- `_PASSWORD`. -/
def passwordPrompt : Bytes → Bool := prompt ["Password", "password"]

def telnetLogin (deadline : Deadline) (stream : Handle) (device : Device) : Net Unit := do
  let (negotiator, _) ← readPrompt deadline stream usernamePrompt (some .normal)
  let username ← Program.lift (textItem device.auth "username")
  send deadline stream (Bytes.utf8 username ++ [13, 10])
  let (negotiator, _) ← readPrompt deadline stream passwordPrompt negotiator
  let password ← Program.lift (textItem device.auth "password")
  send deadline stream (Bytes.utf8 password ++ [13, 10])
  let _ ← readPrompt deadline stream shellPrompt negotiator
  return ()

/-! NETCONF. -/

def namespace_ : String := "urn:ietf:params:xml:ns:netconf:base:1.0"
def base : String := "urn:ietf:params:netconf:base:1.0"
def endOfMessage : Bytes := Bytes.utf8 "]]>]]>"

def hello : Bytes :=
  Bytes.utf8 ("<hello xmlns=\"" ++ namespace_ ++ "\"><capabilities><capability>" ++ base ++
    "</capability></capabilities></hello>") ++ endOfMessage

/-- `{namespace}name`. -/
def qualified (name : String) : String := "\x7b" ++ namespace_ ++ "\x7d" ++ name

/-- `encoding=["']([^"']+)["']` at the start of the text, returning the group. -/
def encodingHere (text : List Char) : Option String :=
  let opening := "encoding=".toList
  let isQuote := fun c : Char => c == '"' || c == '\''
  if opening.isPrefixOf text then
    match text.drop opening.length with
    | quote :: rest =>
        let name := rest.takeWhile (fun c => !isQuote c)
        if isQuote quote && !name.isEmpty && !(rest.dropWhile (fun c => !isQuote c)).isEmpty then
          some (String.ofList name)
        else none
    | [] => none
  else none

/-- `[^?]*` is greedy: the last place it can reach decides. -/
def lastEncoding : List Char → Option String
  | [] => none
  | c :: rest =>
      if c = '?' then none else (lastEncoding rest).or (encodingHere (c :: rest))

def declaredEncoding (text : String) : Option String :=
  let body := match text.toList with
    | c :: rest => if c.toNat = 0xFEFF then rest else c :: rest
    | [] => []
  let opening := "<?xml".toList
  if opening.isPrefixOf body then
    match body.drop opening.length with
    | c :: rest => if Text.isSpace c then lastEncoding rest else none
    | [] => none
  else none

/-- A decimal text between 1 and 4294967295; `int` takes 4300 digits at most. -/
def sessionId (text : String) : Bool :=
  text != "" && text.toList.all Char.isDigit && text.length ≤ 4300 &&
    (let n := text.toList.foldl (fun n c => n * 10 + (c.toNat - 48)) 0
     1 ≤ n && n ≤ 4294967295)

def compatibleHello (root : Xml) : Bool :=
  match root.find (qualified "capabilities"), root.find (qualified "session-id") with
  | some caps, some session =>
      root.tag == qualified "hello" && root.children.length == 2 &&
        caps.children.all (fun node => node.tag == qualified "capability" && node.children.isEmpty) &&
        session.text.any sessionId && session.children.isEmpty &&
        caps.children.any (fun node => node.text == some base)
  | _, _ => false

section

variable {Token : Type} (N : Libraries Token)

/-- A server hello without a DTD, in UTF-8, that parses to a compatible hello. -/
def acceptHello (raw : Bytes) : Except Raised Unit :=
  let upper := Bytes.upper raw
  if List.elem 0 raw || Bytes.contains upper (Bytes.utf8 "<!DOCTYPE") ||
      Bytes.contains upper (Bytes.utf8 "<!ENTITY") then
    .error (.connector "protocol" "NETCONF hello must not contain a DTD or entity declaration.")
  else
    let invalid : Raised :=
      .connector "protocol" "The server did not provide a valid compatible NETCONF hello."
    match Bytes.decodeUtf8 raw with
    | none => .error invalid
    | some text =>
        if (declaredEncoding text).any (fun name => !(["utf-8", "utf8"].contains (Text.lower name))) then
          .error invalid
        else match N.parseXml text with
          | none => .error invalid
          | some root => if compatibleHello root then .ok () else .error invalid

def netconfHello (deadline : Deadline) (client : Handle) : Net Unit := do
  let channel ← own (← Net.openSession client (← remaining deadline))
  Net.settimeout channel (← remaining deadline)
  Net.invokeSubsystem channel "netconf"
  send deadline channel hello
  let response ← receiveUntil deadline channel endOfMessage 65536
  Program.lift (acceptHello N (response.take (response.length - endOfMessage.length)))

def login (deadline : Deadline) (device : Device) (demoMode : Bool) (stream : Handle) : Net String :=
  match device.protocol with
  | .telnet => do
      telnetLogin deadline stream device
      return "Generic Telnet login and prompt verified; no device commands were executed."
  | .netconf => do
      let client ← connectSsh N deadline device.toEndpoint stream demoMode "device"
      netconfHello N deadline client
      return "SSH authentication and NETCONF hello verified; no RPCs were sent."
  | .ssh => do
      let _ ← connectSsh N deadline device.toEndpoint stream demoMode "device"
      return "SSH authentication verified; no device commands were executed."

/-- The body of the `with` block. -/
def authenticate (deadline : Deadline) (device : Device) (connector : Connector) (demoMode : Bool) :
    Net String := do
  let stream ← openStream N deadline device connector demoMode
  let detail ← login N deadline device demoMode stream
  let _ ← remaining deadline
  return detail

def failure (raised : Raised) : String × String :=
  match raised with
  | .connector stage detail => (stage, detail)
  | .timedOut => ("timeout", "The overall connection-test deadline expired.")
  | .ssh | .authentication | .badHostKey | .os | .eof =>
      ("protocol", "The connection closed or failed during protocol negotiation.")
  | _ => ("internal", "The connection test could not be completed.")

/-- An exception after the deadline is a timeout. -/
def failureBy (deadline : Deadline) (raised : Raised) : Net (String × String) := do
  let late := ("timeout", "The overall connection-test deadline expired.")
  let expired ← Net.expired
  if expired then return late
  else do
    let now ← Net.monotonic
    if deadline.endsAt ≤ now then return late else return failure raised

/-- `success`, `stage` and `detail` of the outcome of a `with` block. -/
def report (deadline : Deadline) (outcome : Except Raised String) : Net (Bool × String × String) :=
  match outcome with
  | .ok detail => return (true, "complete", detail)
  | .error raised => do
      let failed ← failureBy deadline raised
      return (false, failed)

/-- The `with` block: entering starts the timer, leaving closes what was owned. -/
def underDeadline (device : Device) (connector : Connector) (seconds : Timeout) (demoMode : Bool) :
    Net (Bool × String × String) := do
  let now ← Net.monotonic
  let deadline : Deadline := ⟨now + seconds.1⟩
  let entered ← Program.settle (Net.startTimer seconds.1)
  match entered with
  | .error raised => return (false, failure raised)
  | .ok _ => do
      let outcome ← Program.settle (authenticate N deadline device connector demoMode)
      Net.closeDeadline
      report deadline outcome

/-- `success`, `stage` and `detail` of a test. -/
def outcome (profile : Value) (demoMode : Bool) : Net (Bool × String × String) :=
  match validateProfile N profile demoMode with
  | .error raised => return (false, failure raised)
  | .ok (device, connector, seconds) => underDeadline N device connector seconds demoMode

def runConnectionTest (profile : Value) (demoMode : Bool) : Net Dict := do
  let started ← Net.monotonic
  let (success, stage, detail) ← outcome N profile demoMode
  let finished ← Net.monotonic
  return [("success", .bool success), ("stage", .str stage), ("detail", .str detail),
    ("duration_ms", .float (.finite (N.round ((finished - started) * 1000))))]

end

end NetworkGateway.ConnectionTests
