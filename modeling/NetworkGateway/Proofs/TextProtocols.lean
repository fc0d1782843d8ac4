import NetworkGateway.Library.Shell
import NetworkGateway.Demo.HttpConnectPeer
import NetworkGateway.Demo.TelnetPeer
import NetworkGateway.Proofs.Socks

/-! What an HTTP proxy, a bastion's shell and a Telnet device read from the texts they are sent. -/

namespace NetworkGateway.Connectors

open Library.Interaction Library.Reading Library.Result

variable {Token : Type} {N : Libraries Token}

/-! The characters of hosts and ports. -/

def isIpv6 (N : Libraries Token) (host : String) : Bool := (N.ipAddress host).any (fun address => address.version == 6)

theorem isHex_alphanum {c : Char} (hex : Address.isHex c) : c.isAlphanum := by
  simp only [Address.isHex, Bool.or_eq_true, Bool.and_eq_true, decide_eq_true_iff] at hex
  rcases hex with (digit | ⟨lower, upper⟩) | ⟨lower, upper⟩
  · simp [Char.isAlphanum, digit]
  · exact Text.isAlphanum_iff.mpr (.inr (.inl ⟨lower, Nat.le_trans upper (by decide)⟩))
  · exact Text.isAlphanum_iff.mpr (.inl ⟨lower, Nat.le_trans upper (by decide)⟩)

/-- A host outside brackets has the characters of a name, one inside brackets those of an IPv6 address. -/
theorem HostText.characters (laws : AddressLaws N) {host : String} (valid : HostText N host) :
    (isIpv6 N host = true ∧ ':' ∈ host.toList ∧ ∀ c ∈ host.toList, Address.isHex c ∨ c = '.' ∨ c = ':') ∨
      (isIpv6 N host = false ∧ ':' ∉ host.toList ∧ ∀ c ∈ host.toList, c.isAlphanum ∨ c = '.' ∨ c = '-') := by
  cases read : N.ipAddress host with
  | some address =>
      have characters := laws.characters host address read valid.unscoped
      by_cases six : address.version = 6
      · exact .inl ⟨by simp [isIpv6, read, six], (laws.colon host address read).mpr six, characters⟩
      · have absent := mt (laws.colon host address read).mp six
        refine .inr ⟨by simp [isIpv6, read, six], absent, ?_⟩
        intro c member
        rcases characters c member with hex | dot | rfl
        · exact .inl (isHex_alphanum hex)
        · exact .inr (.inl dot)
        · exact absurd member absent
  | none =>
      have named := valid.named read
      simp only [hostname, Bool.and_eq_true, decide_eq_true_iff, List.all_eq_true, Bool.or_eq_true, beq_iff_eq] at named
      have characters : ∀ c ∈ host.toList, c.isAlphanum ∨ c = '.' ∨ c = '-' := by
        intro c member
        rcases named.1.2 c member with (alphanumeric | dot) | dash
        · exact .inl alphanumeric
        · exact .inr (.inl dot)
        · exact .inr (.inr dash)
      refine .inr ⟨by simp [isIpv6, read], ?_, characters⟩
      intro member
      rcases characters ':' member with alphanumeric | dot | dash
      · cases alphanumeric
      · cases dot
      · cases dash

theorem HostText.undashed (laws : AddressLaws N) {host : String} (valid : HostText N host) :
    host.toList.head? ≠ some '-' := by
  intro dashed
  have member := List.mem_of_mem_head? dashed
  cases read : N.ipAddress host with
  | some address =>
      rcases laws.characters host address read valid.unscoped '-' member with hex | dot | colon
      · cases hex
      · cases dot
      · cases colon
  | none =>
      have named := valid.named read
      simp only [hostname, dashed, Option.any_some, Bool.and_eq_true] at named
      exact absurd named.2.1 (by decide)

theorem toString_port (port : Port) : (toString port.1).toList = Nat.toDigits 10 port.1.toNat := by
  rcases port with ⟨number, positive, bounded⟩
  cases number with
  | ofNat n =>
      rw [Int.toString_eq_repr]
      exact Nat.toList_repr
  | negSucc n => omega

theorem read_port (port : Port) : HttpConnectPeer.port (toString port.1).toList = some port.1.toNat := by
  have digits : (Nat.toDigits 10 port.1.toNat).all Char.isDigit = true := by
    rw [List.all_eq_true]
    intro c member
    exact Nat.isDigit_of_mem_toDigits (by decide) (by decide) member
  have present : (Nat.toDigits 10 port.1.toNat).isEmpty = false := by
    rw [List.isEmpty_eq_false_iff]
    exact Nat.toDigits_ne_nil
  unfold HttpConnectPeer.port
  rw [toString_port, digits, present, Nat.ofDigitChars_ten_toDigits]
  rfl

/-! The authority of a CONNECT request. -/

theorem upTo_append {mark : Char} {text : List Char} (absent : mark ∉ text) (rest : List Char) :
    Reader.upTo mark (text ++ mark :: rest) = some (text, rest) := by
  have read := Reader.reads_upTo absent rest
  rw [List.append_assoc] at read
  exact read

theorem read_authority (laws : AddressLaws N) {host : String} (valid : HostText N host) (port : Port) :
    HttpConnectPeer.authority (authority host port).toList = some ⟨host, isIpv6 N host, port.1.toNat⟩ := by
  have present : host.toList.isEmpty = false := by
    rw [List.isEmpty_eq_false_iff]
    intro empty
    exact valid.present (String.toList_eq_nil_iff.mp empty)
  rcases valid.characters laws with ⟨six, colon, characters⟩ | ⟨named, absent, characters⟩
  · have closed : ']' ∉ host.toList := by
      intro member
      rcases characters ']' member with hex | dot | colon
      · cases hex
      · cases dot
      · cases colon
    have all : host.toList.all (fun c => Address.isHex c || c == ':' || c == '.') = true := by
      rw [List.all_eq_true]
      intro c member
      rcases characters c member with hex | rfl | rfl
      · simp [hex]
      · simp
      · simp
    have text : (authority host port).toList = '[' :: (host.toList ++ ']' :: ':' :: (toString port.1).toList) := by
      simp [authority, colon]
    rw [text, six]
    simp only [HttpConnectPeer.authority, upTo_append closed, present, all, read_port, Option.map_some, String.ofList_toList]
    rfl
  · have opened : ∀ rest, host.toList ++ ':' :: (toString port.1).toList ≠ '[' :: rest := by
      intro rest same
      cases split : host.toList with
      | nil =>
          rw [split] at present
          cases present
      | cons c others =>
          rw [split] at same
          have first : c = '[' := (List.cons.inj same).1
          rcases characters c (by rw [split]; exact List.mem_cons_self) with alphanumeric | rfl | rfl
          · rw [first] at alphanumeric
            cases alphanumeric
          · cases first
          · cases first
    have all : host.toList.all (fun c => c.isAlphanum || c == '.' || c == '-') = true := by
      rw [List.all_eq_true]
      intro c member
      rcases characters c member with alphanumeric | rfl | rfl
      · simp [alphanumeric]
      · simp
      · simp
    have text : (authority host port).toList = host.toList ++ ':' :: (toString port.1).toList := by
      simp [authority, absent]
    rw [text, named]
    unfold HttpConnectPeer.authority
    split
    · rename_i rest same
      exact absurd same (opened rest)
    · rw [upTo_append absent]
      simp only [present, all, read_port, Option.map_some, String.ofList_toList]
      rfl

/-! Lines of the request head. -/

def Visible (c : Char) : Prop := 33 ≤ c.toNat ∧ c.toNat < 127

theorem visible_alphanum {c : Char} (alphanumeric : c.isAlphanum) : Visible c := by
  have range := Text.isAlphanum_iff.mp alphanumeric
  unfold Visible
  omega

theorem visible_port (port : Port) : ∀ c ∈ (toString port.1).toList, Visible c := by
  intro c member
  rw [toString_port] at member
  have digit : c.isDigit := Nat.isDigit_of_mem_toDigits (by decide) (by decide) member
  exact visible_alphanum (by simp [Char.isAlphanum, digit])

theorem visible_host (laws : AddressLaws N) {host : String} (valid : HostText N host) : ∀ c ∈ host.toList, Visible c := by
  intro c member
  rcases valid.characters laws with ⟨-, -, characters⟩ | ⟨-, -, characters⟩
  · rcases characters c member with hex | rfl | rfl
    · exact visible_alphanum (isHex_alphanum hex)
    · exact ⟨by decide, by decide⟩
    · exact ⟨by decide, by decide⟩
  · rcases characters c member with alphanumeric | rfl | rfl
    · exact visible_alphanum alphanumeric
    · exact ⟨by decide, by decide⟩
    · exact ⟨by decide, by decide⟩

theorem visible_authority (laws : AddressLaws N) {host : String} (valid : HostText N host) (port : Port) :
    ∀ c ∈ (authority host port).toList, Visible c := by
  have inHost := visible_host laws valid
  have inPort := visible_port port
  intro c member
  unfold authority at member
  split at member
  · simp only [String.toList_append, List.mem_append] at member
    rcases member with ((opening | within) | closing) | digit
    · rw [List.mem_singleton.mp opening]
      exact ⟨by decide, by decide⟩
    · exact inHost c within
    · rcases List.mem_cons.mp closing with rfl | closing
      · exact ⟨by decide, by decide⟩
      · rw [List.mem_singleton.mp closing]
        exact ⟨by decide, by decide⟩
    · exact inPort c digit
  · simp only [String.toList_append, List.mem_append] at member
    rcases member with (within | colon) | digit
    · exact inHost c within
    · rw [List.mem_singleton.mp colon]
      exact ⟨by decide, by decide⟩
    · exact inPort c digit

def Inline (text : List Char) : Prop := ∀ c ∈ text, Visible c ∨ c = ' '

theorem inline_of_all {text : List Char} (checked : text.all (fun c => 33 ≤ c.toNat && c.toNat < 127 || c == ' ') = true) :
    Inline text := by
  intro c member
  have here := List.all_eq_true.mp checked c member
  simpa [Visible] using here

theorem Inline.append {first second : List Char} (before : Inline first) (after : Inline second) :
    Inline (first ++ second) := by
  intro c member
  rcases List.mem_append.mp member with early | late
  · exact before c early
  · exact after c late

theorem Inline.unbroken {text : List Char} (inline : Inline text) : '\r' ∉ text ∧ '\n' ∉ text := by
  constructor
  · intro member
    rcases inline _ member with visible | space
    · exact absurd visible.1 (by decide)
    · cases space
  · intro member
    rcases inline _ member with visible | space
    · exact absurd visible.1 (by decide)
    · cases space

theorem reads_line {text : List Char} (inline : Inline text) :
    Reader.Reads HttpConnectPeer.line (text ++ ['\r', '\n']) text := by
  have feedless : text.contains '\n' = false := by simpa using inline.unbroken.2
  have parts : text ++ ['\r', '\n'] = text ++ ['\r'] ++ ['\n'] := by simp
  rw [parts]
  apply Reader.Reads.bind (Reader.reads_upTo inline.unbroken.1)
  apply (Reader.reads_next '\n').finish
  rw [feedless]
  exact Reader.reads_pure text

def headerText (field : String × String) : List Char := field.1.toList ++ ':' :: ' ' :: field.2.toList

theorem read_header {field : String × String} (named : ':' ∉ field.1.toList) :
    HttpConnectPeer.header (headerText field) = some field := by
  unfold HttpConnectPeer.header headerText
  rw [upTo_append named]
  simp only [String.ofList_toList]

theorem reads_headers {fields : List (String × String)}
    (written : ∀ field ∈ fields, ':' ∉ field.1.toList ∧ Inline (headerText field)) {fuel : Nat}
    (enough : fields.length < fuel) :
    Reader.Reads (HttpConnectPeer.headers fuel)
      (fields.flatMap (fun field => headerText field ++ ['\r', '\n']) ++ ['\r', '\n']) fields := by
  induction fields generalizing fuel with
  | nil =>
      cases fuel with
      | zero => cases enough
      | succ fuel =>
          have blank : Reader.Reads HttpConnectPeer.line (['\r', '\n'] : List Char) [] := @reads_line [] nofun
          exact blank.finish (Reader.reads_pure [])
  | cons field fields ih =>
      cases fuel with
      | zero => cases enough
      | succ fuel =>
          have here := written field List.mem_cons_self
          have further := ih (fun other member => written other (List.mem_cons_of_mem field member))
            (Nat.lt_of_succ_lt_succ enough)
          rw [List.flatMap_cons, List.append_assoc]
          apply Reader.Reads.bind (reads_line here.2)
          have present : (headerText field).isEmpty = false := by
            rw [List.isEmpty_eq_false_iff]
            exact List.append_ne_nil_of_right_ne_nil _ (List.cons_ne_nil _ _)
          rw [present]
          apply Reader.Reads.start (Reader.reads_ofOption (read_header here.1))
          exact further.finish (Reader.reads_pure (field :: fields))

/-! Basic credentials. -/

theorem standard_symbol : ∀ n < 64, Visible (Library.Base64.standard.symbol n) ∧ Library.Base64.standard.symbol n ≠ '=' := by
  unfold Visible
  decide +kernel

theorem encoded_symbols (data : Bytes) :
    ∀ c ∈ Library.Base64.encode Library.Base64.standard data, Visible c ∧ c ≠ '=' := by
  intro c member
  rcases Library.Base64.encode_symbols data c member with ⟨n, small, rfl⟩
  exact standard_symbol n small

theorem b64encode_inline (data : Bytes) : Inline (b64encode data).toList := by
  intro c member
  simp only [b64encode, String.toList_ofList, List.mem_append] at member
  rcases member with symbol | fill
  · exact .inl (encoded_symbols data c symbol).1
  · rw [List.eq_of_mem_replicate fill]
    exact .inl ⟨by decide, by decide⟩

theorem b64decode_b64encode (data : Bytes) : HttpConnectPeer.b64decode (b64encode data).toList = some data := by
  have body : (b64encode data).toList.takeWhile (· != '=') = Library.Base64.encode Library.Base64.standard data := by
    have symbols : ∀ c ∈ Library.Base64.encode Library.Base64.standard data, (c != '=') = true := by
      intro c member
      exact bne_iff_ne.mpr (encoded_symbols data c member).2
    have fill : (Library.Base64.padding data).takeWhile (· != '=') = [] := by
      unfold Library.Base64.padding
      cases (3 - data.length % 3) % 3 with
      | zero => rfl
      | succ n => rfl
    rw [b64encode, String.toList_ofList, List.takeWhile_append_of_pos symbols, fill, List.append_nil]
  unfold HttpConnectPeer.b64decode
  simp only [body, Library.Base64.decode_encode]
  rw [if_pos]
  rw [b64encode, String.toList_ofList]

def credentials (username password : String) : String := "Basic " ++ b64encode (Bytes.utf8 (username ++ ":" ++ password))

theorem read_credentials {username : String} (colonless : ':' ∉ username.toList) (password : String) :
    HttpConnectPeer.basicLogin (credentials username password) = some (username, password) := by
  have text : (credentials username password).toList =
      "Basic ".toList ++ (b64encode (Bytes.utf8 (username ++ ":" ++ password))).toList := by
    simp [credentials]
  have scheme : "Basic ".toList.isPrefixOf (credentials username password).toList = true := by
    rw [text, List.isPrefixOf_iff_prefix]
    exact List.prefix_append _ _
  have encoded : (credentials username password).toList.drop 6 =
      (b64encode (Bytes.utf8 (username ++ ":" ++ password))).toList := by
    rw [text]
    rfl
  have split : Reader.upTo ':' (username ++ ":" ++ password).toList = some (username.toList, password.toList) := by
    have parts : (username ++ ":" ++ password).toList = username.toList ++ ':' :: password.toList := by simp
    rw [parts, upTo_append colonless]
  unfold HttpConnectPeer.basicLogin
  rw [if_pos scheme, encoded]
  simp only [Option.bind_eq_bind, Option.bind_some, b64decode_b64encode, Bytes.decodeUtf8_utf8, split,
    String.ofList_toList, Option.pure_def]

/-! The request head. -/

def fieldsOf (login : Option (String × String)) (target : String) : List (String × String) :=
  ("Host", target) :: match login with
    | none => []
    | some (username, password) => [("Proxy-Authorization", credentials username password)]

def headText (target : String) (login : Option (String × String)) : List Char :=
  ("CONNECT ".toList ++ target.toList ++ " HTTP/1.1".toList) ++ ['\r', '\n'] ++
    ((fieldsOf login target).flatMap (fun field => headerText field ++ ['\r', '\n']) ++ ['\r', '\n'])

theorem connectRequest_text {connector : Endpoint} (device : Device) {login : Option (String × String)}
    (configured : Configured connector.auth login) :
    ∃ request, connectRequest connector device = .ok request ∧
      request.toList = headText (authority device.networkHost device.port) login := by
  unfold connectRequest
  cases configured with
  | anonymous anonymous =>
      simp only [anonymous, Bool.false_eq_true, if_false]
      refine ⟨_, rfl, ?_⟩
      unfold headText
      simp [fieldsOf, headerText]
  | login named username password =>
      simp only [named, username, password, if_true, ok_bind]
      refine ⟨_, rfl, ?_⟩
      unfold headText
      simp [fieldsOf, headerText, credentials]

theorem fieldsOf_written (laws : AddressLaws N) {host : String} (valid : HostText N host) (port : Port)
    (login : Option (String × String)) :
    ∀ field ∈ fieldsOf login (authority host port), ':' ∉ field.1.toList ∧ Inline (headerText field) := by
  have target : Inline (authority host port).toList := fun c member => .inl (visible_authority laws valid port c member)
  have header : ∀ name value, Inline name.toList → Inline value.toList → Inline (headerText (name, value)) := by
    intro name value nameInline valueInline
    have separator : Inline [':', ' '] := inline_of_all (by decide)
    have parts : headerText (name, value) = name.toList ++ ([':', ' '] ++ value.toList) := rfl
    rw [parts]
    exact nameInline.append (separator.append valueInline)
  have host_name : Inline "Host".toList := inline_of_all (by decide)
  have authorization : Inline "Proxy-Authorization".toList := inline_of_all (by decide)
  have scheme : Inline "Basic ".toList := inline_of_all (by decide)
  intro field member
  rcases List.mem_cons.mp member with rfl | member
  · exact ⟨(by decide : ':' ∉ "Host".toList), header _ _ host_name target⟩
  · cases login with
    | none => cases member
    | some login =>
        rw [List.mem_singleton.mp member]
        refine ⟨(by decide : ':' ∉ "Proxy-Authorization".toList), header _ _ authorization ?_⟩
        rw [credentials, String.toList_append]
        exact scheme.append (b64encode_inline _)

theorem read_requestLine (laws : AddressLaws N) {host : String} (valid : HostText N host) (port : Port) :
    HttpConnectPeer.requestLine ("CONNECT ".toList ++ (authority host port).toList ++ " HTTP/1.1".toList) =
      some ⟨host, isIpv6 N host, port.1.toNat⟩ := by
  have spaceless : ' ' ∉ (authority host port).toList :=
    fun member => absurd (visible_authority laws valid port ' ' member).1 (by decide)
  have parts : "CONNECT ".toList ++ (authority host port).toList ++ " HTTP/1.1".toList =
      "CONNECT".toList ++ ' ' :: ((authority host port).toList ++ ' ' :: "HTTP/1.1".toList) := by
    simp
  have split : Text.splitChars ' ' ("CONNECT".toList ++ ' ' :: ((authority host port).toList ++ ' ' :: "HTTP/1.1".toList)) =
      ["CONNECT".toList, (authority host port).toList, "HTTP/1.1".toList] := by
    rw [Text.splitChars_append (by decide), Text.splitChars_append spaceless, Text.splitChars_absent (by decide)]
  unfold HttpConnectPeer.requestLine
  rw [parts, split]
  exact read_authority laws valid port

theorem fieldsOf_length (login : Option (String × String)) (target : String) : (fieldsOf login target).length ≤ 2 := by
  cases login with
  | none => exact Nat.le_succ 1
  | some login => exact Nat.le_refl 2

theorem reads_lines (laws : AddressLaws N) {host : String} (valid : HostText N host) (port : Port)
    (login : Option (String × String)) {fuel : Nat} (enough : 2 < fuel) :
    Reader.Reads (do
        let first ← HttpConnectPeer.line
        let target ← Reader.ofOption (HttpConnectPeer.requestLine first)
        let fields ← HttpConnectPeer.headers fuel
        return (⟨target, fields⟩ : HttpConnectPeer.Head))
      (headText (authority host port) login)
      ⟨⟨host, isIpv6 N host, port.1.toNat⟩, fieldsOf login (authority host port)⟩ := by
  have opening : Inline "CONNECT ".toList := inline_of_all (by decide)
  have version : Inline " HTTP/1.1".toList := inline_of_all (by decide)
  have target : Inline (authority host port).toList := fun c member => .inl (visible_authority laws valid port c member)
  have short := fieldsOf_length login (authority host port)
  have rest := reads_headers (fieldsOf_written laws valid port login) (by omega : _ < fuel)
  apply Reader.Reads.bind (reads_line ((opening.append target).append version))
  apply Reader.Reads.start (Reader.reads_ofOption (read_requestLine laws valid port))
  exact rest.finish (Reader.reads_pure _)

theorem reads_head (laws : AddressLaws N) {host : String} (valid : HostText N host) (port : Port)
    (login : Option (String × String)) :
    Reader.Reads HttpConnectPeer.head (headText (authority host port) login)
      ⟨⟨host, isIpv6 N host, port.1.toNat⟩, fieldsOf login (authority host port)⟩ := by
  intro left
  have enough : 2 < (headText (authority host port) login ++ left).length := by
    have eight : "CONNECT ".toList.length = 8 := by decide
    unfold headText
    simp only [List.length_append, eight]
    omega
  exact reads_lines laws valid port login enough left

theorem ascii_of_small {text : String} (small : ∀ c ∈ text.toList, c.toNat < 128) :
    ∃ bytes, Bytes.ascii text = some bytes := by
  have plain : text.toList.all (fun c => c.toNat < 128) = true := by
    rw [List.all_eq_true]
    intro c member
    rw [decide_eq_true_iff]
    exact small c member
  exact ⟨text.toList.map (fun c => UInt8.ofNat c.toNat), by rw [Bytes.ascii, if_pos plain]⟩

theorem Inline.small {text : List Char} (inline : Inline text) : ∀ c ∈ text, c.toNat < 128 := by
  intro c member
  rcases inline c member with visible | rfl
  · exact Nat.lt_trans visible.2 (by decide)
  · decide

theorem headText_small (laws : AddressLaws N) {host : String} (valid : HostText N host) (port : Port)
    (login : Option (String × String)) : ∀ c ∈ headText (authority host port) login, c.toNat < 128 := by
  have target : Inline (authority host port).toList := fun c member => .inl (visible_authority laws valid port c member)
  have break_small : ∀ c ∈ ['\r', '\n'], c.toNat < 128 := by simp
  have method : Inline "CONNECT ".toList := inline_of_all (by decide)
  have version : Inline " HTTP/1.1".toList := inline_of_all (by decide)
  intro c member
  unfold headText at member
  simp only [List.mem_append, List.mem_flatMap] at member
  rcases member with (((early | within) | late) | broken) | ⟨field, listed, within | broken⟩ | broken
  · exact method.small c early
  · exact target.small c within
  · exact version.small c late
  · exact break_small c broken
  · exact (fieldsOf_written laws valid port login field listed).2.small c within
  · exact break_small c broken
  · exact break_small c broken

section Sent

variable (deadline : Deadline) (stream : Handle) {connector : Endpoint} {device : Device}

theorem httpConnect_emits {request : String} {bytes : Bytes} (written : connectRequest connector device = .ok request)
    (encoded : Bytes.ascii request = some bytes) :
    Program.Emits payloads (httpConnect deadline stream connector device) [bytes] := by
  have ascii : encodeAscii request = .ok bytes := by
    unfold encodeAscii
    rw [encoded]
  unfold httpConnect
  apply Program.Emits.lift_bind written
  apply Program.Emits.lift_bind ascii
  apply (send_emits deadline stream bytes).bind_silent
  intro _
  apply Program.Emits.silent_bind (waits_silent (receiveOn_waiting deadline stream _ _ _))
  intro response
  split
  · exact Program.Emits.raise _
  · split
    · exact Program.Emits.raise _
    · split
      · exact Program.Emits.raise _
      · exact Program.Emits.lift (.ok ())

/-! The command line of a bastion. -/

theorem plain_host (laws : AddressLaws N) {host : String} (valid : HostText N host) :
    ∀ c ∈ host.toList, Library.Shell.plain c := by
  intro c member
  unfold Library.Shell.plain
  rcases valid.characters laws with ⟨-, -, characters⟩ | ⟨-, -, characters⟩
  · rcases characters c member with hex | rfl | rfl
    · simp [isHex_alphanum hex]
    · decide
    · decide
  · rcases characters c member with alphanumeric | rfl | rfl
    · simp [alphanumeric]
    · decide
    · decide

theorem quote_host (laws : AddressLaws N) {host : String} (valid : HostText N host) : quote host = host := by
  have safe : shellSafe host = true := by
    unfold shellSafe
    rw [List.all_eq_true]
    intro c member
    have literal := plain_host laws valid c member
    simpa [Library.Shell.plain] using literal
  unfold quote
  rw [if_neg valid.present, if_pos safe]

def commandLine (host : String) (port : Port) : List Char :=
  "telnet".toList ++ ' ' :: (host.toList ++ ' ' :: (toString port.1).toList)

theorem words_commandLine (laws : AddressLaws N) {host : String} (valid : HostText N host) (port : Port) :
    Library.Shell.words (commandLine host port) = some ["telnet".toList, host.toList, (toString port.1).toList] := by
  have present : host.toList ≠ [] := fun empty => valid.present (String.toList_eq_nil_iff.mp empty)
  have digits : ∀ c ∈ (toString port.1).toList, Library.Shell.plain c := by
    intro c member
    rw [toString_port] at member
    have digit : c.isDigit := Nat.isDigit_of_mem_toDigits (by decide) (by decide) member
    simp [Library.Shell.plain, Char.isAlphanum, digit]
  have numbered : (toString port.1).toList ≠ [] := by
    rw [toString_port]
    exact Nat.toDigits_ne_nil
  have command : ∀ c ∈ "telnet".toList, Library.Shell.plain c := List.all_eq_true.mp (by decide)
  unfold commandLine
  rw [Library.Shell.words_cons (by decide) command, Library.Shell.words_cons present (plain_host laws valid),
    Library.Shell.words_last numbered digits]
  rfl

theorem commandLine_inline (laws : AddressLaws N) {host : String} (valid : HostText N host) (port : Port) :
    Inline (commandLine host port) := by
  have command : Inline "telnet".toList := inline_of_all (by decide)
  have blank : Inline [' '] := fun c member => .inr (List.mem_singleton.mp member)
  have name : Inline host.toList := fun c member => .inl (visible_host laws valid c member)
  have digits : Inline (toString port.1).toList := fun c member => .inl (visible_port port c member)
  have parts : commandLine host port =
      "telnet".toList ++ ([' '] ++ (host.toList ++ ([' '] ++ (toString port.1).toList))) := rfl
  rw [parts]
  exact command.append (blank.append (name.append (blank.append digits)))

theorem bastionChannel_emits {host : String} {port : Port} {bytes : Bytes} {client : Handle}
    (reached : device.networkHost = host ∧ device.port = port) (quoted : quote host = host)
    (encoded : Bytes.ascii (String.ofList (commandLine host port ++ ['\n'])) = some bytes) :
    Program.Emits payloads (bastionChannel deadline .sshShell client device) [bytes] := by
  have ascii : encodeAscii ("telnet " ++ quote device.networkHost ++ " " ++ toString device.port.1 ++ "\n") = .ok bytes := by
    have text : "telnet " ++ quote device.networkHost ++ " " ++ toString device.port.1 ++ "\n" =
        String.ofList (commandLine host port ++ ['\n']) := by
      apply String.toList_inj.mp
      rw [reached.1, reached.2, quoted]
      simp [commandLine]
    unfold encodeAscii
    rw [text, encoded]
  have asked : ∀ {α : Type} (command : Command (Except Raised α)), payloads _ command = [] →
      Program.Emits payloads (Net.attempt (Program.ask command)) [] := by
    intro α command silent
    apply Program.Emits.silent
    exact (Program.Confined.ask silent).bind fun outcome => Program.Confined.lift outcome
  have owned : ∀ handle, Program.Emits payloads (own handle) [] := by
    intro handle
    apply Program.Emits.silent
    apply Program.Confined.bind (Program.Confined.ask rfl)
    intro closed
    split
    · exact (Program.Confined.ask rfl).bind fun _ => Program.Confined.raise _
    · exact Program.Confined.pure _
  unfold bastionChannel
  rw [if_neg (by decide)]
  apply Program.Emits.silent_bind (waits_silent (remaining_waiting deadline))
  intro left
  apply Program.Emits.silent_bind (asked _ rfl)
  intro session
  apply Program.Emits.silent_bind (owned session)
  intro stream
  apply Program.Emits.silent_bind (waits_silent (remaining_waiting deadline))
  intro left
  apply Program.Emits.silent_bind (waits_silent (settimeout_waiting stream left))
  intro _
  apply Program.Emits.silent_bind (asked _ rfl)
  intro _
  apply Program.Emits.silent_bind (asked _ rfl)
  intro _
  apply Program.Emits.silent_bind (waits_silent (readPrompt_waiting deadline stream shellPrompt))
  intro _
  apply Program.Emits.lift_bind ascii
  apply (send_emits deadline stream bytes).bind_silent
  intro _
  exact Program.Emits.lift (.ok stream)

/-! The lines of a Telnet login. -/

/-- What is sent besides the refusals of the negotiation. -/
def loginLines (α : Type) : Command α → List Bytes
  | .sendall _ payload => if payload.head? = some Telnet.iac then [] else [payload]
  | _ => []

def lineOf (text : String) : Bytes := Bytes.utf8 text ++ [13, 10]

theorem negotiating_unlined {α : Type} (command : Command α) (negotiating : Negotiating α command) :
    loginLines α command = [] := by
  cases command with
  | sendall stream payload => exact if_pos negotiating
  | _ => rfl

theorem reads_unlined {α : Type} {p : Net α} (negotiates : Program.Confined Negotiating p) :
    Program.Emits loginLines p [] :=
  Program.Emits.silent (negotiates.mono fun _ => negotiating_unlined)

/-- The bytes of a text that fits in one line end no line and begin no Telnet command. -/
theorem LoginText.unbroken {text : String} (valid : LoginText text) :
    ∀ b ∈ Bytes.utf8 text, b ≠ 13 ∧ b ≠ 10 ∧ b ≠ Telnet.iac := by
  intro b member
  have range : b.toNat ≠ 13 ∧ b.toNat ≠ 10 ∧ b.toNat ≠ 255 := by
    rcases Bytes.utf8_byte member with ⟨c, listed, same, ascii⟩ | outside
    · have printable := valid.printable c listed
      omega
    · omega
  refine ⟨?_, ?_, ?_⟩
  · rintro rfl
    exact range.1 rfl
  · rintro rfl
    exact range.2.1 rfl
  · rintro rfl
    exact range.2.2 rfl

theorem send_line {text : String} (valid : LoginText text) :
    Program.Emits loginLines (send deadline stream (lineOf text)) [lineOf text] := by
  have emits := send_emitting deadline stream
    (fun α command (waiting : Waiting α command) => negotiating_unlined command (Waiting.negotiating command waiting))
    (lineOf text)
  have begins : (lineOf text).head? ≠ some Telnet.iac := by
    unfold lineOf
    cases bytes : Bytes.utf8 text with
    | nil => exact absurd bytes (Bytes.utf8_ne_nil valid.present)
    | cons b rest =>
        have first := valid.unbroken b (by rw [bytes]; exact List.mem_cons_self)
        intro same
        exact first.2.2 (Option.some.inj same)
  have kept : loginLines _ (.sendall stream (lineOf text)) = [lineOf text] := if_neg begins
  rw [kept] at emits
  exact emits

theorem telnetLogin_emits {username password : String} (name : textItem device.auth "username" = .ok username)
    (secret : textItem device.auth "password" = .ok password) (nameText : LoginText username)
    (secretText : LoginText password) :
    Program.Emits loginLines (ConnectionTests.telnetLogin deadline stream device) [lineOf username, lineOf password] := by
  apply Program.Emits.silent_bind (reads_unlined (readPrompt_negotiating deadline stream _ _))
  intro first
  apply Program.Emits.lift_bind name
  apply (send_line deadline stream nameText).bind
  intro _
  apply Program.Emits.silent_bind (reads_unlined (readPrompt_negotiating deadline stream _ _))
  intro second
  apply Program.Emits.lift_bind secret
  apply (send_line deadline stream secretText).bind_silent
  intro _
  apply Program.Emits.silent_bind (reads_unlined (readPrompt_negotiating deadline stream _ _))
  intro third
  exact Program.Emits.lift (.ok ())

theorem reads_lineOf {text : String} (valid : LoginText text) : Reader.Reads TelnetPeer.line (lineOf text) text := by
  have unbroken := valid.unbroken
  have kept : ∀ bytes : Bytes, (∀ b ∈ bytes, b ≠ 13 ∧ b ≠ 10) → bytes.dropWhile TelnetPeer.isBreak = bytes := by
    intro bytes clean
    cases bytes with
    | nil => rfl
    | cons b rest =>
        have first := clean b List.mem_cons_self
        rw [List.dropWhile_cons, if_neg (by simp [TelnetPeer.isBreak, first])]
  have stripped : TelnetPeer.strip (Bytes.utf8 text ++ [13]) = Bytes.utf8 text := by
    have front : (Bytes.utf8 text ++ [13]).dropWhile TelnetPeer.isBreak = Bytes.utf8 text ++ [13] := by
      cases bytes : Bytes.utf8 text with
      | nil => exact absurd bytes (Bytes.utf8_ne_nil valid.present)
      | cons b rest =>
          have first := unbroken b (by rw [bytes]; exact List.mem_cons_self)
          rw [List.cons_append, List.dropWhile_cons, if_neg (by simp [TelnetPeer.isBreak, first])]
    have back : (Bytes.utf8 text ++ [13]).reverse.dropWhile TelnetPeer.isBreak = (Bytes.utf8 text).reverse := by
      rw [List.reverse_append]
      change (Bytes.utf8 text).reverse.dropWhile TelnetPeer.isBreak = _
      apply kept
      intro b member
      have clean := unbroken b (List.mem_reverse.mp member)
      exact ⟨clean.1, clean.2.1⟩
    unfold TelnetPeer.strip
    rw [front, back, List.reverse_reverse]
  have fed : (10 : UInt8) ∉ Bytes.utf8 text ++ [13] := by
    intro member
    rcases List.mem_append.mp member with within | last
    · exact (unbroken 10 within).2.1 rfl
    · exact absurd (List.mem_singleton.mp last) (by decide)
  have parts : lineOf text = Bytes.utf8 text ++ [13] ++ [10] := by simp [lineOf]
  rw [parts]
  apply (Reader.reads_upTo fed).finish
  apply Reader.reads_ofOption
  rw [stripped]
  exact Bytes.decodeUtf8_utf8 text

end Sent

/-- The proxy is sent one request head, and reads from it the destination and the login. -/
def HeadSent (N : Libraries Token) (connector : Endpoint) (device : Device) : Prop :=
  ∃ login bytes text host others,
    Configured connector.auth login ∧
    (∀ deadline stream, Program.Emits payloads (httpConnect deadline stream connector device) [bytes]) ∧
    Bytes.decodeAscii bytes = some text ∧
    Reader.Reads HttpConnectPeer.head text.toList
      ⟨⟨device.networkHost, isIpv6 N device.networkHost, device.port.1.toNat⟩, ("Host", host) :: others⟩ ∧
    HttpConnectPeer.authority host.toList =
      some ⟨device.networkHost, isIpv6 N device.networkHost, device.port.1.toNat⟩ ∧
    match login with
    | none => others = []
    | some login =>
        ∃ value, others = [("Proxy-Authorization", value)] ∧ HttpConnectPeer.basicLogin value = some login

/-- The shell is given one line, which it splits into the command, the host and the port. -/
def CommandSent (device : Device) : Prop :=
  ∃ line bytes,
    (∀ deadline client, Program.Emits payloads (bastionChannel deadline .sshShell client device) [bytes]) ∧
    Bytes.decodeAscii bytes = some (String.ofList (line ++ ['\n'])) ∧ '\n' ∉ line ∧ '\r' ∉ line ∧
    Library.Shell.words line =
      some ["telnet".toList, device.networkHost.toList, (toString device.port.1).toList] ∧
    device.networkHost.toList.head? ≠ some '-'

/-- Besides refusals the device is sent two lines, and reads from them the name and the password. -/
def LinesSent (device : Device) : Prop :=
  ∃ username password,
    textItem device.auth "username" = .ok username ∧ textItem device.auth "password" = .ok password ∧
    (∀ deadline stream, Program.Emits loginLines (ConnectionTests.telnetLogin deadline stream device)
      [lineOf username, lineOf password]) ∧
    ∀ text, text = username ∨ text = password →
      Reader.Reads TelnetPeer.line (lineOf text) text ∧ ∀ b ∈ Bytes.utf8 text, b ≠ 13 ∧ b ≠ 10 ∧ b ≠ Telnet.iac

theorem httpLogin_configured {auth : Dict} (accepted : proxyAuth auth (some .httpConnect) = .ok ()) :
    ∃ login, Configured auth login ∧ ∀ username password, login = some (username, password) → ':' ∉ username.toList := by
  simp only [proxyAuth, overSsh, bind_eq_ok, raiseWhen_ok] at accepted
  rcases accepted with ⟨_, fields, colonless⟩
  rcases authFields_login fields with ⟨username, password, named, secret, -, -, given⟩ | ⟨-, missing⟩
  · refine ⟨some (username, password), .login given named secret, ?_⟩
    intro name word same
    cases same
    rw [Dict.get_eq, textItem_ok named] at colonless
    simpa using colonless
  · refine ⟨none, .anonymous missing, ?_⟩
    intro name word same
    cases same

theorem request_written (laws : AddressLaws N) {connector : Endpoint} {device : Device}
    (valid : HostText N device.networkHost) {login : Option (String × String)}
    (configured : Configured connector.auth login) :
    ∃ request payload, connectRequest connector device = .ok request ∧ Bytes.ascii request = some payload ∧
      request.toList = headText (authority device.networkHost device.port) login := by
  rcases connectRequest_text device configured with ⟨request, written, text⟩
  have small : ∀ c ∈ request.toList, c.toNat < 128 := by
    rw [text]
    exact headText_small laws valid device.port login
  rcases ascii_of_small small with ⟨payload, encoded⟩
  exact ⟨request, payload, written, encoded, text⟩

theorem headSent (laws : AddressLaws N) {connector : Endpoint} {device : Device}
    (valid : HostText N device.networkHost) (accepted : proxyAuth connector.auth (some .httpConnect) = .ok ()) :
    HeadSent N connector device := by
  rcases httpLogin_configured accepted with ⟨login, configured, plain⟩
  rcases request_written laws valid configured with ⟨request, bytes, written, encoded, text⟩
  have reads := reads_head laws valid device.port login
  rw [← text] at reads
  refine ⟨login, bytes, request, authority device.networkHost device.port, _, configured, ?_,
    Bytes.decodeAscii_ascii encoded, reads, read_authority laws valid device.port, ?_⟩
  · intro deadline stream
    exact httpConnect_emits deadline stream written encoded
  · cases login with
    | none => rfl
    | some login => exact ⟨_, rfl, read_credentials (plain login.1 login.2 rfl) login.2⟩

theorem commandSent (laws : AddressLaws N) {device : Device} (valid : HostText N device.networkHost) :
    CommandSent device := by
  have inline := commandLine_inline laws valid device.port
  have small : ∀ c ∈ (String.ofList (commandLine device.networkHost device.port ++ ['\n'])).toList, c.toNat < 128 := by
    intro c member
    rw [String.toList_ofList] at member
    rcases List.mem_append.mp member with within | last
    · exact inline.small c within
    · rw [List.mem_singleton.mp last]
      decide
  rcases ascii_of_small small with ⟨bytes, encoded⟩
  refine ⟨commandLine device.networkHost device.port, bytes, ?_, Bytes.decodeAscii_ascii encoded, inline.unbroken.2,
    inline.unbroken.1, words_commandLine laws valid device.port, valid.undashed laws⟩
  intro deadline client
  exact bastionChannel_emits deadline ⟨rfl, rfl⟩ (quote_host laws valid) encoded

theorem linesSent {device : Device} (accepted : authFields device.auth true false = .ok ()) : LinesSent device := by
  rcases authFields_login accepted with ⟨username, password, name, secret, nameText, secretText, -⟩ | ⟨optional, -⟩
  · refine ⟨username, password, name, secret, ?_, ?_⟩
    · intro deadline stream
      exact telnetLogin_emits deadline stream name secret nameText secretText
    · rintro text (rfl | rfl)
      · exact ⟨reads_lineOf nameText, nameText.unbroken⟩
      · exact ⟨reads_lineOf secretText, secretText.unbroken⟩
  · cases optional

theorem texts_uninjected (laws : AddressLaws N) {profile : Value} {demoMode : Bool} {device : Device}
    {connector : Connector} {seconds : Timeout}
    (accepted : validateProfile N profile demoMode = .ok (device, connector, seconds)) :
    (∀ proxy, connector = .proxy .httpConnect proxy → HeadSent N proxy device) ∧
      (∀ proxy, connector = .proxy .sshShell proxy → CommandSent device) ∧
      (device.protocol = .telnet → LinesSent device) := by
  have valid := validateProfile_accepted laws accepted
  refine ⟨?_, ?_, ?_⟩
  · intro proxy same
    exact headSent laws valid.target (valid.proxy .httpConnect proxy same).2.1
  · intro proxy same
    exact commandSent laws valid.target
  · intro telnet
    apply linesSent
    have login := valid.login
    rw [telnet] at login
    exact login

/-- A Telnet device with an IPv6 address behind an HTTP proxy. -/
theorem texts_uninjected_bench :
    ∃ device proxy seconds,
      validateProfile Bench.networked (Bench.through "http_connect" "telnet" "jürgen" "pass:wörd") false =
        .ok (device, .proxy .httpConnect proxy, seconds) ∧
      HeadSent Bench.networked proxy device ∧ LinesSent device := by
  have found : (validateProfile Bench.networked (Bench.through "http_connect" "telnet" "jürgen" "pass:wörd")
      false).toOption.map (fun checked => (checked.1.protocol, checked.2.1.kind)) = some (.telnet, some .httpConnect) := by
    decide +kernel
  cases accepted : validateProfile Bench.networked (Bench.through "http_connect" "telnet" "jürgen" "pass:wörd") false with
  | error raised =>
      rw [accepted] at found
      cases found
  | ok checked =>
      rw [accepted] at found
      rcases checked with ⟨device, access, seconds⟩
      have same := Prod.mk.inj (Option.some.inj found)
      rcases Connector.kind_proxy same.2 with ⟨proxy, rfl⟩
      have sent := texts_uninjected (addressLaws rfl rfl) accepted
      exact ⟨device, proxy, seconds, rfl, sent.1 proxy rfl, sent.2.2 same.1⟩

end NetworkGateway.Connectors
