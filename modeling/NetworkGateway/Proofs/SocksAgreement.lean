import NetworkGateway.Proofs.SocksTalks

/-! The SOCKS5 handshake of the gateway with the proxy of the demo, from the first byte to the last. -/

namespace NetworkGateway

open Library.Interaction Library.Conversation Library.Processes Library.Result Relation

variable {Token : Type} {N : Libraries Token}

/-! The proxy's part in the exchange. -/

namespace LoopbackPeer.Socks5

open Connectors

variable {network : String → Nat → Bool} {options : Options} {device : Device} {shut : Bool}

def hostOf (N : Libraries Token) (device : Device) : String :=
  match N.ipAddress device.networkHost with
  | some address => N.strAddress address
  | none => device.networkHost

theorem packed_plays {address : IpAddress} {size : Nat} (small : address.value < 256 ^ size) :
    Plays (use network)
      (exact size >>= fun packed => (pure (some (N.strAddress ⟨address.version, Bytes.ofBig packed.1⟩)) : Peer (Option String)))
      (Bytes.big size address.value) (.ok (some (N.strAddress address))) [] [] := by
  have plays : Plays (use network)
      (exact size >>= fun packed => (pure (some (N.strAddress ⟨address.version, Bytes.ofBig packed.1⟩)) : Peer (Option String)))
      (Bytes.big size address.value)
      (.ok (some (N.strAddress ⟨address.version, Bytes.ofBig (Bytes.big size address.value)⟩))) [] [] :=
    (exact_plays (Bytes.big_length size address.value)).last rfl
  rw [Bytes.ofBig_big small] at plays
  exact plays

theorem host_plays (laws : AddressLaws N) (valid : HostText N device.networkHost) :
    ∃ kind packed, socksAddress N device.networkHost = .ok (kind :: packed) ∧
      Plays (use network) (host N kind) packed (.ok (some (hostOf N device))) [] [] := by
  unfold socksAddress hostOf
  cases read : N.ipAddress device.networkHost with
  | some address =>
      rcases laws.version _ address read with ⟨four, small⟩ | ⟨six, small⟩
      · have plays : Plays (use network) _ (Bytes.big 4 address.value) (.ok (some (N.strAddress address))) [] [] :=
          packed_plays small
        rw [four] at plays
        exact ⟨1, Bytes.big 4 address.value, by simp only [four, if_true], plays⟩
      · have plays : Plays (use network) _ (Bytes.big 16 address.value) (.ok (some (N.strAddress address))) [] [] :=
          packed_plays small
        rw [six] at plays
        exact ⟨4, Bytes.big 16 address.value, by simp only [six]; rfl, plays⟩
  | none =>
      rcases hostname_ascii (valid.named read) with ⟨encoded, ascii, short⟩
      refine ⟨3, UInt8.ofNat encoded.length :: encoded, by simp only [ascii, short, if_true], ?_⟩
      have length : encoded.length = (UInt8.ofNat encoded.length).toNat := (UInt8.toNat_ofNat_of_lt' short).symm
      have one : [UInt8.ofNat encoded.length].length = 1 := rfl
      unfold host
      rw [if_neg (by decide), if_neg (by decide), if_pos rfl]
      have decoded : Bytes.decodeAscii encoded = some device.networkHost := Bytes.decodeAscii_ascii ascii
      refine (exact_plays one).bind ((exact_plays length).last ?_)
      dsimp only
      rw [decoded]
      rfl

theorem decodeUtf8_plays (text : String) : Plays (use network) (decodeUtf8 (Bytes.utf8 text)) [] (.ok text) [] [] := by
  unfold decodeUtf8
  rw [Bytes.decodeUtf8_utf8]
  exact .done _

def admits (options : Options) (account : String × String) : Bool :=
  some account.1 = options.username && some account.2 = options.password

def verdict (refused : Bool) : Peer Bool :=
  if refused then do
    event "auth_rejected"
    sendall [1, 1]
    return false
  else do
    sendall [1, 0]
    return true

theorem login_reads {account : String × String} (fits : Fits (some account)) {outcome : Except Raised Bool}
    {signs : List Mark} {sent : Bytes}
    (judges : Plays (use network) (verdict !admits options account) [] outcome signs sent) :
    Plays (use network) (login options) (loginOf (some account)).flatten outcome signs sent := by
  have parts : (loginOf (some account)).flatten =
      [1, UInt8.ofNat (Bytes.utf8 account.1).length] ++ (Bytes.utf8 account.1 ++
        ([UInt8.ofNat (Bytes.utf8 account.2).length] ++ (Bytes.utf8 account.2 ++ []))) := by
    simp [loginOf]
  have head : [1, UInt8.ofNat (Bytes.utf8 account.1).length].length = 2 := rfl
  have size : [UInt8.ofNat (Bytes.utf8 account.2).length].length = 1 := rfl
  have other : (decide ((1 : UInt8) ≠ 1) || decide (some account.1 ≠ options.username) ||
      decide (some account.2 ≠ options.password)) = !admits options account := by
    simp [admits]
  rw [parts]
  apply (exact_plays head).bind
  apply Plays.bind (exact_plays (byte_length fits.1).symm)
  apply (decodeUtf8_plays account.1).bind
  apply (exact_plays size).bind
  apply Plays.bind (exact_plays (byte_length fits.2).symm)
  apply (decodeUtf8_plays account.2).bind
  change Plays _ (verdict (decide ((1 : UInt8) ≠ 1) || decide (some account.1 ≠ options.username) ||
      decide (some account.2 ≠ options.password))) _ _ _ _
  rw [other]
  exact judges

theorem login_plays {account : String × String} (fits : Fits (some account)) :
    Plays (use network) (login options) (loginOf (some account)).flatten (.ok (admits options account))
      (if admits options account then [] else [.event "auth_rejected"])
      (if admits options account then [1, 0] else [1, 1]) := by
  apply login_reads fits
  cases admits options account with
  | true => exact (sendall_plays [1, 0]).last rfl
  | false => exact (event_plays "auth_rejected").bind ((sendall_plays [1, 1]).last rfl)

/-- What the proxy serves a client whose request it has read, what it leaves behind, and its reply. -/
def served (N : Libraries Token) (network : String → Nat → Bool) (options : Options) (device : Device) : Served :=
  if options.malformed || options.deny then none
  else (attempt N network (hostOf N device) device.port.1.toNat).toOption

def leaves (N : Libraries Token) (network : String → Nat → Bool) (options : Options) (device : Device) : List Mark :=
  if options.malformed || options.deny then [] else visits N network (hostOf N device) device.port.1.toNat

def answer (N : Libraries Token) (network : String → Nat → Bool) (options : Options) (device : Device) : Bytes :=
  if options.malformed then reply 4 0
  else if options.deny then reply 5 2
  else if (served N network options device).isSome then reply 5 0 else reply 5 4

theorem serve_plays (laws : AddressLaws N) (valid : HostText N device.networkHost) {encoded : Bytes}
    (addressed : socksAddress N device.networkHost = .ok encoded) :
    Plays (use network) (serve N options) (requestOf encoded device) (.ok (served N network options device))
      (leaves N network options device) (answer N network options device) := by
  have reads : ∃ kind packed, socksAddress N device.networkHost = .ok (kind :: packed) ∧
      Plays (use network) (host N kind) packed (.ok (some (hostOf N device))) [] [] := host_plays laws valid
  rcases reads with ⟨kind, packed, same, plays⟩
  have split : kind :: packed = encoded := Except.ok.inj (same.symm.trans addressed)
  rw [← split]
  have parts : requestOf (kind :: packed) device =
      [5, 1, 0, kind] ++ (packed ++ (Bytes.big 2 device.port.1.toNat ++ [])) := by
    simp [requestOf]
  have bounds := device.port.2
  have inRange : device.port.1.toNat < 256 ^ 2 := by omega
  have head : [5, 1, 0, kind].length = 4 := rfl
  rw [parts]
  unfold served leaves answer served
  have serves : ∀ (outcome : Served) (signs : List Mark) (sent : Bytes),
      Plays (use network) (if options.malformed then (do
          sendall (reply 4 0)
          return none)
        else if options.deny || ((5 : UInt8), (1 : UInt8), (0 : UInt8)) ≠ (5, 1, 0) then (do
          sendall (reply 5 2)
          return none)
        else reach N (hostOf N device) (Bytes.ofBig (Bytes.big 2 device.port.1.toNat)) (reply 5 4) (reply 5 0) : Peer Served)
        [] (.ok outcome) signs sent →
      Plays (use network) (serve N options) ([5, 1, 0, kind] ++ (packed ++ (Bytes.big 2 device.port.1.toNat ++ [])))
        (.ok outcome) signs sent := by
    intro outcome signs sent rest
    apply (exact_plays head).bind
    apply plays.bind
    exact Plays.bind (exact_plays (Bytes.big_length 2 device.port.1.toNat)) rest
  apply serves
  rw [Bytes.ofBig_big inRange]
  cases options.malformed with
  | true => exact (sendall_plays _).last rfl
  | false =>
      cases options.deny with
      | true => exact (sendall_plays _).last rfl
      | false => exact reach_plays _ (by omega) _ _

/-- What `Socks5Peer.handle` does once it has chosen the method. -/
def admitting (N : Libraries Token) (options : Options) : Peer Served := do
  let admitted ← if method options = 2 then login options else pure true
  if admitted then serve N options else return none

theorem handle_refuses {account : Option (String × String)} (other : method options ≠ methodOf account) :
    Goes (Turn (use network)) shut ⟨handle N options, greetingOf account, []⟩ ⟨.done (.ok none), [], []⟩ [5, 255] := by
  have refused : ((5 : UInt8) ≠ 5 || !List.elem (method options) [methodOf account]) = true := by simp [other]
  apply exact_goes [5, 1] [methodOf account] rfl
  apply exact_goes [methodOf account] [] rfl
  change Goes _ shut ⟨if ((5 : UInt8) ≠ 5 || !List.elem (method options) [methodOf account]) = true then _ else _, _, _⟩ _ _
  rw [refused, if_pos rfl]
  exact sendall_goes [5, 255] []

theorem handle_chooses {account : Option (String × String)} (same : method options = methodOf account) :
    Goes (Turn (use network)) shut ⟨handle N options, greetingOf account, []⟩ ⟨admitting N options, [], []⟩
      [5, methodOf account] := by
  have chosen : ((5 : UInt8) ≠ 5 || !List.elem (method options) [methodOf account]) = false := by simp [same]
  apply exact_goes [5, 1] [methodOf account] rfl
  apply exact_goes [methodOf account] [] rfl
  change Goes _ shut ⟨if ((5 : UInt8) ≠ 5 || !List.elem (method options) [methodOf account]) = true then _ else _, _, _⟩ _ _
  have sent : [5, methodOf account] = [5, method options] := by rw [same]
  rw [chosen, if_neg (by decide), sent]
  exact sendall_goes [5, method options] []

theorem admitting_open (free : method options = 0) : admitting N options = serve N options := by
  unfold admitting
  rw [free, if_neg (by decide)]
  rfl

theorem admitting_login (wanted : method options = 2) :
    admitting N options = login options >>= fun admitted => if admitted then serve N options else pure none := by
  unfold admitting
  rw [wanted, if_pos rfl]

theorem admitting_judges {account : String × String} (wanted : method options = 2) (fits : Fits (some account)) :
    Goes (Turn (use network)) shut ⟨admitting N options, (loginOf (some account)).flatten, []⟩
      ⟨if admits options account then serve N options else pure none, [],
        if admits options account then [] else [.event "auth_rejected"]⟩
      (if admits options account then [1, 0] else [1, 1]) := by
  have goes : Goes (Turn (use network)) shut
      ⟨login options >>= fun admitted => if admitted then serve N options else pure none,
        (loginOf (some account)).flatten ++ [], []⟩ _ _ := (login_plays fits).further [] []
  rw [List.append_nil] at goes
  rw [admitting_login wanted]
  exact goes

theorem admitting_admitted {account : String × String} (wanted : method options = 2) (fits : Fits (some account))
    (taken : admits options account = true) : Goes (Turn (use network)) shut
    ⟨admitting N options, (loginOf (some account)).flatten, []⟩ ⟨serve N options, [], []⟩ [1, 0] := by
  have judges : Goes (Turn (use network)) shut ⟨admitting N options, (loginOf (some account)).flatten, []⟩ _ _ :=
    admitting_judges wanted fits
  rw [taken] at judges
  exact judges

theorem admitting_rejected {account : String × String} (wanted : method options = 2) (fits : Fits (some account))
    (refused : admits options account = false) : Goes (Turn (use network)) shut
    ⟨admitting N options, (loginOf (some account)).flatten, []⟩ ⟨.done (.ok none), [], [.event "auth_rejected"]⟩ [1, 1] := by
  have judges : Goes (Turn (use network)) shut ⟨admitting N options, (loginOf (some account)).flatten, []⟩ _ _ :=
    admitting_judges wanted fits
  rw [refused] at judges
  exact judges

theorem admitting_left (wanted : method options = 2) : Goes (Turn (use network)) true
    ⟨admitting N options, [], []⟩ ⟨.done (.error .eof), [], []⟩ [] := by
  rw [admitting_login wanted]
  have closed : Goes (Turn (use network)) true ⟨exact 2, [], []⟩ ⟨.done (.error .eof), [], []⟩ [] := by
    unfold exact
    rw [exactMore, dif_pos (by decide)]
    apply Goes.quiet (.ended rfl rfl)
    exact .stay _
  have goes : Goes (Turn (use network)) true ⟨login options, [], []⟩ ⟨.done (.error .eof), [], []⟩ [] :=
    goes_andThen _ closed
  exact goes_andThen _ goes

end LoopbackPeer.Socks5

/-! The exchange. -/

/-- An error closes the gateway's end, a stream that is returned stays open. -/
def gatewayEnds : Except Raised Unit → Bool
  | .ok _ => false
  | .error _ => true

/-- A handler that returns or raises closes its end, one that relays does not. -/
def peerEnds : Except Raised LoopbackPeer.Served → Bool
  | .ok (some _) => false
  | _ => true

/-- What `ipaddress` and `str.lower` make of the text of an address, as it is given and as it is printed. -/
structure LoopbackLaws (N : Libraries Token) : Prop extends Connectors.AddressLaws N where
  unnamed : ∀ text address, N.ipAddress text = some address → N.lower text ≠ "localhost"
  reprinted : ∀ text address, N.ipAddress text = some address → N.ipAddress (N.strAddress address) = some address

namespace LoopbackPeer.Socks5

open Connectors

variable {network : String → Nat → Bool} {options : Options} {device : Device} {account : Option (String × String)}
  {deadline : Deadline} {stream : Handle}

/-- The proxy goes where the gateway is to go. -/
theorem loopback_hostOf (laws : LoopbackLaws N) (device : Device) :
    loopback N (hostOf N device) = loopback N device.networkHost := by
  unfold hostOf
  cases read : N.ipAddress device.networkHost with
  | none => rfl
  | some address =>
      have again := laws.reprinted _ address read
      unfold loopback
      rw [if_neg (laws.unnamed _ address read), if_neg (laws.unnamed _ address again), read, again]

def replyTold (options : Options) (reached : Bool) : Except Raised Unit :=
  if options.malformed then .error (.connector "protocol" "The SOCKS5 proxy returned an invalid response.")
  else if options.deny || !reached then
    .error (.connector "proxy_connect" "The SOCKS5 proxy denied or could not reach the destination.")
  else .ok ()

def told (options : Options) (account : Option (String × String)) (reached : Bool) : Except Raised Unit :=
  if method options ≠ methodOf account then
    .error (.connector "proxy_auth" "The SOCKS5 proxy rejected the selected authentication method.")
  else if ¬Fits account then .error (validation "SOCKS5 credentials cannot exceed 255 encoded bytes.")
  else if account.all (admits options) = false then
    .error (.connector "proxy_auth" "SOCKS5 proxy authentication was rejected.")
  else replyTold options reached

structure Welcome (options : Options) (account : Option (String × String)) : Prop where
  method_eq : method options = methodOf account
  fits : Fits account
  admitted : account.all (admits options) = true

theorem replyTold_ok {reached : Bool} : replyTold options reached = .ok () ↔
    options.malformed = false ∧ options.deny = false ∧ reached = true := by
  unfold replyTold
  cases options.malformed <;> cases options.deny <;> cases reached <;> simp

theorem told_ok {reached : Bool} : told options account reached = .ok () ↔
    Welcome options account ∧ options.malformed = false ∧ options.deny = false ∧ reached = true := by
  rw [← replyTold_ok]
  unfold told
  constructor
  · intro returned
    split at returned
    · cases returned
    · rename_i same
      split at returned
      · cases returned
      · rename_i fits
        split at returned
        · cases returned
        · rename_i admitted
          exact ⟨⟨not_not.mp same, not_not.mp fits, by simpa using admitted⟩, returned⟩
  · intro given
    rcases given with ⟨⟨same, fits, admitted⟩, returned⟩
    rw [if_neg (not_not.mpr same), if_neg (not_not.mpr fits), if_neg (by simp [admitted])]
    exact returned

def reached (N : Libraries Token) (network : String → Nat → Bool) (device : Device) : Served :=
  (attempt N network device.networkHost device.port.1.toNat).toOption

/-- How the exchange ends. -/
structure Agreement (N : Libraries Token) (options : Options) (network : String → Nat → Bool)
    (account : Option (String × String)) (device : Device) (s : Pair (Net Unit) (Peer Served) UInt8 Mark) : Prop where
  /-- The gateway returns, or raises the error of the step that failed. -/
  gateway : s.left.doing = .done (told options account (reached N network device).isSome)
  /-- It returns exactly when the proxy takes its login, is not to refuse, and reaches the device. -/
  returned : s.left.doing = .done (.ok ()) ↔ Welcome options account ∧ options.malformed = false ∧
    options.deny = false ∧ (reached N network device).isSome = true
  ended : ∃ outcome, s.right.doing = .done outcome
  /-- The proxy relays exactly the gateway that returns, and to its device. -/
  relays : ∀ target, s.right.doing = .done (.ok (some target)) ↔
    s.left.doing = .done (.ok ()) ∧ reached N network device = some target
  /-- It tries no destination but the device's, and that one only after a login it takes. -/
  destinations : ∀ host port, Mark.connect host port ∈ s.right.marks →
    Welcome options account ∧ loopback N device.networkHost = .ok host ∧ port = device.port.1.toNat
  /-- Everything that was sent to the proxy has been read, and a stream that is returned starts afresh. -/
  read : s.right.inbox = []
  afresh : s.left.doing = .done (.ok ()) → s.left.inbox = []

theorem returned_iff {outcome : Except Raised Unit} {reach : Bool} (same : outcome = told options account reach) :
    (Program.done outcome : Net Unit) = .done (.ok ()) ↔
      Welcome options account ∧ options.malformed = false ∧ options.deny = false ∧ reach = true := by
  rw [← told_ok, ← same]
  constructor
  · intro done
    cases done
    rfl
  · intro done
    rw [done]

theorem Agreement.refused {raised : Raised} {served : Except Raised Served} {rest : Bytes} {marks : List Mark}
    (error : told options account (reached N network device).isSome = .error raised)
    (closed : ∀ target, served ≠ .ok (some target)) (untried : ∀ host port, Mark.connect host port ∉ marks) :
    Agreement N options network account device ⟨⟨.done (.error raised), rest, []⟩, ⟨.done served, [], marks⟩⟩ where
  gateway := by rw [error]
  returned := returned_iff error.symm
  ended := ⟨served, rfl⟩
  relays := by
    intro target
    constructor
    · intro relayed
      cases relayed
      exact absurd rfl (closed target)
    · intro returned
      cases returned.1
  destinations := fun host port tried => absurd tried (untried host port)
  read := rfl
  afresh := by
    intro returned
    cases returned

theorem served_reached (laws : LoopbackLaws N) : served N network options device =
    if options.malformed || options.deny then none else reached N network device := by
  unfold served reached attempt
  rw [loopback_hostOf laws]

theorem connect_leaves (laws : LoopbackLaws N) {host : String} {port : Nat}
    (tried : Mark.connect host port ∈ leaves N network options device) :
    loopback N device.networkHost = .ok host ∧ port = device.port.1.toNat := by
  unfold leaves visits at tried
  rw [loopback_hostOf laws] at tried
  split at tried
  · cases tried
  · split at tried
    · rename_i address allowed
      rw [allowed]
      rcases List.mem_cons.mp tried with same | later
      · cases same
        exact ⟨rfl, rfl⟩
      · split at later
        · simp at later
        · cases later
    · cases tried

abbrev Exchange (deadline : Deadline) (stream : Handle) (network : String → Nat → Bool) :
    Pair (Net Unit) (Peer Served) UInt8 Mark → Pair (Net Unit) (Peer Served) UInt8 Mark → Prop :=
  Talks (Connectors.use deadline stream) (use network) gatewayEnds peerEnds

theorem Agreement.welcomed (laws : LoopbackLaws N) (welcome : Welcome options account) {rest : Bytes}
    (fresh : replyTold options (reached N network device).isSome = .ok () → rest = []) :
    Agreement N options network account device
      ⟨⟨.done (replyTold options (reached N network device).isSome), rest, []⟩,
        ⟨.done (.ok (served N network options device)), [], leaves N network options device⟩⟩ := by
  have same : told options account (reached N network device).isSome = replyTold options (reached N network device).isSome := by
    unfold told
    rw [if_neg (not_not.mpr welcome.method_eq), if_neg (not_not.mpr welcome.fits), if_neg (by simp [welcome.admitted])]
  have returns := returned_iff same.symm
  refine ⟨by rw [same], returns, ⟨_, rfl⟩, ?_, ?_, rfl, ?_⟩
  · intro target
    rw [returns, served_reached laws]
    constructor
    · intro relayed
      have relayed : (if options.malformed || options.deny then none else reached N network device) = some target :=
        Except.ok.inj (Program.done.inj relayed)
      split at relayed
      · cases relayed
      · rename_i serving
        rw [Bool.or_eq_true, not_or, Bool.not_eq_true, Bool.not_eq_true] at serving
        exact ⟨⟨welcome, serving.1, serving.2, by rw [relayed]; rfl⟩, relayed⟩
    · intro given
      rcases given with ⟨⟨-, formed, allowed, -⟩, target⟩
      rw [formed, allowed, target]
      rfl
  · exact fun host port tried => ⟨welcome, connect_leaves laws tried⟩
  · intro returned
    exact fresh (Program.done.inj returned)

theorem told_method (other : method options ≠ methodOf account) (reach : Bool) : told options account reach =
    .error (.connector "proxy_auth" "The SOCKS5 proxy rejected the selected authentication method.") := if_pos other

theorem told_long (same : method options = methodOf account) (long : ¬Fits account) (reach : Bool) :
    told options account reach = .error (validation "SOCKS5 credentials cannot exceed 255 encoded bytes.") := by
  unfold told
  rw [if_neg (not_not.mpr same), if_pos long]

theorem told_rejected (same : method options = methodOf account) (fits : Fits account)
    (refused : account.all (admits options) = false) (reach : Bool) : told options account reach =
      .error (.connector "proxy_auth" "SOCKS5 proxy authentication was rejected.") := by
  unfold told
  rw [if_neg (not_not.mpr same), if_neg (not_not.mpr fits), if_pos refused]

/-- One run of the exchange from `talk` on, and how it ends. -/
def Settles (N : Libraries Token) (options : Options) (account : Option (String × String)) (device : Device)
    (deadline : Deadline) (stream : Handle) (network : String → Nat → Bool)
    (talk : Pair (Net Unit) (Peer Served) UInt8 Mark) : Prop :=
  ∃ outcome served rest marks,
    ReflTransGen (Exchange deadline stream network) talk ⟨⟨.done outcome, rest, []⟩, ⟨.done served, [], marks⟩⟩ ∧
    Agreement N options network account device ⟨⟨.done outcome, rest, []⟩, ⟨.done served, [], marks⟩⟩

theorem Settles.after {talk talk' : Pair (Net Unit) (Peer Served) UInt8 Mark}
    (settles : Settles N options account device deadline stream network talk')
    (run : ReflTransGen (Exchange deadline stream network) talk talk') :
    Settles N options account device deadline stream network talk := by
  rcases settles with ⟨outcome, served, rest, marks, further, agreement⟩
  exact ⟨outcome, served, rest, marks, run.trans further, agreement⟩

theorem replied_hears (laws : LoopbackLaws N) :
    ∃ rest, (replyTold options (reached N network device).isSome = .ok () → rest = []) ∧
      ∀ shut, Goes (Turn (Connectors.use deadline stream)) shut ⟨replied deadline stream, answer N network options device, []⟩
        ⟨.done (replyTold options (reached N network device).isSome), rest, []⟩ [] := by
  unfold answer replyTold
  rw [served_reached laws]
  cases options.malformed with
  | true => exact ⟨[0, 0, 0, 0, 0, 0], nofun, fun _ => replied_malformed⟩
  | false =>
      cases options.deny with
      | true => exact ⟨[0, 0, 0, 0, 0, 0], nofun, fun _ => replied_refused (by decide)⟩
      | false =>
          cases reached N network device with
          | none => exact ⟨[0, 0, 0, 0, 0, 0], nofun, fun _ => replied_refused (by decide)⟩
          | some target => exact ⟨[], fun _ => rfl, fun _ => replied_granted⟩

section

variable {encoded : Bytes} (laws : LoopbackLaws N) (valid : HostText N device.networkHost)
  (addressed : socksAddress N device.networkHost = .ok encoded)

include laws valid addressed

theorem request_settles (welcome : Welcome options account) : Settles N options account device deadline stream network
    ⟨⟨replied deadline stream, [], []⟩, ⟨serve N options, requestOf encoded device, []⟩⟩ := by
  have plays : Plays (use network) (serve N options) (requestOf encoded device) _ _ _ :=
    serve_plays laws.toAddressLaws valid addressed
  have serves : ∀ shut, Goes (Turn (use network)) shut ⟨serve N options, requestOf encoded device ++ [], []⟩
      ⟨.done (.ok (served N network options device)), [], leaves N network options device⟩ (answer N network options device) :=
    fun shut => plays shut [] []
  rw [List.append_nil] at serves
  have hears : ∃ rest, (replyTold options (reached N network device).isSome = .ok () → rest = []) ∧
      ∀ shut, Goes (Turn (Connectors.use deadline stream)) shut ⟨replied deadline stream, answer N network options device, []⟩
        ⟨.done (replyTold options (reached N network device).isSome), rest, []⟩ [] := replied_hears laws
  rcases hears with ⟨rest, fresh, hears⟩
  exact ⟨_, _, rest, _, (right_goes (serves _)).trans (left_goes (hears _)), .welcomed laws welcome fresh⟩

theorem anonymous_settles (same : method options = methodOf none) : Settles N options none device deadline stream network
    ⟨⟨asking deadline stream none encoded device, [], []⟩, ⟨admitting N options, [], []⟩⟩ := by
  have welcome : Welcome options none := ⟨same, trivial, rfl⟩
  rw [admitting_open same]
  exact (request_settles laws valid addressed welcome).after (left_goes asking_anonymous)

theorem login_settles {login : String × String} (same : method options = methodOf (some login)) (fits : Fits (some login)) :
    Settles N options (some login) device deadline stream network
      ⟨⟨judged deadline stream >>= fun _ => requesting deadline stream encoded device, [], []⟩,
        ⟨admitting N options, (loginOf (some login)).flatten, []⟩⟩ := by
  cases admitted : admits options login with
  | true =>
      have welcome : Welcome options (some login) := ⟨same, fits, admitted⟩
      have requests : Settles N options (some login) device deadline stream network
          ⟨⟨judged deadline stream >>= fun _ => requesting deadline stream encoded device, [1, 0], []⟩,
            ⟨serve N options, [], []⟩⟩ :=
        (request_settles laws valid addressed welcome).after (left_goes judged_accepted)
      exact requests.after (right_goes (admitting_admitted same fits admitted))
  | false =>
      have judges : ReflTransGen (Exchange deadline stream network)
          ⟨⟨judged deadline stream >>= fun _ => requesting deadline stream encoded device, [], []⟩,
            ⟨admitting N options, (loginOf (some login)).flatten, []⟩⟩
          ⟨⟨judged deadline stream >>= fun _ => requesting deadline stream encoded device, [1, 1], []⟩,
            ⟨.done (.ok none), [], [.event "auth_rejected"]⟩⟩ := right_goes (admitting_rejected same fits admitted)
      exact ⟨_, _, _, _, judges.trans (left_goes judged_refused),
        .refused (told_rejected same fits admitted _) nofun (by simp)⟩

theorem chosen_settles (same : method options = methodOf account) : Settles N options account device deadline stream network
    ⟨⟨asking deadline stream account encoded device, [], []⟩, ⟨admitting N options, [], []⟩⟩ := by
  cases account with
  | none => exact anonymous_settles laws valid addressed same
  | some login =>
      by_cases fits : Fits (some login)
      · exact (login_settles laws valid addressed same fits).after (left_goes (asking_login fits))
      · have leaves : ReflTransGen (Exchange deadline stream network)
            ⟨⟨asking deadline stream (some login) encoded device, [], []⟩, ⟨admitting N options, [], []⟩⟩
            ⟨⟨.done (.error (validation "SOCKS5 credentials cannot exceed 255 encoded bytes.")), [], []⟩,
              ⟨admitting N options, [], []⟩⟩ := left_goes (asking_long fits)
        exact ⟨_, _, _, _, leaves.trans (right_goes (admitting_left same)), .refused (told_long same fits _) nofun (by simp)⟩

theorem exchange_settles {connector : Endpoint} (configured : Configured connector.auth account) :
    Settles N options account device deadline stream network
      ⟨⟨socks5 N deadline stream connector device, [], []⟩, ⟨handle N options, [], []⟩⟩ := by
  have greeted_settles : Settles N options account device deadline stream network
      ⟨⟨greeted deadline stream account encoded device, [], []⟩, ⟨handle N options, greetingOf account, []⟩⟩ := by
    by_cases same : method options = methodOf account
    · have hears : Settles N options account device deadline stream network
          ⟨⟨greeted deadline stream account encoded device, [5, methodOf account], []⟩, ⟨admitting N options, [], []⟩⟩ :=
        (chosen_settles laws valid addressed same).after (left_goes greeted_chosen)
      exact hears.after (right_goes (handle_chooses same))
    · have refuses : ReflTransGen (Exchange deadline stream network)
          ⟨⟨greeted deadline stream account encoded device, [], []⟩, ⟨handle N options, greetingOf account, []⟩⟩
          ⟨⟨greeted deadline stream account encoded device, [5, 255], []⟩, ⟨.done (.ok none), [], []⟩⟩ :=
        right_goes (handle_refuses same)
      exact ⟨_, _, _, _, refuses.trans (left_goes greeted_refused), .refused (told_method same _) nofun (by simp)⟩
  exact greeted_settles.after (left_goes (socks5_greets configured addressed))

end

/-- The gateway and the proxy of the demo come to an agreement, whatever is scheduled next and however
the bytes are cut. -/
theorem socks5_agreed (laws : LoopbackLaws N) {profile : Value} {demoMode : Bool} {connector : Endpoint}
    {seconds : Timeout} (accepted : validateProfile N profile demoMode = .ok (device, .proxy .socks5 connector, seconds)) :
    ∃ account, Configured connector.auth account ∧ ∀ options network deadline stream,
      Inevitable (Exchange deadline stream network) (Agreement N options network account device)
        ⟨⟨socks5 N deadline stream connector device, [], []⟩, ⟨handle N options, [], []⟩⟩ := by
  have valid := validateProfile_accepted laws.toAddressLaws accepted
  rcases loginOf_configured (valid.proxy .socks5 connector rfl).2.1 with ⟨account, configured⟩
  refine ⟨account, configured, ?_⟩
  intro options network deadline stream
  rcases reads_request laws.toAddressLaws valid.target with ⟨encoded, addressed, -⟩
  have settles : Settles N options account device deadline stream network
      ⟨⟨socks5 N deadline stream connector device, [], []⟩, ⟨handle N options, [], []⟩⟩ :=
    exchange_settles laws valid.target addressed configured
  rcases settles with ⟨outcome, served, rest, marks, run, agreement⟩
  have inevitable := inevitable (socks5_uniform configured addressed) handle_uniform run
  apply inevitable.mono
  intro s same
  rw [same]
  exact agreement

def looped : Value := .dict
  [("protocol", .str "ssh"), ("host", .str "::1"), ("port", .int 22), ("username", .str "ops"),
   ("password", .str "hunter2"),
   ("connector", .dict
     [("type", .str "socks5"), ("host", .str "127.0.0.1"), ("port", .int 1080), ("username", .str "jürgen"),
      ("password", .str "pass:wörd")])]

def loopbackAddresses : List (String × IpAddress) := [("127.0.0.1", ⟨4, 2130706433⟩), ("::1", ⟨6, 1⟩)]

/-- The bench's libraries, whose `ipaddress` knows two loopback addresses. -/
def loopbackLibraries : Libraries Platform.SealedToken :=
  { Bench.libraries with
    ipAddress := fun text => loopbackAddresses.lookup text, strAddress := Platform.textOf loopbackAddresses }

theorem loopbackLibraries_addresses {P : String → IpAddress → Prop} (four : P "127.0.0.1" ⟨4, 2130706433⟩)
    (six : P "::1" ⟨6, 1⟩) (text : String) (address : IpAddress) (read : loopbackLibraries.ipAddress text = some address) :
    P text address := by
  obtain ⟨before, after, split, -⟩ := List.lookup_eq_some_iff.mp read
  have member : (text, address) ∈ loopbackAddresses := by
    rw [split]
    simp
  have known : text = "127.0.0.1" ∧ address = ⟨4, 2130706433⟩ ∨ text = "::1" ∧ address = ⟨6, 1⟩ := by
    simpa [loopbackAddresses] using member
  cases known with
  | inl same =>
      rw [same.1, same.2]
      exact four
  | inr same =>
      rw [same.1, same.2]
      exact six

theorem loopbackLibraries_laws : LoopbackLaws loopbackLibraries where
  empty := by decide +kernel
  version := loopbackLibraries_addresses (.inl (by decide)) (.inr (by decide))
  characters := loopbackLibraries_addresses (by simp [Address.isHex]) (by simp [Address.isHex])
  colon := loopbackLibraries_addresses (by decide +kernel) (by decide +kernel)
  localhost := by decide +kernel
  printed := loopbackLibraries_addresses (by decide +kernel) (by decide +kernel)
  unnamed := loopbackLibraries_addresses (by decide +kernel) (by decide +kernel)
  reprinted := loopbackLibraries_addresses (by decide +kernel) (by decide +kernel)

theorem socks5_agreed_looped :
    ∃ device connector seconds,
      validateProfile loopbackLibraries looped false = .ok (device, .proxy .socks5 connector, seconds) ∧
      ∃ account, Configured connector.auth account ∧ ∀ options network deadline stream,
        Inevitable (Exchange deadline stream network) (Agreement loopbackLibraries options network account device)
          ⟨⟨socks5 loopbackLibraries deadline stream connector device, [], []⟩, ⟨handle loopbackLibraries options, [], []⟩⟩ := by
  have kind : (validateProfile loopbackLibraries looped false).toOption.map (fun checked => checked.2.1.kind) =
      some (some .socks5) := by decide +kernel
  cases accepted : validateProfile loopbackLibraries looped false with
  | error raised =>
      rw [accepted] at kind
      cases kind
  | ok checked =>
      rw [accepted] at kind
      rcases checked with ⟨device, access, seconds⟩
      rcases Connector.kind_proxy (Option.some.inj kind) with ⟨connector, rfl⟩
      exact ⟨device, connector, seconds, rfl, socks5_agreed loopbackLibraries_laws accepted⟩

end LoopbackPeer.Socks5

end NetworkGateway
