import NetworkGateway.Proofs.Conversations
import NetworkGateway.Proofs.Socks

/-! The gateway's SOCKS5 handshake with the proxy of the demo. -/

namespace NetworkGateway

open Library.Interaction Library.Conversation Library.Processes Library.Result Relation

variable {Token : Type} {N : Libraries Token}

/-! The gateway. -/

namespace Connectors

variable {deadline : Deadline} {stream : Handle} {connector : Endpoint} {device : Device}
  {login : Option (String × String)} {encoded : Bytes} {shut : Bool} {inbox : Bytes} {marks : List Mark}

theorem boundLength_uniform (type : UInt8) : Uniform (use deadline stream) (boundLength deadline stream type) := by
  unfold boundLength
  split
  · exact .done _
  · split
    · exact .done _
    · apply (receiveExact_uniform 1).bind
      intro length
      dsimp only
      split
      · exact .done _
      · exact .done _

theorem replied_uniform : Uniform (use deadline stream) (replied deadline stream) := by
  apply (receiveExact_uniform 4).bind
  intro reply
  apply Uniform.bind (.done _)
  intro _
  apply Uniform.bind (.done _)
  intro _
  apply (boundLength_uniform _).bind
  intro length
  apply (receiveExact_uniform _).bind
  intro _
  exact .done _

theorem loggedIn_uniform : Uniform (use deadline stream) (loggedIn deadline stream login) := by
  cases login with
  | none => exact .done _
  | some login =>
      apply Uniform.bind (.done _)
      intro _
      apply (send_uniform _).bind
      intro _
      apply (receiveExact_uniform 2).bind
      intro verdict
      exact .done _

theorem socks5_uniform (configured : Configured connector.auth login)
    (addressed : socksAddress N device.networkHost = .ok encoded) :
    Uniform (use deadline stream) (socks5 N deadline stream connector device) := by
  rw [socks5_steps deadline stream configured addressed]
  apply (send_uniform _).bind
  intro _
  apply (receiveExact_uniform 2).bind
  intro greeting
  apply Uniform.bind (.done _)
  intro _
  apply loggedIn_uniform.bind
  intro _
  apply (send_uniform _).bind
  intro _
  exact replied_uniform

/-! Its part in the exchange. -/

/-- What `_socks5` does from its request on. -/
def requesting (deadline : Deadline) (stream : Handle) (encoded : Bytes) (device : Device) : Net Unit := do
  send deadline stream (requestOf encoded device)
  replied deadline stream

/-- What `_socks5` does once the proxy has chosen the method. -/
def asking (deadline : Deadline) (stream : Handle) (login : Option (String × String)) (encoded : Bytes) (device : Device) :
    Net Unit := do
  loggedIn deadline stream login
  requesting deadline stream encoded device

/-- What `_socks5` does after its greeting. -/
def greeted (deadline : Deadline) (stream : Handle) (login : Option (String × String)) (encoded : Bytes) (device : Device) :
    Net Unit := do
  let greeting ← receiveExact deadline stream 2
  raiseIf (greeting.1 ≠ [5, methodOf login])
    (.connector "proxy_auth" "The SOCKS5 proxy rejected the selected authentication method.")
  asking deadline stream login encoded device

/-- What `_socks5` does after its login. -/
def judged (deadline : Deadline) (stream : Handle) : Net Unit := do
  let verdict ← receiveExact deadline stream 2
  raiseIf (verdict.1 ≠ [1, 0]) (.connector "proxy_auth" "SOCKS5 proxy authentication was rejected.")

theorem socks5_greets (configured : Configured connector.auth login)
    (addressed : socksAddress N device.networkHost = .ok encoded) :
    Goes (Turn (use deadline stream)) shut ⟨socks5 N deadline stream connector device, [], []⟩
      ⟨greeted deadline stream login encoded device, [], []⟩ (greetingOf login) := by
  have steps : socks5 N deadline stream connector device =
      send deadline stream (greetingOf login) >>= fun _ => greeted deadline stream login encoded device :=
    socks5_steps deadline stream configured addressed
  rw [steps]
  exact send_goes (greetingOf login)

theorem raiseIf_false (error : Raised) : raiseIf false error = .done (.ok ()) := rfl

theorem greeted_chosen : Goes (Turn (use deadline stream)) shut
    ⟨greeted deadline stream login encoded device, [5, methodOf login], []⟩
    ⟨asking deadline stream login encoded device, [], []⟩ [] := by
  apply receiveExact_goes [5, methodOf login] [] rfl
  have same : decide ([5, methodOf login] ≠ [5, methodOf login]) = false := by simp
  rw [same]
  exact .stay _

theorem greeted_refused : Goes (Turn (use deadline stream)) shut
    ⟨greeted deadline stream login encoded device, [5, 255], []⟩
    ⟨.done (.error (.connector "proxy_auth" "The SOCKS5 proxy rejected the selected authentication method.")), [], []⟩ [] := by
  apply receiveExact_goes [5, 255] [] rfl
  have other : decide ([5, 255] ≠ [5, methodOf login]) = true := by
    unfold methodOf
    split <;> decide
  rw [other]
  exact .stay _

theorem asking_anonymous : Goes (Turn (use deadline stream)) shut
    ⟨asking deadline stream none encoded device, [], []⟩ ⟨replied deadline stream, [], []⟩ (requestOf encoded device) :=
  send_goes (requestOf encoded device)

theorem asking_long (long : ¬Fits login) : Goes (Turn (use deadline stream)) shut
    ⟨asking deadline stream login encoded device, [], []⟩
    ⟨.done (.error (validation "SOCKS5 credentials cannot exceed 255 encoded bytes.")), [], []⟩ [] := by
  unfold asking
  rw [loggedIn_long deadline stream long]
  exact .stay _

theorem asking_login {account : String × String} (fits : Fits (some account)) : Goes (Turn (use deadline stream)) shut
    ⟨asking deadline stream (some account) encoded device, [], []⟩
    ⟨judged deadline stream >>= fun _ => requesting deadline stream encoded device, [], []⟩
    (loginOf (some account)).flatten := by
  have short : (255 < (Bytes.utf8 account.1).length || 255 < (Bytes.utf8 account.2).length) = false := by
    rw [Bool.or_eq_false_iff, decide_eq_false_iff_not, decide_eq_false_iff_not]
    unfold Fits at fits
    omega
  have sent : (loginOf (some account)).flatten = [1, UInt8.ofNat (Bytes.utf8 account.1).length] ++ Bytes.utf8 account.1 ++
      [UInt8.ofNat (Bytes.utf8 account.2).length] ++ Bytes.utf8 account.2 := List.append_nil _
  have goes : Goes (Turn (use deadline stream)) shut ⟨loggedIn deadline stream (some account), [], []⟩
      ⟨judged deadline stream, [], []⟩ (loginOf (some account)).flatten := by
    unfold loggedIn socksLogin
    dsimp only
    rw [short, raiseIf_false, sent]
    exact send_goes _
  exact goes_andThen _ goes

theorem judged_accepted : Goes (Turn (use deadline stream)) shut
    ⟨judged deadline stream >>= fun _ => requesting deadline stream encoded device, [1, 0], []⟩
    ⟨replied deadline stream, [], []⟩ (requestOf encoded device) := by
  have judges : Plays (use deadline stream) (judged deadline stream) [1, 0] (.ok ()) ([] : List Mark) [] := by
    have length : [(1 : UInt8), 0].length = 2 := rfl
    exact (receiveExact_plays length).bind (.done (.ok ()))
  exact judges.reads [] (send_goes (requestOf encoded device))

theorem judged_refused : Goes (Turn (use deadline stream)) shut
    ⟨judged deadline stream >>= fun _ => requesting deadline stream encoded device, [1, 1], []⟩
    ⟨.done (.error (.connector "proxy_auth" "SOCKS5 proxy authentication was rejected.")), [], []⟩ [] := by
  have judges : Plays (use deadline stream) (judged deadline stream) [1, 1]
      (.error (.connector "proxy_auth" "SOCKS5 proxy authentication was rejected.")) ([] : List Mark) [] := by
    have length : [(1 : UInt8), 1].length = 2 := rfl
    exact (receiveExact_plays length).bind (.done _)
  exact judges.bind_error shut [] []

theorem replied_granted : Goes (Turn (use deadline stream)) shut
    ⟨replied deadline stream, LoopbackPeer.Socks5.reply 5 0, []⟩ ⟨.done (.ok ()), [], []⟩ [] := by
  apply receiveExact_goes [5, 0, 0, 1] [0, 0, 0, 0, 0, 0] rfl
  have rest : Plays (use deadline stream) (receiveExact deadline stream (4 + 2) >>= fun _ => (pure () : Net Unit))
      [0, 0, 0, 0, 0, 0] (.ok ()) ([] : List Mark) [] := by
    have length : [(0 : UInt8), 0, 0, 0, 0, 0].length = 4 + 2 := rfl
    exact (receiveExact_plays length).bind (.done (.ok ()))
  exact rest shut [] []

theorem replied_malformed : Goes (Turn (use deadline stream)) shut
    ⟨replied deadline stream, LoopbackPeer.Socks5.reply 4 0, []⟩
    ⟨.done (.error (.connector "protocol" "The SOCKS5 proxy returned an invalid response.")), [0, 0, 0, 0, 0, 0], []⟩ [] := by
  apply receiveExact_goes [4, 0, 0, 1] [0, 0, 0, 0, 0, 0] rfl
  exact .stay _

theorem replied_refused {code : UInt8} (refused : code ≠ 0) : Goes (Turn (use deadline stream)) shut
    ⟨replied deadline stream, LoopbackPeer.Socks5.reply 5 code, []⟩
    ⟨.done (.error (.connector "proxy_connect" "The SOCKS5 proxy denied or could not reach the destination.")),
      [0, 0, 0, 0, 0, 0], []⟩ [] := by
  apply receiveExact_goes [5, code, 0, 1] [0, 0, 0, 0, 0, 0] rfl
  have same : decide (code ≠ 0) = true := decide_eq_true refused
  change Goes _ shut ⟨raiseIf (decide (code ≠ 0)) _ >>= _, _, _⟩ _ _
  rw [same]
  exact .stay _

end Connectors

/-! The proxy. -/

namespace LoopbackPeer.Socks5

open Connectors

variable {network : String → Nat → Bool} {options : Options}

theorem decodeUtf8_uniform (data : Bytes) : Uniform (use network) (decodeUtf8 data) := by
  unfold decodeUtf8
  split
  · exact .done _
  · exact .done _

theorem host_uniform (kind : UInt8) : Uniform (use network) (host N kind) := by
  unfold host
  split
  · exact (exact_uniform 4).bind fun _ => .done _
  · split
    · exact (exact_uniform 16).bind fun _ => .done _
    · split
      · apply (exact_uniform 1).bind
        intro size
        apply (exact_uniform _).bind
        intro name
        split
        · exact .done _
        · exact .done _
      · exact .done _

theorem login_uniform : Uniform (use network) (login options) := by
  apply (exact_uniform 2).bind
  intro head
  apply (exact_uniform _).bind
  intro username
  apply (decodeUtf8_uniform _).bind
  intro username
  apply (exact_uniform 1).bind
  intro size
  apply (exact_uniform _).bind
  intro password
  apply (decodeUtf8_uniform _).bind
  intro password
  split
  · apply (event_uniform _).bind
    intro _
    exact (sendall_uniform _).bind fun _ => .done _
  · exact (sendall_uniform _).bind fun _ => .done _

theorem serve_uniform : Uniform (use network) (serve N options) := by
  apply (exact_uniform 4).bind
  intro head
  apply (host_uniform _).bind
  intro host
  cases host with
  | none => exact .done _
  | some host =>
      apply (exact_uniform 2).bind
      intro port
      dsimp only
      split
      · exact (sendall_uniform _).bind fun _ => .done _
      · split
        · exact (sendall_uniform _).bind fun _ => .done _
        · exact reach_uniform host _ _ _

theorem handle_uniform : Uniform (use network) (handle N options) := by
  apply (exact_uniform 2).bind
  intro head
  apply (exact_uniform _).bind
  intro methods
  dsimp only
  split
  · exact (sendall_uniform _).bind fun _ => .done _
  · apply (sendall_uniform _).bind
    intro _
    have admits : ∀ admitted : Bool, Uniform (use network) (if admitted then serve N options else pure none) := by
      intro admitted
      split
      · exact serve_uniform
      · exact .done _
    split
    · exact login_uniform.bind admits
    · exact admits true

end LoopbackPeer.Socks5

end NetworkGateway
