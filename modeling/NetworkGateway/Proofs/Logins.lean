import Mathlib.Data.List.TakeWhile
import Mathlib.Algebra.Order.Ring.Rat
import Mathlib.Tactic.Linarith
import NetworkGateway.Proofs.Sessions

/-! A callback completes exactly the login that its cookie was minted for. -/

namespace NetworkGateway.Auth

open Library Library.Result Library.Interaction

/-! Signed values. -/

theorem rsplitDot_join {value : String} (dotted : '.' ∈ value.toList) :
    (rsplitDot value).1 ++ "." ++ (rsplitDot value).2 = value := by
  have reversed : '.' ∈ value.toList.reverse := List.mem_reverse.mpr dotted
  have tail : value.toList.reverse.dropWhile (· != '.') =
      '.' :: (value.toList.reverse.dropWhile (· != '.')).tail := by
    have nonempty : value.toList.reverse.dropWhile (· != '.') ≠ [] := by
      intro empty
      rw [List.dropWhile_eq_nil_iff] at empty
      have differs := empty '.' reversed
      simp at differs
    have head := List.head_dropWhile_not (fun c => c != '.') nonempty
    have first : (value.toList.reverse.dropWhile (· != '.')).head nonempty = '.' := by simpa using head
    have rebuilt := List.cons_head_tail nonempty
    rw [first] at rebuilt
    exact rebuilt.symm
  apply String.toList_inj.mp
  have split := List.takeWhile_append_dropWhile (p := (· != '.')) (l := value.toList.reverse)
  rw [tail] at split
  have whole := congrArg List.reverse split
  rw [List.reverse_append, List.reverse_cons, List.reverse_reverse] at whole
  simp only [rsplitDot, String.toList_append, String.toList_ofList]
  exact whole

theorem decodeB64url_dotless {value : String} {data : Bytes} (decoded : decodeB64url value = .ok data) :
    '.' ∉ value.toList := by
  unfold decodeB64url at decoded
  rw [bind_eq_ok] at decoded
  rcases decoded with ⟨_, checked, -⟩
  rw [raiseWhen_ok, Bool.or_eq_false_iff, List.any_eq_false] at checked
  intro member
  have known := checked.2 '.' member
  revert known
  decide +kernel

variable {P : AuthPlatform} {settings : AuthSettings}

/-- A value whose signature was made with the secret, and the payload it holds. -/
def SignedBy (P : AuthPlatform) (secret value : String) (data : Bytes) : Prop :=
  ∃ encoded signature message, value = encoded ++ "." ++ signature ∧ Bytes.ascii encoded = some message ∧
    decodeB64url signature = .ok (P.hmacSha256 (Bytes.utf8 secret) message) ∧ decodeB64url encoded = .ok data

theorem digest_ok {secret encoded : String} {signature : Bytes} :
    digest P secret encoded = .ok signature ↔
      ∃ message, Bytes.ascii encoded = some message ∧ P.hmacSha256 (Bytes.utf8 secret) message = signature := by
  unfold digest
  cases Bytes.ascii encoded <;> simp

theorem unsign_signed {secret value : String} {data : Bytes} (signed : SignedBy P secret value data) :
    unsign P (some value) secret = readObject P data := by
  rcases signed with ⟨encoded, signature, message, rfl, ascii, decoded, payload⟩
  have dotless := decodeB64url_dotless decoded
  have parts := rsplitDot_append encoded dotless
  have dotted : (!(encoded ++ "." ++ signature).toList.contains '.') = false := by simp
  have computed : digest P secret encoded = .ok (P.hmacSha256 (Bytes.utf8 secret) message) :=
    digest_ok.mpr ⟨message, ascii, rfl⟩
  unfold unsign
  rw [Option.getD_some, dotted, parts]
  simp only [raiseWhen_false, ok_bind, computed, decoded, bne_self_eq_false, jsonSegment, payload]

theorem decodeB64url_cases (text : String) :
    (∃ data, decodeB64url text = .ok data) ∨ decodeB64url text = .error .decode ∨
      ∃ message, decodeB64url text = .error (.value message) := by
  unfold decodeB64url
  cases text.toList.isEmpty || text.toList.any (fun c => (Base64.urlSafe.index c).isNone) with
  | true => exact .inr (.inr ⟨_, rfl⟩)
  | false =>
      cases Base64.decode Base64.urlSafe text.toList with
      | some data => exact .inl ⟨data, rfl⟩
      | none => exact .inr (.inl rfl)

theorem signedBy_split {secret text encoded signature : String} {message data : Bytes} (dotted : '.' ∈ text.toList)
    (parts : rsplitDot text = (encoded, signature)) (ascii : Bytes.ascii encoded = some message)
    (decoded : decodeB64url signature = .ok (P.hmacSha256 (Bytes.utf8 secret) message))
    (payload : decodeB64url encoded = .ok data) : SignedBy P secret text data := by
  have whole := rsplitDot_join dotted
  rw [parts] at whole
  exact ⟨encoded, signature, message, whole.symm, ascii, decoded, payload⟩

theorem unsign_cases (value : Option String) (secret : String) :
    (∃ text data, value = some text ∧ SignedBy P secret text data) ∨
      unsign P value secret = .error .decode ∨ ∃ message, unsign P value secret = .error (.value message) := by
  cases dotted : (value.getD "").toList.contains '.' with
  | false =>
      right
      right
      refine ⟨"Missing signed value.", ?_⟩
      unfold unsign
      rw [dotted]
      rfl
  | true =>
      unfold unsign
      rw [dotted]
      rcases parts : rsplitDot (value.getD "") with ⟨encoded, signature⟩
      simp only [Bool.not_true, raiseWhen_false, ok_bind]
      cases ascii : Bytes.ascii encoded with
      | none => simp [digest, ascii]
      | some message =>
          rw [digest_ok.mpr ⟨message, ascii, rfl⟩]
          rcases decodeB64url_cases signature with ⟨given, decoded⟩ | decoded | ⟨_, decoded⟩
          · rw [decoded]
            simp only [ok_bind]
            cases same : P.hmacSha256 (Bytes.utf8 secret) message != given with
            | true => simp
            | false =>
                rcases decodeB64url_cases encoded with ⟨data, payload⟩ | payload | ⟨_, payload⟩
                · left
                  cases value with
                  | none => simp at dotted
                  | some text =>
                      rw [bne_eq_false_iff_eq] at same
                      rw [← same] at decoded
                      exact ⟨text, data, rfl, signedBy_split (List.contains_iff_mem.mp dotted) parts ascii decoded payload⟩
                · simp [jsonSegment, payload]
                · simp [jsonSegment, payload]
          · simp [decoded]
          · simp [decoded]

theorem unsign_ok {secret value : String} {entries : Dict} :
    unsign P (some value) secret = .ok entries ↔
      ∃ data, SignedBy P secret value data ∧ P.loads data = .ok (.dict entries) := by
  have reads : ∀ data, readObject P data = .ok entries ↔ P.loads data = .ok (.dict entries) := by
    intro data
    unfold readObject
    split <;> simp_all
  constructor
  · intro read
    rcases unsign_cases (P := P) (some value) secret with ⟨text, data, same, signed⟩ | failed | ⟨_, failed⟩
    · cases same
      rw [unsign_signed signed] at read
      exact ⟨data, signed, (reads data).mp read⟩
    · cases failed.symm.trans read
    · cases failed.symm.trans read
  · intro signed
    rcases signed with ⟨data, signed, loaded⟩
    rw [unsign_signed signed]
    exact (reads data).mpr loaded

theorem unsign_error {value : Option String} {secret : String} {error : AuthError}
    (failed : unsign P value secret = .error error) :
    error = .decode ∨ (∃ message, error = .value message) ∨
      error = .recursion ∧ ∃ text data, value = some text ∧ SignedBy P secret text data ∧
        P.loads data = .error .recursion := by
  rcases unsign_cases (P := P) value secret with ⟨text, data, rfl, signed⟩ | other | ⟨_, other⟩
  · rw [unsign_signed signed] at failed
    unfold readObject at failed
    split at failed
    · cases failed
    · cases failed
      exact .inr (.inl ⟨_, rfl⟩)
    · cases failed
      exact .inl rfl
    · rename_i deep
      cases failed
      exact .inr (.inr ⟨rfl, text, data, rfl, signed, deep⟩)
  · cases other.symm.trans failed
    exact .inl rfl
  · cases other.symm.trans failed
    exact .inr (.inl ⟨_, rfl⟩)

/-! What a callback has to present. -/

section Callback

variable {cookie : Option String} {state code : String} {now : Rat} {flow : Flow} {entries : Dict}

/-- The cookie is a value signed with the client secret, and what `json.loads` makes of its payload. -/
def Loaded (P : AuthPlatform) (settings : AuthSettings) (cookie : Option String) (loaded : Except JsonError Value) :
    Prop :=
  ∃ secret value data, settings.clientSecret = some secret ∧ secret ≠ "" ∧ cookie = some value ∧
    SignedBy P secret value data ∧ P.loads data = loaded

/-- The cookie is a value signed with the client secret, and the object it holds. -/
def Opened (P : AuthPlatform) (settings : AuthSettings) (cookie : Option String) (entries : Dict) : Prop :=
  Loaded P settings cookie (.ok (.dict entries))

structure Describes (P : AuthPlatform) (entries : Dict) (flow : Flow) : Prop where
  state : entries.lookup "state" = some (.str flow.state)
  nonce : entries.lookup "nonce" = some (.str flow.nonce)
  verifier : entries.lookup "verifier" = some (.str flow.verifier)
  redirectUri : entries.lookup "redirect_uri" = some (.str flow.redirectUri)
  issuedAt : ∃ iat, entries.lookup "iat" = some iat ∧ floatOf P iat = .ok flow.issuedAt

/-- The callback belongs to the flow: signed by this client, for this state and an allowed address,
within the last ten minutes. -/
structure FlowBound (P : AuthPlatform) (settings : AuthSettings) (cookie : Option String) (state : String)
    (now : Rat) (flow : Flow) : Prop where
  signed : ∃ entries, Opened P settings cookie entries ∧ Describes P entries flow
  state_eq : flow.state = state
  allowed : flow.redirectUri ∈ settings.redirectUris
  recent : ∃ issued, flow.issuedAt = .finite issued ∧ now - 600 ≤ issued ∧ issued ≤ now

/-- `complete_login` goes on with exactly the flow the callback belongs to, and rejects any other
callback before it talks to anyone. -/
structure LoginBinding (P : AuthPlatform) (settings : AuthSettings) (now : Rat) (code state : String)
    (cookie : Option String) : Prop where
  bound : ∀ flow, FlowBound P settings cookie state now flow →
    completeLogin P settings now code state cookie = exchange P settings code flow
  refused : (∀ flow, ¬FlowBound P settings cookie state now flow) →
    ∃ detail, completeLogin P settings now code state cookie = .done (.error (.http 401 detail))

/-- The callbacks on which the checks themselves fail. -/
inductive LoginFault (P : AuthPlatform) (settings : AuthSettings) (state : String) (cookie : Option String) : Prop where
  /-- The payload of the cookie is nested too deep. -/
  | nested (deep : Loaded P settings cookie (.error .recursion))
  /-- The issue time is an integer beyond the floats. -/
  | overflow (entries : Dict) (iat : Int) (opened : Opened P settings cookie entries)
      (held : ∀ key ∈ ["state", "nonce", "verifier", "redirect_uri"], (entries.lookup key).isSome)
      (issued : entries.lookup "iat" = some (.int iat)) (large : P.floatOfInt iat = none)
  /-- The states are compared and one of them is not ASCII. -/
  | text (entries : Dict) (flow : Flow) (opened : Opened P settings cookie entries)
      (describes : Describes P entries flow) (allowed : flow.redirectUri ∈ settings.redirectUris)
      (foreign : Bytes.ascii flow.state = none ∨ Bytes.ascii state = none)
  /-- The issue time is no number, which no comparison refuses. -/
  | undated (entries : Dict) (flow : Flow) (opened : Opened P settings cookie entries)
      (describes : Describes P entries flow) (allowed : flow.redirectUri ∈ settings.redirectUris)
      (same : flow.state = state) (plain : (Bytes.ascii state).isSome) (nan : flow.issuedAt = .nan)
      (tenant : settings.tenantId.getD "" ≠ "")

theorem cookieSecret_ok (entra : settings.mode = .entra) {secret : String} :
    cookieSecret settings = .ok secret ↔ settings.clientSecret = some secret ∧ secret ≠ "" := by
  have mode : (settings.mode != .entra) = false := by
    rw [entra]
    rfl
  unfold cookieSecret
  rw [mode, Bool.false_or]
  cases held : settings.clientSecret with
  | none => simp
  | some given =>
      simp only [Option.getD_some, bind_eq_ok, raiseWhen_ok, pure_eq, Except.ok.injEq, exists_const,
        Option.some.injEq, List.isEmpty_eq_false_iff]
      constructor
      · intro read
        rcases read with ⟨present, rfl⟩
        refine ⟨rfl, ?_⟩
        rintro rfl
        exact present rfl
      · intro read
        rcases read with ⟨rfl, present⟩
        refine ⟨?_, rfl⟩
        intro empty
        exact present (String.toList_eq_nil_iff.mp empty)

theorem opened_iff (entra : settings.mode = .entra) :
    Opened P settings cookie entries ↔
      ∃ secret, cookieSecret settings = .ok secret ∧ unsign P cookie secret = .ok entries := by
  constructor
  · intro opened
    rcases opened with ⟨secret, value, data, held, present, rfl, signed, loaded⟩
    exact ⟨secret, (cookieSecret_ok entra).mpr ⟨held, present⟩, unsign_ok.mpr ⟨data, signed, loaded⟩⟩
  · intro read
    rcases read with ⟨secret, held, unsigned⟩
    rcases (cookieSecret_ok entra).mp held with ⟨client, present⟩
    cases cookie with
    | none => simp [unsign] at unsigned
    | some value =>
        rcases unsign_ok.mp unsigned with ⟨data, signed, loaded⟩
        exact ⟨secret, value, data, client, present, rfl, signed, loaded⟩

theorem item_ok {document : Dict} {key : String} {value : Value} :
    item document key = .ok value ↔ document.lookup key = some value := by
  unfold item
  cases document.lookup key <;> simp

/-- The first block of `complete_login` returns what the cookie holds. -/
theorem readFlow_ok (entra : settings.mode = .entra) {read : FlowEntries} :
    readFlow P settings cookie = .ok read ↔
      ∃ entries iat, Opened P settings cookie entries ∧ entries.lookup "state" = some read.state ∧
        entries.lookup "nonce" = some read.nonce ∧ entries.lookup "verifier" = some read.verifier ∧
        entries.lookup "redirect_uri" = some read.redirectUri ∧ entries.lookup "iat" = some iat ∧
        floatOf P iat = .ok read.issuedAt := by
  simp only [readFlow, bind_eq_ok, item_ok, pure_eq, Except.ok.injEq]
  constructor
  · intro returned
    rcases returned with ⟨secret, held, entries, unsigned, state, hasState, nonce, hasNonce, verifier, hasVerifier,
      redirectUri, hasRedirect, iat, hasIat, issuedAt, number, rfl⟩
    have opened := (opened_iff entra).mpr ⟨secret, held, unsigned⟩
    exact ⟨entries, iat, opened, hasState, hasNonce, hasVerifier, hasRedirect, hasIat, number⟩
  · intro described
    rcases described with ⟨entries, iat, opened, hasState, hasNonce, hasVerifier, hasRedirect, hasIat, number⟩
    rcases (opened_iff entra).mp opened with ⟨secret, held, unsigned⟩
    exact ⟨secret, held, entries, unsigned, _, hasState, _, hasNonce, _, hasVerifier, _, hasRedirect, iat, hasIat, _,
      number, rfl⟩

/-- The exceptions that the first except clause converts. -/
inductive Malformed : AuthError → Prop where
  | key : Malformed .key
  | type : Malformed .type
  | decode : Malformed .decode
  | value (message : String) : Malformed (.value message)

theorem Malformed.closed {α : Type} {error : AuthError} (malformed : Malformed error) :
    failClosed (.error error : Except AuthError α) = .error (.http 401 "Invalid login state.") := by
  cases malformed <;> rfl

theorem item_error {document : Dict} {key : String} {error : AuthError} (absent : item document key = .error error) :
    Malformed error := by
  unfold item at absent
  split at absent
  · cases absent
  · cases absent
    exact .key

theorem cookieSecret_error {error : AuthError} (failed : cookieSecret settings = .error error) : Malformed error := by
  simp only [cookieSecret, bind_eq_error, raiseWhen_error] at failed
  rcases failed with ⟨-, rfl⟩ | ⟨_, -, failed⟩
  · exact .value _
  · cases failed

theorem floatOf_error {value : Value} {error : AuthError} (failed : floatOf P value = .error error) :
    Malformed error ∨ ∃ n, value = .int n ∧ P.floatOfInt n = none := by
  cases value with
  | bool b => cases failed
  | float x => cases failed
  | int n =>
      rw [floatOf] at failed
      cases read : P.floatOfInt n with
      | none => exact .inr ⟨n, rfl, read⟩
      | some q =>
          rw [read] at failed
          cases failed
  | str text =>
      rw [floatOf] at failed
      cases read : P.parseFloat text with
      | none =>
          rw [read] at failed
          cases failed
          exact .inl .decode
      | some x =>
          rw [read] at failed
          cases failed
  | none | list | dict =>
      cases failed
      exact .inl .type

variable (state) in
theorem readFlow_error (entra : settings.mode = .entra) {error : AuthError}
    (failed : readFlow P settings cookie = .error error) :
    Malformed error ∨ LoginFault P settings state cookie := by
  simp only [readFlow, bind_eq_error] at failed
  rcases failed with failed | ⟨secret, held, failed⟩
  · exact .inl (cookieSecret_error failed)
  rcases failed with failed | ⟨entries, unsigned, failed⟩
  · rcases unsign_error failed with rfl | ⟨_, rfl⟩ | ⟨rfl, text, data, rfl, signed, deep⟩
    · exact .inl .decode
    · exact .inl (.value _)
    · rcases (cookieSecret_ok entra).mp held with ⟨client, present⟩
      exact .inr (.nested ⟨secret, text, data, client, present, rfl, signed, deep⟩)
  rcases failed with failed | ⟨_, hasState, failed⟩
  · exact .inl (item_error failed)
  rcases failed with failed | ⟨_, hasNonce, failed⟩
  · exact .inl (item_error failed)
  rcases failed with failed | ⟨_, hasVerifier, failed⟩
  · exact .inl (item_error failed)
  rcases failed with failed | ⟨_, hasRedirect, failed⟩
  · exact .inl (item_error failed)
  rcases failed with failed | ⟨iat, hasIat, failed⟩
  · exact .inl (item_error failed)
  rcases failed with failed | ⟨_, -, failed⟩
  · rcases floatOf_error failed with malformed | ⟨n, rfl, large⟩
    · exact .inl malformed
    · rw [item_ok] at hasState hasNonce hasVerifier hasRedirect hasIat
      right
      apply LoginFault.overflow entries n ((opened_iff entra).mpr ⟨secret, held, unsigned⟩) _ hasIat large
      intro key member
      simp only [List.mem_cons, List.not_mem_nil, or_false] at member
      rcases member with rfl | rfl | rfl | rfl
      · exact Option.isSome_of_eq_some hasState
      · exact Option.isSome_of_eq_some hasNonce
      · exact Option.isSome_of_eq_some hasVerifier
      · exact Option.isSome_of_eq_some hasRedirect
  · cases failed

theorem readFlow_describes (entra : settings.mode = .entra) (opened : Opened P settings cookie entries)
    (describes : Describes P entries flow) :
    readFlow P settings cookie =
      .ok ⟨.str flow.state, .str flow.nonce, .str flow.verifier, .str flow.redirectUri, flow.issuedAt⟩ := by
  rcases describes.issuedAt with ⟨iat, held, number⟩
  exact (readFlow_ok entra).mpr ⟨entries, iat, opened, describes.state, describes.nonce, describes.verifier,
    describes.redirectUri, held, number⟩

theorem acceptedFlow_describes (entra : settings.mode = .entra) (opened : Opened P settings cookie entries)
    (describes : Describes P entries flow) :
    acceptedFlow P settings now state cookie = (checkFlow settings now state flow >>= fun _ => .ok flow) := by
  unfold acceptedFlow
  rw [readFlow_describes entra opened describes]
  rfl

theorem failClosed_ok {α : Type} {outcome : Except AuthError α} {result : α}
    (closed : failClosed outcome = .ok result) : outcome = .ok result := by
  unfold failClosed at closed
  split at closed
  · cases closed
  · cases closed
  · cases closed
  · cases closed
  · exact closed

theorem flowTexts_ok (entra : settings.mode = .entra) {read : FlowEntries}
    (returned : readFlow P settings cookie = .ok read) (texts : flowTexts read = .ok flow) :
    ∃ entries, Opened P settings cookie entries ∧ Describes P entries flow := by
  rcases (readFlow_ok entra).mp returned with ⟨entries, iat, opened, hasState, hasNonce, hasVerifier, hasRedirect,
    hasIat, number⟩
  refine ⟨entries, opened, ?_⟩
  unfold flowTexts at texts
  split at texts
  · rename_i first second third fourth
    cases texts
    rw [first] at hasState
    rw [second] at hasNonce
    rw [third] at hasVerifier
    rw [fourth] at hasRedirect
    exact ⟨hasState, hasNonce, hasVerifier, hasRedirect, iat, hasIat, number⟩
  · cases texts

theorem acceptedFlow_ok (entra : settings.mode = .entra)
    (accepted : acceptedFlow P settings now state cookie = .ok flow) :
    (∃ entries, Opened P settings cookie entries ∧ Describes P entries flow) ∧
      checkFlow settings now state flow = .ok () := by
  simp only [acceptedFlow, bind_eq_ok, pure_eq, Except.ok.injEq] at accepted
  rcases accepted with ⟨read, closed, held, texts, _, checked, rfl⟩
  exact ⟨flowTexts_ok entra (failClosed_ok closed) texts, checked⟩

theorem compareDigest_ok {a b : String} {same : Bool} (compared : compareDigest a b = .ok same) :
    (Bytes.ascii a).isSome ∧ (Bytes.ascii b).isSome ∧ (same = true ↔ a = b) := by
  unfold compareDigest at compared
  split at compared
  · rename_i first second readA readB
    cases compared
    refine ⟨Option.isSome_of_eq_some readA, Option.isSome_of_eq_some readB, ?_⟩
    rw [beq_iff_eq]
    constructor
    · rintro rfl
      exact Bytes.ascii_inj readA readB
    · rintro rfl
      exact Option.some.inj (readA.symm.trans readB)
  · cases compared

theorem compareDigest_error {a b : String} {error : AuthError} (failed : compareDigest a b = .error error) :
    error = .type ∧ (Bytes.ascii a = none ∨ Bytes.ascii b = none) := by
  unfold compareDigest at failed
  split at failed
  · cases failed
  · rename_i unread
    cases failed
    refine ⟨rfl, ?_⟩
    cases readA : Bytes.ascii a with
    | none => exact .inl rfl
    | some first =>
        cases readB : Bytes.ascii b with
        | none => exact .inr rfl
        | some second => exact absurd readB (unread first second readA)

theorem compareDigest_foreign {a b : String} (foreign : Bytes.ascii a = none ∨ Bytes.ascii b = none) :
    compareDigest a b = .error .type := by
  unfold compareDigest
  rcases foreign with foreign | foreign
  · rw [foreign]
  · rw [foreign]
    cases Bytes.ascii a <;> rfl

theorem compareDigest_same {text : String} (plain : (Bytes.ascii text).isSome) :
    compareDigest text text = .ok true := by
  rcases Option.isSome_iff_exists.mp plain with ⟨bytes, read⟩
  simp [compareDigest, read]

theorem recent_iff (issued : Rat) :
    (PyFloat.after (.finite issued) now || outdated now (.finite issued)) = false ↔
      now - 600 ≤ issued ∧ issued ≤ now := by
  simp only [PyFloat.after, outdated, Bool.or_eq_false_iff, decide_eq_false_iff_not, not_lt]
  constructor
  · intro window
    constructor
    · linarith [window.2]
    · exact window.1
  · intro window
    constructor
    · exact window.2
    · linarith [window.1]

theorem checkFlow_ok (checked : checkFlow settings now state flow = .ok ()) :
    flow.redirectUri ∈ settings.redirectUris ∧ flow.state = state ∧ (Bytes.ascii state).isSome ∧
      ((∃ issued, flow.issuedAt = .finite issued ∧ now - 600 ≤ issued ∧ issued ≤ now) ∨ flow.issuedAt = .nan) := by
  simp only [checkFlow, bind_eq_ok, raiseWhen_ok, Bool.not_eq_false', List.contains_iff_mem,
    exists_const] at checked
  rcases checked with ⟨allowed, same, compared, window⟩
  have digest := compareDigest_ok compared
  rw [Bool.or_assoc, Bool.or_eq_false_iff, Bool.not_eq_false'] at window
  refine ⟨allowed, digest.2.2.mp window.1, digest.2.1, ?_⟩
  cases issued : flow.issuedAt with
  | finite q =>
      rw [issued] at window
      exact .inl ⟨q, rfl, (recent_iff q).mp window.2⟩
  | infinite negative =>
      rw [issued] at window
      cases negative <;> simp [PyFloat.after, outdated] at window
  | nan => exact .inr rfl

theorem checkFlow_error {error : AuthError} (failed : checkFlow settings now state flow = .error error) :
    (∃ detail, error = .http 401 detail) ∨
      error = .type ∧ flow.redirectUri ∈ settings.redirectUris ∧
        (Bytes.ascii flow.state = none ∨ Bytes.ascii state = none) := by
  simp only [checkFlow, bind_eq_error, raiseWhen_error, raiseWhen_ok, Bool.not_eq_false', List.contains_iff_mem] at failed
  rcases failed with ⟨-, rfl⟩ | ⟨_, allowed, failed⟩
  · exact .inl ⟨_, rfl⟩
  rcases failed with failed | ⟨_, -, -, rfl⟩
  · have foreign := compareDigest_error failed
    exact .inr ⟨foreign.1, allowed, foreign.2⟩
  · exact .inl ⟨_, rfl⟩

variable (code) in
theorem completeLogin_accepted (entra : settings.mode = .entra)
    (accepted : acceptedFlow P settings now state cookie = .ok flow) :
    completeLogin P settings now code state cookie = exchange P settings code flow := by
  have mode : (settings.mode != .entra) = false := by
    rw [entra]
    rfl
  unfold completeLogin
  rw [mode, accepted]
  rfl

variable (code) in
theorem completeLogin_refused (entra : settings.mode = .entra) {error : AuthError}
    (failed : acceptedFlow P settings now state cookie = .error error) :
    completeLogin P settings now code state cookie = .done (.error error) := by
  have mode : (settings.mode != .entra) = false := by
    rw [entra]
    rfl
  unfold completeLogin
  rw [mode, failed]
  rfl

theorem discovery_cached (tenant : settings.tenantId.getD "" ≠ "") :
    ∃ key next, discovery settings = .call (AuthCommand.cached key) next ∧
      ∀ document, next (some document) = .done (.ok document) := by
  unfold discovery
  split
  · rename_i missing
    exact absurd missing tenant
  · refine ⟨_, _, rfl, ?_⟩
    intro document
    rfl

theorem exchange_asks (tenant : settings.tenantId.getD "" ≠ "") (code : String) (flow : Flow)
    (outcome : Except AuthError AuthenticatedUser) : exchange P settings code flow ≠ .done outcome := by
  rcases discovery_cached tenant with ⟨key, next, same, -⟩
  unfold exchange tokenRequest
  rw [same]
  intro done
  cases done

theorem exchange_untenanted (tenant : settings.tenantId.getD "" = "") (code : String) (flow : Flow) :
    exchange P settings code flow = .done (.error (.http 401 "Sign-in could not be completed.")) := by
  have raises : discovery settings = .done (.error (.value "Entra tenant is unavailable.")) := by
    unfold discovery
    rw [tenant]
    rfl
  unfold exchange tokenRequest
  rw [raises]
  rfl

theorem exchange_ne_type (code : String) (flow : Flow) :
    exchange P settings code flow ≠ .done (.error .type) := by
  by_cases tenant : settings.tenantId.getD "" = ""
  · rw [exchange_untenanted tenant]
    intro same
    cases same
  · exact exchange_asks tenant code flow _

variable (now) in
theorem fault_result (entra : settings.mode = .entra) (fault : LoginFault P settings state cookie) :
    acceptedFlow P settings now state cookie = .error .recursion ∨
      acceptedFlow P settings now state cookie = .error .overflow ∨
      acceptedFlow P settings now state cookie = .error .type ∨
      ∃ flow, acceptedFlow P settings now state cookie = .ok flow ∧ flow.issuedAt = .nan ∧
        settings.tenantId.getD "" ≠ "" := by
  cases fault with
  | nested deep =>
      rcases deep with ⟨secret, value, data, client, present, rfl, signed, loaded⟩
      have held := (cookieSecret_ok entra).mpr ⟨client, present⟩
      have read : readFlow P settings (some value) = .error .recursion := by
        unfold readFlow
        simp only [held, unsign_signed signed, readObject, loaded, ok_bind, error_bind]
      left
      unfold acceptedFlow
      rw [read]
      rfl
  | overflow entries iat opened held issued large =>
      right
      rcases (opened_iff entra).mp opened with ⟨secret, client, unsigned⟩
      have present : ∀ key ∈ ["state", "nonce", "verifier", "redirect_uri"], ∃ value, item entries key = .ok value := by
        intro key member
        rcases Option.isSome_iff_exists.mp (held key member) with ⟨value, found⟩
        exact ⟨value, item_ok.mpr found⟩
      rcases present "state" (by simp) with ⟨_, hasState⟩
      rcases present "nonce" (by simp) with ⟨_, hasNonce⟩
      rcases present "verifier" (by simp) with ⟨_, hasVerifier⟩
      rcases present "redirect_uri" (by simp) with ⟨_, hasRedirect⟩
      have number : floatOf P (.int iat) = .error .overflow := by
        simp only [floatOf, large]
      have read : readFlow P settings cookie = .error .overflow := by
        unfold readFlow
        simp only [client, unsigned, hasState, hasNonce, hasVerifier, hasRedirect, item_ok.mpr issued, number,
          ok_bind, error_bind]
      left
      unfold acceptedFlow
      rw [read]
      rfl
  | text entries flow opened describes allowed foreign =>
      right
      right
      left
      have listed : (!settings.redirectUris.contains flow.redirectUri) = false := by simpa using allowed
      rw [acceptedFlow_describes entra opened describes, checkFlow, listed, compareDigest_foreign foreign]
      rfl
  | undated entries flow opened describes allowed same plain nan tenant =>
      right
      right
      right
      have listed : (!settings.redirectUris.contains flow.redirectUri) = false := by simpa using allowed
      refine ⟨flow, ?_, nan, tenant⟩
      rw [acceptedFlow_describes entra opened describes, checkFlow, listed, same, compareDigest_same plain, nan]
      rfl

/-- A callback of a flow passes the checks when its state is ASCII. -/
theorem bound_accepted (entra : settings.mode = .entra) (belongs : FlowBound P settings cookie state now flow)
    (plain : (Bytes.ascii state).isSome) : acceptedFlow P settings now state cookie = .ok flow := by
  rcases belongs.signed with ⟨entries, opened, describes⟩
  rcases belongs.recent with ⟨issued, held, window⟩
  have listed : (!settings.redirectUris.contains flow.redirectUri) = false := by simpa using belongs.allowed
  have timely : (PyFloat.after (.finite issued) now || outdated now (.finite issued)) = false :=
    (recent_iff issued).mpr window
  have checked : checkFlow settings now state flow = .ok () := by
    unfold checkFlow
    rw [listed, belongs.state_eq, compareDigest_same plain, held]
    simp only [raiseWhen_false, ok_bind, Bool.not_true, Bool.false_or, timely]
  rw [acceptedFlow_describes entra opened describes, checked]
  rfl

theorem failClosed_error (entra : settings.mode = .entra) {error : AuthError}
    (closed : failClosed (readFlow P settings cookie) = .error error) :
    (∃ detail, error = .http 401 detail) ∨ LoginFault P settings state cookie := by
  cases read : readFlow P settings cookie with
  | ok entries =>
      rw [read] at closed
      cases closed
  | error raised =>
      rw [read] at closed
      rcases readFlow_error state entra read with malformed | fault
      · rw [malformed.closed] at closed
        cases closed
        exact .inl ⟨_, rfl⟩
      · exact .inr fault

/-- The checks refuse with 401 unless one of them fails itself. -/
theorem acceptedFlow_error (entra : settings.mode = .entra) {error : AuthError}
    (failed : acceptedFlow P settings now state cookie = .error error) :
    (∃ detail, error = .http 401 detail) ∨ LoginFault P settings state cookie := by
  simp only [acceptedFlow, bind_eq_error] at failed
  rcases failed with closed | ⟨read, closed, failed⟩
  · exact failClosed_error entra closed
  rcases failed with texts | ⟨flow, texts, failed⟩
  · unfold flowTexts at texts
    split at texts
    · cases texts
    · cases texts
      exact .inl ⟨_, rfl⟩
  rcases failed with wrong | ⟨_, -, wrong⟩
  · rcases checkFlow_error wrong with detail | ⟨-, allowed, foreign⟩
    · exact .inl detail
    · rcases flowTexts_ok entra (failClosed_ok closed) texts with ⟨entries, opened, describes⟩
      exact .inr (.text entries flow opened describes allowed foreign)
  · cases wrong

/-- A login that is bound fails with a 401, unless a callback of some flow fails so on its way. -/
theorem LoginBinding.unfailing (binding : LoginBinding P settings now code state cookie) (entra : settings.mode = .entra)
    (error : AuthError) (other : ∀ detail, error ≠ .http 401 detail)
    (unsent : ∀ flow, FlowBound P settings cookie state now flow → exchange P settings code flow ≠ .done (.error error)) :
    acceptedFlow P settings now state cookie ≠ .error error := by
  intro failed
  have result := completeLogin_refused code entra failed
  by_cases belongs : ∃ flow, FlowBound P settings cookie state now flow
  · rcases belongs with ⟨flow, belongs⟩
    have sent := binding.bound flow belongs
    rw [result] at sent
    exact unsent flow belongs sent.symm
  · rcases binding.refused (fun flow held => belongs ⟨flow, held⟩) with ⟨detail, rejected⟩
    rw [result] at rejected
    cases rejected
    exact other detail rfl

/-- A callback of a described flow gets past the first block. -/
theorem LoginBinding.read (binding : LoginBinding P settings now code state cookie) (entra : settings.mode = .entra)
    (error : AuthError) (other : ∀ detail, error ≠ .http 401 detail) (untyped : error ≠ .type) :
    acceptedFlow P settings now state cookie ≠ .error error := by
  intro failed
  apply binding.unfailing entra error other _ failed
  intro flow belongs
  rcases belongs.signed with ⟨entries, opened, describes⟩
  rw [acceptedFlow_describes entra opened describes] at failed
  rcases (bind_eq_error _ _ _).mp failed with wrong | ⟨_, -, wrong⟩
  · rcases checkFlow_error wrong with ⟨detail, same⟩ | ⟨same, -⟩
    · exact absurd same (other detail)
    · exact absurd same untyped
  · cases wrong

theorem unbound_of_nan (entra : settings.mode = .entra) (accepted : acceptedFlow P settings now state cookie = .ok flow)
    (nan : flow.issuedAt = .nan) (other : Flow) : ¬FlowBound P settings cookie state now other := by
  intro belongs
  have plain := (checkFlow_ok (acceptedFlow_ok entra accepted).2).2.2.1
  have same := bound_accepted entra belongs plain
  rw [accepted] at same
  cases same
  rcases belongs.recent with ⟨issued, held, -⟩
  rw [nan] at held
  cases held

theorem LoginBinding.faultless (binding : LoginBinding P settings now code state cookie) (entra : settings.mode = .entra) :
    ¬LoginFault P settings state cookie := by
  intro fault
  rcases fault_result now entra fault with failed | failed | failed | ⟨flow, accepted, nan, tenant⟩
  · exact binding.read entra .recursion nofun nofun failed
  · exact binding.read entra .overflow nofun nofun failed
  · exact binding.unfailing entra .type nofun (fun flow _ => exchange_ne_type code flow) failed
  · have result := completeLogin_accepted code entra accepted
    rcases binding.refused (unbound_of_nan entra accepted nan) with ⟨detail, rejected⟩
    rw [result] at rejected
    exact exchange_asks tenant code flow _ rejected

theorem completeLogin_bound (entra : settings.mode = .entra) (sound : ¬LoginFault P settings state cookie)
    (belongs : FlowBound P settings cookie state now flow) :
    completeLogin P settings now code state cookie = exchange P settings code flow := by
  have plain : (Bytes.ascii state).isSome := by
    rw [Option.isSome_iff_ne_none]
    intro foreign
    rcases belongs.signed with ⟨entries, opened, describes⟩
    exact sound (.text entries flow opened describes belongs.allowed (.inr foreign))
  exact completeLogin_accepted code entra (bound_accepted entra belongs plain)

theorem completeLogin_unbound (entra : settings.mode = .entra) (sound : ¬LoginFault P settings state cookie)
    (unbound : ∀ flow, ¬FlowBound P settings cookie state now flow) :
    ∃ detail, completeLogin P settings now code state cookie = .done (.error (.http 401 detail)) := by
  cases result : acceptedFlow P settings now state cookie with
  | ok flow =>
      have accepted := acceptedFlow_ok entra result
      rcases checkFlow_ok accepted.2 with ⟨allowed, same, plain, issued⟩
      rcases issued with recent | nan
      · exact absurd ⟨accepted.1, same, allowed, recent⟩ (unbound flow)
      · by_cases tenant : settings.tenantId.getD "" = ""
        · exact ⟨_, (completeLogin_accepted code entra result).trans (exchange_untenanted tenant code flow)⟩
        · rcases accepted.1 with ⟨entries, opened, describes⟩
          exact absurd (.undated entries flow opened describes allowed same plain nan tenant) sound
  | error error =>
      have refused := completeLogin_refused code entra result
      rcases acceptedFlow_error entra result with ⟨detail, rfl⟩ | fault
      · exact ⟨detail, refused⟩
      · exact absurd fault sound

theorem binding_iff (entra : settings.mode = .entra) :
    LoginBinding P settings now code state cookie ↔ ¬LoginFault P settings state cookie := by
  constructor
  · intro binding
    exact binding.faultless entra
  · intro sound
    exact ⟨fun flow belongs => completeLogin_bound entra sound belongs, completeLogin_unbound entra sound⟩

/-! What is done for an accepted flow. -/

def AuthCommand.form {α : Type} : AuthCommand α → Option (List (String × Option String))
  | .post _ form => some form
  | _ => none

def Posts (sent : List (String × Option String)) (α : Type) (command : AuthCommand α) : Prop :=
  ∀ form ∈ command.form, form = sent

variable {sent : List (String × Option String)}

theorem document_posts (key : String) (url : Value) (valid : Dict → Bool) :
    (document key url valid).Confined (Posts sent) := by
  have fetched : ((Login.get url).catching unavailable).Confined (Posts sent) := by
    apply Program.Confined.catching
    · apply Program.Confined.bind (Program.Confined.ask nofun)
      intro answer
      exact Program.Confined.lift answer
    · intro error
      cases error <;> trivial
  unfold document
  apply Program.Confined.bind (Program.Confined.ask nofun)
  intro held
  cases held with
  | some _ => trivial
  | none =>
      apply Program.Confined.bind fetched
      intro answer
      cases answer with
      | dict entries =>
          dsimp only
          split
          · apply Program.Confined.bind (Program.Confined.ask nofun)
            intro _
            trivial
          · trivial
      | none | bool | int | float | str | list => trivial

theorem discovery_posts : (discovery settings).Confined (Posts sent) := by
  unfold discovery
  split
  · trivial
  · exact document_posts _ _ _

theorem verifyToken_posts (token : Value) (audience : String) (nonce : Option String) :
    (verifyToken P settings token audience nonce).Confined (Posts sent) := by
  have claims : ∀ header claims signature, (signedClaims P settings header claims signature).Confined (Posts sent) := by
    intro header claims signature
    unfold signedClaims
    apply Program.Confined.bind (Program.Confined.lift _)
    intro kid
    apply Program.Confined.bind discovery_posts
    intro provider
    apply Program.Confined.bind (Program.Confined.lift _)
    intro uri
    apply Program.Confined.bind (document_posts _ _ _)
    intro keySet
    repeat
      apply Program.Confined.bind (Program.Confined.lift _)
      intro _
    exact Program.Confined.lift _
  unfold verifyToken
  apply Program.Confined.bind (Program.Confined.lift _)
  intro parts
  apply Program.Confined.bind
  · apply Program.Confined.catching (claims _ _ _)
    intro error
    cases error <;> trivial
  · intro claims
    apply Program.Confined.bind (Program.Confined.ask nofun)
    intro time
    apply Program.Confined.bind (Program.Confined.lift _)
    intro _
    trivial

/-- The only form that is posted carries the flow's own address and verifier. -/
theorem exchange_posts (code : String) (flow : Flow) :
    (exchange P settings code flow).Confined (Posts (tokenForm settings code flow)) := by
  have request : (tokenRequest settings code flow).Confined (Posts (tokenForm settings code flow)) := by
    unfold tokenRequest
    apply Program.Confined.bind discovery_posts
    intro provider
    apply Program.Confined.bind (Program.Confined.lift _)
    intro endpoint
    apply Program.Confined.bind
    · apply Program.Confined.bind
      · apply Program.Confined.ask
        intro form member
        exact (Option.mem_some.mp member).symm
      · intro answer
        exact Program.Confined.lift answer
    · intro response
      exact Program.Confined.lift _
  unfold exchange
  apply Program.Confined.bind
  · apply Program.Confined.catching request
    intro error
    cases error <;> trivial
  · intro idToken
    apply Program.Confined.bind (verifyToken_posts _ _ _)
    intro claims
    exact Program.Confined.lift _

theorem verifyToken_nonce {token : Value} {audience nonce : String} {claims : Dict} {events : List (Event AuthCommand)}
    (runs : Program.Runs (verifyToken P settings token audience (some nonce)) events (.ok claims)) :
    Dict.get claims "nonce" = .str nonce := by
  rcases Program.runs_bind_ok runs with ⟨_, _, parts, -, further, -⟩
  rcases Program.runs_bind_ok further with ⟨_, _, held, -, further, -⟩
  rcases Program.runs_bind_ok further with ⟨_, _, time, -, further, -⟩
  rcases Program.runs_bind_ok further with ⟨_, _, u, checked, rest, -⟩
  have same : held = claims := Except.ok.inj (Program.runs_lift rest).1
  have kept := (raiseWhen_ok _ _ _).mp (Program.runs_lift checked).1
  rw [same] at kept
  simp only [refused, Bool.or_eq_false_iff, Option.any_some, bne_eq_false_iff_eq] at kept
  exact kept.2

/-- A login is completed only for a token that names the flow's own nonce. -/
theorem exchange_nonce {user : AuthenticatedUser} {events : List (Event AuthCommand)}
    (runs : Program.Runs (exchange P settings code flow) events (.ok user)) :
    ∃ claims, Dict.get claims "nonce" = .str flow.nonce ∧ userFromClaims P settings claims = .ok user := by
  rcases Program.runs_bind_ok runs with ⟨_, _, idToken, -, further, -⟩
  rcases Program.runs_bind_ok further with ⟨_, _, claims, verified, rest, -⟩
  exact ⟨claims, verifyToken_nonce verified, (Program.runs_lift rest).1⟩

/-! The service's own flows. -/

/-- The flow `start_login` begins. -/
def flowOf (draws : Draws) (redirectUri : String) : Flow :=
  ⟨b64url draws.state, b64url draws.nonce, b64url draws.verifier, redirectUri, .finite draws.now⟩

variable {draws : Draws} {redirectUri : String} {start : LoginStart} {events : List (Event AuthCommand)}

theorem startLogin_ok (runs : Program.Runs (startLogin P settings draws redirectUri) events (.ok start)) :
    redirectUri ∈ settings.redirectUris ∧ stateCookie P settings draws redirectUri = .ok start.stateCookie := by
  rcases Program.runs_bind_ok runs with ⟨_, _, u, checked, further, -⟩
  rcases Program.runs_bind_ok further with ⟨_, _, cookie, minted, further, -⟩
  rcases Program.runs_bind_ok further with ⟨_, _, provider, -, further, -⟩
  rcases Program.runs_bind_ok further with ⟨_, _, endpoint, -, rest, -⟩
  have allowed := (raiseWhen_ok _ _ _).mp (Program.runs_lift checked).1
  rw [Bool.or_eq_false_iff, Bool.not_eq_false', List.contains_iff_mem] at allowed
  refine ⟨allowed.2, ?_⟩
  have cookieHeld := (Program.runs_lift minted).1
  cases endpoint with
  | str endpoint =>
      cases rest
      exact cookieHeld
  | none | bool | int | float | list | dict => cases rest

theorem flowPayload_describes (same : ∀ key, entries.lookup key = (flowPayload draws redirectUri).lookup key) :
    Describes P entries (flowOf draws redirectUri) := by
  refine ⟨?_, ?_, ?_, ?_, .float (.finite draws.now), ?_, rfl⟩
  all_goals
    rw [same]
    rfl

/-- A minted cookie holds its flow under the client secret. -/
theorem stateCookie_opened (entra : settings.mode = .entra) (json : ReadsBack P (flowPayload draws redirectUri))
    {minted : String} (signed : stateCookie P settings draws redirectUri = .ok minted) :
    ∃ entries, Opened P settings (some minted) entries ∧ Describes P entries (flowOf draws redirectUri) := by
  rcases json.read with ⟨entries, loaded, same⟩
  unfold stateCookie at signed
  rw [bind_eq_ok] at signed
  rcases signed with ⟨secret, held, signed⟩
  have unsigned : unsign P (some minted) secret = .ok entries := by
    rw [unsign_sign json.written signed, readObject, loaded]
  exact ⟨entries, (opened_iff entra).mpr ⟨secret, held, unsigned⟩, flowPayload_describes same⟩

theorem stateCookie_ok (entra : settings.mode = .entra) {secret : String} (client : settings.clientSecret = some secret)
    (present : secret ≠ "") (draws : Draws) (redirectUri : String) :
    ∃ minted, stateCookie P settings draws redirectUri = .ok minted := by
  have held := (cookieSecret_ok entra).mpr ⟨client, present⟩
  rcases digest_b64url (P := P) secret (Bytes.utf8 (P.dumps (flowPayload draws redirectUri))) with ⟨message, computed⟩
  unfold stateCookie sign
  simp only [held, computed, ok_bind, pure_eq, Except.ok.injEq, exists_eq']

theorem own_flow (entra : settings.mode = .entra) (json : ReadsBack P (flowPayload draws redirectUri))
    (started : Program.Runs (startLogin P settings draws redirectUri) events (.ok start))
    (later : draws.now ≤ now) (within : now ≤ draws.now + 600) :
    completeLogin P settings now code (b64url draws.state) (some start.stateCookie) =
      exchange P settings code (flowOf draws redirectUri) := by
  rcases startLogin_ok started with ⟨allowed, minted⟩
  have plain : (Bytes.ascii (b64url draws.state)).isSome := by
    have ascii : (b64url draws.state).toList.all (fun c => c.toNat < 128) = true := by
      rw [List.all_eq_true]
      intro c member
      simpa using b64url_ascii draws.state c member
    unfold Bytes.ascii
    rw [if_pos ascii]
    rfl
  have belongs : FlowBound P settings (some start.stateCookie) (b64url draws.state) now (flowOf draws redirectUri) := by
    refine ⟨stateCookie_opened entra json minted, rfl, allowed, draws.now, rfl, ?_, later⟩
    linarith
  exact completeLogin_accepted code entra (bound_accepted entra belongs plain)

end Callback

namespace Bench

def draws : Draws where
  state := (List.range 32).map UInt8.ofNat
  nonce := (List.range 32).map (fun n => UInt8.ofNat (n + 32))
  verifier := (List.range 64).map (fun n => UInt8.ofNat (n + 64))
  now := 1767949000

def callback : String := "http://localhost:8000/api/v1/callback"

def flowText : String :=
  "\x7b\"iat\":1767949000.0,\"nonce\":\"ICEiIyQlJicoKSorLC0uLzAxMjM0NTY3ODk6Ozw9Pj8\",\"redirect_uri\":\"http://localhost:8000/api/v1/callback\",\"state\":\"AAECAwQFBgcICQoLDA0ODxAREhMUFRYXGBkaGxwdHh8\",\"verifier\":\"QEFCQ0RFRkdISUpLTE1OT1BRUlNUVVZXWFlaW1xdXl9gYWJjZGVmZ2hpamtsbW5vcHFyc3R1dnd4eXp7fH1-fw\"\x7d"

/-- What `json.loads` makes of `flowText`: the entries in the order of their keys. -/
def flowEntries : Dict :=
  [("iat", .float (.finite draws.now)), ("nonce", .str (b64url draws.nonce)), ("redirect_uri", .str callback),
   ("state", .str (b64url draws.state)), ("verifier", .str (b64url draws.verifier))]

/-- HMAC-SHA-256 of the encoded flow under the bench's client secret. -/
def flowSignature : Bytes :=
  [47, 0, 98, 214, 127, 23, 49, 66, 155, 137, 77, 214, 25, 27, 35, 59,
   108, 250, 182, 8, 115, 202, 75, 210, 125, 42, 240, 73, 120, 79, 139, 212]

def loginPlatform : AuthPlatform where
  hmacSha256 _ _ := flowSignature
  digest_length _ _ := rfl
  sha256 := platform.sha256
  dumps payload := if payload = flowPayload draws callback then flowText else "\x7b\x7d"
  loads data := if data = Bytes.utf8 flowText then .ok (.dict flowEntries) else .error .value
  repr := platform.repr
  floatOfInt := platform.floatOfInt
  parseFloat := platform.parseFloat
  urlencode := platform.urlencode
  rsaVerify := platform.rsaVerify

theorem flow_dumped : loginPlatform.dumps (flowPayload draws callback) = flowText := by
  simp only [loginPlatform, if_true]

theorem flow_loaded : loginPlatform.loads (Bytes.utf8 flowText) = .ok (.dict flowEntries) := by
  simp only [loginPlatform, if_true]

theorem flow_readsBack : ReadsBack loginPlatform (flowPayload draws callback) where
  written := by
    rw [flow_dumped]
    decide +kernel
  read := by
    rw [flow_dumped]
    refine ⟨flowEntries, flow_loaded, ?_⟩
    intro key
    simp only [flowEntries, flowPayload, Dict.lookup_cons_key, List.lookup_nil]
    grind

def provider : Dict :=
  [("authorization_endpoint", .str "https://login.microsoftonline.com/authorize"),
   ("token_endpoint", .str "https://login.microsoftonline.com/token")]

theorem flow_minted : ∃ cookie, stateCookie loginPlatform Bench.settings draws callback = .ok cookie := by
  have entra : Bench.settings.mode = .entra := rfl
  have client : Bench.settings.clientSecret = some "bench-client-secret" := rfl
  exact stateCookie_ok entra client (by decide) draws callback

theorem flow_started {cookie : String}
    (minted : stateCookie loginPlatform Bench.settings draws callback = .ok cookie) :
    ∃ events url, Program.Runs (startLogin loginPlatform Bench.settings draws callback) events (.ok ⟨url, cookie⟩) := by
  have allowed : (Bench.settings.mode != .entra || !Bench.settings.redirectUris.contains callback) = false := by
    decide +kernel
  have tenant : Bench.settings.tenantId.getD "" ≠ "" := by decide +kernel
  rcases discovery_cached tenant with ⟨key, next, asks, found⟩
  unfold startLogin
  rw [allowed, minted, asks]
  refine ⟨[⟨.cached key, some provider⟩], "https://login.microsoftonline.com/authorize?", ?_⟩
  apply Program.Runs.call (some provider)
  rw [found]
  exact .done _

end Bench

end NetworkGateway.Auth
