import Mathlib.Data.List.TakeWhile
import NetworkGateway.Dal.Bench
import NetworkGateway.Library.Provenance
import NetworkGateway.Proofs.Audit

/-! Audit redaction: sensitive members at every depth, and bearer credentials in texts. -/

namespace NetworkGateway.Store

open Library.Scan Library.Result

/-! The passes of `_redact_text` with the position of every character. -/

abbrev bearerMarker : List Char := "Bearer [redacted]".toList
abbrev keyMarker : List Char := "[redacted]".toList

def bearerTraced (input : List (Traced Char)) : List (Traced Char) := substTraced bearer bearerMarker input

def redactTextTraced (value : String) : List (Traced Char) :=
  (substTraced pemKey keyMarker (bearerTraced (traced value.toList))).take 4000

theorem untraced_bearerTraced (input : List (Traced Char)) :
    untraced (bearerTraced input) = subst bearer bearerMarker (untraced input) :=
  untraced_substTraced bearer bearerMarker input

theorem untraced_redactTextTraced (value : String) :
    String.ofList (untraced (redactTextTraced value)) = redactText value := by
  unfold redactTextTraced redactText Text.truncate
  rw [untraced_take, untraced_substTraced, untraced_bearerTraced, untraced_traced]
  exact congrArg (fun whole => String.ofList (whole.take 4000)) String.toList_ofList.symm

theorem bearerTraced_of_redacted {value : String} {c : Traced Char} (carried : c.2 ≠ none)
    (survives : c ∈ redactTextTraced value) : c ∈ bearerTraced (traced value.toList) :=
  mem_of_copied carried (List.mem_of_mem_take survives)

/-! Letters. -/

theorem toLower_of_not_upper {c : Char} (upper : ¬(65 ≤ c.toNat ∧ c.toNat ≤ 90)) : c.toLower = c := by
  apply dif_neg
  intro held
  exact upper ⟨UInt32.le_iff_toNat_le.mp held.1, UInt32.le_iff_toNat_le.mp held.2⟩

theorem toLower_high {c : Char} (high : 91 ≤ c.toNat) : c.toLower = c := by
  apply toLower_of_not_upper
  intro upper
  omega

/-- Under `re.IGNORECASE` an ASCII letter stands for its two cases. -/
theorem foldCase_lower {c : Char} (ascii : c.toLower.toNat < 128) : Text.foldCase c = c.toLower := by
  have plain : 128 ≤ c.toNat → False := by
    intro high
    rw [toLower_high (Nat.le_trans (by decide) high)] at ascii
    omega
  unfold Text.foldCase
  split
  · rename_i exotic
    exact absurd (plain (by omega)) id
  · rename_i exotic
    exact absurd (plain (by omega)) id
  · rename_i exotic
    exact absurd (plain (by omega)) id
  · rename_i exotic
    exact absurd (plain (by omega)) id
  · rfl

theorem tokenChar_not_space {c : Char} (token : tokenChar c = true) : Text.isSpace c = false := by
  by_contra space
  have spaced : Text.isSpace c = true := by simpa using space
  simp only [Text.isSpace, Bool.or_eq_true, Bool.and_eq_true, decide_eq_true_iff, beq_iff_eq] at spaced
  simp only [tokenChar, Bool.or_eq_true, Text.isAlphanum_iff, beq_iff_eq, List.contains_eq_mem, decide_eq_true_iff,
    List.mem_cons, List.not_mem_nil, or_false] at token
  rcases token with ((((alphanumeric | rfl) | rfl) | rfl) | rfl) | other
  · omega
  · revert spaced; decide
  · revert spaced; decide
  · revert spaced; decide
  · revert spaced; decide
  · omega

theorem schemeLetter_token {c : Char} (member : Text.foldCase c ∈ "bearer".toList) : tokenChar c = true := by
  have letters : "bearer".toList.all tokenChar = true := by decide
  by_cases upper : 65 ≤ c.toNat ∧ c.toNat ≤ 90
  · have alphanumeric : c.isAlphanum = true := Text.isAlphanum_iff.mpr (.inl upper)
    simp [tokenChar, alphanumeric]
  · have plain : c.toLower = c := toLower_of_not_upper upper
    unfold Text.foldCase at member
    split at member
    · exact absurd member (by decide)
    · exact absurd member (by decide)
    · exact absurd member (by decide)
    · exact absurd member (by decide)
    · rw [plain] at member
      exact List.all_eq_true.mp letters c member

/-! `_BEARER_RE`. -/

structure Introduces (scheme spaces : List Char) : Prop where
  scheme : scheme.map Text.foldCase = "bearer".toList
  nonempty : spaces ≠ []
  spaces : ∀ c ∈ spaces, Text.isSpace c = true

theorem Introduces.length {scheme spaces : List Char} (introduces : Introduces scheme spaces) : scheme.length = 6 := by
  have lengths := congrArg List.length introduces.scheme
  simpa using lengths

theorem takeWhile_append_stop {α : Type} {keep : α → Bool} {first second : List α} (all : ∀ c ∈ first, keep c = true)
    (stops : ∀ c, second.head? = some c → keep c = false) : (first ++ second).takeWhile keep = first := by
  induction first with
  | nil =>
      cases second with
      | nil => rfl
      | cons c rest => simp [stops c rfl]
  | cons c first ih =>
      have head := all c List.mem_cons_self
      have tail := ih (fun d member => all d (List.mem_cons_of_mem c member))
      simp [head, tail]

/-- The expression takes a scheme, the white space and at least the token characters after it. -/
theorem bearer_takes {scheme spaces credential : List Char} (introduces : Introduces scheme spaces)
    (nonempty : credential ≠ []) (tokens : ∀ c ∈ credential, tokenChar c = true) (rest : List Char) :
    ∃ n, bearer (scheme ++ spaces ++ credential ++ rest) = some n ∧
      (scheme ++ spaces ++ credential).length ≤ n := by
  have word : foldWord "bearer".toList (scheme ++ spaces ++ credential ++ rest) = some 6 := by
    unfold foldWord
    have taken : (scheme ++ spaces ++ credential ++ rest).take "bearer".toList.length = scheme := by
      rw [List.append_assoc, List.append_assoc, List.take_append_of_le_length]
      · exact List.take_of_length_le (Nat.le_of_eq introduces.length)
      · exact Nat.le_of_eq introduces.length.symm
    rw [taken, if_pos introduces.scheme]
    rfl
  have afterScheme : (scheme ++ spaces ++ credential ++ rest).drop 6 = spaces ++ (credential ++ rest) := by
    rw [← introduces.length, List.append_assoc, List.append_assoc, List.drop_left]
  have spaced : ((scheme ++ spaces ++ credential ++ rest).drop 6).takeWhile Text.isSpace = spaces := by
    rw [afterScheme]
    apply takeWhile_append_stop introduces.spaces
    intro c first
    cases credential with
    | nil => exact absurd rfl nonempty
    | cons d tail =>
        have same : d = c := Option.some.inj first
        rw [← same]
        exact tokenChar_not_space (tokens d List.mem_cons_self)
  have afterSpaces : (scheme ++ spaces ++ credential ++ rest).drop (6 + spaces.length) = credential ++ rest := by
    rw [← List.drop_drop, afterScheme, List.drop_left]
  have held : ((credential ++ rest).takeWhile tokenChar) = credential ++ rest.takeWhile tokenChar := by
    rw [List.takeWhile_append_of_pos tokens]
  have unempty : spaces.isEmpty = false := by simpa using introduces.nonempty
  have credentialed : (credential ++ rest.takeWhile tokenChar).isEmpty = false := by
    cases credential with
    | nil => exact absurd rfl nonempty
    | cons d tail => rfl
  refine ⟨6 + spaces.length + (credential ++ rest.takeWhile tokenChar).length, ?_, ?_⟩
  · unfold bearer
    rw [word]
    dsimp only
    rw [spaced, afterSpaces, held, unempty, credentialed]
    rfl
  · simp only [List.length_append, introduces.length]
    omega

theorem take_takeWhile {α : Type} (keep : α → Bool) (input : List α) :
    input.take (input.takeWhile keep).length = input.takeWhile keep :=
  (List.prefix_iff_eq_take.mp (List.takeWhile_prefix keep)).symm

/-- What the expression takes is a scheme, white space and token characters. -/
theorem bearer_ok {input : List Char} {n : Nat} (found : bearer input = some n) :
    ∃ scheme spaces credential, input.take n = scheme ++ spaces ++ credential ∧ Introduces scheme spaces ∧
      ∀ c ∈ credential, tokenChar c = true := by
  unfold bearer foldWord at found
  split at found
  · cases found
  · rename_i scheme word
    split at word
    · rename_i folded
      rw [← Option.some.inj word] at found
      dsimp only at found
      split at found
      · cases found
      · rename_i bounds
        rw [Bool.or_eq_true, not_or, List.isEmpty_iff] at bounds
        rw [← Option.some.inj found]
        refine ⟨input.take "bearer".toList.length, (input.drop "bearer".toList.length).takeWhile Text.isSpace,
          (input.drop ("bearer".toList.length +
            ((input.drop "bearer".toList.length).takeWhile Text.isSpace).length)).takeWhile tokenChar,
          ?_, ⟨folded, bounds.1, fun c => List.mem_takeWhile_imp⟩, fun c => List.mem_takeWhile_imp⟩
        rw [List.take_add, List.take_add, take_takeWhile, take_takeWhile]
    · cases word

/-! Credentials in a text. -/

def b64Char (c : Char) : Bool :=
  c.isAlphanum || ['-', '.', '_', '~', '+', '/'].contains c

/-- `b64token` of RFC 6750: characters of its alphabet, then padding. -/
def B64Token (token : List Char) : Prop :=
  ∃ body padding, token = body ++ padding ∧ body ≠ [] ∧ (∀ c ∈ body, b64Char c = true) ∧ ∀ c ∈ padding, c = '='

/-- `Bearer` in any case, white space and a credential, somewhere in a text. -/
structure BearerCredential (input before scheme spaces token after : List (Traced Char)) : Prop where
  split : input = before ++ (scheme ++ (spaces ++ (token ++ after)))
  scheme : (untraced scheme).map Char.toLower = "bearer".toList
  nonempty : spaces ≠ []
  spaces : ∀ c ∈ spaces, Text.isSpace c.1 = true
  token : B64Token (untraced token)

/-- No character of a credential is copied to the redacted text. -/
def CredentialsHidden (value : String) : Prop :=
  ∀ before scheme spaces token after, BearerCredential (traced value.toList) before scheme spaces token after →
    ∀ c ∈ token, c ∉ redactTextTraced value

/-- A match of `_BEARER_RE` begins where the run does. -/
def Starts (input run : List (Traced Char)) : Prop :=
  ∃ c tail rest, run = c :: tail ∧ .matched (c :: rest) ∈ pieces (lift bearer) input

/-- Every credential is spelled in `[A-Za-z0-9\-_.=]`, and its `Bearer` is not the credential of
another one; `Bearer Bearer Bearer` hides its last word as a scheme. -/
def CredentialsCovered (value : String) : Prop :=
  ∀ before scheme spaces token after, BearerCredential (traced value.toList) before scheme spaces token after →
    (∀ c ∈ token, tokenChar c.1 = true) ∧ (Starts (traced value.toList) scheme ∨ Starts (traced value.toList) token)

theorem B64Token.ne_nil {token : List Char} (valid : B64Token token) : token ≠ [] := by
  rcases valid with ⟨body, padding, rfl, nonempty, -, -⟩
  intro empty
  exact nonempty (List.append_eq_nil_iff.mp empty).1

theorem b64_cases {token : List Char} (valid : B64Token token) {c : Char} (member : c ∈ token) :
    tokenChar c = true ∨ c = '~' ∨ c = '+' ∨ c = '/' := by
  rcases valid with ⟨body, padding, rfl, -, alphabet, padded⟩
  rcases List.mem_append.mp member with held | pad
  · have listed := alphabet c held
    simp only [b64Char, Bool.or_eq_true, List.contains_eq_mem, decide_eq_true_iff, List.mem_cons, List.not_mem_nil,
      or_false] at listed
    rcases listed with alphanumeric | rfl | rfl | rfl | rfl | rfl | rfl
    · left
      simp [tokenChar, alphanumeric]
    · exact .inl (by decide)
    · exact .inl (by decide)
    · exact .inl (by decide)
    · exact .inr (.inl rfl)
    · exact .inr (.inr (.inl rfl))
    · exact .inr (.inr (.inr rfl))
  · rw [padded c pad]
    exact .inl (by decide)

theorem b64_not_space {token : List Char} (valid : B64Token token) {c : Char} (member : c ∈ token) :
    Text.isSpace c = false := by
  rcases b64_cases valid member with token | rfl | rfl | rfl
  · exact tokenChar_not_space token
  · decide
  · decide
  · decide

section

variable {input before scheme spaces token after : List (Traced Char)}

theorem BearerCredential.introduces (credential : BearerCredential input before scheme spaces token after) :
    Introduces (untraced scheme) (untraced spaces) := by
  refine ⟨?_, ?_, ?_⟩
  · rw [← credential.scheme]
    apply List.map_congr_left
    intro c member
    apply foldCase_lower
    have lowered : c.toLower ∈ "bearer".toList := by
      rw [← credential.scheme]
      exact List.mem_map_of_mem member
    have letters : "bearer".toList.all (fun d => d.toNat < 128) = true := by decide
    simpa using List.all_eq_true.mp letters _ lowered
  · intro empty
    exact credential.nonempty (List.map_eq_nil_iff.mp empty)
  · intro c member
    rcases List.mem_map.mp member with ⟨d, held, rfl⟩
    exact credential.spaces d held

theorem cut_unique {α : Type} {whole left right first last : List α} {c : α} (distinct : whole.Nodup)
    (cut : whole = left ++ c :: right) (other : whole = first ++ c :: last) : left = first ∧ right = last := by
  have placed := cut.symm.trans other
  rw [cut, List.nodup_append] at distinct
  have parts := (List.append_cons_inj_of_notMem ?_ ?_).mp placed
  · exact ⟨parts.1, parts.2.2⟩
  · intro member
    exact distinct.2.2 c member c List.mem_cons_self rfl
  · exact (List.nodup_cons.mp distinct.2.1).1

theorem starts_prefix (distinct : input.Nodup) {c : Traced Char} {rest front back : List (Traced Char)}
    (matched : .matched (c :: rest) ∈ pieces (lift bearer) input) (split : input = front ++ c :: back) :
    ∃ n, bearer (untraced (c :: back)) = some n ∧ c :: rest = (c :: back).take n := by
  rcases matched_split matched with ⟨first, last, n, whole, found, taken⟩
  have placed : input = first ++ c :: (rest ++ last) := by
    rw [whole, List.append_assoc]
    rfl
  rw [(cut_unique distinct split placed).2]
  exact ⟨n, found, taken⟩

theorem shared_last {α : Type} {a b first second : List α} (some_first : first ≠ []) (some_second : second ≠ [])
    (same : a ++ first = b ++ second) : ∃ d, d ∈ first ∧ d ∈ second := by
  have ends := congrArg List.getLast? same
  rw [List.getLast?_append_of_ne_nil a some_first, List.getLast?_append_of_ne_nil b some_second,
    List.getLast?_eq_some_getLast some_first, List.getLast?_eq_some_getLast some_second] at ends
  have equal := Option.some.inj ends
  exact ⟨first.getLast some_first, List.getLast_mem some_first, equal ▸ List.getLast_mem some_second⟩

theorem trailing_unique {α : Type} (keep : α → Prop) {a b first second : List α} (allFirst : ∀ c ∈ first, keep c)
    (allSecond : ∀ c ∈ second, keep c) (noneA : ∀ c ∈ a, ¬keep c) (noneB : ∀ c ∈ b, ¬keep c)
    {front back : List α} (same : front ++ a ++ first = back ++ b ++ second) (some_a : a ≠ []) (some_b : b ≠ []) :
    front ++ a = back ++ b ∧ first = second := by
  rcases List.append_eq_append_iff.mp same with ⟨middle, longer, shorter⟩ | ⟨middle, longer, shorter⟩
  · by_cases empty : middle = []
    · rw [empty] at longer shorter
      exact ⟨by simpa using longer.symm, shorter⟩
    · rcases shared_last some_b empty longer with ⟨d, inB, inMiddle⟩
      have kept := allFirst d (shorter ▸ List.mem_append_left _ inMiddle)
      exact absurd kept (noneB d inB)
  · by_cases empty : middle = []
    · rw [empty] at longer shorter
      exact ⟨by simpa using longer, shorter.symm⟩
    · rcases shared_last some_a empty longer with ⟨d, inA, inMiddle⟩
      have kept := allSecond d (shorter ▸ List.mem_append_left _ inMiddle)
      exact absurd kept (noneA d inA)

theorem mem_take_of_prefix {α : Type} {c : α} (front : List α) {whole : List α} {n : Nat} (member : c ∈ front)
    (within : front <+: whole) (long : front.length ≤ n) : c ∈ whole.take n := by
  have same := List.prefix_iff_eq_take.mp within
  rw [same] at member
  exact (List.take_prefix_take_left long).subset member

/-- A credential in token characters is inside the match that begins at its scheme. -/
theorem covered_by_scheme (distinct : input.Nodup) (credential : BearerCredential input before scheme spaces token after)
    (tokens : ∀ c ∈ token, tokenChar c.1 = true) (starts : Starts input scheme) {c : Traced Char} (member : c ∈ token) :
    ∃ source, .matched source ∈ pieces (lift bearer) input ∧ c ∈ source := by
  rcases starts with ⟨d, tail, rest, spelled, matched⟩
  have split : input = before ++ d :: (tail ++ (spaces ++ (token ++ after))) := by
    rw [credential.split, spelled]
    rfl
  rcases starts_prefix distinct matched split with ⟨n, found, taken⟩
  refine ⟨_, matched, ?_⟩
  have whole : d :: (tail ++ (spaces ++ (token ++ after))) = scheme ++ spaces ++ token ++ after := by
    rw [spelled]
    simp
  rw [whole] at found taken
  have plain : ∀ e ∈ untraced token, tokenChar e = true := by
    intro e held
    rcases List.mem_map.mp held with ⟨f, inside, rfl⟩
    exact tokens f inside
  rcases bearer_takes credential.introduces credential.token.ne_nil plain (untraced after) with ⟨m, takes, long⟩
  have same : n = m := by
    rw [untraced_append, untraced_append, untraced_append, takes] at found
    exact (Option.some.inj found).symm
  rw [taken]
  apply mem_take_of_prefix (scheme ++ spaces ++ token)
  · exact List.mem_append_right _ member
  · exact List.prefix_append _ _
  · rw [same]
    simpa using long

/-- A credential where a match begins is the scheme of that match. -/
theorem covered_by_token (distinct : input.Nodup) (credential : BearerCredential input before scheme spaces token after)
    (starts : Starts input token) {c : Traced Char} (member : c ∈ token) :
    ∃ source, .matched source ∈ pieces (lift bearer) input ∧ c ∈ source := by
  rcases starts with ⟨d, tail, rest, spelled, matched⟩
  have split : input = (before ++ scheme ++ spaces) ++ d :: (tail ++ after) := by
    rw [credential.split, spelled]
    simp
  rcases starts_prefix distinct matched split with ⟨n, found, taken⟩
  refine ⟨_, matched, ?_⟩
  have whole : d :: (tail ++ after) = token ++ after := by rw [spelled]; rfl
  rw [whole] at found taken
  rw [taken]
  rcases bearer_ok found with ⟨word, gap, other, parts, introduces, -⟩
  have folded := introduces.length
  cases gap with
  | nil => exact absurd rfl introduces.nonempty
  | cons g gap =>
      have taking := congrArg List.length parts
      rw [List.length_take] at taking
      simp only [List.length_append, List.length_cons] at taking
      -- white space stands after the six letters of the scheme, and none is in the credential
      have short : token.length ≤ 6 := by
        by_contra long
        have spaced : word ++ [g] <+: untraced (token ++ after) := by
          have shorter : word ++ [g] <+: word ++ g :: gap ++ other := ⟨gap ++ other, by simp⟩
          rw [← parts] at shorter
          exact shorter.trans (List.take_prefix n _)
        have tokened : untraced token <+: untraced (token ++ after) := by
          rw [untraced_append]
          exact List.prefix_append _ _
        have within : word ++ [g] <+: untraced token := by
          apply List.prefix_of_prefix_length_le spaced tokened
          rw [List.length_append, List.length_singleton, untraced_length]
          omega
        have inside := within.subset (List.mem_append_right _ (List.mem_singleton_self g))
        have solid := b64_not_space credential.token inside
        rw [introduces.spaces g List.mem_cons_self] at solid
        cases solid
      apply mem_take_of_prefix token member (List.prefix_append token after)
      omega

theorem hidden_of_covered (distinct : input.Nodup) (carried : Copied input)
    (credential : BearerCredential input before scheme spaces token after) (tokens : ∀ c ∈ token, tokenChar c.1 = true)
    (starts : Starts input scheme ∨ Starts input token) {c : Traced Char} (member : c ∈ token) :
    c ∉ bearerTraced input := by
  have held : ∃ source, .matched source ∈ pieces (lift bearer) input ∧ c ∈ source := by
    rcases starts with atScheme | atToken
    · exact covered_by_scheme distinct credential tokens atScheme member
    · exact covered_by_token distinct credential atToken member
  rcases held with ⟨source, matched, within⟩
  have present : c ∈ input := by
    rw [credential.split]
    simp [member]
  exact not_copied_of_matched distinct matched within (carried c present)

theorem matched_bearer {source : List (Traced Char)} (matched : .matched source ∈ pieces (lift bearer) input) :
    ∃ front back word gap other, input = front ++ (word ++ (gap ++ other)) ++ back ∧ source = word ++ (gap ++ other) ∧
      Introduces (untraced word) (untraced gap) ∧ ∀ c ∈ other, tokenChar c.1 = true := by
  rcases matched_split matched with ⟨front, back, n, whole, found, taken⟩
  rcases bearer_ok found with ⟨word, rest, other, parts, introduces, tokens⟩
  rw [← untraced_take, ← taken, List.append_assoc] at parts
  rcases List.map_eq_append_iff.mp parts with ⟨wordTraced, tail, cut, spelled, later⟩
  rcases List.map_eq_append_iff.mp later with ⟨gap, otherTraced, cutTail, spaced, credential⟩
  have same : source = wordTraced ++ (gap ++ otherTraced) := by rw [cut, cutTail]
  refine ⟨front, back, wordTraced, gap, otherTraced, by rw [← same, whole], same, ?_, ?_⟩
  · have first : untraced wordTraced = word := spelled
    have second : untraced gap = rest := spaced
    rw [first, second]
    exact introduces
  · intro c member
    apply tokens
    rw [← credential]
    exact List.mem_map_of_mem member

theorem Introduces.letters {word gap : List (Traced Char)} (introduces : Introduces (untraced word) (untraced gap)) :
    ∀ c ∈ word, tokenChar c.1 = true := by
  intro c member
  apply schemeLetter_token
  rw [← introduces.scheme]
  exact List.mem_map_of_mem (List.mem_map_of_mem member)

theorem Introduces.gaps {word gap : List (Traced Char)} (introduces : Introduces (untraced word) (untraced gap)) :
    ∀ c ∈ gap, Text.isSpace c.1 = true := by
  intro c member
  exact introduces.spaces c.1 (List.mem_map_of_mem member)

/-- Where a match meets a credential: in token characters, and from its scheme or its own first
character on. -/
theorem covered_of_hidden (distinct : input.Nodup) (credential : BearerCredential input before scheme spaces token after)
    (hidden : ∀ c ∈ token, c ∉ bearerTraced input) :
    (∀ c ∈ token, tokenChar c.1 = true) ∧ (Starts input scheme ∨ Starts input token) := by
  have present : ∀ c ∈ token, c ∈ input := by
    intro c member
    rw [credential.split]
    simp [member]
  have solid : ∀ c ∈ token, Text.isSpace c.1 = false :=
    fun c member => b64_not_space credential.token (List.mem_map_of_mem member)
  constructor
  · intro c member
    rcases matched_of_not_copied (present c member) (hidden c member) with ⟨source, matched, within⟩
    rcases matched_bearer matched with ⟨-, -, word, gap, other, -, rfl, introduces, tokens⟩
    rcases List.mem_append.mp within with inWord | later
    · exact introduces.letters c inWord
    · rcases List.mem_append.mp later with inGap | inOther
      · have space := introduces.gaps c inGap
        rw [solid c member] at space
        cases space
      · exact tokens c inOther
  · cases token with
    | nil => exact absurd rfl credential.token.ne_nil
    | cons t tail =>
        have head : t ∈ t :: tail := List.mem_cons_self
        rcases matched_of_not_copied (present t head) (hidden t head) with ⟨source, matched, within⟩
        rcases matched_bearer matched with ⟨front, back, word, gap, other, whole, same, introduces, tokens⟩
        rw [same] at within matched
        -- the character before the credential is white space; the match has it only before its own credential
        have known : input = (before ++ scheme ++ spaces) ++ t :: (tail ++ after) := by
          rw [credential.split]
          simp
        have placed : ∀ left right, input = left ++ t :: right → left = before ++ scheme ++ spaces :=
          fun left right cut => (cut_unique distinct cut known).1
        have notToken : ∀ c : Traced Char, Text.isSpace c.1 = true → tokenChar c.1 = false := by
          intro c space
          by_contra token
          have solid := tokenChar_not_space (by simpa using token)
          rw [space] at solid
          cases solid
        have gapped : ∀ c ∈ spaces, tokenChar c.1 = false := fun c member => notToken c (credential.spaces c member)
        have apart : ∀ left run, (∀ c ∈ run, tokenChar c.1 = true) → run ≠ [] → left ++ run ≠ before ++ scheme ++ spaces := by
          intro left run tokens nonempty equal
          rcases shared_last nonempty credential.nonempty equal with ⟨d, inRun, inSpaces⟩
          have token := tokens d inRun
          rw [gapped d inSpaces] at token
          cases token
        rcases List.mem_append.mp within with inWord | later
        · rcases List.append_of_mem inWord with ⟨start, stop, cut⟩
          have letters : ∀ c ∈ start, tokenChar c.1 = true := by
            intro c member
            apply introduces.letters
            rw [cut]
            exact List.mem_append_left _ member
          have atHead : start = [] := by
            by_contra nonempty
            apply apart front start letters nonempty
            apply placed _ (stop ++ (gap ++ other) ++ back)
            rw [whole, cut]
            simp
          rw [cut, atHead] at matched
          exact .inr ⟨t, tail, _, rfl, matched⟩
        · rcases List.mem_append.mp later with inGap | inOther
          · have space := introduces.gaps t inGap
            rw [solid t head] at space
            cases space
          · rcases List.append_of_mem inOther with ⟨start, stop, cut⟩
            have prefixed : ∀ c ∈ start, tokenChar c.1 = true := by
              intro c member
              apply tokens
              rw [cut]
              exact List.mem_append_left _ member
            have atHead : start = [] := by
              by_contra nonempty
              apply apart (front ++ word ++ gap) start prefixed nonempty
              apply placed _ (stop ++ back)
              rw [whole, cut]
              simp
            have aligned : front ++ word ++ gap = before ++ scheme ++ spaces := by
              apply placed _ (stop ++ back)
              rw [whole, cut, atHead]
              simp
            have some_word : word ≠ [] := by
              intro empty
              have length := introduces.length
              rw [empty] at length
              cases length
            have some_scheme : scheme ≠ [] := by
              intro empty
              have length := credential.introduces.length
              rw [empty] at length
              cases length
            have letters : ∀ {word gap : List (Traced Char)}, Introduces (untraced word) (untraced gap) →
                ∀ c ∈ word, ¬tokenChar c.1 = false := by
              intro word gap introduces c member
              rw [introduces.letters c member]
              decide
            have ends := trailing_unique (fun c : Traced Char => tokenChar c.1 = false)
              (fun c member => notToken c (introduces.gaps c member)) gapped (letters introduces)
              (letters credential.introduces) aligned some_word some_scheme
            have sameLength : word.length = scheme.length := by
              have first := introduces.length
              have second := credential.introduces.length
              rw [untraced_length] at first second
              rw [first, second]
            have sameWord : word = scheme := (List.append_inj' ends.1 sameLength).2
            rw [sameWord] at matched
            cases scheme with
            | nil => exact absurd rfl some_scheme
            | cons s rest => exact .inl ⟨s, rest, _, rfl, matched⟩

end

/-! Texts that the later passes leave alone. -/

def Plain (value : String) : Prop := '-' ∉ value.toList ∧ value.length ≤ 1000

theorem pemKey_absent {input : List Char} (absent : '-' ∉ input) : pemKey input = none := by
  have unlabelled : Secrets.pemLabel "BEGIN" input = none := by
    unfold Secrets.pemLabel
    cases input with
    | nil => rfl
    | cons c rest =>
        have differs : ('-' == c) = false := by
          rw [beq_eq_false_iff_ne]
          intro same
          exact absent (same ▸ List.mem_cons_self)
        have opening : ("-----" ++ "BEGIN" ++ " ").toList = '-' :: "----BEGIN ".toList := by decide
        rw [opening]
        simp [List.isPrefixOf, differs]
  unfold pemKey
  rw [unlabelled]

theorem bearer_long {c : Char} {rest : List Char} {n : Nat} (found : bearer (c :: rest) = some (n + 1)) :
    6 ≤ n ∧ 6 ≤ rest.length := by
  rcases bearer_ok found with ⟨scheme, spaces, credential, parts, introduces, -⟩
  have lengths := congrArg List.length parts
  have folded := introduces.length
  have spaced : 0 < spaces.length := List.length_pos_iff.mpr introduces.nonempty
  rw [List.length_take, List.length_append, List.length_append, List.length_cons] at lengths
  omega

theorem bearer_growth (input : List Char) : (subst bearer bearerMarker input).length ≤ 3 * input.length := by
  induction input using scan_induction bearer with
  | nil => simp [subst_nil]
  | copied c rest passes ih =>
      rw [subst_copied _ passes, List.length_cons, List.length_cons]
      omega
  | matched c rest n found ih =>
      have long := bearer_long found
      have marker : bearerMarker.length = 17 := by decide
      rw [subst_matched _ found, List.length_append, List.length_cons, marker]
      rw [List.length_drop] at ih
      omega

theorem redacted_of_bearerTraced {value : String} (plain : Plain value) {c : Traced Char}
    (member : c ∈ bearerTraced (traced value.toList)) : c ∈ redactTextTraced value := by
  have noDash : '-' ∉ untraced (bearerTraced (traced value.toList)) := by
    intro dash
    rcases List.mem_map.mp dash with ⟨d, held, same⟩
    by_cases carried : d.2 = none
    · unfold bearerTraced substTraced at held
      rw [subst_eq_pieces] at held
      rcases List.mem_flatMap.mp held with ⟨piece, listed, output⟩
      cases piece with
      | copied e =>
          have inInput : d ∈ traced value.toList := by
            rw [← pieces_source (lift bearer) (traced value.toList)]
            exact List.mem_flatMap.mpr ⟨_, listed, output⟩
          exact copied_traced _ d inInput carried
      | matched source =>
          have inMarker : d.1 ∈ bearerMarker := by
            rcases List.mem_map.mp output with ⟨e, letter, rfl⟩
            exact letter
          rw [same] at inMarker
          exact absurd inMarker (by decide)
    · have inInput := mem_of_copied carried held
      have letter : d.1 ∈ untraced (traced value.toList) := List.mem_map_of_mem inInput
      rw [untraced_traced, same] at letter
      exact plain.1 letter
  have kept : substTraced pemKey keyMarker (bearerTraced (traced value.toList)) = bearerTraced (traced value.toList) := by
    apply subst_eq_self
    intro suffix within
    apply pemKey_absent
    intro dash
    have letters : untraced suffix <:+ untraced (bearerTraced (traced value.toList)) := within.map Prod.fst
    exact noDash (letters.subset dash)
  have short : (bearerTraced (traced value.toList)).length ≤ 4000 := by
    have growth := bearer_growth value.toList
    rw [← untraced_length, untraced_bearerTraced, untraced_traced]
    have bound := plain.2
    rw [← String.length_toList] at bound
    omega
  unfold redactTextTraced
  rw [kept, List.take_of_length_le short]
  exact member

theorem CredentialsCovered.hidden {value : String} (covered : CredentialsCovered value) : CredentialsHidden value := by
  intro before scheme spaces token after credential c member survives
  rcases covered before scheme spaces token after credential with ⟨tokens, starts⟩
  have present : c ∈ traced value.toList := by
    rw [credential.split]
    simp [member]
  have absent := hidden_of_covered (traced_nodup _) (copied_traced _) credential tokens starts member
  exact absent (bearerTraced_of_redacted (copied_traced _ c present) survives)

theorem CredentialsHidden.covered {value : String} (plain : Plain value) (hidden : CredentialsHidden value) :
    CredentialsCovered value := by
  intro before scheme spaces token after credential
  apply covered_of_hidden (traced_nodup _) credential
  intro c member survives
  exact hidden before scheme spaces token after credential c member (redacted_of_bearerTraced plain survives)

/-! Members at every depth. -/

mutual
/-- The texts of a value that no sensitive member holds. -/
def leafTexts : Value → List String
  | .dict entries => leafTextsEntries entries
  | .list items => leafTextsItems items
  | .str s => [s]
  | _ => []
def leafTextsEntries : Dict → List String
  | [] => []
  | (k, v) :: rest => (if sensitiveKey k then [] else leafTexts v) ++ leafTextsEntries rest
def leafTextsItems : List Value → List String
  | [] => []
  | v :: rest => leafTexts v ++ leafTextsItems rest
end

mutual
/-- The same structure with sensitive members masked, the characters of every text as they are traced to
those of the given one, with its credentials hidden, and every other leaf as it was. -/
inductive Redacted : Value → Value → Prop where
  | dict {given stored : Dict} (entries : RedactedEntries given stored) : Redacted (.dict given) (.dict stored)
  | list {given stored : List Value} (items : RedactedItems given stored) : Redacted (.list given) (.list stored)
  | text (value : String) (hidden : CredentialsHidden value) :
      Redacted (.str value) (.str (String.ofList (untraced (redactTextTraced value))))
  | none : Redacted .none .none
  | bool (b : Bool) : Redacted (.bool b) (.bool b)
  | int (n : Int) : Redacted (.int n) (.int n)
  | float (x : PyFloat) : Redacted (.float x) (.float x)
inductive RedactedEntries : Dict → Dict → Prop where
  | nil : RedactedEntries [] []
  | sensitive {given stored : Dict} (key : String) (value : Value) (sensitive : sensitiveKey key = true)
      (rest : RedactedEntries given stored) :
      RedactedEntries ((key, value) :: given) ((key, .str "[redacted]") :: stored)
  | member {given stored : Dict} (key : String) {value masked : Value} (other : sensitiveKey key = false)
      (inner : Redacted value masked) (rest : RedactedEntries given stored) :
      RedactedEntries ((key, value) :: given) ((key, masked) :: stored)
inductive RedactedItems : List Value → List Value → Prop where
  | nil : RedactedItems [] []
  | item {given stored : List Value} {value masked : Value} (inner : Redacted value masked)
      (rest : RedactedItems given stored) : RedactedItems (value :: given) (masked :: stored)
end

mutual
theorem redactRecursive_redacted (value : Value) (hidden : ∀ s ∈ leafTexts value, CredentialsHidden s) :
    Redacted value (redactRecursive value) := by
  cases value with
  | dict entries => exact .dict (redactEntries_redacted entries hidden)
  | list items => exact .list (redactItems_redacted items hidden)
  | str s =>
      rw [redactRecursive, ← untraced_redactTextTraced]
      exact .text s (hidden s (List.mem_singleton_self s))
  | none => exact .none
  | bool b => exact .bool b
  | int n => exact .int n
  | float x => exact .float x
theorem redactEntries_redacted (entries : Dict) (hidden : ∀ s ∈ leafTextsEntries entries, CredentialsHidden s) :
    RedactedEntries entries (redactEntries entries) := by
  cases entries with
  | nil => exact .nil
  | cons head rest =>
      rcases head with ⟨key, value⟩
      rw [leafTextsEntries] at hidden
      have later := redactEntries_redacted rest (fun s member => hidden s (List.mem_append_right _ member))
      rw [redactEntries]
      cases sensitive : sensitiveKey key with
      | true => exact .sensitive key value sensitive later
      | false =>
          rw [sensitive] at hidden
          have inner := redactRecursive_redacted value (fun s member => hidden s (List.mem_append_left _ member))
          exact .member key sensitive inner later
theorem redactItems_redacted (items : List Value) (hidden : ∀ s ∈ leafTextsItems items, CredentialsHidden s) :
    RedactedItems items (redactItems items) := by
  cases items with
  | nil => exact .nil
  | cons value rest =>
      rw [leafTextsItems] at hidden
      have inner := redactRecursive_redacted value (fun s member => hidden s (List.mem_append_left _ member))
      have later := redactItems_redacted rest (fun s member => hidden s (List.mem_append_right _ member))
      exact .item inner later
end

mutual
theorem Redacted.hidden {given stored : Value} (redacted : Redacted given stored) :
    ∀ s ∈ leafTexts given, CredentialsHidden s := by
  cases redacted with
  | dict entries => exact entries.hidden
  | list items => exact items.hidden
  | text value hidden =>
      intro s member
      rw [List.mem_singleton.mp member]
      exact hidden
  | none | bool | int | float => exact fun _ member => absurd member List.not_mem_nil
theorem RedactedEntries.hidden {given stored : Dict} (redacted : RedactedEntries given stored) :
    ∀ s ∈ leafTextsEntries given, CredentialsHidden s := by
  intro s member
  cases redacted with
  | nil => cases member
  | sensitive key value sensitive rest =>
      rw [leafTextsEntries, sensitive, if_pos rfl, List.nil_append] at member
      exact rest.hidden s member
  | member key other inner rest =>
      rw [leafTextsEntries, other, if_neg Bool.false_ne_true] at member
      rcases List.mem_append.mp member with held | later
      · exact inner.hidden s held
      · exact rest.hidden s later
theorem RedactedItems.hidden {given stored : List Value} (redacted : RedactedItems given stored) :
    ∀ s ∈ leafTextsItems given, CredentialsHidden s := by
  intro s member
  cases redacted with
  | nil => cases member
  | item inner rest =>
      rw [leafTextsItems] at member
      rcases List.mem_append.mp member with held | later
      · exact inner.hidden s held
      · exact rest.hidden s later
end

/-! Sensitive keys. -/

/-- A key that is a listed name, or holds one of the words, in any letter case. -/
def Sensitive (key : String) : Prop :=
  (∃ name ∈ sensitiveKeyNames, key.toList.map Char.toLower = name.toList) ∨
    ∃ word ∈ sensitiveKeyWords, word.toList <:+: key.toList.map Char.toLower

theorem occurs_of_suffix {α : Type} {matcher : Matcher α} {input : List α} (suffix : List α) (within : suffix <:+ input)
    (found : (matcher suffix).isSome) : occurs matcher input = true := by
  induction input with
  | nil =>
      rw [List.suffix_nil.mp within] at found
      exact found
  | cons c rest ih =>
      rw [occurs, Bool.or_eq_true]
      rcases List.suffix_cons_iff.mp within with same | later
      · rw [same] at found
        exact .inl found
      · exact .inr (ih later)

theorem foldCase_word {run word : List Char} (same : run.map Char.toLower = word) (ascii : ∀ d ∈ word, d.toNat < 128) :
    run.map Text.foldCase = word := by
  rw [← same]
  apply List.map_congr_left
  intro c member
  apply foldCase_lower
  apply ascii
  rw [← same]
  exact List.mem_map_of_mem member

theorem lower_name {name : String} {key : String} (same : key.toList.map Char.toLower = name.toList)
    (ascii : ∀ d ∈ name.toList, d.toNat < 128) : Text.lower key = name := by
  have letters : key.toList.map Text.lowerChar = name.toList := by
    rw [← same]
    apply List.map_congr_left
    intro c member
    unfold Text.lowerChar
    rw [if_neg]
    intro kelvin
    have high : c.toNat = 0x212A := by simpa using kelvin
    have lowered : c.toLower ∈ name.toList := by
      rw [← same]
      exact List.mem_map_of_mem member
    have low := ascii _ lowered
    rw [toLower_high (by omega)] at low
    omega
  unfold Text.lower
  rw [letters, String.ofList_toList]

theorem Sensitive.masked {key : String} (sensitive : Sensitive key) : sensitiveKey key = true := by
  have ascii : ∀ {words : List String} {word : String}, (words.all fun w => w.toList.all fun d => d.toNat < 128) = true →
      word ∈ words → ∀ d ∈ word.toList, d.toNat < 128 := by
    intro words word all listed d member
    simpa using List.all_eq_true.mp (List.all_eq_true.mp all word listed) d member
  unfold sensitiveKey
  rw [Bool.or_eq_true]
  rcases sensitive with ⟨name, listed, same⟩ | ⟨word, listed, before, after, same⟩
  · left
    rw [lower_name same (ascii (by decide) listed)]
    simpa using listed
  · right
    apply List.any_eq_true.mpr
    refine ⟨word, listed, ?_⟩
    rw [List.append_assoc] at same
    rcases List.map_eq_append_iff.mp same.symm with ⟨front, rest, split, -, later⟩
    rcases List.map_eq_append_iff.mp later with ⟨run, back, cut, spelled, -⟩
    apply occurs_of_suffix rest
    · rw [split]
      exact List.suffix_append front rest
    · have length : word.toList.length = run.length := by rw [← spelled, List.length_map]
      have taken : rest.take word.toList.length = run := by
        rw [length, cut, List.take_left]
      unfold foldWord
      rw [taken, if_pos (foldCase_word spelled (ascii (by decide) listed))]
      rfl

/-! Stored records. -/

theorem optionalText_value {value : Value} {label : String} {limit : Nat} {read : Option String}
    (accepted : optionalText value label limit = .ok read) : Value.ofOption read = value := by
  cases value with
  | none =>
      rw [← Except.ok.inj accepted]
      rfl
  | str s => rw [optionalText_str accepted, Value.ofOption]
  | bool | int | float | list | dict => cases accepted

theorem validateTransaction_redacts {fresh : Fresh} {payload : Dict} {record : TransactionRow}
    (valid : validateTransaction fresh (.dict payload) = .ok record) :
    record.beforeState = redactRecursive (Dict.get payload "before_state") ∧
      record.afterState = redactRecursive (Dict.get payload "after_state") ∧
      record.detail = redactRecursive (Dict.get payload "detail") := by
  simp only [validateTransaction, bind_eq_ok, pure_eq, Except.ok.injEq] at valid
  rcases valid with ⟨_, -, _, -, _, -, _, -, _, -, _, -, _, -, _, -, _, -, _, -, _, -, _, -, before, beforeState, after,
    afterState, detail, text, _, -, _, -, rfl⟩
  refine ⟨congrArg redactRecursive (auditState_ok beforeState), congrArg redactRecursive (auditState_ok afterState), ?_⟩
  exact congrArg redactRecursive (optionalText_value text)

section

variable {Token : Type} {written : Db Token}

/-- Every sensitive member of a stored record is masked at every depth and the rest of its
structure kept; its texts hide their credentials when these are covered, and among plain
texts only then. -/
theorem records_redacted (db : Db Token) (fresh : Fresh) (payload : Dict) (record : TransactionRow)
    (inserted : insertTransaction db fresh (.dict payload) = .ok (record, written)) :
    record ∈ written.transactions ∧ (∀ key, Sensitive key → sensitiveKey key = true) ∧
    ∀ given stored, (given, stored) ∈
        [(Dict.get payload "before_state", record.beforeState), (Dict.get payload "after_state", record.afterState),
          (Dict.get payload "detail", record.detail)] →
      ((∀ s ∈ leafTexts given, CredentialsCovered s) → Redacted given stored) ∧
      ((∀ s ∈ leafTexts given, Plain s) → Redacted given stored → ∀ s ∈ leafTexts given, CredentialsCovered s) := by
  rcases insertTransaction_ok.mp inserted with ⟨valid, -, -, rfl⟩
  refine ⟨List.mem_append_right _ (List.mem_singleton_self record), fun key sensitive => sensitive.masked, ?_⟩
  rcases validateTransaction_redacts valid with ⟨before, after, detail⟩
  intro given stored listed
  have masked : stored = redactRecursive given := by
    simp only [List.mem_cons, Prod.mk.injEq, List.not_mem_nil, or_false] at listed
    rcases listed with ⟨rfl, rfl⟩ | ⟨rfl, rfl⟩ | ⟨rfl, rfl⟩
    · exact before
    · exact after
    · exact detail
  rw [masked]
  constructor
  · intro covered
    exact redactRecursive_redacted given (fun s member => (covered s member).hidden)
  · intro plain redacted s member
    exact (redacted.hidden s member).covered (plain s member)

end

def quoting (detail : String) : Dict :=
  [("actor_subject", .str "alice"), ("actor_name", .str "Alice"), ("actor_roles", .list [.str "Operator"]),
   ("auth_mode", .str "demo"), ("action", .str "static_route.create"), ("resource_type", .str "static_route"),
   ("outcome", .str "failed"), ("detail", .str detail)]

theorem refused_covered : CredentialsCovered "login refused" := by
  intro before scheme spaces token after credential
  have letters : "login refused".toList.all (fun c => c.toLower != 'b') = true := by decide
  cases scheme with
  | nil => exact absurd credential.introduces.length (by decide)
  | cons c rest =>
      have lowered : c.1.toLower = 'b' := (List.cons.inj credential.scheme).1
      have held : c ∈ traced "login refused".toList := by
        rw [credential.split]
        simp
      have letter : c.1 ∈ untraced (traced "login refused".toList) := List.mem_map_of_mem held
      rw [untraced_traced] at letter
      exact absurd lowered (by simpa using List.all_eq_true.mp letters c.1 letter)

theorem refused_login_redacted :
    ∃ record written, insertTransaction (Db.empty : Db Platform.SealedToken) (Bench.fresh "row")
        (.dict (quoting "login refused")) = .ok (record, written) ∧ record ∈ written.transactions ∧
      Redacted (.str "login refused") record.detail := by
  refine ⟨_, _, rfl, ?_⟩
  have redacted := records_redacted (Db.empty : Db Platform.SealedToken) (Bench.fresh "row")
    (quoting "login refused") _ rfl
  refine ⟨redacted.1, ?_⟩
  have detail := redacted.2.2 (.str "login refused") _
    (List.mem_cons_of_mem _ (List.mem_cons_of_mem _ List.mem_cons_self))
  apply detail.1
  intro s member
  rw [List.mem_singleton.mp member]
  exact refused_covered

theorem bearer_tilde :
    BearerCredential (traced "Bearer ab~cd".toList) [] ((traced "Bearer ab~cd".toList).take 6)
      (((traced "Bearer ab~cd".toList).drop 6).take 1) ((traced "Bearer ab~cd".toList).drop 7) [] where
  split := by decide
  scheme := by decide
  nonempty := by decide
  spaces := by decide
  token := ⟨"ab~cd".toList, [], by decide, by decide, List.all_eq_true.mp (by decide), List.forall_mem_nil _⟩

/-- The rest of a credential after a `~` reaches the stored record. -/
theorem tilde_credential_stored :
    ∃ record written, insertTransaction (Db.empty : Db Platform.SealedToken) (Bench.fresh "row")
        (.dict (quoting "Bearer ab~cd")) = .ok (record, written) ∧
      record.detail = .str "Bearer [redacted]~cd" ∧ ¬Redacted (.str "Bearer ab~cd") record.detail := by
  refine ⟨_, _, rfl, by decide, ?_⟩
  intro redacted
  have hidden := redacted.hidden "Bearer ab~cd" (List.mem_singleton_self _)
  exact hidden _ _ _ _ _ bearer_tilde ('c', some 10) (by decide) (by decide)

end NetworkGateway.Store
