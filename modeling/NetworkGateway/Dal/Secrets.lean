import Mathlib.Data.List.Sort
import NetworkGateway.Dal.Platform
import NetworkGateway.Python.Text

/-! `app/dal/db/secrets.py`: the vault, public views and secret redaction. -/

namespace NetworkGateway.Secrets

open Library.Scan

def secretFields : List String := ["password", "private_key", "key_passphrase", "secret_key"]

section Vault

variable {Token : Type} (P : Platform Token) (self : GatewayStore)

def encrypt (iv : Nat) (value : Value) : Token := P.encrypt self.key iv value

def decrypt (token : Token) : Except PyError Value :=
  match P.decrypt self.key token with
  | some value => .ok value
  | none => .error (.secret "Stored credentials could not be decrypted.")

def validatePrivateKey (value passphrase : Value) : Except PyError Unit :=
  if P.validatePrivateKey value passphrase then .ok ()
  else .error (.secret "Invalid or unsupported SSH private key or passphrase.")

variable {P}

theorem decrypt_encrypt (laws : P.VaultLaws) (iv : Nat) (value : Value) :
    decrypt P self (encrypt P self iv value) = .ok value := by
  simp [decrypt, encrypt, laws.decrypt_encrypt]

theorem decrypt_authentic (laws : P.VaultLaws) {key : String} {iv : Nat} {value read : Value}
    (opened : decrypt P self (P.encrypt key iv value) = .ok read) : read = value := by
  unfold decrypt at opened
  cases found : P.decrypt self.key (P.encrypt key iv value) with
  | none => simp [found] at opened
  | some plain =>
      simp only [found, Except.ok.injEq] at opened
      rw [← opened]
      exact laws.authentic _ _ _ _ _ found

end Vault

mutual
def publicFields : Value → Value
  | .dict entries => .dict (publicEntries entries)
  | .list items => .list (publicItems items)
  | value => value
def publicEntries : Dict → Dict
  | [] => []
  | (k, v) :: rest =>
      if secretFields.contains k then publicEntries rest
      else (k, publicFields v) :: publicEntries rest
def publicItems : List Value → List Value
  | [] => []
  | v :: rest => publicFields v :: publicItems rest
end

def secretItem (key : String) (item : Value) : List String :=
  if secretFields.contains key then
    match item with
    | .str s => if s = "" then [] else [s]
    | _ => []
  else []

mutual
def collectValues : Value → List String
  | .dict entries => collectEntries entries
  | .list items => collectItems items
  | _ => []
def collectEntries : Dict → List String
  | [] => []
  | (k, v) :: rest => secretItem k v ++ collectValues v ++ collectEntries rest
def collectItems : List Value → List String
  | [] => []
  | v :: rest => collectValues v ++ collectItems rest
end

/-- `credential_values`, as the set's elements in order of first occurrence. -/
def credentialValues (value : Value) : List String := (collectValues value).dedup

/-- `-----{kind} [^-]*PRIVATE KEY-----`: the run before the next dash must end in
`PRIVATE KEY`. -/
def pemLabel (kind : String) : Matcher Char := fun input =>
  let opening := ("-----" ++ kind ++ " ").toList
  if opening.isPrefixOf input then
    let label := (input.drop opening.length).takeWhile (· != '-')
    let rest := (input.drop opening.length).dropWhile (· != '-')
    if "PRIVATE KEY".toList.isSuffixOf label && "-----".toList.isPrefixOf rest then
      some (opening.length + label.length + 5)
    else none
  else none

/-- `.*?(?:-----END [^-]*PRIVATE KEY-----|$)` under `re.DOTALL`. -/
def pemBody : List Char → Nat
  | [] => 0
  | c :: rest =>
      match pemLabel "END" (c :: rest) with
      | some n => n
      | none => if (c :: rest) = ['\n'] then 0 else 1 + pemBody rest

def pemBlock : Matcher Char := fun input =>
  (pemLabel "BEGIN" input).map (fun n => n + pemBody (input.drop n))

/-- `sorted(secrets, key=len, reverse=True)`. -/
def longestFirst (secrets : List String) : List String :=
  secrets.insertionSort (fun a b => b.length ≤ a.length)

def replaceAll (secrets : List String) (text : String) : String :=
  secrets.foldl (fun text secret => Text.replace text secret "[redacted]") text

def redactText (text : String) (secrets : List String) : String :=
  let text := replaceAll (longestFirst secrets) text
  Text.truncate (String.ofList (subst pemBlock "[redacted]".toList text.toList)) 2000

def redact {Token : Type} (P : Platform Token) (value : Value) (secrets : List String) : String :=
  redactText (P.str value) secrets

theorem lookup_publicEntries (entries : Dict) (key : String) :
    (publicEntries entries).lookup key =
      if key ∈ secretFields then none else (entries.lookup key).map publicFields := by
  induction entries with
  | nil => simp [publicEntries]
  | cons head tail ih =>
      rcases head with ⟨held, value⟩
      rw [publicEntries, Library.Dict.lookup_cons_key]
      by_cases hidden : held ∈ secretFields
      · rw [if_pos (by simpa using hidden), ih]
        by_cases same : key = held
        · subst same; simp [hidden]
        · simp [same]
      · rw [if_neg (by simpa using hidden), Library.Dict.lookup_cons_key, ih]
        by_cases same : key = held
        · subst same; simp [hidden]
        · simp [same]

end NetworkGateway.Secrets
