import NetworkGateway.Dal.Connectors
import NetworkGateway.Python.Uuid

/-! `app/bl/services/management.py`: what every service puts between the API and the store. -/

namespace NetworkGateway.Management

open Library.Result

structure ManagementError where
  message : String
  statusCode : Nat
  deriving DecidableEq, Repr

def errorMessages : List (Nat × String) :=
  [(400, "Invalid management operation."), (401, "Device authentication failed."),
   (403, "Device access was rejected."), (404, "The requested resource was not found."),
   (409, "The resource is referenced or conflicts with the current operation."),
   (422, "Invalid resource configuration."), (501, "The requested device operation is unsupported."),
   (503, "Management storage is unavailable.")]

/-- `getattr(exc, "status_code", 500)`. -/
def statusCode : PyError → Nat
  | .store _ code => code
  | _ => 500

/-- The error `store_call` raises in place of an exception. -/
def managementError (error : PyError) : ManagementError :=
  match errorMessages.lookup (statusCode error) with
  | some message => ⟨message, statusCode error⟩
  | none => ⟨"The management operation failed.", 500⟩

def storeCall {α : Type} : Except PyError α → Except ManagementError α
  | .ok result => .ok result
  | .error error => .error (managementError error)

@[simp] theorem storeCall_ok {α : Type} (outcome : Except PyError α) (result : α) :
    storeCall outcome = .ok result ↔ outcome = .ok result := by
  cases outcome <;> simp [storeCall]

/-- `resolve_correlation_id`, with the number `uuid4` draws. -/
def resolveCorrelationId (header : Option String) (uuid4 : Nat) : String :=
  match Uuid.parse (header.getD "") with
  | some supplied => supplied
  | none => Uuid.print uuid4

theorem resolveCorrelationId_parse (header : Option String) (uuid4 : Nat) :
    Uuid.parse (resolveCorrelationId header uuid4) = some (resolveCorrelationId header uuid4) := by
  unfold resolveCorrelationId
  split
  · rename_i supplied read
    exact Uuid.parse_canonical read
  · exact Uuid.parse_print uuid4

def entriesOf : Value → Dict
  | .dict entries => entries
  | _ => []

def checkTestProvider (provider : String) (profile : Dict) : Except ManagementError Unit := do
  let clientType := Dict.getOr profile "client_type" (.str "network")
  raiseWhen (!clientType.isOneOf ["network", "fake"]) ⟨"Invalid device client type.", 422⟩
  raiseWhen (clientType == .str "fake" && provider != "fake") ⟨"Simulated device access is disabled.", 503⟩

/-! Connection tests. -/

def testSecretFields : List String := ["password", "private_key", "key_passphrase"]

def testSecret (key : String) (item : Value) : List String :=
  if testSecretFields.contains key then
    match item with
    | .str s => if s = "" then [] else [s]
    | _ => []
  else []

mutual
/-- `_secrets`. -/
def secretsOf : Value → List String
  | .dict entries => secretsOfEntries entries
  | .list items => secretsOfItems items
  | _ => []
def secretsOfEntries : Dict → List String
  | [] => []
  | (k, v) :: rest => testSecret k v ++ secretsOf v ++ secretsOfEntries rest
def secretsOfItems : List Value → List String
  | [] => []
  | v :: rest => secretsOf v ++ secretsOfItems rest
end

/-- Milliseconds since the start of a test, each time `safe_test` may read them. -/
structure Elapsed where
  /-- The default of `result.get("duration_ms", ...)`. -/
  reported : Rat
  /-- In place of a duration that is not finite or negative. -/
  corrected : Rat
  /-- In the `except` branch. -/
  failed : Rat

section

variable {Token : Type} (N : Libraries Token)

/-- `float(value)`; `none` when it raises. -/
def float : Value → Option PyFloat
  | .bool b => some (.finite (if b then 1 else 0))
  | value => (Connectors.toFloat N value).toOption

def testDuration (result : Dict) (elapsed : Elapsed) : Option Rat :=
  (float N (Dict.getOr result "duration_ms" (.float (.finite elapsed.reported)))).map fun
    | .finite q => if q < 0 then elapsed.corrected else q
    | .infinite _ | .nan => elapsed.corrected

/-- `stage` before it is cut to length. -/
def testStage (secrets : List String) (result : Dict) : String :=
  Secrets.replaceAll (Secrets.longestFirst secrets)
    (N.str (Dict.getOr result "stage" (.str "connection")))

/-- `detail` before it is cut to length. -/
def testDetail (secrets : List String) (result : Dict) : String :=
  let detail := Secrets.replaceAll (Secrets.longestFirst secrets)
    (N.str (Dict.getOr result "detail" (.str "")))
  String.ofList (Library.Scan.subst Secrets.pemBlock "[redacted]".toList detail.toList)

/-- What `safe_test` returns for a test that raised. -/
def failedTest (simulated : Bool) (elapsed : Elapsed) : Dict :=
  [("success", .bool false), ("simulated", .bool simulated), ("stage", .str "internal"),
   ("detail", .str "Connection test failed."), ("duration_ms", .float (.finite elapsed.failed))]

/-- `safe_test`; a `tester` that raises returns `none`. -/
def safeTest (profile : Value) (tester : Value → Bool → Option Value) (demoMode simulated : Bool)
    (elapsed : Elapsed) : Dict :=
  let secrets := secretsOf profile
  match tester profile demoMode with
  | some (.dict result) =>
      match testDuration N result elapsed with
      | some duration =>
          [("success", .bool (Dict.get result "success" == .bool true)), ("simulated", .bool simulated),
           ("stage", .str (Text.truncate (testStage N secrets result) 80)),
           ("detail", .str (Text.truncate (testDetail N secrets result) 4096)),
           ("duration_ms", .float (.finite duration))]
      | none => failedTest simulated elapsed
  | _ => failedTest simulated elapsed

end

/-- The messages of store errors are short texts without NUL. -/
theorem managementError_message (error : PyError) :
    (managementError error).message.length ≤ 4000 ∧
      (managementError error).message.toList.contains (Char.ofNat 0) = false := by
  have listed : ∀ entry ∈ errorMessages,
      entry.2.length ≤ 4000 ∧ entry.2.toList.contains (Char.ofNat 0) = false := by decide
  unfold managementError
  cases found : errorMessages.lookup (statusCode error) with
  | none =>
      have plain : "The management operation failed.".length ≤ 4000 ∧
          "The management operation failed.".toList.contains (Char.ofNat 0) = false := by decide
      exact plain
  | some message =>
      rcases List.lookup_eq_some_iff.mp found with ⟨before, after, split, -⟩
      have member : (statusCode error, message) ∈ errorMessages := by
        rw [split]
        simp
      exact listed _ member

end NetworkGateway.Management
