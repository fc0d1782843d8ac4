import NetworkGateway.Bl.Management
import NetworkGateway.Dal.Bench
import NetworkGateway.Library.Provenance

/-! Secret masking: `redact` and `safe_test` on characters that carry their position. -/

namespace NetworkGateway.Secrets

open Library.Scan

/-! The passes of `redact` with the position of every character. -/

abbrev marker : List Char := "[redacted]".toList

theorem marker_ne_nil : marker ≠ [] := by decide

theorem untraced_replaceTraced (secret start : String) (input : List (Traced Char)) (same : untraced input = start.toList) :
    untraced (substTraced (word secret.toList) marker input) = (Text.replace start secret "[redacted]").toList := by
  rw [untraced_substTraced, same]
  exact String.toList_ofList.symm

def replaceAllTraced (secrets : List String) (input : List (Traced Char)) : List (Traced Char) :=
  secrets.foldl (fun held secret => substTraced (word secret.toList) marker held) input

def redactTraced (secrets : List String) (input : String) : List (Traced Char) :=
  (substTraced pemBlock marker (replaceAllTraced (longestFirst secrets) (traced input.toList))).take 2000

/-- Every occurrence of the secret holds a character that was not copied from the input. -/
def Masked (secret : String) (output : List (Traced Char)) : Prop :=
  ∀ run, run <:+: output → untraced run = secret.toList → ∃ c ∈ run, c.2 = none

theorem untraced_replaceAllTraced (secrets : List String) (input : List (Traced Char)) (start : String)
    (same : untraced input = start.toList) :
    untraced (replaceAllTraced secrets input) = (replaceAll secrets start).toList := by
  unfold replaceAllTraced replaceAll
  induction secrets generalizing input start with
  | nil => exact same
  | cons secret rest ih =>
      rw [List.foldl_cons, List.foldl_cons]
      exact ih _ _ (untraced_replaceTraced secret start input same)

theorem untraced_redactTraced (secrets : List String) (input : String) :
    String.ofList (untraced (redactTraced secrets input)) = redactText input secrets := by
  have replaced := untraced_replaceAllTraced (longestFirst secrets) (traced input.toList) input (untraced_traced _)
  unfold redactTraced redactText Text.truncate
  rw [untraced_take, untraced_substTraced, replaced]
  exact congrArg (fun whole => String.ofList (whole.take 2000)) String.toList_ofList.symm

/-! A secret once replaced stays masked: later passes copy no run that was not there. -/

theorem copied_of_not_inserted {run : List (Traced Char)} (absent : ¬∃ c ∈ run, c.2 = none) : Copied run := by
  intro c member unread
  exact absent ⟨c, member, unread⟩

theorem masked_word {secret : String} (nonempty : secret ≠ "") (input : List (Traced Char)) :
    Masked secret (substTraced (word secret.toList) marker input) := by
  intro run within same
  by_contra absent
  have spelled : secret.toList ≠ [] := by
    intro empty
    exact nonempty (String.toList_inj.mp empty)
  exact word_masked marker_ne_nil spelled (copied_of_not_inserted absent) within same

theorem Masked.subst {secret : String} {input : List (Traced Char)} (masked : Masked secret input)
    (matcher : Matcher Char) : Masked secret (substTraced matcher marker input) := by
  intro run within same
  by_contra absent
  have earlier := infix_of_copied marker_ne_nil (copied_of_not_inserted absent) within
  exact absent (masked run earlier same)

theorem Masked.take {secret : String} {input : List (Traced Char)} (masked : Masked secret input) (limit : Nat) :
    Masked secret (input.take limit) := by
  intro run within same
  have whole := within.trans (List.take_prefix limit input).isInfix
  exact masked run whole same

theorem Masked.replaceAll {secret : String} (secrets : List String) {input : List (Traced Char)}
    (masked : Masked secret input) : Masked secret (replaceAllTraced secrets input) := by
  unfold replaceAllTraced
  induction secrets generalizing input with
  | nil => exact masked
  | cons first rest ih => exact ih (masked.subst (word first.toList))

theorem replaceAll_masks {secret : String} (nonempty : secret ≠ "") {secrets : List String}
    (member : secret ∈ secrets) (input : List (Traced Char)) :
    Masked secret (replaceAllTraced secrets input) := by
  induction secrets generalizing input with
  | nil => cases member
  | cons first rest ih =>
      rcases List.mem_cons.mp member with rfl | later
      · exact (masked_word nonempty input).replaceAll rest
      · exact ih later _

theorem longestFirst_masks {secret : String} (nonempty : secret ≠ "") {secrets : List String}
    (member : secret ∈ secrets) (input : List (Traced Char)) :
    Masked secret (replaceAllTraced (longestFirst secrets) input) :=
  replaceAll_masks nonempty ((List.mem_insertionSort _).mpr member) input

theorem redact_masks {secret : String} (nonempty : secret ≠ "") {secrets : List String} (member : secret ∈ secrets)
    (input : String) : Masked secret (redactTraced secrets input) := by
  have replaced := longestFirst_masks nonempty member (traced input.toList)
  exact (replaced.subst pemBlock).take 2000

theorem masked_inserted {secret : String} (nonempty : secret ≠ "") (fixed : String) :
    Masked secret (inserted fixed.toList) := by
  intro run within same
  cases run with
  | nil => exact absurd (String.toList_inj.mp same.symm) nonempty
  | cons c run =>
      have member := within.subset List.mem_cons_self
      rcases List.mem_map.mp member with ⟨_, -, rfl⟩
      exact ⟨_, List.mem_cons_self, rfl⟩

end NetworkGateway.Secrets

namespace NetworkGateway.Management

open Library.Scan Secrets

/-! The secrets of a profile. -/

/-- The profile holds the text as a password, private key or passphrase at some depth. -/
inductive HoldsSecret (secret : String) : Value → Prop where
  | field {entries : Dict} {key : String} (member : (key, .str secret) ∈ entries) (listed : key ∈ testSecretFields) :
      HoldsSecret secret (.dict entries)
  | entry {entries : Dict} {key : String} {value : Value} (member : (key, value) ∈ entries)
      (inner : HoldsSecret secret value) : HoldsSecret secret (.dict entries)
  | item {items : List Value} {value : Value} (member : value ∈ items) (inner : HoldsSecret secret value) :
      HoldsSecret secret (.list items)

theorem secretsOfEntries_mem {entries : Dict} {key : String} {value : Value} {secret : String}
    (member : (key, value) ∈ entries) (found : secret ∈ testSecret key value ∨ secret ∈ secretsOf value) :
    secret ∈ secretsOfEntries entries := by
  induction entries with
  | nil => cases member
  | cons head rest ih =>
      rcases head with ⟨held, inner⟩
      rw [secretsOfEntries, List.mem_append, List.mem_append]
      rcases List.mem_cons.mp member with same | later
      · cases same
        exact .inl found
      · exact .inr (ih later)

theorem secretsOfItems_mem {items : List Value} {value : Value} {secret : String} (member : value ∈ items)
    (found : secret ∈ secretsOf value) : secret ∈ secretsOfItems items := by
  induction items with
  | nil => cases member
  | cons head rest ih =>
      rw [secretsOfItems, List.mem_append]
      rcases List.mem_cons.mp member with rfl | later
      · exact .inl found
      · exact .inr (ih later)

theorem HoldsSecret.collected {secret : String} (nonempty : secret ≠ "") {profile : Value}
    (holds : HoldsSecret secret profile) : secret ∈ secretsOf profile := by
  induction holds with
  | field member listed =>
      rw [secretsOf]
      apply secretsOfEntries_mem member
      left
      unfold testSecret
      rw [if_pos (by simpa using listed)]
      simp [nonempty]
  | entry member _ ih =>
      rw [secretsOf]
      exact secretsOfEntries_mem member (.inr ih)
  | item member _ ih =>
      rw [secretsOf]
      exact secretsOfItems_mem member ih

/-! `safe_test` with the position of every character of the tester's texts. -/

section

variable {Token : Type} (N : Libraries Token)

def stageTraced (secrets : List String) (result : Dict) : List (Traced Char) :=
  (replaceAllTraced (longestFirst secrets)
    (traced (N.str (Dict.getOr result "stage" (.str "connection"))).toList)).take 80

def detailTraced (secrets : List String) (result : Dict) : List (Traced Char) :=
  (substTraced pemBlock marker (replaceAllTraced (longestFirst secrets)
    (traced (N.str (Dict.getOr result "detail" (.str ""))).toList))).take 4096

/-- `stage` and `detail` as `safe_test` returns them. The texts of a failed test are its own. -/
def safeTestTraced (profile : Value) (tester : Value → Bool → Option Value) (demoMode : Bool) (elapsed : Elapsed) :
    List (Traced Char) × List (Traced Char) :=
  let secrets := secretsOf profile
  let failed := (inserted "internal".toList, inserted "Connection test failed.".toList)
  match tester profile demoMode with
  | some (.dict result) =>
      match testDuration N result elapsed with
      | some _ => (stageTraced N secrets result, detailTraced N secrets result)
      | none => failed
  | _ => failed

theorem untraced_stageTraced (secrets : List String) (result : Dict) :
    String.ofList (untraced (stageTraced N secrets result)) = Text.truncate (testStage N secrets result) 80 := by
  unfold stageTraced testStage Text.truncate
  rw [untraced_take, untraced_replaceAllTraced _ _ _ (untraced_traced _)]

theorem untraced_detailTraced (secrets : List String) (result : Dict) :
    String.ofList (untraced (detailTraced N secrets result)) = Text.truncate (testDetail N secrets result) 4096 := by
  unfold detailTraced testDetail Text.truncate
  rw [untraced_take, untraced_substTraced, untraced_replaceAllTraced _ _ _ (untraced_traced _)]
  exact congrArg (fun whole => String.ofList (whole.take 4096)) String.toList_ofList.symm

theorem untraced_safeTestTraced (profile : Value) (tester : Value → Bool → Option Value) (demoMode simulated : Bool)
    (elapsed : Elapsed) :
    let output := safeTestTraced N profile tester demoMode elapsed
    let returned := safeTest N profile tester demoMode simulated elapsed
    Dict.get returned "stage" = .str (String.ofList (untraced output.1)) ∧
      Dict.get returned "detail" = .str (String.ofList (untraced output.2)) := by
  intro output returned
  have failed : Dict.get (failedTest simulated elapsed) "stage" =
        .str (String.ofList (untraced (inserted "internal".toList))) ∧
      Dict.get (failedTest simulated elapsed) "detail" =
        .str (String.ofList (untraced (inserted "Connection test failed.".toList))) := by
    rw [untraced_inserted, untraced_inserted, String.ofList_toList, String.ofList_toList]
    exact ⟨rfl, rfl⟩
  unfold output returned safeTestTraced safeTest
  cases tester profile demoMode with
  | none => exact failed
  | some answer =>
      cases answer with
      | dict result =>
          dsimp only
          cases testDuration N result elapsed with
          | none => exact failed
          | some duration =>
              dsimp only
              rw [untraced_stageTraced, untraced_detailTraced]
              exact ⟨rfl, rfl⟩
      | none | bool | int | float | str | list => exact failed

theorem safeTest_masks {secret : String} (nonempty : secret ≠ "") {profile : Value} (member : secret ∈ secretsOf profile)
    (tester : Value → Bool → Option Value) (demoMode : Bool) (elapsed : Elapsed) :
    Masked secret (safeTestTraced N profile tester demoMode elapsed).1 ∧
      Masked secret (safeTestTraced N profile tester demoMode elapsed).2 := by
  have failed : Masked secret (inserted "internal".toList) ∧
      Masked secret (inserted "Connection test failed.".toList) :=
    ⟨masked_inserted nonempty _, masked_inserted nonempty _⟩
  unfold safeTestTraced
  cases tester profile demoMode with
  | none => exact failed
  | some answer =>
      cases answer with
      | dict result =>
          dsimp only
          cases testDuration N result elapsed with
          | none => exact failed
          | some duration =>
              have stage := longestFirst_masks nonempty member
                (traced (N.str (Dict.getOr result "stage" (.str "connection"))).toList)
              have detail := longestFirst_masks nonempty member
                (traced (N.str (Dict.getOr result "detail" (.str ""))).toList)
              exact ⟨stage.take 80, (detail.subst pemBlock).take 4096⟩
      | none | bool | int | float | str | list => exact failed

/-- No secret leaves `redact` or `safe_test` made of copied characters only. -/
theorem secrets_masked :
    (∀ (value : Value) (secrets : List String), (∀ secret ∈ secrets, secret ≠ "") →
      String.ofList (untraced (redactTraced secrets (N.str value))) = redact N.toPlatform value secrets ∧
        ∀ secret ∈ secrets, Masked secret (redactTraced secrets (N.str value))) ∧
    ∀ (profile : Value) (tester : Value → Bool → Option Value) (demoMode simulated : Bool) (elapsed : Elapsed),
      let output := safeTestTraced N profile tester demoMode elapsed
      let returned := safeTest N profile tester demoMode simulated elapsed
      (Dict.get returned "stage" = .str (String.ofList (untraced output.1)) ∧
        Dict.get returned "detail" = .str (String.ofList (untraced output.2))) ∧
      ∀ secret, secret ≠ "" → HoldsSecret secret profile → Masked secret output.1 ∧ Masked secret output.2 := by
  constructor
  · intro value secrets nonempty
    refine ⟨untraced_redactTraced secrets (N.str value), ?_⟩
    intro secret member
    exact redact_masks (nonempty secret member) member _
  · intro profile tester demoMode simulated elapsed output returned
    refine ⟨untraced_safeTestTraced N profile tester demoMode simulated elapsed, ?_⟩
    intro secret nonempty holds
    exact safeTest_masks N nonempty (holds.collected nonempty) tester demoMode elapsed

end

/-- Two overlapping secrets, one of them in the profile of a test that echoes it. -/
theorem secrets_masked_bench :
    Masked "hunter2" (redactTraced ["hunter2", "2hunter"] "hunter2hunter") ∧
      Masked "hunter2" (safeTestTraced Bench.libraries (.dict [("connector", .dict [("password", .str "hunter2")])])
        (fun _ _ => some (.dict [("detail", .str "login hunter2 refused")])) false ⟨1, 1, 1⟩).2 := by
  have masked := secrets_masked Bench.libraries
  constructor
  · exact (masked.1 (.str "hunter2hunter") ["hunter2", "2hunter"] (by decide)).2 "hunter2" List.mem_cons_self
  · have connector : HoldsSecret "hunter2" (.dict [("password", .str "hunter2")]) :=
      .field List.mem_cons_self List.mem_cons_self
    exact ((masked.2 _ _ _ false _).2 "hunter2" (by decide) (.entry List.mem_cons_self connector)).2

end NetworkGateway.Management
