import NetworkGateway.Bl.BatchWorker
import NetworkGateway.Proofs.Access
import NetworkGateway.Proofs.Jobs

/-! One device of a job: what the snapshot holds of it, when its test returns, and what is recorded then. -/

namespace NetworkGateway.Batches

open Library.Dict Library.Result Library.Run Library.Table Management Store

section

variable {Token : Type} {S : Service Token}

/-! Profiles of a snapshot. -/

structure Complete (profile : Dict) : Prop where
  columns : ∀ key ∈ ["name", "protocol", "host", "port"], (profile.lookup key).isSome
  client : (profile.lookup "client_type").isSome
  connector : ∃ connector kind, profile.lookup "connector" = some (.dict connector) ∧ connector.lookup "type" = some kind

theorem resolved_keeps {P : Platform Token} {self : GatewayStore} {db : Db Token}
    {stored credentialed accessed : Dict}
    (credentials : withRole P self db (setDefault stored "client_type" (.str "network")) = .ok credentialed)
    (access : withProxy P self db credentialed = .ok accessed) {key : String} (bound : (stored.lookup key).isSome) :
    ((setDefault accessed "connector" (.dict [("type", .str "direct")])).lookup key).isSome := by
  have started : ((setDefault stored "client_type" (.str "network")).lookup key).isSome := by
    rw [lookup_setDefault]
    cases found : stored.lookup key with
    | none =>
        rw [found] at bound
        cases bound
    | some value => rfl
  have kept := withProxy_keeps access (withRole_keeps credentials started)
  rw [lookup_setDefault]
  cases found : accessed.lookup key with
  | none =>
      rw [found] at kept
      cases kept
  | some value => rfl

theorem resolved_complete {P : Platform Token} (laws : P.VaultLaws) {self : GatewayStore} {db : Db Token}
    (sound : InventorySound P db) {itemId : String} {profile : Dict}
    (resolved : resolveConnection P self db itemId = .ok profile) : Complete profile := by
  have named := resolveConnection_clientType resolved
  rcases resolveConnection_ok.mp resolved with ⟨connection, stored, credentialed, accessed, found, decoded, credentials,
    access, same⟩
  have member := (find_mem found).1
  have shape := sound.connections connection member
  refine ⟨?_, named, ?_⟩
  · intro key listed
    rw [same]
    apply resolved_keeps credentials access
    simp only [List.mem_cons, List.not_mem_nil, or_false] at listed
    rcases listed with rfl | rfl | rfl | rfl
    · rw [shape.column laws decoded "name" (by decide)]
      rfl
    · rw [shape.column laws decoded "protocol" (by decide)]
      rfl
    · rw [shape.column laws decoded "host" (by decide)]
      rfl
    · rw [shape.column laws decoded "port" (by decide)]
      rfl
  · have column := shape.column laws decoded "proxy_id" (by decide)
    have reference : Dict.get credentialed "proxy_id" = Value.ofOption connection.proxyId := by
      rw [Dict.get_eq, withRole_lookup laws sound credentials (by decide), lookup_setDefault, column]
      rfl
    rcases withProxy_ok.mp access with ⟨falsy, bare⟩ | ⟨proxy, connector, truthy, located, resolvedProxy, set⟩
    · have unset : connection.proxyId = none := by
        cases chosen : connection.proxyId with
        | none => rfl
        | some id =>
            rw [reference, chosen] at falsy
            have empty : id = "" := by simpa [Value.ofOption] using falsy
            exact absurd empty (shape.proxy id chosen).1
      rcases shape.inline unset with ⟨inline, configured, kinds⟩
      rcases shape.inlined laws configured decoded with ⟨connector, held, type⟩
      have typed : ∃ kind, connector.lookup "type" = some kind := by
        rcases kinds with direct | ⟨kind, given⟩
        · exact ⟨_, type.trans direct⟩
        · exact ⟨_, type.trans given⟩
      rcases typed with ⟨kind, typed⟩
      refine ⟨connector, kind, ?_, typed⟩
      rw [same, lookup_setDefault, bare, withRole_lookup laws sound credentials (by decide), lookup_setDefault, held]
      rfl
    · have proxyMember : proxy ∈ db.proxies := by
        cases named : Dict.get credentialed "proxy_id" with
        | str id =>
            rw [named] at located
            simp only [findProxy, row_ok] at located
            exact (find_mem located).1
        | none | bool | int | float | list | dict =>
            rw [named] at located
            cases located
      have column := resolveProxy_column laws sound proxyMember resolvedProxy "type" (by decide) (by decide)
      refine ⟨connector, .str proxy.type.text, ?_, column⟩
      rw [same, lookup_setDefault, set, lookup_set, if_pos rfl]
      rfl

/-- `{"client_type": "network", **item["profile"]}`. -/
def listed (profile : Dict) : Dict := merge [("client_type", .str "network")] profile

theorem Complete.lookup_listed {profile : Dict} (complete : Complete profile) (key : String) :
    (listed profile).lookup key = profile.lookup key := by
  unfold listed
  rw [lookup_merge, lookup_cons_key]
  by_cases same : key = "client_type"
  · rcases Option.isSome_iff_exists.mp complete.client with ⟨value, found⟩
    rw [same, found]
    rfl
  · rw [if_neg same, List.lookup_nil, Option.or_none]

/-! Tests. -/

def Permitted (S : Service Token) (profile : Dict) : Prop := checkTestProvider S.provider profile = .ok ()

instance (profile : Dict) : Decidable (Permitted S profile) := by
  unfold Permitted
  exact inferInstance

theorem Complete.permitted_listed {profile : Dict} (complete : Complete profile) :
    Permitted S (listed profile) ↔ Permitted S profile := by
  unfold Permitted checkTestProvider Dict.getOr
  rw [complete.lookup_listed]

/-- What `safe_test` returns. -/
def testResult (success simulated : Bool) (stage detail : String) (duration : Rat) : Dict :=
  [("success", .bool success), ("simulated", .bool simulated), ("stage", .str stage), ("detail", .str detail),
   ("duration_ms", .float (.finite duration))]

theorem safeTest_shape {N : Libraries Token} (profile : Value) (tester : Value → Bool → Option Value)
    (demoMode simulated : Bool) (answer : Answer) :
    ∃ success stage detail duration, 0 ≤ duration ∧
      safeTest N profile tester demoMode simulated answer.elapsed = testResult success simulated stage detail duration := by
  have failed : ∃ success stage detail duration, 0 ≤ duration ∧
      failedTest simulated answer.elapsed = testResult success simulated stage detail duration :=
    ⟨_, _, _, _, answer.failed, rfl⟩
  unfold safeTest
  dsimp only
  split
  · rename_i result returned
    cases read : testDuration N result answer.elapsed with
    | none => exact failed
    | some duration =>
        refine ⟨_, _, _, duration, ?_, rfl⟩
        unfold testDuration at read
        rcases Option.map_eq_some_iff.mp read with ⟨number, _, chosen⟩
        cases number with
        | finite q =>
            dsimp only at chosen
            by_cases negative : q < 0
            · rw [if_pos negative] at chosen
              rw [← chosen]
              exact answer.corrected
            · rw [if_neg negative] at chosen
              rw [← chosen]
              exact Rat.not_lt.mp negative
        | infinite | nan =>
            rw [← chosen]
            exact answer.corrected
  · exact failed

theorem testProfile_shape {profile outcome : Dict} {answer : Answer} (returned : testProfile S profile answer = .ok outcome) :
    Permitted S profile ∧ ∃ success stage detail duration, 0 ≤ duration ∧
      outcome = testResult success (Dict.getOr profile "client_type" (.str "network") == .str "fake") stage detail duration := by
  unfold testProfile at returned
  rw [bind_eq_ok] at returned
  rcases returned with ⟨_, permitted, returned⟩
  refine ⟨permitted, ?_⟩
  split at returned
  · rename_i fake
    rw [fake, ← Except.ok.inj returned]
    exact safeTest_shape _ _ _ _ answer
  · rename_i network
    rw [Bool.not_eq_true] at network
    rw [network, ← Except.ok.inj returned]
    exact safeTest_shape _ _ _ _ answer

theorem testProfile_returns {profile : Dict} (permitted : Permitted S profile) (answer : Answer) :
    ∃ outcome, testProfile S profile answer = .ok outcome := by
  unfold testProfile
  rw [permitted, ok_bind]
  split
  · exact ⟨_, rfl⟩
  · exact ⟨_, rfl⟩

theorem tested_ok {id : String} {profile result : Dict} {answer : Answer} :
    tested S id profile answer = some result ↔
      ∃ outcome, testProfile S profile answer = .ok outcome ∧ labelled id profile outcome = .ok result := by
  unfold tested
  cases testProfile S profile answer with
  | error raised => simp
  | ok outcome =>
      simp only [Except.ok.injEq, exists_eq_left']
      cases labelled id profile outcome with
      | error raised => simp [Except.toOption]
      | ok held => simp [Except.toOption]

def labels (id : String) (name protocol host port kind : Value) : Dict :=
  [("connection_id", .str id), ("name", name), ("protocol", protocol), ("host", host), ("port", port),
   ("connector_type", kind)]

theorem Complete.labelled {profile : Dict} (complete : Complete profile) (id : String) (outcome : Dict) :
    ∃ name protocol host port kind,
      labelled id (listed profile) outcome = .ok (merge outcome (labels id name protocol host port kind)) := by
  have column : ∀ key ∈ ["name", "protocol", "host", "port"], ∃ value, item (listed profile) key = .ok value := by
    intro key member
    rcases Option.isSome_iff_exists.mp (complete.columns key member) with ⟨value, found⟩
    refine ⟨value, (item_ok _ _ _).mpr ?_⟩
    rw [complete.lookup_listed, found]
  rcases column "protocol" (by decide) with ⟨protocol, protocolRead⟩
  rcases column "host" (by decide) with ⟨host, hostRead⟩
  rcases column "port" (by decide) with ⟨port, portRead⟩
  rcases complete.connector with ⟨connector, kind, held, typed⟩
  have get : Dict.get (listed profile) "connector" = .dict connector := by
    rw [Dict.get_eq, complete.lookup_listed, held]
    rfl
  have truthy : (Value.dict connector).truthy = true := by
    cases connector with
    | nil => cases typed
    | cons _ _ => rfl
  have kindRead : connectorTypeOf (listed profile) = .ok (Dict.getOr connector "type" (.str "direct")) := by
    unfold connectorTypeOf orEmpty
    rw [get, if_pos truthy]
    rfl
  refine ⟨Dict.getOr (listed profile) "name" (.str ""), protocol, host, port,
    Dict.getOr connector "type" (.str "direct"), ?_⟩
  unfold Batches.labelled
  rw [protocolRead, hostRead, portRead, kindRead]
  rfl

/-- A device is tested exactly when the provider check on its snapshot passes. -/
theorem Complete.tested_iff {profile : Dict} (complete : Complete profile) (id : String) (answer : Answer) :
    (tested S id (listed profile) answer).isSome ↔ Permitted S profile := by
  rw [← complete.permitted_listed (S := S)]
  constructor
  · intro returned
    rcases Option.isSome_iff_exists.mp returned with ⟨result, returned⟩
    rcases tested_ok.mp returned with ⟨outcome, given, _⟩
    exact (testProfile_shape given).1
  · intro permitted
    rcases testProfile_returns permitted answer with ⟨outcome, given⟩
    rcases complete.labelled id outcome with ⟨_, _, _, _, _, labels⟩
    rw [tested_ok.mpr ⟨outcome, given, labels⟩]
    rfl

/-! Results. -/

/-- A result tells what the snapshot says of its device, and what the device's own test returned. -/
structure Carries (S : Service Token) (secrets : List String) (profile : Dict) (answer : Answer) (result : JobResult) :
    Prop where
  described : Describes S.platform secrets profile result
  outcome : ∃ outcome, testProfile S (listed profile) answer = .ok outcome ∧
    Dict.get outcome "success" = .bool result.success ∧ Dict.get outcome "simulated" = .bool result.simulated ∧
    result.stage = Secrets.redact S.platform (Dict.get outcome "stage") secrets ∧
    result.detail = Secrets.redact S.platform (Dict.get outcome "detail") secrets ∧
    result.durationMs = Dict.get outcome "duration_ms"

theorem Complete.cleaned {profile result : Dict} (complete : Complete profile) {id : String} {answer : Answer}
    (returned : tested S id (listed profile) answer = some result) (secrets : List String) :
    Dict.get result "connection_id" = .str id ∧
      ∃ cleaned, cleanedResult S.platform secrets id profile result = .ok cleaned ∧ cleaned.connectionId = id ∧
        Carries S secrets profile answer cleaned := by
  rcases tested_ok.mp returned with ⟨outcome, given, made⟩
  rcases complete.labelled id outcome with ⟨label, _, _, _, _, labels⟩
  have same := Except.ok.inj (made.symm.trans labels)
  rcases (testProfile_shape given).2 with ⟨success, stage, detail, duration, nonnegative, shape⟩
  have client : Dict.getOr (listed profile) "client_type" (.str "network") =
      Dict.getOr profile "client_type" (.str "network") := by
    unfold Dict.getOr
    rw [complete.lookup_listed]
  rw [client] at shape
  have named : Dict.get result "connection_id" = .str id := by
    rw [Dict.get_eq, same, lookup_merge]
    rfl
  refine ⟨named, ?_⟩
  have column : ∀ key ∈ ["name", "protocol", "host", "port"], ∃ value, item profile key = .ok value := by
    intro key member
    rcases Option.isSome_iff_exists.mp (complete.columns key member) with ⟨value, found⟩
    exact ⟨value, (item_ok _ _ _).mpr found⟩
  rcases column "name" (by decide) with ⟨name, nameRead⟩
  rcases column "protocol" (by decide) with ⟨protocol, protocolRead⟩
  rcases column "host" (by decide) with ⟨host, hostRead⟩
  rcases column "port" (by decide) with ⟨port, portRead⟩
  rcases complete.connector with ⟨connector, kind, held, typed⟩
  have connectorRead : item profile "connector" = .ok (.dict connector) := (item_ok _ _ _).mpr held
  have kindRead : item connector "type" = .ok kind := (item_ok _ _ _).mpr typed
  have durationRead : Dict.getOr result "duration_ms" (.int 0) = .float (.finite duration) := by
    unfold Dict.getOr
    rw [same, shape, lookup_merge]
    rfl
  have durationKept : Store.duration (.float (.finite duration)) = .ok (.float (.finite duration)) :=
    if_neg (Rat.not_lt.mpr nonnegative)
  have successRead : Dict.get result "success" = .bool success := by
    rw [Dict.get_eq, same, shape, lookup_merge]
    rfl
  have simulatedRead : Dict.get result "simulated" =
      .bool (Dict.getOr profile "client_type" (.str "network") == .str "fake") := by
    rw [Dict.get_eq, same, shape, lookup_merge]
    rfl
  have stageRead : Dict.getOr result "stage" (.str "unknown") = .str stage := by
    unfold Dict.getOr
    rw [same, shape, lookup_merge]
    rfl
  have detailRead : Dict.getOr result "detail" (.str "") = .str detail := by
    unfold Dict.getOr
    rw [same, shape, lookup_merge]
    rfl
  have accepted : cleanedResult S.platform secrets id profile result = .ok {
      connectionId := id
      name := Secrets.redact S.platform name secrets
      protocol
      host := Secrets.redact S.platform host secrets
      port
      connectorType := kind
      success
      simulated := Dict.getOr profile "client_type" (.str "network") == .str "fake"
      stage := Secrets.redact S.platform (.str stage) secrets
      detail := Secrets.redact S.platform (.str detail) secrets
      durationMs := .float (.finite duration) } := by
    unfold cleanedResult
    simp only [durationRead, durationKept, successRead, simulatedRead, stageRead, detailRead, nameRead, protocolRead,
      hostRead, portRead, connectorRead, kindRead, successFlag, asDict, ok_bind, bne_self_eq_false, Bool.and_false,
      raiseWhen_false, pure_eq]
  refine ⟨_, accepted, rfl, (cleanedResult_ok accepted).2, outcome, given, ?_⟩
  rw [shape]
  exact ⟨rfl, rfl, rfl, rfl, rfl⟩

theorem resultEntry_listed {entries : List (String × Dict)} (distinct : (entries.map Prod.fst).Nodup) {id : String}
    {profile result : Dict} (member : (id, profile) ∈ entries) (named : Dict.get result "connection_id" = .str id) :
    resultEntry entries result = .ok (id, profile) := by
  have found : entries.reverse.lookup id = some profile := by
    rcases List.append_of_mem member with ⟨before, after, split⟩
    rw [split, List.map_append, List.map_cons, List.nodup_append] at distinct
    refine List.lookup_eq_some_iff.mpr ⟨after.reverse, before.reverse, ?_, ?_⟩
    · rw [split, List.reverse_append, List.reverse_cons, List.append_assoc]
      rfl
    · intro other listed
      have later := List.mem_map_of_mem (f := Prod.fst) (List.mem_reverse.mp listed)
      have apart := (List.nodup_cons.mp distinct.2.1).1
      rw [bne_iff_ne]
      intro same
      rw [same] at apart
      exact apart later
  unfold resultEntry
  rw [named]
  dsimp only
  rw [found]

end

end NetworkGateway.Batches
