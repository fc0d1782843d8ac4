import NetworkGateway.Bl.BatchWorker
import NetworkGateway.Proofs.BatchTests

/-! What the store calls of a batch service do to the rows of its jobs. -/

namespace NetworkGateway.Batches

open Library.Dict Library.Result Library.Run Library.Table Management Store

section

variable {Token : Type} {S : Service Token}

/-- A call changed the row of one job, or nothing. -/
structure Rewrites (S : Service Token) (db written : Db Token) (jobId : String) (change : JobRow Token → JobRow Token) :
    Prop where
  self : find JobRow.id written.jobs jobId = (find JobRow.id db.jobs jobId).map change
  others : ∀ other ≠ jobId, find JobRow.id written.jobs other = find JobRow.id db.jobs other
  reachable : Reachable S.platform db → Reachable S.platform written

theorem reachable_after (call : Call) {db : Db Token} (reached : Reachable S.platform db) :
    Reachable S.platform (after S.platform call db) := reachable_step reached call

theorem replace_rewrites {db written : Db Token} {jobId : String} {change : JobRow Token → JobRow Token}
    (keeps : ∀ job, (change job).id = job.id) (jobs : written.jobs = replace JobRow.id db.jobs jobId change)
    (reachable : Reachable S.platform db → Reachable S.platform written) : Rewrites S db written jobId change := by
  have kept : ∀ job : JobRow Token, job.id = jobId → (change job).id = jobId := fun job same => (keeps job).trans same
  refine ⟨?_, ?_, reachable⟩
  · rw [jobs]
    exact find_replace_self _ _ _ kept
  · intro other differs
    rw [jobs]
    exact find_replace_other _ _ differs kept

structure Held (S : Service Token) (entries : List (String × Dict)) (job : JobRow Token) : Prop where
  sealed : ∃ iv, job.snapshot = S.platform.encrypt S.store.key iv (encodeSnapshot entries)
  total : job.total = entries.length
  counted : job.completed = job.results.length

theorem Held.decrypt {entries : List (String × Dict)} {job : JobRow Token} (held : Held S entries job)
    (laws : S.platform.VaultLaws) : Secrets.decrypt S.platform S.store job.snapshot = .ok (encodeSnapshot entries) := by
  rcases held.sealed with ⟨iv, same⟩
  rw [same]
  exact Secrets.decrypt_encrypt S.store laws iv _

theorem Held.moveTo {entries : List (String × Dict)} {job : JobRow Token} (held : Held S entries job) (status : JobStatus)
    (error : Option String) : Held S entries (moveTo status error job) := ⟨held.sealed, held.total, held.counted⟩

theorem Held.addResult {entries : List (String × Dict)} {job : JobRow Token} (held : Held S entries job)
    (cleaned : JobResult) : Held S entries (addResult cleaned job) := ⟨held.sealed, held.total, rfl⟩

section

variable (laws : S.platform.VaultLaws) (opened : S.store.closed = false) {db : Db Token} {jobId : String}
  {entries : List (String × Dict)} {job : JobRow Token} (found : find JobRow.id db.jobs jobId = some job)
  (held : Held S entries job)
include laws opened found held

theorem setStatus_runs {text : String} {status : JobStatus} (named : JobStatus.ofText text = some status)
    (allowed : status ∈ allowedStatus job.status) (full : status = .completed → job.completed = job.total) (error : Value)
    (fresh : Fresh) : ∃ written clean, setStatus S true db jobId text error = (.ok (), written) ∧
      Rewrites S db written jobId (moveTo status clean) := by
  have stored : ∃ clean, setJobStatusRow S.platform S.store db jobId status error =
      .ok ((), { db with jobs := replace JobRow.id db.jobs jobId (moveTo status clean) }) :=
    ⟨_, setJobStatusRow_ok.mpr ⟨job, _, found, allowed, full, held.decrypt laws, rfl⟩⟩
  rcases stored with ⟨clean, body⟩
  have called : setStatus S true db jobId text error =
      (.ok (), { db with jobs := replace JobRow.id db.jobs jobId (moveTo status clean) }) := by
    have valid : jobStatus (.str text) = .ok status := by
      unfold jobStatus
      dsimp only
      rw [named]
    unfold setStatus setJobStatus
    rw [valid]
    exact transaction_ok.mpr ⟨opened, body⟩
  refine ⟨_, clean, called, replace_rewrites (fun _ => rfl) rfl ?_⟩
  intro reached
  have next := reachable_after ⟨S.store, fresh, .setJobStatus jobId (.str text) error⟩ reached
  have state : after S.platform ⟨S.store, fresh, .setJobStatus jobId (.str text) error⟩ db =
      (setStatus S true db jobId text error).2 := rfl
  rw [state, called] at next
  exact next

theorem fail_runs (active : job.status.active = true) (available : Bool) (error : Value) (fresh : Fresh) :
    ∃ written stored, (setStatus S available db jobId "failed" error).2 = written ∧
      (∀ other ≠ jobId, find JobRow.id written.jobs other = find JobRow.id db.jobs other) ∧
      (Reachable S.platform db → Reachable S.platform written) ∧ find JobRow.id written.jobs jobId = some stored ∧
      Held S entries stored ∧ stored.results = job.results ∧ (available = true → stored.status = .failed) := by
  cases available with
  | false => exact ⟨db, job, rfl, fun _ _ => rfl, id, found, held, rfl, nofun⟩
  | true =>
      have allowed : JobStatus.failed ∈ allowedStatus job.status := by
        cases status : job.status with
        | queued | running => decide
        | completed | failed =>
            rw [status] at active
            cases active
      have named : JobStatus.ofText "failed" = some .failed := rfl
      rcases setStatus_runs laws opened found held named allowed nofun error fresh with ⟨written, clean, called, rewrites⟩
      have row : find JobRow.id written.jobs jobId = some (moveTo .failed clean job) := by
        rw [rewrites.self, found]
        rfl
      exact ⟨written, _, by rw [called], rewrites.others, rewrites.reachable, row, held.moveTo _ _, rfl, fun _ => rfl⟩

theorem load_runs : reach true db (getJobConnections S.platform S.store db jobId, db) =
    (.ok (entries.map (fun entry => (entry.1, listed entry.2))), db) :=
  Prod.ext (getJobConnections_ok found (held.decrypt laws) opened) rfl

theorem record_runs (distinct : (entries.map Prod.fst).Nodup) (active : job.status.active = true) {id : String}
    {profile result : Dict} {answer : Answer} (member : (id, profile) ∈ entries)
    (unseen : ∀ recorded ∈ job.results, recorded.connectionId ≠ id) (complete : Complete profile)
    (returned : tested S id (listed profile) answer = some result) (fresh : Fresh) :
    ∃ written cleaned, reach true db (recordJobResult S.platform S.store db jobId (.dict result)) = (.ok (), written) ∧
      Rewrites S db written jobId (addResult cleaned) ∧ cleaned.connectionId = id ∧
      Carries S (Secrets.credentialValues (encodeSnapshot entries)) profile answer cleaned := by
  rcases complete.cleaned returned (Secrets.credentialValues (encodeSnapshot entries)) with
    ⟨named, cleaned, accepted, same, carries⟩
  have body : recordJobResultRow S.platform S.store db jobId result =
      .ok ((), { db with jobs := replace JobRow.id db.jobs jobId (addResult cleaned) }) :=
    recordJobResultRow_ok.mpr ⟨job, _, entries, id, profile, cleaned, found, active, held.decrypt laws,
      decode_encodeSnapshot entries, resultEntry_listed distinct member named, unseen, accepted, rfl⟩
  have called : reach true db (recordJobResult S.platform S.store db jobId (.dict result)) =
      (.ok (), { db with jobs := replace JobRow.id db.jobs jobId (addResult cleaned) }) :=
    transaction_ok.mpr ⟨opened, body⟩
  refine ⟨_, cleaned, called, replace_rewrites (fun _ => rfl) rfl ?_, same, carries⟩
  intro reached
  have next := reachable_after ⟨S.store, fresh, .recordJobResult jobId (.dict result)⟩ reached
  have state : after S.platform ⟨S.store, fresh, .recordJobResult jobId (.dict result)⟩ db =
      (reach true db (recordJobResult S.platform S.store db jobId (.dict result))).2 := rfl
  rw [state, called] at next
  exact next

end

theorem reach_ok {α : Type} {available : Bool} {db written : Db Token} {outcome : Except PyError α × Db Token} {result : α}
    (returned : reach available db outcome = (.ok result, written)) : available = true ∧ outcome = (.ok result, written) := by
  cases available with
  | true => exact ⟨rfl, returned⟩
  | false => cases returned

theorem reach_error {α : Type} {available : Bool} {db written : Db Token} {outcome : Except PyError α × Db Token}
    {error : PyError} (returned : reach available db outcome = (.error error, written))
    (kept : ∀ raised, outcome.1 = .error raised → outcome.2 = db) : written = db := by
  cases available with
  | true =>
      have same : outcome = (.error error, written) := returned
      rw [same] at kept
      exact kept error rfl
  | false =>
      cases returned
      rfl

theorem create_ok {available : Bool} {db written : Db Token} {fresh : Fresh} {ids : List String} {job : PublicJob}
    (returned : reach available db (createJob S.platform S.store db fresh (.list (ids.map .str))) = (.ok job, written)) :
    S.store.closed = false ∧ ids.Nodup ∧ ∃ entries, each (snapshotEntry S.platform S.store db) ids = .ok entries ∧
      find JobRow.id db.jobs job.id = none ∧
      written.jobs = db.jobs ++
        [newJob job.id (S.platform.encrypt S.store.key fresh.iv (encodeSnapshot entries)) entries.length] ∧
      (Reachable S.platform db → Reachable S.platform written) := by
  have called := (reach_ok returned).2
  have made := called
  unfold createJob at made
  rcases checked_ok made with ⟨selected, valid, committed⟩
  have same : ids = selected := by
    have inner := Value.list.inj (selection_ok valid).1
    exact List.map_injective_iff.mpr (fun _ _ => Value.str.inj) inner
  rw [← same] at valid committed
  rcases transaction_ok.mp committed with ⟨opened, body⟩
  rcases createJobRow_ok.mp body with ⟨entries, -, resolved, unused, view, rows⟩
  have named : job.id = fresh.id := by
    rw [view]
    rfl
  rw [named]
  refine ⟨opened, (selection_ok valid).2.1, entries, resolved, unused, by rw [rows], ?_⟩
  intro reached
  have next := reachable_after ⟨S.store, fresh, .createJob (.list (ids.map .str))⟩ reached
  have state : after S.platform ⟨S.store, fresh, .createJob (.list (ids.map .str))⟩ db =
      (createJob S.platform S.store db fresh (.list (ids.map .str))).2 := rfl
  rw [state, called] at next
  exact next

theorem create_error {available : Bool} {db written : Db Token} {fresh : Fresh} {ids : List String} {raised : PyError}
    (failed : reach available db (createJob S.platform S.store db fresh (.list (ids.map .str))) = (.error raised, written)) :
    written = db := by
  apply reach_error failed
  intro raised given
  exact checked_kept (fun _ _ => transaction_kept) given

theorem other_jobs {call : Call} (other : otherOp call.op = true) (db : Db Token) :
    (after S.platform call db).jobs = db.jobs := by
  let alone := fun written : Db Token => written.jobs = db.jobs
  have kept : alone db := rfl
  have routes : ∀ {written : Db Token}, RoutesOnly db written → alone written := by
    intro written only
    rcases only with ⟨_, _, _, rfl⟩
    exact kept
  rcases call with ⟨self, fresh, op⟩
  cases op with
  | saveConfig name payload =>
      apply checked_holds (p := alone) kept
      intro value
      apply transaction_holds (p := alone) kept
      intro result written returned
      cases returned
      exact kept
  | save resource payload itemId =>
      apply checked_holds (p := alone) kept
      intro kind
      apply checked_holds (p := alone) kept
      intro entries
      apply transaction_holds (p := alone) kept
      intro view written body
      cases kind with
      | roleAccounts =>
          rcases saveRoleAccount_ok body with ⟨_, _, _, _, _, _, _, rows⟩
          rw [rows]
      | proxies =>
          rcases saveProxyResource_ok body with ⟨_, _, _, _, _, _, _, rows⟩
          rw [rows]
      | connections =>
          rcases saveConnectionResource_ok body with ⟨_, _, _, _, _, _, _, rows⟩
          rw [rows]
  | delete resource itemId =>
      apply checked_holds (p := alone) kept
      intro kind
      apply transaction_holds (p := alone) kept
      intro result written returned
      cases kind with
      | roleAccounts =>
          rcases deleteRole_ok.mp returned with ⟨_, _, rfl⟩
          exact kept
      | proxies =>
          rcases deleteProxy_ok.mp returned with ⟨_, _, rfl⟩
          exact kept
      | connections =>
          rcases deleteConnection_ok.mp returned with ⟨_, rfl⟩
          exact kept
  | listStaticRoutes connectionId =>
      exact transaction_holds (p := alone) kept fun _ _ returned =>
        routes (initializeStaticRoutes_ok (listStaticRoutes_ok.mp returned).1).2.routesOnly
  | createStaticRoute connectionId payload =>
      exact transaction_holds (p := alone) kept fun _ _ returned => routes (createStaticRouteRow_routesOnly returned)
  | updateStaticRoute connectionId routeId payload =>
      exact transaction_holds (p := alone) kept fun _ _ returned => routes (updateStaticRouteRow_routesOnly returned)
  | deleteStaticRoute connectionId routeId =>
      exact transaction_holds (p := alone) kept fun _ _ returned => routes (deleteStaticRouteRow_routesOnly returned)
  | createStaticRouteAudited connectionId payload audit =>
      exact transaction_holds (p := alone) kept fun _ _ returned => routes (createAudited_routesOnly returned)
  | updateStaticRouteAudited connectionId routeId payload audit =>
      exact transaction_holds (p := alone) kept fun _ _ returned => routes (updateAudited_routesOnly returned)
  | deleteStaticRouteAudited connectionId routeId audit =>
      exact transaction_holds (p := alone) kept fun _ _ returned => routes (deleteAudited_routesOnly returned)
  | appendTransaction payload =>
      apply transaction_holds (p := alone) kept
      intro record written returned
      rcases insertTransaction_ok.mp returned with ⟨_, _, _, rfl⟩
      exact kept
  | list | get | getConfig | resolveConnection | getJob | getJobConnections => exact kept
  | openStore | createJob | recordJobResult | setJobStatus => cases other

end

end NetworkGateway.Batches
