import NetworkGateway.Proofs.BatchCalls

/-! Where each job of a batch service is, and what holds of it there. -/

namespace NetworkGateway.Batches

open Library.Dict Library.Result Library.Run Library.Table Management Store

section

variable {Token : Type}

inductive Place where
  /-- In the hand of `start`, or in the queue. -/
  | waiting
  | running (place : Running)
  | settled

def State.live (s : State Token) : Option (String × Place) :=
  match s.holder with
  | .start (.submitting job) => some (job.id, .waiting)
  | .start (.unscheduled jobId) => some (jobId, .waiting)
  | .start (.checking _ _) | .free | .shutdown =>
      match s.worker with
      | some (jobId, place) => some (jobId, .running place)
      | none => s.queue.head?.map (fun jobId => (jobId, .waiting))

def State.placeOf (s : State Token) (jobId : String) : Place :=
  match s.live with
  | some (other, place) => if other = jobId then place else .settled
  | none => .settled

theorem State.placeOf_live {s : State Token} {jobId : String} {place : Place} (live : s.live = some (jobId, place)) :
    s.placeOf jobId = place := by
  unfold placeOf
  rw [live]
  exact if_pos rfl

theorem State.placeOf_other {s : State Token} {jobId other : String} {place : Place} (live : s.live = some (jobId, place))
    (apart : other ≠ jobId) : s.placeOf other = .settled := by
  unfold placeOf
  rw [live]
  exact if_neg apart.symm

theorem State.placeOf_idle {s : State Token} (idle : s.live = none) (jobId : String) : s.placeOf jobId = .settled := by
  unfold placeOf
  rw [idle]

def testsOf (tests : List (String × String × Answer)) (jobId : String) : List (String × Answer) :=
  (tests.filter (fun test => test.1 = jobId)).map Prod.snd

theorem testsOf_append_self (tests : List (String × String × Answer)) (jobId id : String) (answer : Answer) :
    testsOf (tests ++ [(jobId, id, answer)]) jobId = testsOf tests jobId ++ [(id, answer)] := by
  simp [testsOf]

theorem testsOf_append_other (tests : List (String × String × Answer)) {jobId other : String} (apart : other ≠ jobId)
    (id : String) (answer : Answer) : testsOf (tests ++ [(jobId, id, answer)]) other = testsOf tests other := by
  simp [testsOf, apart.symm]

variable (S : Service Token)

/-- A result is that of the test at its place, made of the snapshot's profile. -/
def Recorded (entries : List (String × Dict)) (test : String × Answer) (result : JobResult) : Prop :=
  ∃ profile, (test.1, profile) ∈ entries ∧ result.connectionId = test.1 ∧
    Carries S (Secrets.credentialValues (encodeSnapshot entries)) profile test.2 result

/-- The first devices were tested in order, and each has its result. -/
structure Progress (entries : List (String × Dict)) (tests : List (String × Answer)) (results : List JobResult)
    (done : List (String × Dict)) : Prop where
  tested : tests.map Prod.fst = done.map Prod.fst
  recorded : List.Forall₂ (Recorded S entries) tests results
  permitted : ∀ entry ∈ done, Permitted S entry.2

def Ordered (entries : List (String × Dict)) (results : List JobResult) : Prop :=
  results.map JobResult.connectionId <+: entries.map Prod.fst

/-- Why a job may fail although every store call of it succeeds. -/
def Excuse (s : State Token) (entries : List (String × Dict)) : Prop :=
  s.stop = true ∨ ∃ entry ∈ entries, ¬Permitted S entry.2

inductive Outcome (s : State Token) (jobId : String) (entries : List (String × Dict)) (job : JobRow Token)
    (excuse : Prop) : Prop where
  | completed (status : job.status = .completed)
      (progress : Progress S entries (testsOf s.tests jobId) job.results entries)
  | failed (status : job.status = .failed) (ordered : Ordered entries job.results) (excused : excuse)
  | unreached (missed : jobId ∈ s.unreached) (ended : job.status.active = false ∨ jobId ∈ s.unfailed)
      (ordered : Ordered entries job.results)

/-- `get_job_connections` of the entries of a snapshot. -/
def listedEntry (entry : String × Dict) : String × Dict := (entry.1, listed entry.2)

def At (s : State Token) (jobId : String) (entries : List (String × Dict)) (job : JobRow Token) : Place → Prop
  | .waiting | .running .begun => job.status = .queued ∧ job.results = [] ∧ testsOf s.tests jobId = []
  | .running .marked => job.status = .running ∧ job.results = [] ∧ testsOf s.tests jobId = []
  | .running (.testing rest) => job.status = .running ∧ ∃ done todo, entries = done ++ todo ∧
      rest = todo.map listedEntry ∧ Progress S entries (testsOf s.tests jobId) job.results done
  | .running (.recording result rest) => job.status = .running ∧ ∃ done id profile todo tests answer,
      entries = done ++ (id, profile) :: todo ∧ rest = todo.map listedEntry ∧
      testsOf s.tests jobId = tests ++ [(id, answer)] ∧ Progress S entries tests job.results done ∧
      tested S id (listed profile) answer = some result
  | .running (.failing _) => job.status.active = true ∧ Ordered entries job.results ∧
      (Excuse S s entries ∨ jobId ∈ s.unreached)
  | .running .returned => Outcome S s jobId entries job (Excuse S s entries)
  | .settled => Outcome S s jobId entries job (Excuse S s entries ∨ jobId ∉ s.ended)

/-- What `create_job` read when it created a job. -/
structure Snapshot (c : Created Token) (entries : List (String × Dict)) : Prop where
  opened : S.store.closed = false
  reachable : Reachable S.platform c.inventory
  resolved : each (snapshotEntry S.platform S.store c.inventory) c.ids = .ok entries
  distinct : c.ids.Nodup

def Holds (s : State Token) (c : Created Token) (place : Place) : Prop :=
  ∃ entries job, Snapshot S c entries ∧ find JobRow.id s.db.jobs c.id = some job ∧ Held S entries job ∧
    At S s c.id entries job place

variable {S}

namespace Snapshot

variable {c : Created Token} {entries : List (String × Dict)}

theorem ids (snapshot : Snapshot S c entries) : entries.map Prod.fst = c.ids := snapshotEntries_ids snapshot.resolved

theorem nodup (snapshot : Snapshot S c entries) : (entries.map Prod.fst).Nodup := by
  rw [snapshot.ids]
  exact snapshot.distinct

theorem complete (laws : S.platform.VaultLaws) (snapshot : Snapshot S c entries) :
    ∀ entry ∈ entries, Complete entry.2 := by
  intro entry member
  rcases snapshot.reachable with ⟨calls, reached⟩
  have sound := run_inventory (P := S.platform) calls
  rw [reached] at sound
  exact resolved_complete laws sound (snapshotEntries_resolved snapshot.resolved entry member)

end Snapshot

namespace Progress

variable {entries done : List (String × Dict)} {tests : List (String × Answer)} {results : List JobResult}

theorem start : Progress S entries [] [] [] := ⟨rfl, .nil, nofun⟩

theorem results_ids (progress : Progress S entries tests results done) :
    results.map JobResult.connectionId = done.map Prod.fst := by
  rw [← progress.tested]
  have related := progress.recorded
  clear progress
  induction related with
  | nil => rfl
  | cons head _ ih =>
      rcases head with ⟨_, _, same, _⟩
      rw [List.map_cons, List.map_cons, same, ih]

theorem ordered {todo : List (String × Dict)} (progress : Progress S entries tests results done)
    (split : entries = done ++ todo) : Ordered entries results := by
  unfold Ordered
  rw [progress.results_ids, split, List.map_append]
  exact List.prefix_append _ _

theorem length (progress : Progress S entries tests results done) : results.length = done.length := by
  have same := congrArg List.length progress.results_ids
  rw [List.length_map, List.length_map] at same
  exact same

theorem next {id : String} {profile : Dict} {answer : Answer} {cleaned : JobResult}
    (progress : Progress S entries tests results done) (member : (id, profile) ∈ entries)
    (permitted : Permitted S profile) (named : cleaned.connectionId = id)
    (carries : Carries S (Secrets.credentialValues (encodeSnapshot entries)) profile answer cleaned) :
    Progress S entries (tests ++ [(id, answer)]) (results ++ [cleaned]) (done ++ [(id, profile)]) := by
  refine ⟨?_, ?_, ?_⟩
  · rw [List.map_append, List.map_append, progress.tested]
    rfl
  · exact List.rel_append progress.recorded (.cons ⟨profile, member, named, carries⟩ .nil)
  · intro entry listed
    rcases List.mem_append.mp listed with old | new
    · exact progress.permitted entry old
    · rw [List.mem_singleton.mp new]
      exact permitted

end Progress

/-! What a step leaves of the jobs it is not about. -/

/-- Nothing changed for a job, except what makes room for excuses. -/
structure Quiet (s later : State Token) (jobId : String) : Prop where
  row : find JobRow.id later.db.jobs jobId = find JobRow.id s.db.jobs jobId
  tests : testsOf later.tests jobId = testsOf s.tests jobId
  stop : s.stop = true → later.stop = true
  unreached : jobId ∈ s.unreached → jobId ∈ later.unreached
  unfailed : jobId ∈ s.unfailed → jobId ∈ later.unfailed
  ended : jobId ∈ later.ended → jobId ∈ s.ended

variable {s later : State Token}

theorem Excuse.mono {entries : List (String × Dict)} (stop : s.stop = true → later.stop = true)
    (excuse : Excuse S s entries) : Excuse S later entries := excuse.imp stop id

theorem Outcome.quiet {jobId : String} {entries : List (String × Dict)} {job : JobRow Token} {excuse weaker : Prop}
    (quiet : Quiet s later jobId) (imp : excuse → weaker) (outcome : Outcome S s jobId entries job excuse) :
    Outcome S later jobId entries job weaker := by
  cases outcome with
  | completed status progress =>
      rw [← quiet.tests] at progress
      exact .completed status progress
  | failed status ordered excused => exact .failed status ordered (imp excused)
  | unreached missed ended ordered => exact .unreached (quiet.unreached missed) (ended.imp_right quiet.unfailed) ordered

theorem At.quiet {jobId : String} {entries : List (String × Dict)} {job : JobRow Token} {place : Place}
    (quiet : Quiet s later jobId) (holds : At S s jobId entries job place) : At S later jobId entries job place := by
  have excuse := fun excuse : Excuse S s entries => excuse.mono quiet.stop
  cases place with
  | waiting =>
      unfold At at holds ⊢
      rw [quiet.tests]
      exact holds
  | settled => exact Outcome.quiet quiet (fun held => held.imp excuse (fun out late => out (quiet.ended late))) holds
  | running place =>
      cases place with
      | begun | marked | testing | recording =>
          unfold At at holds ⊢
          rw [quiet.tests]
          exact holds
      | failing message => exact ⟨holds.1, holds.2.1, holds.2.2.imp excuse quiet.unreached⟩
      | returned => exact Outcome.quiet quiet excuse holds

theorem Holds.quiet {c : Created Token} {place : Place} (quiet : Quiet s later c.id) (holds : Holds S s c place) :
    Holds S later c place := by
  rcases holds with ⟨entries, job, snapshot, found, held, at_⟩
  exact ⟨entries, job, snapshot, quiet.row.trans found, held, at_.quiet quiet⟩

/-! The invariant. -/

/-- How the lock, the queue, the worker, the future and `shutdown` go together. -/
structure Threads (s : State Token) : Prop where
  lock : ∀ place, s.holder = .start place → s.queue = [] ∧ s.worker = none ∧ s.closed = false
  single : s.queue.length ≤ 1
  alone : s.worker ≠ none → s.queue = []
  future : ∀ jobId, jobId ∈ s.queue ∨ (∃ place, s.worker = some (jobId, place)) → s.future = some jobId
  uncalled : s.shutdown = .uncalled ↔ s.closed = false
  running : s.shutdown = .uncalled → s.stop = false
  closing : s.shutdown = .closing → s.holder = .shutdown
  returned : s.shutdown = .returned → s.queue = [] ∧ s.worker = none

variable (S) in
structure Inv (s : State Token) : Prop where
  reachable : Reachable S.platform s.db
  distinct : (s.created.map Created.id).Nodup
  jobs : ∀ c ∈ s.created, Holds S s c (s.placeOf c.id)
  known : ∀ jobId place, s.live = some (jobId, place) → jobId ∈ s.created.map Created.id ∧ jobId ∉ s.ended
  ended : ∀ jobId ∈ s.ended, jobId ∈ s.created.map Created.id
  tests : ∀ test ∈ s.tests, test.1 ∈ s.created.map Created.id
  threads : Threads s

theorem State.placeOf_congr (same : later.live = s.live) (jobId : String) : later.placeOf jobId = s.placeOf jobId := by
  unfold placeOf
  rw [same]

theorem Inv.frame (inv : Inv S s) (created : later.created = s.created) (live : later.live = s.live)
    (ended : later.ended = s.ended) (tests : later.tests = s.tests) (reachable : Reachable S.platform later.db)
    (threads : Threads later) (quiet : ∀ jobId, Quiet s later jobId) : Inv S later := by
  refine ⟨reachable, ?_, ?_, ?_, ?_, ?_, threads⟩
  · rw [created]
    exact inv.distinct
  · intro c member
    rw [created] at member
    rw [State.placeOf_congr live]
    exact (inv.jobs c member).quiet (quiet c.id)
  · rw [created, live, ended]
    exact inv.known
  · rw [created, ended]
    exact inv.ended
  · rw [created, tests]
    exact inv.tests

/-- A job of the service is created once. -/
theorem Inv.only (inv : Inv S s) {c other : Created Token} (member : c ∈ s.created) (listed : other ∈ s.created)
    (same : c.id = other.id) : c = other := List.inj_on_of_nodup_map inv.distinct member listed same

theorem Inv.move {jobId : String} {place next : Place} (inv : Inv S s) (live : s.live = some (jobId, place))
    (created : later.created = s.created) (reachable : Reachable S.platform later.db) (threads : Threads later)
    (quiet : ∀ other ≠ jobId, Quiet s later other)
    (goes : later.live = some (jobId, next) ∧ later.ended = s.ended ∨
      later.live = none ∧ next = .settled ∧ ∀ other ∈ later.ended, other ∈ s.ended ∨ other = jobId)
    (tests : ∀ test ∈ later.tests, test ∈ s.tests ∨ test.1 = jobId)
    (self : ∃ c ∈ s.created, c.id = jobId ∧ Holds S later c next) : Inv S later := by
  have known := inv.known jobId place live
  have after : later.placeOf jobId = next := by
    rcases goes with ⟨stays, _⟩ | ⟨idle, settled, _⟩
    · exact State.placeOf_live stays
    · rw [settled]
      exact State.placeOf_idle idle jobId
  have others : ∀ other ≠ jobId, later.placeOf other = .settled := by
    intro other apart
    rcases goes with ⟨stays, _⟩ | ⟨idle, _, _⟩
    · exact State.placeOf_other stays apart
    · exact State.placeOf_idle idle other
  refine ⟨reachable, ?_, ?_, ?_, ?_, ?_, threads⟩
  · rw [created]
    exact inv.distinct
  · intro c member
    rw [created] at member
    by_cases same : c.id = jobId
    · rcases self with ⟨moved, listed, named, holds⟩
      rw [inv.only member listed (same.trans named.symm), named, after]
      exact holds
    · have before := inv.jobs c member
      rw [State.placeOf_other live same] at before
      rw [others c.id same]
      exact before.quiet (quiet c.id same)
  · intro other held found
    rcases goes with ⟨stays, same⟩ | ⟨idle, _, _⟩
    · rw [stays] at found
      cases found
      rw [created, same]
      exact known
    · rw [idle] at found
      cases found
  · intro other member
    rw [created]
    rcases goes with ⟨_, same⟩ | ⟨_, _, grows⟩
    · rw [same] at member
      exact inv.ended other member
    · rcases grows other member with old | new
      · exact inv.ended other old
      · rw [new]
        exact known.1
  · intro test member
    rw [created]
    rcases tests test member with old | new
    · exact inv.tests test old
    · rw [new]
      exact known.1

end

end NetworkGateway.Batches
