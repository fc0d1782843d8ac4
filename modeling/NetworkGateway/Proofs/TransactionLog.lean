import NetworkGateway.Bl.Transactions
import NetworkGateway.Dal.Bench
import NetworkGateway.Proofs.Audit

/-! Queries of the transaction log: what the filters select, the pages, and the
errors a query can end in. -/

namespace NetworkGateway.Store

open Library.Result Library.Run

/-! The order of a page. -/

/-- `a` stands before `b` in a listing, newest first. -/
def Newer (a b : TransactionRow) : Prop :=
  b.timestampUtc < a.timestampUtc ∨ a.timestampUtc = b.timestampUtc ∧ b.id < a.id

theorem newestFirst_perm (rows : List TransactionRow) : (newestFirst rows).Perm rows :=
  List.perm_insertionSort _ rows

theorem newestFirst_pairwise {rows : List TransactionRow} (distinct : (rows.map TransactionRow.id).Nodup) :
    (newestFirst rows).Pairwise Newer := by
  let order : TransactionRow → TransactionRow → Prop := fun a b =>
    b.timestampUtc < a.timestampUtc ∨ a.timestampUtc = b.timestampUtc ∧ b.id ≤ a.id
  have total : Std.Total order := by
    constructor
    intro a b
    rcases lt_trichotomy a.timestampUtc b.timestampUtc with earlier | same | later
    · exact .inr (.inl earlier)
    · rcases le_total a.id b.id with below | above
      · exact .inr (.inr ⟨same.symm, below⟩)
      · exact .inl (.inr ⟨same, above⟩)
    · exact .inl (.inl later)
  have transitive : IsTrans TransactionRow order := by
    constructor
    intro a b c first second
    rcases first with less | ⟨same, below⟩
    · rcases second with lower | ⟨equal, _⟩
      · exact .inl (lt_trans lower less)
      · rw [equal] at less
        exact .inl less
    · rcases second with lower | ⟨equal, under⟩
      · rw [← same] at lower
        exact .inl lower
      · exact .inr ⟨same.trans equal, le_trans under below⟩
  have sorted : (newestFirst rows).Pairwise order := List.pairwise_insertionSort order rows
  have ids : ((newestFirst rows).map TransactionRow.id).Nodup :=
    ((newestFirst_perm rows).map TransactionRow.id).nodup_iff.mpr distinct
  have apart : (newestFirst rows).Pairwise (fun a b => a.id ≠ b.id) := List.pairwise_map.mp ids
  apply (sorted.and apart).imp
  intro a b both
  rcases both.1 with later | ⟨same, below⟩
  · exact .inl later
  · exact .inr ⟨same, lt_of_le_of_ne below (Ne.symm both.2)⟩

theorem windows_flatMap {α : Type} (rows : List α) (width count : Nat) :
    (List.range count).flatMap (fun k => (rows.drop (k * width)).take width) = rows.take (count * width) := by
  induction count with
  | zero => simp
  | succ count ih =>
      rw [List.range_succ, List.flatMap_append, ih, Nat.succ_mul, List.take_add]
      simp

/-! What the filters select. -/

structure ColumnsMatch (filters : Dict) (record : TransactionRow) : Prop where
  connectionId : ∀ text, Dict.get filters "connection_id" = .str text → record.connectionId = Uuid.parse text
  action : ∀ text, Dict.get filters "action" = .str text → record.action = text
  actorSubject : ∀ text, Dict.get filters "actor_subject" = .str text → record.actorSubject = text
  resourceType : ∀ text, Dict.get filters "resource_type" = .str text → record.resourceType = text
  outcome : ∀ text, Dict.get filters "outcome" = .str text → record.outcome.text = text

structure Satisfies (filters : Dict) (record : TransactionRow) : Prop where
  columns : ColumnsMatch filters record
  since : ∀ text start, Dict.get filters "since" = .str text →
    parseFilterTimestamp (.str text) "since" = .ok start → start ≤ record.timestampUtc
  upTo : ∀ text ending, Dict.get filters "until" = .str text →
    parseFilterTimestamp (.str text) "until" = .ok ending → record.timestampUtc ≤ ending

variable {filters : Dict} (record : TransactionRow)

theorem condition_holds {α : Type} {key : String} {check : Value → Except PyError α} {build : α → Condition}
    {built : List Condition} (accepted : condition filters key check build = .ok built)
    (meaning : String → Prop)
    (means : ∀ value checked, check value = .ok checked →
      ∃ text, value = .str text ∧ ((build checked).holds record = true ↔ meaning text)) :
    built.all (Condition.holds record) = true ↔ ∀ text, Dict.get filters key = .str text → meaning text := by
  unfold condition at accepted
  split at accepted
  · rename_i absent
    rw [← Except.ok.inj accepted, absent]
    simp
  · simp only [bind_eq_ok, pure_eq, Except.ok.injEq] at accepted
    rcases accepted with ⟨checked, valid, rfl⟩
    rcases means _ checked valid with ⟨text, given, iff⟩
    rw [given]
    simp [iff]

theorem uuid_means (value : Value) (checked : String)
    (valid : validateUuid value "connection_id" = .ok checked) :
    ∃ text, value = .str text ∧ ((Condition.connectionId checked).holds record = true ↔
      record.connectionId = Uuid.parse text) := by
  unfold validateUuid at valid
  split at valid
  · rename_i text
    split at valid
    · rename_i parsed found
      refine ⟨text, rfl, ?_⟩
      rw [found, ← Except.ok.inj valid]
      simp [Condition.holds]
    · cases valid
  · cases valid

theorem outcome_means (value : Value) (checked : Outcome)
    (valid : outcomeFilter value = .ok checked) :
    ∃ text, value = .str text ∧ ((Condition.outcome checked).holds record = true ↔ record.outcome.text = text) := by
  unfold outcomeFilter at valid
  simp only [bind_eq_ok] at valid
  rcases valid with ⟨_, -, valid⟩
  split at valid
  · rename_i given
    refine ⟨"succeeded", given, ?_⟩
    rw [← Except.ok.inj valid]
    cases h : record.outcome <;> simp [Condition.holds, Outcome.text, h]
  · split at valid
    · rename_i given
      refine ⟨"failed", given, ?_⟩
      rw [← Except.ok.inj valid]
      cases h : record.outcome <;> simp [Condition.holds, Outcome.text, h]
    · cases valid

theorem text_means {label : String} {limit : Nat} {build : String → Condition} {column : String}
    (compares : ∀ checked, (build checked).holds record = true ↔ column = checked) (value : Value) (checked : String)
    (valid : text value label false limit = .ok checked) :
    ∃ given, value = .str given ∧ ((build checked).holds record = true ↔ column = given) := by
  unfold text at valid
  split at valid
  · rename_i given
    split at valid
    · cases valid
    · rw [if_neg Bool.false_ne_true] at valid
      refine ⟨given, rfl, ?_⟩
      rw [compares, Except.ok.inj valid]
  · cases valid

theorem filterTimestamp_means {label : String} {build : String → Condition} (bound : String → Prop)
    (compares : ∀ checked, (build checked).holds record = true ↔ bound checked) (value : Value) (checked : String)
    (valid : parseFilterTimestamp value label = .ok checked) :
    ∃ given, value = .str given ∧ ((build checked).holds record = true ↔
      ∀ moment, parseFilterTimestamp (.str given) label = .ok moment → bound moment) := by
  cases value with
  | str given =>
      refine ⟨given, rfl, ?_⟩
      rw [compares, valid]
      simp
  | none | bool | int | float | list | dict => cases valid

theorem columnConditions_holds {built : List Condition} (accepted : columnConditions filters = .ok built) :
    built.all (Condition.holds record) = true ↔ ColumnsMatch filters record := by
  simp only [columnConditions, bind_eq_ok, pure_eq, Except.ok.injEq] at accepted
  rcases accepted with ⟨ids, connectionId, actions, action, subjects, subject, types, type, outcomes, outcome, rfl⟩
  have byId := condition_holds record connectionId _ (uuid_means record)
  have byAction := condition_holds record action (record.action = ·) (text_means record (by simp [Condition.holds]))
  have bySubject := condition_holds record subject (record.actorSubject = ·) (text_means record (by simp [Condition.holds]))
  have byType := condition_holds record type (record.resourceType = ·) (text_means record (by simp [Condition.holds]))
  have byOutcome := condition_holds record outcome _ (outcome_means record)
  simp only [List.all_append, Bool.and_eq_true, byId, byAction, bySubject, byType, byOutcome]
  constructor
  · intro all
    exact ⟨all.1.1.1.1, all.1.1.1.2, all.1.1.2, all.1.2, all.2⟩
  · intro matched
    exact ⟨⟨⟨⟨matched.connectionId, matched.action⟩, matched.actorSubject⟩, matched.resourceType⟩, matched.outcome⟩

theorem conditions_holds {built : List Condition} (accepted : conditions filters = .ok built) :
    built.all (Condition.holds record) = true ↔ Satisfies filters record := by
  simp only [conditions, bind_eq_ok, pure_eq, Except.ok.injEq] at accepted
  rcases accepted with ⟨columns, column, starts, since, ends, upTo, rfl⟩
  have byColumn := columnConditions_holds record column
  have bySince := condition_holds record since _
    (filterTimestamp_means record (· ≤ record.timestampUtc) (by simp [Condition.holds]))
  have byUpTo := condition_holds record upTo _
    (filterTimestamp_means record (record.timestampUtc ≤ ·) (by simp [Condition.holds]))
  simp only [List.all_append, Bool.and_eq_true, byColumn, bySince, byUpTo]
  constructor
  · intro all
    exact ⟨all.1.1, fun text start given => all.1.2 text given start,
      fun text ending given => all.2 text given ending⟩
  · intro satisfied
    exact ⟨⟨satisfied.columns, fun text given start => satisfied.since text start given⟩,
      fun text given ending => satisfied.upTo text ending given⟩

/-! One query. -/

section

variable {Token : Type} {backend : Backend} {self : GatewayStore} {db : Db Token}

theorem filterDict_dict (filters : Dict) : filterDict (.dict filters) = .ok filters := by
  cases filters with
  | nil => rfl
  | cons _ _ => rfl

theorem pageLimit_ok {n limit : Int} : pageLimit (.int n) = .ok limit ↔ (1 ≤ n ∧ n ≤ 500) ∧ limit = n := by
  unfold pageLimit
  dsimp only
  split <;> simp_all [eq_comm]

theorem pageOffset_ok {n offset : Int} : pageOffset (.int n) = .ok offset ↔ 0 ≤ n ∧ offset = n := by
  unfold pageOffset
  dsimp only
  split
  · simp
    omega
  · simp [eq_comm]
    omega

theorem listTransactions_ok {limit offset : Int} {page : Page} :
    listTransactions backend self db (.dict filters) (.int limit) (.int offset) = .ok page ↔
      (1 ≤ limit ∧ limit ≤ 500) ∧ (0 ≤ offset ∧ offset ≤ 9223372036854775807) ∧ self.closed = false ∧
        ∃ built, conditions filters = .ok built ∧
          page = ⟨((newestFirst (matching db built)).drop offset.toNat).take limit.toNat,
            (matching db built).length, limit, offset⟩ := by
  simp only [listTransactions, filterDict_dict, ok_bind, bind_eq_ok, pageLimit_ok, pageOffset_ok, reading_ok,
    selectPage, Backend.offset, raiseWhen_ok, decide_eq_false_iff_not, not_lt, pure_eq, Except.ok.injEq]
  constructor
  · rintro ⟨_, ⟨limits, rfl⟩, _, ⟨start, rfl⟩, built, accepted, opened, _, bounded, rfl⟩
    exact ⟨limits, ⟨start, bounded⟩, opened, built, accepted, rfl⟩
  · rintro ⟨limits, ⟨start, bounded⟩, opened, built, accepted, rfl⟩
    exact ⟨limit, ⟨limits, rfl⟩, offset, ⟨start, rfl⟩, built, accepted, opened, (), bounded, rfl⟩

/-- The pages of a query are the windows of one list; a driver binds offsets of 64 bits. -/
def Windows (backend : Backend) (self : GatewayStore) (db : Db Token) (filters : Dict) (limit : Nat)
    (all : List TransactionRow) : Prop :=
  ∀ offset : Nat, offset ≤ 9223372036854775807 →
    ∃ page, listTransactions backend self db (.dict filters) (.int limit) (.int offset) = .ok page ∧
      page.items = (all.drop offset).take limit ∧ page.total = all.length ∧
      (page.items.length < limit ↔ all.length - offset < limit)

/-- A query that answers one page answers every page from the same list. -/
theorem windows_of_ok {limit : Nat} {offset : Int} {page : Page}
    (accepted : listTransactions backend self db (.dict filters) (.int limit) (.int offset) = .ok page) :
    ∃ all, Windows backend self db filters limit all ∧ (∀ record, record ∈ all ↔
        record ∈ db.transactions ∧ Satisfies filters record) ∧
      ((db.transactions.map TransactionRow.id).Nodup → all.Nodup ∧ all.Pairwise Newer) := by
  rcases listTransactions_ok.mp accepted with ⟨limits, -, opened, built, valid, -⟩
  have perm := newestFirst_perm (matching db built)
  refine ⟨newestFirst (matching db built), ?_, ?_, ?_⟩
  · intro offset bounded
    refine ⟨_, listTransactions_ok.mpr ⟨limits, ⟨by omega, by omega⟩, opened, built, valid, rfl⟩, rfl, ?_, ?_⟩
    · exact perm.length_eq.symm
    · simp only [Int.toNat_natCast, List.length_take, List.length_drop]
      omega
  · intro record
    rw [perm.mem_iff, matching, List.mem_filter, conditions_holds record valid]
  · intro distinct
    have kept : ((matching db built).map TransactionRow.id).Nodup :=
      distinct.sublist (List.filter_sublist.map TransactionRow.id)
    exact ⟨perm.nodup_iff.mpr (List.Nodup.of_map _ kept), newestFirst_pairwise kept⟩

/-- The items of one page; a query that raises has none. -/
def pageItems (backend : Backend) (self : GatewayStore) (db : Db Token) (filters : Dict) (limit offset : Nat) :
    List TransactionRow :=
  match listTransactions backend self db (.dict filters) (.int limit) (.int offset) with
  | .ok page => page.items
  | .error _ => []

theorem Windows.pageItems {limit offset : Nat} {all : List TransactionRow}
    (windows : Windows backend self db filters limit all) (bound : offset ≤ 9223372036854775807) :
    pageItems backend self db filters limit offset = (all.drop offset).take limit := by
  rcases windows offset bound with ⟨page, answered, items, -⟩
  unfold Store.pageItems
  rw [answered]
  exact items

theorem Windows.concatenated {limit count : Nat} {all : List TransactionRow}
    (windows : Windows backend self db filters limit all) (bound : ∀ k < count, k * limit ≤ 9223372036854775807) :
    (List.range count).flatMap (fun k => Store.pageItems backend self db filters limit (k * limit)) =
      all.take (count * limit) := by
  rw [← windows_flatMap]
  apply List.flatMap_congr
  intro k listed
  exact windows.pageItems (bound k (List.mem_range.mp listed))

/-- The pages of a query part the matching records, newest first. -/
theorem pages_partition (limit : Nat) {first : Page} (keyed : (db.transactions.map TransactionRow.id).Nodup)
    (accepted : listTransactions backend self db (.dict filters) (.int limit) (.int 0) = .ok first) :
    ∃ all : List TransactionRow,
      (∀ record, record ∈ all ↔ record ∈ db.transactions ∧ Satisfies filters record) ∧ all.Nodup ∧
      all.Pairwise Newer ∧ Windows backend self db filters limit all ∧
      ∀ count, (∀ k < count, k * limit ≤ 9223372036854775807) →
        (List.range count).flatMap (fun k => Store.pageItems backend self db filters limit (k * limit)) =
            all.take (count * limit) ∧
          (all.length ≤ count * limit →
            (List.range count).flatMap (fun k => Store.pageItems backend self db filters limit (k * limit)) = all) := by
  rcases windows_of_ok accepted with ⟨all, windows, selected, sorted⟩
  refine ⟨all, selected, (sorted keyed).1, (sorted keyed).2, windows, ?_⟩
  intro count bound
  have joined := windows.concatenated bound
  refine ⟨joined, ?_⟩
  intro covered
  rw [joined, List.take_of_length_le covered]

theorem pages_partition_bench :
    ∃ all : List TransactionRow, all.Nodup ∧ all.Pairwise Newer ∧
      Windows .sqlite Bench.store Bench.log [("action", .str "static_route.create")] 2 all := by
  have answered : ∃ first, listTransactions .sqlite Bench.store Bench.log
      (.dict [("action", .str "static_route.create")]) (.int 2) (.int 0) = .ok first := ⟨_, rfl⟩
  rcases answered with ⟨first, accepted⟩
  rcases pages_partition 2 (by decide) accepted with ⟨all, -, distinct, sorted, windows, -⟩
  exact ⟨all, distinct, sorted, windows⟩

/-! Time filters. -/

theorem formatUtc_ok {moment : DateTime} {text : String} :
    formatUtc moment = .ok text ↔ ∃ utc, moment.astimezone = some utc ∧ text = utc.format := by
  unfold formatUtc
  cases moment.astimezone with
  | none => simp
  | some utc => simp [eq_comm]

theorem formatUtc_le {a b : DateTime} {first second : String} (one : formatUtc a = .ok first)
    (other : formatUtc b = .ok second) : first ≤ second ↔ a.instant ≤ b.instant := by
  rcases formatUtc_ok.mp one with ⟨start, moved, rfl⟩
  rcases formatUtc_ok.mp other with ⟨ending, shifted, rfl⟩
  have begins := DateTime.astimezone_spec moved
  have ends := DateTime.astimezone_spec shifted
  rw [UtcTime.format_le_format begins.1 ends.1, ← begins.2, ← ends.2, Int.ofNat_le]

theorem parseFilterTimestamp_ok {text label start : String} :
    parseFilterTimestamp (.str text) label = .ok start ↔
      ∃ moment, DateTime.fromisoformat (isoText text) = some moment ∧ formatUtc moment = .ok start := by
  unfold parseFilterTimestamp
  dsimp only
  cases DateTime.fromisoformat (isoText text) with
  | none => simp
  | some moment => simp

theorem condition_checked {α : Type} {key text : String} {check : Value → Except PyError α}
    {build : α → Condition} {built : List Condition} (accepted : condition filters key check build = .ok built)
    (given : Dict.get filters key = .str text) : ∃ checked, check (.str text) = .ok checked := by
  unfold condition at accepted
  rw [given] at accepted
  simp only [reduceCtorEq, if_false, bind_eq_ok] at accepted
  rcases accepted with ⟨checked, valid, -⟩
  exact ⟨checked, valid⟩

theorem conditions_timestamps {built : List Condition} (accepted : conditions filters = .ok built) {text : String} :
    (Dict.get filters "since" = .str text → ∃ start, parseFilterTimestamp (.str text) "since" = .ok start) ∧
      (Dict.get filters "until" = .str text → ∃ ending, parseFilterTimestamp (.str text) "until" = .ok ending) := by
  simp only [conditions, bind_eq_ok] at accepted
  rcases accepted with ⟨_, -, _, since, _, upTo, -⟩
  exact ⟨condition_checked since, condition_checked upTo⟩

/-- The instants of the log's records, as their stamps print them. -/
def Stamped (db : Db Token) (time : TransactionRow → UtcTime) : Prop :=
  ∀ record ∈ db.transactions, (time record).Valid ∧ record.timestampUtc = (time record).format

theorem parsed_moment {text label printed : String} (parsed : parseFilterTimestamp (.str text) label = .ok printed) :
    ∃ (moment : DateTime) (utc : UtcTime), DateTime.fromisoformat (isoText text) = some moment ∧
      printed = utc.format ∧ utc.Valid ∧ (utc.instant : Int) = moment.instant := by
  rcases parseFilterTimestamp_ok.mp parsed with ⟨moment, read, formatted⟩
  rcases formatUtc_ok.mp formatted with ⟨utc, moved, same⟩
  have spec := DateTime.astimezone_spec moved
  exact ⟨moment, utc, read, same, spec.1, spec.2⟩

theorem since_iff {text label : String} {t : UtcTime} (proper : t.Valid)
    (accepted : ∃ start, parseFilterTimestamp (.str text) label = .ok start) :
    (∀ start, parseFilterTimestamp (.str text) label = .ok start → start ≤ t.format) ↔
      ∃ moment, DateTime.fromisoformat (isoText text) = some moment ∧ moment.instant ≤ t.instant := by
  rcases accepted with ⟨start, parsed⟩
  rcases parsed_moment parsed with ⟨moment, utc, read, rfl, valid, same⟩
  rw [parsed, read]
  simp only [Except.ok.injEq, forall_eq', Option.some.injEq, exists_eq_left', UtcTime.format_le_format valid proper,
    ← same, Int.ofNat_le]

theorem until_iff {text label : String} {t : UtcTime} (proper : t.Valid)
    (accepted : ∃ ending, parseFilterTimestamp (.str text) label = .ok ending) :
    (∀ ending, parseFilterTimestamp (.str text) label = .ok ending → t.format ≤ ending) ↔
      ∃ moment, DateTime.fromisoformat (isoText text) = some moment ∧ (t.instant : Int) ≤ moment.instant := by
  rcases accepted with ⟨ending, parsed⟩
  rcases parsed_moment parsed with ⟨moment, utc, read, rfl, valid, same⟩
  rw [parsed, read]
  simp only [Except.ok.injEq, forall_eq', Option.some.injEq, exists_eq_left', UtcTime.format_le_format proper valid,
    ← same, Int.ofNat_le]

/-- A clock that reads proper times stamps every record with one of them. -/
theorem run_stamped (P : Platform Token) {calls : List Call} (clock : ∀ call ∈ calls, call.fresh.now.Valid) :
    ∃ time, Stamped (run (after P) Db.empty calls) time := by
  have each : ∀ record ∈ (run (after P) Db.empty calls).transactions,
      ∃ t : UtcTime, t.Valid ∧ record.timestampUtc = t.format := by
    apply run_invariant_allowed
      (fun db : Db Token => ∀ record ∈ db.transactions, ∃ t : UtcTime, t.Valid ∧ record.timestampUtc = t.format)
      (fun call : Call => call.fresh.now.Valid)
    · intro call db reads held record listed
      cases (after_change P call db).appends with
      | kept same =>
          rw [same] at listed
          exact held record listed
      | appended new same _ stamped =>
          rw [same, List.mem_append, List.mem_singleton] at listed
          rcases listed with before | rfl
          · exact held record before
          · exact ⟨_, reads, stamped⟩
    · intro record listed
      cases listed
    · exact clock
  have choice : ∀ record : TransactionRow, ∃ t : UtcTime,
      record ∈ (run (after P) Db.empty calls).transactions → t.Valid ∧ record.timestampUtc = t.format := by
    intro record
    by_cases listed : record ∈ (run (after P) Db.empty calls).transactions
    · rcases each record listed with ⟨t, proper⟩
      exact ⟨t, fun _ => proper⟩
    · exact ⟨⟨0, 0, 0, 0, 0, 0, 0⟩, fun member => absurd member listed⟩
  choose time stamps using choice
  exact ⟨time, stamps⟩

/-- Stamps are ordered as their instants, every log that is written under a proper clock is stamped, and the time
filters of a stamped log select by instants. -/
theorem time_filters_exact (limit : Nat) {first : Page} {time : TransactionRow → UtcTime} (stamped : Stamped db time)
    (accepted : listTransactions backend self db (.dict filters) (.int limit) (.int 0) = .ok first) :
    (∀ a b : DateTime, ∀ one other, formatUtc a = .ok one → formatUtc b = .ok other →
      (one ≤ other ↔ a.instant ≤ b.instant)) ∧
    (∀ (P : Platform Token) (calls : List Call), (∀ call ∈ calls, call.fresh.now.Valid) →
      ∃ time, Stamped (run (after P) Db.empty calls) time) ∧
    ∃ all : List TransactionRow, Windows backend self db filters limit all ∧ ∀ record, record ∈ all ↔
      record ∈ db.transactions ∧ ColumnsMatch filters record ∧
      (∀ text, Dict.get filters "since" = .str text → ∃ moment,
        DateTime.fromisoformat (isoText text) = some moment ∧ moment.instant ≤ (time record).instant) ∧
      (∀ text, Dict.get filters "until" = .str text → ∃ moment,
        DateTime.fromisoformat (isoText text) = some moment ∧ (time record).instant ≤ moment.instant) := by
  refine ⟨fun a b one other => formatUtc_le, fun P calls clock => run_stamped P clock, ?_⟩
  rcases windows_of_ok accepted with ⟨all, windows, selected, -⟩
  rcases listTransactions_ok.mp accepted with ⟨-, -, -, built, valid, -⟩
  refine ⟨all, windows, ?_⟩
  intro record
  rw [selected]
  apply and_congr_right
  intro listed
  rcases stamped record listed with ⟨proper, stamp⟩
  constructor
  · intro satisfied
    refine ⟨satisfied.columns, ?_, ?_⟩
    · intro text given
      apply (since_iff proper ((conditions_timestamps valid).1 given)).mp
      intro start parsed
      rw [← stamp]
      exact satisfied.since text start given parsed
    · intro text given
      apply (until_iff proper ((conditions_timestamps valid).2 given)).mp
      intro ending parsed
      rw [← stamp]
      exact satisfied.upTo text ending given parsed
  · intro within
    refine ⟨within.1, ?_, ?_⟩
    · intro text start given parsed
      rw [stamp]
      exact (since_iff proper ⟨start, parsed⟩).mpr (within.2.1 text given) start parsed
    · intro text ending given parsed
      rw [stamp]
      exact (until_iff proper ⟨ending, parsed⟩).mpr (within.2.2 text given) ending parsed

/-- The next day begins in UTC one hour after it does one hour east. -/
theorem time_filters_exact_bench :
    ∃ all : List TransactionRow, Bench.logged "c" ⟨2026, 1, 10, 0, 0, 0, 0⟩ ∈ all ∧
      Windows .sqlite Bench.store Bench.log [("since", .str "2026-01-10T01:00+01:00")] 2 all := by
  have answered : ∃ first, listTransactions .sqlite Bench.store Bench.log
      (.dict [("since", .str "2026-01-10T01:00+01:00")]) (.int 2) (.int 0) = .ok first := ⟨_, rfl⟩
  rcases answered with ⟨first, accepted⟩
  have stamped : Stamped Bench.log (fun record =>
      if record.id = "c" then ⟨2026, 1, 10, 0, 0, 0, 0⟩ else ⟨2026, 1, 9, 7, 5, 0, 0⟩) := by
    intro record listed
    simp only [Bench.log, List.mem_cons, List.not_mem_nil, or_false] at listed
    rcases listed with rfl | rfl | rfl <;> exact ⟨by decide, rfl⟩
  rcases (time_filters_exact 2 stamped accepted).2.2 with ⟨all, windows, selected⟩
  refine ⟨all, (selected _).mpr ⟨by simp [Bench.log], ?_, ?_, ?_⟩, windows⟩
  · constructor <;> (intro text given; cases given)
  · intro text given
    cases given
    exact ⟨_, rfl, by decide⟩
  · intro text given
    cases given

/-! The log of a run. -/

theorem Appends.keyed {fresh : Fresh} {log later : List TransactionRow} (appends : Appends fresh log later)
    (distinct : (log.map TransactionRow.id).Nodup) : (later.map TransactionRow.id).Nodup := by
  cases appends with
  | kept same =>
      rw [same]
      exact distinct
  | appended record same unused _ =>
      rw [same, List.map_append, List.nodup_append]
      refine ⟨distinct, List.nodup_singleton _, ?_⟩
      intro id held other new
      rcases List.mem_map.mp held with ⟨row, listed, rfl⟩
      rw [List.map_singleton, List.mem_singleton] at new
      rw [new]
      exact unused row listed

theorem run_keyed (P : Platform Token) (calls : List Call) :
    ((run (after P) Db.empty calls).transactions.map TransactionRow.id).Nodup := by
  apply run_invariant (fun db : Db Token => (db.transactions.map TransactionRow.id).Nodup)
  · intro call db distinct
    exact (after_change P call db).appends.keyed distinct
  · exact List.nodup_nil

/-! Errors of a query. -/

def Refused (error : PyError) : Prop := ∃ message, error = .store message 400

def Declared {α : Type} (outcome : Except PyError α) : Prop := ∀ error, outcome = .error error → Refused error

theorem declared_bind {α β : Type} {x : Except PyError α} {f : α → Except PyError β} :
    Declared (x >>= f) ↔ Declared x ∧ ∀ a, x = .ok a → Declared (f a) := by
  cases x with
  | ok a => simp [Declared]
  | error e => simp [Declared]

theorem declared_ok {α : Type} (a : α) : Declared (.ok a : Except PyError α) := by
  intro error raised
  cases raised

theorem declared_condition {α : Type} {key : String} {check : Value → Except PyError α} {build : α → Condition} :
    Declared (condition filters key check build) ↔
      (Dict.get filters key ≠ .none → Declared (check (Dict.get filters key))) := by
  unfold condition
  split
  · rename_i absent
    exact ⟨fun _ given => absurd absent given, fun _ => declared_ok []⟩
  · rename_i given
    rw [declared_bind]
    exact ⟨fun both _ => both.1, fun checks => ⟨checks given, fun value _ => declared_ok [build value]⟩⟩

theorem declared_invalid {α : Type} (message : String) : Declared (.error (invalid message) : Except PyError α) := by
  intro error raised
  exact ⟨message, (Except.error.inj raised).symm⟩

theorem declared_validateUuid (given label : String) : Declared (validateUuid (.str given) label) := by
  unfold validateUuid
  dsimp only
  split
  · exact declared_ok _
  · exact declared_invalid _

theorem declared_text (given label : String) (limit : Nat) : Declared (text (.str given) label false limit) := by
  unfold text
  dsimp only
  split
  · exact declared_invalid _
  · exact declared_ok given

theorem declared_outcomeFilter (given : String) : Declared (outcomeFilter (.str given)) := by
  unfold outcomeFilter
  rw [declared_bind]
  refine ⟨declared_ok (), ?_⟩
  intro _ _
  split
  · exact declared_ok _
  · split
    · exact declared_ok _
    · exact declared_invalid _

def Texts (filters : Dict) : Prop := ∀ entry ∈ filters, entry.2.isStr = true

theorem Texts.get (texts : Texts filters) {key : String} (given : Dict.get filters key ≠ .none) :
    ∃ text, Dict.get filters key = .str text := by
  rw [Dict.get_eq] at *
  cases found : filters.lookup key with
  | none =>
      rw [found] at given
      exact absurd rfl given
  | some value =>
      rcases List.lookup_eq_some_iff.mp found with ⟨before, after, split, -⟩
      have isText := texts (key, value) (by simp [split])
      cases value with
      | str text => exact ⟨text, rfl⟩
      | none | bool | int | float | list | dict => cases isText

theorem declared_columnConditions (texts : Texts filters) : Declared (columnConditions filters) := by
  have check : ∀ {α : Type} {key : String} {check : Value → Except PyError α} {build : α → Condition},
      (∀ text, Declared (check (.str text))) → Declared (condition filters key check build) := by
    intro α key check build declared
    apply declared_condition.mpr
    intro given
    rcases texts.get given with ⟨text, same⟩
    rw [same]
    exact declared text
  unfold columnConditions
  apply declared_bind.mpr ⟨check (fun text => declared_validateUuid text _), fun _ _ => ?_⟩
  apply declared_bind.mpr ⟨check (fun given => declared_text given _ _), fun _ _ => ?_⟩
  apply declared_bind.mpr ⟨check (fun given => declared_text given _ _), fun _ _ => ?_⟩
  apply declared_bind.mpr ⟨check (fun given => declared_text given _ _), fun _ _ => ?_⟩
  apply declared_bind.mpr ⟨check declared_outcomeFilter, fun _ _ => ?_⟩
  exact declared_ok _

/-- The filter is absent or a text `fromisoformat` reads. -/
def Readable (filters : Dict) (key : String) : Prop :=
  ∀ text, Dict.get filters key = .str text → (DateTime.fromisoformat (isoText text)).isSome = true

def OnCalendar (filters : Dict) (key : String) : Prop :=
  ∀ text moment, Dict.get filters key = .str text → DateTime.fromisoformat (isoText text) = some moment →
    UtcTime.Covered moment.instant

theorem parseFilterTimestamp_cases (given label : String) :
    (DateTime.fromisoformat (isoText given) = none ∧
        ∃ message, parseFilterTimestamp (.str given) label = .error (invalid message)) ∨
      ∃ moment, DateTime.fromisoformat (isoText given) = some moment ∧
        ((∃ printed, UtcTime.Covered moment.instant ∧ parseFilterTimestamp (.str given) label = .ok printed) ∨
          ¬UtcTime.Covered moment.instant ∧ parseFilterTimestamp (.str given) label = .error .overflow) := by
  unfold parseFilterTimestamp
  dsimp only
  cases DateTime.fromisoformat (isoText given) with
  | none => exact .inl ⟨rfl, _, rfl⟩
  | some moment =>
      refine .inr ⟨moment, rfl, ?_⟩
      dsimp only
      unfold formatUtc
      cases moved : moment.astimezone with
      | none => exact .inr ⟨DateTime.astimezone_none.mp moved, rfl⟩
      | some utc =>
          refine .inl ⟨_, ?_, rfl⟩
          by_contra off
          rw [DateTime.astimezone_none.mpr off] at moved
          cases moved

theorem not_refused_overflow : ¬Refused .overflow := by
  rintro ⟨message, same⟩
  cases same

theorem declared_time (key label : String) (build : String → Condition) (texts : Texts filters) :
    Declared (condition filters key (parseFilterTimestamp · label) build) ↔ OnCalendar filters key := by
  rw [declared_condition]
  constructor
  · intro declared text moment given read
    have outcome := declared (by rw [given]; exact Value.noConfusion)
    rw [given] at outcome
    rcases parseFilterTimestamp_cases text label with ⟨unread, -⟩ | ⟨other, reread, ⟨_, covered, -⟩ | ⟨_, raised⟩⟩
    · rw [unread] at read
      cases read
    · rw [read] at reread
      rw [Option.some.inj reread]
      exact covered
    · exact absurd (outcome _ raised) not_refused_overflow
  · intro calendar given
    rcases texts.get given with ⟨text, same⟩
    rw [same]
    rcases parseFilterTimestamp_cases text label with ⟨-, _, raised⟩ | ⟨moment, read, ⟨_, -, parsed⟩ | ⟨off, -⟩⟩
    · rw [raised]
      exact declared_invalid _
    · rw [parsed]
      exact declared_ok _
    · exact absurd (calendar text moment same read) off

theorem time_ok (key label : String) (build : String → Condition) (texts : Texts filters)
    (calendar : OnCalendar filters key) :
    (∃ built, condition filters key (parseFilterTimestamp · label) build = .ok built) ↔ Readable filters key := by
  constructor
  · rintro ⟨built, accepted⟩ text given
    rcases condition_checked accepted given with ⟨printed, parsed⟩
    rcases parsed_moment parsed with ⟨moment, _, read, -⟩
    rw [read]
    rfl
  · intro readable
    unfold condition
    split
    · exact ⟨[], rfl⟩
    · rename_i given
      rcases texts.get given with ⟨text, same⟩
      rw [same]
      rcases parseFilterTimestamp_cases text label with ⟨unread, -⟩ | ⟨moment, read, ⟨printed, -, parsed⟩ | ⟨off, -⟩⟩
      · have reads := readable text same
        rw [unread] at reads
        cases reads
      · exact ⟨[build printed], (congrArg (· >>= fun value => .ok [build value]) parsed).trans rfl⟩
      · exact absurd (calendar text moment same read) off

theorem declared_selectPage {built : List Condition} {limit offset : Int} (opened : self.closed = false) :
    Declared (reading self (selectPage backend db built limit offset)) ↔ offset ≤ 9223372036854775807 := by
  unfold reading selectPage Backend.offset raiseWhen
  rw [opened]
  by_cases large : 9223372036854775807 < offset
  · have wide : ¬offset ≤ 9223372036854775807 := by omega
    have not503 : ¬Refused (.store "Gateway database operation failed." 503) := by
      rintro ⟨message, same⟩
      cases same
    cases backend with
    | sqlite => simp [large, wide, Declared, translate, not_refused_overflow]
    | postgresql => simp [large, wide, Declared, translate, not503]
  · have narrow : offset ≤ 9223372036854775807 := by omega
    simp [large, narrow, declared_ok]

/-- The filters and the offset stay where the library calls are total, unless a
check made earlier refuses the query. -/
def WithinDomains (filters : Dict) (limit offset : Int) : Prop :=
  1 ≤ limit ∧ limit ≤ 500 → 0 ≤ offset → (∃ built, columnConditions filters = .ok built) →
    OnCalendar filters "since" ∧ (Readable filters "since" →
      OnCalendar filters "until" ∧ (Readable filters "until" → offset ≤ 9223372036854775807))

theorem declared_pageLimit (n : Int) : Declared (pageLimit (.int n)) := by
  unfold pageLimit
  dsimp only
  split
  · exact declared_ok n
  · exact declared_invalid _

theorem declared_pageOffset (n : Int) : Declared (pageOffset (.int n)) := by
  unfold pageOffset
  dsimp only
  split
  · exact declared_invalid _
  · exact declared_ok n

theorem declared_conditions (texts : Texts filters) :
    Declared (conditions filters) ↔ ((∃ built, columnConditions filters = .ok built) →
      OnCalendar filters "since" ∧ (Readable filters "since" → OnCalendar filters "until")) := by
  unfold conditions
  simp only [declared_bind, declared_columnConditions texts, declared_time "since" "since" .since texts,
    declared_time "until" "until" .upTo texts, pure_eq, declared_ok, implies_true, and_true, true_and]
  constructor
  · rintro declared ⟨built, accepted⟩
    refine ⟨(declared built accepted).1, ?_⟩
    intro readable
    rcases (time_ok "since" "since" .since texts (declared built accepted).1).mpr readable with ⟨starts, parsed⟩
    exact (declared built accepted).2 starts parsed
  · intro calendars built accepted
    refine ⟨(calendars ⟨built, accepted⟩).1, ?_⟩
    intro starts parsed
    exact (calendars ⟨built, accepted⟩).2 ((time_ok "since" "since" .since texts (calendars ⟨built, accepted⟩).1).mp
      ⟨starts, parsed⟩)

theorem conditions_some (texts : Texts filters) (since : OnCalendar filters "since")
    (upTo : OnCalendar filters "until") :
    (∃ built, conditions filters = .ok built) ↔
      (∃ built, columnConditions filters = .ok built) ∧ Readable filters "since" ∧ Readable filters "until" := by
  rw [← time_ok "since" "since" .since texts since, ← time_ok "until" "until" .upTo texts upTo]
  unfold conditions
  simp only [bind_eq_ok, pure_eq, Except.ok.injEq]
  constructor
  · rintro ⟨_, columns, column, starts, parsed, ends, read, -⟩
    exact ⟨⟨columns, column⟩, ⟨starts, parsed⟩, ends, read⟩
  · rintro ⟨⟨columns, column⟩, ⟨starts, parsed⟩, ends, read⟩
    exact ⟨_, columns, column, starts, parsed, ends, read, rfl⟩

theorem conditions_readable {built : List Condition} (accepted : conditions filters = .ok built) :
    Readable filters "since" ∧ Readable filters "until" := by
  have reads : ∀ {text label printed : String}, parseFilterTimestamp (.str text) label = .ok printed →
      (DateTime.fromisoformat (isoText text)).isSome = true := by
    intro text label printed parsed
    rcases parsed_moment parsed with ⟨moment, _, read, -⟩
    rw [read]
    rfl
  constructor
  · intro text given
    rcases (conditions_timestamps accepted).1 given with ⟨start, parsed⟩
    exact reads parsed
  · intro text given
    rcases (conditions_timestamps accepted).2 given with ⟨ending, parsed⟩
    exact reads parsed

/-- A query returns a page or is refused with status 400 exactly within the domains
of the calls behind it. -/
theorem declared_listTransactions {limit offset : Int} (texts : Texts filters) (opened : self.closed = false) :
    Declared (listTransactions backend self db (.dict filters) (.int limit) (.int offset)) ↔
      WithinDomains filters limit offset := by
  unfold listTransactions WithinDomains
  rw [filterDict_dict, ok_bind]
  simp only [declared_bind, declared_pageLimit, pageLimit_ok, declared_pageOffset, pageOffset_ok, true_and,
    declared_selectPage opened, declared_conditions texts]
  constructor
  · intro declared limits start columns
    have checks := declared limit ⟨limits, rfl⟩ offset ⟨start, rfl⟩
    refine ⟨(checks.1 columns).1, ?_⟩
    intro since
    refine ⟨(checks.1 columns).2 since, ?_⟩
    intro upTo
    rcases (conditions_some texts (checks.1 columns).1 ((checks.1 columns).2 since)).mpr
      ⟨columns, since, upTo⟩ with ⟨built, accepted⟩
    exact checks.2 built accepted
  · rintro within _ ⟨limits, rfl⟩ _ ⟨start, rfl⟩
    have domains := within limits start
    refine ⟨fun columns => ⟨(domains columns).1, fun since => ((domains columns).2 since).1⟩, ?_⟩
    intro built accepted
    have columns : ∃ built, columnConditions filters = .ok built := by
      simp only [conditions, bind_eq_ok] at accepted
      rcases accepted with ⟨columns, column, -⟩
      exact ⟨columns, column⟩
    have readable := conditions_readable accepted
    exact ((domains columns).2 readable.1).2 readable.2

/-- One hour east of the first midnight lies before the calendar. -/
theorem listTransactions_overflow :
    ¬Declared (listTransactions .sqlite Bench.store (Db.empty : Db Platform.SealedToken)
      (.dict [("since", .str "0001-01-01T00:00:00+01:00")]) (.int 50) (.int 0)) := by
  intro declared
  exact not_refused_overflow (declared .overflow rfl)

end

end NetworkGateway.Store

namespace NetworkGateway.Transactions

open Store

/-! The service and the route in front of the log. -/

theorem Query.filters_texts (query : Query) : Texts query.filters := by
  intro entry listed
  rcases List.mem_filterMap.mp listed with ⟨⟨key, value⟩, -, given⟩
  rcases Option.map_eq_some_iff.mp given with ⟨text, -, rfl⟩
  rfl

theorem storeCall_badRequest {α : Type} {outcome : Except PyError α} :
    (∀ error, Management.storeCall outcome = .error error → error.statusCode = 400) ↔ Declared outcome := by
  cases outcome with
  | ok result => simp [Management.storeCall, declared_ok]
  | error error =>
      simp only [Management.storeCall, Except.error.injEq, forall_eq', Declared, Refused]
      constructor
      · intro status
        cases error with
        | store message code =>
            refine ⟨message, ?_⟩
            have same : code = 400 := by
              unfold Management.managementError Management.statusCode at status
              dsimp only at status
              split at status
              · exact status
              · cases status
            rw [same]
        | _ => cases status
      · rintro ⟨message, rfl⟩
        rfl

/-- The log's queries return or are refused as bad requests exactly within the domains of
the calls behind them, in the store and behind the route. -/
theorem queries_fail_as_declared {Token : Type} (backend : Backend) (store : GatewayStore) (db : Db Token)
    (opened : store.closed = false) :
    (∀ filters limit offset, Texts filters →
      (Declared (listTransactions backend store db (.dict filters) (.int limit) (.int offset)) ↔
        WithinDomains filters limit offset)) ∧
    ∀ query : Query, query.Accepted →
      ((∀ error, list backend store db query = .error error → error.statusCode = 400) ↔
        ((∃ built, columnConditions query.filters = .ok built) →
          OnCalendar query.filters "since" ∧ (Readable query.filters "since" →
            OnCalendar query.filters "until" ∧
              (Readable query.filters "until" → query.offset ≤ 9223372036854775807)))) := by
  refine ⟨fun filters limit offset texts => declared_listTransactions texts opened, ?_⟩
  intro query accepted
  have limits : 1 ≤ query.limit ∧ query.limit ≤ 500 := by
    have within := accepted.limit
    omega
  unfold list
  rw [storeCall_badRequest, declared_listTransactions query.filters_texts opened]
  exact ⟨fun within => within limits accepted.offset, fun within _ _ => within⟩

theorem queries_fail_as_declared_bench :
    Declared (listTransactions .postgresql Bench.store Bench.log (.dict [("actor_subject", .str "alice")])
      (.int 50) (.int 0)) := by
  apply ((queries_fail_as_declared .postgresql Bench.store Bench.log rfl).1 _ _ _
    (by simp [Texts, Value.isStr])).mpr
  have absent : OnCalendar [("actor_subject", .str "alice")] "since" ∧
      OnCalendar [("actor_subject", .str "alice")] "until" := by
    constructor <;> (intro text moment given; cases given)
  intro _ _ _
  exact ⟨absent.1, fun _ => ⟨absent.2, fun _ => by decide⟩⟩

end NetworkGateway.Transactions
