import Mathlib.Data.List.Induction
import NetworkGateway.Proofs.Checks
import NetworkGateway.Proofs.TransactionLog

/-! The listing of the transaction log against the order of its commits and against the
payloads its records were made from. -/

namespace NetworkGateway.Store

open Library.Dict Library.Result Library.Run

/-! The order of commits. -/

/-- Readings of a clock that never runs backwards, one for each call. -/
structure SteadyClock (calls : List Call) : Prop where
  valid : ∀ call ∈ calls, call.fresh.now.Valid
  forward : calls.Pairwise (fun earlier later => earlier.fresh.now.instant ≤ later.fresh.now.instant)

/-- Records of one timestamp have ids that grow in the order of their commits. -/
def TiesOrdered {Token : Type} (db : Db Token) : Prop :=
  db.transactions.Pairwise (fun earlier later => earlier.timestampUtc = later.timestampUtc → earlier.id < later.id)

/-- Every page without filters is a window of the log read backwards. -/
def LastCommittedFirst {Token : Type} (backend : Backend) (self : GatewayStore) (db : Db Token) : Prop :=
  ∀ limit offset page, listTransactions backend self db .none (.int limit) (.int offset) = .ok page →
    page.items = (db.transactions.reverse.drop offset.toNat).take limit.toNat

section

variable {Token : Type} {P : Platform Token} {backend : Backend} {self : GatewayStore} {db : Db Token}

/-- Every record of the log carries the reading of one of the calls. -/
theorem run_readings (calls : List Call) :
    ∀ record ∈ (run (after P) Db.empty calls).transactions,
      ∃ call ∈ calls, record.timestampUtc = call.fresh.now.format := by
  induction calls using List.reverseRecOn with
  | nil =>
      intro record listed
      exact absurd listed List.not_mem_nil
  | append_singleton calls call ih =>
      intro record listed
      rw [run_append, run_cons, run_nil] at listed
      have kept : ∀ record ∈ (run (after P) Db.empty calls).transactions,
          ∃ call' ∈ calls ++ [call], record.timestampUtc = call'.fresh.now.format := by
        intro record held
        rcases ih record held with ⟨before, member, stamped⟩
        exact ⟨before, List.mem_append_left _ member, stamped⟩
      cases (after_change P call (run (after P) Db.empty calls)).appends with
      | kept same =>
          rw [same] at listed
          exact kept record listed
      | appended new same _ stamped =>
          rw [same, List.mem_append, List.mem_singleton] at listed
          rcases listed with before | rfl
          · exact kept record before
          · exact ⟨call, by simp, stamped⟩

theorem run_sorted (calls : List Call) (clock : SteadyClock calls) :
    (run (after P) Db.empty calls).transactions.Pairwise
      (fun earlier later => earlier.timestampUtc ≤ later.timestampUtc) := by
  induction calls using List.reverseRecOn with
  | nil => exact List.Pairwise.nil
  | append_singleton calls call ih =>
      have parts := List.pairwise_append.mp clock.forward
      have before : SteadyClock calls :=
        ⟨fun held member => clock.valid held (List.mem_append_left _ member), parts.1⟩
      have sorted := ih before
      rw [run_append, run_cons, run_nil]
      cases (after_change P call (run (after P) Db.empty calls)).appends with
      | kept same =>
          rw [same]
          exact sorted
      | appended new same _ stamped =>
          rw [same, List.pairwise_append]
          refine ⟨sorted, List.pairwise_singleton _ _, ?_⟩
          intro record held other last
          rw [List.mem_singleton.mp last, stamped]
          rcases run_readings calls record held with ⟨earlier, member, reading⟩
          rw [reading, UtcTime.format_le_format (before.valid earlier member) (clock.valid call (by simp))]
          exact parts.2.2 earlier member call (List.mem_singleton_self call)

theorem newer_asymm {a b : TransactionRow} (first : Newer a b) (second : Newer b a) : a = b := by
  rcases first with later | ⟨same, below⟩
  · rcases second with earlier | ⟨equal, -⟩
    · exact absurd (lt_trans later earlier) (lt_irrefl _)
    · rw [equal] at later
      exact absurd later (lt_irrefl _)
  · rcases second with earlier | ⟨-, above⟩
    · rw [same] at earlier
      exact absurd earlier (lt_irrefl _)
    · exact absurd (lt_trans below above) (lt_irrefl _)

/-- A sorted log is listed backwards exactly when its ties are ordered. -/
theorem newestFirst_reverse {rows : List TransactionRow} (distinct : (rows.map TransactionRow.id).Nodup)
    (sorted : rows.Pairwise (fun earlier later => earlier.timestampUtc ≤ later.timestampUtc)) :
    newestFirst rows = rows.reverse ↔
      rows.Pairwise (fun earlier later => earlier.timestampUtc = later.timestampUtc → earlier.id < later.id) := by
  constructor
  · intro same
    have listed := newestFirst_pairwise distinct
    rw [same, List.pairwise_reverse] at listed
    apply listed.imp
    intro earlier later newer equal
    rcases newer with less | ⟨-, below⟩
    · rw [equal] at less
      exact absurd less (lt_irrefl _)
    · exact below
  · intro ties
    have perm : (newestFirst rows).Perm rows.reverse := (newestFirst_perm rows).trans (List.reverse_perm rows).symm
    have backwards : rows.reverse.Pairwise Newer := by
      rw [List.pairwise_reverse]
      apply (sorted.and ties).imp
      intro earlier later both
      rcases lt_or_eq_of_le both.1 with less | equal
      · exact .inl less
      · exact .inr ⟨equal.symm, both.2 equal⟩
    exact perm.eq_of_pairwise (fun _ _ _ _ => newer_asymm) (newestFirst_pairwise distinct) backwards

theorem unfiltered_ok {limit offset : Int} {page : Page} :
    listTransactions backend self db .none (.int limit) (.int offset) = .ok page ↔
      (1 ≤ limit ∧ limit ≤ 500) ∧ (0 ≤ offset ∧ offset ≤ 9223372036854775807) ∧ self.closed = false ∧
        page = ⟨((newestFirst db.transactions).drop offset.toNat).take limit.toNat,
          db.transactions.length, limit, offset⟩ := by
  have same : listTransactions backend self db .none (.int limit) (.int offset) =
      listTransactions backend self db (.dict []) (.int limit) (.int offset) := rfl
  have all : matching db [] = db.transactions := List.filter_true _
  have none : ∀ built, conditions [] = .ok built ↔ built = [] := by
    intro built
    exact ⟨fun accepted => (Except.ok.inj accepted).symm, fun same => by rw [same]; rfl⟩
  rw [same, listTransactions_ok]
  simp only [none, exists_eq_left, all]

theorem listing_of_pages (opened : self.closed = false) (addressed : db.transactions.length ≤ 9223372036854775808)
    (pages : LastCommittedFirst backend self db) : newestFirst db.transactions = db.transactions.reverse := by
  apply List.ext_getElem?
  intro i
  by_cases inside : i < db.transactions.length
  · have page := pages 1 i _ (unfiltered_ok.mpr ⟨by omega, by omega, opened, rfl⟩)
    have first := congrArg (fun items : List TransactionRow => items[0]?) page
    simpa using first
  · have short : (newestFirst db.transactions).length = db.transactions.length := (newestFirst_perm _).length_eq
    rw [List.getElem?_eq_none (by omega), List.getElem?_eq_none (by rw [List.length_reverse]; omega)]

/-- The log of a run is listed last committed first exactly when records of one timestamp happen to have
ids in the order of their commits. -/
theorem listed_last_committed_first (calls : List Call) (clock : SteadyClock calls) (backend : Backend)
    (self : GatewayStore) :
    (TiesOrdered (run (after P) Db.empty calls) → LastCommittedFirst backend self (run (after P) Db.empty calls)) ∧
      (self.closed = false → (run (after P) Db.empty calls).transactions.length ≤ 9223372036854775808 →
        LastCommittedFirst backend self (run (after P) Db.empty calls) → TiesOrdered (run (after P) Db.empty calls)) := by
  have order := newestFirst_reverse (run_keyed P calls) (run_sorted calls clock)
  constructor
  · intro ties limit offset page answered
    rcases unfiltered_ok.mp answered with ⟨-, -, -, rfl⟩
    rw [order.mpr ties]
  · intro opened addressed pages
    exact order.mp (listing_of_pages opened addressed pages)

end

def entry (action : String) : Dict :=
  [("actor_subject", .str "alice"), ("actor_name", .str "Alice"), ("actor_roles", .list [.str "Operator"]),
   ("auth_mode", .str "demo"), ("action", .str action), ("resource_type", .str "static_route"),
   ("outcome", .str "succeeded")]

def appendTwice (first second : UtcTime) (firstId secondId : String) : List Call :=
  [⟨Bench.store, { Bench.fresh "x" with now := first, recordId := firstId },
      .appendTransaction (.dict (entry "static_route.create"))⟩,
   ⟨Bench.store, { Bench.fresh "y" with now := second, recordId := secondId },
      .appendTransaction (.dict (entry "static_route.update"))⟩]

theorem appendTwice_steady {first second : UtcTime} (firstId secondId : String) (valid : first.Valid)
    (other : second.Valid) (forward : first.instant ≤ second.instant) :
    SteadyClock (appendTwice first second firstId secondId) := by
  constructor
  · intro call listed
    simp only [appendTwice, List.mem_cons, List.not_mem_nil, or_false] at listed
    rcases listed with rfl | rfl
    · exact valid
    · exact other
  · simp only [appendTwice, List.pairwise_cons, List.mem_singleton, forall_eq, List.not_mem_nil, false_imp_iff,
      implies_true, List.Pairwise.nil, and_true]
    exact forward

abbrev stamps {Token : Type} (db : Db Token) : List (String × String) :=
  db.transactions.map (fun record => (record.timestampUtc, record.id))

theorem stamps_length {Token : Type} (db : Db Token) : (stamps db).length = db.transactions.length :=
  List.length_map _

theorem tiesOrdered_iff {Token : Type} {db : Db Token} :
    TiesOrdered db ↔ (stamps db).Pairwise (fun earlier later => earlier.1 = later.1 → earlier.2 < later.2) := by
  rw [List.pairwise_map]
  rfl

theorem listed_last_committed_first_bench :
    LastCommittedFirst .sqlite Bench.store (run (after Platform.bench) Db.empty
      (appendTwice ⟨2026, 1, 9, 7, 5, 0, 0⟩ ⟨2026, 1, 9, 7, 5, 0, 1⟩ "b" "a")) := by
  apply (listed_last_committed_first _ (appendTwice_steady "b" "a" (by decide) (by decide) (by decide)) _ _).1
  have log : stamps (run (after Platform.bench) Db.empty
      (appendTwice ⟨2026, 1, 9, 7, 5, 0, 0⟩ ⟨2026, 1, 9, 7, 5, 0, 1⟩ "b" "a")) =
        [("2026-01-09T07:05:00.000000Z", "b"), ("2026-01-09T07:05:00.000001Z", "a")] := by decide +kernel
  rw [tiesOrdered_iff, log]
  simp

/-- Two records of one clock reading: the second is listed after the first where its id is the smaller one. -/
theorem tie_listed_backwards :
    ∃ calls, SteadyClock calls ∧
      ¬LastCommittedFirst .sqlite Bench.store (run (after Platform.bench) Db.empty calls) := by
  have clock : SteadyClock (appendTwice ⟨2026, 1, 9, 7, 5, 0, 0⟩ ⟨2026, 1, 9, 7, 5, 0, 0⟩ "b" "a") :=
    appendTwice_steady "b" "a" (by decide) (by decide) (by decide)
  refine ⟨_, clock, ?_⟩
  have log : stamps (run (after Platform.bench) Db.empty
      (appendTwice ⟨2026, 1, 9, 7, 5, 0, 0⟩ ⟨2026, 1, 9, 7, 5, 0, 0⟩ "b" "a")) =
        [("2026-01-09T07:05:00.000000Z", "b"), ("2026-01-09T07:05:00.000000Z", "a")] := by decide +kernel
  have length := congrArg List.length log
  rw [stamps_length] at length
  intro pages
  have listed := listing_of_pages rfl (length.trans_le (by decide)) pages
  have ties := (newestFirst_reverse (run_keyed _ _) (run_sorted _ clock)).mp listed
  have ordered := tiesOrdered_iff.mp ties
  rw [log, List.pairwise_pair] at ordered
  exact absurd (ordered rfl) (by decide)

/-! Records and the payloads they were made from. -/

def columnKeys : List String := ["connection_id", "action", "actor_subject", "resource_type", "outcome"]

def strippedKeys : List String := ["action", "actor_subject", "resource_type"]

/-- The payload's text under the key has no white space at its ends. -/
def Trimmed (payload : Dict) (key : String) : Prop :=
  ∀ given, Dict.get payload key = .str given → Text.strip given = given

/-- What an accepted payload stores in the columns a query can name. -/
structure StoredColumns (payload : Dict) (record : TransactionRow) : Prop where
  connectionId : optionalUuid (Dict.get payload "connection_id") "connection_id" = .ok record.connectionId
  action : text (Dict.get payload "action") "action" true 100 = .ok record.action
  actorSubject : text (Dict.get payload "actor_subject") "actor_subject" true 255 = .ok record.actorSubject
  resourceType : text (Dict.get payload "resource_type") "resource_type" true 64 = .ok record.resourceType
  outcome : outcome (Dict.get payload "outcome") = .ok record.outcome

theorem validateTransaction_columns {fresh : Fresh} {payload : Dict} {record : TransactionRow}
    (valid : validateTransaction fresh (.dict payload) = .ok record) : StoredColumns payload record := by
  simp only [validateTransaction, bind_eq_ok, pure_eq, Except.ok.injEq] at valid
  rcases valid with ⟨_, -, _, actorSubject, _, -, _, -, _, -, _, -, _, -, _, action, _, resourceType, _, -,
    _, connectionId, _, outcome, _, -, _, -, _, -, _, -, _, -, rfl⟩
  exact ⟨connectionId, action, actorSubject, resourceType, outcome⟩

section

variable {payload : Dict} {record : TransactionRow} {keys : List String}

theorem get_select (key : String) :
    Dict.get (select keys payload) key = if key ∈ keys then Dict.get payload key else .none := by
  rw [Dict.get_eq, lookup_select, Dict.get_eq]
  split <;> rfl

theorem condition_accepted {α : Type} {key : String} {check : Value → Except PyError α} {build : α → Condition}
    (passes : key ∈ keys → Dict.get payload key = .none ∨ ∃ checked, check (Dict.get payload key) = .ok checked) :
    ∃ built, condition (select keys payload) key check build = .ok built := by
  unfold condition
  rw [get_select]
  by_cases chosen : key ∈ keys
  · rw [if_pos chosen]
    rcases passes chosen with absent | ⟨checked, valid⟩
    · exact ⟨[], by rw [if_pos absent]⟩
    · by_cases absent : Dict.get payload key = .none
      · exact ⟨[], by rw [if_pos absent]⟩
      · exact ⟨[build checked], by rw [if_neg absent, valid]; rfl⟩
  · exact ⟨[], by rw [if_neg chosen, if_pos rfl]⟩

/-- A text the store strips passes the same limit as a filter, but is compared as it is. -/
theorem stored_text {value : Value} {label filterLabel : String} {limit : Nat} {stored : String}
    (accepted : text value label true limit = .ok stored) :
    ∃ given, value = .str given ∧ stored = Text.strip given ∧ text value filterLabel false limit = .ok given := by
  rcases text_ok.mp accepted with ⟨given, same, short, clean, -, stripped⟩
  refine ⟨given, same, stripped, ?_⟩
  exact text_ok.mpr ⟨given, same, short, clean, nofun, rfl⟩

theorem stored_uuid {value : Value} {label : String} {stored : Option String}
    (accepted : optionalUuid value label = .ok stored) :
    value = .none ∧ stored = none ∨
      ∃ given, value = .str given ∧ stored = Uuid.parse given ∧ (Uuid.parse given).isSome := by
  unfold optionalUuid at accepted
  by_cases absent : value = .none
  · rw [if_pos absent] at accepted
    exact .inl ⟨absent, (Except.ok.inj accepted).symm⟩
  · rw [if_neg absent] at accepted
    simp only [bind_eq_ok, pure_eq, Except.ok.injEq] at accepted
    rcases accepted with ⟨parsed, valid, rfl⟩
    unfold validateUuid at valid
    split at valid
    · rename_i given
      split at valid
      · rename_i read found
        rw [← Except.ok.inj valid]
        exact .inr ⟨given, rfl, found.symm, by rw [found]; rfl⟩
      · cases valid
    · cases valid

theorem stored_outcome {value : Value} {stored : Outcome} (accepted : outcome value = .ok stored) :
    value = .str stored.text := by
  unfold outcome at accepted
  simp only [bind_eq_ok] at accepted
  rcases accepted with ⟨_, -, accepted⟩
  split at accepted
  · rename_i given
    rw [← Except.ok.inj accepted]
    exact given
  · split at accepted
    · rename_i given
      rw [← Except.ok.inj accepted]
      exact given
    · cases accepted

theorem outcomeFilter_text (stored : Outcome) : outcomeFilter (.str stored.text) = .ok stored := by
  cases stored <;> rfl

theorem conditions_select (stored : StoredColumns payload record) (columns : keys ⊆ columnKeys) :
    ∃ built, conditions (select keys payload) = .ok built := by
  have unnamed : ∀ {key}, key ∉ columnKeys → key ∉ keys := fun outside chosen => outside (columns chosen)
  have texts : ∀ {key label filterLabel limit column} {build : String → Condition},
      text (Dict.get payload key) label true limit = .ok column →
      ∃ built, condition (select keys payload) key (text · filterLabel false limit) build = .ok built := by
    intro key label filterLabel limit column build accepted
    apply condition_accepted
    intro _
    rcases @stored_text _ _ filterLabel _ _ accepted with ⟨given, -, -, passes⟩
    exact .inr ⟨given, passes⟩
  have connectionId : ∃ built, condition (select keys payload) "connection_id" (validateUuid · "connection_id")
      .connectionId = .ok built := by
    apply condition_accepted
    intro _
    rcases stored_uuid stored.connectionId with ⟨absent, -⟩ | ⟨given, same, -, parses⟩
    · exact .inl absent
    · rcases Option.isSome_iff_exists.mp parses with ⟨parsed, found⟩
      refine .inr ⟨parsed, ?_⟩
      rw [same]
      dsimp only [validateUuid]
      rw [found]
  have outcomes : ∃ built, condition (select keys payload) "outcome" outcomeFilter .outcome = .ok built := by
    apply condition_accepted
    intro _
    rw [stored_outcome stored.outcome]
    exact .inr ⟨_, outcomeFilter_text record.outcome⟩
  have times : ∀ {key label} {build : String → Condition}, key ∉ columnKeys →
      ∃ built, condition (select keys payload) key (parseFilterTimestamp · label) build = .ok built := by
    intro key label build outside
    apply condition_accepted
    intro chosen
    exact absurd chosen (unnamed outside)
  rcases connectionId with ⟨ids, connectionId⟩
  rcases texts stored.action with ⟨actions, action⟩
  rcases texts stored.actorSubject with ⟨subjects, actorSubject⟩
  rcases texts stored.resourceType with ⟨types, resourceType⟩
  rcases outcomes with ⟨results, outcome⟩
  rcases @times "since" "since" .since (by decide) with ⟨starts, since⟩
  rcases @times "until" "until" .upTo (by decide) with ⟨ends, upTo⟩
  have columnsRead : columnConditions (select keys payload) = .ok (ids ++ actions ++ subjects ++ types ++ results) := by
    simp only [columnConditions, bind_eq_ok, pure_eq, Except.ok.injEq]
    exact ⟨ids, connectionId, actions, action, subjects, actorSubject, types, resourceType, results, outcome, rfl⟩
  refine ⟨ids ++ actions ++ subjects ++ types ++ results ++ starts ++ ends, ?_⟩
  simp only [conditions, bind_eq_ok, pure_eq, Except.ok.injEq]
  exact ⟨_, columnsRead, starts, since, ends, upTo, rfl⟩

/-- A column that stores the stripped text matches the text itself where nothing was stripped. -/
theorem column_matches {key label column : String} {limit : Nat}
    (accepted : text (Dict.get payload key) label true limit = .ok column) :
    (∀ given, Dict.get (select keys payload) key = .str given → column = given) ↔
      (key ∈ keys → Trimmed payload key) := by
  rcases @stored_text _ _ label _ _ accepted with ⟨given, same, stripped, -⟩
  rw [get_select, Trimmed, same, stripped]
  by_cases chosen : key ∈ keys
  · simp [chosen]
  · simp [chosen]

theorem columnsMatch_select (stored : StoredColumns payload record) :
    ColumnsMatch (select keys payload) record ↔ ∀ key ∈ keys, key ∈ strippedKeys → Trimmed payload key := by
  have action := @column_matches _ keys _ _ _ _ stored.action
  have actorSubject := @column_matches _ keys _ _ _ _ stored.actorSubject
  have resourceType := @column_matches _ keys _ _ _ _ stored.resourceType
  constructor
  · intro matched key chosen listed
    simp only [strippedKeys, List.mem_cons, List.not_mem_nil, or_false] at listed
    rcases listed with rfl | rfl | rfl
    · exact action.mp matched.action chosen
    · exact actorSubject.mp matched.actorSubject chosen
    · exact resourceType.mp matched.resourceType chosen
  · intro trimmed
    refine ⟨?_, action.mpr ?_, actorSubject.mpr ?_, resourceType.mpr ?_, ?_⟩
    · intro given found
      rw [get_select] at found
      split at found
      · rcases stored_uuid stored.connectionId with ⟨absent, -⟩ | ⟨text, same, parsed, -⟩
        · rw [absent] at found
          cases found
        · rw [same] at found
          rw [parsed, Value.str.inj found]
      · cases found
    · exact fun chosen => trimmed _ chosen (by decide)
    · exact fun chosen => trimmed _ chosen (by decide)
    · exact fun chosen => trimmed _ chosen (by decide)
    · intro given found
      rw [get_select] at found
      split at found
      · rw [stored_outcome stored.outcome] at found
        exact Value.str.inj found
      · cases found

/-- Every query by fields of an appended record's own payload is answered, now and after any further calls,
and finds the record exactly where the chosen texts have no white space at their ends. -/
theorem found_by_own_fields {Token : Type} {P : Platform Token} {self : GatewayStore} {db written : Db Token}
    {fresh : Fresh} (appended : appendTransaction self db fresh (.dict payload) = (.ok record, written))
    (columns : keys ⊆ columnKeys) (calls : List Call) (backend : Backend) {store : GatewayStore}
    (opened : store.closed = false) {limit : Nat} (limits : 1 ≤ limit ∧ limit ≤ 500) :
    ∃ all, Windows backend store (run (after P) written calls) (select keys payload) limit all ∧
      (record ∈ all ↔ ∀ key ∈ keys, key ∈ strippedKeys → Trimmed payload key) := by
  have inserted := insertTransaction_ok.mp (transaction_ok.mp appended).2
  have stored := validateTransaction_columns inserted.1
  rcases conditions_select stored columns with ⟨built, accepted⟩
  have answered : ∃ page, listTransactions backend store (run (after P) written calls)
      (.dict (select keys payload)) (.int limit) (.int 0) = .ok page :=
    ⟨_, listTransactions_ok.mpr ⟨⟨by omega, by omega⟩, ⟨Int.le_refl 0, by omega⟩, opened, built, accepted, rfl⟩⟩
  rcases answered with ⟨page, answered⟩
  rcases windows_of_ok answered with ⟨all, windows, selected, -⟩
  refine ⟨all, windows, ?_⟩
  have logged : record ∈ (run (after P) written calls).transactions := by
    apply (run_log written calls).subset
    rw [inserted.2.2.2]
    exact List.mem_append_right _ List.mem_cons_self
  rw [selected, and_iff_right logged, ← columnsMatch_select stored]
  constructor
  · exact Satisfies.columns
  · intro matched
    have untimed : ∀ {key}, key ∉ columnKeys → Dict.get (select keys payload) key = .none := by
      intro key outside
      rw [get_select, if_neg (fun chosen => outside (columns chosen))]
    refine ⟨matched, ?_, ?_⟩
    · intro given start found
      rw [untimed (by decide)] at found
      cases found
    · intro given ending found
      rw [untimed (by decide)] at found
      cases found

end

theorem found_by_own_fields_bench :
    ∃ record written, appendTransaction Bench.store (Db.empty : Db Platform.SealedToken) (Bench.fresh "x")
        (.dict (entry "static_route.create")) = (.ok record, written) ∧
      ∃ all, Windows .sqlite Bench.store written (select ["action"] (entry "static_route.create")) 50 all ∧
        (record ∈ all ↔ ∀ key ∈ ["action"], key ∈ strippedKeys → Trimmed (entry "static_route.create") key) := by
  have answered : ∃ record written, appendTransaction Bench.store (Db.empty : Db Platform.SealedToken)
      (Bench.fresh "x") (.dict (entry "static_route.create")) = (.ok record, written) := ⟨_, _, rfl⟩
  rcases answered with ⟨record, written, appended⟩
  exact ⟨record, written, appended,
    @found_by_own_fields _ record ["action"] _ Platform.bench _ _ _ _ appended (by decide) [] .sqlite _ rfl 50 (by decide)⟩

/-- An action is stored without the blank in front of it, which its own filter keeps. -/
theorem padded_action_not_found :
    ∃ record written page, appendTransaction Bench.store (Db.empty : Db Platform.SealedToken) (Bench.fresh "x")
        (.dict (entry " static_route.create")) = (.ok record, written) ∧
      listTransactions .sqlite Bench.store written (.dict (select ["action"] (entry " static_route.create")))
        (.int 50) (.int 0) = .ok page ∧ page.total = 0 ∧ record ∉ page.items :=
  ⟨_, _, _, rfl, rfl, rfl, List.not_mem_nil⟩

end NetworkGateway.Store
