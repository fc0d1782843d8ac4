import NetworkGateway.Bl.Batches
import NetworkGateway.Dal.Bench

/-! Exports of a finished job read back. -/

namespace NetworkGateway.Batches

open Library Library.Result Management Store

section

variable {Token : Type} {P : Platform Token}

/-! One cell. -/

/-- No spreadsheet takes the cell for a formula. -/
structure Inert (cell : String) : Prop where
  start : ∀ c, cell.toList.head? = some c → c ∉ ['\t', '\r', '\n']
  visible : ∀ c, cell.toList.find? (fun c => !Text.isSpace c) = some c → c ∉ ['=', '+', '-', '@']

theorem find_visible (text : List Char) :
    text.find? (fun c => !Text.isSpace c) = (text.dropWhile Text.isSpace).head? := by
  induction text with
  | nil => rfl
  | cons c rest ih =>
      rw [List.find?_cons, List.dropWhile_cons]
      cases blank : Text.isSpace c with
      | true =>
          rw [if_pos rfl]
          exact ih
      | false =>
          rw [if_neg Bool.false_ne_true]
          rfl

theorem not_startsWith {text characters : List Char} (other : startsWith text characters = false) {c : Char}
    (first : text.head? = some c) : c ∉ characters := by
  unfold startsWith at other
  rw [first, Option.any_some] at other
  simpa using other

/-- A cell is the field's text or that text behind an apostrophe, and inert. -/
theorem spreadsheetCell_inert (value : Value) :
    (spreadsheetCell P value = cellText P value ∨ spreadsheetCell P value = "'" ++ cellText P value) ∧
      Inert (spreadsheetCell P value) := by
  unfold spreadsheetCell
  dsimp only
  split
  · refine ⟨.inr rfl, ?_, ?_⟩
    · intro c first
      rw [String.toList_append] at first
      rw [← Option.some.inj first]
      decide
    · intro c found
      rw [String.toList_append] at found
      rw [← Option.some.inj found]
      decide
  · rename_i plain
    rw [Bool.not_eq_true, Bool.or_eq_false_iff] at plain
    refine ⟨.inl rfl, fun c => not_startsWith plain.2, ?_⟩
    intro c found
    rw [find_visible] at found
    exact not_startsWith plain.1 found

/-! The two exports. -/

theorem exportEntries_ok (result : JobResult) :
    each (exportEntry (resultColumns result)) exportFields = .ok (resultColumns result) := rfl

theorem exportResults_ok (results : List JobResult) :
    each (fun result => each (exportEntry (resultColumns result)) exportFields) results =
      .ok (results.map resultColumns) := by
  rw [each_eq_ok, List.forall₂_map_right_iff, List.forall₂_same]
  intro result _
  exact exportEntries_ok result

def csvRow (P : Platform Token) (result : JobResult) : List String :=
  exportFields.map (fun field => spreadsheetCell P (Dict.get (resultColumns result) field))

variable {dumps : Value → Option String} {self : GatewayStore} {db : Db Token} {jobId : String} {job : PublicJob}

def Finished (job : PublicJob) : Prop := job.status = .completed ∨ job.status = .failed

theorem Finished.allowed (finished : Finished job) : (job.status != .completed && job.status != .failed) = false := by
  rcases finished with same | same <;> rw [same] <;> rfl

theorem exportJob_csv (found : getJob self db jobId = .ok job) (finished : Finished job) :
    exportJob P dumps self db jobId "csv" = .ok ⟨csvText (exportFields :: job.results.map (csvRow P)), "text/csv",
      "connection-tests-" ++ safeId job.id ++ "." ++ "csv"⟩ := by
  have listed : ("csv" != "csv" && "csv" != "json") = false := by decide
  have other : ¬"csv" = "json" := by decide
  unfold exportJob
  rw [found]
  simp only [storeCall, listed, raiseWhen_false, ok_bind, finished.allowed, exportResults_ok, other, if_false,
    List.map_map, pure_eq]
  rfl

theorem exportJob_json (found : getJob self db jobId = .ok job) (finished : Finished job) :
    exportJob P dumps self db jobId "json" =
      match dumps (.dict (exportedJob job (job.results.map resultColumns))) with
      | some text => .ok ⟨text, "application/json", "connection-tests-" ++ safeId job.id ++ "." ++ "json"⟩
      | none => .error .value := by
  have listed : ("json" != "csv" && "json" != "json") = false := by decide
  unfold exportJob
  rw [found]
  simp only [storeCall, listed, raiseWhen_false, ok_bind, finished.allowed, exportResults_ok, if_true]
  cases dumps (.dict (exportedJob job (job.results.map resultColumns))) <;> rfl

def lines (rows : List (List String)) : List Csv.Record := rows.map (fun row => row.map String.toList)

theorem read_csvText {rows : List (List String)} (nonempty : ∀ row ∈ rows, row ≠ []) :
    Csv.read (csvText rows).toList = some (lines rows) := by
  unfold csvText
  rw [String.toList_ofList]
  apply Csv.read_write
  intro record listed
  rcases List.mem_map.mp listed with ⟨row, member, rfl⟩
  intro empty
  exact nonempty row member (List.map_eq_nil_iff.mp empty)

/-- `str(value)`, and nothing for `None`; `repr` prints the numbers and containers that are left. -/
inductive FieldText (P : Platform Token) : Value → String → Prop where
  | none : FieldText P .none ""
  | str (text : String) : FieldText P (.str text) text
  | int (n : Int) : FieldText P (.int n) (toString n)
  | yes : FieldText P (.bool true) "True"
  | no : FieldText P (.bool false) "False"
  | float (x : PyFloat) : FieldText P (.float x) (P.repr (.float x))
  | list (items : List Value) : FieldText P (.list items) (P.repr (.list items))
  | dict (entries : Dict) : FieldText P (.dict entries) (P.repr (.dict entries))

theorem cellText_fieldText (value : Value) : FieldText P value (cellText P value) := by
  cases value with
  | none => exact .none
  | str text => exact .str text
  | int n => exact .int n
  | bool b =>
      cases b with
      | true => exact .yes
      | false => exact .no
  | float x => exact .float x
  | list items => exact .list items
  | dict entries => exact .dict entries

def fieldValues (result : JobResult) : List Value :=
  [.str result.connectionId, .str result.name, result.protocol, .str result.host, result.port, result.connectorType,
    .bool result.success, .bool result.simulated, .str result.stage, .str result.detail, result.durationMs]

/-- A row of the export is one result: a cell for each field, its text as it is or behind an apostrophe. -/
def RowOf (P : Platform Token) (result : JobResult) (row : List String) : Prop :=
  List.Forall₂ (fun value cell => ∃ text, FieldText P value text ∧ (cell = text ∨ cell = "'" ++ text) ∧ Inert cell)
    (fieldValues result) row

theorem fieldValues_columns (result : JobResult) :
    fieldValues result = exportFields.map (fun field => Dict.get (resultColumns result) field) := rfl

theorem csvRow_rowOf (result : JobResult) : RowOf P result (csvRow P result) := by
  unfold RowOf csvRow
  rw [fieldValues_columns, List.forall₂_map_left_iff, List.forall₂_map_right_iff, List.forall₂_same]
  intro field _
  have inert := spreadsheetCell_inert (P := P) (Dict.get (resultColumns result) field)
  exact ⟨_, cellText_fieldText _, inert.1, inert.2⟩

/-- A finished job's CSV export reads back as the header and one inert row for each result, in order; its JSON export
reads back as a document with the same results, fields and order. -/
theorem exports_faithful (found : getJob self db jobId = .ok job) (finished : Finished job)
    {loads : String → Option Value} (roundTrip : ∀ value text, dumps value = some text → loads text = some value) :
    (∃ file rows, exportJob P dumps self db jobId "csv" = .ok file ∧
      Csv.read file.content.toList = some (lines (exportFields :: rows)) ∧
      List.Forall₂ (RowOf P) job.results rows) ∧
    ∃ document, Dict.get document "results" =
        .list (job.results.map (fun result => .dict (exportFields.zip (fieldValues result)))) ∧
      ((∃ file, exportJob P dumps self db jobId "json" = .ok file) ↔ (dumps (.dict document)).isSome = true) ∧
      ∀ file, exportJob P dumps self db jobId "json" = .ok file → loads file.content = some (.dict document) := by
  constructor
  · refine ⟨_, job.results.map (csvRow P), exportJob_csv found finished, ?_, ?_⟩
    · apply read_csvText
      intro row listed
      rcases List.mem_cons.mp listed with rfl | member
      · decide
      · rcases List.mem_map.mp member with ⟨result, -, rfl⟩
        nofun
    · rw [List.forall₂_map_right_iff, List.forall₂_same]
      intro result _
      exact csvRow_rowOf result
  · refine ⟨exportedJob job (job.results.map resultColumns), ?_, ?_, ?_⟩
    · have results : Dict.get (exportedJob job (job.results.map resultColumns)) "results" =
          .list ((job.results.map resultColumns).map .dict) := rfl
      rw [results, List.map_map]
      rfl
    · rw [exportJob_json found finished]
      cases dumps (.dict (exportedJob job (job.results.map resultColumns))) <;> simp
    · intro file returned
      rw [exportJob_json found finished] at returned
      split at returned
      · rename_i text dumped
        rw [← Except.ok.inj returned]
        exact roundTrip _ _ dumped
      · cases returned

end

/-- A finished job with one result whose name a spreadsheet would take for a formula. -/
def benchJob : JobRow Platform.SealedToken :=
  ⟨"j1", .completed, 1, 1, ("bench", .none), [⟨"c1", " =1+1", .str "ssh", "192.0.2.1", .int 22, .str "direct", true,
    false, "done", "line one\r\nsaid \"two\", and left", .int 5⟩], none, none⟩

def benchJobs : Db Platform.SealedToken := { Db.empty with jobs := [benchJob] }

def benchDocument : Value := .dict (exportedJob (publicJob benchJob) (benchJob.results.map resultColumns))

def benchText : String :=
  "\x7b\"id\": \"j1\", \"status\": \"completed\", \"total\": 1, \"completed\": 1, \"results\": [\x7b\"connection_id\": " ++
  "\"c1\", \"name\": \" =1+1\", \"protocol\": \"ssh\", \"host\": \"192.0.2.1\", \"port\": 22, \"connector_type\": " ++
  "\"direct\", \"success\": true, \"simulated\": false, \"stage\": \"done\", \"detail\": " ++
  "\"line one\\r\\nsaid \\\"two\\\", and left\", \"duration_ms\": 5\x7d]\x7d"

theorem exports_faithful_bench : ∃ file rows,
    exportJob Platform.bench (fun value => if value = benchDocument then some benchText else none) Bench.store benchJobs
      "j1" "csv" = .ok file ∧ Csv.read file.content.toList = some (lines (exportFields :: rows)) ∧
    List.Forall₂ (RowOf Platform.bench) (publicJob benchJob).results rows := by
  refine (@exports_faithful _ Platform.bench _ Bench.store benchJobs "j1" _ rfl (.inl rfl)
    (fun text => if text = benchText then some benchDocument else none) ?_).1
  intro value text dumped
  split at dumped
  · rename_i same
    rw [← Option.some.inj dumped, if_pos rfl, same]
  · cases dumped

end NetworkGateway.Batches
