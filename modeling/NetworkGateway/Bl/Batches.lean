import NetworkGateway.Bl.Management
import NetworkGateway.Dal.Jobs
import NetworkGateway.Library.Csv

/-! `app/bl/services/batches.py`: exports of a finished job. -/

namespace NetworkGateway.Batches

open Library Library.Result Management Store

def exportFields : List String :=
  ["connection_id", "name", "protocol", "host", "port", "connector_type", "success", "simulated", "stage",
   "detail", "duration_ms"]

/-- A result as the job's `results` column holds it. -/
def resultColumns (result : JobResult) : Dict :=
  [("connection_id", .str result.connectionId), ("name", .str result.name), ("protocol", result.protocol),
   ("host", .str result.host), ("port", result.port), ("connector_type", result.connectorType),
   ("success", .bool result.success), ("simulated", .bool result.simulated), ("stage", .str result.stage),
   ("detail", .str result.detail), ("duration_ms", result.durationMs)]

/-- What an export raises: an error of the service, the `KeyError` of a missing field, or the
`ValueError` of `json.dumps` on a number that is not finite. -/
inductive ExportError where
  | management (error : ManagementError)
  | key
  | value
  deriving DecidableEq, Repr

def exportEntry (result : Dict) (key : String) : Except ExportError (String × Value) :=
  if key = "simulated" then .ok (key, Dict.getOr result key (.bool false))
  else match result.lookup key with
    | some value => .ok (key, value)
    | none => .error .key

/-- `re.sub(r"[^a-zA-Z0-9_-]", "_", id)[:80] or "results"`. -/
def safeId (id : String) : String :=
  let safe := (id.toList.map (fun c => if c.isAlphanum || c == '_' || c == '-' then c else '_')).take 80
  if safe.isEmpty then "results" else String.ofList safe

/-- `text.startswith((...))` for prefixes of one character. -/
def startsWith (text : List Char) (characters : List Char) : Bool := text.head?.any characters.contains

structure Export where
  content : String
  mediaType : String
  filename : String
  deriving DecidableEq

section

variable {Token : Type} (P : Platform Token)

/-- `str(value)`, and nothing for `None`. -/
def cellText (value : Value) : String := if value = .none then "" else P.str value

def spreadsheetCell (value : Value) : String :=
  let text := cellText P value
  if startsWith (text.toList.dropWhile Text.isSpace) ['=', '+', '-', '@'] ||
      startsWith text.toList ['\t', '\r', '\n'] then "'" ++ text
  else text

/-- The rows `csv.DictWriter` writes with `lineterminator="\r\n"`. -/
def csvText (rows : List (List String)) : String :=
  String.ofList (Csv.write (rows.map (fun row => row.map String.toList)))

variable (dumps : Value → Option String) (self : GatewayStore) (db : Db Token)

def exportedJob (job : PublicJob) (results : List Dict) : Dict :=
  [("id", .str job.id), ("status", .str job.status.text), ("total", .int job.total),
   ("completed", .int job.completed), ("results", .list (results.map .dict))] ++
    if job.error.isSome then [("error", .str "Batch processing failed or was interrupted.")] else []

/-- `BatchService.export`, where `dumps` is `json.dumps(value, ensure_ascii=False, allow_nan=False)` unless it raises. -/
def exportJob (jobId format : String) : Except ExportError Export := do
  raiseWhen (format != "csv" && format != "json") (.management ⟨"Choose CSV or JSON export.", 422⟩)
  let job ← match storeCall (getJob self db jobId) with
    | .ok job => .ok job
    | .error error => .error (.management error)
  raiseWhen (job.status != .completed && job.status != .failed) (.management ⟨"The batch has not finished.", 409⟩)
  let results ← each (fun result => each (exportEntry (resultColumns result)) exportFields) job.results
  let filename := "connection-tests-" ++ safeId job.id ++ "." ++ format
  if format = "json" then
    match dumps (.dict (exportedJob job results)) with
    | some text => return ⟨text, "application/json", filename⟩
    | none => throw .value
  else
    let rows := results.map (fun result => exportFields.map (fun field => spreadsheetCell P (Dict.get result field)))
    return ⟨csvText (exportFields :: rows), "text/csv", filename⟩

end

end NetworkGateway.Batches
