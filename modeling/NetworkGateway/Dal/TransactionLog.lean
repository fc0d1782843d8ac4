import NetworkGateway.Python.Datetime
import NetworkGateway.Dal.Transactions

/-! `app/dal/db/store.py`: queries of the transaction log. -/

namespace NetworkGateway.Store

open Library.Result

def formatUtc (moment : DateTime) : Except PyError String :=
  match moment.astimezone with
  | some utc => .ok utc.format
  | none => .error .overflow

/-- The text `_parse_filter_timestamp` hands to `fromisoformat`. -/
def isoText (value : String) : List Char :=
  let text := Text.stripChars Text.isSpace value.toList
  if text.getLast? = some 'Z' then text.dropLast ++ "+00:00".toList else text

/-- `_parse_filter_timestamp`: only `fromisoformat` runs under its `try`. -/
def parseFilterTimestamp (value : Value) (label : String) : Except PyError String :=
  let error := invalid ("Invalid " ++ label ++ " filter; must be an ISO-8601 timestamp.")
  match value with
  | .str s => match DateTime.fromisoformat (isoText s) with
    | some parsed => formatUtc parsed
    | none => .error error
  | _ => .error error

def outcomeFilter (value : Value) : Except PyError Outcome := do
  hashable value
  if value = .str "succeeded" then return .succeeded
  else if value = .str "failed" then return .failed
  else throw (invalid "outcome filter must be succeeded or failed.")

inductive Condition where
  | connectionId (value : String)
  | action (value : String)
  | actorSubject (value : String)
  | resourceType (value : String)
  | outcome (value : Outcome)
  | since (text : String)
  | upTo (text : String)

def Condition.holds (record : TransactionRow) : Condition → Bool
  | .connectionId value => record.connectionId == some value
  | .action value => record.action == value
  | .actorSubject value => record.actorSubject == value
  | .resourceType value => record.resourceType == value
  | .outcome value => record.outcome == value
  | .since text => text ≤ record.timestampUtc
  | .upTo text => record.timestampUtc ≤ text

/-- `if filters.get(key) is not None: conditions.append(...)`. -/
def condition {α : Type} (filters : Dict) (key : String) (check : Value → Except PyError α)
    (build : α → Condition) : Except PyError (List Condition) :=
  if Dict.get filters key = .none then .ok [] else do
    let value ← check (Dict.get filters key)
    return [build value]

def columnConditions (filters : Dict) : Except PyError (List Condition) := do
  let connectionId ← condition filters "connection_id" (validateUuid · "connection_id") .connectionId
  let action ← condition filters "action" (text · "action filter" false 100) .action
  let actorSubject ←
    condition filters "actor_subject" (text · "actor_subject filter" false 255) .actorSubject
  let resourceType ←
    condition filters "resource_type" (text · "resource_type filter" false 64) .resourceType
  let outcome ← condition filters "outcome" outcomeFilter .outcome
  return connectionId ++ action ++ actorSubject ++ resourceType ++ outcome

def conditions (filters : Dict) : Except PyError (List Condition) := do
  let columns ← columnConditions filters
  let since ← condition filters "since" (parseFilterTimestamp · "since") .since
  let upTo ← condition filters "until" (parseFilterTimestamp · "until") .upTo
  return columns ++ since ++ upTo

/-- The databases `configured_url` admits. -/
inductive Backend where
  | sqlite
  | postgresql
  deriving DecidableEq

/-- An OFFSET beyond 64 bits: `sqlite3` raises `OverflowError` itself, PostgreSQL's
error reaches SQLAlchemy as a `DataError`. -/
def Backend.offset (backend : Backend) (offset : Int) : Except PyError Unit :=
  raiseWhen (9223372036854775807 < offset)
    (match backend with | .sqlite => .overflow | .postgresql => .database)

structure Page where
  items : List TransactionRow
  total : Nat
  limit : Int
  offset : Int

/-- `ORDER BY timestamp_utc DESC, id DESC`. -/
def newestFirst (rows : List TransactionRow) : List TransactionRow :=
  rows.insertionSort (fun a b =>
    b.timestampUtc < a.timestampUtc ∨ a.timestampUtc = b.timestampUtc ∧ b.id ≤ a.id)

/-- `filters or {}`, which must be a `dict`. -/
def filterDict (filters : Value) : Except PyError Dict :=
  if !filters.truthy then .ok []
  else match filters with
    | .dict entries => .ok entries
    | _ => .error (invalid "Invalid transaction filters.")

def pageLimit (limit : Value) : Except PyError Int :=
  let error := invalid "Limit must be an integer between 1 and 500."
  match limit with
  | .int n => if 1 ≤ n ∧ n ≤ 500 then .ok n else .error error
  | _ => .error error

def pageOffset (offset : Value) : Except PyError Int :=
  let error := invalid "Offset must be a non-negative integer."
  match offset with
  | .int n => if n < 0 then .error error else .ok n
  | _ => .error error

section

variable {Token : Type} (backend : Backend) (self : GatewayStore) (db : Db Token)

def matching (conditions : List Condition) : List TransactionRow :=
  db.transactions.filter (fun record => conditions.all (Condition.holds record))

def selectPage (conditions : List Condition) (limit offset : Int) : Except PyError Page := do
  let base := matching db conditions
  let total := base.length
  backend.offset offset
  return ⟨((newestFirst base).drop offset.toNat).take limit.toNat, total, limit, offset⟩

def listTransactions (filters limit offset : Value) : Except PyError Page := do
  let filters ← filterDict filters
  let limit ← pageLimit limit
  let offset ← pageOffset offset
  let conditions ← conditions filters
  reading self (selectPage backend db conditions limit offset)

end

end NetworkGateway.Store
