import NetworkGateway.Bl.Management
import NetworkGateway.Dal.TransactionLog

/-! `app/bl/services/transactions.py`, and the query strings that
`app/api/routes/transactions.py` lets through to it. -/

namespace NetworkGateway.Transactions

/-- The arguments of `TransactionsService.list`. -/
structure Query where
  connectionId : Option String
  action : Option String
  actorSubject : Option String
  outcome : Option String
  fromTime : Option String
  toTime : Option String
  limit : Int
  offset : Int

/-- `filters` without the keys whose value is `None`. -/
def Query.filters (query : Query) : Dict :=
  [("connection_id", query.connectionId), ("action", query.action), ("actor_subject", query.actorSubject),
   ("outcome", query.outcome), ("since", query.fromTime), ("until", query.toTime)].filterMap
    (fun entry => entry.2.map (fun value => (entry.1, .str value)))

def list {Token : Type} (backend : Store.Backend) (store : GatewayStore) (db : Db Token) (query : Query) :
    Except Management.ManagementError Store.Page :=
  Management.storeCall
    (Store.listTransactions backend store db (.dict query.filters) (.int query.limit) (.int query.offset))

/-- The bounds FastAPI puts on the parameters of `GET /transactions`. -/
structure Query.Accepted (query : Query) : Prop where
  connectionId : ∀ value ∈ query.connectionId, value.length ≤ 128
  action : ∀ value ∈ query.action, value.length ≤ 128
  actorSubject : ∀ value ∈ query.actorSubject, value.length ≤ 255
  outcome : ∀ value ∈ query.outcome, value = "succeeded" ∨ value = "failed"
  fromTime : ∀ value ∈ query.fromTime, value.length ≤ 64
  toTime : ∀ value ∈ query.toTime, value.length ≤ 64
  limit : 1 ≤ query.limit ∧ query.limit ≤ 200
  offset : 0 ≤ query.offset

end NetworkGateway.Transactions
