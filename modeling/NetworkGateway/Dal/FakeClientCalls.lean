import NetworkGateway.Dal.FakeClient
import NetworkGateway.Dal.Store

/-! `app/dal/device/fake_client.py`: the two store calls of a route mutation, with the calls of
other clients of the store between them. -/

namespace NetworkGateway.FakeClient

open Library.Result

/-- `create_static_route`, `update_static_route` and `delete_static_route` with their arguments;
`audit` may be `None`. -/
inductive Mutation where
  | create (payload : Value) (audit : Option Value)
  | update (routeId : String) (payload : Value) (audit : Option Value)
  | delete (routeId : String) (audit : Option Value)

/-- The store call a mutation makes after `_profile`. -/
def Mutation.op (connectionId : String) : Mutation → Store.Op
  | create payload none => .createStaticRoute connectionId payload
  | create payload (some audit) => .createStaticRouteAudited connectionId payload audit
  | update routeId payload none => .updateStaticRoute connectionId routeId payload
  | update routeId payload (some audit) => .updateStaticRouteAudited connectionId routeId payload audit
  | delete routeId none => .deleteStaticRoute connectionId routeId
  | delete routeId (some audit) => .deleteStaticRouteAudited connectionId routeId audit

/-- A `FakeDeviceClient` and the mutation it is called with. -/
structure Request where
  store : GatewayStore
  connectionId : String
  mutation : Mutation

def Request.storeCall (request : Request) (fresh : Fresh) : Store.Call :=
  ⟨request.store, fresh, request.mutation.op request.connectionId⟩

/-- The database, and the mutations whose `_profile` has returned and whose store call is to come. -/
structure State (Token : Type) where
  db : Db Token
  waiting : List Request

inductive Event where
  /-- A call of another client of the store. -/
  | store (call : Store.Call)
  /-- `self._profile()`. -/
  | check (request : Request)
  /-- The store call of a waiting mutation. -/
  | mutate (index : Nat) (fresh : Fresh)

section

variable {Token : Type} (P : Platform Token)

def step (event : Event) (state : State Token) : State Token :=
  match event with
  | .store call => { state with db := Store.after P call state.db }
  | .check request =>
      match profile P request.store state.db request.connectionId with
      | .ok _ => { state with waiting := state.waiting ++ [request] }
      | .error _ => state
  | .mutate index fresh =>
      match state.waiting[index]? with
      | some request =>
          ⟨Store.after P (request.storeCall fresh) state.db, state.waiting.eraseIdx index⟩
      | none => state

end

end NetworkGateway.FakeClient
