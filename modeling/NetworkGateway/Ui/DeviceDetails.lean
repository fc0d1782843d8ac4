import NetworkGateway.Library.Run
import NetworkGateway.Python.Value

/-! `app/ui/static/device-details.mjs`: the view of one device's simulated inventory and static routes.

One event is one turn of the browser's event loop: a call of a method of the view, a click or an
input, or the answer to a request, with the code that waits for it. -/

namespace NetworkGateway.DeviceDetails

open Library.Dict

/-! Values of the script. JSON is a `Value`; `undefined` is `none`. -/

/-- What is thrown: an `Error` with its message, or a `TypeError` of the engine. -/
inductive Failure where
  | error (message : String)
  | type
  deriving DecidableEq, Repr

/-- `Boolean(value)`. -/
def truthy : Value → Bool
  | .none => false
  | .bool b => b
  | .int n => n != 0
  | .float x => x != .finite 0 && x != .nan
  | .str s => s != ""
  | .list _ | .dict _ => true

/-- `value.name`. -/
def property (value : Option Value) (name : String) : Except Failure (Option Value) :=
  match value with
  | none | some .none => .error .type
  | some (.dict entries) => .ok (entries.lookup name)
  | some _ => .ok none

def properties (value : Value) (path : List String) : Except Failure (Option Value) :=
  path.foldlM property (some value)

def validateSimulation (data : Value) : Except Failure Unit := do
  let provider ← property (some data) "provider"
  let simulated ← property (some data) "simulated"
  if provider != some (.str "fake") || simulated != some (.bool true) then
    .error (.error "The API did not identify this response as simulated device data.")
  else .ok ()

/-- `routes.items`, when it is an array. -/
def listedItems (routes : Value) : Except Failure (List Value) := do
  match ← property (some routes) "items" with
  | some (.list items) => .ok items
  | _ => .error (.error "Invalid static-route response.")

/-- What `mutate` reads from the routes it asked for. -/
def readRoutes (routes : Value) : Except Failure (List Value) := do
  validateSimulation routes
  listedItems routes

/-- What `reload` reads from its answers. -/
def readAnswers (inventory routes : Value) : Except Failure (List Value) := do
  validateSimulation inventory
  readRoutes routes

/-! Rendering. -/

/-- `table`: the rows are iterable and none of them is `null`. -/
def table (rows : Option Value) : Except Failure Unit :=
  match rows with
  | some (.list items) => if items.contains .none then .error .type else .ok ()
  | some (.str _) => .ok ()
  | _ => .error .type

/-- What `renderInventory` reads after the heading and before the routes. -/
def renderSections (data : Value) : Except Failure Unit := do
  let _ ← properties data ["system", "hostname"]
  let _ ← properties data ["access", "role_account_id"]
  table (← properties data ["interfaces"])
  let _ ← properties data ["bgp", "local_asn"]
  table (← properties data ["bgp", "neighbors"])
  table (← properties data ["mpls", "interfaces"])
  table (← properties data ["mpls", "ldp_neighbors"])
  table (← properties data ["mpls", "lsps"])

/-- The rows `renderRoutes` appends, up to a `null` that it cannot read. -/
def routeRows : List Value → List Value × Except Failure Unit
  | [] => ([], .ok ())
  | .none :: _ => ([], .error .type)
  | route :: rest => (route :: (routeRows rest).1, (routeRows rest).2)

/-- The text of `device-data-status`. -/
inductive Status where
  | initial
  | resolving
  | loaded
  | unavailable (failure : Failure)
  | saving
  | saved
  | unrefreshed
  | unchanged (failure : Failure)
  deriving DecidableEq, Repr

structure Page where
  /-- The device name in the heading, or `none` for `Device information`. -/
  heading : Option (Option Value)
  status : Status
  /-- `device-data-content` is hidden. -/
  hidden : Bool
  /-- The data of the system, interface, BGP and MPLS sections. -/
  sections : Option Value
  /-- The route each row and its buttons are for. -/
  rows : List Value
  /-- The route the form was filled with. -/
  form : Option Value
  deriving Repr

/-! Requests. -/

inductive Resource where
  | inventory
  | staticRoutes
  | create (payload : Value)
  | update (route payload : Value)
  | delete (route : Value)
  deriving DecidableEq, Repr

/-- The route of the path `/static-routes/{id}`. -/
def Resource.route : Resource → Option Value
  | .update route _ | .delete route => some route
  | .inventory | .staticRoutes | .create _ => none

/-- A request to `endpoint(id)`. -/
structure Request where
  device : String
  resource : Resource
  deriving DecidableEq, Repr

/-- `String(id)` in `endpoint`: before the first `open` it is `null`. -/
def endpoint (id : Option String) : String := id.getD "null"

inductive Task where
  /-- `reload`, with the answers that arrived. -/
  | reload (sequence : Nat) (id : Option String) (inventory routes : Option Value)
  /-- `mutate` at `await operation(id)`; a submitted form validates the result. -/
  | mutation (sequence : Nat) (id : Option String) (validated : Bool)
  /-- `mutate` at the request for the routes. -/
  | listing (sequence : Nat) (id : Option String)
  deriving Repr

def Task.sequence : Task → Nat
  | .reload sequence _ _ _ | .mutation sequence _ _ | .listing sequence _ => sequence

def Task.id : Task → Option String
  | .reload _ id _ _ | .mutation _ id _ | .listing _ id => id

/-! The view. -/

structure State where
  id : Option String
  inventory : Option Value
  routes : List Value
  selected : Option Value
  busy : Bool
  dirty : Bool
  active : Bool
  sequence : Nat
  page : Page
  /-- What was last passed to `onError`, up to a `clearError`. -/
  shownError : Option Failure
  /-- The operations under way, by the order they began in. -/
  tasks : List (Nat × Task)
  started : Nat
  /-- What was requested, and what the inventory and route requests were answered. -/
  sent : List Request
  answers : List (Request × Value)
  deriving Repr

def State.start : State where
  id := none
  inventory := none
  routes := []
  selected := none
  busy := false
  dirty := false
  active := false
  sequence := 0
  page := ⟨none, .initial, true, none, [], none⟩
  shownError := none
  tasks := []
  started := 0
  sent := []
  answers := []

namespace State

variable (s : State)

def loadRoute (route : Option Value) : State :=
  { s with
    selected := route
    dirty := false
    page := { s.page with form := route.filter truthy } }

/-- `discard`, with the answer to `confirm`. -/
def discard (confirmed : Bool) : Bool := !s.dirty || confirmed

def begins (task : Task) (resources : List Resource) : State :=
  { s with
    tasks := s.tasks ++ [(s.started, task)]
    started := s.started + 1
    sent := s.sent ++ resources.map (fun resource => ⟨endpoint task.id, resource⟩) }

/-- `reload` up to its `await`. -/
def reload : State :=
  let cleared := { s with
    sequence := s.sequence + 1
    busy := true
    inventory := none
    page := { s.page with hidden := true, heading := none, status := .resolving }
    shownError := none }
  cleared.begins (.reload cleared.sequence cleared.id none none) [.inventory, .staticRoutes]

/-- `mutate` up to its first `await`. -/
def mutate (validated : Bool) (resource : Resource) : State :=
  if s.busy || s.inventory.isNone then s
  else
    let saving := { s with busy := true, page := { s.page with status := .saving }, shownError := none }
    saving.begins (.mutation s.sequence s.id validated) [resource]

/-- The `catch` and `finally` of `reload`. -/
def reloadFailed (sequence : Nat) (failure : Failure) : State :=
  if sequence = s.sequence then
    { s with
      inventory := none
      busy := false
      page := { s.page with status := .unavailable failure }
      shownError := some failure }
  else s

/-- The heading of `renderInventory`. -/
def headed (name : Option Value) : State := { s with page := { s.page with heading := some name } }

def renderRoutes : State × Except Failure Unit :=
  ({ s with page := { s.page with rows := (routeRows s.routes).1 } }, (routeRows s.routes).2)

/-- `renderInventory`, and what it throws. A section that throws leaves the page hidden. -/
def renderInventory (data : Value) : State × Except Failure Unit :=
  match properties data ["device", "name"] with
  | .error failure => (s, .error failure)
  | .ok name =>
      match renderSections data with
      | .error failure => (s.headed name, .error failure)
      | .ok () =>
          let shown := s.headed name
          renderRoutes { shown with page := { shown.page with sections := some data } }

/-- The end of `reload`, after `renderInventory` returned or threw. -/
def reloadRendered (sequence : Nat) : State × Except Failure Unit → State
  | (rendered, .error failure) => rendered.reloadFailed sequence failure
  | (rendered, .ok ()) =>
      { rendered with busy := false, page := { rendered.page with hidden := false, status := .loaded } }

/-- `reload` after both answers. -/
def reloaded (sequence : Nat) (inventory routes : Value) : State :=
  if sequence ≠ s.sequence then s
  else match readAnswers inventory routes with
    | .error failure => s.reloadFailed sequence failure
    | .ok items =>
        let held := loadRoute { s with inventory := some inventory, routes := items } none
        reloadRendered sequence (held.renderInventory inventory)

/-- The `catch` and `finally` of `mutate`. -/
def mutationFailed (sequence : Nat) (saved : Bool) (failure : Failure) : State :=
  if sequence = s.sequence then
    { s with
      busy := false
      page := { s.page with status := if saved then .unrefreshed else .unchanged failure }
      shownError := some failure }
  else s

/-- The end of `mutate`, after `renderRoutes` returned or threw. -/
def mutationRendered (sequence : Nat) : State × Except Failure Unit → State
  | (rendered, .error failure) => rendered.mutationFailed sequence true failure
  | (rendered, .ok ()) => { rendered with busy := false, page := { rendered.page with status := .saved } }

/-- `mutate` after the routes were answered. -/
def mutated (sequence : Nat) (routes : Value) : State :=
  if sequence ≠ s.sequence then s
  else match readRoutes routes with
    | .error failure => s.mutationFailed sequence true failure
    | .ok items => mutationRendered sequence (loadRoute { s with routes := items } none).renderRoutes

def ends (task : Nat) : State := { s with tasks := erase s.tasks task }

def waits (task : Nat) (next : Task) : State := { s with tasks := set s.tasks task next }

def answered (id : Option String) (resource : Resource) (value : Value) : State :=
  { s with answers := s.answers ++ [(⟨endpoint id, resource⟩, value)] }

inductive Part where
  | inventory
  | routes
  | operation
  deriving DecidableEq, Repr

/-- The answer to a request of an operation under way; `Promise.all` rejects with the first failure. -/
def settle (k : Nat) (part : Part) (outcome : Except Failure Value) : State :=
  match s.tasks.lookup k, part, outcome with
  | some (.reload sequence _ none _), .inventory, .error failure => (s.ends k).reloadFailed sequence failure
  | some (.reload sequence _ _ none), .routes, .error failure => (s.ends k).reloadFailed sequence failure
  | some (.reload sequence id none none), .inventory, .ok value =>
      (s.answered id .inventory value).waits k (.reload sequence id (some value) none)
  | some (.reload sequence id none none), .routes, .ok value =>
      (s.answered id .staticRoutes value).waits k (.reload sequence id none (some value))
  | some (.reload sequence id none (some routes)), .inventory, .ok value =>
      ((s.answered id .inventory value).ends k).reloaded sequence value routes
  | some (.reload sequence id (some inventory) none), .routes, .ok value =>
      ((s.answered id .staticRoutes value).ends k).reloaded sequence inventory value
  | some (.mutation sequence _ _), .operation, .error failure => (s.ends k).mutationFailed sequence false failure
  | some (.mutation sequence id validated), .operation, .ok value =>
      match if validated then validateSimulation value else .ok () with
      | .error failure => (s.ends k).mutationFailed sequence false failure
      | .ok () =>
          let listing := s.waits k (.listing sequence id)
          { listing with sent := listing.sent ++ [⟨endpoint id, .staticRoutes⟩] }
  | some (.listing sequence _), .routes, .error failure => (s.ends k).mutationFailed sequence true failure
  | some (.listing sequence id), .routes, .ok value =>
      ((s.answered id .staticRoutes value).ends k).mutated sequence value
  | _, _, _ => s

end State

/-! Events. All of them are possible in every state: also a click on a button that `controls` disabled. -/

inductive Event where
  /-- `canNavigate(next)`, with `next.id`. -/
  | canNavigate (next : Option String) (confirmed : Bool)
  | openRoute (id : String)
  | leave
  | invalidate
  | refresh (confirmed : Bool)
  /-- `new-static-route` or `cancel-static-route`. -/
  | blank (confirmed : Bool)
  | input
  | edit (row : Nat) (confirmed : Bool)
  | delete (row : Nat) (confirmed : Bool)
  /-- The form is submitted, with what `buildStaticRoute` returns or throws. -/
  | submit (payload : Except Failure Value)
  | settle (k : Nat) (part : State.Part) (outcome : Except Failure Value)

def State.canNavigate (s : State) (next : Option String) (confirmed : Bool) : State :=
  if s.active && s.dirty && (next.isNone || next != s.id) then
    if s.discard confirmed then { s with dirty := false } else s
  else s

/-- `open`. -/
def State.openRoute (s : State) (id : String) : State :=
  let load := !s.active || s.id != some id || s.inventory.isNone && !s.busy
  let opened := { s with active := true, id := some id }
  if load then opened.reload else opened

/-- A click on `Edit` in a row. -/
def State.edit (s : State) (row : Nat) (confirmed : Bool) : State :=
  match s.page.rows[row]? with
  | some route => if s.discard confirmed then s.loadRoute (some route) else s
  | none => s

/-- A click on `Delete` in a row. -/
def State.delete (s : State) (row : Nat) (confirmed : Bool) : State :=
  match s.page.rows[row]? with
  | some route => if confirmed then s.mutate false (.delete route) else s
  | none => s

def State.submission (s : State) (payload : Value) : Resource :=
  match s.selected.filter truthy with
  | some route => .update route payload
  | none => .create payload

def step : Event → State → State
  | .canNavigate next confirmed, s => s.canNavigate next confirmed
  | .openRoute id, s => s.openRoute id
  | .leave, s => { s with active := false }
  | .invalidate, s => { s with inventory := none, sequence := s.sequence + 1, busy := false }
  | .refresh confirmed, s => if s.discard confirmed then s.reload else s
  | .blank confirmed, s => if s.discard confirmed then s.loadRoute none else s
  | .input, s => { s with dirty := true }
  | .edit row confirmed, s => s.edit row confirmed
  | .delete row confirmed, s => s.delete row confirmed
  | .submit (.ok payload), s => s.mutate true (s.submission payload)
  | .submit (.error failure), s => { s with shownError := some failure }
  | .settle k part outcome, s => s.settle k part outcome

end NetworkGateway.DeviceDetails
