import NetworkGateway.Library.Result
import NetworkGateway.Ui.DeviceDetails

/-! What the details view holds belongs to the device that is open. -/

namespace NetworkGateway.DeviceDetails

open Library.Dict Library.Result Library.Run

/-- The routes some answer to a route request of the device lists. -/
def Listed (answers : List (Request × Value)) (device : String) (routes : List Value) : Prop :=
  ∃ body, (⟨device, .staticRoutes⟩, body) ∈ answers ∧ listedItems body = .ok routes

/-- What a reload has received, it was answered for its device. -/
def Task.Answered (answers : List (Request × Value)) : Task → Prop
  | .reload _ id inventory routes =>
      (∀ value, inventory = some value → (⟨endpoint id, .inventory⟩, value) ∈ answers) ∧
        ∀ value, routes = some value → (⟨endpoint id, .staticRoutes⟩, value) ∈ answers
  | .mutation _ _ _ | .listing _ _ => True

def RouteListed (answers : List (Request × Value)) (request : Request) : Prop :=
  ∀ route, request.resource.route = some route → ∃ routes, Listed answers request.device routes ∧ route ∈ routes

structure Operations (s : State) : Prop where
  tasks : ∀ k task, s.tasks.lookup k = some task → k < s.started ∧ task.sequence ≤ s.sequence ∧ task.Answered s.answers
  requests : ∀ request ∈ s.sent, RouteListed s.answers request

/-- The inventory, the routes, their rows and the selected route are the open device's. -/
structure Belongs (s : State) (data : Value) : Prop where
  loaded : (⟨endpoint s.id, .inventory⟩, data) ∈ s.answers
  sections : s.page.sections = some data
  routes : Listed s.answers (endpoint s.id) s.routes
  rows : ∀ row ∈ s.page.rows, row ∈ s.routes
  selected : ∀ route, s.selected = some route → route ∈ s.routes

structure Sound (s : State) : Prop extends Operations s where
  current : ∀ k task, s.tasks.lookup k = some task → task.sequence = s.sequence → task.id = s.id
  held : ∀ inventory, s.inventory = some inventory → Belongs s inventory

section

variable {s t : State} {answers more : List (Request × Value)} {request : Request}

/-! More answers. -/

theorem Listed.append {device : String} {routes : List Value} (listed : Listed answers device routes) :
    Listed (answers ++ more) device routes := by
  rcases listed with ⟨body, member, items⟩
  exact ⟨body, List.mem_append_left _ member, items⟩

theorem RouteListed.append (listed : RouteListed answers request) : RouteListed (answers ++ more) request := by
  intro route named
  rcases listed route named with ⟨routes, found, member⟩
  exact ⟨routes, found.append, member⟩

theorem Task.Answered.append {task : Task} (answered : task.Answered answers) : task.Answered (answers ++ more) := by
  cases task with
  | reload sequence id inventory routes =>
      constructor
      · intro value given
        exact List.mem_append_left _ (answered.1 value given)
      · intro value given
        exact List.mem_append_left _ (answered.2 value given)
  | mutation sequence id validated => trivial
  | listing sequence id => trivial

theorem routeListed_unnamed (unnamed : request.resource.route = none) : RouteListed answers request := by
  intro route named
  rw [unnamed] at named
  cases named

/-! What leaves the operations alone. -/

structure SameOperations (s t : State) : Prop where
  id : t.id = s.id
  sequence : t.sequence = s.sequence
  tasks : t.tasks = s.tasks
  started : t.started = s.started
  sent : t.sent = s.sent
  answers : t.answers = s.answers

theorem Sound.same (sound : Sound s) (same : SameOperations s t)
    (held : ∀ inventory, t.inventory = some inventory → Belongs t inventory) : Sound t := by
  refine ⟨⟨?_, ?_⟩, ?_, held⟩
  · rw [same.tasks, same.started, same.sequence, same.answers]
    exact sound.tasks
  · rw [same.sent, same.answers]
    exact sound.requests
  · rw [same.tasks, same.sequence, same.id]
    exact sound.current

structure Keeps (s t : State) : Prop extends SameOperations s t where
  inventory : t.inventory = none ∨ t.inventory = s.inventory
  routes : t.routes = s.routes
  rows : t.page.rows = s.page.rows
  sections : t.page.sections = s.page.sections
  selected : ∀ route, t.selected = some route → s.selected = some route ∨ route ∈ s.page.rows

theorem Keeps.sound (keeps : Keeps s t) (sound : Sound s) : Sound t := by
  apply sound.same keeps.toSameOperations
  intro inventory found
  rcases keeps.inventory with dropped | same
  · rw [dropped] at found
    cases found
  · rw [same] at found
    have held := sound.held inventory found
    refine ⟨?_, ?_, ?_, ?_, ?_⟩
    · rw [keeps.id, keeps.answers]
      exact held.loaded
    · rw [keeps.sections]
      exact held.sections
    · rw [keeps.id, keeps.answers, keeps.routes]
      exact held.routes
    · rw [keeps.rows, keeps.routes]
      exact held.rows
    · intro route chosen
      rw [keeps.routes]
      rcases keeps.selected route chosen with before | row
      · exact held.selected route before
      · exact held.rows route row

theorem Keeps.refl (s : State) : Keeps s s := ⟨⟨rfl, rfl, rfl, rfl, rfl, rfl⟩, .inr rfl, rfl, rfl, rfl, fun _ => .inl⟩

theorem loadRoute_keeps {route : Option Value} (row : ∀ chosen, route = some chosen → chosen ∈ s.page.rows) :
    Keeps s (s.loadRoute route) :=
  ⟨⟨rfl, rfl, rfl, rfl, rfl, rfl⟩, .inr rfl, rfl, rfl, rfl, fun chosen same => .inr (row chosen same)⟩

theorem reloadFailed_keeps (sequence : Nat) (failure : Failure) : Keeps s (s.reloadFailed sequence failure) := by
  unfold State.reloadFailed
  split
  · exact ⟨⟨rfl, rfl, rfl, rfl, rfl, rfl⟩, .inl rfl, rfl, rfl, rfl, fun _ => .inl⟩
  · exact Keeps.refl s

theorem mutationFailed_keeps (sequence : Nat) (saved : Bool) (failure : Failure) :
    Keeps s (s.mutationFailed sequence saved failure) := by
  unfold State.mutationFailed
  split
  · exact ⟨⟨rfl, rfl, rfl, rfl, rfl, rfl⟩, .inr rfl, rfl, rfl, rfl, fun _ => .inl⟩
  · exact Keeps.refl s

/-! Operations begin, wait and end. -/

theorem ends_sound (sound : Sound s) (k : Nat) : Sound (s.ends k) := by
  have earlier : ∀ other task, (s.ends k).tasks.lookup other = some task → s.tasks.lookup other = some task := by
    intro other task found
    have found : (erase s.tasks k).lookup other = some task := found
    rw [lookup_erase] at found
    split at found
    · cases found
    · exact found
  exact ⟨⟨fun other task found => sound.tasks other task (earlier other task found), sound.requests⟩,
    fun other task found => sound.current other task (earlier other task found),
    fun inventory found => ⟨(sound.held inventory found).loaded, (sound.held inventory found).sections,
      (sound.held inventory found).routes, (sound.held inventory found).rows, (sound.held inventory found).selected⟩⟩

theorem answered_sound (sound : Sound s) (id : Option String) (resource : Resource) (value : Value) :
    Sound (s.answered id resource value) := by
  refine ⟨⟨?_, ?_⟩, sound.current, ?_⟩
  · intro k task found
    have held := sound.tasks k task found
    exact ⟨held.1, held.2.1, held.2.2.append⟩
  · intro request member
    exact (sound.requests request member).append
  · intro inventory found
    have held := sound.held inventory found
    exact ⟨List.mem_append_left _ held.loaded, held.sections, held.routes.append, held.rows, held.selected⟩

theorem waits_sound (sound : Sound s) {k : Nat} {task next : Task} (found : s.tasks.lookup k = some task)
    (sequence : next.sequence = task.sequence) (id : next.id = task.id) (answered : next.Answered s.answers) :
    Sound (s.waits k next) := by
  have source : ∀ other later, (s.waits k next).tasks.lookup other = some later →
      (other = k ∧ later = next) ∨ s.tasks.lookup other = some later := by
    intro other later held
    have held : (set s.tasks k next).lookup other = some later := held
    rw [lookup_set] at held
    split at held
    · rename_i same
      exact .inl ⟨same, (Option.some.inj held).symm⟩
    · exact .inr held
  have before := sound.tasks k task found
  refine ⟨⟨?_, sound.requests⟩, ?_, ?_⟩
  · intro other later held
    rcases source other later held with ⟨rfl, rfl⟩ | old
    · exact ⟨before.1, sequence ▸ before.2.1, answered⟩
    · exact sound.tasks other later old
  · intro other later held now
    rcases source other later held with ⟨rfl, rfl⟩ | old
    · rw [id]
      exact sound.current _ task found (sequence.symm.trans now)
    · exact sound.current other later old now
  · intro inventory present
    have held := sound.held inventory present
    exact ⟨held.loaded, held.sections, held.routes, held.rows, held.selected⟩

theorem begins_lookup {task later : Task} {resources : List Resource} {k : Nat}
    (found : (s.begins task resources).tasks.lookup k = some later) :
    k = s.started ∧ later = task ∨ s.tasks.lookup k = some later := by
  have found : (s.tasks ++ [(s.started, task)]).lookup k = some later := found
  rw [List.lookup_append] at found
  cases old : s.tasks.lookup k with
  | some held =>
      rw [old] at found
      exact .inr found
  | none =>
      rw [old, Option.none_or, lookup_cons_key] at found
      split at found
      · rename_i same
        exact .inl ⟨same, (Option.some.inj found).symm⟩
      · cases found

theorem begins_requests (operations : Operations s) {task : Task} {resources : List Resource}
    (listed : ∀ resource ∈ resources, RouteListed s.answers ⟨endpoint task.id, resource⟩) :
    ∀ request ∈ (s.begins task resources).sent, RouteListed s.answers request := by
  intro request member
  have member : request ∈ s.sent ++ resources.map (fun resource => ⟨endpoint task.id, resource⟩) := member
  rcases List.mem_append.mp member with before | now
  · exact operations.requests request before
  · rcases List.mem_map.mp now with ⟨resource, chosen, same⟩
    rw [← same]
    exact listed resource chosen

theorem begins_sound (sound : Sound s) {task : Task} {resources : List Resource} (sequence : task.sequence = s.sequence)
    (id : task.id = s.id) (answered : task.Answered s.answers)
    (listed : ∀ resource ∈ resources, RouteListed s.answers ⟨endpoint task.id, resource⟩) :
    Sound (s.begins task resources) := by
  refine ⟨⟨?_, begins_requests sound.toOperations listed⟩, ?_, ?_⟩
  · intro k later found
    rcases begins_lookup found with ⟨rfl, rfl⟩ | old
    · exact ⟨Nat.lt_succ_self _, Nat.le_of_eq sequence, answered⟩
    · have before := sound.tasks k later old
      exact ⟨Nat.lt_succ_of_lt before.1, before.2⟩
  · intro k later found now
    rcases begins_lookup found with ⟨rfl, rfl⟩ | old
    · exact id
    · exact sound.current k later old now
  · intro inventory present
    have held := sound.held inventory present
    exact ⟨held.loaded, held.sections, held.routes, held.rows, held.selected⟩

/-- A new sequence number leaves every operation under way behind. -/
theorem superseded_sound (operations : Operations s) (sequence : s.sequence < t.sequence) (tasks : t.tasks = s.tasks)
    (started : t.started = s.started) (sent : t.sent = s.sent) (answers : t.answers = s.answers)
    (dropped : t.inventory = none) : Sound t := by
  refine ⟨⟨?_, ?_⟩, ?_, ?_⟩
  · intro k task found
    rw [tasks] at found
    have before := operations.tasks k task found
    rw [started, answers]
    exact ⟨before.1, Nat.le_trans before.2.1 (Nat.le_of_lt sequence), before.2.2⟩
  · rw [sent, answers]
    exact operations.requests
  · intro k task found now
    rw [tasks] at found
    have before := (operations.tasks k task found).2.1
    omega
  · intro inventory present
    rw [dropped] at present
    cases present

theorem reload_sound (operations : Operations s) : Sound s.reload := by
  let cleared : State := { s with
    sequence := s.sequence + 1
    busy := true
    inventory := none
    page := { s.page with hidden := true, heading := none, status := .resolving }
    shownError := none }
  have fresh : Sound cleared := superseded_sound operations (Nat.lt_succ_self _) rfl rfl rfl rfl rfl
  have waiting : Task.Answered cleared.answers (.reload cleared.sequence cleared.id none none) := ⟨nofun, nofun⟩
  apply begins_sound fresh rfl rfl waiting
  intro resource listed
  simp only [List.mem_cons, List.not_mem_nil, or_false] at listed
  rcases listed with rfl | rfl
  · exact routeListed_unnamed rfl
  · exact routeListed_unnamed rfl

theorem mutate_sound (sound : Sound s) (validated : Bool) (resource : Resource)
    (listed : s.inventory.isSome = true → RouteListed s.answers ⟨endpoint s.id, resource⟩) :
    Sound (s.mutate validated resource) := by
  unfold State.mutate
  split
  · exact sound
  · rename_i idle
    have present : s.inventory.isSome = true := by
      cases held : s.inventory with
      | none => simp [held] at idle
      | some inventory => rfl
    have saving : Keeps s { s with busy := true, page := { s.page with status := .saving }, shownError := none } :=
      ⟨⟨rfl, rfl, rfl, rfl, rfl, rfl⟩, .inr rfl, rfl, rfl, rfl, fun _ => .inl⟩
    have waiting : Task.Answered s.answers (.mutation s.sequence s.id validated) := trivial
    apply begins_sound (saving.sound sound) rfl rfl waiting
    intro other chosen
    rw [List.mem_singleton] at chosen
    rw [chosen]
    exact listed present

/-! Answers. -/

theorem routeRows_mem (routes : List Value) : ∀ row ∈ (routeRows routes).1, row ∈ routes := by
  induction routes with
  | nil => exact fun row member => member
  | cons route rest ih =>
      intro row member
      unfold routeRows at member
      split at member
      · cases member
      · cases member
      · rename_i same
        cases same
        rcases List.mem_cons.mp member with rfl | later
        · exact List.mem_cons_self
        · exact List.mem_cons_of_mem _ (ih row later)

theorem renderInventory_same (s : State) (data : Value) : SameOperations s (s.renderInventory data).1 := by
  unfold State.renderInventory
  split
  · exact ⟨rfl, rfl, rfl, rfl, rfl, rfl⟩
  · split
    · exact ⟨rfl, rfl, rfl, rfl, rfl, rfl⟩
    · exact ⟨rfl, rfl, rfl, rfl, rfl, rfl⟩

theorem renderInventory_ok {data : Value} (rendered : (s.renderInventory data).2 = .ok ()) :
    (s.renderInventory data).1.routes = s.routes ∧ (s.renderInventory data).1.selected = s.selected ∧
      (s.renderInventory data).1.inventory = s.inventory ∧ (s.renderInventory data).1.page.sections = some data ∧
      ∀ row ∈ (s.renderInventory data).1.page.rows, row ∈ s.routes := by
  unfold State.renderInventory at rendered ⊢
  split at rendered
  · cases rendered
  · split at rendered
    · cases rendered
    · exact ⟨rfl, rfl, rfl, rfl, routeRows_mem s.routes⟩

theorem readRoutes_ok {routes : Value} {items : List Value} (read : readRoutes routes = .ok items) :
    listedItems routes = .ok items := by
  rcases (bind_eq_ok _ _ _).mp read with ⟨_, _, found⟩
  exact found

theorem readAnswers_ok {inventory routes : Value} {items : List Value} (read : readAnswers inventory routes = .ok items) :
    listedItems routes = .ok items := by
  rcases (bind_eq_ok _ _ _).mp read with ⟨_, _, rest⟩
  exact readRoutes_ok rest

theorem SameOperations.trans {u : State} (first : SameOperations s t) (second : SameOperations t u) :
    SameOperations s u :=
  ⟨second.id.trans first.id, second.sequence.trans first.sequence, second.tasks.trans first.tasks,
    second.started.trans first.started, second.sent.trans first.sent, second.answers.trans first.answers⟩

theorem reloadRendered_sound (sound : Sound s) {inventory routes : Value} {items : List Value} {held : State}
    (same : SameOperations s held) (holds : held.inventory = some inventory) (items_held : held.routes = items)
    (unselected : held.selected = none) (loaded : (⟨endpoint s.id, .inventory⟩, inventory) ∈ s.answers)
    (listed : (⟨endpoint s.id, .staticRoutes⟩, routes) ∈ s.answers) (found : listedItems routes = .ok items) :
    Sound (State.reloadRendered s.sequence (held.renderInventory inventory)) := by
  have rendering := renderInventory_same held inventory
  have shown := @renderInventory_ok held inventory
  generalize held.renderInventory inventory = outcome at rendering shown ⊢
  rcases outcome with ⟨rendered, failure | done⟩
  · have operations := same.trans rendering
    have dropped : (rendered.reloadFailed s.sequence failure).inventory = none := by
      unfold State.reloadFailed
      rw [if_pos operations.sequence.symm]
    apply sound.same (operations.trans (reloadFailed_keeps _ _).toSameOperations)
    intro other present
    have present : (rendered.reloadFailed s.sequence failure).inventory = some other := present
    rw [dropped] at present
    cases present
  · have operations := same.trans rendering
    rcases shown rfl with ⟨shownRoutes, shownSelected, shownInventory, sections, rows⟩
    have finish : SameOperations rendered { rendered with
        busy := false, page := { rendered.page with hidden := false, status := .loaded } } := ⟨rfl, rfl, rfl, rfl, rfl, rfl⟩
    apply sound.same (operations.trans finish)
    intro other present
    have present : rendered.inventory = some other := present
    have equal : rendered.inventory = some inventory := shownInventory.trans holds
    cases present.symm.trans equal
    refine ⟨?_, sections, ?_, ?_, ?_⟩
    · change (⟨endpoint rendered.id, .inventory⟩, _) ∈ rendered.answers
      rw [operations.id, operations.answers]
      exact loaded
    · change Listed rendered.answers (endpoint rendered.id) rendered.routes
      have routesHeld : rendered.routes = items := shownRoutes.trans items_held
      rw [operations.id, operations.answers, routesHeld]
      exact ⟨routes, listed, found⟩
    · change ∀ row ∈ rendered.page.rows, row ∈ rendered.routes
      have routesHeld : rendered.routes = held.routes := shownRoutes
      rw [routesHeld]
      exact rows
    · intro route chosen
      have chosen : rendered.selected = some route := chosen
      have empty : rendered.selected = none := shownSelected.trans unselected
      rw [empty] at chosen
      cases chosen

theorem reloaded_sound (sound : Sound s) {sequence : Nat} {inventory routes : Value}
    (loaded : sequence = s.sequence → (⟨endpoint s.id, .inventory⟩, inventory) ∈ s.answers)
    (listed : sequence = s.sequence → (⟨endpoint s.id, .staticRoutes⟩, routes) ∈ s.answers) :
    Sound (s.reloaded sequence inventory routes) := by
  unfold State.reloaded
  split
  · exact sound
  · rename_i now
    have now : sequence = s.sequence := not_not.mp now
    split
    · exact (reloadFailed_keeps _ _).sound sound
    · rename_i items read
      subst now
      exact reloadRendered_sound sound ⟨rfl, rfl, rfl, rfl, rfl, rfl⟩ rfl rfl rfl (loaded rfl) (listed rfl)
        (readAnswers_ok read)

theorem mutated_sound (sound : Sound s) {sequence : Nat} {routes : Value}
    (listed : sequence = s.sequence → (⟨endpoint s.id, .staticRoutes⟩, routes) ∈ s.answers) :
    Sound (s.mutated sequence routes) := by
  unfold State.mutated
  split
  · exact sound
  · rename_i now
    have now : sequence = s.sequence := not_not.mp now
    split
    · exact (mutationFailed_keeps _ _ _).sound sound
    · rename_i items read
      -- the routes are replaced together with their rows and the selection
      have replaced : Sound ((State.loadRoute { s with routes := items } none).renderRoutes).1 := by
        have same : SameOperations s ((State.loadRoute { s with routes := items } none).renderRoutes).1 :=
          ⟨rfl, rfl, rfl, rfl, rfl, rfl⟩
        apply sound.same same
        intro inventory present
        have held := sound.held inventory present
        exact ⟨held.loaded, held.sections, ⟨routes, listed now, readRoutes_ok read⟩, routeRows_mem items, nofun⟩
      generalize (State.loadRoute { s with routes := items } none).renderRoutes = outcome at replaced ⊢
      rcases outcome with ⟨rendered, failure | done⟩
      · exact (mutationFailed_keeps _ _ _).sound replaced
      · have finish : Keeps rendered { rendered with busy := false, page := { rendered.page with status := .saved } } :=
          ⟨⟨rfl, rfl, rfl, rfl, rfl, rfl⟩, .inr rfl, rfl, rfl, rfl, fun _ => .inl⟩
        exact finish.sound replaced

/-! One event. -/

theorem settle_sound (sound : Sound s) (k : Nat) (part : State.Part) (outcome : Except Failure Value) :
    Sound (s.settle k part outcome) := by
  -- an operation of the current sequence is one of the open device
  have current : ∀ {task : Task}, s.tasks.lookup k = some task → task.sequence = s.sequence → endpoint task.id = endpoint s.id :=
    fun found now => by rw [sound.current k _ found now]
  have answered : ∀ {task : Task}, s.tasks.lookup k = some task → task.Answered s.answers :=
    fun found => (sound.tasks k _ found).2.2
  unfold State.settle
  split
  · exact (reloadFailed_keeps _ _).sound (ends_sound sound k)
  · exact (reloadFailed_keeps _ _).sound (ends_sound sound k)
  · rename_i sequence id value found
    have waiting : Task.Answered (s.answered id .inventory value).answers (.reload sequence id (some value) none) := by
      refine ⟨?_, nofun⟩
      intro other given
      cases given
      exact List.mem_append_right _ List.mem_cons_self
    exact waits_sound (answered_sound sound id .inventory value) found rfl rfl waiting
  · rename_i sequence id value found
    have waiting : Task.Answered (s.answered id .staticRoutes value).answers (.reload sequence id none (some value)) := by
      refine ⟨nofun, ?_⟩
      intro other given
      cases given
      exact List.mem_append_right _ List.mem_cons_self
    exact waits_sound (answered_sound sound id .staticRoutes value) found rfl rfl waiting
  · rename_i sequence id routes value found
    apply reloaded_sound (ends_sound (answered_sound sound id .inventory value) k)
    · intro now
      have device := current found now
      change (⟨endpoint s.id, .inventory⟩, value) ∈ s.answers ++ [(⟨endpoint id, .inventory⟩, value)]
      rw [← device]
      exact List.mem_append_right _ List.mem_cons_self
    · intro now
      have device := current found now
      change (⟨endpoint s.id, .staticRoutes⟩, routes) ∈ s.answers ++ [(⟨endpoint id, .inventory⟩, value)]
      rw [← device]
      exact List.mem_append_left _ ((answered found).2 routes rfl)
  · rename_i sequence id inventory value found
    apply reloaded_sound (ends_sound (answered_sound sound id .staticRoutes value) k)
    · intro now
      have device := current found now
      change (⟨endpoint s.id, .inventory⟩, inventory) ∈ s.answers ++ [(⟨endpoint id, .staticRoutes⟩, value)]
      rw [← device]
      exact List.mem_append_left _ ((answered found).1 inventory rfl)
    · intro now
      have device := current found now
      change (⟨endpoint s.id, .staticRoutes⟩, value) ∈ s.answers ++ [(⟨endpoint id, .staticRoutes⟩, value)]
      rw [← device]
      exact List.mem_append_right _ List.mem_cons_self
  · exact (mutationFailed_keeps _ _ _).sound (ends_sound sound k)
  · rename_i sequence id validated value found
    split
    · exact (mutationFailed_keeps _ _ _).sound (ends_sound sound k)
    · have waiting : Task.Answered s.answers (.listing sequence id) := trivial
      have listing : Sound (s.waits k (.listing sequence id)) := waits_sound sound found rfl rfl waiting
      refine ⟨⟨listing.tasks, ?_⟩, listing.current, ?_⟩
      · intro request member
        rcases List.mem_append.mp member with before | now
        · exact listing.requests request before
        · rw [List.mem_singleton.mp now]
          exact routeListed_unnamed rfl
      · intro inventory present
        have held := listing.held inventory present
        exact ⟨held.loaded, held.sections, held.routes, held.rows, held.selected⟩
  · exact (mutationFailed_keeps _ _ _).sound (ends_sound sound k)
  · rename_i sequence id value found
    apply mutated_sound (ends_sound (answered_sound sound id .staticRoutes value) k)
    intro now
    have device := current found now
    change (⟨endpoint s.id, .staticRoutes⟩, value) ∈ s.answers ++ [(⟨endpoint id, .staticRoutes⟩, value)]
    rw [← device]
    exact List.mem_append_right _ List.mem_cons_self
  · exact sound

/-- A row of the view is a route listed for the open device. -/
theorem Sound.rowListed (sound : Sound s) (resource : Resource) {route : Value} (names : resource.route = some route)
    (member : s.inventory.isSome = true → route ∈ s.routes) :
    s.inventory.isSome = true → RouteListed s.answers ⟨endpoint s.id, resource⟩ := by
  intro present other named
  rcases Option.isSome_iff_exists.mp present with ⟨inventory, found⟩
  have same : resource.route = some other := named
  cases names.symm.trans same
  exact ⟨s.routes, (sound.held inventory found).routes, member present⟩

theorem openRoute_sound (sound : Sound s) (id : String) : Sound (s.openRoute id) := by
  unfold State.openRoute
  dsimp only
  split
  · apply reload_sound
    exact ⟨sound.tasks, sound.requests⟩
  · rename_i stays
    have same : some id = s.id := by
      simp only [Bool.or_eq_true, bne_iff_ne, not_or, not_not] at stays
      exact stays.1.2.symm
    have activated : Keeps s { s with active := true, id := some id } :=
      ⟨⟨same, rfl, rfl, rfl, rfl, rfl⟩, .inr rfl, rfl, rfl, rfl, fun _ => .inl⟩
    exact activated.sound sound

theorem delete_sound (sound : Sound s) (row : Nat) (confirmed : Bool) : Sound (s.delete row confirmed) := by
  unfold State.delete
  cases clicked : s.page.rows[row]? with
  | none => exact sound
  | some route =>
      cases confirmed with
      | false => exact sound
      | true =>
          apply mutate_sound sound
          apply sound.rowListed (.delete route) rfl
          intro present
          rcases Option.isSome_iff_exists.mp present with ⟨inventory, found⟩
          exact (sound.held inventory found).rows route (List.mem_of_getElem? clicked)

theorem submit_sound (sound : Sound s) (payload : Value) : Sound (s.mutate true (s.submission payload)) := by
  apply mutate_sound sound
  unfold State.submission
  cases chosen : s.selected.filter truthy with
  | none => exact fun _ => routeListed_unnamed rfl
  | some route =>
      apply sound.rowListed (.update route payload) rfl
      intro present
      rcases Option.isSome_iff_exists.mp present with ⟨inventory, found⟩
      exact (sound.held inventory found).selected route (Option.filter_eq_some_iff.mp chosen).1

theorem step_sound (event : Event) (sound : Sound s) : Sound (step event s) := by
  cases event with
  | canNavigate next confirmed =>
      change Sound (s.canNavigate next confirmed)
      unfold State.canNavigate
      split
      · split
        · have kept : Keeps s { s with dirty := false } :=
            ⟨⟨rfl, rfl, rfl, rfl, rfl, rfl⟩, .inr rfl, rfl, rfl, rfl, fun _ => .inl⟩
          exact kept.sound sound
        · exact sound
      · exact sound
  | openRoute id => exact openRoute_sound sound id
  | leave =>
      have kept : Keeps s { s with active := false } :=
        ⟨⟨rfl, rfl, rfl, rfl, rfl, rfl⟩, .inr rfl, rfl, rfl, rfl, fun _ => .inl⟩
      exact kept.sound sound
  | invalidate => exact superseded_sound sound.toOperations (Nat.lt_succ_self _) rfl rfl rfl rfl rfl
  | refresh confirmed =>
      change Sound (if s.discard confirmed then s.reload else s)
      split
      · exact reload_sound sound.toOperations
      · exact sound
  | blank confirmed =>
      change Sound (if s.discard confirmed then s.loadRoute none else s)
      split
      · exact (loadRoute_keeps (fun _ same => by cases same)).sound sound
      · exact sound
  | input =>
      have kept : Keeps s { s with dirty := true } :=
        ⟨⟨rfl, rfl, rfl, rfl, rfl, rfl⟩, .inr rfl, rfl, rfl, rfl, fun _ => .inl⟩
      exact kept.sound sound
  | edit row confirmed =>
      change Sound (s.edit row confirmed)
      unfold State.edit
      cases clicked : s.page.rows[row]? with
      | none => exact sound
      | some route =>
          dsimp only
          split
          · apply (loadRoute_keeps _).sound sound
            intro chosen same
            cases same
            exact List.mem_of_getElem? clicked
          · exact sound
  | delete row confirmed => exact delete_sound sound row confirmed
  | submit payload =>
      cases payload with
      | error failure =>
          have kept : Keeps s { s with shownError := some failure } :=
            ⟨⟨rfl, rfl, rfl, rfl, rfl, rfl⟩, .inr rfl, rfl, rfl, rfl, fun _ => .inl⟩
          exact kept.sound sound
      | ok payload => exact submit_sound sound payload
  | settle k part outcome => exact settle_sound sound k part outcome

theorem start_sound : Sound State.start := by
  refine ⟨⟨?_, ?_⟩, ?_, ?_⟩
  · intro k task found
    cases found
  · intro request member
    cases member
  · intro k task found
    cases found
  · intro inventory present
    cases present

theorem run_sound (events : List Event) : Sound (run step State.start events) :=
  run_invariant Sound (fun event _ sound => step_sound event sound) start_sound events

/-! Operations the view has moved on from. -/

/-- What a step does to the operations under way: a sequence number is taken once, and never changed. -/
structure Evolves (s t : State) : Prop where
  sequence : s.sequence ≤ t.sequence
  started : s.started ≤ t.started
  active : t.active = true → s.active = true ∨ s.sequence < t.sequence
  tasks : ∀ k task, t.tasks.lookup k = some task →
    s.started ≤ k ∨ ∃ old, s.tasks.lookup k = some old ∧ old.sequence = task.sequence

structure Steady (s t : State) : Prop where
  sequence : t.sequence = s.sequence
  started : t.started = s.started
  active : t.active = s.active
  tasks : t.tasks = s.tasks

theorem Steady.refl (s : State) : Steady s s := ⟨rfl, rfl, rfl, rfl⟩

theorem Steady.trans {u : State} (first : Steady s t) (second : Steady t u) : Steady s u :=
  ⟨second.sequence.trans first.sequence, second.started.trans first.started, second.active.trans first.active,
    second.tasks.trans first.tasks⟩

theorem Evolves.steady {u : State} (evolves : Evolves s t) (steady : Steady t u) : Evolves s u := by
  constructor
  · rw [steady.sequence]
    exact evolves.sequence
  · rw [steady.started]
    exact evolves.started
  · rw [steady.active, steady.sequence]
    exact evolves.active
  · rw [steady.tasks]
    exact evolves.tasks

theorem Evolves.refl (s : State) : Evolves s s :=
  ⟨Nat.le_refl _, Nat.le_refl _, .inl, fun _ task found => .inr ⟨task, found, rfl⟩⟩

theorem Steady.evolves (steady : Steady s t) : Evolves s t := (Evolves.refl s).steady steady

theorem reloadFailed_steady (sequence : Nat) (failure : Failure) : Steady s (s.reloadFailed sequence failure) := by
  unfold State.reloadFailed
  split
  · exact ⟨rfl, rfl, rfl, rfl⟩
  · exact Steady.refl s

theorem mutationFailed_steady (sequence : Nat) (saved : Bool) (failure : Failure) :
    Steady s (s.mutationFailed sequence saved failure) := by
  unfold State.mutationFailed
  split
  · exact ⟨rfl, rfl, rfl, rfl⟩
  · exact Steady.refl s

theorem renderInventory_steady (s : State) (data : Value) : Steady s (s.renderInventory data).1 := by
  unfold State.renderInventory
  split
  · exact Steady.refl s
  · split
    · exact ⟨rfl, rfl, rfl, rfl⟩
    · exact ⟨rfl, rfl, rfl, rfl⟩

theorem reloaded_steady (sequence : Nat) (inventory routes : Value) : Steady s (s.reloaded sequence inventory routes) := by
  unfold State.reloaded
  split
  · exact Steady.refl s
  · split
    · exact reloadFailed_steady _ _
    · rename_i items _
      dsimp only
      have rendering := renderInventory_steady (State.loadRoute { s with inventory := some inventory, routes := items } none)
        inventory
      have held : Steady s (State.loadRoute { s with inventory := some inventory, routes := items } none) := ⟨rfl, rfl, rfl, rfl⟩
      generalize (State.loadRoute { s with inventory := some inventory, routes := items } none).renderInventory inventory =
        outcome at rendering ⊢
      rcases outcome with ⟨rendered, failure | done⟩
      · exact (held.trans rendering).trans (reloadFailed_steady _ _)
      · have finish : Steady rendered { rendered with
            busy := false, page := { rendered.page with hidden := false, status := .loaded } } := ⟨rfl, rfl, rfl, rfl⟩
        exact (held.trans rendering).trans finish

theorem mutated_steady (sequence : Nat) (routes : Value) : Steady s (s.mutated sequence routes) := by
  unfold State.mutated
  split
  · exact Steady.refl s
  · split
    · exact mutationFailed_steady _ _ _
    · rename_i items _
      have rendering : Steady s (State.loadRoute { s with routes := items } none).renderRoutes.1 := ⟨rfl, rfl, rfl, rfl⟩
      generalize (State.loadRoute { s with routes := items } none).renderRoutes = outcome at rendering ⊢
      rcases outcome with ⟨rendered, failure | done⟩
      · exact rendering.trans (mutationFailed_steady _ _ _)
      · have finish : Steady rendered { rendered with busy := false, page := { rendered.page with status := .saved } } :=
          ⟨rfl, rfl, rfl, rfl⟩
        exact rendering.trans finish

theorem ends_evolves (s : State) (k : Nat) : Evolves s (s.ends k) := by
  refine ⟨Nat.le_refl _, Nat.le_refl _, .inl, ?_⟩
  intro other task found
  have found : (erase s.tasks k).lookup other = some task := found
  rw [lookup_erase] at found
  split at found
  · cases found
  · exact .inr ⟨task, found, rfl⟩

theorem waits_evolves {k : Nat} {task next : Task} (found : s.tasks.lookup k = some task)
    (sequence : next.sequence = task.sequence) : Evolves s (s.waits k next) := by
  refine ⟨Nat.le_refl _, Nat.le_refl _, .inl, ?_⟩
  intro other later held
  have held : (set s.tasks k next).lookup other = some later := held
  rw [lookup_set] at held
  split at held
  · rename_i same
    cases held
    exact .inr ⟨task, by rw [same]; exact found, sequence.symm⟩
  · exact .inr ⟨later, held, rfl⟩

theorem begins_evolves (s : State) (task : Task) (resources : List Resource) : Evolves s (s.begins task resources) := by
  refine ⟨Nat.le_refl _, Nat.le_succ _, .inl, ?_⟩
  intro k later found
  rcases begins_lookup found with ⟨same, _⟩ | old
  · exact .inl (Nat.le_of_eq same.symm)
  · exact .inr ⟨later, old, rfl⟩

theorem reload_evolves (s : State) : Evolves s s.reload ∧ s.sequence < s.reload.sequence := by
  have later : s.sequence < s.reload.sequence := Nat.lt_succ_self _
  refine ⟨⟨Nat.le_of_lt later, Nat.le_succ _, fun _ => .inr later, ?_⟩, later⟩
  intro k task found
  rcases begins_lookup found with ⟨same, _⟩ | old
  · exact .inl (Nat.le_of_eq same.symm)
  · exact .inr ⟨task, old, rfl⟩

theorem mutate_evolves (s : State) (validated : Bool) (resource : Resource) : Evolves s (s.mutate validated resource) := by
  unfold State.mutate
  split
  · exact Evolves.refl s
  · have begun := begins_evolves { s with busy := true, page := { s.page with status := .saving }, shownError := none }
      (.mutation s.sequence s.id validated) [resource]
    exact ⟨begun.sequence, begun.started, begun.active, begun.tasks⟩

theorem settle_evolves (s : State) (k : Nat) (part : State.Part) (outcome : Except Failure Value) :
    Evolves s (s.settle k part outcome) := by
  have ended := ends_evolves s k
  unfold State.settle
  split
  · exact ended.steady (reloadFailed_steady _ _)
  · exact ended.steady (reloadFailed_steady _ _)
  · rename_i sequence id value found
    have waiting := @waits_evolves (s.answered id .inventory value) k _ (.reload sequence id (some value) none) found rfl
    exact ⟨waiting.sequence, waiting.started, waiting.active, waiting.tasks⟩
  · rename_i sequence id value found
    have waiting := @waits_evolves (s.answered id .staticRoutes value) k _ (.reload sequence id none (some value)) found rfl
    exact ⟨waiting.sequence, waiting.started, waiting.active, waiting.tasks⟩
  · rename_i sequence id routes value found
    have first : Evolves s ((s.answered id .inventory value).ends k) :=
      ⟨ended.sequence, ended.started, ended.active, ended.tasks⟩
    exact first.steady (reloaded_steady _ _ _)
  · rename_i sequence id inventory value found
    have first : Evolves s ((s.answered id .staticRoutes value).ends k) :=
      ⟨ended.sequence, ended.started, ended.active, ended.tasks⟩
    exact first.steady (reloaded_steady _ _ _)
  · exact ended.steady (mutationFailed_steady _ _ _)
  · rename_i sequence id validated value found
    split
    · exact ended.steady (mutationFailed_steady _ _ _)
    · have waiting := @waits_evolves s k _ (.listing sequence id) found rfl
      exact ⟨waiting.sequence, waiting.started, waiting.active, waiting.tasks⟩
  · exact ended.steady (mutationFailed_steady _ _ _)
  · rename_i sequence id value found
    have first : Evolves s ((s.answered id .staticRoutes value).ends k) :=
      ⟨ended.sequence, ended.started, ended.active, ended.tasks⟩
    exact first.steady (mutated_steady _ _)
  · exact Evolves.refl s

theorem step_evolves (event : Event) (s : State) : Evolves s (step event s) := by
  cases event with
  | canNavigate next confirmed =>
      change Evolves s (s.canNavigate next confirmed)
      unfold State.canNavigate
      split
      · split
        · exact Steady.evolves ⟨rfl, rfl, rfl, rfl⟩
        · exact Evolves.refl s
      · exact Evolves.refl s
  | openRoute id =>
      change Evolves s (s.openRoute id)
      unfold State.openRoute
      dsimp only
      split
      · have loading := reload_evolves { s with active := true, id := some id }
        exact ⟨loading.1.sequence, loading.1.started, fun _ => .inr loading.2, loading.1.tasks⟩
      · rename_i stays
        have active : s.active = true := by
          simp only [Bool.or_eq_true, not_or] at stays
          simpa using stays.1.1
        exact ⟨Nat.le_refl _, Nat.le_refl _, fun _ => .inl active, (Evolves.refl s).tasks⟩
  | leave => exact ⟨Nat.le_refl _, Nat.le_refl _, nofun, (Evolves.refl s).tasks⟩
  | invalidate => exact ⟨Nat.le_succ _, Nat.le_refl _, .inl, (Evolves.refl s).tasks⟩
  | refresh confirmed =>
      change Evolves s (if s.discard confirmed then s.reload else s)
      split
      · exact (reload_evolves s).1
      · exact Evolves.refl s
  | blank confirmed =>
      change Evolves s (if s.discard confirmed then s.loadRoute none else s)
      split
      · exact Steady.evolves ⟨rfl, rfl, rfl, rfl⟩
      · exact Evolves.refl s
  | input => exact Steady.evolves ⟨rfl, rfl, rfl, rfl⟩
  | edit row confirmed =>
      change Evolves s (s.edit row confirmed)
      unfold State.edit
      split
      · split
        · exact Steady.evolves ⟨rfl, rfl, rfl, rfl⟩
        · exact Evolves.refl s
      · exact Evolves.refl s
  | delete row confirmed =>
      change Evolves s (s.delete row confirmed)
      unfold State.delete
      split
      · split
        · exact mutate_evolves s _ _
        · exact Evolves.refl s
      · exact Evolves.refl s
  | submit payload =>
      cases payload with
      | error failure => exact Steady.evolves ⟨rfl, rfl, rfl, rfl⟩
      | ok payload => exact mutate_evolves s _ _
  | settle k part outcome => exact settle_evolves s k part outcome

/-- The operations before the `n`-th are of an earlier sequence. -/
structure Superseded (n : Nat) (s : State) : Prop where
  started : n ≤ s.started
  tasks : ∀ k task, s.tasks.lookup k = some task → k < n → task.sequence < s.sequence

/-- The operations before the `n`-th are of an earlier sequence, or the view was left. -/
structure Past (n : Nat) (s : State) : Prop where
  started : n ≤ s.started
  tasks : ∀ k task, s.tasks.lookup k = some task → k < n → task.sequence < s.sequence ∨ s.active = false

theorem Superseded.step {n : Nat} (superseded : Superseded n s) (evolves : Evolves s t) : Superseded n t := by
  refine ⟨Nat.le_trans superseded.started evolves.started, ?_⟩
  intro k task found earlier
  have order := evolves.sequence
  rcases evolves.tasks k task found with later | ⟨old, held, same⟩
  · have before := superseded.started
    omega
  · have bound := superseded.tasks k old held earlier
    omega

theorem Past.step {n : Nat} (past : Past n s) (operations : Operations s) (evolves : Evolves s t) : Past n t := by
  refine ⟨Nat.le_trans past.started evolves.started, ?_⟩
  intro k task found earlier
  rcases evolves.tasks k task found with later | ⟨old, held, same⟩
  · have before := past.started
    omega
  · have bound := (operations.tasks k old held).2.1
    have order := evolves.sequence
    rcases past.tasks k old held earlier with behind | inactive
    · left
      omega
    · cases activity : t.active with
      | false => exact .inr rfl
      | true =>
          left
          rcases evolves.active activity with active | next
          · rw [inactive] at active
            cases active
          · omega

theorem run_superseded {n : Nat} (events : List Event) (superseded : Superseded n s) :
    Superseded n (run step s events) :=
  run_invariant (Superseded n) (fun event u kept => kept.step (step_evolves event u)) superseded events

theorem run_past {n : Nat} (events : List Event) (sound : Sound s) (past : Past n s) : Past n (run step s events) := by
  have kept : Sound (run step s events) ∧ Past n (run step s events) := by
    apply run_invariant (fun u => Sound u ∧ Past n u) _ ⟨sound, past⟩
    intro event u both
    exact ⟨step_sound event both.1, both.2.step both.1.toOperations (step_evolves event u)⟩
  exact kept.2

/-- A new sequence begins: the view is invalidated or reloaded, or another device is opened. -/
inductive Supersedes (s : State) : Event → Prop where
  | invalidate : Supersedes s .invalidate
  | other (id : String) (differs : s.id ≠ some id) : Supersedes s (.openRoute id)
  | refresh (confirmed : Bool) (discards : s.discard confirmed = true) : Supersedes s (.refresh confirmed)

theorem Supersedes.sequence {event : Event} (supersedes : Supersedes s event) : s.sequence < (step event s).sequence := by
  cases supersedes with
  | invalidate => exact Nat.lt_succ_self _
  | other id differs =>
      have load : (!s.active || s.id != some id || s.inventory.isNone && !s.busy) = true := by simp [differs]
      have reloads : step (.openRoute id) s = State.reload { s with active := true, id := some id } := by
        change s.openRoute id = _
        unfold State.openRoute
        exact if_pos load
      rw [reloads]
      exact (reload_evolves { s with active := true, id := some id }).2
  | refresh confirmed discards =>
      have reloads : step (.refresh confirmed) s = s.reload := if_pos discards
      rw [reloads]
      exact (reload_evolves s).2

theorem Supersedes.superseded {event : Event} (supersedes : Supersedes s event) (operations : Operations s) :
    Superseded s.started (step event s) := by
  have evolves := step_evolves event s
  have later := supersedes.sequence
  refine ⟨evolves.started, ?_⟩
  intro k task found earlier
  rcases evolves.tasks k task found with new | ⟨old, held, same⟩
  · omega
  · have bound := (operations.tasks k old held).2.1
    omega

theorem leave_past (s : State) : Past s.started (step .leave s) := ⟨Nat.le_refl _, fun _ _ _ _ => .inr rfl⟩

/-! What the user sees. -/

structure View where
  id : Option String
  inventory : Option Value
  routes : List Value
  selected : Option Value
  busy : Bool
  dirty : Bool
  page : Page
  deriving Repr

def State.view (s : State) : View := ⟨s.id, s.inventory, s.routes, s.selected, s.busy, s.dirty, s.page⟩

def State.shown (s : State) : Option View := if s.active then some s.view else none

theorem shown_inactive (inactive : s.active = false) : s.shown = none := by
  unfold State.shown
  rw [inactive]
  rfl

theorem settle_active (s : State) (k : Nat) (part : State.Part) (outcome : Except Failure Value) :
    (s.settle k part outcome).active = s.active := by
  unfold State.settle
  split
  · exact (reloadFailed_steady _ _).active
  · exact (reloadFailed_steady _ _).active
  · rfl
  · rfl
  · exact (reloaded_steady _ _ _).active
  · exact (reloaded_steady _ _ _).active
  · exact (mutationFailed_steady _ _ _).active
  · split
    · exact (mutationFailed_steady _ _ _).active
    · rfl
  · exact (mutationFailed_steady _ _ _).active
  · exact (mutated_steady _ _).active
  · rfl

/-- Two states the user cannot tell apart. -/
structure Alike (s t : State) : Prop where
  view : t.view = s.view
  shownError : t.shownError = s.shownError

/-- The answer to an operation of an earlier sequence changes nothing the view holds, and is not reported. -/
theorem settle_alike {k : Nat} (stale : ∀ task, s.tasks.lookup k = some task → task.sequence < s.sequence)
    (part : State.Part) (outcome : Except Failure Value) : Alike s (s.settle k part outcome) := by
  have apart : ∀ {task : Task}, s.tasks.lookup k = some task → task.sequence ≠ s.sequence :=
    fun found => Nat.ne_of_lt (stale _ found)
  unfold State.settle
  split
  · rename_i sequence id routes failure found
    have unchanged : (s.ends k).reloadFailed sequence failure = s.ends k := if_neg (apart found)
    rw [unchanged]
    exact ⟨rfl, rfl⟩
  · rename_i sequence id inventory failure found
    have unchanged : (s.ends k).reloadFailed sequence failure = s.ends k := if_neg (apart found)
    rw [unchanged]
    exact ⟨rfl, rfl⟩
  · exact ⟨rfl, rfl⟩
  · exact ⟨rfl, rfl⟩
  · rename_i sequence id routes value found
    have unchanged : ((s.answered id .inventory value).ends k).reloaded sequence value routes =
        (s.answered id .inventory value).ends k := if_pos (apart found)
    rw [unchanged]
    exact ⟨rfl, rfl⟩
  · rename_i sequence id inventory value found
    have unchanged : ((s.answered id .staticRoutes value).ends k).reloaded sequence inventory value =
        (s.answered id .staticRoutes value).ends k := if_pos (apart found)
    rw [unchanged]
    exact ⟨rfl, rfl⟩
  · rename_i sequence id validated failure found
    have unchanged : (s.ends k).mutationFailed sequence false failure = s.ends k := if_neg (apart found)
    rw [unchanged]
    exact ⟨rfl, rfl⟩
  · rename_i sequence id validated value found
    split
    · rename_i failure _
      have unchanged : (s.ends k).mutationFailed sequence false failure = s.ends k := if_neg (apart found)
      rw [unchanged]
      exact ⟨rfl, rfl⟩
    · exact ⟨rfl, rfl⟩
  · rename_i sequence id failure found
    have unchanged : (s.ends k).mutationFailed sequence true failure = s.ends k := if_neg (apart found)
    rw [unchanged]
    exact ⟨rfl, rfl⟩
  · rename_i sequence id value found
    have unchanged : ((s.answered id .staticRoutes value).ends k).mutated sequence value =
        (s.answered id .staticRoutes value).ends k := if_pos (apart found)
    rw [unchanged]
    exact ⟨rfl, rfl⟩
  · exact ⟨rfl, rfl⟩

theorem Superseded.settle {n k : Nat} (superseded : Superseded n s) (earlier : k < n) (part : State.Part)
    (outcome : Except Failure Value) : Alike s (s.settle k part outcome) :=
  settle_alike (fun task found => superseded.tasks k task found earlier) part outcome

theorem Past.settle {n k : Nat} (past : Past n s) (earlier : k < n) (part : State.Part)
    (outcome : Except Failure Value) : (s.settle k part outcome).shown = s.shown := by
  have activity := settle_active s k part outcome
  cases active : s.active with
  | false => rw [shown_inactive active, shown_inactive (activity.trans active)]
  | true =>
      have stale : ∀ task, s.tasks.lookup k = some task → task.sequence < s.sequence := by
        intro task found
        rcases past.tasks k task found earlier with behind | inactive
        · exact behind
        · rw [active] at inactive
          cases inactive
      unfold State.shown
      rw [activity, (settle_alike stale part outcome).view]

/-- What the view holds is the open device's, and a requested route was listed for the device of the request.
Once the view is superseded, no answer to an earlier operation changes it or is reported; once it was left,
none changes what it shows. -/
theorem details_of_one_device (events : List Event) :
    (∀ inventory, (run step State.start events).inventory = some inventory →
      Belongs (run step State.start events) inventory) ∧
    (∀ request ∈ (run step State.start events).sent, RouteListed (run step State.start events).answers request) ∧
    (∀ event, Supersedes (run step State.start events) event → ∀ later k part outcome,
      k < (run step State.start events).started →
      Alike (run step State.start (events ++ event :: later))
        (step (.settle k part outcome) (run step State.start (events ++ event :: later)))) ∧
    ∀ later k part outcome, k < (run step State.start events).started →
      (step (.settle k part outcome) (run step State.start (events ++ .leave :: later))).shown =
        (run step State.start (events ++ .leave :: later)).shown := by
  have sound := run_sound events
  refine ⟨sound.held, sound.requests, ?_, ?_⟩
  · intro event supersedes later k part outcome earlier
    rw [run_append, run_cons]
    have superseded := run_superseded later (supersedes.superseded sound.toOperations)
    exact superseded.settle earlier part outcome
  · intro later k part outcome earlier
    rw [run_append, run_cons]
    have past := run_past later (step_sound .leave sound) (leave_past _)
    exact past.settle earlier part outcome

def fakeInventory : Value := .dict [("provider", .str "fake"), ("simulated", .bool true),
  ("device", .dict [("name", .str "edge")]), ("system", .dict []), ("access", .dict []), ("interfaces", .list []),
  ("bgp", .dict [("neighbors", .list [])]),
  ("mpls", .dict [("interfaces", .list []), ("ldp_neighbors", .list []), ("lsps", .list [])])]

def fakeRoutes : Value := .dict [("provider", .str "fake"), ("simulated", .bool true),
  ("items", .list [.dict [("id", .str "r1"), ("destination", .str "10.0.0.0/8")]])]

/-- Device `a` is opened and answers, its route is edited and submitted. -/
def editedRoute : List Event :=
  [.openRoute "a", .settle 0 .routes (.ok fakeRoutes), .settle 0 .inventory (.ok fakeInventory), .edit 0 true,
    .submit (.ok (.dict [("metric", .int 5)]))]

theorem details_of_edited_route :
    Belongs (run step State.start editedRoute) fakeInventory ∧
    RouteListed (run step State.start editedRoute).answers
      ⟨"a", .update (.dict [("id", .str "r1"), ("destination", .str "10.0.0.0/8")]) (.dict [("metric", .int 5)])⟩ ∧
    Alike (run step State.start (editedRoute ++ .openRoute "b" :: []))
      (step (.settle 1 .operation (.error .type)) (run step State.start (editedRoute ++ .openRoute "b" :: []))) ∧
    (step (.settle 1 .operation (.error .type)) (run step State.start (editedRoute ++ .leave :: []))).shown =
      (run step State.start (editedRoute ++ .leave :: [])).shown := by
  have views := details_of_one_device editedRoute
  have sent : (run step State.start editedRoute).sent = [⟨"a", .inventory⟩, ⟨"a", .staticRoutes⟩,
      ⟨"a", .update (.dict [("id", .str "r1"), ("destination", .str "10.0.0.0/8")]) (.dict [("metric", .int 5)])⟩] := rfl
  refine ⟨views.1 fakeInventory rfl, views.2.1 _ ?_, ?_, ?_⟩
  · rw [sent]
    simp
  · exact views.2.2.1 (.openRoute "b") (.other "b" (by decide)) [] 1 .operation (.error .type) (by decide)
  · exact views.2.2.2 [] 1 .operation (.error .type) (by decide)

end

end NetworkGateway.DeviceDetails
