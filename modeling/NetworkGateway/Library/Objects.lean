import NetworkGateway.Library.Interaction

/-! Methods of an object that talk to their surroundings: attributes that have been changed stay changed when an
exception leaves the method. -/

namespace Library.Interaction

/-- From the attributes to the outcome and the attributes behind it. The program itself stops without an outcome
where a run is looked at before it has ended. -/
def Method (C : Type → Type) (σ ε α : Type) : Type 1 := σ → Program C Unit (Except ε α × σ)

namespace Method

variable {C : Type → Type} {σ τ ε α β : Type}

def onOk (f : α → Method C σ ε β) (result : Except ε α × σ) : Program C Unit (Except ε β × σ) :=
  match result.1 with
  | .ok a => f a result.2
  | .error e => .done (.ok (.error e, result.2))

def onError (handler : ε → Method C σ ε α) (result : Except ε α × σ) : Program C Unit (Except ε α × σ) :=
  match result.1 with
  | .ok a => .done (.ok (.ok a, result.2))
  | .error e => handler e result.2

instance : Monad (Method C σ ε) where
  pure a := fun s => .done (.ok (.ok a, s))
  bind m f := fun s => m s >>= onOk f

def lift (outcome : Except ε α) : Method C σ ε α := fun s => .done (.ok (outcome, s))

def raise (e : ε) : Method C σ ε α := lift (.error e)

/-- `try: m except: handler`. -/
def catching (m : Method C σ ε α) (handler : ε → Method C σ ε α) : Method C σ ε α := fun s => m s >>= onError handler

def read : Method C σ ε σ := fun s => .done (.ok (.ok s, s))

def write (f : σ → σ) : Method C σ ε Unit := fun s => .done (.ok (.ok (), f s))

def ask (command : C α) : Method C σ ε α := fun s => .call command fun answer => .done (.ok (.ok answer, s))

def attempt (command : C (Except ε α)) : Method C σ ε α := fun s => .call command fun answer => .done (.ok (answer, s))

/-- The run is looked at no further. -/
def waiting : Method C σ ε α := fun _ => .done (.error ())

def onPart (part : τ) (m : Method C τ ε α) : Method C σ ε α := fun s => m part >>= fun result => .done (.ok (result.1, s))

/-! Runs of a method from those of its parts. -/

section Runs

variable {m : Method C σ ε α} {s middle after : σ} {first later : List (Event C)} {e : ε}

theorem runs_bind {f : α → Method C σ ε β} {a : α} {outcome : Except Unit (Except ε β × σ)}
    (before : Program.Runs (m s) first (.ok (.ok a, middle))) (rest : Program.Runs (f a middle) later outcome) :
    Program.Runs ((m >>= f) s) (first ++ later) outcome :=
  Program.Runs.andThen before rest

theorem runs_bind_raised {f : α → Method C σ ε β} (before : Program.Runs (m s) first (.ok (.error e, middle))) :
    Program.Runs ((m >>= f) s) first (.ok (.error e, middle)) := by
  have runs : Program.Runs ((m >>= f) s) (first ++ []) (.ok (.error e, middle)) :=
    Program.Runs.andThen before (.done _)
  rwa [List.append_nil] at runs

theorem runs_caught {handler : ε → Method C σ ε α} {outcome : Except Unit (Except ε α × σ)}
    (before : Program.Runs (m s) first (.ok (.error e, middle)))
    (rest : Program.Runs (handler e middle) later outcome) :
    Program.Runs (catching m handler s) (first ++ later) outcome :=
  Program.Runs.andThen before rest

end Runs

/-- Every command is safe behind the events before it, and what comes out meets `post`. -/
structure Meets (safe : List (Event C) → (β : Type) → C β → Prop) (p : List (Event C) → σ → Prop) (m : Method C σ ε α)
    (post : List (Event C) → Except ε α → σ → Prop) : Prop where
  wp : ∀ past s, p past s → Program.wp safe (m s)
    (fun now outcome => ∀ result after, outcome = .ok (result, after) → post now result after) past

namespace Meets

variable {safe : List (Event C) → (β : Type) → C β → Prop} {p : List (Event C) → σ → Prop} {m : Method C σ ε α}
  {post q : List (Event C) → Except ε α → σ → Prop}

theorem lift {outcome : Except ε α} (implies : ∀ past s, p past s → post past outcome s) :
    Meets safe p (lift outcome) post := by
  constructor
  intro past s held result after same
  cases same
  exact implies past s held

theorem pure {a : α} (implies : ∀ past s, p past s → post past (.ok a) s) : Meets safe p (pure a) post :=
  lift implies

theorem raise {e : ε} (implies : ∀ past s, p past s → post past (.error e) s) : Meets safe p (raise e) post :=
  lift implies

theorem read {post : List (Event C) → Except ε σ → σ → Prop} (implies : ∀ past s, p past s → post past (.ok s) s) :
    Meets safe p read post := by
  constructor
  intro past s held result after same
  cases same
  exact implies past s held

theorem write {post : List (Event C) → Except ε Unit → σ → Prop} {f : σ → σ}
    (implies : ∀ past s, p past s → post past (.ok ()) (f s)) : Meets safe p (write f) post := by
  constructor
  intro past s held result after same
  cases same
  exact implies past s held

theorem ask {command : C α} (allowed : ∀ past s, p past s → safe past _ command)
    (implies : ∀ past s answer, p past s → post (past ++ [⟨command, answer⟩]) (.ok answer) s) :
    Meets safe p (ask command) post := by
  constructor
  intro past s held
  refine ⟨allowed past s held, ?_⟩
  intro answer result after same
  cases same
  exact implies past s answer held

theorem attempt {command : C (Except ε α)} (allowed : ∀ past s, p past s → safe past _ command)
    (implies : ∀ past s answer, p past s → post (past ++ [⟨command, answer⟩]) answer s) :
    Meets safe p (attempt command) post := by
  constructor
  intro past s held
  refine ⟨allowed past s held, ?_⟩
  intro answer result after same
  cases same
  exact implies past s answer held

theorem waiting : Meets safe p (waiting : Method C σ ε α) post := by
  constructor
  intro past s held result after same
  cases same

theorem bind {f : α → Method C σ ε β} {post : List (Event C) → Except ε β → σ → Prop} (first : Meets safe p m q)
    (raised : ∀ now e s, q now (.error e) s → post now (.error e) s)
    (rest : ∀ a, Meets safe (fun now s => q now (.ok a) s) (f a) post) : Meets safe p (m >>= f) post := by
  constructor
  intro past s held
  apply Program.wp_bind
  apply Program.wp_mono _ (first.wp past s held)
  intro now outcome reached
  cases outcome with
  | error stopped =>
      intro result after same
      cases same
  | ok result =>
      rcases result with ⟨result, after⟩
      have met := reached result after rfl
      cases result with
      | ok a => exact (rest a).wp now after met
      | error e =>
          intro result other same
          cases same
          exact raised now e after met

theorem ask_bind {command : C β} {f : β → Method C σ ε α} (allowed : ∀ past s, p past s → safe past _ command)
    (rest : ∀ answer, Meets safe (fun now s => ∃ past, now = past ++ [⟨command, answer⟩] ∧ p past s) (f answer) post) :
    Meets safe p (Method.ask command >>= f) post := by
  constructor
  intro past s held
  refine ⟨allowed past s held, ?_⟩
  intro answer
  exact (rest answer).wp _ s ⟨past, rfl, held⟩

theorem lift_bind {outcome : Except ε β} {f : β → Method C σ ε α}
    (raised : ∀ past e s, outcome = .error e → p past s → post past (.error e) s)
    (rest : ∀ a, outcome = .ok a → Meets safe p (f a) post) : Meets safe p (Method.lift outcome >>= f) post := by
  constructor
  intro past s held
  cases outcome with
  | ok a => exact (rest a rfl).wp past s held
  | error e =>
      intro result after same
      cases same
      exact raised past e s rfl held

theorem read_bind {f : σ → Method C σ ε α} (rest : ∀ self, Meets safe (fun past s => s = self ∧ p past s) (f self) post) :
    Meets safe p (Method.read >>= f) post :=
  ⟨fun past s held => (rest s).wp past s ⟨rfl, held⟩⟩

theorem write_bind {change : σ → σ} {m : Method C σ ε α}
    (rest : Meets safe (fun past s => ∃ self, s = change self ∧ p past self) m post) :
    Meets safe p (Method.write change >>= fun _ => m) post :=
  ⟨fun past s held => rest.wp past (change s) ⟨s, rfl, held⟩⟩

theorem catching {handler : ε → Method C σ ε α} (first : Meets safe p m q)
    (returned : ∀ now a s, q now (.ok a) s → post now (.ok a) s)
    (handled : ∀ e, Meets safe (fun now s => q now (.error e) s) (handler e) post) :
    Meets safe p (catching m handler) post := by
  constructor
  intro past s held
  apply Program.wp_bind
  apply Program.wp_mono _ (first.wp past s held)
  intro now outcome reached
  cases outcome with
  | error stopped =>
      intro result after same
      cases same
  | ok result =>
      rcases result with ⟨result, after⟩
      have met := reached result after rfl
      cases result with
      | error e => exact (handled e).wp now after met
      | ok a =>
          intro result other same
          cases same
          exact returned now a after met

theorem onPart {part : τ} {m : Method C τ ε α}
    (inner : ∀ s, Meets safe (fun past t => p past s ∧ t = part) m (fun now result _ => post now result s)) :
    Meets safe p (onPart part m) post := by
  constructor
  intro past s held
  apply Program.wp_bind
  apply Program.wp_mono _ ((inner s).wp past part ⟨held, rfl⟩)
  intro now outcome reached
  cases outcome with
  | error stopped =>
      intro result after same
      cases same
  | ok result =>
      intro result after same
      cases same
      exact reached _ _ rfl

theorem mono {r : List (Event C) → σ → Prop} {weak : List (Event C) → Except ε α → σ → Prop}
    (stronger : ∀ past s, r past s → p past s) (weaker : ∀ now result s, post now result s → weak now result s)
    (meets : Meets safe p m post) : Meets safe r m weak := by
  constructor
  intro past s held
  apply Program.wp_mono _ (meets.wp past s (stronger past s held))
  intro now outcome reached result after same
  exact weaker now result after (reached result after same)

theorem unreached (never : ∀ past s, ¬p past s) : Meets safe p m post := ⟨fun past s held => absurd held (never past s)⟩

/-- It is enough to look at one object and its past at a time. -/
theorem pointwise (each : ∀ past s, p past s → Meets safe (fun now t => now = past ∧ t = s) m post) :
    Meets safe p m post :=
  ⟨fun past s held => (each past s held).wp past s ⟨rfl, rfl⟩⟩

/-- In every run each command was safe behind the events before it, and what came out meets `post`. -/
theorem sound (meets : Meets safe p m post) {s after : σ} {events : List (Event C)} {result : Except ε α}
    (start : p [] s) (runs : Program.Runs (m s) events (.ok (result, after))) : post events result after :=
  (Program.wp_sound runs (meets.wp [] s start)).2 result after rfl

theorem safely (meets : Meets safe p m post) {s : σ} {events : List (Event C)} {outcome : Except Unit (Except ε α × σ)}
    (start : p [] s) (runs : Program.Runs (m s) events outcome) :
    ∀ before event later, events = before ++ event :: later → safe before _ event.command :=
  (Program.wp_sound runs (meets.wp [] s start)).1

end Meets

/-- Every command is safe, and the object keeps its invariant, also when an exception leaves the method. -/
def Keeps (safe : List (Event C) → (β : Type) → C β → Prop) (invariant : σ → Prop) (m : Method C σ ε α) : Prop :=
  Meets safe (fun _ s => invariant s) m (fun _ _ s => invariant s)

namespace Keeps

variable {safe : List (Event C) → (β : Type) → C β → Prop} {invariant : σ → Prop} {m : Method C σ ε α}

theorem lift {outcome : Except ε α} : Keeps safe invariant (lift outcome : Method C σ ε α) := Meets.lift fun _ _ held => held

theorem pure {a : α} : Keeps safe invariant (pure a : Method C σ ε α) := lift

theorem raise {e : ε} : Keeps safe invariant (raise e : Method C σ ε α) := lift

theorem read : Keeps safe invariant (read : Method C σ ε σ) := Meets.read fun _ _ held => held

theorem write {f : σ → σ} (kept : ∀ s, invariant s → invariant (f s)) : Keeps safe invariant (write f : Method C σ ε Unit) :=
  Meets.write fun _ s held => kept s held

theorem ask {command : C α} (allowed : ∀ past, safe past _ command) :
    Keeps safe invariant (ask command : Method C σ ε α) :=
  Meets.ask (fun past _ _ => allowed past) (fun _ _ _ held => held)

theorem attempt {command : C (Except ε α)} (allowed : ∀ past, safe past _ command) :
    Keeps safe invariant (attempt command : Method C σ ε α) :=
  Meets.attempt (fun past _ _ => allowed past) (fun _ _ _ held => held)

theorem bind {f : α → Method C σ ε β} (first : Keeps safe invariant m) (rest : ∀ a, Keeps safe invariant (f a)) :
    Keeps safe invariant (m >>= f) :=
  Meets.bind first (fun _ _ _ held => held) rest

theorem catching {handler : ε → Method C σ ε α} (first : Keeps safe invariant m)
    (handled : ∀ e, Keeps safe invariant (handler e)) : Keeps safe invariant (catching m handler) :=
  Meets.catching first (fun _ _ _ held => held) handled

theorem ite {condition : Prop} [Decidable condition] {other : Method C σ ε α} (left : Keeps safe invariant m)
    (right : Keeps safe invariant other) : Keeps safe invariant (if condition then m else other) := by
  split
  · exact left
  · exact right

theorem onPart {part : τ} {kept : τ → Prop} {m : Method C τ ε α} (start : kept part) (inner : Keeps safe kept m) :
    Keeps safe invariant (onPart part m) := by
  apply Meets.onPart
  intro s
  apply Meets.pointwise
  rintro past t ⟨held, rfl⟩
  apply inner.mono
  · rintro _ _ ⟨-, rfl⟩
    exact start
  · exact fun _ _ _ _ => held

/-- Where every command is safe, nothing is lost of a property of everything. -/
theorem any (always : ∀ past β (command : C β), safe past β command) (m : Method C σ ε α) :
    Keeps safe (fun _ => True) m := by
  constructor
  intro past s _
  generalize m s = program
  induction program generalizing past with
  | done outcome => exact fun _ _ _ => trivial
  | call command next ih => exact ⟨always past _ command, fun answer => ih answer _⟩

end Keeps

end Method

end Library.Interaction
