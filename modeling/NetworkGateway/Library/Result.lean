import Mathlib.Data.List.Forall2

/-! Inversion rules for computations that return or raise. -/

namespace Library.Result

variable {ε α β : Type}

/-- `if condition: raise error`. -/
def raiseWhen (condition : Bool) (error : ε) : Except ε Unit :=
  if condition then .error error else .ok ()

@[simp] theorem raiseWhen_ok (condition : Bool) (error : ε) (u : Unit) :
    raiseWhen condition error = .ok u ↔ condition = false := by
  cases condition <;> simp [raiseWhen]

@[simp] theorem raiseWhen_error (condition : Bool) (error raised : ε) :
    raiseWhen condition error = .error raised ↔ condition = true ∧ error = raised := by
  cases condition <;> simp [raiseWhen]

@[simp] theorem raiseWhen_false (error : ε) : raiseWhen false error = .ok () := rfl
@[simp] theorem raiseWhen_true (error : ε) : raiseWhen true error = .error error := rfl

@[simp] theorem ok_bind (a : α) (f : α → Except ε β) : (Except.ok a >>= f) = f a := rfl
@[simp] theorem error_bind (e : ε) (f : α → Except ε β) :
    ((Except.error e : Except ε α) >>= f) = .error e := rfl
@[simp] theorem pure_eq (a : α) : (pure a : Except ε α) = .ok a := rfl
@[simp] theorem throw_eq (e : ε) : (throw e : Except ε α) = .error e := rfl

@[simp] theorem bind_eq_ok (x : Except ε α) (f : α → Except ε β) (b : β) :
    (x >>= f) = .ok b ↔ ∃ a, x = .ok a ∧ f a = .ok b := by
  cases x <;> simp

theorem bind_eq_error (x : Except ε α) (f : α → Except ε β) (e : ε) :
    (x >>= f) = .error e ↔ x = .error e ∨ ∃ a, x = .ok a ∧ f a = .error e := by
  cases x <;> simp

@[simp] theorem map_eq_ok (x : Except ε α) (f : α → β) (b : β) :
    (f <$> x) = .ok b ↔ ∃ a, x = .ok a ∧ f a = b := by
  cases x <;> simp [Functor.map, Except.map]

/-- `[f(item) for item in items]` raises what the first failing `f` raises. -/
def each (f : α → Except ε β) : List α → Except ε (List β)
  | [] => .ok []
  | item :: items => do
      let head ← f item
      let tail ← each f items
      return head :: tail

theorem each_eq_ok (f : α → Except ε β) (items : List α) (results : List β) :
    each f items = .ok results ↔ List.Forall₂ (fun item result => f item = .ok result) items results := by
  induction items generalizing results with
  | nil => simp [each, List.forall₂_nil_left_iff, eq_comm]
  | cons item items ih =>
      simp only [each, bind_eq_ok, pure_eq, Except.ok.injEq, List.forall₂_cons_left_iff]
      constructor
      · rintro ⟨head, found, tail, rest, rfl⟩
        exact ⟨head, tail, found, (ih tail).mp rest, rfl⟩
      · rintro ⟨head, tail, found, rest, rfl⟩
        exact ⟨head, found, tail, (ih tail).mpr rest, rfl⟩

theorem each_error (f : α → Except ε β) (items : List α) (e : ε) (failed : each f items = .error e) :
    ∃ item ∈ items, f item = .error e := by
  induction items with
  | nil => simp [each] at failed
  | cons item items ih =>
      rw [each, bind_eq_error] at failed
      rcases failed with failed | ⟨head, _, failed⟩
      · exact ⟨item, List.mem_cons_self, failed⟩
      · rw [bind_eq_error] at failed
        rcases failed with failed | ⟨tail, _, failed⟩
        · obtain ⟨found, member, raised⟩ := ih failed
          exact ⟨found, List.mem_cons_of_mem _ member, raised⟩
        · cases failed

theorem each_mem {f : α → Except ε β} {items : List α} {results : List β} (done : each f items = .ok results) {item : α}
    (member : item ∈ items) : ∃ result, f item = .ok result := by
  have related := (each_eq_ok f items results).mp done
  induction related with
  | nil => exact absurd member List.not_mem_nil
  | cons head tail ih =>
      rcases List.mem_cons.mp member with rfl | member
      · exact ⟨_, head⟩
      · exact ih ((each_eq_ok _ _ _).mpr tail) member

/-! What a computation may raise. -/

def Raises (allowed : ε → Prop) (x : Except ε α) : Prop := ∀ raised, x = .error raised → allowed raised

theorem Raises.ok {allowed : ε → Prop} (a : α) : Raises allowed (.ok a : Except ε α) := nofun

theorem Raises.error {allowed : ε → Prop} {e : ε} (fine : allowed e) : Raises allowed (.error e : Except ε α) := by
  intro raised same
  cases same
  exact fine

theorem Raises.raiseWhen {allowed : ε → Prop} {condition : Bool} {e : ε} (fine : allowed e) :
    Raises allowed (Library.Result.raiseWhen condition e) := by
  intro raised same
  rw [raiseWhen_error] at same
  rw [← same.2]
  exact fine

theorem Raises.bind {allowed : ε → Prop} {x : Except ε α} {f : α → Except ε β} (first : Raises allowed x)
    (rest : ∀ a, Raises allowed (f a)) : Raises allowed (x >>= f) := by
  intro raised same
  rcases (bind_eq_error x f raised).mp same with failed | ⟨a, _, failed⟩
  · exact first raised failed
  · exact rest a raised failed

theorem Raises.check {allowed : ε → Prop} {condition : Bool} {e : ε} {f : Unit → Except ε β} (fine : allowed e)
    (rest : Raises allowed (f ())) : Raises allowed (Library.Result.raiseWhen condition e >>= f) :=
  (Raises.raiseWhen fine).bind (fun _ => rest)

end Library.Result
