import Mathlib.Data.List.Forall2
import Mathlib.Data.List.Sort
import NetworkGateway.Library.Dict
import NetworkGateway.Library.Result
import NetworkGateway.Library.Table

/-! Two computations, dictionaries or tables that agree up to a relation. -/

namespace Library.Result

variable {ε α β γ δ : Type} {R : α → β → Prop} {S : γ → δ → Prop}

/-- Both return related values, or both raise the same. -/
inductive Agree (R : α → β → Prop) : Except ε α → Except ε β → Prop
  | ok {a : α} {b : β} (values : R a b) : Agree R (.ok a) (.ok b)
  | error (e : ε) : Agree R (.error e) (.error e)

structure AgreeOk (R : α → β → Prop) (x : Except ε α) (y : Except ε β) : Prop where
  values : ∀ a b, x = .ok a → y = .ok b → R a b

theorem Agree.of_eq {x y : Except ε α} (same : x = y) : Agree Eq x y := by
  rw [same]
  cases y with
  | ok a => exact .ok rfl
  | error e => exact .error e

theorem Agree.eq {x y : Except ε α} (agree : Agree Eq x y) : x = y := by
  cases agree with
  | ok same => rw [same]
  | error e => rfl

theorem Agree.bind {x : Except ε α} {y : Except ε β} {f : α → Except ε γ} {g : β → Except ε δ}
    (agree : Agree R x y) (rest : ∀ a b, R a b → Agree S (f a) (g b)) : Agree S (x >>= f) (y >>= g) := by
  cases agree with
  | ok values => exact rest _ _ values
  | error e => exact .error e

theorem Agree.agreeOk {x : Except ε α} {y : Except ε β} (agree : Agree R x y) : AgreeOk R x y := by
  constructor
  intro a b left right
  cases agree with
  | ok values =>
      rw [← Except.ok.inj left, ← Except.ok.inj right]
      exact values
  | error e => cases left

namespace AgreeOk

theorem of_eq {x y : Except ε α} (same : x = y) : AgreeOk Eq x y := (Agree.of_eq same).agreeOk

theorem ok {a : α} {b : β} (values : R a b) : AgreeOk (ε := ε) R (.ok a) (.ok b) := (Agree.ok values).agreeOk

theorem checks (x : Except ε α) (y : Except ε β) : AgreeOk (fun _ _ => True) x y :=
  ⟨fun _ _ _ _ => trivial⟩

theorem bind {x : Except ε α} {y : Except ε β} {f : α → Except ε γ} {g : β → Except ε δ}
    (agree : AgreeOk R x y) (rest : ∀ a b, R a b → AgreeOk S (f a) (g b)) :
    AgreeOk S (x >>= f) (y >>= g) := by
  constructor
  intro c d left right
  rw [bind_eq_ok] at left right
  rcases left with ⟨a, first, left⟩
  rcases right with ⟨b, second, right⟩
  exact (rest a b (agree.values a b first second)).values c d left right

theorem foldlM {ι : Type} {f : α → ι → Except ε α} {g : β → ι → Except ε β}
    (step : ∀ a b i, R a b → AgreeOk R (f a i) (g b i)) (items : List ι) {a : α} {b : β} (start : R a b) :
    AgreeOk R (items.foldlM f a) (items.foldlM g b) := by
  induction items generalizing a b with
  | nil => exact ok start
  | cons i rest ih =>
      rw [List.foldlM_cons, List.foldlM_cons]
      exact bind (step a b i start) (fun _ _ next => ih next)

end AgreeOk

theorem each_related {ι κ : Type} {T : ι → κ → Prop} {f : ι → Except ε γ} {g : κ → Except ε γ}
    (same : ∀ i j, T i j → f i = g j) {items : List ι} {others : List κ} (related : List.Forall₂ T items others) :
    each f items = each g others := by
  induction related with
  | nil => rfl
  | cons head _ ih => rw [each, each, same _ _ head, ih]

end Library.Result

namespace Library.Dict

variable {α β : Type} {R : α → β → β → Prop} {a b c d : List (α × β)}

def Related (R : α → β → β → Prop) (a b : List (α × β)) : Prop :=
  List.Forall₂ (fun x y => x.1 = y.1 ∧ R x.1 x.2 y.2) a b

namespace Related

theorem refl (reflexive : ∀ key value, R key value value) (entries : List (α × β)) :
    Related R entries entries := by
  apply List.forall₂_same.mpr
  intro entry _
  exact ⟨rfl, reflexive entry.1 entry.2⟩

theorem cons {key : α} {value other : β} (head : R key value other) (tail : Related R a b) :
    Related R ((key, value) :: a) ((key, other) :: b) :=
  List.Forall₂.cons ⟨rfl, head⟩ tail

theorem append (left : Related R a b) (right : Related R c d) : Related R (a ++ c) (b ++ d) :=
  List.rel_append left right

theorem isEmpty (related : Related R a b) : a.isEmpty = b.isEmpty := by
  cases related <;> rfl

theorem filter {keep : α × β → Bool} (respects : ∀ key v w, R key v w → keep (key, v) = keep (key, w))
    (related : Related R a b) : Related R (a.filter keep) (b.filter keep) := by
  apply List.rel_filter _ related
  rintro ⟨key, v⟩ ⟨_, w⟩ ⟨rfl, values⟩
  have same : keep (key, v) = keep (key, w) := respects key v w values
  change keep (key, v) = true ↔ keep (key, w) = true
  rw [same]

variable [DecidableEq α]

theorem lookup (related : Related R a b) (key : α) :
    a.lookup key = none ∧ b.lookup key = none ∨
      ∃ v w, a.lookup key = some v ∧ b.lookup key = some w ∧ R key v w := by
  induction related with
  | nil => exact .inl ⟨rfl, rfl⟩
  | @cons x y _ _ head _ ih =>
      rcases x with ⟨held, v⟩
      rcases y with ⟨other, w⟩
      rcases head with ⟨same, values⟩
      have same : held = other := same
      subst same
      rw [lookup_cons_key, lookup_cons_key]
      by_cases here : key = held
      · rw [if_pos here, if_pos here, here]
        exact .inr ⟨v, w, rfl, rfl, values⟩
      · rw [if_neg here, if_neg here]
        exact ih

theorem isSome (related : Related R a b) (key : α) : (a.lookup key).isSome = (b.lookup key).isSome := by
  rcases related.lookup key with ⟨left, right⟩ | ⟨v, w, left, right, _⟩
  · rw [left, right]
  · rw [left, right]
    rfl

theorem getD (related : Related R a b) {key : α} {v w : β} (defaults : R key v w) :
    R key ((a.lookup key).getD v) ((b.lookup key).getD w) := by
  rcases related.lookup key with ⟨left, right⟩ | ⟨x, y, left, right, values⟩
  · rw [left, right]
    exact defaults
  · rw [left, right]
    exact values

theorem merge (base : Related R a b) (updates : Related R c d) :
    Related R (merge a c) (merge b d) := by
  apply List.rel_append
  · apply List.rel_map _ base
    rintro ⟨key, v⟩ ⟨_, w⟩ ⟨rfl, values⟩
    exact ⟨rfl, updates.getD values⟩
  · apply List.rel_filter _ updates
    rintro ⟨key, v⟩ ⟨_, w⟩ ⟨rfl, _⟩
    have bound := base.isSome key
    change (a.lookup key).isNone = true ↔ (b.lookup key).isNone = true
    rw [Option.isNone_iff_eq_none, Option.isNone_iff_eq_none, ← Option.not_isSome_iff_eq_none,
      ← Option.not_isSome_iff_eq_none, bound]

theorem set (base : Related R a b) {key : α} {v w : β} (values : R key v w) :
    Related R (set a key v) (set b key w) :=
  base.merge (cons values List.Forall₂.nil)

theorem erase (related : Related R a b) (key : α) : Related R (erase a key) (erase b key) :=
  related.filter (fun _ _ _ _ => rfl)

theorem without (related : Related R a b) (keys : List α) :
    Related R (without a keys) (without b keys) :=
  related.filter (fun _ _ _ _ => rfl)

theorem select (related : Related R a b) (keys : List α) :
    Related R (select keys a) (select keys b) := by
  induction keys with
  | nil => exact List.Forall₂.nil
  | cons key rest ih =>
      rw [Dict.select, Dict.select, List.filterMap_cons, List.filterMap_cons]
      rcases related.lookup key with ⟨left, right⟩ | ⟨v, w, left, right, values⟩
      · rw [left, right]
        exact ih
      · rw [left, right]
        exact cons values ih

theorem setDefault (related : Related R a b) {key : α} {v w : β} (values : R key v w) :
    Related R (setDefault a key v) (setDefault b key w) := by
  unfold Dict.setDefault
  rw [related.isSome key]
  split
  · exact related
  · exact related.append (cons values List.Forall₂.nil)

end Related

end Library.Dict

namespace Library.Table

variable {ρ : Type} {R : ρ → ρ → Prop} {rows others : List ρ}

theorem forall₂_orderedInsert (r : ρ → ρ → Prop) [DecidableRel r]
    (respects : ∀ x y x' y', R x x' → R y y' → (r x y ↔ r x' y')) {x y : ρ} (head : R x y)
    (related : List.Forall₂ R rows others) :
    List.Forall₂ R (rows.orderedInsert r x) (others.orderedInsert r y) := by
  induction related with
  | nil => exact .cons head .nil
  | @cons v w _ _ first rest ih =>
      rw [List.orderedInsert_cons, List.orderedInsert_cons]
      by_cases before : r x v
      · rw [if_pos before, if_pos ((respects _ _ _ _ head first).mp before)]
        exact .cons head (.cons first rest)
      · rw [if_neg before, if_neg (fun after => before ((respects _ _ _ _ head first).mpr after))]
        exact .cons first ih

/-- Sorting by what related rows share keeps them side by side. -/
theorem forall₂_insertionSort (r : ρ → ρ → Prop) [DecidableRel r]
    (respects : ∀ x y x' y', R x x' → R y y' → (r x y ↔ r x' y'))
    (related : List.Forall₂ R rows others) :
    List.Forall₂ R (rows.insertionSort r) (others.insertionSort r) := by
  induction related with
  | nil => exact .nil
  | cons head _ ih => exact forall₂_orderedInsert r respects head ih

variable {κ : Type} [DecidableEq κ] {key : ρ → κ}

theorem find_related (keys : ∀ x y, R x y → key x = key y) (related : List.Forall₂ R rows others) (id : κ) :
    find key rows id = none ∧ find key others id = none ∨
      ∃ x y, find key rows id = some x ∧ find key others id = some y ∧ R x y := by
  induction related with
  | nil => exact .inl ⟨rfl, rfl⟩
  | @cons x y _ _ head _ ih =>
      have same := keys x y head
      unfold find at ih ⊢
      rw [List.find?_cons, List.find?_cons, same]
      cases decide (key y = id) with
      | true => exact .inr ⟨x, y, rfl, rfl, head⟩
      | false => exact ih

theorem replace_related (keys : ∀ x y, R x y → key x = key y) {x y : ρ} (written : R x y) (id : κ)
    (related : List.Forall₂ R rows others) :
    List.Forall₂ R (replace key rows id (fun _ => x)) (replace key others id (fun _ => y)) := by
  unfold replace
  apply List.rel_map _ related
  intro v w held
  dsimp only
  rw [keys v w held]
  split
  · exact written
  · exact held

end Library.Table
