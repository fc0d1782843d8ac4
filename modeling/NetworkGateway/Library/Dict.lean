import Mathlib.Data.List.Basic

/-! Insertion-ordered dictionaries as association lists.

A binding is read through its first occurrence, so every operation below is
characterised by what `List.lookup` returns after it. -/

namespace Library.Dict

variable {α β γ : Type} [DecidableEq α]

/-- `{**base, **updates}`: the keys of `base` keep their place. -/
def merge (base updates : List (α × β)) : List (α × β) :=
  base.map (fun e => (e.1, (updates.lookup e.1).getD e.2)) ++
    updates.filter (fun e => (base.lookup e.1).isNone)

def set (entries : List (α × β)) (key : α) (value : β) : List (α × β) :=
  merge entries [(key, value)]

def erase (entries : List (α × β)) (key : α) : List (α × β) :=
  entries.filter (fun e => !(e.1 == key))

def without (entries : List (α × β)) (keys : List α) : List (α × β) :=
  entries.filter (fun e => !keys.contains e.1)

/-- `{k: entries[k] for k in keys if k in entries}`. -/
def select (keys : List α) (entries : List (α × β)) : List (α × β) :=
  keys.filterMap (fun k => (entries.lookup k).map (fun v => (k, v)))

def setDefault (entries : List (α × β)) (key : α) (value : β) : List (α × β) :=
  if (entries.lookup key).isSome then entries else entries ++ [(key, value)]

def Same (a b : List (α × β)) : Prop := ∀ key, a.lookup key = b.lookup key

theorem lookup_cons_key (key held : α) (value : β) (tail : List (α × β)) :
    ((held, value) :: tail).lookup key = if key = held then some value else tail.lookup key := by
  by_cases same : key = held
  · simp [same]
  · have differs : (key == held) = false := beq_eq_false_iff_ne.mpr same
    simp [List.lookup_cons, differs, same]

theorem mem_of_lookup {entries : List (α × β)} {key : α} {value : β} (found : entries.lookup key = some value) :
    (key, value) ∈ entries := by
  rcases List.lookup_eq_some_iff.mp found with ⟨before, later, rfl, -⟩
  exact List.mem_append_right _ List.mem_cons_self

theorem lookup_of_mem {entries : List (α × β)} (distinct : (entries.map Prod.fst).Nodup) {entry : α × β}
    (listed : entry ∈ entries) : entries.lookup entry.1 = some entry.2 := by
  rcases List.append_of_mem listed with ⟨before, later, rfl⟩
  rw [List.map_append, List.map_cons, List.nodup_append] at distinct
  rw [List.lookup_eq_some_iff]
  refine ⟨before, later, rfl, ?_⟩
  intro other earlier
  exact bne_iff_ne.mpr (fun same => distinct.2.2 other.1 (List.mem_map_of_mem earlier) entry.1
    List.mem_cons_self same.symm)

theorem lookup_filter_key (entries : List (α × β)) (keep : α → Bool) (key : α) :
    (entries.filter (fun e => keep e.1)).lookup key =
      if keep key then entries.lookup key else none := by
  induction entries with
  | nil => simp
  | cons head tail ih =>
      rcases head with ⟨held, value⟩
      by_cases same : key = held
      · subst same
        cases kept : keep key <;> simp [kept, ih]
      · cases kept : keep held <;> simp [lookup_cons_key, kept, same, ih]

theorem lookup_filter_value {entries : List (α × β)} (distinct : (entries.map Prod.fst).Nodup) (keep : β → Bool)
    (key : α) : (entries.filter (fun e => keep e.2)).lookup key = (entries.lookup key).filter keep := by
  induction entries with
  | nil => rfl
  | cons head tail ih =>
      rcases head with ⟨held, value⟩
      rw [List.map_cons, List.nodup_cons] at distinct
      have rest := ih distinct.2
      by_cases same : key = held
      · subst same
        have unbound : tail.lookup key = none := by
          apply List.lookup_eq_none_iff.mpr
          intro entry member
          have listed : entry.1 ∈ tail.map Prod.fst := List.mem_map_of_mem member
          have differs : key ≠ entry.1 := fun equal => distinct.1 (equal ▸ listed)
          exact bne_iff_ne.mpr differs
        cases kept : keep value <;> simp [Option.filter, kept, rest, unbound]
      · cases kept : keep value <;> simp [lookup_cons_key, kept, same, rest]

theorem lookup_map_value (entries : List (α × β)) (f : α → β → γ) (key : α) :
    (entries.map (fun e => (e.1, f e.1 e.2))).lookup key = (entries.lookup key).map (f key) := by
  induction entries with
  | nil => rfl
  | cons head tail ih =>
      rcases head with ⟨held, value⟩
      by_cases same : key = held
      · simp [same]
      · simp [lookup_cons_key, same, ih]

@[simp] theorem lookup_merge (base updates : List (α × β)) (key : α) :
    (merge base updates).lookup key = (updates.lookup key).or (base.lookup key) := by
  unfold merge
  rw [List.lookup_append, lookup_map_value base (fun k v => (updates.lookup k).getD v),
    lookup_filter_key updates (fun k => (base.lookup k).isNone)]
  cases base.lookup key <;> cases updates.lookup key <;> simp

theorem merge_nil (base : List (α × β)) : merge base [] = base := by
  simp [merge]

@[simp] theorem lookup_set (entries : List (α × β)) (key other : α) (value : β) :
    (set entries key value).lookup other =
      if other = key then some value else entries.lookup other := by
  unfold set
  rw [lookup_merge, lookup_cons_key]
  by_cases same : other = key <;> simp [same]

@[simp] theorem lookup_erase (entries : List (α × β)) (key other : α) :
    (erase entries key).lookup other = if other = key then none else entries.lookup other := by
  unfold erase
  rw [lookup_filter_key entries (fun k => !(k == key))]
  by_cases same : other = key <;> simp [same]

@[simp] theorem lookup_without (entries : List (α × β)) (keys : List α) (key : α) :
    (without entries keys).lookup key = if key ∈ keys then none else entries.lookup key := by
  unfold without
  rw [lookup_filter_key entries (fun k => !keys.contains k)]
  by_cases listed : key ∈ keys <;> simp [listed]

@[simp] theorem lookup_select (keys : List α) (entries : List (α × β)) (key : α) :
    (select keys entries).lookup key = if key ∈ keys then entries.lookup key else none := by
  unfold select
  induction keys with
  | nil => simp
  | cons head tail ih =>
      by_cases same : key = head
      · subst same
        cases found : entries.lookup key with
        | none => simp [found, ih]
        | some value => simp [found]
      · cases found : entries.lookup head with
        | none => simp [found, ih, same]
        | some value => simp [found, lookup_cons_key, ih, same]

theorem keys_select (keys : List α) (entries : List (α × β)) : ((select keys entries).map Prod.fst).Sublist keys := by
  unfold select
  induction keys with
  | nil => exact List.Sublist.slnil
  | cons head tail ih =>
      cases found : entries.lookup head with
      | none =>
          rw [List.filterMap_cons_none (by rw [found, Option.map_none])]
          exact ih.cons head
      | some value =>
          rw [List.filterMap_cons_some (by rw [found, Option.map_some])]
          exact ih.cons_cons head

@[simp] theorem lookup_setDefault (entries : List (α × β)) (key other : α) (value : β) :
    (setDefault entries key value).lookup other =
      (entries.lookup other).or (if other = key then some value else none) := by
  unfold setDefault
  by_cases bound : (entries.lookup key).isSome
  · rw [if_pos bound]
    by_cases same : other = key
    · subst same
      obtain ⟨held, found⟩ := Option.isSome_iff_exists.mp bound
      simp [found]
    · simp [same]
  · rw [if_neg bound, List.lookup_append]
    by_cases same : other = key <;> simp [lookup_cons_key, same]

end Library.Dict
