import Mathlib.Data.List.Nodup

/-! Tables with a primary key, as lists of rows in insertion order. -/

namespace Library.Table

variable {ρ κ : Type} [DecidableEq κ] (key : ρ → κ)

def Keyed (rows : List ρ) : Prop := (rows.map key).Nodup

def find (rows : List ρ) (id : κ) : Option ρ := rows.find? (fun row => key row = id)

def replace (rows : List ρ) (id : κ) (change : ρ → ρ) : List ρ :=
  rows.map (fun row => if key row = id then change row else row)

def remove (rows : List ρ) (id : κ) : List ρ := rows.filter (fun row => key row ≠ id)

/-- The row takes the place of the row with its key, or is appended. -/
def put (rows : List ρ) (row : ρ) : List ρ :=
  if (find key rows (key row)).isSome then replace key rows (key row) (fun _ => row) else rows ++ [row]

variable {key}

theorem find_mem {rows : List ρ} {id : κ} {row : ρ} (found : find key rows id = some row) :
    row ∈ rows ∧ key row = id :=
  ⟨List.mem_of_find?_eq_some found, by simpa using List.find?_some found⟩

theorem find_eq_none {rows : List ρ} {id : κ} :
    find key rows id = none ↔ ∀ row ∈ rows, key row ≠ id := by
  simp [find, List.find?_eq_none]

theorem find_isSome {rows : List ρ} {id : κ} :
    (find key rows id).isSome ↔ ∃ row ∈ rows, key row = id := by
  simp [find, List.find?_isSome]

theorem find_of_mem {rows : List ρ} (keyed : Keyed key rows) {row : ρ} (member : row ∈ rows) :
    find key rows (key row) = some row := by
  cases found : find key rows (key row) with
  | none => exact absurd rfl (find_eq_none.mp found row member)
  | some other =>
      obtain ⟨otherMember, same⟩ := find_mem found
      rw [List.inj_on_of_nodup_map keyed otherMember member same]

theorem find_append_new (rows : List ρ) (row : ρ) (id : κ) :
    find key (rows ++ [row]) id = (find key rows id).or (if key row = id then some row else none) := by
  unfold find
  rw [List.find?_append]
  by_cases same : key row = id <;> simp [same]

omit [DecidableEq κ] in
theorem keyed_append {rows : List ρ} (keyed : Keyed key rows) {row : ρ}
    (fresh : ∀ held ∈ rows, key held ≠ key row) : Keyed key (rows ++ [row]) := by
  unfold Keyed at keyed ⊢
  rw [List.map_append, List.nodup_append]
  refine ⟨keyed, by simp, ?_⟩
  intro id member other singleton same
  obtain ⟨held, heldMember, rfl⟩ := List.mem_map.mp member
  rw [List.map_singleton, List.mem_singleton] at singleton
  exact fresh held heldMember (same.trans singleton)

theorem keys_replace (rows : List ρ) (id : κ) (change : ρ → ρ)
    (keeps : ∀ row, key row = id → key (change row) = id) :
    (replace key rows id change).map key = rows.map key := by
  unfold replace
  rw [List.map_map]
  apply List.map_congr_left
  intro row _
  by_cases same : key row = id
  · simp [same, keeps row same]
  · simp [same]

theorem map_replace {φ : Type} {shown : ρ → φ} (rows : List ρ) (id : κ) {change : ρ → ρ}
    (keeps : ∀ row, shown (change row) = shown row) : (replace key rows id change).map shown = rows.map shown := by
  unfold replace
  rw [List.map_map]
  apply List.map_congr_left
  intro row _
  dsimp only [Function.comp_apply]
  split
  · exact keeps row
  · rfl

theorem keyed_replace {rows : List ρ} (keyed : Keyed key rows) (id : κ) (change : ρ → ρ)
    (keeps : ∀ row, key row = id → key (change row) = id) : Keyed key (replace key rows id change) := by
  unfold Keyed
  rw [keys_replace rows id change keeps]
  exact keyed

theorem keyed_remove {rows : List ρ} (keyed : Keyed key rows) (id : κ) : Keyed key (remove key rows id) :=
  keyed.sublist (List.filter_sublist.map key)

theorem mem_replace {rows : List ρ} {id : κ} {change : ρ → ρ} {row : ρ} :
    row ∈ replace key rows id change ↔
      (row ∈ rows ∧ key row ≠ id) ∨ ∃ held ∈ rows, key held = id ∧ row = change held := by
  unfold replace
  rw [List.mem_map]
  constructor
  · rintro ⟨held, member, rfl⟩
    by_cases same : key held = id
    · exact .inr ⟨held, member, same, by rw [if_pos same]⟩
    · rw [if_neg same]
      exact .inl ⟨member, same⟩
  · rintro (⟨member, differs⟩ | ⟨held, member, same, rfl⟩)
    · exact ⟨row, member, by rw [if_neg differs]⟩
    · exact ⟨held, member, by rw [if_pos same]⟩

theorem mem_remove {rows : List ρ} {id : κ} {row : ρ} :
    row ∈ remove key rows id ↔ row ∈ rows ∧ key row ≠ id := by
  simp [remove]

theorem find_split {rows : List ρ} (keyed : Keyed key rows) {id : κ} {row : ρ}
    (found : find key rows id = some row) : ∃ left right, rows = left ++ row :: right ∧
      (∀ held ∈ left, key held ≠ id) ∧ ∀ held ∈ right, key held ≠ id := by
  obtain ⟨member, rfl⟩ := find_mem found
  obtain ⟨left, right, rfl⟩ := List.append_of_mem member
  unfold Keyed at keyed
  rw [List.map_append, List.map_cons, List.nodup_append] at keyed
  obtain ⟨-, after, apart⟩ := keyed
  refine ⟨left, right, rfl, fun held listed => ?_, fun held listed same => ?_⟩
  · exact apart (key held) (List.mem_map_of_mem listed) (key row) List.mem_cons_self
  · exact (List.nodup_cons.mp after).1 (same ▸ List.mem_map_of_mem listed)

theorem replace_other {rows : List ρ} {id : κ} (change : ρ → ρ) (others : ∀ held ∈ rows, key held ≠ id) :
    replace key rows id change = rows := by
  unfold replace
  calc
    rows.map (fun row => if key row = id then change row else row) = rows.map (fun row => row) :=
      List.map_congr_left (fun row member => if_neg (others row member))
    _ = rows := List.map_id' rows

theorem remove_other {rows : List ρ} {id : κ} (others : ∀ held ∈ rows, key held ≠ id) :
    remove key rows id = rows :=
  List.filter_eq_self.mpr (fun row member => decide_eq_true (others row member))

/-- Replacing and removing touch the found row alone. -/
theorem replace_remove_split {rows : List ρ} (keyed : Keyed key rows) {id : κ} {row : ρ}
    (found : find key rows id = some row) (change : ρ → ρ) : ∃ left right, rows = left ++ row :: right ∧
      replace key rows id change = left ++ change row :: right ∧ remove key rows id = left ++ right := by
  obtain ⟨left, right, rfl, before, after⟩ := find_split keyed found
  have same := (find_mem found).2
  refine ⟨left, right, rfl, ?_, ?_⟩
  · have kept := replace_other change before
    have rest := replace_other change after
    unfold replace at kept rest ⊢
    rw [List.map_append, List.map_cons, kept, rest, if_pos same]
  · have kept := remove_other before
    have rest := remove_other after
    unfold remove at kept rest ⊢
    rw [List.filter_append, List.filter_cons_of_neg (by simpa using same), kept, rest]

theorem find_replace_self (rows : List ρ) (id : κ) (change : ρ → ρ)
    (keeps : ∀ row, key row = id → key (change row) = id) :
    find key (replace key rows id change) id = (find key rows id).map change := by
  induction rows with
  | nil => rfl
  | cons row rest ih =>
      simp only [find, replace, List.map_cons, List.find?_cons] at ih ⊢
      by_cases same : key row = id
      · simp [same, keeps row same]
      · simpa [same] using ih

theorem find_replace_other (rows : List ρ) {id other : κ} (change : ρ → ρ) (differs : other ≠ id)
    (keeps : ∀ row, key row = id → key (change row) = id) :
    find key (replace key rows id change) other = find key rows other := by
  induction rows with
  | nil => rfl
  | cons row rest ih =>
      simp only [find, replace, List.map_cons, List.find?_cons] at ih ⊢
      by_cases same : key row = id
      · have moved : ¬ id = other := fun eq => differs eq.symm
        simpa [same, keeps row same, moved] using ih
      · by_cases hit : key row = other
        · simp [hit, differs]
        · simpa [same, hit] using ih

theorem find_remove (rows : List ρ) (id other : κ) :
    find key (remove key rows id) other = if other = id then none else find key rows other := by
  induction rows with
  | nil => simp [find, remove]
  | cons row rest ih =>
      simp only [find, remove, List.filter_cons, List.find?_cons] at ih ⊢
      by_cases same : key row = id
      · subst same
        by_cases hit : key row = other
        · subst hit; simp at ih ⊢
        · simpa [hit] using ih
      · by_cases hit : key row = other
        · subst hit; simp [same]
        · simpa [same, hit] using ih

theorem find_filter {rows : List ρ} (keyed : Keyed key rows) (keep : ρ → Bool) (id : κ) :
    find key (rows.filter keep) id = (find key rows id).filter keep := by
  cases found : find key rows id with
  | none =>
      rw [find_eq_none] at found
      exact find_eq_none.mpr (fun row member => found row (List.mem_of_mem_filter member))
  | some row =>
      obtain ⟨member, rfl⟩ := find_mem found
      have keyedKept : Keyed key (rows.filter keep) := keyed.sublist (List.filter_sublist.map key)
      cases kept : keep row with
      | true =>
          rw [find_of_mem keyedKept (List.mem_filter.mpr ⟨member, kept⟩), Option.filter_some, if_pos kept]
      | false =>
          rw [Option.filter_some, kept, if_neg Bool.false_ne_true, find_eq_none]
          intro held heldMember same
          obtain ⟨heldMember, heldKept⟩ := List.mem_filter.mp heldMember
          rw [List.inj_on_of_nodup_map keyed heldMember member same, kept] at heldKept
          cases heldKept

theorem find_put (rows : List ρ) (row : ρ) (id : κ) :
    find key (put key rows row) id = if id = key row then some row else find key rows id := by
  unfold put
  split
  · rename_i held
    by_cases same : id = key row
    · obtain ⟨old, found⟩ := Option.isSome_iff_exists.mp held
      rw [same, find_replace_self rows (key row) _ (fun _ _ => rfl), found, if_pos rfl]
      rfl
    · rw [find_replace_other rows _ same (fun _ _ => rfl), if_neg same]
  · rename_i absent
    rw [find_append_new]
    by_cases same : id = key row
    · rw [same, Option.not_isSome_iff_eq_none.mp absent]
      simp
    · rw [if_neg same, if_neg (Ne.symm same), Option.or_none]

theorem mem_put {rows : List ρ} {row other : ρ} :
    other ∈ put key rows row ↔ other = row ∨ other ∈ rows ∧ key other ≠ key row := by
  unfold put
  split
  · rename_i held
    obtain ⟨old, member, same⟩ := find_isSome.mp held
    rw [mem_replace]
    constructor
    · rintro (⟨kept, differs⟩ | ⟨_, _, _, rfl⟩)
      · exact .inr ⟨kept, differs⟩
      · exact .inl rfl
    · rintro (rfl | kept)
      · exact .inr ⟨old, member, same, rfl⟩
      · exact .inl kept
  · rename_i absent
    have unused := find_eq_none.mp (Option.not_isSome_iff_eq_none.mp absent)
    rw [List.mem_append, List.mem_singleton]
    constructor
    · rintro (kept | rfl)
      · exact .inr ⟨kept, unused other kept⟩
      · exact .inl rfl
    · rintro (rfl | ⟨kept, _⟩)
      · exact .inr rfl
      · exact .inl kept

theorem keyed_put {rows : List ρ} (keyed : Keyed key rows) (row : ρ) : Keyed key (put key rows row) := by
  unfold put
  split
  · exact keyed_replace keyed (key row) _ (fun _ _ => rfl)
  · rename_i absent
    exact keyed_append keyed (find_eq_none.mp (Option.not_isSome_iff_eq_none.mp absent))

end Library.Table
