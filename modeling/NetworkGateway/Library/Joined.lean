import Mathlib.Data.List.Basic

/-! Lists joined by a separator: which lists of parts are determined by their number and the joined text. -/

namespace Library.Joined

variable {α : Type} {sep : α} {parts others before after : List (List α)} {part first : List α}

theorem intercalate_cons (sep : α) (first : List α) (present : parts ≠ []) :
    [sep].intercalate (first :: parts) = first ++ sep :: [sep].intercalate parts := by
  cases parts with
  | nil => exact absurd rfl present
  | cons second parts =>
      rw [List.intercalate_cons_cons, List.append_assoc]
      rfl

theorem intercalate_append (sep : α) (a b : List α) (parts : List (List α)) :
    [sep].intercalate ((a ++ b) :: parts) = a ++ [sep].intercalate (b :: parts) := by
  cases parts with
  | nil => rw [List.intercalate_singleton, List.intercalate_singleton]
  | cons next parts =>
      rw [intercalate_cons sep (a ++ b) (List.cons_ne_nil next parts), intercalate_cons sep b (List.cons_ne_nil next parts),
        List.append_assoc]

/-- What stands around a separator inside a part can be cut at it instead. -/
theorem intercalate_regroup (sep : α) (before after : List (List α)) (a b c : List α) :
    [sep].intercalate (before ++ (a ++ sep :: b) :: c :: after) =
      [sep].intercalate (before ++ a :: (b ++ sep :: c) :: after) := by
  induction before with
  | nil =>
      calc [sep].intercalate ((a ++ sep :: b) :: c :: after)
        _ = a ++ sep :: (b ++ sep :: [sep].intercalate (c :: after)) := by
            rw [intercalate_cons sep _ (List.cons_ne_nil c after), List.append_assoc]
            rfl
        _ = a ++ sep :: [sep].intercalate ((b ++ sep :: c) :: after) := by
            rw [intercalate_append sep b (sep :: c)]
            exact congrArg (fun rest => a ++ sep :: (b ++ rest)) (intercalate_append sep [sep] c after).symm
        _ = [sep].intercalate (a :: (b ++ sep :: c) :: after) := (intercalate_cons sep a (List.cons_ne_nil _ after)).symm
  | cons head before ih =>
      have left : before ++ (a ++ sep :: b) :: c :: after ≠ [] := List.append_ne_nil_of_right_ne_nil _ (List.cons_ne_nil _ _)
      have right : before ++ a :: (b ++ sep :: c) :: after ≠ [] :=
        List.append_ne_nil_of_right_ne_nil _ (List.cons_ne_nil _ _)
      rw [List.cons_append, List.cons_append, intercalate_cons sep head left, intercalate_cons sep head right, ih]

/-- No separator stands where another cut would leave something on both of its sides: in front of the last part
behind the first place of a part, or behind the first part in front of the last place of a part. -/
def Firm (sep : α) (parts : List (List α)) : Prop :=
  ∀ before part after, parts = before ++ part :: after →
    (after ≠ [] → sep ∉ part.tail) ∧ (before ≠ [] → sep ∉ part.dropLast)

theorem Firm.tail (firm : Firm sep (first :: parts)) : Firm sep parts := by
  rintro before part after rfl
  have here := firm (first :: before) part after rfl
  exact ⟨here.1, fun _ => here.2 (List.cons_ne_nil _ _)⟩

theorem Firm.later (firm : Firm sep (first :: parts)) : ∀ part ∈ parts, sep ∉ part.dropLast := by
  intro part member
  rcases List.append_of_mem member with ⟨before, after, rfl⟩
  exact (firm (first :: before) part after rfl).2 (List.cons_ne_nil _ _)

theorem Firm.replaceLast {last other : List α} (firm : Firm sep (parts ++ [last])) (free : sep ∉ other) :
    Firm sep (parts ++ [other]) := by
  intro before part after split
  rcases List.eq_nil_or_concat after with rfl | ⟨start, ending, rfl⟩
  · have same := List.append_inj_right' split rfl
    rw [← (List.cons.inj same).1]
    exact ⟨fun more => absurd rfl more, fun _ inside => free (List.dropLast_subset _ inside)⟩
  · rw [List.concat_eq_append, ← List.cons_append, ← List.append_assoc] at split
    have kept := firm before part (start ++ [last])
    rw [List.append_inj_left' split rfl, List.append_assoc] at kept
    exact ⟨fun _ => (kept rfl).1 (List.append_ne_nil_of_right_ne_nil _ (List.cons_ne_nil _ _)), (kept rfl).2⟩

theorem intercalate_short (ends : ∀ part ∈ parts, sep ∉ part.dropLast) (present : parts ≠ [])
    (nonempty : ∀ other ∈ others, other ≠ []) (more : others.length = parts.length) :
    [sep].intercalate parts ≠ [sep].intercalate (first :: others) := by
  induction parts generalizing first others with
  | nil => exact absurd rfl present
  | cons part parts ih =>
      cases others with
      | nil => cases more
      | cons other others =>
          have some := nonempty other List.mem_cons_self
          have here := ends part List.mem_cons_self
          have rest := fun later member => ends later (List.mem_cons_of_mem part member)
          have full := fun later member => nonempty later (List.mem_cons_of_mem other member)
          have length : others.length = parts.length := Nat.succ.inj more
          rw [intercalate_cons sep first (List.cons_ne_nil other others)]
          intro same
          by_cases last : parts = []
          · have none : others = [] := List.length_eq_zero_iff.mp (by rw [length, last, List.length_nil])
            rw [last, none, List.intercalate_singleton, List.intercalate_singleton] at same
            rw [same, List.dropLast_append_of_ne_nil (List.cons_ne_nil _ _), List.dropLast_cons_of_ne_nil some] at here
            exact here (List.mem_append_right first List.mem_cons_self)
          · rw [intercalate_cons sep part last] at same
            -- the cut behind the first part of the longer list falls at, behind or in front of the one here
            rcases List.append_eq_append_iff.mp same with ⟨within, rfl, left⟩ | ⟨within, rfl, left⟩
            · cases within with
              | nil => exact ih rest last full length (List.cons.inj left).2
              | cons _ within =>
                  have joined : [sep].intercalate parts = within ++ [sep] ++ [sep].intercalate (other :: others) := by
                    rw [List.append_assoc]
                    exact (List.cons.inj left).2
                  rw [← intercalate_append] at joined
                  exact ih rest last full length joined
            · cases within with
              | nil => exact ih rest last full length (List.cons.inj left).2.symm
              | cons _ within =>
                  have cut := (List.cons.inj left).1
                  subst cut
                  have bare : within = [] := by
                    by_contra content
                    rw [List.dropLast_append_of_ne_nil (List.cons_ne_nil _ _), List.dropLast_cons_of_ne_nil content] at here
                    exact here (List.mem_append_right first List.mem_cons_self)
                  rw [bare] at left
                  cases other with
                  | nil => exact some rfl
                  | cons head tail =>
                      have split := intercalate_append sep [head] tail others
                      have joined := (List.cons.inj left).2
                      rw [List.singleton_append] at split
                      rw [split] at joined
                      exact ih rest last full length (List.cons.inj joined).2.symm

/-- Firm parts are the only ones of their number with their joined text. -/
theorem intercalate_firm (firm : Firm sep parts) (nonempty : ∀ part ∈ parts, part ≠ [])
    (full : ∀ other ∈ others, other ≠ []) (length : others.length = parts.length)
    (same : [sep].intercalate parts = [sep].intercalate others) : parts = others := by
  induction parts generalizing others with
  | nil => exact (List.length_eq_zero_iff.mp length).symm
  | cons part parts ih =>
      cases others with
      | nil => cases length
      | cons other others =>
          have behind : others.length = parts.length := Nat.succ.inj length
          have left := fun later member => nonempty later (List.mem_cons_of_mem part member)
          have right := fun later member => full later (List.mem_cons_of_mem other member)
          by_cases last : parts = []
          · have none : others = [] := List.length_eq_zero_iff.mp (by rw [behind, last, List.length_nil])
            rw [last, none, List.intercalate_singleton, List.intercalate_singleton] at same
            rw [last, none, same]
          · have further : others ≠ [] := by
              rintro rfl
              exact last (List.length_eq_zero_iff.mp behind.symm)
            have here := (firm [] part parts rfl).1 last
            rw [intercalate_cons sep part last, intercalate_cons sep other further] at same
            rcases List.append_eq_append_iff.mp same with ⟨within, rfl, cut⟩ | ⟨within, rfl, cut⟩
            · cases within with
              | nil => rw [List.append_nil, ih firm.tail left right behind (List.cons.inj cut).2]
              | cons first within =>
                  have joined : [sep].intercalate parts = within ++ sep :: [sep].intercalate others := (List.cons.inj cut).2
                  rw [← intercalate_cons sep within further] at joined
                  exact absurd joined (intercalate_short firm.later last right behind)
            · cases within with
              | nil => rw [List.append_nil, ih firm.tail left right behind (List.cons.inj cut).2.symm]
              | cons first within =>
                  have held : sep = first := (List.cons.inj cut).1
                  subst held
                  cases other with
                  | nil => exact absurd rfl (full [] List.mem_cons_self)
                  | cons head other => exact absurd (List.mem_append_right other List.mem_cons_self) here

/-- Parts that are not firm can be cut in another way, at a separator inside one of them. -/
theorem loose_regroups (loose : ¬Firm sep parts) :
    ∃ before a b c after, (parts = before ++ (a ++ sep :: b) :: c :: after ∧ a ≠ []) ∨
      (parts = before ++ a :: (b ++ sep :: c) :: after ∧ c ≠ []) := by
  by_contra fixed
  apply loose
  rintro before part after rfl
  constructor
  · intro present inside
    rcases List.append_of_mem inside with ⟨start, b, split⟩
    rcases List.exists_cons_of_ne_nil present with ⟨c, rest, rfl⟩
    cases part with
    | nil => cases inside
    | cons head tail =>
        rw [List.tail_cons] at split
        refine fixed ⟨before, head :: start, b, c, rest, .inl ⟨?_, List.cons_ne_nil _ _⟩⟩
        rw [split]
        rfl
  · intro present inside
    rcases List.append_of_mem inside with ⟨b, ending, split⟩
    rcases List.eq_nil_or_concat before with rfl | ⟨start, a, rfl⟩
    · exact present rfl
    · have some : part ≠ [] := by
        rintro rfl
        cases inside
      refine fixed ⟨start, a, b, ending ++ [part.getLast some], after, .inr ⟨?_, ?_⟩⟩
      · have whole := List.dropLast_concat_getLast some
        rw [split, List.append_assoc, List.cons_append] at whole
        rw [whole, List.concat_eq_append, List.append_assoc, List.singleton_append]
      · exact List.append_ne_nil_of_right_ne_nil _ (List.cons_ne_nil _ _)

end Library.Joined
