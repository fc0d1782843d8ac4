import Mathlib.Data.List.Basic

/-! Left-to-right scanning substitution over character lists.

A matcher tells how many characters it matches at the head of its input; a
substitution replaces every leftmost, non-overlapping match. -/

namespace Library.Scan

abbrev Matcher (α : Type) := List α → Option Nat

variable {α : Type}

/-- `skip` counts the characters of the current match still to be dropped. -/
def substFrom (matcher : Matcher α) (replacement : List α) : Nat → List α → List α
  | _, [] => []
  | skip + 1, _ :: rest => substFrom matcher replacement skip rest
  | 0, c :: rest =>
      match matcher (c :: rest) with
      | some (consumed + 1) => replacement ++ substFrom matcher replacement consumed rest
      | _ => c :: substFrom matcher replacement 0 rest

/-- `re.sub` for a matcher that never matches the empty string. -/
def subst (matcher : Matcher α) (replacement input : List α) : List α :=
  substFrom matcher replacement 0 input

/-- `re.search(...) is not None`. -/
def occurs (matcher : Matcher α) : List α → Bool
  | [] => (matcher []).isSome
  | c :: rest => (matcher (c :: rest)).isSome || occurs matcher rest

def word [DecidableEq α] (text : List α) : Matcher α :=
  fun input => if text.isPrefixOf input then some text.length else none

theorem subst_eq_self (matcher : Matcher α) (replacement input : List α)
    (absent : ∀ suffix, suffix <:+ input → matcher suffix = none) :
    subst matcher replacement input = input := by
  unfold subst
  induction input with
  | nil => rfl
  | cons c rest ih =>
      have here := absent (c :: rest) (List.suffix_refl _)
      have later := ih (fun suffix shorter => absent suffix (shorter.trans (List.suffix_cons c rest)))
      simp [substFrom, here, later]

theorem subst_word_absent [DecidableEq α] {head : α} {tail input : List α} (replacement : List α)
    (absent : head ∉ input) : subst (word (head :: tail)) replacement input = input := by
  apply subst_eq_self
  intro suffix within
  cases suffix with
  | nil => rfl
  | cons c rest =>
      have member : c ∈ input := within.subset List.mem_cons_self
      have differs : (head == c) = false := by
        rw [beq_eq_false_iff_ne]
        intro same
        rw [same] at absent
        exact absent member
      simp [word, List.isPrefixOf, differs]

end Library.Scan
