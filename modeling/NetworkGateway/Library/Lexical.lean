import Mathlib.Algebra.Group.Nat.Defs
import Mathlib.Data.List.Lex
import Mathlib.Order.Lattice

/-! Lexicographic order of texts of one width, and of numbers in mixed radix. -/

namespace Library.Lexical

section

variable {α : Type} [LinearOrder α]

/-- Texts with front parts of one width compare by the front parts first. -/
theorem append_lt_append {a b : List α} (width : a.length = b.length) (rest more : List α) :
    a ++ rest < b ++ more ↔ a < b ∨ a = b ∧ rest < more := by
  induction a generalizing b with
  | nil =>
      cases b with
      | nil => simp
      | cons y b => cases width
  | cons x a ih =>
      cases b with
      | nil => cases width
      | cons y b =>
          have tail : a.length = b.length := Nat.succ.inj width
          rw [List.cons_append, List.cons_append, List.cons_lt_cons_iff, List.cons_lt_cons_iff, ih tail,
            List.cons.injEq]
          tauto

theorem cons_append_lt {x : α} (rest more : List α) : x :: rest < x :: more ↔ rest < more := by
  simp only [List.cons_lt_cons_iff, lt_irrefl, true_and, false_or]

end

/-- Numbers with low parts below one radix compare by the high parts first. -/
theorem radix_lt {high top low bottom radix : Nat} (small : low < radix) (little : bottom < radix) :
    high * radix + low < top * radix + bottom ↔ high < top ∨ high = top ∧ low < bottom := by
  constructor
  · intro less
    rcases Nat.lt_trichotomy high top with below | same | above
    · exact .inl below
    · rw [same] at less
      exact .inr ⟨same, by omega⟩
    · have step : (top + 1) * radix ≤ high * radix := Nat.mul_le_mul_right radix above
      have split : (top + 1) * radix = top * radix + radix := Nat.succ_mul top radix
      omega
  · intro first
    rcases first with below | ⟨same, less⟩
    · have step : (high + 1) * radix ≤ top * radix := Nat.mul_le_mul_right radix below
      have split : (high + 1) * radix = high * radix + radix := Nat.succ_mul high radix
      omega
    · rw [same]
      omega

theorem radix_eq {high top low bottom radix : Nat} (small : low < radix) (little : bottom < radix) :
    high * radix + low = top * radix + bottom ↔ high = top ∧ low = bottom := by
  constructor
  · intro same
    have first : ¬(high * radix + low < top * radix + bottom) := by omega
    have second : ¬(top * radix + bottom < high * radix + low) := by omega
    rw [radix_lt small little] at first
    rw [radix_lt little small] at second
    omega
  · intro same
    rw [same.1, same.2]

end Library.Lexical
