import Mathlib.Data.List.Basic

/-! The words of a simple command, as far as a POSIX shell takes its characters literally. -/

namespace Library.Shell

/-- Characters without a meaning of their own, wherever they stand in a word. -/
def plain (c : Char) : Bool := c.isAlphanum || "_@%+=:,./-".toList.contains c

inductive Position where
  | between
  | word (begun : List Char)
  | quoted (begun : List Char)

/-- The words of a line from a position in it: `none` where an expansion, an operator or an open
quotation would be left to the shell. -/
def wordsFrom : Position → List Char → Option (List (List Char))
  | .between, [] => some []
  | .word begun, [] => some [begun]
  | .quoted _, [] => none
  | .between, c :: rest =>
      if c = ' ' ∨ c = '\t' then wordsFrom .between rest
      else if c = '\'' then wordsFrom (.quoted []) rest
      else if plain c then wordsFrom (.word [c]) rest
      else none
  | .word begun, c :: rest =>
      if c = ' ' ∨ c = '\t' then (wordsFrom .between rest).map (begun :: ·)
      else if c = '\'' then wordsFrom (.quoted begun) rest
      else if plain c then wordsFrom (.word (begun ++ [c])) rest
      else none
  | .quoted begun, c :: rest =>
      if c = '\'' then wordsFrom (.word begun) rest else wordsFrom (.quoted (begun ++ [c])) rest

def words (line : List Char) : Option (List (List Char)) := wordsFrom .between line

theorem plain_apart {c : Char} (literal : plain c) : ¬(c = ' ' ∨ c = '\t') ∧ c ≠ '\'' := by
  refine ⟨?_, ?_⟩
  · rintro (rfl | rfl)
    · exact absurd literal (by decide)
    · exact absurd literal (by decide)
  · rintro rfl
    exact absurd literal (by decide)

theorem wordsFrom_word {text : List Char} (literal : ∀ c ∈ text, plain c) (begun rest : List Char) :
    wordsFrom (.word begun) (text ++ rest) = wordsFrom (.word (begun ++ text)) rest := by
  induction text generalizing begun with
  | nil => rw [List.nil_append, List.append_nil]
  | cons c text ih =>
      have here := literal c List.mem_cons_self
      rw [List.cons_append, wordsFrom, if_neg (plain_apart here).1, if_neg (plain_apart here).2, if_pos here,
        ih (fun d member => literal d (List.mem_cons_of_mem c member)), List.append_assoc]
      rfl

theorem wordsFrom_between {text : List Char} (present : text ≠ []) (literal : ∀ c ∈ text, plain c) (rest : List Char) :
    wordsFrom .between (text ++ rest) = wordsFrom (.word text) rest := by
  cases text with
  | nil => exact absurd rfl present
  | cons c text =>
      have here := literal c List.mem_cons_self
      rw [List.cons_append, wordsFrom, if_neg (plain_apart here).1, if_neg (plain_apart here).2, if_pos here]
      exact wordsFrom_word (fun d member => literal d (List.mem_cons_of_mem c member)) [c] rest

theorem words_cons {text : List Char} (present : text ≠ []) (literal : ∀ c ∈ text, plain c) (rest : List Char) :
    words (text ++ ' ' :: rest) = (words rest).map (text :: ·) := by
  unfold words
  rw [wordsFrom_between present literal, wordsFrom, if_pos (.inl rfl)]

theorem words_last {text : List Char} (present : text ≠ []) (literal : ∀ c ∈ text, plain c) :
    words text = some [text] := by
  have read := wordsFrom_between present literal []
  rw [List.append_nil] at read
  exact read

example : words "telnet '-x' 23".toList = some ["telnet".toList, "-x".toList, "23".toList] ∧
    words "telnet $(reboot)".toList = none := by decide

end Library.Shell
