import Mathlib.Algebra.Group.Nat.Defs
import NetworkGateway.Library.Scan

/-! `str` methods the gateway uses, over code points. -/

namespace NetworkGateway.Text

open Library.Scan

/-- `str.isspace` for one character. -/
def isSpace (c : Char) : Bool :=
  let n := c.toNat
  (9 ≤ n && n ≤ 13) || (28 ≤ n && n ≤ 32) || n == 0x85 || n == 0xA0 || n == 0x1680 ||
    (0x2000 ≤ n && n ≤ 0x200A) || n == 0x2028 || n == 0x2029 || n == 0x202F || n == 0x205F ||
    n == 0x3000

theorem isAlphanum_iff {c : Char} : c.isAlphanum ↔
    65 ≤ c.toNat ∧ c.toNat ≤ 90 ∨ 97 ≤ c.toNat ∧ c.toNat ≤ 122 ∨ 48 ≤ c.toNat ∧ c.toNat ≤ 57 := by
  have ranges : c.isAlphanum = (decide (65 ≤ c.val ∧ c.val ≤ 90) || (decide (97 ≤ c.val) && decide (c.val ≤ 122)) ||
    (decide (48 ≤ c.val) && decide (c.val ≤ 57))) := rfl
  rw [ranges]
  simp only [Bool.or_eq_true, Bool.and_eq_true, decide_eq_true_iff, UInt32.le_iff_toNat_le, or_assoc]
  exact Iff.rfl

def stripChars (drop : Char → Bool) (s : List Char) : List Char :=
  ((s.dropWhile drop).reverse.dropWhile drop).reverse

theorem stripChars_ends {drop : Char → Bool} {s : List Char} (first : ∀ c, s.head? = some c → drop c = false)
    (last : ∀ c, s.getLast? = some c → drop c = false) : stripChars drop s = s := by
  have plain : ∀ t : List Char, (∀ c, t.head? = some c → drop c = false) → t.dropWhile drop = t := by
    intro t kept
    cases t with
    | nil => rfl
    | cons c rest => rw [List.dropWhile_cons, kept c rfl, if_neg Bool.false_ne_true]
  unfold stripChars
  rw [plain s first, plain s.reverse (by rw [List.head?_reverse]; exact last), List.reverse_reverse]

theorem stripChars_eq_self {drop : Char → Bool} {s : List Char} (kept : ∀ c ∈ s, drop c = false) :
    stripChars drop s = s :=
  stripChars_ends (fun c first => kept c (List.mem_of_head? first)) (fun c last => kept c (List.mem_of_getLast? last))

theorem head_dropWhile {drop : Char → Bool} {s : List Char} {c : Char} (first : (s.dropWhile drop).head? = some c) :
    drop c = false := by
  induction s with
  | nil => cases first
  | cons d rest ih =>
      rw [List.dropWhile_cons] at first
      split at first
      · exact ih first
      · rename_i kept
        rw [← Option.some.inj first]
        simpa using kept

theorem stripChars_idempotent (drop : Char → Bool) (s : List Char) :
    stripChars drop (stripChars drop s) = stripChars drop s := by
  apply stripChars_ends
  · intro c first
    have inner : stripChars drop s <+: s.dropWhile drop := by
      rw [← List.reverse_suffix, stripChars, List.reverse_reverse]
      exact List.dropWhile_suffix drop
    rcases inner with ⟨rest, whole⟩
    apply @head_dropWhile drop s c
    rw [← whole, List.head?_append, first]
    rfl
  · intro c last
    apply @head_dropWhile drop (s.dropWhile drop).reverse c
    rw [← last, stripChars, List.getLast?_reverse]

def strip (s : String) : String := String.ofList (stripChars isSpace s.toList)

theorem strip_strip (s : String) : strip (strip s) = strip s := by
  unfold strip
  rw [String.toList_ofList, stripChars_idempotent]

/-- `s.split(separator)` for a separator of one character. -/
def splitChars (separator : Char) : List Char → List (List Char)
  | [] => [[]]
  | c :: rest =>
      if c = separator then [] :: splitChars separator rest
      else match splitChars separator rest with
        | part :: parts => (c :: part) :: parts
        | [] => [[c]]

theorem splitChars_absent {separator : Char} {text : List Char} (absent : separator ∉ text) :
    splitChars separator text = [text] := by
  induction text with
  | nil => rfl
  | cons c rest ih =>
      rw [List.mem_cons, not_or] at absent
      rw [splitChars, if_neg (Ne.symm absent.1), ih absent.2]

theorem splitChars_append {separator : Char} {part : List Char} (absent : separator ∉ part) (rest : List Char) :
    splitChars separator (part ++ separator :: rest) = part :: splitChars separator rest := by
  induction part with
  | nil => exact if_pos rfl
  | cons c part ih =>
      rw [List.mem_cons, not_or] at absent
      rw [List.cons_append, splitChars, if_neg (Ne.symm absent.1), ih absent.2]

theorem mem_splitChars (separator : Char) {c : Char} {text : List Char} (member : c ∈ text) :
    c = separator ∨ ∃ part ∈ splitChars separator text, c ∈ part := by
  induction text with
  | nil => cases member
  | cons first rest ih =>
      rw [splitChars]
      by_cases same : first = separator
      · rw [if_pos same]
        rcases List.mem_cons.mp member with rfl | later
        · exact .inl same
        · rcases ih later with separates | ⟨part, listed, within⟩
          · exact .inl separates
          · exact .inr ⟨part, List.mem_cons_of_mem _ listed, within⟩
      · rw [if_neg same]
        cases split : splitChars separator rest with
        | nil =>
            rcases List.mem_cons.mp member with rfl | later
            · exact .inr ⟨[c], List.mem_singleton_self _, List.mem_singleton_self _⟩
            · rcases ih later with separates | ⟨part, listed, within⟩
              · exact .inl separates
              · rw [split] at listed
                cases listed
        | cons part parts =>
            rcases List.mem_cons.mp member with rfl | later
            · exact .inr ⟨c :: part, List.mem_cons_self, List.mem_cons_self⟩
            · rcases ih later with separates | ⟨other, listed, within⟩
              · exact .inl separates
              · rw [split] at listed
                rcases List.mem_cons.mp listed with rfl | listed
                · exact .inr ⟨first :: other, List.mem_cons_self, List.mem_cons_of_mem _ within⟩
                · exact .inr ⟨other, List.mem_cons_of_mem _ listed, within⟩

theorem mem_of_splitChars {separator c : Char} {text part : List Char} (listed : part ∈ splitChars separator text)
    (member : c ∈ part) : c ∈ text := by
  induction text generalizing part with
  | nil =>
      rw [List.mem_singleton.mp listed] at member
      cases member
  | cons first rest ih =>
      rw [splitChars] at listed
      split at listed
      · rcases List.mem_cons.mp listed with rfl | later
        · cases member
        · exact List.mem_cons_of_mem _ (ih later member)
      · split at listed
        · rename_i head parts split
          rw [split] at ih
          rcases List.mem_cons.mp listed with rfl | later
          · rcases List.mem_cons.mp member with rfl | within
            · exact List.mem_cons_self
            · exact List.mem_cons_of_mem _ (ih List.mem_cons_self within)
          · exact List.mem_cons_of_mem _ (ih (List.mem_cons_of_mem _ later) member)
        · rw [List.mem_singleton.mp listed, List.mem_singleton] at member
          rw [member]
          exact List.mem_cons_self

def split (s : String) (separator : Char) : List String :=
  (splitChars separator s.toList).map String.ofList

/-- `s.split()`: the runs of characters that are no white space. -/
def words (s : String) : List String :=
  let spaced := s.toList.map (fun c => if isSpace c then ' ' else c)
  ((splitChars ' ' spaced).filter (fun part => !part.isEmpty)).map String.ofList

/-- `s.capitalize()` on an ASCII label. -/
def capitalize (s : String) : String :=
  match s.toList with
  | [] => s
  | c :: rest => String.ofList (c.toUpper :: rest.map Char.toLower)

/-- `s.replace(old, new)` for a non-empty `old`. -/
def replace (s old new : String) : String :=
  String.ofList (subst (word old.toList) new.toList s.toList)

/-- `s[:limit]`. -/
def truncate (s : String) (limit : Nat) : String := String.ofList (s.toList.take limit)

/-- The ASCII letter a character equals under `re.IGNORECASE`; U+0130, U+0131,
U+017F and U+212A are the only characters outside ASCII that have one. -/
def foldCase (c : Char) : Char :=
  match c.toNat with
  | 0x130 | 0x131 => 'i'
  | 0x17F => 's'
  | 0x212A => 'k'
  | _ => c.toLower

/-- `s.lower()` where only the comparison with ASCII text matters: U+212A is the
one character outside ASCII whose lower case is ASCII. -/
def lowerChar (c : Char) : Char := if c.toNat == 0x212A then 'k' else c.toLower

def lower (s : String) : String := String.ofList (s.toList.map lowerChar)

end NetworkGateway.Text
