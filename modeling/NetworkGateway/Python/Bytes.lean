import Mathlib.Algebra.Group.Nat.Defs
import NetworkGateway.Library.Scan

/-! `bytes` and the encodings the gateway uses between them and `str`. -/

namespace NetworkGateway

abbrev Bytes := List UInt8

namespace Bytes

open Library.Scan

/-- `s.encode("utf-8")`, and a `b"..."` literal. -/
def utf8 (s : String) : Bytes := s.toList.flatMap String.utf8EncodeChar

/-- `s.encode("ascii")`, unless it raises. -/
def ascii (s : String) : Option Bytes :=
  if s.toList.all (fun c => c.toNat < 128) then some (s.toList.map (fun c => UInt8.ofNat c.toNat)) else none

/-- `data.decode("utf-8")`, unless it raises. -/
def decodeUtf8 (data : Bytes) : Option String := String.fromUTF8? data.toByteArray

theorem utf8_toByteArray (s : String) : (utf8 s).toByteArray = s.toByteArray := by
  change s.toList.utf8Encode = s.toByteArray
  exact String.utf8Encode_toList

theorem decodeUtf8_utf8 (s : String) : decodeUtf8 (utf8 s) = some s := by
  unfold decodeUtf8 String.fromUTF8?
  rw [utf8_toByteArray, dif_pos s.isValidUTF8]
  rfl

/-- A byte of an encoded character is the character itself, or none of ASCII and not 255. -/
theorem utf8EncodeChar_byte {c : Char} {b : UInt8} (member : b ∈ String.utf8EncodeChar c) :
    b.toNat = c.toNat ∧ c.toNat < 128 ∨ 128 ≤ b.toNat ∧ b.toNat < 255 := by
  have value : ∀ n < 255, 128 ≤ n → 128 ≤ (UInt8.ofNat n).toNat ∧ (UInt8.ofNat n).toNat < 255 := by
    intro n below high
    have kept : (UInt8.ofNat n).toNat = n := UInt8.toNat_ofNat_of_lt' (Nat.lt_trans below (by decide))
    omega
  simp only [String.utf8EncodeChar] at member
  split at member
  · rename_i ascii
    rw [List.mem_singleton] at member
    have kept : (UInt8.ofNat c.val.toNat).toNat = c.val.toNat :=
      UInt8.toNat_ofNat_of_lt' (Nat.lt_of_le_of_lt ascii (by decide))
    rw [member]
    exact .inl ⟨kept, Nat.lt_succ_of_le ascii⟩
  · right
    split at member
    · simp only [List.mem_cons, List.not_mem_nil, or_false] at member
      rcases member with rfl | rfl
      all_goals exact value _ (by omega) (by omega)
    · split at member
      · simp only [List.mem_cons, List.not_mem_nil, or_false] at member
        rcases member with rfl | rfl | rfl
        all_goals exact value _ (by omega) (by omega)
      · simp only [List.mem_cons, List.not_mem_nil, or_false] at member
        rcases member with rfl | rfl | rfl | rfl
        all_goals exact value _ (by omega) (by omega)

theorem utf8_byte {s : String} {b : UInt8} (member : b ∈ utf8 s) :
    (∃ c ∈ s.toList, b.toNat = c.toNat ∧ c.toNat < 128) ∨ 128 ≤ b.toNat ∧ b.toNat < 255 := by
  rcases List.mem_flatMap.mp member with ⟨c, listed, within⟩
  rcases utf8EncodeChar_byte within with ascii | outside
  · exact .inl ⟨c, listed, ascii⟩
  · exact .inr outside

theorem utf8_ne_nil {s : String} (present : s ≠ "") : utf8 s ≠ [] := by
  intro empty
  have read := decodeUtf8_utf8 s
  rw [empty, ← show utf8 "" = [] from rfl, decodeUtf8_utf8] at read
  exact present (Option.some.inj read).symm

/-- `data.decode("ascii")`, unless it raises. -/
def decodeAscii (data : Bytes) : Option String :=
  if data.all (· < 128) then some (String.ofList (data.map (fun b => Char.ofNat b.toNat))) else none

theorem ascii_cancel {s : List Char} (plain : s.all (fun c => c.toNat < 128) = true) :
    (s.map (fun c => UInt8.ofNat c.toNat)).map (fun b => Char.ofNat b.toNat) = s := by
  rw [List.all_eq_true] at plain
  have each : ∀ c ∈ s, (Char.ofNat (UInt8.ofNat c.toNat).toNat) = c := by
    intro c member
    have small : c.toNat < 128 := by simpa using plain c member
    have kept : (UInt8.ofNat c.toNat).toNat = c.toNat := UInt8.toNat_ofNat_of_lt' (Nat.lt_trans small (by decide))
    rw [kept]
    exact Char.ofNat_toNat c
  rw [List.map_map]
  calc
    _ = s.map id := List.map_congr_left each
    _ = s := List.map_id s

theorem ascii_inj {a b : String} {bytes : Bytes} (first : ascii a = some bytes)
    (second : ascii b = some bytes) : a = b := by
  unfold ascii at first second
  split at first
  · rename_i plainA
    split at second
    · rename_i plainB
      have same : a.toList.map (fun c => UInt8.ofNat c.toNat) = b.toList.map (fun c => UInt8.ofNat c.toNat) := by
        rw [Option.some.inj first, Option.some.inj second]
      apply String.toList_inj.mp
      rw [← ascii_cancel plainA, ← ascii_cancel plainB, same]
    · cases second
  · cases first

theorem decodeAscii_ascii {s : String} {data : Bytes} (encoded : ascii s = some data) : decodeAscii data = some s := by
  unfold ascii at encoded
  split at encoded
  · rename_i plain
    cases encoded
    have small : (s.toList.map (fun c => UInt8.ofNat c.toNat)).all (· < 128) = true := by
      rw [List.all_map, List.all_eq_true]
      intro c member
      have bound : c.toNat < 128 := by simpa using List.all_eq_true.mp plain c member
      have kept : (UInt8.ofNat c.toNat).toNat = c.toNat := UInt8.toNat_ofNat_of_lt' (Nat.lt_trans bound (by decide))
      simpa [UInt8.lt_iff_toNat_lt, kept] using bound
    rw [decodeAscii, if_pos small, ascii_cancel plain, String.ofList_toList]
  · cases encoded

/-- `n.to_bytes(width, "big")` for an `n` that fits. -/
def big : (width n : Nat) → Bytes
  | 0, _ => []
  | width + 1, n => big width (n / 256) ++ [UInt8.ofNat (n % 256)]

/-- `int.from_bytes(data, "big")`. -/
def ofBig (data : Bytes) : Nat := data.foldl (fun n b => n * 256 + b.toNat) 0

theorem big_length (width n : Nat) : (big width n).length = width := by
  induction width generalizing n with
  | zero => rfl
  | succ width ih => rw [big, List.length_append, ih, List.length_singleton]

theorem ofBig_big {width n : Nat} (fits : n < 256 ^ width) : ofBig (big width n) = n := by
  induction width generalizing n with
  | zero => exact (Nat.lt_one_iff.mp fits).symm
  | succ width ih =>
      have high : n / 256 < 256 ^ width := by
        rw [Nat.pow_succ] at fits
        exact Nat.div_lt_of_lt_mul (by rwa [Nat.mul_comm])
      have low : (UInt8.ofNat (n % 256)).toNat = n % 256 := UInt8.toNat_ofNat_of_lt' (Nat.mod_lt n (by decide))
      have split := ih high
      unfold ofBig at split ⊢
      rw [big, List.foldl_append, split, List.foldl_cons, List.foldl_nil, low]
      omega

def isDigit (b : UInt8) : Bool := 48 ≤ b && b ≤ 57

def isUpper (b : UInt8) : Bool := 65 ≤ b && b ≤ 90

def isAlnum (b : UInt8) : Bool := isDigit b || isUpper b || (97 ≤ b && b ≤ 122)

/-- `[\x20-\x7e]`. -/
def isPrintable (b : UInt8) : Bool := 0x20 ≤ b && b ≤ 0x7e

def lower (data : Bytes) : Bytes := data.map (fun b => if isUpper b then b + 32 else b)

def upper (data : Bytes) : Bytes := data.map (fun b => if 97 ≤ b && b ≤ 122 then b - 32 else b)

/-- `part in data`. -/
def contains (data part : Bytes) : Bool := occurs (word part) data

theorem contains_iff (text part : Bytes) : contains text part ↔ part <:+: text := by
  induction text with
  | nil => cases part <;> simp [contains, occurs, word]
  | cons byte text ih =>
      change ((word part (byte :: text)).isSome || contains text part) ↔ _
      rw [Bool.or_eq_true, ih, List.infix_cons_iff]
      have here : (word part (byte :: text)).isSome ↔ part <+: byte :: text := by
        rw [← List.isPrefixOf_iff_prefix]
        unfold word
        split <;> simp_all
      rw [here]

theorem contains_append {text part : Bytes} (more : Bytes) (found : contains text part) :
    contains (text ++ more) part := by
  rw [contains_iff] at found ⊢
  exact found.trans (List.prefix_append text more).isInfix

/-- `data.split(separator)` for a separator of two bytes. -/
def splitPair (first second : UInt8) : Bytes → List Bytes
  | [] => [[]]
  | [b] => [[b]]
  | b :: c :: rest =>
      if b = first ∧ c = second then [] :: splitPair first second rest
      else match splitPair first second (c :: rest) with
        | line :: lines => (b :: line) :: lines
        | [] => [[b]]

/-- `re.search(rb"(?:^|[\r\n])" + tail, data)` for a `tail` that has to match up to the end. -/
def afterBreak (tail : Bytes → Bool) (data : Bytes) : Bool :=
  tail data || breaks data
where
  breaks : Bytes → Bool
    | [] => false
    | b :: rest => ((b = 13 || b = 10) && tail rest) || breaks rest

end Bytes

end NetworkGateway
