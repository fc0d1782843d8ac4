import NetworkGateway.Python.Text

/-! `str(uuid.UUID(text))`, with the base-16 `int` parser behind it. -/

namespace NetworkGateway.Uuid

open Library.Scan

def zeros : List Nat :=
  [0x30, 0x660, 0x6F0, 0x7C0, 0x966, 0x9E6, 0xA66, 0xAE6, 0xB66, 0xBE6, 0xC66, 0xCE6, 0xD66, 0xDE6,
   0xE50, 0xED0, 0xF20, 0x1040, 0x1090, 0x17E0, 0x1810, 0x1946, 0x19D0, 0x1A80, 0x1A90, 0x1B50,
   0x1BB0, 0x1C40, 0x1C50, 0xA620, 0xA8D0, 0xA900, 0xA9D0, 0xA9F0, 0xAA50, 0xABF0, 0xFF10, 0x104A0,
   0x10D30, 0x11066, 0x110F0, 0x11136, 0x111D0, 0x112F0, 0x11450, 0x114D0, 0x11650, 0x116C0,
   0x11730, 0x118E0, 0x11950, 0x11C50, 0x11D50, 0x11DA0, 0x16A60, 0x16AC0, 0x16B50, 0x1D7CE,
   0x1D7D8, 0x1D7E2, 0x1D7EC, 0x1D7F6, 0x1E140, 0x1E2F0, 0x1E950, 0x1FBF0]

/-- `_PyUnicode_TransformDecimalAndSpaceToASCII` on one character: the decimal digits and the white
space of Unicode become those of ASCII, and every other character beyond 126 a question mark. -/
def toAscii (c : Char) : Char :=
  let n := c.toNat
  if n < 127 then c
  else if Text.isSpace c then ' '
  else match zeros.find? (fun start => start ≤ n && n ≤ start + 9) with
    | some start => Char.ofNat (48 + (n - start))
    | none => '?'

/-- `Py_ISSPACE`, which leaves the separators U+001C to U+001F out. -/
def isAsciiSpace (c : Char) : Bool := (9 ≤ c.toNat && c.toNat ≤ 13) || c.toNat == 32

/-- `_PyLong_DigitValue` below 16. -/
def hexDigit (c : Char) : Option Nat :=
  let n := c.toNat
  if 48 ≤ n && n ≤ 57 then some (n - 48)
  else if 97 ≤ n && n ≤ 102 then some (n - 87)
  else if 65 ≤ n && n ≤ 70 then some (n - 55)
  else none

/-- Digits with single underscores between them; `afterDigit` allows one here. -/
def hexDigits (acc : Nat) (afterDigit : Bool) : List Char → Option Nat
  | [] => if afterDigit then some acc else none
  | '_' :: rest => if afterDigit then hexDigits acc false rest else none
  | c :: rest =>
      match hexDigit c with
      | some digit => hexDigits (16 * acc + digit) true rest
      | none => none

/-- `int(text, 16)` on text without a minus sign. -/
def int16 (s : List Char) : Option Nat :=
  let s := Text.stripChars isAsciiSpace (s.map toAscii)
  let s := match s with
    | '+' :: rest => rest
    | _ => s
  match s with
  | '0' :: 'x' :: '_' :: rest | '0' :: 'X' :: '_' :: rest => hexDigits 0 false rest
  | '0' :: 'x' :: rest | '0' :: 'X' :: rest => hexDigits 0 false rest
  | _ => hexDigits 0 false s

def hexChar (n : Nat) : Char := Char.ofNat (if n < 10 then 48 + n else 87 + n)

/-- `'%0{width}x' % n` for `n < 16 ^ width`. -/
def hexText : Nat → Nat → List Char
  | 0, _ => []
  | width + 1, n => hexText width (n / 16) ++ [hexChar (n % 16)]

def print (n : Nat) : String :=
  let digits := hexText 32 n
  String.ofList (digits.take 8 ++ '-' :: (digits.drop 8).take 4 ++ '-' :: (digits.drop 12).take 4 ++
    '-' :: (digits.drop 16).take 4 ++ '-' :: digits.drop 20)

/-- `str(uuid.UUID(text))`, or `none` for `ValueError`. -/
def parse (text : String) : Option String :=
  let s := subst (word "urn:".toList) [] text.toList
  let s := subst (word "uuid:".toList) [] s
  let s := (Text.stripChars (fun c => c == '{' || c == '}') s).filter (· != '-')
  if s.length = 32 then (int16 s).map print else none

/-! What `print` writes is read by `parse`. -/

theorem hexText_length (width n : Nat) : (hexText width n).length = width := by
  induction width generalizing n with
  | zero => rfl
  | succ width ih => simp [hexText, ih]

theorem mem_hexText {width n : Nat} {c : Char} (member : c ∈ hexText width n) : ∃ m < 16, c = hexChar m := by
  induction width generalizing n with
  | zero => cases member
  | succ width ih =>
      rw [hexText, List.mem_append, List.mem_singleton] at member
      rcases member with member | rfl
      · exact ih member
      · exact ⟨n % 16, Nat.mod_lt _ (by decide), rfl⟩

theorem hexChar_plain : ∀ m < 16, toAscii (hexChar m) = hexChar m ∧ hexChar m ≠ 'u' ∧ hexChar m ≠ '-' ∧
    hexChar m ≠ '_' ∧ hexChar m ≠ '+' ∧ hexChar m ≠ 'x' ∧ hexChar m ≠ 'X' ∧
    (hexChar m == '{' || hexChar m == '}') = false ∧ isAsciiSpace (hexChar m) = false := by
  decide

theorem hexDigit_hexChar : ∀ m < 16, hexDigit (hexChar m) = some m := by decide

theorem hexDigits_append {s : List Char} (digits : ∀ c ∈ s, ∃ m < 16, c = hexChar m) (acc : Nat) (rest : List Char) :
    hexDigits acc true (s ++ rest) = (hexDigits acc true s).bind (fun read => hexDigits read true rest) := by
  induction s generalizing acc with
  | nil => rfl
  | cons c tail ih =>
      rcases digits c List.mem_cons_self with ⟨m, bound, rfl⟩
      have plain := (hexChar_plain m bound).2.2.2.1
      rw [List.cons_append, hexDigits, hexDigits, hexDigit_hexChar m bound]
      · exact ih (fun d member => digits d (List.mem_cons_of_mem _ member)) _
      · exact plain
      · exact plain

/-- What `hexText` writes reads back, as far as the digits reach. -/
theorem hexDigits_hexText (width n acc : Nat) :
    hexDigits acc true (hexText width n) = some (16 ^ width * acc + n % 16 ^ width) := by
  induction width generalizing n acc with
  | zero => simp [hexText, hexDigits, Nat.mod_one]
  | succ width ih =>
      have last : n % 16 < 16 := Nat.mod_lt _ (by decide)
      have power : 16 ^ (width + 1) = 16 * 16 ^ width := by rw [pow_succ, Nat.mul_comm]
      have split : n % 16 ^ (width + 1) = 16 * (n / 16 % 16 ^ width) + n % 16 := by
        rw [power, Nat.mod_mul]
        omega
      rw [hexText, hexDigits_append (fun c member => mem_hexText member), ih, Option.bind_some, hexDigits,
        hexDigit_hexChar _ last]
      · simp only [hexDigits, if_true, Option.some.injEq]
        rw [split, power, Nat.mul_add, Nat.mul_assoc, Nat.add_assoc]
      · exact (hexChar_plain _ last).2.2.2.1

theorem hexText_mod (width n : Nat) : hexText width (n % 16 ^ width) = hexText width n := by
  induction width generalizing n with
  | zero => rfl
  | succ width ih =>
      have power : 16 ^ (width + 1) = 16 * 16 ^ width := by rw [pow_succ, Nat.mul_comm]
      have quotient : n % 16 ^ (width + 1) / 16 = n / 16 % 16 ^ width := by
        rw [power, Nat.mod_mul_right_div_self]
      have remainder : n % 16 ^ (width + 1) % 16 = n % 16 := by
        rw [power, Nat.mod_mul_right_mod]
      rw [hexText, hexText, quotient, remainder, ih]

theorem print_mod (n : Nat) : print (n % 16 ^ 32) = print n := by
  unfold print
  rw [hexText_mod]

/-- Text of hexadecimal digits alone has no sign, prefix or space to take off. -/
theorem int16_digits {s : List Char} (nonempty : s ≠ []) (digits : ∀ c ∈ s, ∃ m < 16, c = hexChar m) :
    int16 s = hexDigits 0 true s := by
  have kept : s.map toAscii = s := by
    have same : ∀ c ∈ s, toAscii c = id c := by
      intro c member
      rcases digits c member with ⟨m, bound, rfl⟩
      exact (hexChar_plain m bound).1
    rw [List.map_congr_left same, List.map_id]
  have stripped : Text.stripChars isAsciiSpace s = s := by
    apply Text.stripChars_eq_self
    intro c member
    rcases digits c member with ⟨m, bound, rfl⟩
    exact (hexChar_plain m bound).2.2.2.2.2.2.2.2
  cases s with
  | nil => exact absurd rfl nonempty
  | cons c rest =>
      rcases digits c List.mem_cons_self with ⟨m, bound, first⟩
      have plain := hexChar_plain m bound
      rw [← first] at plain
      have second : ∀ d ∈ rest.head?, d ≠ 'x' ∧ d ≠ 'X' := by
        intro d head
        have member : d ∈ c :: rest := List.mem_cons_of_mem _ (List.mem_of_mem_head? head)
        rcases digits d member with ⟨k, within, rfl⟩
        exact ⟨(hexChar_plain k within).2.2.2.2.2.1, (hexChar_plain k within).2.2.2.2.2.2.1⟩
      have begun : hexDigits 0 false (c :: rest) = hexDigits 0 true (c :: rest) := by
        rw [hexDigits, hexDigits]
        · exact plain.2.2.2.1
        · exact plain.2.2.2.1
      unfold int16
      simp only [kept, stripped]
      split <;> simp_all

theorem int16_hexText (n : Nat) : int16 (hexText 32 n) = some (n % 16 ^ 32) := by
  have size := hexText_length 32 n
  rw [int16_digits _ (fun c member => mem_hexText member), hexDigits_hexText, Nat.mul_zero, Nat.zero_add]
  intro empty
  rw [empty] at size
  cases size

theorem print_digits (n : Nat) : (print n).toList.filter (· != '-') = hexText 32 n := by
  have kept : ∀ s : List Char, (∀ c ∈ s, c ∈ hexText 32 n) → s.filter (· != '-') = s := by
    intro s within
    rw [List.filter_eq_self]
    intro c member
    rcases mem_hexText (within c member) with ⟨m, bound, rfl⟩
    simpa using (hexChar_plain m bound).2.2.1
  let digits := hexText 32 n
  have taken : ∀ m k, ((digits.drop m).take k).filter (· != '-') = (digits.drop m).take k := by
    intro m k
    apply kept
    intro c member
    exact List.mem_of_mem_drop (List.mem_of_mem_take member)
  have first := taken 0 8
  have last : (digits.drop 20).filter (· != '-') = digits.drop 20 := by
    apply kept
    intro c member
    exact List.mem_of_mem_drop member
  have joined : digits.take 8 ++ (digits.drop 8).take 4 ++ (digits.drop 12).take 4 ++
      (digits.drop 16).take 4 ++ digits.drop 20 = digits := by
    have step : ∀ m k, (digits.drop m).take k ++ digits.drop (m + k) = digits.drop m := by
      intro m k
      rw [← List.drop_drop, List.take_append_drop]
    simp only [List.append_assoc]
    rw [step 16 4, step 12 4, step 8 4]
    exact List.take_append_drop 8 digits
  rw [List.drop_zero] at first
  have marked : ('-' != '-') = false := rfl
  simp only [print, String.toList_ofList, List.filter_append, List.filter_cons, marked, Bool.false_eq_true,
    if_false]
  calc
    _ = digits.take 8 ++ (digits.drop 8).take 4 ++ (digits.drop 12).take 4 ++
        (digits.drop 16).take 4 ++ digits.drop 20 := by
      rw [first, taken 8 4, taken 12 4, taken 16 4, last]
    _ = hexText 32 n := joined

theorem mem_print {n : Nat} {c : Char} (member : c ∈ (print n).toList) :
    c = '-' ∨ ∃ m < 16, c = hexChar m := by
  by_cases dash : c = '-'
  · exact .inl dash
  · have kept : c ∈ (print n).toList.filter (· != '-') := by
      rw [List.mem_filter]
      exact ⟨member, bne_iff_ne.mpr dash⟩
    rw [print_digits] at kept
    exact .inr (mem_hexText kept)

theorem parse_print (n : Nat) : parse (print n) = some (print n) := by
  have letters : 'u' ∉ (print n).toList := by
    intro member
    rcases mem_print member with dash | ⟨m, bound, same⟩
    · cases dash
    · exact (hexChar_plain m bound).2.1 same.symm
  have bare : Text.stripChars (fun c => c == '{' || c == '}') (print n).toList = (print n).toList := by
    apply Text.stripChars_eq_self
    intro c member
    rcases mem_print member with rfl | ⟨m, bound, rfl⟩
    · rfl
    · exact (hexChar_plain m bound).2.2.2.2.2.2.2.1
  have urn : subst (word "urn:".toList) [] (print n).toList = (print n).toList := subst_word_absent [] letters
  have uuid : subst (word "uuid:".toList) [] (print n).toList = (print n).toList := subst_word_absent [] letters
  simp only [parse, urn, uuid, bare, print_digits, hexText_length, if_true, int16_hexText, Option.map_some, print_mod]

/-- `str(uuid.UUID(text))` reads as itself. -/
theorem parse_canonical {text parsed : String} (read : parse text = some parsed) : parse parsed = some parsed := by
  unfold parse at read
  simp only at read
  split at read
  · rcases Option.map_eq_some_iff.mp read with ⟨n, -, rfl⟩
    exact parse_print n
  · cases read

end NetworkGateway.Uuid
