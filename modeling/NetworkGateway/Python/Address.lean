import NetworkGateway.Dal.Platform
import NetworkGateway.Python.Text

/-! The texts of `ipaddress.ip_address`. -/

namespace NetworkGateway.Address

open Text

def number (base : Nat) (digits : List Nat) : Nat := digits.foldl (fun n digit => n * base + digit) 0

theorem foldl_number_lt {base : Nat} {digits : List Nat} (bounded : ∀ digit ∈ digits, digit < base) {width start : Nat}
    (small : start < base ^ width) :
    digits.foldl (fun n digit => n * base + digit) start < base ^ (width + digits.length) := by
  induction digits generalizing width start with
  | nil => exact small
  | cons digit digits ih =>
      have first := bounded digit List.mem_cons_self
      have next : start * base + digit < base ^ (width + 1) := by
        have room : (start + 1) * base ≤ base ^ width * base := Nat.mul_le_mul_right base small
        rw [Nat.pow_succ]
        rw [Nat.succ_mul] at room
        omega
      have rest := ih (fun other member => bounded other (List.mem_cons_of_mem _ member)) next
      rw [List.foldl_cons, List.length_cons, ← Nat.add_assoc, Nat.add_right_comm]
      exact rest

theorem number_lt {base : Nat} {digits : List Nat} (bounded : ∀ digit ∈ digits, digit < base) :
    number base digits < base ^ digits.length := by
  have within := @foldl_number_lt base digits bounded 0 0 Nat.one_pos
  rw [Nat.zero_add] at within
  exact within

def digitOf (c : Char) : Nat :=
  if c.isDigit then c.toNat - 48 else if 'a' ≤ c then c.toNat - 87 else c.toNat - 55

def isHex (c : Char) : Bool := c.isDigit || ('a' ≤ c && c ≤ 'f') || ('A' ≤ c && c ≤ 'F')

/-- `_parse_octet`. -/
def octet (text : List Char) : Option Nat :=
  if text.isEmpty || !text.all Char.isDigit || 3 < text.length || (text.length != 1 && text.head? == some '0') then none
  else if number 10 (text.map digitOf) ≤ 255 then some (number 10 (text.map digitOf))
  else none

/-- `IPv4Address(text)`. -/
def ipv4 (text : List Char) : Option Nat :=
  match splitChars '.' text with
  | [a, b, c, d] => do
      let a ← octet a
      let b ← octet b
      let c ← octet c
      let d ← octet d
      return number 256 [a, b, c, d]
  | _ => none

/-- `_parse_hextet`. -/
def hextet (text : List Char) : Option Nat :=
  if text.isEmpty || !text.all isHex || 4 < text.length then none else some (number 16 (text.map digitOf))

/-- An empty part stays empty until it is known to belong to a `::`. -/
def part (text : List Char) : Option (Option Nat) := if text.isEmpty then some none else (hextet text).map some

/-- The parts between colons; an IPv4 address at the end stands for two of them. -/
def readParts : List (List Char) → Option (List (Option Nat))
  | [] => some []
  | [last] =>
      if last.contains '.' then (ipv4 last).map (fun n => [some (n / 65536), some (n % 65536)])
      else (part last).map (fun read => [read])
  | text :: rest => do
      let read ← part text
      let rest ← readParts rest
      return read :: rest

/-- The hextets on one side of a `::`, which is empty when it is a single empty part. -/
def side (parts : List (Option Nat)) : Option (List Nat) := if parts = [none] then some [] else parts.mapM id

/-- The positions of empty parts other than the first and the last. -/
def skips (parts : List (Option Nat)) : List Nat :=
  (List.range parts.length).filter fun i => 0 < i && i + 1 < parts.length && parts[i]? == some none

def hextets (parts : List (Option Nat)) : Option (List Nat) :=
  match skips parts with
  | [] => if parts.length = 8 then parts.mapM id else none
  | [skip] => do
      let high ← side (parts.take skip)
      let low ← side (parts.drop (skip + 1))
      if high.length + low.length < 8 then
        return high ++ List.replicate (8 - (high.length + low.length)) 0 ++ low
      else none
  | _ => none

/-- `_split_scope_id`, without the scope. -/
def unscoped (text : List Char) : Option (List Char) :=
  match splitChars '%' text with
  | [address] => some address
  | [address, scope] => if scope.isEmpty then none else some address
  | _ => none

/-- `IPv6Address(text)`. -/
def ipv6 (text : List Char) : Option Nat :=
  if text.contains '/' then none
  else do
    let address ← unscoped text
    let parts ← readParts (splitChars ':' address)
    let hextets ← hextets parts
    return number 65536 hextets

def ipAddress (text : String) : Option IpAddress :=
  match ipv4 text.toList with
  | some value => some ⟨4, value⟩
  | none => (ipv6 text.toList).map (fun value => ⟨6, value⟩)

/-! What an address consists of. -/

theorem digitOf_lt {c : Char} (digit : c.isDigit) : digitOf c < 10 := by
  have range := digit
  simp only [Char.isDigit, Bool.and_eq_true, decide_eq_true_iff, ge_iff_le, UInt32.le_iff_toNat_le] at range
  have upper : c.toNat ≤ 57 := range.2
  rw [digitOf, if_pos digit]
  omega

theorem octet_ok {text : List Char} {value : Nat} (read : octet text = some value) :
    (∀ c ∈ text, c.isDigit) ∧ value < 256 := by
  unfold octet at read
  split at read
  · cases read
  · rename_i plain
    simp only [Bool.or_eq_true, not_or, Bool.not_eq_true', Bool.not_eq_false, List.all_eq_true] at plain
    split at read
    · cases read
      exact ⟨plain.1.1.2, by omega⟩
    · cases read

theorem ipv4_ok {text : List Char} {value : Nat} (read : ipv4 text = some value) :
    (∀ c ∈ text, c.isDigit ∨ c = '.') ∧ value < 4294967296 := by
  unfold ipv4 at read
  split at read
  · rename_i a b c d parts
    simp only [Option.bind_eq_bind, Option.bind_eq_some_iff, Option.pure_def, Option.some.injEq] at read
    rcases read with ⟨first, readFirst, second, readSecond, third, readThird, fourth, readFourth, rfl⟩
    constructor
    · intro character member
      rcases mem_splitChars '.' member with rfl | ⟨part, listed, within⟩
      · exact .inr rfl
      · rw [parts] at listed
        simp only [List.mem_cons, List.not_mem_nil, or_false] at listed
        rcases listed with rfl | rfl | rfl | rfl
        · exact .inl ((octet_ok readFirst).1 character within)
        · exact .inl ((octet_ok readSecond).1 character within)
        · exact .inl ((octet_ok readThird).1 character within)
        · exact .inl ((octet_ok readFourth).1 character within)
    · have within : number 256 [first, second, third, fourth] < 256 ^ 4 := by
        apply number_lt
        intro digit member
        simp only [List.mem_cons, List.not_mem_nil, or_false] at member
        rcases member with rfl | rfl | rfl | rfl
        · exact (octet_ok readFirst).2
        · exact (octet_ok readSecond).2
        · exact (octet_ok readThird).2
        · exact (octet_ok readFourth).2
      omega
  · cases read

theorem digitOf_hex {c : Char} (hex : isHex c) : digitOf c < 16 := by
  by_cases digit : c.isDigit
  · exact (digitOf_lt digit).trans (by decide)
  · simp only [isHex, digit, Bool.or_eq_true, Bool.and_eq_true, decide_eq_true_iff, Bool.false_eq_true, false_or] at hex
    rw [digitOf, if_neg digit]
    rcases hex with ⟨lower, upper⟩ | ⟨lower, upper⟩
    · have bound : c.toNat ≤ 102 := upper
      rw [if_pos lower]
      omega
    · have bound : c.toNat ≤ 70 := upper
      rw [if_neg]
      · omega
      · intro small
        have above : 97 ≤ c.toNat := small
        omega

theorem hextet_ok {text : List Char} {value : Nat} (read : hextet text = some value) :
    (∀ c ∈ text, isHex c) ∧ value < 65536 := by
  unfold hextet at read
  split at read
  · cases read
  · rename_i plain
    simp only [Bool.or_eq_true, not_or, Bool.not_eq_true', Bool.not_eq_false, List.all_eq_true, decide_eq_true_iff] at plain
    cases read
    refine ⟨plain.1.2, ?_⟩
    have within : number 16 (text.map digitOf) < 16 ^ (text.map digitOf).length := by
      apply number_lt
      intro digit member
      rcases List.mem_map.mp member with ⟨c, listed, rfl⟩
      exact digitOf_hex (plain.1.2 c listed)
    have widest : 16 ^ (text.map digitOf).length ≤ 16 ^ 4 := by
      apply Nat.pow_le_pow_right (by decide)
      rw [List.length_map]
      omega
    omega

theorem part_ok {text : List Char} {read : Option Nat} (parsed : part text = some read) :
    (∀ c ∈ text, isHex c) ∧ ∀ value, read = some value → value < 65536 := by
  unfold part at parsed
  split at parsed
  · rename_i empty
    cases parsed
    rw [List.isEmpty_iff.mp empty]
    exact ⟨nofun, nofun⟩
  · rcases Option.map_eq_some_iff.mp parsed with ⟨value, held, rfl⟩
    refine ⟨(hextet_ok held).1, ?_⟩
    intro other same
    cases same
    exact (hextet_ok held).2

theorem readParts_ok {texts : List (List Char)} {parts : List (Option Nat)} (parsed : readParts texts = some parts) :
    (∀ text ∈ texts, ∀ c ∈ text, isHex c ∨ c = '.') ∧ (∀ value, some value ∈ parts → value < 65536) ∧
      parts.length ≤ texts.length + 1 := by
  induction texts generalizing parts with
  | nil =>
      cases parsed
      exact ⟨nofun, nofun, Nat.zero_le _⟩
  | cons text texts ih =>
      cases texts with
      | nil =>
          rw [readParts] at parsed
          split at parsed
          · rcases Option.map_eq_some_iff.mp parsed with ⟨address, held, rfl⟩
            refine ⟨?_, ?_, Nat.le_refl _⟩
            · intro other listed c member
              rw [List.mem_singleton.mp listed] at member
              rcases (ipv4_ok held).1 c member with digit | dot
              · exact .inl (by simp [isHex, digit])
              · exact .inr dot
            · intro value member
              have bound := (ipv4_ok held).2
              simp only [List.mem_cons, Option.some.injEq, List.not_mem_nil, or_false] at member
              omega
          · rcases Option.map_eq_some_iff.mp parsed with ⟨read, held, rfl⟩
            refine ⟨?_, ?_, by simp⟩
            · intro other listed c member
              rw [List.mem_singleton.mp listed] at member
              exact .inl ((part_ok held).1 c member)
            · intro value member
              exact (part_ok held).2 value (List.mem_singleton.mp member).symm
      | cons next texts =>
          simp only [readParts, Option.bind_eq_bind, Option.bind_eq_some_iff, Option.pure_def, Option.some.injEq] at parsed
          rcases parsed with ⟨read, held, rest, further, rfl⟩
          rcases ih further with ⟨hex, bounded, short⟩
          refine ⟨?_, ?_, ?_⟩
          · intro other listed c member
            rcases List.mem_cons.mp listed with rfl | listed
            · exact .inl ((part_ok held).1 c member)
            · exact hex other listed c member
          · intro value member
            rcases List.mem_cons.mp member with same | member
            · exact (part_ok held).2 value same.symm
            · exact bounded value member
          · simp only [List.length_cons] at short ⊢
            omega

theorem mapM_ok {parts : List (Option Nat)} {values : List Nat} (all : parts.mapM id = some values) :
    parts = values.map some := by
  induction parts generalizing values with
  | nil =>
      cases all
      rfl
  | cons first parts ih =>
      simp only [List.mapM_cons, id_eq, Option.bind_eq_bind, Option.bind_eq_some_iff, Option.pure_def,
        Option.some.injEq] at all
      rcases all with ⟨value, rfl, rest, further, rfl⟩
      rw [ih further]
      rfl

theorem side_ok {parts : List (Option Nat)} {values : List Nat} (read : side parts = some values) :
    ∀ value ∈ values, some value ∈ parts := by
  unfold side at read
  split at read
  · cases read
    exact nofun
  · intro value member
    rw [mapM_ok read]
    exact List.mem_map_of_mem member

theorem hextets_ok {parts : List (Option Nat)} {values : List Nat} (read : hextets parts = some values)
    (bounded : ∀ value, some value ∈ parts → value < 65536) :
    values.length = 8 ∧ (∀ value ∈ values, value < 65536) ∧ 3 ≤ parts.length := by
  unfold hextets at read
  split at read
  · split at read
    · rename_i eight
      have all := mapM_ok read
      rw [all, List.length_map] at eight
      refine ⟨eight, ?_, ?_⟩
      · intro value member
        apply bounded
        rw [all]
        exact List.mem_map_of_mem member
      · rw [all, List.length_map]
        omega
    · cases read
  · rename_i skip found
    have inner : skip ∈ skips parts := by
      rw [found]
      exact List.mem_singleton_self skip
    simp only [skips, List.mem_filter, Bool.and_eq_true, decide_eq_true_iff] at inner
    simp only [Option.bind_eq_bind, Option.bind_eq_some_iff] at read
    rcases read with ⟨high, readHigh, low, readLow, joined⟩
    split at joined
    · cases joined
      refine ⟨?_, ?_, by omega⟩
      · simp only [List.length_append, List.length_replicate]
        omega
      · intro value member
        simp only [List.mem_append, List.mem_replicate] at member
        rcases member with (member | ⟨-, rfl⟩) | member
        · exact bounded value (List.mem_of_mem_take (side_ok readHigh value member))
        · decide
        · exact bounded value (List.mem_of_mem_drop (side_ok readLow value member))
    · cases joined
  · cases read

theorem unscoped_ok {text address : List Char} (read : unscoped text = some address) :
    (∀ c ∈ address, c ∈ text) ∧ ('%' ∉ text → address = text) := by
  have listed : address ∈ splitChars '%' text := by
    unfold unscoped at read
    split at read
    · rename_i only split
      cases read
      rw [split]
      exact List.mem_singleton_self address
    · rename_i first scope split
      split at read
      · cases read
      · cases read
        rw [split]
        exact List.mem_cons_self
    · cases read
  constructor
  · intro c member
    exact mem_of_splitChars listed member
  · intro absent
    rw [splitChars_absent absent] at listed
    exact List.mem_singleton.mp listed

theorem ipv6_ok {text : List Char} {value : Nat} (read : ipv6 text = some value) :
    value < 340282366920938463463374607431768211456 ∧ ':' ∈ text ∧
      ('%' ∉ text → ∀ c ∈ text, isHex c ∨ c = '.' ∨ c = ':') := by
  unfold ipv6 at read
  split at read
  · cases read
  · simp only [Option.bind_eq_bind, Option.bind_eq_some_iff, Option.pure_def, Option.some.injEq] at read
    rcases read with ⟨address, plain, parts, parsed, values, assembled, rfl⟩
    rcases readParts_ok parsed with ⟨hex, bounded, short⟩
    rcases hextets_ok assembled bounded with ⟨eight, small, enough⟩
    refine ⟨?_, ?_, ?_⟩
    · have within := number_lt small
      rw [eight] at within
      omega
    · by_contra absent
      have kept : ':' ∉ address := fun member => absent ((unscoped_ok plain).1 _ member)
      rw [splitChars_absent kept, List.length_singleton] at short
      omega
    · intro whole c member
      rw [(unscoped_ok plain).2 whole] at hex
      rcases mem_splitChars ':' member with rfl | ⟨text, listed, within⟩
      · exact .inr (.inr rfl)
      · rcases hex text listed c within with digit | dot
        · exact .inl digit
        · exact .inr (.inl dot)

/-! Printing. -/

def decimal (n : Nat) : List Char := Nat.toDigits 10 n

/-- `_string_from_ip_int` of an IPv4 address. -/
def dotted (value : Nat) : List Char :=
  decimal (value / 16777216 % 256) ++ '.' :: (decimal (value / 65536 % 256) ++ '.' ::
    (decimal (value / 256 % 256) ++ '.' :: decimal (value % 256)))

def hextetsOf : (width value : Nat) → List Nat
  | 0, _ => []
  | width + 1, value => hextetsOf width (value / 65536) ++ [value % 65536]

def zeroRun (hextets : List Nat) : Nat := (hextets.takeWhile (· == 0)).length

/-- The start of the longest run of zeros, the first of several. -/
def longestRun (hextets : List Nat) : Nat :=
  (List.range hextets.length).foldl
    (fun best i => if zeroRun (hextets.drop best) < zeroRun (hextets.drop i) then i else best) 0

def colons (hextets : List Nat) : List Char := [':'].intercalate (hextets.map (Nat.toDigits 16))

/-- `_compress_hextets`, joined. -/
def compressed (hextets : List Nat) : List Char :=
  let start := longestRun hextets
  let run := zeroRun (hextets.drop start)
  if 1 < run then colons (hextets.take start) ++ ':' :: ':' :: colons (hextets.drop (start + run)) else colons hextets

def strAddress (address : IpAddress) : String :=
  String.ofList (if address.version = 4 then dotted address.value else compressed (hextetsOf 8 address.value))

theorem octet_decimal {n : Nat} (small : n < 256) :
    octet (decimal n) = some n ∧ ∀ c ∈ decimal n, c ≠ '.' ∧ c ≠ '%' := by
  have every : (List.range 256).all (fun n => octet (decimal n) == some n &&
      (decimal n).all (fun c => c != '.' && c != '%')) = true := by decide +kernel
  have here := List.all_eq_true.mp every n (List.mem_range.mpr small)
  simpa using here

theorem ipv4_dotted {value : Nat} (small : value < 4294967296) : ipv4 (dotted value) = some value := by
  have part := fun n : Nat => octet_decimal (Nat.mod_lt n (by decide))
  have undotted := fun (n : Nat) (member : '.' ∈ decimal (n % 256)) => ((part n).2 '.' member).1 rfl
  have parts : splitChars '.' (dotted value) =
      [decimal (value / 16777216 % 256), decimal (value / 65536 % 256), decimal (value / 256 % 256),
        decimal (value % 256)] := by
    unfold dotted
    rw [splitChars_append (undotted _), splitChars_append (undotted _), splitChars_append (undotted _),
      splitChars_absent (undotted _)]
  unfold ipv4
  rw [parts]
  simp only [(part _).1, Option.bind_eq_bind, Option.bind_some, Option.pure_def, Option.some.injEq, number,
    List.foldl_cons, List.foldl_nil]
  omega

theorem dotted_unscoped (value : Nat) : '%' ∉ dotted value := by
  have part := fun (n : Nat) (member : '%' ∈ decimal (n % 256)) =>
    ((octet_decimal (Nat.mod_lt n (by decide))).2 '%' member).2 rfl
  simp only [dotted, List.mem_append, List.mem_cons, not_or]
  exact ⟨part _, by decide, part _, by decide, part _, by decide, part _⟩

theorem ipAddress_ok {text : String} {address : IpAddress} (read : ipAddress text = some address) :
    address.version = 4 ∧ ipv4 text.toList = some address.value ∨
      address.version = 6 ∧ ipv6 text.toList = some address.value := by
  unfold ipAddress at read
  split at read
  · rename_i value held
    cases read
    exact .inl ⟨rfl, held⟩
  · rcases Option.map_eq_some_iff.mp read with ⟨value, held, rfl⟩
    exact .inr ⟨rfl, held⟩

example : strAddress ⟨6, 42540766411283801782723599580828532737⟩ = "2001:db8:1::1" ∧
    ipAddress "2001:db8:1::1" = some ⟨6, 42540766411283801782723599580828532737⟩ := by decide +kernel

example : ["::", "::1", "1::", "::ffff:127.0.0.1", "fe80::1%eth0"].map (fun text => (ipAddress text).map IpAddress.value) =
    [some 0, some 1, some 5192296858534827628530496329220096, some 281472812449793,
      some 338288524927261089654018896841347694593] := by decide +kernel

example : ["", ":", ":::", "1:::2", "1::2::3", "127.0.0.01", "1.2.3", "256.0.0.1", "1:2:3:4:5:6:7:8:9", "::%"].all
    (fun text => ipAddress text = none) := by decide +kernel

end NetworkGateway.Address
