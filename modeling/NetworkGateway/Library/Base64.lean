import Mathlib.Data.List.Nodup

/-! Base64 without padding, over an alphabet given by the symbol of each sextet. -/

namespace Library.Base64

structure Alphabet where
  symbol : Nat → Char
  index : Char → Option Nat
  index_symbol : ∀ n < 64, index (symbol n) = some n
  index_lt : ∀ c n, index c = some n → n < 64

variable (A : Alphabet)

def encode : List UInt8 → List Char
  | [] => []
  | [a] => [A.symbol (a.toNat / 4), A.symbol (a.toNat % 4 * 16)]
  | [a, b] =>
      [A.symbol (a.toNat / 4), A.symbol (a.toNat % 4 * 16 + b.toNat / 16), A.symbol (b.toNat % 16 * 4)]
  | a :: b :: c :: rest =>
      A.symbol (a.toNat / 4) :: A.symbol (a.toNat % 4 * 16 + b.toNat / 16) ::
        A.symbol (b.toNat % 16 * 4 + c.toNat / 64) :: A.symbol (c.toNat % 64) :: encode rest

/-- The bits that fill the last sextet are ignored; one symbol alone holds no byte. -/
def decode : List Char → Option (List UInt8)
  | [] => some []
  | [_] => none
  | [a, b] => do
      let x ← A.index a
      let y ← A.index b
      return [UInt8.ofNat (x * 4 + y / 16)]
  | [a, b, c] => do
      let x ← A.index a
      let y ← A.index b
      let z ← A.index c
      return [UInt8.ofNat (x * 4 + y / 16), UInt8.ofNat (y % 16 * 16 + z / 4)]
  | a :: b :: c :: d :: rest => do
      let x ← A.index a
      let y ← A.index b
      let z ← A.index c
      let w ← A.index d
      let bytes ← decode rest
      return UInt8.ofNat (x * 4 + y / 16) :: UInt8.ofNat (y % 16 * 16 + z / 4) ::
        UInt8.ofNat (z % 4 * 64 + w) :: bytes

variable {A}

def padding (data : List UInt8) : List Char := List.replicate ((3 - data.length % 3) % 3) '='

theorem ofNat_eq {b : UInt8} {n : Nat} (same : n = b.toNat) : UInt8.ofNat n = b := by
  rw [same]
  exact UInt8.ofNat_toNat

theorem decode_encode (data : List UInt8) : decode A (encode A data) = some data := by
  induction data using encode.induct with
  | case1 => rfl
  | case2 a =>
      have bound := a.toNat_lt
      rw [encode, decode, A.index_symbol _ (by omega), A.index_symbol _ (by omega)]
      have first : UInt8.ofNat (a.toNat / 4 * 4 + a.toNat % 4 * 16 / 16) = a := ofNat_eq (by omega)
      simp only [Option.bind_eq_bind, Option.bind_some, first, Option.pure_def]
  | case3 a b =>
      have boundA := a.toNat_lt
      have boundB := b.toNat_lt
      rw [encode, decode, A.index_symbol _ (by omega), A.index_symbol _ (by omega), A.index_symbol _ (by omega)]
      have first : UInt8.ofNat (a.toNat / 4 * 4 + (a.toNat % 4 * 16 + b.toNat / 16) / 16) = a :=
        ofNat_eq (by omega)
      have second : UInt8.ofNat ((a.toNat % 4 * 16 + b.toNat / 16) % 16 * 16 + b.toNat % 16 * 4 / 4) = b :=
        ofNat_eq (by omega)
      simp only [Option.bind_eq_bind, Option.bind_some, first, second, Option.pure_def]
  | case4 a b c rest ih =>
      have boundA := a.toNat_lt
      have boundB := b.toNat_lt
      have boundC := c.toNat_lt
      rw [encode, decode, A.index_symbol _ (by omega), A.index_symbol _ (by omega), A.index_symbol _ (by omega),
        A.index_symbol _ (by omega), ih]
      have first : UInt8.ofNat (a.toNat / 4 * 4 + (a.toNat % 4 * 16 + b.toNat / 16) / 16) = a :=
        ofNat_eq (by omega)
      have second : UInt8.ofNat ((a.toNat % 4 * 16 + b.toNat / 16) % 16 * 16 +
          (b.toNat % 16 * 4 + c.toNat / 64) / 4) = b := ofNat_eq (by omega)
      have third : UInt8.ofNat ((b.toNat % 16 * 4 + c.toNat / 64) % 4 * 64 + c.toNat % 64) = c :=
        ofNat_eq (by omega)
      simp only [Option.bind_eq_bind, Option.bind_some, first, second, third, Option.pure_def]

theorem encode_symbols (data : List UInt8) : ∀ c ∈ encode A data, ∃ n < 64, c = A.symbol n := by
  induction data using encode.induct with
  | case1 => simp [encode]
  | case2 a =>
      have bound := a.toNat_lt
      intro c member
      simp only [encode, List.mem_cons, List.not_mem_nil, or_false] at member
      rcases member with rfl | rfl
      · exact ⟨_, by omega, rfl⟩
      · exact ⟨_, by omega, rfl⟩
  | case3 a b =>
      have boundA := a.toNat_lt
      have boundB := b.toNat_lt
      intro c member
      simp only [encode, List.mem_cons, List.not_mem_nil, or_false] at member
      rcases member with rfl | rfl | rfl
      · exact ⟨_, by omega, rfl⟩
      · exact ⟨_, by omega, rfl⟩
      · exact ⟨_, by omega, rfl⟩
  | case4 a b d rest ih =>
      have boundA := a.toNat_lt
      have boundB := b.toNat_lt
      have boundD := d.toNat_lt
      intro c member
      rw [encode, List.mem_cons, List.mem_cons, List.mem_cons, List.mem_cons] at member
      rcases member with rfl | rfl | rfl | rfl | member
      · exact ⟨_, by omega, rfl⟩
      · exact ⟨_, by omega, rfl⟩
      · exact ⟨_, by omega, rfl⟩
      · exact ⟨_, by omega, rfl⟩
      · exact ih c member

theorem encode_eq_nil {data : List UInt8} (empty : encode A data = []) : data = [] := by
  match data with
  | [] => rfl
  | [_] => simp [encode] at empty
  | [_, _] => simp [encode] at empty
  | _ :: _ :: _ :: _ => simp [encode] at empty

def ofTable (table : List Char) (size : table.length = 64) (distinct : table.Nodup) : Alphabet where
  symbol n := table.getD n 'A'
  index c := table.idxOf? c
  index_symbol n bound := by
    have inside : n < table.length := by omega
    have held : table.getD n 'A' = table[n] := by simp [inside]
    rw [held, List.idxOf?_eq_some_iff]
    refine ⟨inside, by simp, ?_⟩
    intro j before same
    have below : j < table.length := by omega
    have equal : table[j] = table[n] := by simpa using same
    have index := distinct.getElem_inj_iff.mp equal
    omega
  index_lt c n found := by
    rw [List.idxOf?_eq_some_iff] at found
    have inside := found.1
    omega

def alphanumeric : List Char := "ABCDEFGHIJKLMNOPQRSTUVWXYZabcdefghijklmnopqrstuvwxyz0123456789".toList

/-- The alphabet of `base64.b64encode`. -/
def standard : Alphabet := ofTable (alphanumeric ++ ['+', '/']) (by decide) (by decide)

/-- The alphabet of `base64.urlsafe_b64encode`. -/
def urlSafe : Alphabet := ofTable (alphanumeric ++ ['-', '_']) (by decide) (by decide)

end Library.Base64
