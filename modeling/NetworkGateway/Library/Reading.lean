import Mathlib.Data.List.Basic

/-! Readers that take symbols from the front of a stream, and what they read wherever it stands. -/

namespace Library.Reading

/-- `none`: the reader refuses the stream. -/
abbrev Reader (ι α : Type) := List ι → Option (α × List ι)

namespace Reader

variable {ι α β : Type}

instance : Monad (Reader ι) where
  pure a := fun stream => some (a, stream)
  bind reader rest := fun stream =>
    match reader stream with
    | none => none
    | some (a, left) => rest a left

def refuse : Reader ι α := fun _ => none

def next : Reader ι ι
  | [] => none
  | symbol :: stream => some (symbol, stream)

def exact (size : Nat) : Reader ι (List ι) := fun stream =>
  if stream.length < size then none else some (stream.take size, stream.drop size)

/-- The symbols in front of a mark, which is taken as well. -/
def upTo [DecidableEq ι] (mark : ι) : Reader ι (List ι)
  | [] => none
  | symbol :: stream =>
      if symbol = mark then some ([], stream)
      else match upTo mark stream with
        | none => none
        | some (symbols, left) => some (symbol :: symbols, left)

def ofOption : Option α → Reader ι α
  | none => refuse
  | some a => pure a

theorem bind_ok {reader : Reader ι α} {rest : α → Reader ι β} {stream : List ι} {result : β × List ι} :
    (reader >>= rest) stream = some result ↔
      ∃ a left, reader stream = some (a, left) ∧ rest a left = some result := by
  change (match reader stream with
    | none => none
    | some (a, left) => rest a left) = some result ↔ _
  cases read : reader stream with
  | none => simp
  | some pair =>
      constructor
      · intro further
        exact ⟨pair.1, pair.2, rfl, further⟩
      · rintro ⟨a, left, same, further⟩
        cases same
        exact further

theorem next_ok {stream left : List ι} {symbol : ι} : next stream = some (symbol, left) ↔ stream = symbol :: left := by
  cases stream with
  | nil => simp [next]
  | cons first stream => simp [next]

theorem ofOption_ok {outcome : Option α} {stream left : List ι} {a : α} :
    ofOption outcome stream = some (a, left) ↔ outcome = some a ∧ stream = left := by
  cases outcome with
  | none => simp [ofOption, refuse]
  | some b => simp [ofOption, pure]

theorem upTo_ok [DecidableEq ι] {mark : ι} {stream symbols left : List ι} (read : upTo mark stream = some (symbols, left)) :
    stream = symbols ++ mark :: left := by
  induction stream generalizing symbols with
  | nil => cases read
  | cons first stream ih =>
      rw [upTo] at read
      split at read
      · rename_i same
        cases read
        rw [same]
        rfl
      · split at read
        · cases read
        · rename_i further
          cases read
          rw [ih further]
          rfl

/-- The reader takes exactly these symbols, whatever follows them, and makes `a` of them. -/
def Reads (reader : Reader ι α) (symbols : List ι) (a : α) : Prop :=
  ∀ left, reader (symbols ++ left) = some (a, left)

variable {reader : Reader ι α} {rest : α → Reader ι β} {first second : List ι} {a : α} {b : β}

theorem reads_pure (a : α) : Reads (pure a : Reader ι α) [] a := fun _ => rfl

theorem reads_ofOption {outcome : Option α} (same : outcome = some a) : Reads (ofOption outcome : Reader ι α) [] a := by
  rw [same]
  exact reads_pure a

theorem Reads.bind (read : Reads reader first a) (further : Reads (rest a) second b) :
    Reads (reader >>= rest) (first ++ second) b := by
  intro left
  rw [List.append_assoc]
  change (match reader (first ++ (second ++ left)) with
    | none => none
    | some (a, left) => rest a left) = _
  rw [read]
  exact further left

theorem Reads.start (read : Reads reader [] a) (further : Reads (rest a) second b) : Reads (reader >>= rest) second b :=
  read.bind further

theorem Reads.finish (read : Reads reader first a) (further : Reads (rest a) [] b) : Reads (reader >>= rest) first b := by
  have both := read.bind further
  rw [List.append_nil] at both
  exact both

theorem reads_next (symbol : ι) : Reads next [symbol] symbol := fun _ => rfl

theorem reads_exact {size : Nat} {symbols : List ι} (length : symbols.length = size) :
    Reads (exact size) symbols symbols := by
  intro left
  have enough : ¬(symbols ++ left).length < size := by
    rw [List.length_append]
    omega
  rw [exact, if_neg enough, List.take_left' length, List.drop_left' length]

theorem reads_upTo [DecidableEq ι] {mark : ι} {symbols : List ι} (absent : mark ∉ symbols) :
    Reads (upTo mark) (symbols ++ [mark]) symbols := by
  intro left
  induction symbols with
  | nil => exact if_pos rfl
  | cons symbol symbols ih =>
      rw [List.mem_cons, not_or] at absent
      rw [List.cons_append, List.cons_append, upTo, if_neg (Ne.symm absent.1), ih absent.2]

end Reader

end Library.Reading
