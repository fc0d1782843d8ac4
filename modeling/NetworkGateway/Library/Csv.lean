import NetworkGateway.Library.Transducer

/-! Comma-separated records as RFC 4180 has them: a writer that quotes where it must, and a reader that
refuses everything outside the grammar. -/

namespace Library.Csv

open Library.Transducer

abbrev Record := List (List Char)

/-! The writer. -/

def special (c : Char) : Bool := c == ',' || c == '"' || c == '\r' || c == '\n'

def escape (c : Char) : List Char := if c = '"' then ['"', '"'] else [c]

def writeField (field : List Char) : List Char :=
  if field.any special then '"' :: (field.flatMap escape ++ ['"']) else field

def writeRecord : Record → List Char
  | [] => ['\r', '\n']
  | [field] => writeField field ++ ['\r', '\n']
  | field :: rest => writeField field ++ ',' :: writeRecord rest

def write (records : List Record) : List Char := records.flatMap writeRecord

/-! The reader. -/

/-- Where the reader stands: before a record, before a later field, in a field without quotes, between
quotes, after a quote that closes or escapes, after a carriage return, or outside the grammar. -/
inductive Place where
  | record
  | field
  | plain
  | quoted
  | closing
  | carriage
  | broken
  deriving DecidableEq

structure State where
  fields : Record
  text : List Char
  place : Place

def State.broken : State := ⟨[], [], .broken⟩

def unquoted (state : State) (c : Char) : State :=
  if c = ',' then ⟨state.fields ++ [state.text], [], .field⟩
  else if c = '\r' then ⟨state.fields, state.text, .carriage⟩
  else if c = '"' then
    match state.place with
    | .closing => ⟨state.fields, state.text ++ ['"'], .quoted⟩
    | .plain => .broken
    | _ => ⟨state.fields, [], .quoted⟩
  else if c = '\n' then .broken
  else match state.place with
    | .closing => .broken
    | _ => ⟨state.fields, state.text ++ [c], .plain⟩

def next (state : State) (c : Char) : State :=
  match state.place with
  | .quoted =>
      if c = '"' then ⟨state.fields, state.text, .closing⟩ else ⟨state.fields, state.text ++ [c], .quoted⟩
  | .carriage => if c = '\n' then ⟨[], [], .record⟩ else .broken
  | .broken => .broken
  | _ => unquoted state c

def emit (state : State) (c : Char) : List Record :=
  match state.place with
  | .carriage => if c = '\n' then [state.fields ++ [state.text]] else []
  | _ => []

/-- The records of a text, the last one with or without a line break. -/
def read (text : List Char) : Option (List Record) :=
  let records := emitted next emit ⟨[], [], .record⟩ text
  let last := text.foldl next ⟨[], [], .record⟩
  match last.place with
  | .record => some records
  | .field | .plain | .closing => some (records ++ [last.fields ++ [last.text]])
  | .quoted | .carriage | .broken => none

/-! What is written is read back. -/

def Place.ends : Place → Bool
  | .record | .field | .plain | .closing => true
  | .quoted | .carriage | .broken => false

def Place.begins : Place → Bool
  | .record | .field => true
  | _ => false

/-- The reader takes a text without completing a record. -/
def Silent (before : State) (text : List Char) (later : State) : Prop :=
  text.foldl next before = later ∧ emitted next emit before text = []

theorem Silent.append {a b c : State} {first second : List Char} (one : Silent a first b) (other : Silent b second c) :
    Silent a (first ++ second) c := by
  constructor
  · rw [List.foldl_append, one.1, other.1]
  · rw [emitted_append, one.1, one.2, other.2, List.append_nil]

theorem Silent.step {before later : State} {c : Char} (away : before.place ≠ .carriage) (moves : next before c = later) :
    Silent before [c] later := by
  constructor
  · exact moves
  · rw [emitted_cons, emitted_nil, List.append_nil]
    unfold emit
    split
    · rename_i here
      exact absurd here away
    · rfl

theorem Silent.cons {a b c : State} {first : Char} {rest : List Char} (away : a.place ≠ .carriage)
    (moves : next a first = b) (further : Silent b rest c) : Silent a (first :: rest) c :=
  (Silent.step away moves).append further

theorem silent_plain (fields : Record) {place : Place} (inside : place.begins = true ∨ place = .plain)
    (text : List Char) {field : List Char} (plain : ∀ c ∈ field, special c = false) :
    ∃ later : Place, later.ends = true ∧ Silent ⟨fields, text, place⟩ field ⟨fields, text ++ field, later⟩ := by
  induction field generalizing text place with
  | nil =>
      refine ⟨place, ?_, ?_⟩
      · rcases inside with begins | rfl
        · cases place <;> first | rfl | cases begins
        · rfl
      · rw [List.append_nil]
        exact ⟨rfl, rfl⟩
  | cons c field ih =>
      have ordinary := plain c List.mem_cons_self
      simp only [special, Bool.or_eq_false_iff, beq_eq_false_iff_ne] at ordinary
      rcases ih (.inr rfl) (text ++ [c]) (fun d member => plain d (List.mem_cons_of_mem _ member)) with
        ⟨later, ends, further⟩
      rw [List.append_assoc, List.singleton_append] at further
      refine ⟨later, ends, Silent.cons ?_ ?_ further⟩
      · rcases inside with begins | rfl
        · rintro rfl
          cases begins
        · nofun
      · have kept : unquoted ⟨fields, text, place⟩ c = ⟨fields, text ++ [c], .plain⟩ := by
          unfold unquoted
          rw [if_neg ordinary.1.1.1, if_neg ordinary.1.2, if_neg ordinary.1.1.2, if_neg ordinary.2]
          rcases inside with begins | rfl
          · cases place <;> first | rfl | cases begins
          · rfl
        rw [← kept]
        rcases inside with begins | rfl
        · cases place <;> first | rfl | cases begins
        · rfl

theorem silent_quoted (fields : Record) (text field : List Char) :
    Silent ⟨fields, text, .quoted⟩ (field.flatMap escape) ⟨fields, text ++ field, .quoted⟩ := by
  induction field generalizing text with
  | nil =>
      rw [List.append_nil]
      exact ⟨rfl, rfl⟩
  | cons c field ih =>
      have further := ih (text ++ [c])
      rw [List.append_assoc, List.singleton_append] at further
      rw [List.flatMap_cons]
      apply Silent.append _ further
      by_cases quote : c = '"'
      · rw [quote]
        exact Silent.cons nofun rfl (Silent.step nofun rfl)
      · have one : escape c = [c] := if_neg quote
        rw [one]
        exact Silent.step nofun (if_neg quote)

/-- A written field leaves the reader where the field can end. -/
theorem silent_writeField (fields : Record) {place : Place} (begins : place.begins = true) (field : List Char) :
    ∃ later : Place, later.ends = true ∧ Silent ⟨fields, [], place⟩ (writeField field) ⟨fields, field, later⟩ := by
  unfold writeField
  by_cases marked : field.any special = true
  · rw [if_pos marked]
    have away : place ≠ .carriage := by
      rintro rfl
      cases begins
    have opens : next ⟨fields, [], place⟩ '"' = ⟨fields, [], .quoted⟩ := by
      cases place <;> first | rfl | cases begins
    have inside := silent_quoted fields [] field
    exact ⟨.closing, rfl, Silent.cons away opens (inside.append (Silent.step nofun rfl))⟩
  · rw [if_neg marked]
    apply silent_plain fields (.inl begins) []
    intro c member
    have clean := List.any_eq_false.mp (Bool.eq_false_iff.mpr marked) c member
    exact Bool.eq_false_iff.mpr clean

/-- A written record is read as one record, and leaves the reader before the next. -/
theorem reads_writeRecord (fields : Record) {place : Place} (begins : place.begins = true) {record : Record}
    (nonempty : record ≠ []) :
    (writeRecord record).foldl next ⟨fields, [], place⟩ = ⟨[], [], .record⟩ ∧
      emitted next emit ⟨fields, [], place⟩ (writeRecord record) = [fields ++ record] := by
  induction record generalizing fields place with
  | nil => exact absurd rfl nonempty
  | cons field rest ih =>
      rcases silent_writeField fields begins field with ⟨later, ends, taken⟩
      cases rest with
      | nil =>
          have breaks : (['\r', '\n'] : List Char).foldl next ⟨fields, field, later⟩ = ⟨[], [], .record⟩ ∧
              emitted next emit ⟨fields, field, later⟩ ['\r', '\n'] = [fields ++ [field]] := by
            cases later <;> first | exact ⟨rfl, rfl⟩ | cases ends
          unfold writeRecord
          rw [List.foldl_append, emitted_append, taken.1, taken.2, List.nil_append]
          exact breaks
      | cons second others =>
          have separates : Silent ⟨fields, field, later⟩ [','] ⟨fields ++ [field], [], .field⟩ := by
            cases later <;> first | exact ⟨rfl, rfl⟩ | cases ends
          have further := @ih (fields ++ [field]) .field rfl (List.cons_ne_nil _ _)
          have whole := taken.append separates
          have split : writeRecord (field :: second :: others) =
              (writeField field ++ [',']) ++ writeRecord (second :: others) := by
            rw [writeRecord, List.append_assoc, List.singleton_append]
            exact nofun
          rw [split, List.foldl_append, emitted_append, whole.1, whole.2, List.nil_append, further.1, further.2,
            List.append_assoc, List.singleton_append]
          exact ⟨rfl, rfl⟩

theorem code : Code next emit ⟨[], [], .record⟩ (fun record : {record : Record // record ≠ []} => writeRecord record.1)
    (fun record => [record.1]) where
  returns record := (reads_writeRecord [] rfl record.2).1
  emits record := (reads_writeRecord [] rfl record.2).2

/-- Every list of records is read as it was written. -/
theorem read_write {records : List Record} (nonempty : ∀ record ∈ records, record ≠ []) :
    read (write records) = some records := by
  have tokens : (records.attachWith (· ≠ []) nonempty).map Subtype.val = records :=
    List.attachWith_map_subtype_val nonempty
  have written : write records =
      (records.attachWith (· ≠ []) nonempty).flatMap (fun record => writeRecord record.1) := by
    conv_lhs => rw [← tokens]
    rw [write, List.flatMap_map]
  unfold read
  rw [written, code.final, code.output]
  dsimp only
  rw [← List.map_eq_flatMap, tokens]

end Library.Csv
