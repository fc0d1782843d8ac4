import NetworkGateway.Library.Result
import NetworkGateway.Python.Value

/-! Pydantic models in strict mode that forbid extra fields, and what `model_dump` shows of them. -/

namespace NetworkGateway.Pydantic

open Library.Result

inductive ValidationError where
  | invalid
  deriving DecidableEq, Repr

/-- A field type: the value it accepts, as it is dumped. -/
abbrev Schema := Value → Except ValidationError Value

/-- `str` with its lengths, and its pattern and `AfterValidator` as one check. -/
structure StringType where
  minLength : Nat
  maxLength : Nat
  check : String → Bool

def StringType.accepts (type : StringType) (s : String) : Bool :=
  type.minLength ≤ s.length && s.length ≤ type.maxLength && type.check s

def string (type : StringType) : Schema
  | .str s => if type.accepts s then .ok (.str s) else .error .invalid
  | _ => .error .invalid

/-- `int` with `ge` and `le`; a `bool` is no strict `int`. -/
def integer (lower upper : Int) : Schema
  | .int n => if lower ≤ n ∧ n ≤ upper then .ok (.int n) else .error .invalid
  | _ => .error .invalid

def boolean : Schema
  | .bool b => .ok (.bool b)
  | _ => .error .invalid

/-- `Literal[texts]`. -/
def literal (texts : List String) : Schema := fun value =>
  if value.isOneOf texts then .ok value else .error .invalid

/-- `type | None`. -/
def optional (type : Schema) : Schema
  | .none => .ok .none
  | value => type value

/-- `list[type]` with its lengths. -/
def list (minLength maxLength : Nat) (type : Schema) : Schema
  | .list items =>
      if minLength ≤ items.length ∧ items.length ≤ maxLength then do
        let dumped ← each type items
        return .list dumped
      else .error .invalid
  | _ => .error .invalid

def entry (key : StringType) (type : Schema) (held : String × Value) : Except ValidationError (String × Value) := do
  raiseWhen (!key.accepts held.1) .invalid
  let dumped ← type held.2
  return (held.1, dumped)

/-- `dict[key, type]` with its lengths. -/
def dict (minLength maxLength : Nat) (key : StringType) (type : Schema) : Schema
  | .dict entries =>
      if minLength ≤ entries.length ∧ entries.length ≤ maxLength then do
        let dumped ← each (entry key type) entries
        return .dict dumped
      else .error .invalid
  | _ => .error .invalid

/-- A field of a model; a field without a default is required, and a default is not validated. -/
structure Field where
  name : String
  type : Schema
  default : Option Value

def Field.read (entries : Dict) (field : Field) : Except ValidationError (String × Value) :=
  match entries.lookup field.name with
  | some value => do
      let dumped ← field.type value
      return (field.name, dumped)
  | none => match field.default with
    | some value => .ok (field.name, value)
    | none => .error .invalid

/-- A model: its fields in order, then its `model_validator(mode="after")`. -/
def model (fields : List Field) (validator : Dict → Except ValidationError Dict) : Schema
  | .dict entries => do
      raiseWhen (!entries.all (fun held => (fields.map Field.name).contains held.1)) .invalid
      let values ← each (Field.read entries) fields
      let validated ← validator values
      return .dict validated
  | _ => .error .invalid

/-! What each type accepts. -/

variable {value dumped : Value}

theorem string_ok {type : StringType} :
    string type value = .ok dumped ↔ ∃ s, value = .str s ∧ type.accepts s = true ∧ dumped = .str s := by
  cases value with
  | str s =>
      dsimp only [string]
      by_cases accepted : type.accepts s = true
      · rw [if_pos accepted]
        constructor
        · intro same
          exact ⟨s, rfl, accepted, (Except.ok.inj same).symm⟩
        · rintro ⟨_, same, -, rfl⟩
          rw [Value.str.inj same]
      · rw [if_neg accepted]
        simp [accepted]
  | none | bool | int | float | list | dict => simp [string]

theorem integer_ok {lower upper : Int} :
    integer lower upper value = .ok dumped ↔ ∃ n, value = .int n ∧ (lower ≤ n ∧ n ≤ upper) ∧ dumped = .int n := by
  cases value with
  | int n =>
      dsimp only [integer]
      by_cases within : lower ≤ n ∧ n ≤ upper
      · rw [if_pos within]
        simp [within, eq_comm]
      · rw [if_neg within]
        simp [within]
  | none | bool | str | float | list | dict => simp [integer]

theorem boolean_ok : boolean value = .ok dumped ↔ ∃ b, value = .bool b ∧ dumped = .bool b := by
  cases value <;> simp [boolean, eq_comm]

theorem literal_ok {texts : List String} :
    literal texts value = .ok dumped ↔ value.isOneOf texts = true ∧ dumped = value := by
  unfold literal
  split
  · rename_i listed
    simp [listed, eq_comm]
  · rename_i other
    simp [other]

theorem optional_ok {type : Schema} :
    optional type value = .ok dumped ↔ value = .none ∧ dumped = .none ∨ value ≠ .none ∧ type value = .ok dumped := by
  cases value <;> simp [optional, eq_comm]

theorem list_ok {minLength maxLength : Nat} {type : Schema} :
    list minLength maxLength type value = .ok dumped ↔ ∃ items kept, value = .list items ∧
      (minLength ≤ items.length ∧ items.length ≤ maxLength) ∧ each type items = .ok kept ∧ dumped = .list kept := by
  cases value with
  | list items =>
      dsimp only [list]
      by_cases within : minLength ≤ items.length ∧ items.length ≤ maxLength
      · rw [if_pos within]
        simp [within, @eq_comm _ _ dumped]
      · rw [if_neg within]
        simp [within]
  | none | bool | str | float | int | dict => simp [list]

theorem dict_ok {minLength maxLength : Nat} {key : StringType} {type : Schema} :
    dict minLength maxLength key type value = .ok dumped ↔ ∃ entries kept, value = .dict entries ∧
      (minLength ≤ entries.length ∧ entries.length ≤ maxLength) ∧ each (entry key type) entries = .ok kept ∧
        dumped = .dict kept := by
  cases value with
  | dict entries =>
      dsimp only [dict]
      by_cases within : minLength ≤ entries.length ∧ entries.length ≤ maxLength
      · rw [if_pos within]
        simp [within, @eq_comm _ _ dumped]
      · rw [if_neg within]
        simp [within]
  | none | bool | str | float | int | list => simp [dict]

theorem each_kept {α : Type} {type : α → Except ValidationError α} {accepts : α → Prop}
    (kept : ∀ item dumped, type item = .ok dumped ↔ accepts item ∧ dumped = item) (items dumped : List α) :
    each type items = .ok dumped ↔ (∀ item ∈ items, accepts item) ∧ dumped = items := by
  simp only [each_eq_ok, kept]
  induction items generalizing dumped with
  | nil => simp [List.forall₂_nil_left_iff]
  | cons item items ih =>
      rw [List.forall₂_cons_left_iff]
      constructor
      · rintro ⟨head, tail, ⟨first, rfl⟩, rest, rfl⟩
        rcases (ih tail).mp rest with ⟨all, rfl⟩
        exact ⟨List.forall_mem_cons.mpr ⟨first, all⟩, rfl⟩
      · rintro ⟨all, rfl⟩
        rcases List.forall_mem_cons.mp all with ⟨first, rest⟩
        exact ⟨item, items, ⟨first, rfl⟩, (ih items).mpr ⟨rest, rfl⟩, rfl⟩

theorem read_ok {entries : Dict} {field : Field} {held : String × Value} :
    field.read entries = .ok held ↔ held.1 = field.name ∧
      ((∃ value, entries.lookup field.name = some value ∧ field.type value = .ok held.2) ∨
        entries.lookup field.name = none ∧ field.default = some held.2) := by
  rcases held with ⟨name, dumped⟩
  unfold Field.read
  cases found : entries.lookup field.name with
  | some value =>
      simp only [bind_eq_ok, pure_eq, Except.ok.injEq, Prod.mk.injEq, Option.some.injEq, exists_eq_left',
        reduceCtorEq, false_and, or_false]
      constructor
      · rintro ⟨_, accepted, rfl, rfl⟩
        exact ⟨rfl, accepted⟩
      · rintro ⟨rfl, accepted⟩
        exact ⟨dumped, accepted, rfl, rfl⟩
  | none =>
      cases given : field.default with
      | some value => simp [eq_comm]
      | none => simp

theorem read_lookup {entries values : Dict} {fields : List Field} (distinct : (fields.map Field.name).Nodup)
    (read : each (Field.read entries) fields = .ok values) {field : Field} (member : field ∈ fields) :
    ∃ dumped, values.lookup field.name = some dumped ∧ field.read entries = .ok (field.name, dumped) := by
  induction fields generalizing values with
  | nil => cases member
  | cons head rest ih =>
      simp only [each, bind_eq_ok, pure_eq, Except.ok.injEq] at read
      rcases read with ⟨held, first, others, later, rfl⟩
      rw [List.map_cons, List.nodup_cons] at distinct
      have named := (read_ok.mp first).1
      rcases held with ⟨name, dumped⟩
      have named : name = head.name := named
      rcases List.mem_cons.mp member with rfl | member
      · refine ⟨dumped, ?_, by rw [← named]; exact first⟩
        rw [List.lookup_cons, named, beq_self_eq_true]
      · rcases ih distinct.2 later member with ⟨value, found, same⟩
        refine ⟨value, ?_, same⟩
        have apart : field.name ≠ name := by
          intro equal
          apply distinct.1
          rw [← named, ← equal]
          exact List.mem_map_of_mem member
        rw [List.lookup_cons, beq_false_of_ne apart]
        exact found

theorem model_ok {fields : List Field} {validator : Dict → Except ValidationError Dict} :
    model fields validator value = .ok dumped ↔ ∃ entries values validated, value = .dict entries ∧
      (∀ held ∈ entries, held.1 ∈ fields.map Field.name) ∧ each (Field.read entries) fields = .ok values ∧
        validator values = .ok validated ∧ dumped = .dict validated := by
  cases value with
  | dict entries =>
      simp only [model, bind_eq_ok, raiseWhen_ok, pure_eq, Except.ok.injEq, exists_const, Bool.not_eq_false',
        List.all_eq_true, List.contains_iff_mem, Value.dict.injEq]
      constructor
      · rintro ⟨named, values, read, validated, checked, rfl⟩
        exact ⟨entries, values, validated, rfl, named, read, checked, rfl⟩
      · rintro ⟨_, values, validated, rfl, named, read, checked, rfl⟩
        exact ⟨named, values, read, validated, checked, rfl⟩
  | none | bool | str | float | int | list => simp [model]

end NetworkGateway.Pydantic
