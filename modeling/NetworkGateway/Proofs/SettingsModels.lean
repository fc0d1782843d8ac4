import NetworkGateway.Api.Settings
import NetworkGateway.Dal.Bench

/-! The models of the settings against `validate_config`. -/

namespace NetworkGateway.Api

open Library.Dict Library.Result Pydantic Store

/-- A value whose dictionary binds every key once, as a Python `dict` does. -/
def KeyedOnce (value : Value) : Prop := ∀ entries, value = .dict entries → (entries.map Prod.fst).Nodup

def SameDict (a b : Value) : Prop := ∃ entries others, a = .dict entries ∧ b = .dict others ∧ Same entries others

theorem SameDict.refl (entries : Dict) : SameDict (.dict entries) (.dict entries) :=
  ⟨entries, entries, rfl, rfl, fun _ => rfl⟩

section

variable {Token : Type} {P : Platform Token} {value dumped : Value}

/-! Checks of one text. -/

theorem identifierType_ok :
    string metadataIdentifier value = .ok dumped ↔ identifier value = true ∧ dumped = value := by
  rw [string_ok]
  cases value with
  | str s =>
      have same : metadataIdentifier.accepts s = identifier (.str s) := by
        unfold StringType.accepts metadataIdentifier identifierPattern identifier
        dsimp only
        cases shape : s.toList with
        | nil => simp
        | cons c rest =>
            have long : 1 ≤ s.length := by
              rw [← String.length_toList, shape]
              simp
            simp only [long, decide_true, Bool.true_and]
            ac_rfl
      simp [same]
  | none | bool | int | float | list | dict => simp [identifier]

theorem hostType_ok :
    optional (string proxyHost) value = .ok dumped ↔ Store.proxyHost value = true ∧ dumped = value := by
  rw [optional_ok, string_ok]
  cases value with
  | str s =>
      have same : proxyHost.accepts s = Store.proxyHost (.str s) := by
        unfold StringType.accepts proxyHost hostPattern Store.proxyHost
        dsimp only
        by_cases blank : s = ""
        · rw [blank]
          rfl
        · have long : 1 ≤ s.length := Nat.pos_of_ne_zero (fun empty => blank (String.length_eq_zero_iff.mp empty))
          simp only [long, decide_true, Bool.true_and]
          ac_rfl
      simp [same]
  | none => simp [Store.proxyHost]
  | bool | int | float | list | dict => simp [Store.proxyHost]

theorem classType_ok :
    literal clientClass value = .ok dumped ↔ Store.clientClass value = true ∧ dumped = value :=
  literal_ok

theorem mappingKey_accepts (key : String) : (mappingKey P).accepts key = Store.mappingKey P key := by
  unfold StringType.accepts mappingKey Store.mappingKey
  dsimp only
  by_cases blank : key = ""
  · rw [blank]
    rfl
  · have long : 1 ≤ key.length := Nat.pos_of_ne_zero (fun empty => blank (String.length_eq_zero_iff.mp empty))
    have present : (key != "") = true := bne_iff_ne.mpr blank
    simp only [long, present, decide_true, Bool.true_and]
    rw [Bool.and_assoc]

/-! The two kinds of settings. -/

theorem sameKeys_two {entries : Dict} {first second : String} :
    sameKeys entries [first, second] = true ↔ (∀ held ∈ entries, held.1 ∈ [first, second]) ∧
      ∃ one other, entries.lookup first = some one ∧ entries.lookup second = some other := by
  unfold sameKeys
  simp only [Bool.and_eq_true, List.all_eq_true, List.contains_iff_mem, List.forall_mem_cons, Dict.has_eq,
    Option.isSome_iff_exists, List.not_mem_nil, false_imp_iff, implies_true, and_true]
  constructor
  · rintro ⟨named, ⟨one, first⟩, other, second⟩
    exact ⟨named, one, other, first, second⟩
  · rintro ⟨named, one, other, first, second⟩
    exact ⟨named, ⟨one, first⟩, other, second⟩

theorem twoFields_ok {entries values : Dict} {first second : String} {one other : Schema} :
    each (Field.read entries) [⟨first, one, none⟩, ⟨second, other, none⟩] = .ok values ↔
      ∃ a b a' b', entries.lookup first = some a ∧ entries.lookup second = some b ∧ one a = .ok a' ∧
        other b = .ok b' ∧ values = [(first, a'), (second, b')] := by
  simp only [each_eq_ok, List.forall₂_cons_left_iff, List.forall₂_nil_left_iff, read_ok, reduceCtorEq, and_false,
    or_false]
  constructor
  · rintro ⟨⟨_, a'⟩, _, ⟨rfl, a, found, accepted⟩, ⟨⟨_, b'⟩, _, ⟨rfl, b, present, passed⟩, rfl, rfl⟩, rfl⟩
    exact ⟨a, b, a', b', found, present, accepted, passed, rfl⟩
  · rintro ⟨a, b, a', b', found, present, accepted, passed, rfl⟩
    exact ⟨(first, a'), _, ⟨rfl, a, found, accepted⟩, ⟨(second, b'), _, ⟨rfl, b, present, passed⟩, rfl, rfl⟩, rfl⟩

theorem deviceLookup_ok : deviceLookupSettings value = .ok dumped ↔ ∃ entries a b, value = .dict entries ∧
    (∀ held ∈ entries, held.1 ∈ ["table", "search_column"]) ∧ entries.lookup "table" = some a ∧
      entries.lookup "search_column" = some b ∧ identifier a = true ∧ identifier b = true ∧
        dumped = .dict [("table", a), ("search_column", b)] := by
  unfold deviceLookupSettings
  simp only [model_ok, twoFields_ok, identifierType_ok, List.map_cons, List.map_nil, Except.ok.injEq]
  constructor
  · rintro ⟨entries, _, _, rfl, named, ⟨_, _, a, b, table, column, ⟨one, rfl⟩, ⟨other, rfl⟩, rfl⟩, rfl, rfl⟩
    exact ⟨entries, a, b, rfl, named, table, column, one, other, rfl⟩
  · rintro ⟨entries, a, b, rfl, named, table, column, one, other, rfl⟩
    exact ⟨entries, _, _, rfl, named, ⟨a, b, a, b, table, column, ⟨one, rfl⟩, ⟨other, rfl⟩, rfl⟩, rfl, rfl⟩

theorem configName_text (name : ConfigName) : configName name.text = .ok name := by
  cases name <;> rfl

theorem deviceLookup_stored {stored : Value} : validateConfig P ConfigName.deviceLookup.text value = .ok stored ↔
    ∃ entries, value = .dict entries ∧ sameKeys entries ["table", "search_column"] = true ∧
      (∀ held ∈ entries, identifier held.2 = true) ∧ stored = .dict entries := by
  unfold validateConfig
  rw [configName_text, ok_bind]
  cases value with
  | dict entries =>
      simp only [if_true, bind_eq_ok, raiseWhen_ok, Bool.not_eq_false', Bool.and_eq_true, List.all_eq_true, pure_eq,
        Except.ok.injEq, Value.dict.injEq, exists_const]
      constructor
      · rintro ⟨⟨named, identifiers⟩, rfl⟩
        exact ⟨entries, rfl, named, identifiers, rfl⟩
      · rintro ⟨_, rfl, named, identifiers, rfl⟩
        exact ⟨⟨named, identifiers⟩, rfl⟩
  | none | bool | int | float | list | str => simp

def mapValue : ConfigName → Value → Bool
  | .clientMapping => Store.clientClass
  | _ => Store.proxyHost

/-- The `map` field of either mapping. -/
def mapType (P : Platform Token) : ConfigName → Schema
  | .clientMapping => dict 1 1000 (mappingKey P) (literal clientClass)
  | _ => dict 0 1000 (mappingKey P) (optional (string proxyHost))

/-- What both validators ask of a `map`. -/
structure MapAccepted (P : Platform Token) (name : ConfigName) (entries : Dict) : Prop where
  bounded : entries.length ≤ 1000
  nonempty : name = .clientMapping → entries ≠ []
  entries : ∀ held ∈ entries, Store.mappingKey P held.1 = true ∧ mapValue name held.2 = true

theorem dictType_ok {minLength : Nat} {type : Schema} {accepts : Value → Bool}
    (kept : ∀ value dumped, type value = .ok dumped ↔ accepts value = true ∧ dumped = value) :
    dict minLength 1000 (mappingKey P) type value = .ok dumped ↔ ∃ entries, value = .dict entries ∧
      (minLength ≤ entries.length ∧ entries.length ≤ 1000) ∧
        (∀ held ∈ entries, Store.mappingKey P held.1 = true ∧ accepts held.2 = true) ∧ dumped = .dict entries := by
  have one : ∀ held dumped, Pydantic.entry (mappingKey P) type held = .ok dumped ↔
      (Store.mappingKey P held.1 = true ∧ accepts held.2 = true) ∧ dumped = held := by
    rintro ⟨key, item⟩ dumped
    simp only [Pydantic.entry, bind_eq_ok, raiseWhen_ok, mappingKey_accepts, Bool.not_eq_false', kept, pure_eq, Except.ok.injEq]
    constructor
    · rintro ⟨_, keyed, _, ⟨accepted, rfl⟩, rfl⟩
      exact ⟨⟨keyed, accepted⟩, rfl⟩
    · rintro ⟨⟨keyed, accepted⟩, rfl⟩
      exact ⟨(), keyed, item, ⟨accepted, rfl⟩, rfl⟩
  simp only [dict_ok, each_kept one]
  constructor
  · rintro ⟨entries, _, rfl, within, ⟨accepted, rfl⟩, rfl⟩
    exact ⟨_, rfl, within, accepted, rfl⟩
  · rintro ⟨entries, rfl, within, accepted, rfl⟩
    exact ⟨entries, entries, rfl, within, ⟨accepted, rfl⟩, rfl⟩

theorem mapType_ok {name : ConfigName} (mapping : name ≠ .deviceLookup) :
    mapType P name value = .ok dumped ↔
      ∃ entries, value = .dict entries ∧ MapAccepted P name entries ∧ dumped = .dict entries := by
  cases name with
  | deviceLookup => exact absurd rfl mapping
  | clientMapping =>
      dsimp only [mapType]
      rw [dictType_ok (fun _ _ => classType_ok)]
      constructor
      · rintro ⟨entries, rfl, within, accepted, rfl⟩
        refine ⟨entries, rfl, ⟨within.2, ?_, accepted⟩, rfl⟩
        rintro - rfl
        exact absurd within.1 (by decide)
      · rintro ⟨entries, rfl, accepted, rfl⟩
        exact ⟨entries, rfl, ⟨List.length_pos_iff.mpr (accepted.nonempty rfl), accepted.bounded⟩, accepted.entries, rfl⟩
  | proxyMapping =>
      dsimp only [mapType]
      rw [dictType_ok (fun _ _ => hostType_ok)]
      constructor
      · rintro ⟨entries, rfl, within, accepted, rfl⟩
        exact ⟨entries, rfl, ⟨within.2, nofun, accepted⟩, rfl⟩
      · rintro ⟨entries, rfl, accepted, rfl⟩
        exact ⟨entries, rfl, ⟨Nat.zero_le _, accepted.bounded⟩, accepted.entries, rfl⟩

theorem mappingEntry_ok {name : ConfigName} {held : String × Value} {u : Unit} (mapping : name ≠ .deviceLookup) :
    mappingEntry P name held = .ok u ↔ Store.mappingKey P held.1 = true ∧ mapValue name held.2 = true := by
  cases name with
  | deviceLookup => exact absurd rfl mapping
  | clientMapping => simp [mappingEntry, mapValue]
  | proxyMapping => simp [mappingEntry, mapValue]

theorem mappingEntries_ok {name : ConfigName} {kept : Dict} (mapping : name ≠ .deviceLookup) :
    mappingEntries P name value = .ok kept ↔ value = .dict kept ∧ MapAccepted P name kept := by
  cases value with
  | dict entries =>
      have all : (∃ units, each (mappingEntry P name) entries = .ok units) ↔
          ∀ held ∈ entries, Store.mappingKey P held.1 = true ∧ mapValue name held.2 = true := by
        constructor
        · rintro ⟨units, passed⟩ held listed
          rcases List.forall₂_iff_get.mp ((each_eq_ok _ _ _).mp passed) with ⟨length, each⟩
          rcases List.mem_iff_get.mp listed with ⟨i, rfl⟩
          exact (mappingEntry_ok mapping).mp (each i i.isLt (length ▸ i.isLt))
        · intro accepted
          refine ⟨entries.map (fun _ => ()), (each_eq_ok _ _ _).mpr ?_⟩
          rw [List.forall₂_map_right_iff, List.forall₂_same]
          intro held listed
          exact (mappingEntry_ok mapping).mpr (accepted held listed)
      simp only [mappingEntries, bind_eq_ok, raiseWhen_ok, Bool.or_eq_false_iff, decide_eq_false_iff_not,
        pure_eq, Except.ok.injEq, Value.dict.injEq]
      constructor
      · rintro ⟨_, checked, units, passed, rfl⟩
        refine ⟨rfl, ?_, ?_, all.mp ⟨units, passed⟩⟩
        · omega
        · rintro rfl rfl
          simp at checked
      · rintro ⟨rfl, accepted⟩
        rcases all.mpr accepted.entries with ⟨units, passed⟩
        refine ⟨(), ⟨Nat.not_lt.mpr accepted.bounded, ?_⟩, units, passed, rfl⟩
        cases name with
        | deviceLookup => rfl
        | proxyMapping => rfl
        | clientMapping => simpa using accepted.nonempty rfl
  | none | bool | int | float | list | str => simp [mappingEntries]

/-- What both validators ask of `key_columns`. -/
structure ColumnsAccepted (columns : List Value) : Prop where
  bounded : 1 ≤ columns.length ∧ columns.length ≤ 8
  identifiers : ∀ column ∈ columns, identifier column = true
  unique : columns.Nodup

theorem columnsType_ok : list 1 8 (string metadataIdentifier) value = .ok dumped ↔ ∃ columns, value = .list columns ∧
    (1 ≤ columns.length ∧ columns.length ≤ 8) ∧ (∀ column ∈ columns, identifier column = true) ∧
      dumped = .list columns := by
  simp only [list_ok, each_kept (fun _ _ => identifierType_ok)]
  constructor
  · rintro ⟨columns, _, rfl, bounded, ⟨identifiers, rfl⟩, rfl⟩
    exact ⟨_, rfl, bounded, identifiers, rfl⟩
  · rintro ⟨columns, rfl, bounded, identifiers, rfl⟩
    exact ⟨columns, columns, rfl, bounded, ⟨identifiers, rfl⟩, rfl⟩

theorem keyColumns_iff : keyColumns value = true ↔ ∃ columns, value = .list columns ∧ ColumnsAccepted columns := by
  cases value with
  | list columns =>
      simp only [keyColumns, Bool.and_eq_true, decide_eq_true_iff, List.all_eq_true, Value.list.injEq, exists_eq_left']
      constructor
      · rintro ⟨⟨⟨least, most⟩, identifiers⟩, unique⟩
        exact ⟨⟨least, most⟩, identifiers, unique⟩
      · rintro ⟨⟨least, most⟩, identifiers, unique⟩
        exact ⟨⟨⟨least, most⟩, identifiers⟩, unique⟩
  | none | bool | int | float | dict | str => simp [keyColumns]

/-- What both validators ask of a mapping, and what both make of it. -/
structure MappingAccepted (P : Platform Token) (name : ConfigName) (entries : Dict) (columns : List Value)
    (mappings : Dict) : Prop where
  named : ∀ held ∈ entries, held.1 ∈ ["key_columns", "map"]
  columnsBound : entries.lookup "key_columns" = some (.list columns)
  mapBound : entries.lookup "map" = some (.dict mappings)
  columns : ColumnsAccepted columns
  mappings : MapAccepted P name mappings

theorem mappingModel_ok {name : ConfigName} (mapping : name ≠ .deviceLookup) :
    settingsModel P name value = .ok dumped ↔ ∃ entries columns mappings, value = .dict entries ∧
      MappingAccepted P name entries columns mappings ∧
        dumped = .dict [("key_columns", .list columns), ("map", .dict mappings)] := by
  have same : settingsModel P name = mappingSettings (mapType P name) := by
    cases name with
    | deviceLookup => exact absurd rfl mapping
    | clientMapping => rfl
    | proxyMapping => rfl
  rw [same]
  unfold mappingSettings
  simp only [model_ok, twoFields_ok, columnsType_ok, mapType_ok mapping, List.map_cons, List.map_nil]
  constructor
  · rintro ⟨entries, _, validated, rfl, named, ⟨_, _, _, _, first, second, ⟨columns, rfl, bounded, identifiers, rfl⟩,
      ⟨mappings, rfl, accepted, rfl⟩, rfl⟩, checked, rfl⟩
    have unique : columns.Nodup ∧ validated = [("key_columns", .list columns), ("map", .dict mappings)] := by
      unfold uniqueColumns at checked
      simp only [Dict.get_eq, List.lookup_cons_self, Option.getD_some] at checked
      split at checked
      · rename_i apart
        exact ⟨apart, (Except.ok.inj checked).symm⟩
      · cases checked
    exact ⟨entries, columns, mappings, rfl, ⟨named, first, second, ⟨bounded, identifiers, unique.1⟩, accepted⟩,
      by rw [unique.2]⟩
  · rintro ⟨entries, columns, mappings, rfl, accepted, rfl⟩
    refine ⟨entries, _, _, rfl, accepted.named, ⟨_, _, _, _, accepted.columnsBound, accepted.mapBound,
      ⟨columns, rfl, accepted.columns.bounded, accepted.columns.identifiers, rfl⟩,
      ⟨mappings, rfl, accepted.mappings, rfl⟩, rfl⟩, ?_, rfl⟩
    unfold uniqueColumns
    simp only [Dict.get_eq, List.lookup_cons_self, Option.getD_some]
    rw [if_pos accepted.columns.unique]

theorem mapping_stored {name : ConfigName} (mapping : name ≠ .deviceLookup) :
    validateConfig P name.text value = .ok dumped ↔ ∃ entries columns mappings, value = .dict entries ∧
      MappingAccepted P name entries columns mappings ∧
        dumped = .dict [("key_columns", .list columns), ("map", .dict mappings)] := by
  unfold validateConfig
  rw [configName_text, ok_bind]
  cases value with
  | dict entries =>
      simp only [if_neg mapping, bind_eq_ok, raiseWhen_ok, Bool.not_eq_false', sameKeys_two, keyColumns_iff,
        mappingEntries_ok mapping, pure_eq, Except.ok.injEq, Value.dict.injEq, exists_const]
      constructor
      · rintro ⟨⟨named, _, _, first, second⟩, ⟨columns, listed, accepted⟩, mappings, ⟨bound, entered⟩, rfl⟩
        rw [Dict.get_eq, first, Option.getD_some] at listed
        rw [Dict.get_eq, second, Option.getD_some] at bound
        refine ⟨entries, columns, mappings, rfl, ⟨named, listed ▸ first, bound ▸ second, accepted, entered⟩, ?_⟩
        rw [Dict.get_eq, first, Option.getD_some, listed]
      · rintro ⟨_, columns, mappings, rfl, accepted, rfl⟩
        have first := accepted.columnsBound
        have second := accepted.mapBound
        refine ⟨⟨accepted.named, _, _, first, second⟩, ⟨columns, ?_, accepted.columns⟩, mappings,
          ⟨?_, accepted.mappings⟩, ?_⟩
        · rw [Dict.get_eq, first, Option.getD_some]
        · rw [Dict.get_eq, second, Option.getD_some]
        · rw [Dict.get_eq, first, Option.getD_some]
  | none | bool | int | float | list | str => simp

/-! The two validators. -/

theorem same_two {entries : Dict} {first second : String} {a b : Value}
    (named : ∀ held ∈ entries, held.1 ∈ [first, second]) (one : entries.lookup first = some a)
    (other : entries.lookup second = some b) : Same [(first, a), (second, b)] entries := by
  intro key
  simp only [lookup_cons_key, List.lookup_nil]
  by_cases atFirst : key = first
  · rw [if_pos atFirst, atFirst, one]
  · rw [if_neg atFirst]
    by_cases atSecond : key = second
    · rw [if_pos atSecond, atSecond, other]
    · rw [if_neg atSecond, eq_comm, List.lookup_eq_none_iff]
      intro held listed
      have name := named held listed
      simp only [List.mem_cons, List.not_mem_nil, or_false] at name
      rcases name with same | same
      · exact bne_iff_ne.mpr (fun equal => atFirst (equal.trans same))
      · exact bne_iff_ne.mpr (fun equal => atSecond (equal.trans same))

theorem model_of_stored {name : ConfigName} {stored : Value}
    (accepted : validateConfig P name.text value = .ok stored) :
    ∃ dump, settingsModel P name value = .ok dump ∧ SameDict dump stored := by
  by_cases mapping : name = .deviceLookup
  · rw [mapping] at accepted ⊢
    rcases deviceLookup_stored.mp accepted with ⟨entries, rfl, listed, identifiers, rfl⟩
    rcases sameKeys_two.mp listed with ⟨named, a, b, one, other⟩
    refine ⟨_, deviceLookup_ok.mpr ⟨entries, a, b, rfl, named, one, other, ?_, ?_, rfl⟩,
      _, entries, rfl, rfl, same_two named one other⟩
    · exact identifiers _ (mem_of_lookup one)
    · exact identifiers _ (mem_of_lookup other)
  · rcases (mapping_stored mapping).mp accepted with ⟨entries, columns, mappings, rfl, both, rfl⟩
    exact ⟨_, (mappingModel_ok mapping).mpr ⟨entries, columns, mappings, rfl, both, rfl⟩, SameDict.refl _⟩

/-- What the model accepts, the store accepts, where no key is bound twice. -/
theorem stored_of_model {name : ConfigName} (keyed : KeyedOnce value) (accepted : settingsModel P name value = .ok dumped) :
    ∃ stored, validateConfig P name.text value = .ok stored := by
  by_cases mapping : name = .deviceLookup
  · rw [mapping] at accepted ⊢
    rcases deviceLookup_ok.mp accepted with ⟨entries, a, b, rfl, named, one, other, first, second, rfl⟩
    refine ⟨_, deviceLookup_stored.mpr ⟨entries, rfl, sameKeys_two.mpr ⟨named, a, b, one, other⟩, ?_, rfl⟩⟩
    intro held listed
    have bound := lookup_of_mem (keyed entries rfl) listed
    have name := named held listed
    simp only [List.mem_cons, List.not_mem_nil, or_false] at name
    rcases name with same | same
    · rw [same, one] at bound
      rw [← Option.some.inj bound]
      exact first
    · rw [same, other] at bound
      rw [← Option.some.inj bound]
      exact second
  · rcases (mappingModel_ok mapping).mp accepted with ⟨entries, columns, mappings, rfl, both, rfl⟩
    exact ⟨_, (mapping_stored mapping).mpr ⟨entries, columns, mappings, rfl, both, rfl⟩⟩

theorem MappingAccepted.again {name : ConfigName} {entries : Dict} {columns : List Value} {mappings : Dict}
    (accepted : MappingAccepted P name entries columns mappings) :
    MappingAccepted P name [("key_columns", .list columns), ("map", .dict mappings)] columns mappings :=
  ⟨by simp, rfl, rfl, accepted.columns, accepted.mappings⟩

theorem stored_again {name : ConfigName} {stored : Value} (accepted : validateConfig P name.text value = .ok stored) :
    validateConfig P name.text stored = .ok stored := by
  by_cases mapping : name = .deviceLookup
  · rw [mapping] at accepted ⊢
    rcases deviceLookup_stored.mp accepted with ⟨entries, rfl, -, -, rfl⟩
    exact accepted
  · rcases (mapping_stored mapping).mp accepted with ⟨entries, columns, mappings, rfl, both, rfl⟩
    exact (mapping_stored mapping).mpr ⟨_, columns, mappings, rfl, both.again, rfl⟩

theorem dump_again {name : ConfigName} (accepted : settingsModel P name value = .ok dumped) :
    settingsModel P name dumped = .ok dumped ∧ validateConfig P name.text dumped = .ok dumped := by
  by_cases mapping : name = .deviceLookup
  · rw [mapping] at accepted ⊢
    rcases deviceLookup_ok.mp accepted with ⟨entries, a, b, rfl, -, -, -, first, second, rfl⟩
    have named : ∀ held ∈ [("table", a), ("search_column", b)], held.1 ∈ ["table", "search_column"] := by simp
    have one : [("table", a), ("search_column", b)].lookup "table" = some a := rfl
    have other : [("table", a), ("search_column", b)].lookup "search_column" = some b := rfl
    refine ⟨deviceLookup_ok.mpr ⟨_, a, b, rfl, named, one, other, first, second, rfl⟩,
      deviceLookup_stored.mpr ⟨_, rfl, sameKeys_two.mpr ⟨named, a, b, one, other⟩, ?_, rfl⟩⟩
    simp [first, second]
  · rcases (mappingModel_ok mapping).mp accepted with ⟨entries, columns, mappings, rfl, both, rfl⟩
    exact ⟨(mappingModel_ok mapping).mpr ⟨_, columns, mappings, rfl, both.again, rfl⟩,
      (mapping_stored mapping).mpr ⟨_, columns, mappings, rfl, both.again, rfl⟩⟩

/-! The routes. -/

theorem serviceCall_ok {α : Type} {outcome : Except PyError α} {result : α} :
    serviceCall outcome = .ok result ↔ outcome = .ok result := by
  cases outcome <;> simp [serviceCall, Management.storeCall]

theorem getConfig_validated {self : GatewayStore} {db : Db Token} {name : String} {stored : Value}
    (read : getConfig P self db name = .ok stored) : ∃ payload, validateConfig P name payload = .ok stored := by
  simp only [getConfig, bind_eq_ok, reading_ok] at read
  rcases read with ⟨_, -, -, read⟩
  split at read
  · rename_i payload _
    exact ⟨payload, read⟩
  · cases read

/-- A configuration read from the store is answered, never turned into an error. -/
theorem getSettings_answers {self : GatewayStore} {db : Db Token} {name : ConfigName} {stored : Value}
    (read : getConfig P self db name.text = .ok stored) :
    ∃ settings, getSettings P self db name = .ok settings ∧ SameDict settings stored := by
  rcases getConfig_validated read with ⟨payload, accepted⟩
  rcases model_of_stored (stored_again accepted) with ⟨settings, dumped, same⟩
  refine ⟨settings, ?_, same⟩
  unfold getSettings publicSettings
  rw [serviceCall_ok.mpr read, ok_bind, dumped]

/-- What a name was set to and the store accepts is read back. -/
theorem getConfig_set {reader : GatewayStore} {db : Db Token} {name : ConfigName} (opened : reader.closed = false)
    (accepted : validateConfig P name.text value = .ok value) : getConfig P reader
      { db with configurations := set db.configurations name.text value } name.text = .ok value := by
  have found : (set db.configurations name.text value).lookup name.text = some value := by
    rw [lookup_set, if_pos rfl]
  unfold getConfig
  rw [configName_text, ok_bind, reading_ok]
  refine ⟨opened, ?_⟩
  dsimp only
  rw [found]
  exact accepted

theorem saveConfig_saved {self : GatewayStore} {db : Db Token} {name : ConfigName} {stored : Value}
    (opened : self.closed = false) (accepted : validateConfig P name.text value = .ok stored) :
    saveConfig P self db name.text value =
      (.ok stored, { db with configurations := set db.configurations name.text stored }) := by
  unfold saveConfig checked
  rw [accepted]
  exact transaction_ok.mpr ⟨opened, rfl⟩

/-- A body the model accepts is saved and answered as its dump. -/
theorem updateSettings_answers {self : GatewayStore} {db : Db Token} {name : ConfigName} (opened : self.closed = false)
    (accepted : settingsModel P name value = .ok dumped) : updateSettings P self db name value =
      (.ok dumped, { db with configurations := set db.configurations name.text dumped }) := by
  rcases dump_again accepted with ⟨again, stored⟩
  unfold updateSettings publicSettings
  rw [accepted]
  dsimp only
  rw [saveConfig_saved opened stored, serviceCall_ok.mpr rfl, ok_bind, again]

end

/-- The models of the settings and `validate_config` accept the same values and make the same dictionary of them; what
either accepts and writes, both read back. -/
theorem settings_validators_agree {Token : Type} (P : Platform Token) (name : ConfigName) (value : Value)
    (keyed : KeyedOnce value) :
    ((∃ dump, settingsModel P name value = .ok dump) ↔ ∃ stored, validateConfig P name.text value = .ok stored) ∧
    (∀ dump stored, settingsModel P name value = .ok dump → validateConfig P name.text value = .ok stored →
      SameDict dump stored) ∧
    (∀ self db stored, getConfig P self db name.text = .ok stored →
      ∃ settings, getSettings P self db name = .ok settings ∧ SameDict settings stored) ∧
    (∀ self reader db stored, self.closed = false → reader.closed = false →
      validateConfig P name.text value = .ok stored →
        ∃ written, saveConfig P self db name.text value = (.ok stored, written) ∧
          getConfig P reader written name.text = .ok stored ∧
          ∃ settings, getSettings P reader written name = .ok settings ∧ SameDict settings stored) ∧
    ∀ self reader db dump, self.closed = false → reader.closed = false → settingsModel P name value = .ok dump →
      let written := { db with configurations := set db.configurations name.text dump }
      updateSettings P self db name value = (.ok dump, written) ∧ getConfig P reader written name.text = .ok dump ∧
        getSettings P reader written name = .ok dump := by
  refine ⟨⟨?_, ?_⟩, ?_, ?_, ?_, ?_⟩
  · rintro ⟨dump, accepted⟩
    exact stored_of_model keyed accepted
  · rintro ⟨stored, accepted⟩
    rcases model_of_stored accepted with ⟨dump, dumped, -⟩
    exact ⟨dump, dumped⟩
  · intro dump stored dumped accepted
    rcases model_of_stored accepted with ⟨other, again, same⟩
    rw [Except.ok.inj (dumped.symm.trans again)]
    exact same
  · intro self db stored read
    exact getSettings_answers read
  · intro self reader db stored opened reading accepted
    have read : getConfig P reader { db with configurations := set db.configurations name.text stored } name.text =
        .ok stored := getConfig_set reading (stored_again accepted)
    exact ⟨_, saveConfig_saved opened accepted, read, getSettings_answers read⟩
  · intro self reader db dump opened reading accepted
    have again := dump_again accepted
    have read : getConfig P reader { db with configurations := set db.configurations name.text dump } name.text = .ok dump :=
      getConfig_set reading again.2
    refine ⟨updateSettings_answers opened accepted, read, ?_⟩
    unfold getSettings publicSettings
    rw [serviceCall_ok.mpr read, ok_bind, again.1]

theorem settings_validators_agree_bench :
    (∃ dump, settingsModel Platform.bench .deviceLookup
        (.dict [("search_column", .str "name"), ("table", .str "inventory")]) = .ok dump) ↔
      ∃ stored, validateConfig Platform.bench ConfigName.deviceLookup.text
        (.dict [("search_column", .str "name"), ("table", .str "inventory")]) = .ok stored := by
  refine (settings_validators_agree Platform.bench .deviceLookup _ ?_).1
  intro entries same
  rw [← Value.dict.inj same]
  decide

end NetworkGateway.Api
