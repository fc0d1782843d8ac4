import NetworkGateway.Library.Joined
import NetworkGateway.Bl.Mappings
import NetworkGateway.Dal.Bench

/-! Which rows are looked up in the mappings under keys of their own. -/

namespace NetworkGateway.Factories

open Library.Dict Library.Joined Library.Result

/-- `str.lower` works character by character where it changes nothing, and `str` of a true value is not empty. -/
structure CaseLaws {Token : Type} (P : Platform Token) : Prop where
  lower_lower : ∀ text, P.lower (P.lower text) = P.lower text
  lower_append : ∀ a b, P.lower (a ++ b) = a ++ b ↔ P.lower a = a ∧ P.lower b = b
  lower_empty : ∀ text, P.lower text = "" → text = ""
  lower_star : P.lower "*" = "*"
  lower_colon : P.lower ":" = ":"
  str_empty : ∀ value : Value, value.truthy = true → P.str value ≠ ""

/-- A mapping as `get_config` returns it. -/
def configured (columns : List String) (entries : Dict) : Dict :=
  [("key_columns", .list (columns.map .str)), ("map", .dict entries)]

/-- The entry composed for a tuple is meant for a row: it has the row's tuple, it is the row's last-column
wildcard, or its key is one of those that are tried for every row. -/
def Meant (fallbacks : List String) (entry row : List String) : Prop :=
  entry = row ∨ entry = wildcard row ∨ composed entry ∈ fallbacks

section

variable {Token : Type} (P : Platform Token) (columns : List String) (row : Dict)

/-- Every row with another tuple of values has another key, and an entry that was composed for any row, or as its
wildcard, makes no difference to this one unless it is meant for it. -/
structure Unambiguous : Prop where
  keys : ∀ other, keyParts P columns other ≠ keyParts P columns row →
    composed (keyParts P columns other) ≠ composed (keyParts P columns row)
  clients : ∀ other entry entries, entry = keyParts P columns other ∨ entry = wildcard (keyParts P columns other) →
    ¬Meant ["default"] entry (keyParts P columns row) →
    resolveClassPath P row (configured columns (erase entries (composed entry))) =
      resolveClassPath P row (configured columns entries)
  proxies : ∀ other entry entries, entry = keyParts P columns other ∨ entry = wildcard (keyParts P columns other) →
    ¬Meant ["default", "*:*"] entry (keyParts P columns row) →
    selectProxy P row (configured columns (erase entries (composed entry))) =
      selectProxy P row (configured columns entries)

end

/-- No ':' stands behind the first character of a value in front of the last column, or in front of the last
character of a value behind the first column. -/
def Separated (parts : List String) : Prop := Firm ':' (parts.map String.toList)

variable {Token : Type} {P : Platform Token} {columns : List String} {row other : Dict}

/-! Values. -/

theorem keyPart_nonempty (laws : CaseLaws P) (row : Dict) (column : String) : keyPart P row column ≠ "" := by
  intro empty
  unfold keyPart at empty
  have text := laws.lower_empty _ empty
  split at text
  · rename_i held
    exact laws.str_empty _ held text
  · exact absurd text (by decide)

theorem keyPart_lower (laws : CaseLaws P) (row : Dict) (column : String) :
    P.lower (keyPart P row column) = keyPart P row column := laws.lower_lower _

theorem keyParts_length : (keyParts P columns row).length = columns.length := List.length_map _

def Valued (P : Platform Token) (parts : List String) : Prop := ∀ part ∈ parts, part ≠ "" ∧ P.lower part = part

theorem keyParts_valued (laws : CaseLaws P) : Valued P (keyParts P columns row) := by
  intro part member
  rcases List.mem_map.mp member with ⟨column, -, rfl⟩
  exact ⟨keyPart_nonempty laws row column, keyPart_lower laws row column⟩

theorem Valued.nonempty {parts : List String} (valued : Valued P parts) :
    ∀ part ∈ parts.map String.toList, part ≠ [] := by
  intro part member
  rcases List.mem_map.mp member with ⟨text, listed, rfl⟩
  intro empty
  exact (valued text listed).1 (String.toList_eq_nil_iff.mp empty)

theorem Valued.wildcard {parts : List String} (laws : CaseLaws P) (valued : Valued P parts) :
    Valued P (wildcard parts) := by
  intro part member
  rcases List.mem_append.mp member with kept | last
  · exact valued part (List.dropLast_subset _ kept)
  · rw [List.mem_singleton.mp last]
    exact ⟨by decide, laws.lower_star⟩

theorem keyParts_surjective (distinct : columns.Nodup) {parts : List String} (valued : Valued P parts)
    (length : parts.length = columns.length) : ∃ row, keyParts P columns row = parts := by
  refine ⟨columns.zip (parts.map .str), ?_⟩
  induction columns generalizing parts with
  | nil => exact (List.length_eq_zero_iff.mp length).symm
  | cons column columns ih =>
      cases parts with
      | nil => cases length
      | cons part parts =>
          rw [List.nodup_cons] at distinct
          have here := valued part List.mem_cons_self
          have rest := ih distinct.2 (fun later member => valued later (List.mem_cons_of_mem part member))
            (Nat.succ.inj length)
          have head : keyPart P ((column :: columns).zip ((part :: parts).map .str)) column = part := by
            have truthy : (Value.str part).truthy = true := by simpa using here.1
            simp only [keyPart, Dict.getOr, List.map_cons, List.zip_cons_cons, List.lookup_cons_self, Option.getD_some,
              truthy, if_true]
            exact here.2
          have tail : ∀ later ∈ columns, keyPart P ((column :: columns).zip ((part :: parts).map .str)) later =
              keyPart P (columns.zip (parts.map .str)) later := by
            intro later member
            have apart : later ≠ column := by
              rintro rfl
              exact distinct.1 member
            have same : Dict.getOr ((column :: columns).zip ((part :: parts).map .str)) later (.str "*") =
                Dict.getOr (columns.zip (parts.map .str)) later (.str "*") := by
              rw [Dict.getOr, List.map_cons, List.zip_cons_cons, lookup_cons_key, if_neg apart]
              rfl
            unfold keyPart
            rw [same]
          rw [keyParts, List.map_cons, head, List.map_congr_left tail]
          exact congrArg (part :: ·) rest

/-! Keys. -/

theorem composed_eq {a b : List String} :
    composed a = composed b ↔
      [':'].intercalate (a.map String.toList) = [':'].intercalate (b.map String.toList) := by
  have text : ∀ parts, (composed parts).toList = [':'].intercalate (parts.map String.toList) :=
    fun parts => String.toList_intercalate
  rw [← text, ← text]
  exact String.toList_inj.symm

theorem map_toList_inj {a b : List String} (same : a.map String.toList = b.map String.toList) : a = b :=
  (List.map_injective_iff.mpr fun _ _ => String.toList_inj.mp) same

/-- A separated tuple is the only one with its key. -/
theorem Separated.unique {parts others : List String} (separated : Separated parts) (valued : Valued P parts)
    (full : Valued P others) (length : others.length = parts.length) (same : composed others = composed parts) :
    others = parts := by
  apply map_toList_inj
  refine (intercalate_firm separated valued.nonempty full.nonempty ?_ (composed_eq.mp same.symm)).symm
  rw [List.length_map, List.length_map, length]

theorem Separated.wildcard {parts : List String} (separated : Separated parts) (present : parts ≠ []) :
    Separated (wildcard parts) := by
  rcases List.eq_nil_or_concat parts with rfl | ⟨init, last, rfl⟩
  · exact absurd rfl present
  · unfold Separated Factories.wildcard at *
    rw [List.concat_eq_append, List.map_append] at separated
    rw [List.concat_eq_append, List.dropLast_concat, List.map_append]
    exact Firm.replaceLast separated (by decide)

/-- The key of two or more values has a ':' behind its first character. -/
theorem composed_tail {first : String} {rest : List String} (present : first ≠ "") (more : rest ≠ []) :
    ':' ∈ (composed (first :: rest)).toList.tail := by
  have split : (composed (first :: rest)).toList = first.toList ++ ':' :: [':'].intercalate (rest.map String.toList) := by
    rw [composed, String.toList_intercalate, List.map_cons]
    exact intercalate_cons ':' first.toList (fun none => more (List.map_eq_nil_iff.mp none))
  cases text : first.toList with
  | nil => exact absurd (String.toList_eq_nil_iff.mp text) present
  | cons head tail =>
      rw [split, text, List.cons_append, List.tail_cons]
      exact List.mem_append_right tail List.mem_cons_self

/-- A text that `str.lower` leaves as it is. -/
def Lowered (P : Platform Token) (text : List Char) : Prop := P.lower (String.ofList text) = String.ofList text

theorem lowered_append (laws : CaseLaws P) {a b : List Char} : Lowered P (a ++ b) ↔ Lowered P a ∧ Lowered P b := by
  unfold Lowered
  rw [String.ofList_append]
  exact laws.lower_append _ _

theorem lowered_colon (laws : CaseLaws P) {a b : List Char} : Lowered P (a ++ ':' :: b) ↔ Lowered P a ∧ Lowered P b := by
  have colon : Lowered P [':'] := laws.lower_colon
  rw [lowered_append laws, ← List.singleton_append, lowered_append laws]
  exact ⟨fun both => ⟨both.1, both.2.2⟩, fun both => ⟨both.1, colon, both.2⟩⟩

theorem row_of_texts (distinct : columns.Nodup) {texts : List (List Char)}
    (valued : ∀ text ∈ texts, text ≠ [] ∧ Lowered P text) (length : texts.length = columns.length)
    (differs : texts ≠ (keyParts P columns row).map String.toList)
    (same : [':'].intercalate texts = [':'].intercalate ((keyParts P columns row).map String.toList)) :
    ∃ other, keyParts P columns other ≠ keyParts P columns row ∧
      composed (keyParts P columns other) = composed (keyParts P columns row) := by
  have back : (texts.map String.ofList).map String.toList = texts := by
    rw [List.map_map]
    exact (List.map_congr_left fun text _ => String.toList_ofList).trans (List.map_id texts)
  have full : Valued P (texts.map String.ofList) := by
    intro part member
    rcases List.mem_map.mp member with ⟨text, listed, rfl⟩
    refine ⟨?_, (valued text listed).2⟩
    intro empty
    exact (valued text listed).1 (String.ofList_eq_empty_iff.mp empty)
  rcases keyParts_surjective distinct full (by rw [List.length_map, length]) with ⟨other, tuple⟩
  refine ⟨other, ?_, ?_⟩
  · intro equal
    rw [← equal, tuple, back] at differs
    exact differs rfl
  · rw [tuple, composed_eq, back, same]

/-- Where the values are not separated, another row has the same key. -/
theorem key_shared (laws : CaseLaws P) (distinct : columns.Nodup) (loose : ¬Separated (keyParts P columns row)) :
    ∃ other, keyParts P columns other ≠ keyParts P columns row ∧
      composed (keyParts P columns other) = composed (keyParts P columns row) := by
  have valued : ∀ text ∈ (keyParts P columns row).map String.toList, text ≠ [] ∧ Lowered P text := by
    intro text member
    refine ⟨(keyParts_valued laws).nonempty text member, ?_⟩
    rcases List.mem_map.mp member with ⟨part, listed, rfl⟩
    rw [Lowered, String.ofList_toList]
    exact (keyParts_valued laws part listed).2
  have length : ((keyParts P columns row).map String.toList).length = columns.length := by
    rw [List.length_map, keyParts_length]
  rcases loose_regroups loose with ⟨before, a, b, c, after, ⟨cut, present⟩ | ⟨cut, present⟩⟩
  · have regrouped := intercalate_regroup ':' before after a b c
    rw [cut] at valued length
    simp only [List.forall_mem_append, List.forall_mem_cons, lowered_colon laws] at valued
    rcases valued with ⟨front, ⟨-, lowA, lowB⟩, ⟨-, lowC⟩, back⟩
    have full : ∀ text ∈ before ++ a :: (b ++ ':' :: c) :: after, text ≠ [] ∧ Lowered P text := by
      simp only [List.forall_mem_append, List.forall_mem_cons, lowered_colon laws]
      exact ⟨front, ⟨present, lowA⟩, ⟨List.append_ne_nil_of_right_ne_nil _ (List.cons_ne_nil _ _), lowB, lowC⟩, back⟩
    apply row_of_texts distinct full
    · rw [← length]
      simp only [List.length_append, List.length_cons]
    · rw [cut]
      intro same
      have here := (List.cons.inj (List.append_cancel_left same)).1
      exact List.cons_ne_nil _ _ (List.self_eq_append_right.mp here)
    · rw [cut, regrouped]
  · have regrouped := intercalate_regroup ':' before after a b c
    rw [cut] at valued length
    simp only [List.forall_mem_append, List.forall_mem_cons, lowered_colon laws] at valued
    rcases valued with ⟨front, ⟨-, lowA⟩, ⟨-, lowB, lowC⟩, back⟩
    have full : ∀ text ∈ before ++ (a ++ ':' :: b) :: c :: after, text ≠ [] ∧ Lowered P text := by
      simp only [List.forall_mem_append, List.forall_mem_cons, lowered_colon laws]
      exact ⟨front, ⟨List.append_ne_nil_of_right_ne_nil _ (List.cons_ne_nil _ _), lowA, lowB⟩, ⟨present, lowC⟩, back⟩
    apply row_of_texts distinct full
    · rw [← length]
      simp only [List.length_append, List.length_cons]
    · rw [cut]
      intro same
      have here := (List.cons.inj (List.append_cancel_left same)).1
      exact List.cons_ne_nil _ _ (List.append_right_eq_self.mp here)
    · rw [cut, regrouped]

/-! Entries. -/

theorem get_erase {entries : Dict} {key other : String} (apart : other ≠ key) :
    Dict.get (erase entries key) other = Dict.get entries other := by
  rw [Dict.get_eq, Dict.get_eq, lookup_erase, if_neg apart]

theorem orGet_erase {entries : Dict} {key other : String} (apart : other ≠ key) (found : Value) :
    orGet (erase entries key) found other = orGet entries found other := by
  rw [orGet, orGet, get_erase apart]

theorem keyColumns_configured (entries : Dict) (default : List String) :
    keyColumns (configured columns entries) default = .ok columns := by
  have texts : Value.strings (columns.map .str) = some columns := (Value.strings_eq_some _ _).mpr rfl
  have listed : Dict.getOr (configured columns entries) "key_columns" (.list (default.map .str)) =
      .list (columns.map .str) := rfl
  unfold keyColumns
  rw [listed]
  simp only [texts]

theorem mapping_configured (entries : Dict) : mapping (configured columns entries) = .ok entries := rfl

def tried (fallbacks parts : List String) : List String :=
  composed parts :: ((if 1 < parts.length then [composed (wildcard parts)] else []) ++ parts.take 1 ++ fallbacks)

theorem resolveClassPath_erase {key : String} (entries : Dict)
    (untried : ∀ other ∈ tried ["default"] (keyParts P columns row), other ≠ key) :
    resolveClassPath P row (configured columns (erase entries key)) = resolveClassPath P row (configured columns entries) := by
  unfold resolveClassPath
  rw [keyColumns_configured, keyColumns_configured, mapping_configured, mapping_configured]
  simp only [ok_bind]
  unfold tried at untried
  generalize keyParts P columns row = parts at untried ⊢
  simp only [List.forall_mem_cons, List.forall_mem_append, List.not_mem_nil, false_implies, implies_true, and_true] at untried
  rcases untried with ⟨whole, ⟨wild, first⟩, fallback⟩
  have wildcards : ∀ found, (if 1 < parts.length then orGet (erase entries key) found (composed (wildcard parts)) else found) =
      if 1 < parts.length then orGet entries found (composed (wildcard parts)) else found := by
    intro found
    by_cases more : 1 < parts.length
    · rw [if_pos more] at wild
      rw [if_pos more, if_pos more, orGet_erase (wild _ List.mem_cons_self)]
    · rw [if_neg more, if_neg more]
  rw [get_erase whole, wildcards]
  cases parts with
  | nil => rw [orGet_erase fallback]
  | cons head rest =>
      have here : head ≠ key := first head (by rw [List.take_succ_cons]; exact List.mem_cons_self)
      dsimp only
      rw [orGet_erase here, orGet_erase fallback]

theorem findSome_erase {key : String} {keys : List String} (entries : Dict) (untried : ∀ other ∈ keys, other ≠ key) :
    keys.findSome? (fun other => (erase entries key).lookup other) = keys.findSome? (fun other => entries.lookup other) := by
  induction keys with
  | nil => rfl
  | cons other keys ih =>
      rw [List.forall_mem_cons] at untried
      rw [List.findSome?_cons, List.findSome?_cons, lookup_erase, if_neg untried.1, ih untried.2]

theorem selectProxy_erase {key : String} (entries : Dict)
    (untried : ∀ other ∈ tried ["default", "*:*"] (keyParts P columns row), other ≠ key) :
    selectProxy P row (configured columns (erase entries key)) = selectProxy P row (configured columns entries) := by
  unfold selectProxy
  rw [keyColumns_configured, keyColumns_configured, mapping_configured, mapping_configured]
  simp only [ok_bind]
  have same := findSome_erase entries untried
  unfold candidates
  unfold tried at same
  rw [same]

/-- The key of an entry of the mapping is tried for a separated row only if the entry is meant for it. -/
theorem meant_of_tried (laws : CaseLaws P) {parts entry : List String} (separated : Separated parts)
    (valued : Valued P parts) (full : Valued P entry) (length : entry.length = parts.length) {key : String}
    (tries : key = composed parts ∨ 1 < parts.length ∧ key = composed (wildcard parts) ∨ key ∈ parts.take 1)
    (same : composed entry = key) : entry = parts ∨ entry = wildcard parts := by
  rcases tries with rfl | ⟨more, rfl⟩ | first
  · exact .inl (separated.unique valued full length same)
  · have present : parts ≠ [] := by
      rintro rfl
      cases more
    have wild : entry.length = (wildcard parts).length := by
      rw [wildcard, List.length_append, List.length_dropLast, List.length_singleton]
      omega
    exact .inr ((separated.wildcard present).unique (valued.wildcard laws) full wild same)
  · cases parts with
    | nil => cases first
    | cons head rest =>
        rw [List.take_succ_cons, List.take_zero, List.mem_singleton] at first
        cases rest with
        | nil =>
            rcases List.length_eq_one_iff.mp length with ⟨value, rfl⟩
            rw [first] at same
            exact .inl (congrArg (fun text => [text]) ((String.intercalate_singleton).symm.trans same))
        | cons next rest =>
            have plain := (separated [] head.toList ((next :: rest).map String.toList) rfl).1 (List.cons_ne_nil _ _)
            cases entry with
            | nil => cases length
            | cons value values =>
                have behind : values ≠ [] := by
                  rintro rfl
                  cases length
                have colon := composed_tail (full value List.mem_cons_self).1 behind
                rw [same, first] at colon
                exact absurd colon plain

/-- An entry that is not meant for a separated row is not tried for it. -/
theorem untried_of_unmeant (laws : CaseLaws P) {fallbacks entry : List String}
    (separated : Separated (keyParts P columns row))
    (composes : entry = keyParts P columns other ∨ entry = wildcard (keyParts P columns other))
    (unmeant : ¬Meant fallbacks entry (keyParts P columns row)) :
    ∀ key ∈ tried fallbacks (keyParts P columns row), key ≠ composed entry := by
  intro key member same
  by_cases reserved : key ∈ fallbacks
  · rw [same] at reserved
    exact unmeant (.inr (.inr reserved))
  have tries : key = composed (keyParts P columns row) ∨
      1 < (keyParts P columns row).length ∧ key = composed (wildcard (keyParts P columns row)) ∨
      key ∈ (keyParts P columns row).take 1 := by
    rcases List.mem_cons.mp member with whole | member
    · exact .inl whole
    · rcases List.mem_append.mp member with member | fallback
      · rcases List.mem_append.mp member with wild | first
        · by_cases more : 1 < (keyParts P columns row).length
          · rw [if_pos more, List.mem_singleton] at wild
            exact .inr (.inl ⟨more, wild⟩)
          · rw [if_neg more] at wild
            cases wild
        · exact .inr (.inr first)
      · exact absurd fallback reserved
  have full : Valued P entry := by
    rcases composes with rfl | rfl
    · exact keyParts_valued laws
    · exact (keyParts_valued laws).wildcard laws
  by_cases none : columns = []
  · -- without columns the wildcard is one part longer than the tuple of every row
    subst none
    rcases composes with rfl | rfl
    · exact unmeant (.inl rfl)
    · rcases tries with whole | ⟨more, -⟩ | first
      · have apart : composed [] ≠ composed ["*"] := by decide
        exact apart (whole.symm.trans same)
      · cases more
      · cases first
  · have length : entry.length = (keyParts P columns row).length := by
      rcases composes with rfl | rfl
      · rw [keyParts_length, keyParts_length]
      · have positive : 0 < columns.length := List.length_pos_iff.mpr none
        rw [wildcard, List.length_append, List.length_dropLast, List.length_singleton, keyParts_length, keyParts_length]
        omega
    rcases meant_of_tried laws separated (keyParts_valued laws) full length tries same.symm with whole | wild
    · exact unmeant (.inl whole)
    · exact unmeant (.inr (.inl wild))

theorem mapping_keys_unambiguous (laws : CaseLaws P) (distinct : columns.Nodup) :
    Unambiguous P columns row ↔ Separated (keyParts P columns row) := by
  constructor
  · intro unambiguous
    by_contra loose
    rcases key_shared laws distinct loose with ⟨other, differs, same⟩
    exact unambiguous.keys other differs same
  · intro separated
    refine ⟨?_, ?_, ?_⟩
    · intro other differs same
      have length : (keyParts P columns other).length = (keyParts P columns row).length := by
        rw [keyParts_length, keyParts_length]
      exact differs (separated.unique (keyParts_valued laws) (keyParts_valued laws) length same)
    · intro other entry entries composes unmeant
      exact resolveClassPath_erase entries (untried_of_unmeant laws separated composes unmeant)
    · intro other entry entries composes unmeant
      exact selectProxy_erase entries (untried_of_unmeant laws separated composes unmeant)

/-- The bench's platform where `repr` returns a text, with the lower case of ASCII. -/
def legible : Platform Platform.SealedToken :=
  { Platform.bench with repr := fun _ => "object", lower := fun text => String.ofList (text.toList.map Char.toLower) }

theorem toLower_toLower (c : Char) : c.toLower.toLower = c.toLower := by
  by_cases upper : c.val ≥ 'A'.val ∧ c.val ≤ 'Z'.val
  · have lower : ¬(c.val + ('a'.val - 'A'.val) ≥ 'A'.val ∧ c.val + ('a'.val - 'A'.val) ≤ 'Z'.val) := by
      have small : c.val.toNat ≤ 90 := upper.2
      have large : 65 ≤ c.val.toNat := upper.1
      rintro ⟨-, still⟩
      have bound : (c.val + 32).toNat ≤ 90 := still
      rw [UInt32.toNat_add] at bound
      have value : (32 : UInt32).toNat = 32 := rfl
      omega
    have lowered : c.toLower.val = c.val + ('a'.val - 'A'.val) := congrArg Char.val (dif_pos upper)
    apply dif_neg
    rw [lowered]
    exact lower
  · have plain : c.toLower = c := dif_neg upper
    rw [plain, plain]

theorem toString_ne_empty (n : Int) : toString n ≠ "" := by
  cases n with
  | ofNat m =>
      change String.ofList (Nat.toDigits 10 m) ≠ ""
      intro empty
      exact Nat.toDigits_ne_nil (String.ofList_eq_empty_iff.mp empty)
  | negSucc m =>
      intro empty
      have first : (toString (Int.negSucc m)).toList = '-' :: (Nat.repr (m + 1)).toList := by
        rw [← List.singleton_append]
        exact String.toList_append
      rw [empty] at first
      cases first

theorem caseLaws_legible : CaseLaws legible where
  lower_lower text := by
    have again : (text.toList.map Char.toLower).map Char.toLower = text.toList.map Char.toLower := by
      rw [List.map_map]
      exact List.map_congr_left fun c _ => toLower_toLower c
    change String.ofList ((String.ofList (text.toList.map Char.toLower)).toList.map Char.toLower) = _
    rw [String.toList_ofList, again]
    rfl
  lower_append a b := by
    change String.ofList ((a ++ b).toList.map Char.toLower) = a ++ b ↔
      String.ofList (a.toList.map Char.toLower) = a ∧ String.ofList (b.toList.map Char.toLower) = b
    rw [← String.toList_inj, ← String.toList_inj, ← String.toList_inj, String.toList_ofList, String.toList_ofList,
      String.toList_ofList, String.toList_append, List.map_append]
    constructor
    · intro same
      exact List.append_inj same (List.length_map _)
    · rintro ⟨left, right⟩
      rw [left, right]
  lower_empty text empty := by
    change String.ofList (text.toList.map Char.toLower) = "" at empty
    exact String.toList_eq_nil_iff.mp (List.map_eq_nil_iff.mp (String.ofList_eq_empty_iff.mp empty))
  lower_star := by decide
  lower_colon := by decide
  str_empty value truthy := by
    cases value with
    | str text => exact bne_iff_ne.mp truthy
    | none => cases truthy
    | bool b =>
        cases b with
        | true => decide
        | false => cases truthy
    | int n => exact toString_ne_empty n
    | float | list | dict =>
        change "object" ≠ ""
        decide

theorem separated_of_free {parts : List String} (free : ∀ part ∈ parts, ':' ∉ part.toList) : Separated parts := by
  intro before part after split
  have listed : part ∈ parts.map String.toList := by
    rw [split]
    exact List.mem_append_right before List.mem_cons_self
  rcases List.mem_map.mp listed with ⟨text, member, rfl⟩
  exact ⟨fun _ inside => free text member (List.mem_of_mem_tail inside),
    fun _ inside => free text member (List.dropLast_subset _ inside)⟩

/-- A row with a value missing. -/
theorem mapping_keys_unambiguous_bench :
    Unambiguous legible ["vendor", "software"] [("vendor", .str "Cisco"), ("software", .none)] := by
  have distinct : ["vendor", "software"].Nodup := by decide
  have parts : keyParts legible ["vendor", "software"] [("vendor", .str "Cisco"), ("software", .none)] = ["cisco", "*"] := by
    decide
  apply (mapping_keys_unambiguous caseLaws_legible distinct).mpr
  rw [parts]
  apply separated_of_free
  rw [List.forall_mem_cons, List.forall_mem_singleton]
  exact ⟨by decide, by decide⟩

def xr : Dict := [("vendor", .str "Cisco:IOS"), ("software", .str "XR")]

/-- A row shares its key with another one, and is given the client of a third one through its first value. -/
theorem colon_keys_shared :
    ¬Unambiguous legible ["vendor", "software"] xr ∧
    ∃ other entries, ¬Meant ["default"] (keyParts legible ["vendor", "software"] other)
        (keyParts legible ["vendor", "software"] xr) ∧
      entries = [(composed (keyParts legible ["vendor", "software"] other), Value.str "ios")] ∧
      (resolveClassPath legible xr (configured ["vendor", "software"] entries)).toOption = some (.str "ios") := by
  constructor
  · intro unambiguous
    exact unambiguous.keys [("vendor", .str "cisco"), ("software", .str "ios:xr")] (by decide) (by decide)
  · refine ⟨[("vendor", .str "cisco"), ("software", .str "ios")], _, ?_, rfl, by decide⟩
    unfold Meant
    decide

end NetworkGateway.Factories
