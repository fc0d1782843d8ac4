import NetworkGateway.Proofs.FieldForms

/-! The form of a stored connector, and what a save keeps of the one before it. -/

namespace NetworkGateway.Store

open Library.Dict Library.Result Library.Table Library.Update

/-- A decoded connector has its own fields only, each in its form, and none beside `direct`. -/
structure ConnectorFormed (connector : Dict) : Prop where
  typed : ∃ kind, connector.lookup "type" = some (.str (kindText kind))
  bare : connector.lookup "type" = some (.str "direct") → ∀ key ≠ "type", connector.lookup key = none
  listed : ∀ key ∉ connectorFields, connector.lookup key = none
  shown : ∀ key value, connector.lookup key = some value → Secrets.publicFields value = value
  formed : ∀ key, connectorForm key (connector.lookup key) = connector.lookup key

def ConnectorStart (before : Dict) : Prop := before = [] ∨ ConnectorFormed before

theorem connectorForm_none (key : String) : connectorForm key none = none := by
  unfold connectorForm loginForm endpoint
  simp

theorem ConnectorStart.formed {before : Dict} (start : ConnectorStart before) (key : String) :
    connectorForm key (before.lookup key) = before.lookup key := by
  rcases start with rfl | formed
  · exact connectorForm_none key
  · exact formed.formed key

theorem ConnectorStart.shown {before : Dict} (start : ConnectorStart before) {key : String} {value : Value}
    (found : before.lookup key = some value) : Secrets.publicFields value = value := by
  rcases start with rfl | formed
  · cases found
  · exact formed.shown key value found

theorem ConnectorStart.paths {before : Dict} (start : ConnectorStart before) : PathsSet before := by
  intro key trusted null
  have formed := start.formed key
  have unreplaced : ¬((false = true) ∧ key ∈ inlineFields) := fun all => Bool.false_ne_true all.1
  rw [null, connectorForm, loginForm, if_neg unreplaced, if_pos trusted] at formed
  cases formed

/-- What a save keeps of the connector before it: nothing when the type changes. -/
def connectorBase (before value : Dict) : Dict :=
  if !before.isEmpty && Dict.get before "type" != connectorType before value then [] else before

theorem lookup_workingConnector_base (before value : Dict) (key : String) :
    (workingConnector before value).lookup key = (value.lookup key).or ((connectorBase before value).lookup key) := by
  unfold workingConnector connectorBase
  split
  · rw [List.lookup_nil, Option.or_none]
  · exact lookup_merge before value key

theorem ConnectorStart.base {before : Dict} (start : ConnectorStart before) (value : Dict) :
    ConnectorStart (connectorBase before value) := by
  unfold connectorBase
  split
  · exact .inl rfl
  · exact start

theorem connectorBase_same {before value : Dict} (same : connectorType before value = Dict.get before "type") :
    connectorBase before value = before := by
  unfold connectorBase
  rw [same]
  simp

theorem connectorBase_changed {before value : Dict} (formed : ConnectorFormed before)
    (changed : connectorType before value ≠ Dict.get before "type") : connectorBase before value = [] := by
  have filled : before ≠ [] := by
    intro empty
    rcases formed.typed with ⟨kind, typed⟩
    rw [empty] at typed
    cases typed
  unfold connectorBase
  apply if_pos
  rw [Bool.and_eq_true, bne_iff_ne]
  exact ⟨by simpa using filled, Ne.symm changed⟩

/-! Accepted connectors. -/

theorem text_shown {value : Value} {label : String} {limit : Nat} {read : String}
    (accepted : text value label false limit = .ok read) : Secrets.publicFields value = value := by
  rcases text_ok.mp accepted with ⟨s, rfl, -⟩
  rfl

theorem timeout_shown {value : Value} {seconds : Timeout} (accepted : timeout value = .ok seconds) :
    Secrets.publicFields value = value := by
  unfold timeout at accepted
  split at accepted
  · rfl
  · rfl
  · cases accepted

section

variable {Token : Type} {P : Platform Token} {before value result : Dict} {kind : ProxyType} {host : String} {number : Port}

namespace ConnectorSaved

theorem named_shown (saved : ConnectorSaved P before value kind host number result) (listed : Within value connectorFields)
    {key : String} (other : key ∉ ["type", "host", "port"]) {given : Value} (named : value.lookup key = some given)
    (held : (workingConnector before value).lookup key = some given) : Secrets.publicFields given = given := by
  by_cases checked : key ∈ checkedFields
  · rcases saved.texts key checked given named with ⟨_, rfl⟩ | ⟨read, accepted⟩
    · rfl
    · exact text_shown accepted
  · have field : key ∈ connectorFields := by
      by_contra outside
      rw [listed.lookup outside] at named
      cases named
    have timed : key = "timeout_seconds" := by
      simp only [connectorFields, checkedFields, inlineFields, List.cons_append, List.nil_append, List.mem_cons,
        List.not_mem_nil, or_false, not_or] at field other checked
      rcases field with rfl | rfl | rfl | rfl | rfl | rfl | rfl | rfl | rfl | rfl <;> simp_all
    rw [timed] at held
    rcases saved.timed given held with ⟨seconds, accepted⟩
    exact timeout_shown accepted

theorem result_type (saved : ConnectorSaved P before value kind host number result) :
    result.lookup "type" = some (.str kind.text) := by
  rw [saved.written, lookup_cleared, if_neg (fun all => absurd all.1 (by decide))]
  simp

theorem result_host (saved : ConnectorSaved P before value kind host number result) :
    result.lookup "host" = some (.str host) := by
  rw [saved.written, lookup_cleared, if_neg (fun all => absurd all.1 (by decide))]
  simp

theorem result_port (saved : ConnectorSaved P before value kind host number result) :
    result.lookup "port" = some (.int number.1) := by
  rw [saved.written, lookup_cleared, if_neg (fun all => absurd all.1 (by decide))]
  simp

theorem shown (saved : ConnectorSaved P before value kind host number result) (listed : Within value connectorFields)
    (start : ConnectorStart before) {key : String} {held : Value} (found : result.lookup key = some held) :
    Secrets.publicFields held = held := by
  by_cases endpoint : key ∈ ["type", "host", "port"]
  · simp only [List.mem_cons, List.not_mem_nil, or_false] at endpoint
    rcases endpoint with rfl | rfl | rfl
    · cases saved.result_type.symm.trans found
      rfl
    · cases saved.result_host.symm.trans found
      rfl
    · cases saved.result_port.symm.trans found
      rfl
  · rw [saved.lookup endpoint] at found
    split at found
    · cases found
    · cases named : value.lookup key with
      | some given =>
          have same := found
          rw [lookup_workingConnector_base, named] at same
          cases same
          exact saved.named_shown listed endpoint named found
      | none =>
          rw [lookup_workingConnector_base, named] at found
          exact (start.base value).shown found

theorem base_type (saved : ConnectorSaved P before value kind host number result) :
    (value.lookup "type").or ((connectorBase before value).lookup "type") = some (.str kind.text) := by
  have typed := saved.typed
  have indirect : Value.str kind.text ≠ .str "direct" := fun same => kind.text_ne_direct (Value.str.inj same)
  have read : ((value.lookup "type").or (before.lookup "type")).getD (.str "direct") = .str kind.text := by
    rw [← lookup_merge]
    exact typed
  by_cases same : connectorType before value = Dict.get before "type"
  · rw [connectorBase_same same]
    cases held : (value.lookup "type").or (before.lookup "type") with
    | none =>
        rw [held] at read
        exact absurd read.symm indirect
    | some type =>
        rw [held] at read
        exact congrArg some read
  · cases named : value.lookup "type" with
    | some type =>
        rw [named] at read
        exact congrArg some read
    | none =>
        -- a type that is not named is the one before, or `direct`
        rw [named, Option.none_or] at read
        cases held : before.lookup "type" with
        | none =>
            rw [held] at read
            exact absurd read.symm indirect
        | some type =>
            rw [held] at read
            refine absurd ?_ same
            rw [typed, Dict.get_eq, held, ← read]
            rfl

/-- A stored connector has the fields of the payload over those kept, each in its form. -/
theorem stored (saved : ConnectorSaved P before value kind host number result) (listed : Within value connectorFields)
    (start : ConnectorStart before) (key : String) :
    (storedConnector result).lookup key =
      updated (connectorForm key) (value.lookup key) ((connectorBase before value).lookup key) := by
  have unreplaced : ∀ key, ¬((false = true) ∧ key ∈ inlineFields) := fun _ all => Bool.false_ne_true all.1
  unfold updated
  by_cases own : key ∈ ["type", "host", "port"]
  · have merged := lookup_workingConnector_base before value
    simp only [List.mem_cons, List.not_mem_nil, or_false] at own
    rcases own with rfl | rfl | rfl
    · rw [lookup_storedConnector, if_neg (by decide), saved.result_type, saved.base_type]
      rfl
    · rw [lookup_storedConnector, if_neg (by decide), saved.result_host, ← merged]
      exact (stripped_of_text saved.hosted).symm
    · rw [lookup_storedConnector, if_neg (by decide), saved.result_port, ← merged,
        lookup_of_get (port_ok.mp saved.ported) (by simp)]
      rfl
  · have plain : ∀ held : Option Value, result.lookup key = held → held.map Secrets.publicFields = held := by
      intro held found
      cases held with
      | none => rfl
      | some given => exact congrArg some (saved.shown listed start found)
    rw [lookup_storedConnector, connectorForm, loginForm, if_neg (unreplaced key), plain _ rfl, saved.lookup own,
      lookup_workingConnector_base]
    by_cases trusted : key ∈ trustPaths
    · have visible : key ∉ Secrets.secretFields := by
        simp only [trustPaths, List.mem_cons, List.not_mem_nil, or_false] at trusted
        rcases trusted with rfl | rfl <;> decide
      rw [if_neg visible, if_pos trusted, filter_path _ ((start.base value).paths key trusted)]
      simp [trusted]
    · have uncleared : ¬(key ∈ trustPaths ∧ value.lookup key = some .none) := fun all => trusted all.1
      have other : key ≠ "host" := by
        intro same
        rw [same] at own
        exact own (by decide)
      rw [if_neg trusted, if_neg uncleared, endpoint, if_neg other]

theorem stored_formed (saved : ConnectorSaved P before value kind host number result)
    (listed : Within value connectorFields) (start : ConnectorStart before)
    (known : ∀ key ∉ connectorFields, before.lookup key = none) : ConnectorFormed (storedConnector result) := by
  have read := saved.stored listed start
  have type : (storedConnector result).lookup "type" = some (.str kind.text) := by
    rw [lookup_storedConnector, if_neg (by decide), saved.result_type]
    rfl
  have indirect : kind.text ≠ "direct" := kind.text_ne_direct
  refine ⟨⟨some kind, type⟩, ?_, ?_, ?_, ?_⟩
  · intro direct
    exact absurd (Value.str.inj (Option.some.inj (type.symm.trans direct))) indirect
  · intro key outside
    have unbased : (connectorBase before value).lookup key = none := by
      unfold connectorBase
      split
      · rfl
      · exact known key outside
    rw [read, listed.lookup outside, unbased]
    exact connectorForm_none key
  · intro key held found
    rw [lookup_storedConnector] at found
    split at found
    · have kept := (Option.filter_eq_some_iff.mp found).1
      exact saved.shown listed start kept
    · rcases Option.map_eq_some_iff.mp found with ⟨given, kept, same⟩
      rw [saved.shown listed start kept] at same
      rw [← same]
      exact saved.shown listed start kept
  · intro key
    rw [read]
    exact updated_formed (loginForm_idempotent endpoint_idempotent false key)

theorem congr (saved : ConnectorSaved P before value kind host number result) {before' value' : Dict}
    (typed : connectorType before' value' = .str kind.text) (values : Same value' value)
    (works : Same (workingConnector before' value') (workingConnector before value)) :
    ∃ result', ConnectorSaved P before' value' kind host number result' ∧ Same result' result := by
  let result' := cleared value' (set (set (set (workingConnector before' value') "type" (.str kind.text))
    "host" (.str host)) "port" (.int number.1))
  have same : Same result' result := by
    intro key
    rw [saved.written, lookup_cleared, lookup_cleared, values key]
    simp only [lookup_set, works key]
  have holding : ∀ key, holds result' key = holds result key := fun key => holds_congr (same key)
  refine ⟨result', ⟨typed, ?_, ?_, ?_, ?_, rfl, ?_, ?_⟩, same⟩
  · rw [Dict.get_eq, works]
    exact saved.hosted
  · rw [Dict.get_eq, works]
    exact saved.ported
  · rw [works]
    exact saved.timed
  · intro key checked
    unfold FieldText
    rw [values]
    exact saved.texts key checked
  · have equal : holds result' = holds result := funext holding
    rw [equal]
    exact saved.consistent
  · rw [holding, Dict.get_eq, Dict.get_eq, same, same]
    exact saved.key

/-- The same payload over what it was stored as is accepted again, with the same result. -/
theorem again (saved : ConnectorSaved P before value kind host number result) (listed : Within value connectorFields)
    (start : ConnectorStart before) :
    ∃ result', ConnectorSaved P (storedConnector result) value kind host number result' ∧ Same result' result := by
  have read := saved.stored listed start
  have type : (storedConnector result).lookup "type" = some (.str kind.text) := by
    rw [lookup_storedConnector, if_neg (by decide), saved.result_type]
    rfl
  have typed : connectorType (storedConnector result) value = .str kind.text := by
    have formed := (start.base value).formed "type"
    rw [connectorType, Dict.getOr, lookup_merge, read, or_updated formed, saved.base_type]
    rfl
  apply saved.congr typed (fun _ => rfl)
  intro key
  have kept : connectorBase (storedConnector result) value = storedConnector result := by
    apply connectorBase_same
    rw [typed, Dict.get_eq, type]
    rfl
  rw [lookup_workingConnector_base, lookup_workingConnector_base, kept, read,
    or_updated ((start.base value).formed key)]

end ConnectorSaved

end

theorem direct_formed : ConnectorFormed [("type", .str "direct")] := by
  refine ⟨⟨none, rfl⟩, ?_, ?_, ?_, ?_⟩
  · intro _ key other
    rw [lookup_cons_key, if_neg other]
    rfl
  · intro key outside
    exact direct_plain.listed key outside
  · intro key value found
    rw [lookup_cons_key] at found
    split at found
    · cases found
      rfl
    · cases found
  · intro key
    rw [lookup_cons_key]
    split
    · rename_i same
      rw [same]
      rfl
    · exact connectorForm_none key

/-! What an update leaves of a connector. -/

/-- What is named is taken in its form; a direct connector takes nothing. -/
structure ConnectorTaken (given new : Dict) : Prop where
  type : ∀ value, given.lookup "type" = some value → new.lookup "type" = some value
  named : new.lookup "type" ≠ some (.str "direct") →
    ∀ key value, given.lookup key = some value → new.lookup key = connectorForm key (some value)
  direct : new.lookup "type" = some (.str "direct") → ∀ key ≠ "type", new.lookup key = none

/-- Unnamed fields stay as they are while the type does, and go when it changes. -/
structure ConnectorFrame (given old new : Dict) : Prop extends ConnectorTaken given new where
  same : new.lookup "type" = old.lookup "type" → ∀ key, given.lookup key = none → new.lookup key = old.lookup key
  changed : new.lookup "type" ≠ old.lookup "type" → ∀ key, given.lookup key = none → new.lookup key = none

structure ConnectorMade (given new : Dict) : Prop extends ConnectorTaken given new where
  typed : new.lookup "type" = some ((given.lookup "type").getD (.str "direct"))
  unnamed : ∀ key ≠ "type", given.lookup key = none → new.lookup key = none

section

variable {Token : Type} {P : Platform Token} {before value result : Dict} {kind : ProxyType} {host : String} {number : Port}

theorem get_type {connector : Dict} {type : Value} (held : connector.lookup "type" = some type) :
    Dict.get connector "type" = type := by
  rw [Dict.get_eq, held]
  rfl

theorem ConnectorSaved.taken (saved : ConnectorSaved P before value kind host number result)
    (listed : Within value connectorFields) (start : ConnectorStart before) : ConnectorTaken value (storedConnector result) := by
  have read := saved.stored listed start
  constructor
  · intro type given
    rw [read, given]
    rfl
  · intro _ key held given
    rw [read, given]
    rfl
  · intro direct
    rw [lookup_storedConnector, if_neg (by decide), saved.result_type] at direct
    exact absurd (Value.str.inj (Option.some.inj direct)) kind.text_ne_direct

theorem direct_taken (direct : connectorType before value = .str "direct") :
    ConnectorTaken value [("type", .str "direct")] := by
  constructor
  · intro type given
    rw [connectorType, Dict.getOr, lookup_merge, given] at direct
    exact congrArg some direct.symm
  · intro indirect
    exact absurd rfl indirect
  · intro _ key other
    rw [lookup_cons_key, if_neg other]
    rfl

theorem ConnectorSaved.frame (saved : ConnectorSaved P before value kind host number result)
    (listed : Within value connectorFields) (formed : ConnectorFormed before) :
    ConnectorFrame value before (storedConnector result) := by
  have read := saved.stored listed (.inr formed)
  rcases formed.typed with ⟨old, type⟩
  have new : (storedConnector result).lookup "type" = some (.str kind.text) := by
    rw [lookup_storedConnector, if_neg (by decide), saved.result_type]
    rfl
  have typed := saved.typed
  refine ⟨saved.taken listed (.inr formed), ?_, ?_⟩
  · intro same key unnamed
    have kept : connectorBase before value = before := by
      apply connectorBase_same
      rw [typed, get_type (same.symm.trans new)]
    rw [read, kept, unnamed]
    exact updated_unnamed (formed.formed key)
  · intro changed key unnamed
    have dropped : connectorBase before value = [] := by
      apply connectorBase_changed formed
      intro same
      apply changed
      rw [new, type, ← typed, same, get_type type]
    rw [read, dropped, unnamed]
    exact connectorForm_none key

theorem direct_frame (formed : ConnectorFormed before) (direct : connectorType before value = .str "direct") :
    ConnectorFrame value before [("type", .str "direct")] := by
  rcases formed.typed with ⟨old, type⟩
  have read : ((value.lookup "type").or (before.lookup "type")).getD (.str "direct") = .str "direct" := by
    rw [← lookup_merge]
    exact direct
  refine ⟨direct_taken direct, ?_, ?_⟩
  · intro same key unnamed
    by_cases own : key = "type"
    · rw [own, same]
    · rw [formed.bare same.symm key own, lookup_cons_key, if_neg own]
      rfl
  · intro changed key unnamed
    have other : key ≠ "type" := by
      intro own
      rw [own] at unnamed
      rw [unnamed, Option.none_or, type] at read
      apply changed
      rw [type]
      exact congrArg some read.symm
    rw [lookup_cons_key, if_neg other]
    rfl

theorem ConnectorSaved.made (saved : ConnectorSaved P [] value kind host number result)
    (listed : Within value connectorFields) : ConnectorMade value (storedConnector result) := by
  have read := saved.stored listed (.inl rfl)
  have type := saved.base_type
  refine ⟨saved.taken listed (.inl rfl), ?_, ?_⟩
  · have bare : (connectorBase [] value).lookup "type" = none := rfl
    rw [bare, Option.or_none] at type
    rw [type, lookup_storedConnector, if_neg (by decide), saved.result_type]
    rfl
  · intro key _ unnamed
    have bare : (connectorBase [] value).lookup key = none := rfl
    rw [read, bare, unnamed]
    exact connectorForm_none key

theorem direct_made (direct : connectorType [] value = .str "direct") : ConnectorMade value [("type", .str "direct")] := by
  refine ⟨direct_taken direct, ?_, ?_⟩
  · have read : ((value.lookup "type").or (([] : Dict).lookup "type")).getD (.str "direct") = .str "direct" := by
      rw [← lookup_merge]
      exact direct
    rw [List.lookup_nil, Option.or_none] at read
    exact congrArg some read.symm
  · intro key other _
    rw [lookup_cons_key, if_neg other]
    rfl

end

/-! Inline connectors. -/

/-- What `_connector` returns: the direct connector, or one of a proxy type. -/
inductive ConnectorOutcome {Token : Type} (P : Platform Token) (before value : Dict) : Dict → Prop where
  | direct (typed : connectorType before value = .str "direct")
      (bare : ∀ entry ∈ value, entry.1 = "type" ∨ entry.2 = .none ∨ entry.2 = .str "") :
      ConnectorOutcome P before value [("type", .str "direct")]
  | proxied (kind : ProxyType) (host : String) (number : Port) (result : Dict)
      (saved : ConnectorSaved P before value kind host number result) : ConnectorOutcome P before value result

/-- The connector a save works on: the payload's over the stored one, the stored one once more, or `direct`. -/
inductive ConnectorSource (payload previous : Dict) : (before entries : Dict) → Prop where
  | named (before entries : Dict) (given : payload.lookup "connector" = some (.dict entries))
      (held : orEmpty (Dict.get previous "connector") = .ok before) : ConnectorSource payload previous before entries
  | stored (entries : Dict) (unnamed : payload.lookup "connector" = none)
      (held : previous.lookup "connector" = some (.dict entries)) : ConnectorSource payload previous [] entries
  | unset (unnamed : payload.lookup "connector" = none) (absent : previous.lookup "connector" = none) :
      ConnectorSource payload previous [] [("type", .str "direct")]

def AccessFormed (profile : Dict) : Prop :=
  ∀ value, profile.lookup "connector" = some value → ∃ connector, value = .dict connector ∧ ConnectorFormed connector

section

variable {Token : Type} {P : Platform Token} {before value result payload previous : Dict} {roleId proxyId : Option String}
  {access : Option Dict}

theorem connector_outcome {given held : Value} : connector P given held = .ok result ↔
    ∃ entries before, given = .dict entries ∧ Within entries connectorFields ∧ orEmpty held = .ok before ∧
      ConnectorOutcome P before entries result := by
  rw [connector_ok]
  constructor
  · intro accepted
    rcases accepted with ⟨entries, before, same, listed, start, ⟨typed, rfl, bare⟩ | ⟨kind, host, number, saved⟩⟩
    · exact ⟨entries, before, same, listed, start, .direct typed bare⟩
    · exact ⟨entries, before, same, listed, start, .proxied kind host number result saved⟩
  · intro accepted
    rcases accepted with ⟨entries, before, same, listed, start, outcome⟩
    refine ⟨entries, before, same, listed, start, ?_⟩
    cases outcome with
    | direct typed bare => exact .inl ⟨typed, rfl, bare⟩
    | proxied kind host number _ saved => exact .inr ⟨kind, host, number, saved⟩

theorem inline_iff : AccessSaved P payload previous (working previous payload roleId) none (some result) ↔
    ∃ before entries, ConnectorSource payload previous before entries ∧ Within entries connectorFields ∧
      ConnectorOutcome P before entries result := by
  have source : payload.lookup "connector" = none →
      (working previous payload roleId).lookup "connector" = previous.lookup "connector" := by
    intro unnamed
    rw [lookup_working, if_neg (by simp [trustPaths, inlineFields]), unnamed, Option.none_or]
  have given : AccessSaved P payload previous (working previous payload roleId) none (some result) ↔
      connector P (Dict.getOr payload "connector"
        (Dict.getOr (working previous payload roleId) "connector" (.dict [("type", .str "direct")])))
        (if Dict.has payload "connector" then Dict.get previous "connector" else .none) = .ok result := by
    constructor
    · intro saved
      cases saved with
      | inline _ accepted => exact accepted
    · exact .inline result
  rw [given, connector_outcome]
  cases named : payload.lookup "connector" with
  | some connector =>
      have has : Dict.has payload "connector" = true := by rw [Dict.has_eq, named]; rfl
      rw [has, if_pos rfl, Dict.getOr, named, Option.getD_some]
      constructor
      · intro accepted
        rcases accepted with ⟨entries, before, rfl, listed, held, outcome⟩
        exact ⟨before, entries, .named before entries named held, listed, outcome⟩
      · intro accepted
        rcases accepted with ⟨before, entries, source, listed, outcome⟩
        cases source with
        | named _ _ bound held =>
            cases named.symm.trans bound
            exact ⟨entries, before, rfl, listed, held, outcome⟩
        | stored _ unnamed _ => cases named.symm.trans unnamed
        | unset unnamed _ => cases named.symm.trans unnamed
  | none =>
      have has : Dict.has payload "connector" = false := by rw [Dict.has_eq, named]; rfl
      rw [has, if_neg Bool.false_ne_true, Dict.getOr, named, Option.getD_none, Dict.getOr, source named]
      constructor
      · intro accepted
        rcases accepted with ⟨entries, before, same, listed, held, outcome⟩
        cases held
        cases bound : previous.lookup "connector" with
        | some connector =>
            rw [bound] at same
            cases same
            exact ⟨[], entries, .stored entries named bound, listed, outcome⟩
        | none =>
            rw [bound] at same
            cases same
            exact ⟨[], _, .unset named bound, listed, outcome⟩
      · intro accepted
        rcases accepted with ⟨before, entries, source, listed, outcome⟩
        cases source with
        | named _ _ bound _ => cases named.symm.trans bound
        | stored _ _ bound =>
            rw [bound]
            exact ⟨entries, [], rfl, listed, rfl, outcome⟩
        | unset _ absent =>
            rw [absent]
            exact ⟨_, [], rfl, listed, rfl, outcome⟩

theorem orEmpty_stored {connector : Dict} (formed : ConnectorFormed connector) :
    orEmpty (.dict connector) = .ok connector := by
  have filled : connector ≠ [] := by
    intro empty
    rcases formed.typed with ⟨kind, typed⟩
    rw [empty] at typed
    cases typed
  unfold orEmpty
  rw [if_pos (by simpa using filled)]
  rfl

theorem ConnectorSource.start {entries : Dict} (source : ConnectorSource payload previous before entries)
    (formed : AccessFormed previous) : ConnectorStart before := by
  cases source with
  | named _ _ _ held =>
      rw [Dict.get_eq] at held
      cases bound : previous.lookup "connector" with
      | none =>
          rw [bound] at held
          cases held
          exact .inl rfl
      | some connector =>
          rcases formed connector bound with ⟨stored, rfl, fine⟩
          rw [bound] at held
          cases (orEmpty_stored fine).symm.trans held
          exact .inr fine
  | stored | unset => exact .inl rfl

namespace ConnectorOutcome

theorem formed (outcome : ConnectorOutcome P before value result) (listed : Within value connectorFields)
    (start : ConnectorStart before) : ConnectorFormed (storedConnector result) := by
  cases outcome with
  | direct => exact direct_formed
  | proxied kind host number _ saved =>
      apply saved.stored_formed listed start
      intro key outside
      rcases start with rfl | formed
      · rfl
      · exact formed.listed key outside

theorem kept (outcome : ConnectorOutcome P [] value result) (listed : Within value connectorFields)
    (formed : ConnectorFormed value) : Same (storedConnector result) value := by
  intro key
  cases outcome with
  | direct typed _ =>
      rcases formed.typed with ⟨kind, type⟩
      rw [connectorType, Dict.getOr, lookup_merge, type] at typed
      have typed : Value.str (kindText kind) = .str "direct" := typed
      rw [typed] at type
      by_cases own : key = "type"
      · rw [own, type]
        rfl
      · rw [formed.bare type key own, lookup_storedConnector, lookup_cons_key, if_neg own]
        split
        · rfl
        · rfl
  | proxied kind host number _ saved =>
      rw [saved.stored listed (.inl rfl), updated]
      have bare : (connectorBase [] value).lookup key = none := rfl
      rw [bare, Option.or_none, formed.formed key]

theorem again (outcome : ConnectorOutcome P before value result) (listed : Within value connectorFields)
    (start : ConnectorStart before) :
    ∃ result', ConnectorOutcome P (storedConnector result) value result' ∧ Same result' result := by
  cases outcome with
  | direct typed bare =>
      refine ⟨_, .direct ?_ bare, fun _ => rfl⟩
      have read : ((value.lookup "type").or (before.lookup "type")).getD (.str "direct") = .str "direct" := by
        rw [← lookup_merge]
        exact typed
      have type : (storedConnector [("type", .str "direct")]).lookup "type" = some (.str "direct") := rfl
      rw [connectorType, Dict.getOr, lookup_merge, type]
      cases named : value.lookup "type" with
      | none => rfl
      | some given =>
          rw [named] at read
          exact read
  | proxied kind host number _ saved =>
      rcases saved.again listed start with ⟨result', accepted, same⟩
      exact ⟨result', .proxied kind host number result' accepted, same⟩

theorem congr (outcome : ConnectorOutcome P [] value result) {value' : Dict} (formed : ConnectorFormed value')
    (values : Same value' value) : ∃ result', ConnectorOutcome P [] value' result' ∧ Same result' result := by
  have typed : connectorType [] value' = connectorType [] value := by
    rw [connectorType, connectorType, Dict.getOr, Dict.getOr, lookup_merge, lookup_merge, values]
  cases outcome with
  | direct type _ =>
      refine ⟨_, .direct (typed.trans type) ?_, fun _ => rfl⟩
      intro entry member
      by_contra other
      rw [not_or] at other
      have direct : value'.lookup "type" = some (.str "direct") := by
        rcases formed.typed with ⟨kind, held⟩
        have read := typed.trans type
        rw [connectorType, Dict.getOr, lookup_merge, held] at read
        rw [held]
        exact congrArg some read
      have absent := formed.bare direct entry.1 other.1
      have present := List.lookup_eq_none_iff.mp absent entry member
      simp at present
  | proxied kind host number _ saved =>
      rcases saved.congr (typed.trans saved.typed) values (fun key => by
        rw [lookup_workingConnector_nil, lookup_workingConnector_nil, values]) with ⟨result', accepted, same⟩
      exact ⟨result', .proxied kind host number result' accepted, same⟩

theorem frame (outcome : ConnectorOutcome P before value result) (listed : Within value connectorFields)
    (formed : ConnectorFormed before) : ConnectorFrame value before (storedConnector result) := by
  cases outcome with
  | direct typed _ => exact direct_frame formed typed
  | proxied kind host number _ saved => exact saved.frame listed formed

theorem made (outcome : ConnectorOutcome P [] value result) (listed : Within value connectorFields) :
    ConnectorMade value (storedConnector result) := by
  cases outcome with
  | direct typed _ => exact direct_made typed
  | proxied kind host number _ saved => exact saved.made listed

end ConnectorOutcome

theorem storedConnector_same {result' : Dict} (same : Same result' result) :
    Same (storedConnector result') (storedConnector result) := by
  intro key
  rw [lookup_storedConnector, lookup_storedConnector, same]

theorem within_of_listed {connector : Dict} (listed : ∀ key ∉ connectorFields, connector.lookup key = none) :
    Within connector connectorFields := by
  intro entry member
  by_contra outside
  have present := List.lookup_eq_none_iff.mp (listed entry.1 outside) entry member
  simp at present

theorem AccessSaved.formed (saved : AccessSaved P payload previous (working previous payload roleId) proxyId access)
    (formed : AccessFormed previous) : ∀ result, access = some result → ConnectorFormed (storedConnector result) := by
  intro result chosen
  cases saved with
  | saved => cases chosen
  | inline held accepted =>
      cases chosen
      rcases inline_iff.mp (.inline _ accepted) with ⟨before, entries, source, listed, outcome⟩
      exact outcome.formed listed (source.start formed)

theorem AccessSaved.again (saved : AccessSaved P payload previous (working previous payload roleId) proxyId access)
    (formed : AccessFormed previous) {next : Dict}
    (stored : next.lookup "connector" = access.map (fun result => .dict (storedConnector result))) :
    ∃ access', AccessSaved P payload next (working next payload roleId) proxyId access' ∧
      Option.Rel Same access' access := by
  have fine := saved.formed formed
  cases saved with
  | saved id unnamed => exact ⟨none, .saved id unnamed, .none⟩
  | inline result accepted =>
      have kept := fine result rfl
      rcases inline_iff.mp (.inline result accepted) with ⟨before, entries, source, listed, outcome⟩
      have start := source.start formed
      suffices resaved : ∃ before' entries' result', ConnectorSource payload next before' entries' ∧
          Within entries' connectorFields ∧ ConnectorOutcome P before' entries' result' ∧ Same result' result by
        rcases resaved with ⟨before', entries', result', source', listed', outcome', same⟩
        exact ⟨some result', inline_iff.mpr ⟨before', entries', source', listed', outcome'⟩, .some same⟩
      have within := within_of_listed kept.listed
      cases source with
      | named _ _ given _ =>
          rcases outcome.again listed start with ⟨result', outcome', same⟩
          refine ⟨storedConnector result, entries, result', .named _ entries given ?_, listed, outcome', same⟩
          rw [Dict.get_eq, stored]
          exact orEmpty_stored kept
      | stored _ unnamed held =>
          rcases formed _ held with ⟨connector, equal, fine⟩
          cases equal
          rcases outcome.congr kept (outcome.kept listed fine) with ⟨result', outcome', same⟩
          exact ⟨[], storedConnector result, result', .stored _ unnamed stored, within, outcome', same⟩
      | unset unnamed _ =>
          rcases outcome.congr kept (outcome.kept listed direct_formed) with ⟨result', outcome', same⟩
          exact ⟨[], storedConnector result, result', .stored _ unnamed stored, within, outcome', same⟩

end

end NetworkGateway.Store
