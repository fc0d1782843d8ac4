import Mathlib.Data.List.TakeWhile
import NetworkGateway.Api.StaticRoutes
import NetworkGateway.Dal.Bench
import NetworkGateway.Proofs.Checks

/-! The body of a static-route request against `_validate_static_route`. -/

namespace NetworkGateway.Api

open Library.Dict Library.Result Pydantic Store

/-- What `ipaddress` reads and prints without a scope: a prefix has at most 64 characters, an address at most 45, and a
printed prefix is an address, a slash and up to three digits. -/
structure IpTexts {Token : Type} (P : Platform Token) : Prop extends P.IpLaws where
  network_length : ∀ text network, P.ipNetwork text = some network → prefixShape text = true → '%' ∉ text.toList →
    text.length ≤ 64
  address_length : ∀ text address, P.ipAddress text = some address → '%' ∉ text.toList →
    1 ≤ text.length ∧ text.length ≤ 45
  network_text : ∀ text network, P.ipNetwork text = some network → '%' ∉ text.toList →
    prefixShape (P.strNetwork network) = true ∧ '%' ∉ (P.strNetwork network).toList
  address_text : ∀ text address, P.ipAddress text = some address → '%' ∉ text.toList →
    '%' ∉ (P.strAddress address).toList

/-! The two patterns. -/

theorem span_unscoped {text : List Char} (absent : '%' ∉ text) :
    text.takeWhile (fun c => c != '/' && c != '%') = text.takeWhile (· != '/') ∧
      text.dropWhile (fun c => c != '/' && c != '%') = text.dropWhile (· != '/') := by
  induction text with
  | nil => exact ⟨rfl, rfl⟩
  | cons c rest ih =>
      rw [List.mem_cons, not_or] at absent
      have unscoped : (c != '%') = true := bne_iff_ne.mpr (Ne.symm absent.1)
      rcases ih absent.2 with ⟨taken, dropped⟩
      simp only [List.takeWhile_cons, List.dropWhile_cons, unscoped, Bool.and_true, taken, dropped, and_self]

theorem routePattern_unscoped {text : String} (absent : '%' ∉ text.toList) : routePattern text = prefixShape text := by
  rcases span_unscoped absent with ⟨taken, dropped⟩
  simp only [routePattern, taken, dropped]
  rfl

theorem not_mem_of_routePattern {text : String} (accepted : routePattern text = true) : '%' ∉ text.toList := by
  unfold routePattern at accepted
  dsimp only at accepted
  split at accepted
  · rename_i length rest
    simp only [Bool.and_eq_true, List.all_eq_true] at accepted
    intro percent
    rw [← List.takeWhile_append_dropWhile (p := fun c => c != '/' && c != '%') (l := text.toList), rest,
      List.mem_append, List.mem_cons] at percent
    rcases percent with before | slash | digit
    · simpa using List.mem_takeWhile_imp before
    · cases slash
    · exact absurd (accepted.2 _ digit) (by decide)
  · cases accepted

theorem routePattern_iff {text : String} :
    routePattern text = true ↔ prefixShape text = true ∧ '%' ∉ text.toList := by
  constructor
  · intro accepted
    have absent := not_mem_of_routePattern accepted
    rw [← routePattern_unscoped absent]
    exact ⟨accepted, absent⟩
  · rintro ⟨shape, absent⟩
    rw [routePattern_unscoped absent]
    exact shape

/-! The fields. -/

section

variable {value dumped : Value}

def interfaceValue (interface : Option Interface) : Value := Value.ofOption (interface.map Interface.text)

theorem routeInterface_ok {interface : Option Interface} :
    routeInterface value = .ok interface ↔ value = interfaceValue interface := by
  cases value with
  | none => cases interface <;> simp [routeInterface, interfaceValue, Value.ofOption]
  | str name =>
      unfold routeInterface Interface.ofText interfaceValue
      dsimp only
      constructor
      · intro read
        split at read
        · rename_i held found
          rw [← Except.ok.inj read]
          have named := List.find?_some found
          have same : held.text = name := by simpa using named
          rw [← same]
          rfl
        · cases read
      · intro same
        cases interface with
        | none => cases same
        | some held =>
            rw [Value.str.inj same]
            cases held <;> rfl
  | bool | int | float | list | dict => cases interface <;> simp [routeInterface, interfaceValue, Value.ofOption]

theorem interfaceType_ok : optional (literal ["eth0", "eth1", "lo"]) value = .ok dumped ↔
    ∃ interface, value = interfaceValue interface ∧ dumped = interfaceValue interface := by
  rw [optional_ok, literal_ok]
  constructor
  · rintro (⟨rfl, rfl⟩ | ⟨-, listed, rfl⟩)
    · exact ⟨none, rfl, rfl⟩
    · cases dumped with
      | str name =>
          simp only [Value.isOneOf, List.contains_iff_mem, List.mem_cons, List.not_mem_nil, or_false] at listed
          rcases listed with rfl | rfl | rfl
          · exact ⟨some .eth0, rfl, rfl⟩
          · exact ⟨some .eth1, rfl, rfl⟩
          · exact ⟨some .lo, rfl, rfl⟩
      | none | bool | int | float | list | dict => cases listed
  · rintro ⟨interface, rfl, rfl⟩
    cases interface with
    | none => exact .inl ⟨rfl, rfl⟩
    | some held => exact .inr ⟨nofun, by cases held <;> rfl, rfl⟩

theorem metricType_ok : integer 0 65535 value = .ok dumped ↔
    ∃ number : Metric, value = .int number.1 ∧ dumped = .int number.1 := by
  rw [integer_ok]
  constructor
  · rintro ⟨n, rfl, within, rfl⟩
    exact ⟨⟨n, within⟩, rfl, rfl⟩
  · rintro ⟨number, rfl, rfl⟩
    exact ⟨number.1, rfl, number.2, rfl⟩

end

/-! The two validators. -/

def payload (values : RouteValues) : Dict :=
  [("destination", .str values.destination), ("next_hop", .str values.nextHop),
   ("interface", interfaceValue values.interface), ("metric", .int values.metric.1),
   ("description", .str values.description), ("enabled", .bool values.enabled)]

section

variable {Token : Type} {P : Platform Token} {value dumped : Value} {entries : Dict} {values : RouteValues}
  {destination nextHop : String}

def Canonical (P : Platform Token) (destination nextHop : String) (values : RouteValues) : Prop :=
  ∃ network address, P.ipNetwork destination = some network ∧ P.ipAddress nextHop = some address ∧
    network.version = address.version ∧ values.destination = P.strNetwork network ∧
    values.nextHop = P.strAddress address

/-- What both validators ask of a payload and make of it; the model's defaults stand for missing fields. -/
structure RouteAccepted (P : Platform Token) (entries : Dict) (destination nextHop : String) (values : RouteValues) :
    Prop where
  named : ∀ held ∈ entries, held.1 ∈ staticRouteFields
  network : entries.lookup "destination" = some (.str destination)
  hop : entries.lookup "next_hop" = some (.str nextHop)
  shape : prefixShape destination = true
  unscoped : '%' ∉ destination.toList ∧ '%' ∉ nextHop.toList
  canonical : Canonical P destination nextHop values
  interface : (entries.lookup "interface").getD .none = interfaceValue values.interface
  metric : (entries.lookup "metric").getD (.int 1) = .int values.metric.1
  description : (entries.lookup "description").getD (.str "") = .str values.description
  short : values.description.length ≤ 200
  enabled : (entries.lookup "enabled").getD (.bool true) = .bool values.enabled

theorem getD_present {key : String} {default : Value} (present : (entries.lookup key).isSome = true) :
    (entries.lookup key).getD default = Dict.get entries key := by
  rcases Option.isSome_iff_exists.mp present with ⟨held, found⟩
  rw [Dict.get_eq, found]
  rfl

theorem lookup_of_get {key text : String} (found : Dict.get entries key = .str text) :
    entries.lookup key = some (.str text) := by
  rw [Dict.get_eq] at found
  cases bound : entries.lookup key with
  | none =>
      rw [bound] at found
      cases found
  | some held =>
      rw [bound, Option.getD_some] at found
      rw [found]

/-- `_validate_static_route` also asks for every field, and for a description without NUL. -/
theorem validateStaticRoute_iff : validateStaticRoute P value = .ok values ↔ ∃ entries destination nextHop,
    value = .dict entries ∧ RouteAccepted P entries destination nextHop values ∧
      (∀ field ∈ staticRouteFields, (entries.lookup field).isSome = true) ∧
      Char.ofNat 0 ∉ values.description.toList := by
  cases value with
  | dict entries =>
      have split : ∀ {destination nextHop}, Canonical P destination nextHop values ↔
          ∃ network address, P.ipNetwork destination = some network ∧ P.ipAddress nextHop = some address ∧
            network.version = address.version ∧
              (values.destination, values.nextHop) = (P.strNetwork network, P.strAddress address) := by
        simp only [Canonical, Prod.mk.injEq, implies_true]
      simp only [validateStaticRoute, bind_eq_ok, raiseWhen_ok, Bool.not_eq_false', Bool.and_eq_true, List.all_eq_true,
        List.contains_iff_mem, Dict.has_eq, pure_eq, Except.ok.injEq, Value.dict.injEq]
      constructor
      · rintro ⟨_, ⟨named, present⟩, ⟨_, _⟩, addresses, interface, interfaceRead, number, metricRead, description,
          descriptionRead, enabled, enabledRead, rfl⟩
        rcases routeAddresses_ok.mp addresses with ⟨destination, nextHop, network, address, first, second, shape,
          unscoped, parsed, read, family, printed⟩
        rcases text_ok.mp descriptionRead with ⟨given, held, short, clean, -, same⟩
        rw [if_neg Bool.false_ne_true] at same
        refine ⟨entries, destination, nextHop, rfl, ⟨named, lookup_of_get first, lookup_of_get second, shape, unscoped,
          split.mpr ⟨network, address, parsed, read, family, printed⟩, ?_, ?_, ?_, ?_, ?_⟩, present, ?_⟩
        · rw [getD_present (present _ (by decide))]
          exact routeInterface_ok.mp interfaceRead
        · rw [getD_present (present _ (by decide))]
          exact metric_ok.mp metricRead
        · rw [getD_present (present _ (by decide)), held, same]
        · rw [same]
          exact short
        · rw [getD_present (present _ (by decide))]
          exact routeEnabled_ok.mp enabledRead
        · rw [same]
          exact clean
      · rintro ⟨_, destination, nextHop, rfl, accepted, present, clean⟩
        rcases split.mp accepted.canonical with ⟨network, address, parsed, read, family, printed⟩
        have interface := accepted.interface
        have number := accepted.metric
        have description := accepted.description
        have enabled := accepted.enabled
        rw [getD_present (present _ (by decide))] at interface number description enabled
        refine ⟨(), ⟨accepted.named, present⟩, (values.destination, values.nextHop), routeAddresses_ok.mpr
          ⟨destination, nextHop, network, address, ?_, ?_, accepted.shape, accepted.unscoped, parsed, read, family,
            printed⟩, values.interface, routeInterface_ok.mpr interface, values.metric, metric_ok.mpr number,
          values.description, text_ok.mpr ⟨_, description, accepted.short, clean, fun required => absurd required Bool.false_ne_true, rfl⟩,
          values.enabled, routeEnabled_ok.mpr enabled, rfl⟩
        · rw [Dict.get_eq, accepted.network]
          rfl
        · rw [Dict.get_eq, accepted.hop]
          rfl
  | none | bool | int | float | list | str => simp [validateStaticRoute]

theorem read_required {α : Type} {name : String} {type : Schema} {form : α → Value} {passes : α → Prop}
    {held : String × Value} (kept : ∀ {value dumped}, type value = .ok dumped ↔
      ∃ a, value = form a ∧ passes a ∧ dumped = form a) :
    Field.read entries ⟨name, type, none⟩ = .ok held ↔
      ∃ a, entries.lookup name = some (form a) ∧ passes a ∧ held = (name, form a) := by
  rcases held with ⟨key, item⟩
  rw [read_ok]
  simp only [kept, reduceCtorEq, and_false, or_false, Prod.mk.injEq]
  constructor
  · rintro ⟨rfl, _, found, a, rfl, accepted, rfl⟩
    exact ⟨a, found, accepted, rfl, rfl⟩
  · rintro ⟨a, found, accepted, rfl, rfl⟩
    exact ⟨rfl, _, found, a, rfl, accepted, rfl⟩

theorem read_default {α : Type} {name : String} (type : Schema) (default : Value) {form : α → Value}
    {passes : α → Prop} {held : String × Value} (kept : ∀ {value dumped}, type value = .ok dumped ↔
      ∃ a, value = form a ∧ passes a ∧ dumped = form a) (accepts : type default = .ok default) :
    Field.read entries ⟨name, type, some default⟩ = .ok held ↔
      ∃ a, (entries.lookup name).getD default = form a ∧ passes a ∧ held = (name, form a) := by
  rcases held with ⟨key, item⟩
  have either : ((∃ value, entries.lookup name = some value ∧ type value = .ok item) ∨
      entries.lookup name = none ∧ some default = some item) ↔
        type ((entries.lookup name).getD default) = .ok item := by
    cases entries.lookup name with
    | some value => simp
    | none => simp [accepts]
  rw [read_ok, either, kept]
  simp only [Prod.mk.injEq]
  constructor
  · rintro ⟨rfl, a, same, accepted, rfl⟩
    exact ⟨a, same, accepted, rfl, rfl⟩
  · rintro ⟨a, same, accepted, rfl, rfl⟩
    exact ⟨rfl, a, same, accepted, rfl⟩

theorem routeFields_ok {written : Dict} : each (Field.read entries) routeFields = .ok written ↔
    ∃ destination nextHop interface, ∃ number : Metric, ∃ description enabled,
      (entries.lookup "destination" = some (.str destination) ∧
        (1 ≤ destination.length ∧ destination.length ≤ 64) ∧ routePattern destination = true) ∧
      (entries.lookup "next_hop" = some (.str nextHop) ∧ 1 ≤ nextHop.length ∧ nextHop.length ≤ 45) ∧
      (entries.lookup "interface").getD .none = interfaceValue interface ∧
      (entries.lookup "metric").getD (.int 1) = .int number.1 ∧
      ((entries.lookup "description").getD (.str "") = .str description ∧ description.length ≤ 200) ∧
      (entries.lookup "enabled").getD (.bool true) = .bool enabled ∧
      written = [("destination", .str destination), ("next_hop", .str nextHop),
        ("interface", interfaceValue interface), ("metric", .int number.1), ("description", .str description),
        ("enabled", .bool enabled)] := by
  have interfaceType : ∀ {value dumped}, optional (literal ["eth0", "eth1", "lo"]) value = .ok dumped ↔
      ∃ interface, value = interfaceValue interface ∧ True ∧ dumped = interfaceValue interface := by
    intro value dumped
    simp only [interfaceType_ok, true_and]
  have metricType : ∀ {value dumped}, integer 0 65535 value = .ok dumped ↔
      ∃ number : Metric, value = .int number.1 ∧ True ∧ dumped = .int number.1 := by
    intro value dumped
    simp only [metricType_ok, true_and]
  have enabledType : ∀ {value dumped}, boolean value = .ok dumped ↔
      ∃ enabled, value = .bool enabled ∧ True ∧ dumped = .bool enabled := by
    intro value dumped
    simp only [boolean_ok, true_and]
  unfold routeFields
  simp only [each_eq_ok, List.forall₂_cons_left_iff, List.forall₂_nil_left_iff, read_required string_ok,
    read_default _ .none interfaceType rfl, read_default _ (.int 1) metricType rfl,
    read_default (string ⟨0, 200, fun _ => true⟩) (.str "") string_ok rfl, read_default _ (.bool true) enabledType rfl,
    true_and, StringType.accepts, Bool.and_eq_true, decide_eq_true_iff, and_true]
  constructor
  · rintro ⟨_, _, ⟨destination, first, bounds, rfl⟩, ⟨_, _, ⟨nextHop, second, limits, rfl⟩,
      ⟨_, _, ⟨interface, third, rfl⟩, ⟨_, _, ⟨number, fourth, rfl⟩, ⟨_, _, ⟨description, fifth, short, rfl⟩,
        ⟨_, _, ⟨enabled, sixth, rfl⟩, rfl, rfl⟩, rfl⟩, rfl⟩, rfl⟩, rfl⟩, rfl⟩
    exact ⟨destination, nextHop, interface, number, description, enabled, ⟨first, bounds⟩, ⟨second, limits⟩, third,
      fourth, ⟨fifth, short.2⟩, sixth, rfl⟩
  · rintro ⟨destination, nextHop, interface, number, description, enabled, ⟨first, bounds⟩, ⟨second, limits⟩, third,
      fourth, ⟨fifth, short⟩, sixth, rfl⟩
    exact ⟨_, _, ⟨destination, first, bounds, rfl⟩, ⟨_, _, ⟨nextHop, second, limits, rfl⟩,
      ⟨_, _, ⟨interface, third, rfl⟩, ⟨_, _, ⟨number, fourth, rfl⟩, ⟨_, _, ⟨description, fifth, ⟨Nat.zero_le _, short⟩,
        rfl⟩, ⟨_, _, ⟨enabled, sixth, rfl⟩, rfl, rfl⟩, rfl⟩, rfl⟩, rfl⟩, rfl⟩, rfl⟩

theorem networkFamily_ok {validated : Dict} {held : RouteValues} :
    networkFamily P (payload held) = .ok validated ↔ '%' ∉ held.nextHop.toList ∧
      ∃ destination nextHop, Canonical P held.destination held.nextHop { held with destination, nextHop } ∧
        validated = payload { held with destination, nextHop } := by
  have first : Dict.get (payload held) "destination" = .str held.destination := rfl
  have second : Dict.get (payload held) "next_hop" = .str held.nextHop := rfl
  unfold networkFamily Canonical
  rw [first, second]
  dsimp only
  cases parsed : P.ipNetwork held.destination with
  | none => simp
  | some network =>
      cases read : P.ipAddress held.nextHop with
      | none => simp
      | some address =>
          dsimp only
          by_cases refused : network.version ≠ address.version ∨ '%' ∈ held.nextHop.toList
          · rw [if_pos refused]
            constructor
            · nofun
            · rintro ⟨unscoped, _, _, ⟨_, _, same, other, family, -⟩, -⟩
              rw [← Option.some.inj same, ← Option.some.inj other] at family
              rcases refused with differs | percent
              · exact absurd family differs
              · exact absurd percent unscoped
          · rw [if_neg refused]
            rw [not_or, not_not] at refused
            constructor
            · intro same
              refine ⟨refused.2, _, _, ⟨network, address, rfl, rfl, refused.1, rfl, rfl⟩, ?_⟩
              exact (Except.ok.inj same).symm
            · rintro ⟨-, _, _, ⟨_, _, same, other, -, rfl, rfl⟩, rfl⟩
              rw [← Option.some.inj same, ← Option.some.inj other]
              rfl

theorem staticRouteWrite_iff (texts : IpTexts P) : staticRouteWrite P value = .ok dumped ↔
    ∃ entries destination nextHop values, value = .dict entries ∧ RouteAccepted P entries destination nextHop values ∧
      dumped = .dict (payload values) := by
  unfold staticRouteWrite
  rw [model_ok]
  constructor
  · rintro ⟨entries, _, _, rfl, named, fields, family, rfl⟩
    rcases routeFields_ok.mp fields with ⟨destination, nextHop, interface, number, description, enabled, first, second,
      third, fourth, fifth, sixth, rfl⟩
    rcases routePattern_iff.mp first.2.2 with ⟨shape, unscoped⟩
    rcases (@networkFamily_ok _ P _ ⟨destination, nextHop, interface, number, description, enabled⟩).mp family with
      ⟨plain, _, _, canonical, rfl⟩
    exact ⟨entries, destination, nextHop, _, rfl, ⟨named, first.1, second.1, shape, ⟨unscoped, plain⟩, canonical, third,
      fourth, fifth.1, fifth.2, sixth⟩, rfl⟩
  · rintro ⟨entries, destination, nextHop, values, rfl, accepted, rfl⟩
    rcases accepted.canonical with ⟨network, address, parsed, read, -⟩
    have long := texts.network_length _ _ parsed accepted.shape accepted.unscoped.1
    have bounds := texts.address_length _ _ read accepted.unscoped.2
    have nonempty : 1 ≤ destination.length := by
      have shape := accepted.shape
      by_contra empty
      have blank : destination = "" := String.length_eq_zero_iff.mp (by omega)
      rw [blank] at shape
      cases shape
    refine ⟨entries, _, _, rfl, accepted.named, routeFields_ok.mpr ⟨destination, nextHop, values.interface, values.metric,
      values.description, values.enabled, ⟨accepted.network, ⟨nonempty, long⟩, ?_⟩, ⟨accepted.hop, bounds⟩,
      accepted.interface, accepted.metric, ⟨accepted.description, accepted.short⟩, accepted.enabled, rfl⟩, ?_, rfl⟩
    · exact routePattern_iff.mpr ⟨accepted.shape, accepted.unscoped.1⟩
    · exact (@networkFamily_ok _ P _ { values with destination, nextHop }).mpr
        ⟨accepted.unscoped.2, values.destination, values.nextHop, accepted.canonical, rfl⟩

theorem RouteAccepted.again (texts : IpTexts P) (accepted : RouteAccepted P entries destination nextHop values) :
    RouteAccepted P (payload values) values.destination values.nextHop values := by
  rcases accepted.canonical with ⟨network, address, parsed, read, family, printed, shown⟩
  have text := texts.network_text _ _ parsed accepted.unscoped.1
  refine ⟨by simp [payload, staticRouteFields], rfl, rfl, ?_, ⟨?_, ?_⟩, ⟨network, address, ?_, ?_, family, printed, shown⟩,
    rfl, rfl, rfl, accepted.short, rfl⟩
  · rw [printed]
    exact text.1
  · rw [printed]
    exact text.2
  · rw [shown]
    exact texts.address_text _ _ read accepted.unscoped.2
  · rw [printed]
    exact texts.parse_strNetwork _ _ parsed
  · rw [shown]
    exact texts.parse_strAddress _ _ read

/-- The body's description, if it gives one, has no NUL. -/
def NulFree (value : Value) : Prop :=
  ∀ entries description, value = .dict entries → entries.lookup "description" = some (.str description) →
    Char.ofNat 0 ∉ description.toList

theorem RouteAccepted.nulFree (accepted : RouteAccepted P entries destination nextHop values) :
    NulFree (.dict entries) ↔ Char.ofNat 0 ∉ values.description.toList := by
  have same := accepted.description
  constructor
  · intro clean
    cases found : entries.lookup "description" with
    | none =>
        rw [found] at same
        rw [← Value.str.inj same]
        exact List.not_mem_nil
    | some held =>
        rw [found, Option.getD_some] at same
        exact clean entries _ rfl (found.trans (congrArg some same))
  · intro clean _ description again found
    rw [← Value.dict.inj again] at found
    rw [found, Option.getD_some] at same
    rw [Value.str.inj same]
    exact clean

theorem payload_present : ∀ field ∈ staticRouteFields, ((payload values).lookup field).isSome = true := by
  intro field listed
  simp only [staticRouteFields, List.mem_cons, List.not_mem_nil, or_false] at listed
  rcases listed with rfl | rfl | rfl | rfl | rfl | rfl <;> rfl

end

/-- The two validators of a static route: what the store accepts the model accepts with the same result, either leaves
its own result as it is, and the store leaves the model's dump as it is exactly where the description has no NUL. -/
theorem route_validators_agree {Token : Type} {P : Platform Token} (texts : IpTexts P) (value : Value) :
    (∀ dump, staticRouteWrite P value = .ok dump →
      ((∃ values, validateStaticRoute P dump = .ok values ∧ dump = .dict (payload values)) ↔ NulFree value)) ∧
    (∀ values, validateStaticRoute P value = .ok values → staticRouteWrite P value = .ok (.dict (payload values))) ∧
    (∀ dump, staticRouteWrite P value = .ok dump → staticRouteWrite P dump = .ok dump) ∧
    ∀ values, validateStaticRoute P value = .ok values → validateStaticRoute P (.dict (payload values)) = .ok values := by
  refine ⟨?_, ?_, ?_, ?_⟩
  · intro dump dumped
    rcases (staticRouteWrite_iff texts).mp dumped with ⟨entries, destination, nextHop, values, rfl, accepted, rfl⟩
    rw [accepted.nulFree]
    constructor
    · rintro ⟨read, stored, same⟩
      rcases validateStaticRoute_iff.mp stored with ⟨_, _, _, -, -, -, clean⟩
      have description : values.description = read.description := by
        have fields := congrArg (fun held => Dict.get held "description") (Value.dict.inj same)
        exact Value.str.inj fields
      rw [description]
      exact clean
    · intro clean
      exact ⟨values, validateStaticRoute_iff.mpr ⟨_, _, _, rfl, accepted.again texts, payload_present, clean⟩, rfl⟩
  · intro values stored
    rcases validateStaticRoute_iff.mp stored with ⟨entries, destination, nextHop, rfl, accepted, -⟩
    exact (staticRouteWrite_iff texts).mpr ⟨entries, destination, nextHop, values, rfl, accepted, rfl⟩
  · intro dump dumped
    rcases (staticRouteWrite_iff texts).mp dumped with ⟨entries, destination, nextHop, values, rfl, accepted, rfl⟩
    exact (staticRouteWrite_iff texts).mpr ⟨_, _, _, values, rfl, accepted.again texts, rfl⟩
  · intro values stored
    rcases validateStaticRoute_iff.mp stored with ⟨_, _, _, rfl, accepted, -, clean⟩
    exact validateStaticRoute_iff.mpr ⟨_, _, _, rfl, accepted.again texts, payload_present, clean⟩

theorem bench_ipTexts : IpTexts Platform.bench where
  toIpLaws := Platform.bench_ipLaws
  network_length text network found _ _ := by
    have listed := mem_of_lookup found
    simp only [Platform.benchNetworks, List.mem_cons, Prod.mk.injEq, List.not_mem_nil, or_false] at listed
    rcases listed with ⟨rfl, -⟩ | ⟨rfl, -⟩ | ⟨rfl, -⟩ <;> decide
  address_length text address found _ := by
    have listed := mem_of_lookup found
    simp only [Platform.benchAddresses, List.mem_cons, Prod.mk.injEq, List.not_mem_nil, or_false] at listed
    rcases listed with ⟨rfl, -⟩ | ⟨rfl, -⟩ <;> decide
  network_text text network found _ := by
    have listed := mem_of_lookup found
    simp only [Platform.benchNetworks, List.mem_cons, Prod.mk.injEq, List.not_mem_nil, or_false] at listed
    rcases listed with ⟨-, rfl⟩ | ⟨-, rfl⟩ | ⟨-, rfl⟩ <;> decide
  address_text text address found _ := by
    have listed := mem_of_lookup found
    simp only [Platform.benchAddresses, List.mem_cons, Prod.mk.injEq, List.not_mem_nil, or_false] at listed
    rcases listed with ⟨-, rfl⟩ | ⟨-, rfl⟩ <;> decide

def routeBody (description : String) : Value :=
  .dict [("destination", .str "203.0.113.0/24"), ("next_hop", .str "192.0.2.1"), ("description", .str description)]

theorem route_validators_agree_bench :
    ∃ dump, staticRouteWrite Platform.bench (routeBody "uplink") = .ok dump ∧
      ∃ values, validateStaticRoute Platform.bench dump = .ok values ∧ dump = .dict (payload values) := by
  refine ⟨_, rfl, ((route_validators_agree bench_ipTexts (routeBody "uplink")).1 _ rfl).mpr ?_⟩
  intro entries description same found
  rw [← Value.dict.inj same] at found
  rw [← Value.str.inj (Option.some.inj found)]
  decide

/-- The model accepts a NUL in the description, which the store refuses. -/
theorem nul_description_refused :
    ∃ dump, staticRouteWrite Platform.bench (routeBody "bad\x00value") = .ok dump ∧
      validateStaticRoute Platform.bench dump = .error (.store "Invalid route description." 400) :=
  ⟨_, rfl, rfl⟩

end NetworkGateway.Api
