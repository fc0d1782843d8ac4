import NetworkGateway.Library.Related
import NetworkGateway.Dal.Resources

/-! Two states of the store that differ only in what their secrets decrypt to give the
same public views. -/

namespace NetworkGateway

open Library.Dict Library.Result Library.Table

mutual
/-- Equal except for the values under secret fields, which are empty together. -/
def Alike : Value → Value → Prop
  | .dict a, w => match w with
    | .dict b => AlikeEntries a b
    | _ => False
  | v, w => v = w
def AlikeEntries : Dict → Dict → Prop
  | [], b => b = []
  | (k, v) :: a, b => match b with
    | [] => False
    | (l, w) :: b => k = l ∧ (if k ∈ Secrets.secretFields then v.truthy = w.truthy else Alike v w) ∧ AlikeEntries a b
end

def Under (key : String) (v w : Value) : Prop :=
  if key ∈ Secrets.secretFields then v.truthy = w.truthy else Alike v w

theorem alikeEntries_iff (a b : Dict) : AlikeEntries a b ↔ Related Under a b := by
  induction a generalizing b with
  | nil =>
      constructor
      · intro empty
        rw [show b = [] from empty]
        exact .nil
      · intro related
        cases related
        rfl
  | cons head tail ih =>
      rcases head with ⟨k, v⟩
      cases b with
      | nil => exact ⟨False.elim, nofun⟩
      | cons other rest =>
          rcases other with ⟨l, w⟩
          have tails := ih rest
          constructor
          · rintro ⟨same, values, entries⟩
            exact List.Forall₂.cons ⟨same, values⟩ (tails.mp entries)
          · intro related
            cases related with
            | cons first entries => exact ⟨first.1, first.2, tails.mpr entries⟩

@[simp] theorem alike_dict (a b : Dict) : Alike (.dict a) (.dict b) ↔ Related Under a b :=
  alikeEntries_iff a b

mutual
theorem Alike.refl : (v : Value) → Alike v v
  | .none | .bool _ | .int _ | .float _ | .str _ | .list _ => rfl
  | .dict a => AlikeEntries.refl a
theorem AlikeEntries.refl : (a : Dict) → AlikeEntries a a
  | [] => rfl
  | (k, v) :: a => by
      refine ⟨rfl, ?_, AlikeEntries.refl a⟩
      split
      · rfl
      · exact Alike.refl v
end

theorem Under.refl (key : String) (v : Value) : Under key v v := by
  unfold Under
  split
  · rfl
  · exact Alike.refl v

theorem related_refl (entries : Dict) : Related Under entries entries :=
  Related.refl Under.refl entries

theorem Alike.cases {v w : Value} (alike : Alike v w) :
    (∃ a b, v = .dict a ∧ w = .dict b ∧ Related Under a b) ∨ v.isDict = false ∧ v = w := by
  cases v with
  | dict a =>
      cases w with
      | dict b => exact .inl ⟨a, b, rfl, rfl, (alike_dict a b).mp alike⟩
      | none | bool | int | float | str | list => exact False.elim alike
  | none | bool | int | float | str | list => exact .inr ⟨rfl, alike⟩

theorem Alike.truthy {v w : Value} (alike : Alike v w) : v.truthy = w.truthy := by
  rcases alike.cases with ⟨a, b, rfl, rfl, related⟩ | ⟨_, rfl⟩
  · rw [Value.truthy_dict, Value.truthy_dict, related.isEmpty]
  · rfl

/-- A function that does not look into dictionaries cannot tell alike values apart. -/
theorem Alike.congr {α : Type} {f : Value → α} (constant : ∀ a b, f (.dict a) = f (.dict b)) {v w : Value}
    (alike : Alike v w) : f v = f w := by
  rcases alike.cases with ⟨a, b, rfl, rfl, _⟩ | ⟨_, rfl⟩
  · exact constant a b
  · rfl

theorem Under.truthy {key : String} {v w : Value} (under : Under key v w) : v.truthy = w.truthy := by
  unfold Under at under
  split at under
  · exact under
  · exact under.truthy

theorem Under.alike {key : String} {v w : Value} (under : Under key v w) (plain : key ∉ Secrets.secretFields) :
    Alike v w := by
  unfold Under at under
  rw [if_neg plain] at under
  exact under

theorem Alike.under {v w : Value} (alike : Alike v w) (key : String) : Under key v w := by
  unfold Under
  split
  · exact alike.truthy
  · exact alike

section

variable {a b : Dict}

theorem get_truthy (related : Related Under a b) (key : String) :
    (Dict.get a key).truthy = (Dict.get b key).truthy :=
  (related.getD (Under.refl key .none)).truthy

theorem get_alike (related : Related Under a b) (key : String) (plain : key ∉ Secrets.secretFields) :
    Alike (Dict.get a key) (Dict.get b key) :=
  (related.getD (Under.refl key .none)).alike plain

theorem getOr_alike (related : Related Under a b) (key : String) (plain : key ∉ Secrets.secretFields)
    {v w : Value} (defaults : Alike v w) : Alike (Dict.getOr a key v) (Dict.getOr b key w) :=
  (related.getD (defaults.under key)).alike plain

end

/-! Public fields hide every difference. -/

mutual
theorem publicFields_alike : (v w : Value) → Alike v w → Secrets.publicFields v = Secrets.publicFields w
  | .none, _, alike | .bool _, _, alike | .int _, _, alike | .float _, _, alike | .str _, _, alike
  | .list _, _, alike => congrArg Secrets.publicFields alike
  | .dict a, .dict b, alike => congrArg Value.dict (publicEntries_alike a b alike)
theorem publicEntries_alike : (a b : Dict) → AlikeEntries a b → Secrets.publicEntries a = Secrets.publicEntries b
  | [], b, alike => by rw [show b = [] from alike]
  | (k, v) :: a, (l, w) :: b, alike => by
      rcases alike with ⟨same, values, entries⟩
      rw [Secrets.publicEntries, Secrets.publicEntries, publicEntries_alike a b entries, ← same]
      by_cases hidden : k ∈ Secrets.secretFields
      · have listed : Secrets.secretFields.contains k = true := by simpa using hidden
        rw [if_pos listed, if_pos listed]
      · have unlisted : ¬ Secrets.secretFields.contains k = true := by simpa using hidden
        rw [if_neg hidden] at values
        rw [if_neg unlisted, if_neg unlisted, publicFields_alike v w values]
end

namespace Store

mutual
theorem publicRuntime_alike : (v w : Value) → Alike v w → publicRuntime v = publicRuntime w
  | .none, _, alike | .bool _, _, alike | .int _, _, alike | .float _, _, alike | .str _, _, alike
  | .list _, _, alike => congrArg publicRuntime alike
  | .dict a, .dict b, alike => by
      have entries : AlikeEntries a b := alike
      have related := (alikeEntries_iff a b).mp entries
      rw [publicRuntime, publicRuntime, publicEntries_alike a b entries, get_truthy related "password",
        publicConnector_alike a b entries]
theorem publicConnector_alike : (a b : Dict) → AlikeEntries a b → publicConnector a = publicConnector b
  | [], b, alike => by rw [show b = [] from alike]
  | (k, v) :: a, (l, w) :: b, alike => by
      rcases alike with ⟨same, values, entries⟩
      rw [publicConnector, publicConnector, publicConnector_alike a b entries, ← same]
      by_cases here : k = "connector"
      · have plain : k ∉ Secrets.secretFields := by rw [here]; decide
        rw [if_neg plain] at values
        rw [if_pos here, if_pos here, publicRuntime_alike v w values]
      · rw [if_neg here, if_neg here]
end

section

variable {Token : Type} {P : Platform Token} {self : GatewayStore}

/-- Two tokens that both open to alike values, or fail to open alike. -/
def TokensAlike (P : Platform Token) (self : GatewayStore) (t u : Token) : Prop :=
  Agree Alike (Secrets.decrypt P self t) (Secrets.decrypt P self u)

structure RoleAlike (P : Platform Token) (store : GatewayStore) (x y : RoleAccountRow Token) : Prop where
  columns : { x with secrets := y.secrets } = y
  secrets : TokensAlike P store x.secrets y.secrets

structure ProxyAlike (P : Platform Token) (store : GatewayStore) (x y : ProxyRow Token) : Prop where
  columns : { x with configuration := y.configuration, secrets := y.secrets } = y
  configuration : Related Under x.configuration y.configuration
  secrets : TokensAlike P store x.secrets y.secrets

structure ConnectionAlike (P : Platform Token) (store : GatewayStore) (x y : ConnectionRow Token) : Prop where
  columns : { x with configuration := y.configuration, secrets := y.secrets } = y
  configuration : Related Under x.configuration y.configuration
  secrets : TokensAlike P store x.secrets y.secrets

/-- Two states of the inventory that differ only in the values of stored secrets. -/
structure InventoryAlike (P : Platform Token) (store : GatewayStore) (db other : Db Token) : Prop where
  roleAccounts : List.Forall₂ (RoleAlike P store) db.roleAccounts other.roleAccounts
  proxies : List.Forall₂ (ProxyAlike P store) db.proxies other.proxies
  connections : List.Forall₂ (ConnectionAlike P store) db.connections other.connections

theorem RoleAlike.id {x y : RoleAccountRow Token} (alike : RoleAlike P self x y) : x.id = y.id := by
  rw [← alike.columns]

theorem ProxyAlike.id {x y : ProxyRow Token} (alike : ProxyAlike P self x y) : x.id = y.id := by
  rw [← alike.columns]

theorem ConnectionAlike.id {x y : ConnectionRow Token} (alike : ConnectionAlike P self x y) : x.id = y.id := by
  rw [← alike.columns]

/-! The steps of a resolution agree on alike rows. -/

theorem asDict_agree {v w : Value} (alike : Alike v w) : Agree (Related Under) (asDict v) (asDict w) := by
  rcases alike.cases with ⟨a, b, rfl, rfl, related⟩ | ⟨_, rfl⟩
  · exact .ok related
  · cases v with
    | dict a => exact .ok (related_refl a)
    | none | bool | int | float | str | list => exact .error _

theorem opened_agree {α : Type} {R : α → α → Prop} {t u : Token} (tokens : TokensAlike P self t u)
    {f g : Dict → Except PyError α} (rest : ∀ a b, Related Under a b → Agree R (f a) (g b)) :
    Agree R (do let secrets ← asDict (← Secrets.decrypt P self t); f secrets)
      (do let secrets ← asDict (← Secrets.decrypt P self u); g secrets) := by
  apply tokens.bind
  intro v w alike
  exact (asDict_agree alike).bind rest

theorem addConnectorSecrets_agree {a b : Dict} {v w : Value} (results : Related Under a b) (secrets : Alike v w) :
    Agree (Related Under) (addConnectorSecrets a v) (addConnectorSecrets b w) := by
  unfold addConnectorSecrets
  rw [secrets.truthy]
  split
  · have connectors := getOr_alike results "connector" (by decide) (Alike.refl (.dict []))
    apply (asDict_agree connectors).bind
    intro c d inner
    apply (asDict_agree secrets).bind
    intro e f held
    have merged : Alike (.dict (merge c e)) (.dict (merge d f)) := (alike_dict _ _).mpr (inner.merge held)
    exact .ok (results.set (merged.under "connector"))
  · exact .ok results

theorem storedProfile_agree (columns : Dict) {a b : Dict} {t u : Token} (configurations : Related Under a b)
    (tokens : TokensAlike P self t u) :
    Agree (Related Under) (storedProfile P self columns a t) (storedProfile P self columns b u) := by
  apply opened_agree tokens
  intro c d held
  have merged := ((related_refl columns).merge configurations).merge (held.erase "connector")
  exact addConnectorSecrets_agree merged (get_alike held _ (by decide))

theorem RoleAlike.storedProfile {x y : RoleAccountRow Token} (alike : RoleAlike P self x y) :
    Agree (Related Under) (storedProfile P self x.columns [] x.secrets)
      (storedProfile P self y.columns [] y.secrets) := by
  have columns : x.columns = y.columns := by rw [← alike.columns]; rfl
  rw [columns]
  exact storedProfile_agree y.columns .nil alike.secrets

theorem ProxyAlike.storedProfile {x y : ProxyRow Token} (alike : ProxyAlike P self x y) :
    Agree (Related Under) (storedProfile P self x.columns x.configuration x.secrets)
      (storedProfile P self y.columns y.configuration y.secrets) := by
  have columns : x.columns = y.columns := by rw [← alike.columns]; rfl
  rw [columns]
  exact storedProfile_agree y.columns alike.configuration alike.secrets

theorem ConnectionAlike.storedProfile {x y : ConnectionRow Token} (alike : ConnectionAlike P self x y) :
    Agree (Related Under) (storedProfile P self x.columns x.configuration x.secrets)
      (storedProfile P self y.columns y.configuration y.secrets) := by
  have columns : x.columns = y.columns := by rw [← alike.columns]; rfl
  rw [columns]
  exact storedProfile_agree y.columns alike.configuration alike.secrets

theorem row_agree {ρ : Type} {R : ρ → ρ → Prop} {x y : Option ρ}
    (found : x = none ∧ y = none ∨ ∃ a b, x = some a ∧ y = some b ∧ R a b) : Agree R (row x) (row y) := by
  rcases found with ⟨rfl, rfl⟩ | ⟨a, b, rfl, rfl, rows⟩
  · exact .error notFound
  · exact .ok rows

variable {db other : Db Token}

theorem findRole_agree (alike : InventoryAlike P self db other) (id : String) :
    Agree (RoleAlike P self) (row (find RoleAccountRow.id db.roleAccounts id))
      (row (find RoleAccountRow.id other.roleAccounts id)) :=
  row_agree (find_related (fun _ _ rows => rows.id) alike.roleAccounts id)

theorem findProxy_agree (alike : InventoryAlike P self db other) (id : String) :
    Agree (ProxyAlike P self) (row (find ProxyRow.id db.proxies id)) (row (find ProxyRow.id other.proxies id)) :=
  row_agree (find_related (fun _ _ rows => rows.id) alike.proxies id)

theorem findConnection_agree (alike : InventoryAlike P self db other) (id : String) :
    Agree (ConnectionAlike P self) (row (find ConnectionRow.id db.connections id))
      (row (find ConnectionRow.id other.connections id)) :=
  row_agree (find_related (fun _ _ rows => rows.id) alike.connections id)

theorem roleCredentials_agree (alike : InventoryAlike P self db other) (roleId : Value) :
    Agree (Related Under) (roleCredentials P self db roleId) (roleCredentials P self other roleId) := by
  cases roleId with
  | str id =>
      apply (findRole_agree alike id).bind
      intro x y rows
      apply opened_agree rows.secrets
      intro a b held
      rw [← rows.columns]
      exact .ok ((related_refl _).merge held)
  | none | bool | int | float | list | dict => exact .error notFound

/-- References are looked up only when they are texts, and alike texts are equal. -/
theorem roleCredentials_alike (alike : InventoryAlike P self db other) {v w : Value} (references : Alike v w) :
    Agree (Related Under) (roleCredentials P self db v) (roleCredentials P self other w) := by
  have same : roleCredentials P self db v = roleCredentials P self db w :=
    references.congr (fun _ _ => rfl)
  rw [same]
  exact roleCredentials_agree alike w

theorem withRole_agree (alike : InventoryAlike P self db other) {a b : Dict} (profiles : Related Under a b) :
    Agree (Related Under) (withRole P self db a) (withRole P self other b) := by
  have references := get_alike profiles "role_account_id" (by decide)
  unfold withRole
  rw [references.truthy]
  split
  · apply (roleCredentials_alike alike references).bind
    intro c d credentials
    exact .ok (profiles.merge credentials)
  · exact .ok profiles

theorem resolveProxy_agree (alike : InventoryAlike P self db other) {x y : ProxyRow Token}
    (rows : ProxyAlike P self x y) :
    Agree (Related Under) (resolveProxy P self db x) (resolveProxy P self other y) := by
  apply rows.storedProfile.bind
  intro a b profiles
  exact withRole_agree alike profiles

theorem findProxy_alike (alike : InventoryAlike P self db other) {v w : Value} (references : Alike v w) :
    Agree (ProxyAlike P self) (findProxy db v) (findProxy other w) := by
  have same : findProxy db v = findProxy db w := references.congr (fun _ _ => rfl)
  rw [same]
  cases w with
  | str id => exact findProxy_agree alike id
  | none | bool | int | float | list | dict => exact .error notFound

theorem withProxy_agree (alike : InventoryAlike P self db other) {a b : Dict} (profiles : Related Under a b) :
    Agree (Related Under) (withProxy P self db a) (withProxy P self other b) := by
  have references := get_alike profiles "proxy_id" (by decide)
  unfold withProxy
  rw [references.truthy]
  split
  · apply (findProxy_alike alike references).bind
    intro x y rows
    apply (resolveProxy_agree alike rows).bind
    intro c d connectors
    have values : Alike (.dict c) (.dict d) := (alike_dict c d).mpr connectors
    exact .ok (profiles.set (values.under "connector"))
  · exact .ok profiles

theorem resolveConnection_agree (alike : InventoryAlike P self db other) (itemId : String) :
    Agree (Related Under) (resolveConnection P self db itemId) (resolveConnection P self other itemId) := by
  apply (findConnection_agree alike itemId).bind
  intro x y rows
  apply rows.storedProfile.bind
  intro a b stored
  apply (withRole_agree alike (stored.setDefault (Under.refl "client_type" (.str "network")))).bind
  intro c d credentialed
  apply (withProxy_agree alike credentialed).bind
  intro e f accessed
  exact .ok (accessed.setDefault (Under.refl "connector" (.dict [("type", .str "direct")])))

/-! Public views of alike rows are equal. -/

theorem publicRole_alike {x y : RoleAccountRow Token} (rows : RoleAlike P self x y) :
    publicRole P self x = publicRole P self y := by
  apply Agree.eq
  apply opened_agree rows.secrets
  intro a b held
  have columns : x.columns = y.columns := by rw [← rows.columns]; rfl
  rw [columns, get_truthy held "password", get_truthy held "private_key"]
  exact .ok rfl

theorem publicRuntime_agree {x y : Except PyError Dict} (profiles : Agree (Related Under) x y) :
    (do publicRuntime (.dict (← x))) = (do publicRuntime (.dict (← y))) := by
  apply Agree.eq
  apply profiles.bind
  intro a b related
  exact Agree.of_eq (publicRuntime_alike _ _ ((alike_dict a b).mpr related))

theorem publicProxy_alike (alike : InventoryAlike P self db other) {x y : ProxyRow Token}
    (rows : ProxyAlike P self x y) : publicProxy P self db x = publicProxy P self other y :=
  publicRuntime_agree (resolveProxy_agree alike rows)

theorem publicConnection_alike (alike : InventoryAlike P self db other) {x y : ConnectionRow Token}
    (rows : ConnectionAlike P self x y) : publicConnection P self db x = publicConnection P self other y := by
  unfold publicConnection
  rw [rows.id]
  exact publicRuntime_agree (resolveConnection_agree alike y.id)

theorem byName_related {ρ : Type} {R : ρ → ρ → Prop} {name id : ρ → String} (names : ∀ x y, R x y → name x = name y)
    (ids : ∀ x y, R x y → id x = id y) {rows others : List ρ} (related : List.Forall₂ R rows others) :
    List.Forall₂ R (byName name id rows) (byName name id others) := by
  apply forall₂_insertionSort _ _ related
  intro x y v w first second
  rw [names x v first, names y w second, ids x v first, ids y w second]

theorem list_alike (alike : InventoryAlike P self db other) (resource : String) :
    list P self db resource = list P self other resource := by
  unfold list
  congr 1
  funext resource
  congr 1
  cases resource with
  | roleAccounts =>
      apply each_related (fun _ _ rows => publicRole_alike rows)
      exact byName_related (fun _ _ rows => by rw [← rows.columns]) (fun _ _ rows => rows.id) alike.roleAccounts
  | proxies =>
      apply each_related (fun _ _ rows => publicProxy_alike alike rows)
      exact byName_related (fun _ _ rows => by rw [← rows.columns]) (fun _ _ rows => rows.id) alike.proxies
  | connections =>
      apply each_related (fun _ _ rows => publicConnection_alike alike rows)
      exact byName_related (fun _ _ rows => by rw [← rows.columns]) (fun _ _ rows => rows.id) alike.connections

theorem get_same (alike : InventoryAlike P self db other) (resource itemId : String) :
    get P self db resource itemId = get P self other resource itemId := by
  unfold get
  congr 1
  funext resource
  congr 1
  apply Agree.eq
  cases resource with
  | roleAccounts =>
      exact (findRole_agree alike itemId).bind (fun _ _ rows => Agree.of_eq (publicRole_alike rows))
  | proxies =>
      exact (findProxy_agree alike itemId).bind (fun _ _ rows => Agree.of_eq (publicProxy_alike alike rows))
  | connections =>
      exact (findConnection_agree alike itemId).bind (fun _ _ rows => Agree.of_eq (publicConnection_alike alike rows))

end

end Store

end NetworkGateway
