import NetworkGateway.Dal.Bench
import NetworkGateway.Proofs.InventorySteps
import NetworkGateway.Proofs.Views

/-! Saves of payloads that differ only in secret values, in states that differ only in them. -/

namespace NetworkGateway.Store

open Library.Dict Library.Result Library.Run Library.Table

/-! Checks of plain fields. -/

section

variable {v w : Value}

theorem text_alike (alike : Alike v w) (label : String) (required : Bool) (limit : Nat) :
    text v label required limit = text w label required limit :=
  alike.congr (f := fun value => text value label required limit) (fun _ _ => rfl)

theorem port_alike (alike : Alike v w) : port v = port w := alike.congr (fun _ _ => rfl)

theorem timeout_alike (alike : Alike v w) : timeout v = timeout w := alike.congr (fun _ _ => rfl)

theorem proxyType_alike (alike : Alike v w) : proxyType v = proxyType w := alike.congr (fun _ _ => rfl)

theorem protocol_alike (alike : Alike v w) : protocol v = protocol w := alike.congr (fun _ _ => rfl)

theorem clientType_alike (alike : Alike v w) : clientType v = clientType w := alike.congr (fun _ _ => rfl)

theorem connectorKind_alike (alike : Alike v w) : connectorKind v = connectorKind w :=
  alike.congr (fun _ _ => rfl)

theorem authenticationType_alike (alike : Alike v w) : authenticationType v = authenticationType w :=
  alike.congr (fun _ _ => rfl)

theorem equals_alike (alike : Alike v w) (plain : Value) (scalar : plain.isDict = false) :
    (v == plain) = (w == plain) := by
  rcases alike.cases with ⟨a, b, rfl, rfl, _⟩ | ⟨_, rfl⟩
  · have left : Value.dict a ≠ plain := by rintro rfl; cases scalar
    have right : Value.dict b ≠ plain := by rintro rfl; cases scalar
    rw [beq_eq_false_iff_ne.mpr left, beq_eq_false_iff_ne.mpr right]
  · rfl

theorem differs_alike (alike : Alike v w) (plain : Value) (scalar : plain.isDict = false) :
    (v != plain) = (w != plain) :=
  congrArg not (equals_alike alike plain scalar)

theorem reference_alike (alike : Alike v w) (label : String) {present known : String → Bool}
    (same : ∀ id, present id = known id) : reference v label present = reference w label known := by
  rw [funext same]
  exact alike.congr (f := fun value => reference value label known) (fun _ _ => rfl)

end

section

variable {Token : Type} {P : Platform Token} {self : GatewayStore} {db other : Db Token}
  {payload second previous former profile working : Dict}

/-! Role accounts. -/

theorem passwordSecrets_agree (payloads : Related Under payload second) (profiles : Related Under profile working)
    (switched : Bool) :
    AgreeOk (Related Under) (passwordSecrets payload profile switched) (passwordSecrets second working switched) := by
  apply (AgreeOk.checks _ _).bind
  intro _ _ _
  apply (AgreeOk.checks _ _).bind
  intro _ _ _
  have chosen : (if switched then Dict.get payload "password" else Dict.get profile "password").truthy =
      (if switched then Dict.get second "password" else Dict.get working "password").truthy := by
    split
    · exact get_truthy payloads "password"
    · exact get_truthy profiles "password"
  exact .ok (Related.cons (by exact chosen) .nil)

theorem optionalEntry {key : String} {v w : Value} (under : Under key v w) :
    Related Under (if v.truthy then [(key, v)] else []) (if w.truthy then [(key, w)] else []) := by
  rw [under.truthy]
  split
  · exact Related.cons under .nil
  · exact .nil

theorem keySecrets_agree (payloads : Related Under payload second) (previous_ : Related Under previous former)
    (profiles : Related Under profile working) (switched : Bool) :
    AgreeOk (Related Under) (keySecrets P payload previous profile switched)
      (keySecrets P second former working switched) := by
  apply (AgreeOk.checks _ _).bind
  intro _ _ _
  apply (AgreeOk.checks _ _).bind
  intro _ _ _
  apply (AgreeOk.checks _ _).bind
  intro _ _ _
  have key : (if switched then Dict.get payload "private_key" else Dict.get profile "private_key").truthy =
      (if switched then Dict.get second "private_key" else Dict.get working "private_key").truthy := by
    split
    · exact get_truthy payloads "private_key"
    · exact get_truthy profiles "private_key"
  have kept : Under "key_passphrase"
      (if switched then .str "" else Dict.getOr previous "key_passphrase" (.str ""))
      (if switched then .str "" else Dict.getOr former "key_passphrase" (.str "")) := by
    split
    · exact Under.refl _ _
    · exact previous_.getD (Under.refl _ _)
  exact .ok (Related.cons (by exact key) (optionalEntry (payloads.getD kept)))

theorem roleSecrets_agree (method : AuthenticationType) (payloads : Related Under payload second)
    (previous_ : Related Under previous former) (profiles : Related Under profile working) (switched : Bool) :
    AgreeOk (Related Under) (roleSecrets P method payload previous profile switched)
      (roleSecrets P method second former working switched) := by
  cases method with
  | password => exact passwordSecrets_agree payloads profiles switched
  | sshKey => exact keySecrets_agree payloads previous_ profiles switched

theorem encrypt_alike (laws : P.VaultLaws) (iv iv' : Nat) {a b : Dict} (held : Related Under a b) :
    TokensAlike P self (Secrets.encrypt P self iv (.dict a)) (Secrets.encrypt P self iv' (.dict b)) := by
  unfold TokensAlike
  rw [Secrets.decrypt_encrypt self laws, Secrets.decrypt_encrypt self laws]
  exact .ok ((alike_dict a b).mpr held)

theorem saveRole_agree (laws : P.VaultLaws) (iv iv' : Nat) (id : String) (payloads : Related Under payload second)
    (previous_ : Related Under previous former) :
    AgreeOk (RoleAlike P self) (saveRole P self iv id payload previous) (saveRole P self iv' id second former) := by
  have profiles := previous_.merge payloads
  apply (AgreeOk.of_eq (text_alike (get_alike profiles _ (by decide)) _ _ _)).bind
  rintro name _ rfl
  apply (AgreeOk.of_eq (text_alike (get_alike profiles _ (by decide)) _ _ _)).bind
  rintro username _ rfl
  apply (AgreeOk.of_eq (authenticationType_alike (get_alike profiles _ (by decide)))).bind
  rintro method _ rfl
  apply (AgreeOk.checks _ _).bind
  intro _ _ _
  apply (AgreeOk.checks _ _).bind
  intro _ _ _
  apply (AgreeOk.checks _ _).bind
  intro _ _ _
  have switched := differs_alike (get_alike previous_ "authentication_type" (by decide))
    (.str method.text) rfl
  rw [switched]
  apply (roleSecrets_agree method payloads previous_ profiles _).bind
  intro a b secrets
  exact .ok ⟨rfl, encrypt_alike laws iv iv' secrets⟩

/-! Proxies and connections. -/

theorem inlineField_agree (payloads : Related Under payload second) (a b : Dict) (key : String)
    (profiles : Related Under a b) :
    AgreeOk (Related Under) (inlineField payload a key) (inlineField second b key) := by
  unfold inlineField
  rcases payloads.lookup key with ⟨left, right⟩ | ⟨v, w, left, right, values⟩
  · rw [left, right]
    exact .ok profiles
  · rw [left, right]
    have cleared : (trustPaths.contains key && v == .none) = (trustPaths.contains key && w == .none) := by
      cases listed : trustPaths.contains key with
      | false => rfl
      | true =>
          have paths : ∀ path ∈ trustPaths, path ∉ Secrets.secretFields := by decide
          have plain := paths key (List.contains_iff_mem.mp listed)
          rw [equals_alike (values.alike plain) .none rfl]
    dsimp only
    rw [cleared]
    split
    · exact .ok (profiles.erase key)
    · apply (AgreeOk.checks _ _).bind
      intro _ _ _
      exact .ok profiles

theorem inlineCredentials_agree (profiles : Related Under profile working)
    (payloads : Related Under payload second) :
    AgreeOk (Related Under) (inlineCredentials profile payload) (inlineCredentials working second) := by
  apply (AgreeOk.foldlM (inlineField_agree payloads) _ profiles).bind
  intro a b changed
  apply (AgreeOk.checks _ _).bind
  intro _ _ _
  apply (AgreeOk.checks _ _).bind
  intro _ _ _
  exact .ok changed

theorem orEmpty_agree {v w : Value} (alike : Alike v w) : AgreeOk (Related Under) (orEmpty v) (orEmpty w) := by
  unfold orEmpty
  rw [alike.truthy]
  split
  · exact (asDict_agree alike).agreeOk
  · exact .ok .nil

theorem checkFields_agree {v w : Value} (alike : Alike v w) (allowed : List String) :
    AgreeOk (Related Under) (checkFields v allowed) (checkFields w allowed) := by
  constructor
  intro a b left right
  rw [(checkFields_ok left).1, (checkFields_ok right).1] at alike
  exact (alike_dict a b).mp alike

theorem proxyConnector_agree (kind : ProxyType) (profiles : Related Under profile working)
    (payloads : Related Under payload second) :
    AgreeOk (Related Under) (proxyConnector P kind profile payload) (proxyConnector P kind working second) := by
  have typed := profiles.set (Under.refl "type" (.str kind.text))
  apply (AgreeOk.of_eq (text_alike (get_alike typed _ (by decide)) _ _ _)).bind
  rintro host _ rfl
  have hosted := typed.set (Under.refl "host" (.str host))
  apply (AgreeOk.of_eq (port_alike (get_alike hosted _ (by decide)))).bind
  rintro number _ rfl
  have numbered := hosted.set (Under.refl "port" (.int number.1))
  apply (AgreeOk.checks _ _).bind
  intro _ _ _
  apply (inlineCredentials_agree numbered payloads).bind
  intro a b changed
  apply (AgreeOk.checks _ _).bind
  intro _ _ _
  exact .ok changed

theorem connector_agree {v w x y : Value} (values : Alike v w) (held : Alike x y) :
    AgreeOk (Related Under) (connector P v x) (connector P w y) := by
  apply (checkFields_agree values _).bind
  intro value other values
  apply (orEmpty_agree held).bind
  intro before after held
  have profiles := held.merge values
  apply (AgreeOk.of_eq (connectorKind_alike (getOr_alike profiles _ (by decide) (Alike.refl _)))).bind
  rintro kind _ rfl
  cases kind with
  | none =>
      apply (AgreeOk.checks _ _).bind
      intro _ _ _
      exact .ok (related_refl _)
  | some kind =>
      have types := differs_alike (get_alike held "type" (by decide)) (.str (kindText (some kind))) rfl
      dsimp only
      rw [held.isEmpty, types]
      split
      · exact proxyConnector_agree kind values values
      · exact proxyConnector_agree kind profiles values

theorem applyRole_agree (profiles : Related Under profile working) (roleId : Option String) :
    AgreeOk (Related Under) (applyRole payload profile roleId) (applyRole second working roleId) := by
  unfold applyRole
  split
  · apply (AgreeOk.checks _ _).bind
    intro _ _ _
    exact .ok (profiles.without inlineFields)
  · exact .ok profiles

structure CommonAlike (x y : CommonValues) : Prop where
  columns : { x with profile := y.profile } = y
  profile : Related Under x.profile y.profile

theorem role_present (alike : InventoryAlike P self db other) (id : String) :
    (find RoleAccountRow.id db.roleAccounts id).isSome = (find RoleAccountRow.id other.roleAccounts id).isSome := by
  rcases find_related (fun _ _ rows => rows.id) alike.roleAccounts id with ⟨left, right⟩ | ⟨_, _, left, right, _⟩
  · rw [left, right]
  · rw [left, right]
    rfl

theorem proxy_present (alike : InventoryAlike P self db other) (id : String) :
    (find ProxyRow.id db.proxies id).isSome = (find ProxyRow.id other.proxies id).isSome := by
  rcases find_related (fun _ _ rows => rows.id) alike.proxies id with ⟨left, right⟩ | ⟨_, _, left, right, _⟩
  · rw [left, right]
  · rw [left, right]
    rfl

theorem saveCommon_agree (alike : InventoryAlike P self db other) (payloads : Related Under payload second)
    (previous_ : Related Under previous former) :
    AgreeOk CommonAlike (saveCommon db payload previous) (saveCommon other second former) := by
  have profiles := previous_.merge payloads
  apply (AgreeOk.of_eq (text_alike (get_alike profiles _ (by decide)) _ _ _)).bind
  rintro name _ rfl
  apply (AgreeOk.of_eq (text_alike (get_alike profiles _ (by decide)) _ _ _)).bind
  rintro host _ rfl
  apply (AgreeOk.of_eq (port_alike (get_alike profiles _ (by decide)))).bind
  rintro number _ rfl
  apply (AgreeOk.of_eq (reference_alike (get_alike profiles _ (by decide)) _ (role_present alike))).bind
  rintro roleId _ rfl
  apply (applyRole_agree profiles roleId).bind
  intro a b cleared
  apply (inlineCredentials_agree cleared payloads).bind
  intro c d changed
  exact .ok ⟨rfl, changed⟩

theorem secretData_alike (profiles : Related Under profile working) :
    Related Under (secretData profile) (secretData working) := by
  apply (profiles.select Secrets.secretFields).filter
  intro key v w under
  exact under.truthy

theorem saveProxy_agree (laws : P.VaultLaws) (iv iv' : Nat) (id : String) (alike : InventoryAlike P self db other)
    (payloads : Related Under payload second) (previous_ : Related Under previous former) :
    AgreeOk (ProxyAlike P self) (saveProxy P self db iv id payload previous)
      (saveProxy P self other iv' id second former) := by
  apply (saveCommon_agree alike payloads previous_).bind
  intro x y common
  apply (AgreeOk.of_eq (proxyType_alike (get_alike common.profile _ (by decide)))).bind
  rintro kind _ rfl
  refine .ok ⟨?_, common.profile.select _, encrypt_alike laws iv iv' (secretData_alike common.profile)⟩
  rw [← common.columns]

def AccessAlike (x y : Dict × Dict) : Prop := x.1 = y.1 ∧ Related Under x.2 y.2

theorem saveAccess_agree (payloads : Related Under payload second) (previous_ : Related Under previous former)
    (profiles : Related Under profile working) (proxyId : Option String) :
    AgreeOk AccessAlike (saveAccess P payload previous profile proxyId)
      (saveAccess P second former working proxyId) := by
  have given : Dict.has payload "connector" = Dict.has second "connector" := payloads.isSome "connector"
  unfold saveAccess
  split
  · apply (AgreeOk.checks _ _).bind
    intro _ _ _
    exact .ok ⟨rfl, .nil⟩
  · rw [given]
    have chosen := getOr_alike payloads "connector" (by decide)
      (getOr_alike profiles "connector" (by decide) (Alike.refl (.dict [("type", .str "direct")])))
    have before : Alike (if Dict.has second "connector" then Dict.get previous "connector" else .none)
        (if Dict.has second "connector" then Dict.get former "connector" else .none) := by
      split
      · exact get_alike previous_ _ (by decide)
      · exact Alike.refl .none
    apply (connector_agree chosen before).bind
    intro a b connectors
    have secrets := secretData_alike connectors
    have shown := publicEntries_alike a b ((alikeEntries_iff a b).mpr connectors)
    dsimp only
    rw [secrets.isEmpty, shown]
    refine .ok ⟨rfl, ?_⟩
    dsimp only
    split
    · exact .nil
    · have held : Alike (.dict (secretData a)) (.dict (secretData b)) := (alike_dict _ _).mpr secrets
      exact Related.cons (held.under "connector") .nil

theorem saveConnection_agree (laws : P.VaultLaws) (iv iv' : Nat) (id : String)
    (alike : InventoryAlike P self db other) (payloads : Related Under payload second)
    (previous_ : Related Under previous former) :
    AgreeOk (ConnectionAlike P self) (saveConnection P self db iv id payload previous)
      (saveConnection P self other iv' id second former) := by
  apply (saveCommon_agree alike payloads previous_).bind
  intro x y common
  have profiles := common.profile
  apply (AgreeOk.of_eq (protocol_alike (get_alike profiles _ (by decide)))).bind
  rintro kind _ rfl
  apply (AgreeOk.of_eq (clientType_alike (getOr_alike profiles _ (by decide) (Alike.refl _)))).bind
  rintro client _ rfl
  apply (AgreeOk.of_eq (timeout_alike (getOr_alike profiles _ (by decide) (Alike.refl _)))).bind
  rintro seconds _ rfl
  apply (AgreeOk.of_eq (reference_alike (get_alike profiles _ (by decide)) _ (proxy_present alike))).bind
  rintro proxyId _ rfl
  apply (saveAccess_agree payloads previous_ profiles proxyId).bind
  rintro ⟨connector, secrets⟩ ⟨_, others⟩ ⟨rfl, held⟩
  refine .ok ⟨?_, ?_, encrypt_alike laws iv iv' ((secretData_alike profiles).append held)⟩
  · rw [← common.columns]
  · exact (profiles.select _).append (related_refl _)

/-! Whole saves: the rows they write are alike, so the views they return are equal. -/

theorem target_agree {ρ : Type} {R : ρ → ρ → Prop} {key : ρ → String} (keys : ∀ x y, R x y → key x = key y)
    {rows others : List ρ} (related : List.Forall₂ R rows others) (itemId : Option String) :
    Agree (Option.Rel R) (target key rows itemId) (target key others itemId) := by
  unfold target
  cases itemId with
  | none => exact .ok .none
  | some id =>
      dsimp only
      split
      · exact .ok .none
      · apply (row_agree (find_related keys related id)).bind
        intro x y found
        exact .ok (.some found)

theorem target_key {ρ : Type} {R : ρ → ρ → Prop} {key : ρ → String} (keys : ∀ x y, R x y → key x = key y)
    {x y : Option ρ} (rows : Option.Rel R x y) : x.map key = y.map key := by
  cases rows with
  | none => rfl
  | some row => exact congrArg some (keys _ _ row)

theorem write_agree {ρ : Type} {R : ρ → ρ → Prop} {key : ρ → String} (keys : ∀ x y, R x y → key x = key y)
    {rows others : List ρ} (related : List.Forall₂ R rows others) (update : Bool) {x y : ρ} (written : R x y) :
    Agree (List.Forall₂ R) (write key rows update x) (write key others update y) := by
  unfold write
  rw [keys x y written]
  split
  · exact .ok (replace_related keys written (key y) related)
  · rcases find_related keys related (key y) with ⟨left, right⟩ | ⟨_, _, left, right, _⟩
    · rw [left, right]
      exact .ok (List.rel_append related (.cons written .nil))
    · rw [left, right]
      exact .error PyError.integrity

/-- Equal views, and states that still differ only in secrets. -/
def SavedAlike (P : Platform Token) (self : GatewayStore) (x y : Value × Db Token) : Prop :=
  x.1 = y.1 ∧ InventoryAlike P self x.2 y.2

variable {fresh fresh' : Fresh} {itemId : Option String}

theorem saveRoleAccount_agree (laws : P.VaultLaws) (drawn : fresh.id = fresh'.id)
    (alike : InventoryAlike P self db other) (payloads : Related Under payload second) :
    AgreeOk (SavedAlike P self) (saveRoleAccount P self db fresh payload itemId)
      (saveRoleAccount P self other fresh' second itemId) := by
  have ids : ∀ x y : RoleAccountRow Token, RoleAlike P self x y → x.id = y.id := fun _ _ rows => rows.id
  apply (target_agree ids alike.roleAccounts itemId).agreeOk.bind
  intro x y rows
  have before : AgreeOk (Related Under) (previousRole P self x) (previousRole P self y) := by
    cases rows with
    | none => exact .ok .nil
    | some row => exact row.storedProfile.agreeOk
  apply before.bind
  intro previous former previous_
  have updates : x.isSome = y.isSome := by cases rows <;> rfl
  dsimp only
  rw [target_key ids rows, drawn, updates]
  apply (saveRole_agree laws _ _ _ payloads previous_).bind
  intro v w written
  apply (write_agree ids alike.roleAccounts _ written).agreeOk.bind
  intro stored others tables
  apply (AgreeOk.of_eq (publicRole_alike written)).bind
  rintro view _ rfl
  exact .ok ⟨rfl, ⟨tables, alike.proxies, alike.connections⟩⟩

theorem saveProxyResource_agree (laws : P.VaultLaws) (drawn : fresh.id = fresh'.id)
    (alike : InventoryAlike P self db other) (payloads : Related Under payload second) :
    AgreeOk (SavedAlike P self) (saveProxyResource P self db fresh payload itemId)
      (saveProxyResource P self other fresh' second itemId) := by
  have ids : ∀ x y : ProxyRow Token, ProxyAlike P self x y → x.id = y.id := fun _ _ rows => rows.id
  apply (target_agree ids alike.proxies itemId).agreeOk.bind
  intro x y rows
  have before : AgreeOk (Related Under) (previousProxy P self x) (previousProxy P self y) := by
    cases rows with
    | none => exact .ok .nil
    | some row => exact row.storedProfile.agreeOk
  apply before.bind
  intro previous former previous_
  have updates : x.isSome = y.isSome := by cases rows <;> rfl
  dsimp only
  rw [target_key ids rows, drawn, updates]
  apply (saveProxy_agree laws _ _ _ alike payloads previous_).bind
  intro v w written
  apply (write_agree ids alike.proxies _ written).agreeOk.bind
  intro stored others tables
  have after : InventoryAlike P self { db with proxies := stored } { other with proxies := others } :=
    ⟨alike.roleAccounts, tables, alike.connections⟩
  apply (AgreeOk.of_eq (publicProxy_alike after written)).bind
  rintro view _ rfl
  exact .ok ⟨rfl, after⟩

theorem saveConnectionResource_agree (laws : P.VaultLaws) (drawn : fresh.id = fresh'.id)
    (alike : InventoryAlike P self db other) (payloads : Related Under payload second) :
    AgreeOk (SavedAlike P self) (saveConnectionResource P self db fresh payload itemId)
      (saveConnectionResource P self other fresh' second itemId) := by
  have ids : ∀ x y : ConnectionRow Token, ConnectionAlike P self x y → x.id = y.id := fun _ _ rows => rows.id
  apply (target_agree ids alike.connections itemId).agreeOk.bind
  intro x y rows
  have before : AgreeOk (Related Under) (previousConnection P self x) (previousConnection P self y) := by
    cases rows with
    | none => exact .ok .nil
    | some row => exact row.storedProfile.agreeOk
  apply before.bind
  intro previous former previous_
  have updates : x.isSome = y.isSome := by cases rows <;> rfl
  dsimp only
  rw [target_key ids rows, drawn, updates]
  apply (saveConnection_agree laws _ _ _ alike payloads previous_).bind
  intro v w written
  apply (write_agree ids alike.connections _ written).agreeOk.bind
  intro stored others tables
  have after : InventoryAlike P self { db with connections := stored } { other with connections := others } :=
    ⟨alike.roleAccounts, alike.proxies, tables⟩
  apply (AgreeOk.of_eq (publicConnection_alike after written)).bind
  rintro view _ rfl
  exact .ok ⟨rfl, after⟩

theorem save_agree (laws : P.VaultLaws) (drawn : fresh.id = fresh'.id) (alike : InventoryAlike P self db other)
    (resource : String) {v w : Value} (payloads : Alike v w) {view view' : Value} {written written' : Db Token}
    (saved : save P self db fresh resource v itemId = (.ok view, written))
    (again : save P self other fresh' resource w itemId = (.ok view', written')) :
    view = view' ∧ InventoryAlike P self written written' := by
  unfold save at saved again
  rcases checked_ok saved with ⟨kind, known, saved⟩
  rcases checked_ok again with ⟨kind', known', again⟩
  have same := Except.ok.inj (known.symm.trans known')
  rw [← same] at again
  rcases checked_ok saved with ⟨payload, entries, saved⟩
  rcases checked_ok again with ⟨second, entries', again⟩
  have related := (checkFields_agree payloads _).values payload second entries entries'
  have body := (transaction_ok.mp saved).2
  have body' := (transaction_ok.mp again).2
  cases kind with
  | roleAccounts => exact (saveRoleAccount_agree laws drawn alike related).values _ _ body body'
  | proxies => exact (saveProxyResource_agree laws drawn alike related).values _ _ body body'
  | connections => exact (saveConnectionResource_agree laws drawn alike related).values _ _ body body'

/-- Public views depend on no secret, only on which secrets are empty: in two such
states every read is equal, and so is what two accepted saves return. -/
theorem secrets_unobserved (laws : P.VaultLaws) (alike : InventoryAlike P self db other) :
    (∀ resource, list P self db resource = list P self other resource) ∧
    (∀ resource itemId, get P self db resource itemId = get P self other resource itemId) ∧
    ∀ fresh fresh' resource v w itemId view view' written written', fresh.id = fresh'.id → Alike v w →
      save P self db fresh resource v itemId = (.ok view, written) →
      save P self other fresh' resource w itemId = (.ok view', written') →
      view = view' ∧ InventoryAlike P self written written' := by
  refine ⟨list_alike alike, get_same alike, ?_⟩
  intro fresh fresh' resource v w itemId view view' written written' drawn payloads saved again
  exact save_agree laws drawn alike resource payloads saved again

end

def guardedDevice (password : String) : List Call :=
  [⟨Bench.store, Bench.fresh "device", .save "connections" (.dict
    [("name", .str "edge"), ("host", .str "192.0.2.1"), ("port", .int 22), ("protocol", .str "ssh"),
     ("username", .str "ops"), ("password", .str password), ("client_type", .str "fake")]) none⟩]

def passwordUpdate (password : String) : Value := .dict [("password", .str password)]

theorem passwords_alike {first second : String} (empty : (first != "") = (second != "")) :
    Alike (passwordUpdate first) (passwordUpdate second) := by
  apply (alike_dict _ _).mpr
  refine Related.cons ?_ .nil
  unfold Under
  rw [if_pos (by decide)]
  exact empty

theorem secrets_unobserved_rotated :
    list Platform.bench Bench.store (run (after Platform.bench) Db.empty (guardedDevice "hunter2")) "connections" =
      list Platform.bench Bench.store (run (after Platform.bench) Db.empty (guardedDevice "swordfish"))
        "connections" ∧
    (save Platform.bench Bench.store (run (after Platform.bench) Db.empty (guardedDevice "hunter2"))
      (Bench.fresh "next") "connections" (passwordUpdate "rosebud") (some "device")).1 =
      (save Platform.bench Bench.store (run (after Platform.bench) Db.empty (guardedDevice "swordfish"))
        (Bench.fresh "next") "connections" (passwordUpdate "mellon") (some "device")).1 := by
  have alike : InventoryAlike Platform.bench Bench.store
      (run (after Platform.bench) Db.empty (guardedDevice "hunter2"))
      (run (after Platform.bench) Db.empty (guardedDevice "swordfish")) :=
    ⟨.nil, .nil, .cons ⟨rfl, related_refl _, .ok (passwords_alike rfl)⟩ .nil⟩
  have unobserved := secrets_unobserved Platform.bench_vaultLaws alike
  have payloads : Alike (passwordUpdate "rosebud") (passwordUpdate "mellon") := passwords_alike rfl
  have saves := unobserved.2.2 (Bench.fresh "next") (Bench.fresh "next") "connections" _ _ (some "device")
    _ _ _ _ rfl payloads rfl rfl
  exact ⟨unobserved.1 "connections", congrArg Except.ok saves.1⟩

/-- One state, two payloads that differ only under `password`, and views that differ. -/
theorem emptied_password_shows :
    Secrets.publicFields (passwordUpdate "swordfish") = Secrets.publicFields (passwordUpdate "") ∧
    ∃ view view',
      (save Platform.bench Bench.store (run (after Platform.bench) Db.empty (guardedDevice "hunter2"))
        (Bench.fresh "next") "connections" (passwordUpdate "swordfish") (some "device")).1 = .ok view ∧
      (save Platform.bench Bench.store (run (after Platform.bench) Db.empty (guardedDevice "hunter2"))
        (Bench.fresh "next") "connections" (passwordUpdate "") (some "device")).1 = .ok view' ∧
      view ≠ view' := by
  refine ⟨rfl, _, _, rfl, rfl, ?_⟩
  decide +kernel

end NetworkGateway.Store
