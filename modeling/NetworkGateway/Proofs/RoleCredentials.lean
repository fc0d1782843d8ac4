import NetworkGateway.Dal.Bench
import NetworkGateway.Proofs.References

/-! The credentials a role account holds, over any saves on it. -/

namespace NetworkGateway.Store

open Library.Dict Library.Result Library.Run Library.Table

/-- A text a secret is stored as: an empty one is not stored. -/
abbrev SecretText := {s : String // s ≠ ""}

inductive Credential where
  | password (value : SecretText)
  | sshKey (privateKey : SecretText) (passphrase : Option SecretText)

namespace Credential

def method : Credential → AuthenticationType
  | password _ => .password
  | sshKey _ _ => .sshKey

def secrets : Credential → Dict
  | password value => [("password", .str value.1)]
  | sshKey privateKey passphrase =>
      ("private_key", .str privateKey.1) :: passphrase.toList.map (fun p => ("key_passphrase", .str p.1))

/-- The key and passphrase passed `validate_private_key` together. -/
def Accepted {Token : Type} (P : Platform Token) : Credential → Prop
  | password _ => True
  | sshKey privateKey passphrase =>
      P.validatePrivateKey (.str privateKey.1) (.str ((passphrase.map Subtype.val).getD "")) = true

end Credential

def credentialKeys : List String := ["password", "private_key", "key_passphrase"]

/-- One credential after a save: the payload's, or else the one kept; an empty text clears it. -/
def replaced (kept payload : Dict) (key : String) : Option Value :=
  ((payload.lookup key).or (kept.lookup key)).filter (· ≠ .str "")

def keptFor (before : Option Credential) (method : AuthenticationType) : Dict :=
  match before with
  | some held => if held.method = method then held.secrets else []
  | none => []

section

variable {Token : Type} {P : Platform Token} {self : GatewayStore} {fresh : Fresh} {db written : Db Token}

/-- The role's token seals exactly one accepted credential of the role's method. -/
structure Holds (P : Platform Token) (role : RoleAccountRow Token) (credential : Credential) : Prop where
  method : role.authenticationType = credential.method
  sealed : ∃ key iv, role.secrets = P.encrypt key iv (.dict credential.secrets)
  accepted : credential.Accepted P

theorem credentialText_ok {payload : Dict} {label key : String} {u : Unit}
    (accepted : credentialText payload label key = .ok u) :
    payload.lookup key = none ∨ ∃ s, payload.lookup key = some (.str s) := by
  unfold credentialText at accepted
  split at accepted
  · rename_i absent
    exact .inl absent
  · rename_i value given
    simp only [bind_eq_ok] at accepted
    rcases accepted with ⟨read, checked, -⟩
    cases value with
    | str s => exact .inr ⟨s, given⟩
    | none | bool | int | float | list | dict => cases checked

structure Shows (previous : Dict) (before : Option Credential) : Prop where
  method : previous.lookup "authentication_type" = before.map (fun held => .str held.method.text)
  secrets : ∀ key ∈ credentialKeys, previous.lookup key = ((before.map Credential.secrets).getD []).lookup key

theorem text_injective {one other : AuthenticationType} (same : one.text = other.text) : one = other := by
  cases one <;> cases other <;> first | rfl | exact absurd same (by decide)

theorem Shows.switched {previous : Dict} {before : Option Credential} (shows : Shows previous before)
    (method : AuthenticationType) :
    (Dict.get previous "authentication_type" != .str method.text) = true ↔ before.map Credential.method ≠ some method := by
  rw [Dict.get_eq, shows.method]
  cases before with
  | none => simp
  | some held =>
      simp only [Option.map_some, Option.getD_some, bne_iff_ne, ne_eq, Value.str.injEq, Option.some.injEq]
      exact not_congr ⟨text_injective, congrArg AuthenticationType.text⟩

/-- What the previous profile contributes: all of its credentials, unless the method switches. -/
theorem Shows.kept {previous : Dict} {before : Option Credential} (shows : Shows previous before)
    (method : AuthenticationType) {key : String} (listed : key ∈ credentialKeys) :
    (if (Dict.get previous "authentication_type" != .str method.text) = true then none else previous.lookup key) =
      (keptFor before method).lookup key := by
  by_cases same : before.map Credential.method = some method
  · have stays := mt (shows.switched method).mp (not_not.mpr same)
    rw [if_neg stays, shows.secrets key listed]
    cases before with
    | none => cases same
    | some held =>
        have kept : held.method = method := Option.some.inj same
        simp [keptFor, kept]
  · rw [if_pos ((shows.switched method).mpr same)]
    cases before with
    | none => rfl
    | some held =>
        have differs : held.method ≠ method := fun equal => same (congrArg some equal)
        simp [keptFor, differs]

/-- A save reads a credential from the payload and else from what it may keep. -/
theorem Shows.source {previous : Dict} {before : Option Credential} (shows : Shows previous before)
    (method : AuthenticationType) {key : String} (listed : key ∈ credentialKeys) (payload : Dict) :
    (if (Dict.get previous "authentication_type" != .str method.text) = true then Dict.get payload key
      else Dict.get (merge previous payload) key) =
      ((payload.lookup key).or ((keptFor before method).lookup key)).getD .none := by
  rw [← shows.kept method listed]
  split
  · rw [Option.or_none, Dict.get_eq]
  · rw [Dict.get_eq, lookup_merge]

theorem Shows.passphrase {previous : Dict} {before : Option Credential} (shows : Shows previous before)
    (method : AuthenticationType) (payload : Dict) :
    Dict.getOr payload "key_passphrase"
      (if (Dict.get previous "authentication_type" != .str method.text) = true then .str ""
        else Dict.getOr previous "key_passphrase" (.str "")) =
      ((payload.lookup "key_passphrase").or ((keptFor before method).lookup "key_passphrase")).getD (.str "") := by
  rw [← shows.kept method (by decide)]
  unfold Dict.getOr
  cases payload.lookup "key_passphrase" with
  | some value => rfl
  | none =>
      split
      · rfl
      · rfl

theorem secret_of_truthy {source : Option Value} (texts : source = none ∨ ∃ s, source = some (.str s))
    (truthy : (source.getD .none).truthy = true) :
    ∃ secret : SecretText, source = some (.str secret.1) ∧ source.filter (· ≠ .str "") = some (.str secret.1) := by
  rcases texts with absent | ⟨s, given⟩
  · rw [absent] at truthy
    cases truthy
  · rw [given] at truthy ⊢
    have nonempty : s ≠ "" := by simpa using truthy
    exact ⟨⟨s, nonempty⟩, rfl, by simp [nonempty]⟩

theorem secret_of_falsy {source : Option Value} (texts : source = none ∨ ∃ s, source = some (.str s))
    (falsy : (source.getD .none).truthy = false) : source.filter (· ≠ .str "") = none := by
  rcases texts with absent | ⟨s, given⟩
  · rw [absent]
    rfl
  · rw [given] at falsy ⊢
    have empty : s = "" := by simpa using falsy
    simp [empty]

theorem Credential.secrets_texts (credential : Credential) (key : String) :
    credential.secrets.lookup key = none ∨ ∃ s, credential.secrets.lookup key = some (.str s) := by
  cases credential with
  | password value =>
      rw [secrets, lookup_cons_key]
      split
      · exact .inr ⟨_, rfl⟩
      · exact .inl rfl
  | sshKey privateKey passphrase =>
      rw [secrets, lookup_cons_key]
      split
      · exact .inr ⟨_, rfl⟩
      · cases passphrase with
        | none => exact .inl rfl
        | some held =>
            rw [Option.toList_some, List.map_singleton, lookup_cons_key]
            split
            · exact .inr ⟨_, rfl⟩
            · exact .inl rfl

theorem keptFor_texts (before : Option Credential) (method : AuthenticationType) (key : String) :
    (keptFor before method).lookup key = none ∨ ∃ s, (keptFor before method).lookup key = some (.str s) := by
  unfold keptFor
  split
  · split
    · exact Credential.secrets_texts _ key
    · exact .inl rfl
  · exact .inl rfl

theorem keptFor_other (before : Option Credential) :
    (keptFor before .password).lookup "private_key" = none ∧
      (keptFor before .password).lookup "key_passphrase" = none ∧ (keptFor before .sshKey).lookup "password" = none := by
  cases before with
  | none => exact ⟨rfl, rfl, rfl⟩
  | some held =>
      cases held with
      | password value => exact ⟨rfl, rfl, rfl⟩
      | sshKey privateKey passphrase => cases passphrase <;> exact ⟨rfl, rfl, rfl⟩

structure Replaces (before : Option Credential) (payload : Dict) (credential : Credential) : Prop where
  fields : ∀ key ∈ credentialKeys,
    credential.secrets.lookup key = replaced (keptFor before credential.method) payload key

theorem source_texts {payload : Dict}
    (texts : ∀ key ∈ credentialKeys, payload.lookup key = none ∨ ∃ s, payload.lookup key = some (.str s))
    (before : Option Credential) (method : AuthenticationType) {key : String} (listed : key ∈ credentialKeys) :
    (payload.lookup key).or ((keptFor before method).lookup key) = none ∨
      ∃ s, (payload.lookup key).or ((keptFor before method).lookup key) = some (.str s) := by
  rcases texts key listed with absent | ⟨s, given⟩
  · rw [absent, Option.none_or]
    exact keptFor_texts before method key
  · rw [given]
    exact .inr ⟨s, rfl⟩

theorem replaced_none {payload kept : Dict} {key : String}
    (texts : payload.lookup key = none ∨ ∃ s, payload.lookup key = some (.str s))
    (falsy : (Dict.get payload key).truthy = false) (unkept : kept.lookup key = none) :
    replaced kept payload key = none := by
  unfold replaced
  rw [unkept, Option.or_none]
  exact secret_of_falsy texts falsy

section

variable {payload previous secrets : Dict} {before : Option Credential}

theorem passwordSecrets_replaces (shows : Shows previous before)
    (texts : ∀ key ∈ credentialKeys, payload.lookup key = none ∨ ∃ s, payload.lookup key = some (.str s))
    (accepted : passwordSecrets payload (merge previous payload)
      (Dict.get previous "authentication_type" != .str AuthenticationType.password.text) = .ok secrets) :
    ∃ value : SecretText, secrets = (Credential.password value).secrets ∧
      Replaces before payload (.password value) := by
  simp only [passwordSecrets, bind_eq_ok, raiseWhen_ok, pure_eq, Except.ok.injEq, Bool.or_eq_false_iff,
    Bool.not_eq_false'] at accepted
  rcases accepted with ⟨_, ⟨noKey, noPassphrase⟩, _, present, rfl⟩
  rw [shows.source .password (by decide) payload] at present ⊢
  rcases secret_of_truthy (source_texts texts before .password (by decide)) present with ⟨value, given, stored⟩
  refine ⟨value, by rw [given]; rfl, ⟨?_⟩⟩
  have other := keptFor_other before
  intro key listed
  simp only [credentialKeys, List.mem_cons, List.not_mem_nil, or_false] at listed
  rcases listed with rfl | rfl | rfl
  · exact stored.symm
  · exact (replaced_none (texts _ (by decide)) noKey other.1).symm
  · exact (replaced_none (texts _ (by decide)) noPassphrase other.2.1).symm

theorem validatePrivateKey_ok {value passphrase : Value} {u : Unit}
    (valid : storeError (Secrets.validatePrivateKey P value passphrase) = .ok u) :
    P.validatePrivateKey value passphrase = true := by
  unfold Secrets.validatePrivateKey at valid
  split at valid
  · rename_i accepted
    exact accepted
  · cases valid

theorem passphrase_of_source {source : Option Value} (texts : source = none ∨ ∃ s, source = some (.str s)) :
    ∃ passphrase : Option SecretText, source.getD (.str "") = .str ((passphrase.map Subtype.val).getD "") ∧
      source.filter (· ≠ .str "") = passphrase.map (fun p => .str p.1) := by
  cases truthy : (source.getD .none).truthy with
  | true =>
      rcases secret_of_truthy texts truthy with ⟨secret, given, stored⟩
      exact ⟨some secret, by rw [given]; rfl, stored⟩
  | false =>
      refine ⟨none, ?_, secret_of_falsy texts truthy⟩
      rcases texts with absent | ⟨s, given⟩
      · rw [absent]
        rfl
      · rw [given] at truthy ⊢
        have empty : s = "" := by simpa using truthy
        rw [empty]
        rfl

theorem keySecrets_replaces (shows : Shows previous before)
    (texts : ∀ key ∈ credentialKeys, payload.lookup key = none ∨ ∃ s, payload.lookup key = some (.str s))
    (accepted : keySecrets P payload previous (merge previous payload)
      (Dict.get previous "authentication_type" != .str AuthenticationType.sshKey.text) = .ok secrets) :
    ∃ (privateKey : SecretText) (passphrase : Option SecretText),
      secrets = (Credential.sshKey privateKey passphrase).secrets ∧
      (Credential.sshKey privateKey passphrase).Accepted P ∧ Replaces before payload (.sshKey privateKey passphrase) := by
  simp only [keySecrets, bind_eq_ok, raiseWhen_ok, pure_eq, Except.ok.injEq, Bool.not_eq_false'] at accepted
  rcases accepted with ⟨_, noPassword, _, present, _, valid, rfl⟩
  rw [shows.source .sshKey (by decide) payload] at present valid ⊢
  rw [shows.passphrase .sshKey payload] at valid ⊢
  rcases secret_of_truthy (source_texts texts before .sshKey (by decide)) present with ⟨privateKey, given, stored⟩
  rcases passphrase_of_source (source_texts texts before .sshKey (by decide : "key_passphrase" ∈ credentialKeys))
    with ⟨passphrase, read, held⟩
  rw [given, read, Option.getD_some] at valid ⊢
  refine ⟨privateKey, passphrase, ?_, validatePrivateKey_ok valid, ⟨?_⟩⟩
  · cases passphrase with
    | none => rfl
    | some secret =>
        have truthy : (Value.str secret.1).truthy = true := by simpa using secret.2
        simp [Credential.secrets, truthy]
  · intro key listed
    simp only [credentialKeys, List.mem_cons, List.not_mem_nil, or_false] at listed
    rcases listed with rfl | rfl | rfl
    · refine Eq.trans ?_ (replaced_none (texts _ (by decide)) noPassword (keptFor_other before).2.2).symm
      cases passphrase <;> rfl
    · exact stored.symm
    · refine Eq.trans ?_ held.symm
      cases passphrase <;> rfl

theorem saveRole_replaces {iv : Nat} {id : String} {role : RoleAccountRow Token} (shows : Shows previous before)
    (saved : saveRole P self iv id payload previous = .ok role) :
    ∃ credential, Holds P role credential ∧ Replaces before payload credential := by
  simp only [saveRole, bind_eq_ok, pure_eq, Except.ok.injEq] at saved
  rcases saved with ⟨_, -, _, -, method, -, _, password, _, privateKey, _, passphrase, secrets, accepted, rfl⟩
  have texts : ∀ key ∈ credentialKeys, payload.lookup key = none ∨ ∃ s, payload.lookup key = some (.str s) := by
    intro key listed
    simp only [credentialKeys, List.mem_cons, List.not_mem_nil, or_false] at listed
    rcases listed with rfl | rfl | rfl
    · exact credentialText_ok password
    · exact credentialText_ok privateKey
    · exact credentialText_ok passphrase
  cases method with
  | password =>
      rcases passwordSecrets_replaces shows texts accepted with ⟨value, rfl, replaces⟩
      exact ⟨.password value, ⟨rfl, ⟨self.key, iv, rfl⟩, trivial⟩, replaces⟩
  | sshKey =>
      rcases keySecrets_replaces shows texts accepted with ⟨key, phrase, rfl, valid, replaces⟩
      exact ⟨.sshKey key phrase, ⟨rfl, ⟨self.key, iv, rfl⟩, valid⟩, replaces⟩

/-- The profile a save starts from shows the credential the row holds. -/
theorem previousRole_shows (laws : P.VaultLaws) {role : RoleAccountRow Token} {credential : Credential}
    (held : Holds P role credential) (decoded : previousRole P self (some role) = .ok previous) :
    Shows previous (some credential) := by
  rcases storedProfile_ok.mp decoded with ⟨secrets, opened, -⟩
  rcases held.sealed with ⟨key, iv, same⟩
  have plain : secrets = credential.secrets := by
    rw [same] at opened
    exact Value.dict.inj (Secrets.decrypt_authentic self laws opened)
  have lookup : ∀ key ≠ "connector", previous.lookup key =
      (credential.secrets.lookup key).or (role.columns.lookup key) := by
    intro key other
    rw [storedProfile_lookup decoded opened other, plain]
    rfl
  constructor
  · rw [lookup _ (by decide)]
    have absent : credential.secrets.lookup "authentication_type" = none := by
      cases credential with
      | password value => rfl
      | sshKey privateKey passphrase => cases passphrase <;> rfl
    rw [absent, Option.none_or, RoleAccountRow.columns, held.method]
    rfl
  · intro key listed
    simp only [credentialKeys, List.mem_cons, List.not_mem_nil, or_false] at listed
    have column : role.columns.lookup key = none := by
      rcases listed with rfl | rfl | rfl <;> rfl
    have other : key ≠ "connector" := by
      rcases listed with rfl | rfl | rfl <;> decide
    rw [lookup key other, column, Option.or_none]
    rfl

end

/-! Over runs. -/

def RolesHold (P : Platform Token) (db : Db Token) : Prop :=
  ∀ role ∈ db.roleAccounts, ∃ credential, Holds P role credential

/-- What an accepted save wrote: one role account, with a credential that follows from the
payload and from what the account held before. -/
structure RoleSaved (P : Platform Token) (db written : Db Token) (payload : Dict) (itemId : Option String)
    (role : RoleAccountRow Token) (before : Option Credential) (credential : Credential) : Prop where
  rows : written = { db with roleAccounts := put RoleAccountRow.id db.roleAccounts role }
  holds : Holds P role credential
  replaces : Replaces before payload credential
  target : (∃ held, itemId = some held.id ∧ role.id = held.id ∧
      find RoleAccountRow.id db.roleAccounts held.id = some held ∧ ∃ old, before = some old ∧ Holds P held old) ∨
    before = none ∧ (itemId = none ∨ itemId = some "")

theorem target_none {ρ : Type} {key : ρ → String} {rows : List ρ} {itemId : Option String}
    (aimed : target key rows itemId = .ok none) : itemId = none ∨ itemId = some "" := by
  unfold target at aimed
  split at aimed
  · exact .inl rfl
  · rename_i id
    split at aimed
    · rename_i empty
      exact .inr (by rw [empty])
    · simp at aimed

theorem saveRoleAccount_saved (laws : P.VaultLaws) (hold : RolesHold P db) {payload : Dict} {itemId : Option String}
    {view : Value} (returned : saveRoleAccount P self db fresh payload itemId = .ok (view, written)) :
    ∃ role before credential, RoleSaved P db written payload itemId role before credential := by
  rcases saveRoleAccount_ok returned with ⟨held, previous, role, aimed, decoded, saved, -, rows⟩
  have aim := target_ok aimed
  cases held with
  | none =>
      rw [← Except.ok.inj decoded] at saved
      have shows : Shows [] none := ⟨rfl, fun _ _ => rfl⟩
      rcases saveRole_replaces shows saved with ⟨credential, holds, replaces⟩
      exact ⟨role, none, credential, rows, holds, replaces, .inr ⟨rfl, target_none aimed⟩⟩
  | some found =>
      rcases aim found rfl with ⟨member, named, located⟩
      rcases hold found member with ⟨old, holdsOld⟩
      have shows := previousRole_shows laws holdsOld decoded
      rcases saveRole_replaces shows saved with ⟨credential, holds, replaces⟩
      exact ⟨role, some old, credential, rows, holds, replaces,
        .inl ⟨found, named, saveRole_id saved, located, old, rfl, holdsOld⟩⟩

theorem effect_rolesHold (laws : P.VaultLaws) (effect : Effect P self fresh db written) (hold : RolesHold P db) :
    RolesHold P written := by
  have same : written.roleAccounts = db.roleAccounts → RolesHold P written := by
    intro roleAccounts role member
    rw [roleAccounts] at member
    exact hold role member
  cases effect with
  | elsewhere roleAccounts _ _ _ => exact same roleAccounts
  | jobs _ roleAccounts _ _ => exact same roleAccounts
  | savedRole payload itemId view returned =>
      rcases saveRoleAccount_saved laws hold returned with ⟨role, before, credential, saved⟩
      intro other member
      rw [saved.rows] at member
      rcases mem_put.mp member with rfl | kept
      · exact ⟨credential, saved.holds⟩
      · exact hold other kept.1
  | savedProxy payload itemId view returned =>
      rcases saveProxyResource_ok returned with ⟨_, _, _, _, _, _, _, rows⟩
      exact same (by rw [rows])
  | savedConnection payload itemId view returned =>
      rcases saveConnectionResource_ok returned with ⟨_, _, _, _, _, _, _, rows⟩
      exact same (by rw [rows])
  | deletedRole id returned =>
      rcases deleteRole_ok.mp returned with ⟨_, _, rfl⟩
      intro role member
      exact hold role (mem_remove.mp member).1
  | deletedProxy id returned =>
      rcases deleteProxy_ok.mp returned with ⟨_, _, rfl⟩
      exact hold
  | deletedConnection id returned =>
      rcases deleteConnection_ok.mp returned with ⟨_, rfl⟩
      exact hold

theorem run_rolesHold (laws : P.VaultLaws) (calls : List Call) : RolesHold P (run (after P) Db.empty calls) := by
  have initial : RolesHold P (Db.empty : Db Token) := by
    intro role member
    cases member
  exact run_invariant (RolesHold P) (fun call db => effect_rolesHold laws (after_change P call db).effect) initial calls

theorem save_kept {resource : String} {payload : Value} {itemId : Option String} {error : PyError}
    (raised : (save P self db fresh resource payload itemId).1 = .error error) :
    (save P self db fresh resource payload itemId).2 = db :=
  checked_kept (fun _ _ => checked_kept (fun _ _ => transaction_kept)) raised

/-- A role account holds one accepted credential in every state of a run; a save on it
replaces what its payload names and keeps the rest of an unchanged method, or changes nothing. -/
theorem role_credentials (laws : P.VaultLaws) (calls : List Call) :
    RolesHold P (run (after P) Db.empty calls) ∧
    ∀ self fresh payload itemId,
      let saved := save P self (run (after P) Db.empty calls) fresh "role_accounts" payload itemId
      (∀ error, saved.1 = .error error → saved.2 = run (after P) Db.empty calls) ∧
      ∀ view, saved.1 = .ok view → ∃ entries role before credential, payload = .dict entries ∧
        RoleSaved P (run (after P) Db.empty calls) saved.2 entries itemId role before credential := by
  have hold := run_rolesHold laws calls
  refine ⟨hold, ?_⟩
  intro self fresh payload itemId
  refine ⟨fun error raised => save_kept raised, ?_⟩
  intro view returned
  rcases saveRoleAccount_returned returned with ⟨entries, given, -, saved⟩
  rcases saveRoleAccount_saved laws hold saved with ⟨role, before, credential, wrote⟩
  exact ⟨entries, role, before, credential, given, wrote⟩

theorem role_credentials_operator :
    RolesHold Platform.bench (run (after Platform.bench) Db.empty
      [⟨Bench.store, Bench.fresh "role", .save "role_accounts" Bench.operator none⟩]) :=
  (role_credentials Platform.bench_vaultLaws _).1

end

end NetworkGateway.Store
