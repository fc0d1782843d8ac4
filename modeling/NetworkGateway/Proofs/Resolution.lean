import NetworkGateway.Dal.Profiles

/-! What a stored or resolved profile holds. -/

namespace NetworkGateway.Store

open Library.Dict Library.Result Library.Table

section

variable {Token : Type} {P : Platform Token} {self : GatewayStore} {db : Db Token}

theorem addConnectorSecrets_ok {result profile : Dict} {connectorSecrets : Value} :
    addConnectorSecrets result connectorSecrets = .ok profile ↔
      connectorSecrets.truthy = false ∧ profile = result ∨
      ∃ connector entries, connectorSecrets.truthy = true ∧
        Dict.getOr result "connector" (.dict []) = .dict connector ∧ connectorSecrets = .dict entries ∧
        profile = set result "connector" (.dict (merge connector entries)) := by
  unfold addConnectorSecrets
  cases held : connectorSecrets.truthy with
  | false => simp [eq_comm]
  | true =>
      simp only [if_true, bind_eq_ok, asDict_ok, pure_eq, Except.ok.injEq]
      constructor
      · rintro ⟨connector, bound, entries, rfl, rfl⟩
        exact .inr ⟨connector, entries, trivial, bound, rfl, rfl⟩
      · rintro (⟨falsy, _⟩ | ⟨connector, entries, _, bound, rfl, rfl⟩)
        · cases falsy
        · exact ⟨connector, bound, entries, rfl, rfl⟩

theorem addConnectorSecrets_lookup {result profile : Dict} {connectorSecrets : Value}
    (added : addConnectorSecrets result connectorSecrets = .ok profile) {key : String}
    (other : key ≠ "connector") : profile.lookup key = result.lookup key := by
  rcases addConnectorSecrets_ok.mp added with ⟨_, rfl⟩ | ⟨_, _, _, _, _, rfl⟩
  · rfl
  · rw [lookup_set, if_neg other]

theorem storedProfile_ok {columns configuration profile : Dict} {secrets : Token} :
    storedProfile P self columns configuration secrets = .ok profile ↔
      ∃ held, Secrets.decrypt P self secrets = .ok (.dict held) ∧
        addConnectorSecrets (merge (merge columns configuration) (erase held "connector"))
          (Dict.get held "connector") = .ok profile := by
  simp only [storedProfile, bind_eq_ok, asDict_ok]
  constructor
  · rintro ⟨_, opened, held, rfl, added⟩
    exact ⟨held, opened, added⟩
  · rintro ⟨held, opened, added⟩
    exact ⟨_, opened, held, rfl, added⟩

/-- A profile entry besides the connector: a secret, a configuration entry, or a column. -/
theorem storedProfile_lookup {columns configuration profile held : Dict} {secrets : Token}
    (decoded : storedProfile P self columns configuration secrets = .ok profile)
    (opened : Secrets.decrypt P self secrets = .ok (.dict held)) {key : String} (other : key ≠ "connector") :
    profile.lookup key = (held.lookup key).or ((configuration.lookup key).or (columns.lookup key)) := by
  obtain ⟨_, opened', added⟩ := storedProfile_ok.mp decoded
  obtain rfl := Value.dict.inj (Except.ok.inj (opened.symm.trans opened'))
  rw [addConnectorSecrets_lookup added other]
  simp [other]

theorem withRole_ok {profile resolved : Dict} :
    withRole P self db profile = .ok resolved ↔
      (Dict.get profile "role_account_id").truthy = false ∧ resolved = profile ∨
      ∃ credentials, (Dict.get profile "role_account_id").truthy = true ∧
        roleCredentials P self db (Dict.get profile "role_account_id") = .ok credentials ∧
        resolved = merge profile credentials := by
  unfold withRole
  cases (Dict.get profile "role_account_id").truthy with
  | false => simp [eq_comm (a := resolved)]
  | true => simp [eq_comm (a := resolved)]

theorem withProxy_ok {profile resolved : Dict} :
    withProxy P self db profile = .ok resolved ↔
      (Dict.get profile "proxy_id").truthy = false ∧ resolved = profile ∨
      ∃ proxy connector, (Dict.get profile "proxy_id").truthy = true ∧
        findProxy db (Dict.get profile "proxy_id") = .ok proxy ∧
        resolveProxy P self db proxy = .ok connector ∧
        resolved = set profile "connector" (.dict connector) := by
  unfold withProxy
  cases (Dict.get profile "proxy_id").truthy with
  | false => simp [eq_comm (a := resolved)]
  | true => simp [eq_comm (a := resolved)]

theorem resolveConnection_ok {itemId : String} {profile : Dict} :
    resolveConnection P self db itemId = .ok profile ↔
      ∃ connection stored credentialed accessed,
        find ConnectionRow.id db.connections itemId = some connection ∧
        storedProfile P self connection.columns connection.configuration connection.secrets = .ok stored ∧
        withRole P self db (setDefault stored "client_type" (.str "network")) = .ok credentialed ∧
        withProxy P self db credentialed = .ok accessed ∧
        profile = setDefault accessed "connector" (.dict [("type", .str "direct")]) := by
  simp only [resolveConnection, bind_eq_ok, row_ok, pure_eq, Except.ok.injEq, eq_comm (a := profile)]
  constructor
  · rintro ⟨connection, found, stored, decoded, credentialed, credentials, accessed, access, same⟩
    exact ⟨connection, stored, credentialed, accessed, found, decoded, credentials, access, same⟩
  · rintro ⟨connection, stored, credentialed, accessed, found, decoded, credentials, access, same⟩
    exact ⟨connection, found, stored, decoded, credentialed, credentials, accessed, access, same⟩

theorem withRole_keeps {profile resolved : Dict} (returned : withRole P self db profile = .ok resolved)
    {key : String} (bound : (profile.lookup key).isSome) : (resolved.lookup key).isSome := by
  rcases withRole_ok.mp returned with ⟨_, rfl⟩ | ⟨credentials, _, _, rfl⟩
  · exact bound
  · rw [lookup_merge]
    cases credentials.lookup key <;> simp [bound]

theorem withProxy_keeps {profile resolved : Dict} (returned : withProxy P self db profile = .ok resolved)
    {key : String} (bound : (profile.lookup key).isSome) : (resolved.lookup key).isSome := by
  rcases withProxy_ok.mp returned with ⟨_, rfl⟩ | ⟨_, _, _, _, _, rfl⟩
  · exact bound
  · rw [lookup_set]
    split
    · rfl
    · exact bound

theorem resolveConnection_clientType {itemId : String} {profile : Dict}
    (resolved : resolveConnection P self db itemId = .ok profile) :
    (profile.lookup "client_type").isSome := by
  obtain ⟨_, stored, credentialed, accessed, _, _, credentials, access, rfl⟩ := resolveConnection_ok.mp resolved
  have named : ((setDefault stored "client_type" (.str "network")).lookup "client_type").isSome := by
    rw [lookup_setDefault]
    cases stored.lookup "client_type" <;> rfl
  have kept := withProxy_keeps access (withRole_keeps credentials named)
  rw [lookup_setDefault]
  obtain ⟨value, found⟩ := Option.isSome_iff_exists.mp kept
  rw [found]
  rfl

end

end NetworkGateway.Store
