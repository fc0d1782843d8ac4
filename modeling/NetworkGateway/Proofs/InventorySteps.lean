import NetworkGateway.Dal.Store

/-! What a returned save or delete has checked and written. -/

namespace NetworkGateway.Store

open Library.Dict Library.Result Library.Table

theorem write_ok {ρ : Type} {key : ρ → String} {rows stored : List ρ} {update : Bool} {written : ρ}
    (returned : write key rows update written = .ok stored)
    (present : update = true → (find key rows (key written)).isSome) :
    stored = put key rows written := by
  unfold write at returned
  unfold put
  cases update with
  | true =>
      rw [if_pos rfl] at returned
      rw [if_pos (present rfl)]
      exact (Except.ok.inj returned).symm
  | false =>
      rw [if_neg Bool.false_ne_true] at returned
      split at returned
      · cases returned
      · rename_i absent
        rw [if_neg absent]
        exact (Except.ok.inj returned).symm

theorem target_ok {ρ : Type} {key : ρ → String} {rows : List ρ} {itemId : Option String}
    {held : Option ρ} (returned : target key rows itemId = .ok held) :
    ∀ found, held = some found → found ∈ rows ∧ itemId = some (key found) ∧
      find key rows (key found) = some found := by
  rintro found rfl
  unfold target at returned
  split at returned
  · cases returned
  · rename_i id
    split at returned
    · cases returned
    · simp only [bind_eq_ok, row_ok, pure_eq, Except.ok.injEq, Option.some.injEq] at returned
      obtain ⟨_, located, rfl⟩ := returned
      obtain ⟨member, same⟩ := find_mem located
      exact ⟨member, by rw [same], by rw [same]; exact located⟩

/-- The row written for a target carries the target's id, so it is an upsert. -/
theorem write_target {ρ : Type} {key : ρ → String} {rows stored : List ρ} {itemId : Option String}
    {held : Option ρ} {written : ρ} {unused : String} (aimed : target key rows itemId = .ok held)
    (kept : key written = (held.map key).getD unused)
    (returned : write key rows held.isSome written = .ok stored) : stored = put key rows written := by
  apply write_ok returned
  intro update
  obtain ⟨found, rfl⟩ := Option.isSome_iff_exists.mp update
  obtain ⟨-, -, located⟩ := target_ok aimed found rfl
  rw [kept]
  simp [located]

section

variable {Token : Type} {P : Platform Token} {self : GatewayStore} {fresh : Fresh}
  {db written : Db Token} {payload : Dict} {itemId : Option String} {view : Value}

theorem saveRole_id {iv : Nat} {id : String} {previous : Dict} {role : RoleAccountRow Token}
    (saved : saveRole P self iv id payload previous = .ok role) : role.id = id := by
  simp only [saveRole, bind_eq_ok, pure_eq, Except.ok.injEq] at saved
  obtain ⟨_, _, _, _, _, _, _, _, _, _, _, _, _, _, rfl⟩ := saved
  rfl

theorem saveProxy_id {iv : Nat} {id : String} {previous : Dict} {proxy : ProxyRow Token}
    (saved : saveProxy P self db iv id payload previous = .ok proxy) : proxy.id = id := by
  simp only [saveProxy, bind_eq_ok, pure_eq, Except.ok.injEq] at saved
  obtain ⟨_, _, _, _, rfl⟩ := saved
  rfl

theorem saveConnection_id {iv : Nat} {id : String} {previous : Dict} {connection : ConnectionRow Token}
    (saved : saveConnection P self db iv id payload previous = .ok connection) :
    connection.id = id := by
  simp only [saveConnection, bind_eq_ok, pure_eq, Except.ok.injEq] at saved
  obtain ⟨_, _, _, _, _, _, _, _, _, _, _, _, rfl⟩ := saved
  rfl

theorem saveRoleAccount_ok (returned : saveRoleAccount P self db fresh payload itemId = .ok (view, written)) :
    ∃ held previous role, target RoleAccountRow.id db.roleAccounts itemId = .ok held ∧
      previousRole P self held = .ok previous ∧
      saveRole P self fresh.iv ((held.map RoleAccountRow.id).getD fresh.id) payload previous = .ok role ∧
      publicRole P self role = .ok view ∧
      written = { db with roleAccounts := put RoleAccountRow.id db.roleAccounts role } := by
  simp only [saveRoleAccount, bind_eq_ok, pure_eq, Except.ok.injEq, Prod.mk.injEq] at returned
  obtain ⟨held, aimed, previous, decoded, role, saved, stored, kept, _, viewed, rfl, rfl⟩ := returned
  have same := write_target aimed (saveRole_id saved) kept
  exact ⟨held, previous, role, aimed, decoded, saved, viewed, by rw [same]⟩

theorem saveProxyResource_ok
    (returned : saveProxyResource P self db fresh payload itemId = .ok (view, written)) :
    ∃ held previous proxy, target ProxyRow.id db.proxies itemId = .ok held ∧
      previousProxy P self held = .ok previous ∧
      saveProxy P self db fresh.iv ((held.map ProxyRow.id).getD fresh.id) payload previous = .ok proxy ∧
      publicProxy P self written proxy = .ok view ∧
      written = { db with proxies := put ProxyRow.id db.proxies proxy } := by
  simp only [saveProxyResource, bind_eq_ok, pure_eq, Except.ok.injEq, Prod.mk.injEq] at returned
  obtain ⟨held, aimed, previous, decoded, proxy, saved, stored, kept, _, viewed, rfl, rfl⟩ := returned
  have same := write_target aimed (saveProxy_id saved) kept
  exact ⟨held, previous, proxy, aimed, decoded, saved, viewed, by rw [same]⟩

theorem saveConnectionResource_ok
    (returned : saveConnectionResource P self db fresh payload itemId = .ok (view, written)) :
    ∃ held previous connection, target ConnectionRow.id db.connections itemId = .ok held ∧
      previousConnection P self held = .ok previous ∧
      saveConnection P self db fresh.iv ((held.map ConnectionRow.id).getD fresh.id) payload previous =
        .ok connection ∧
      publicConnection P self written connection = .ok view ∧
      written = { db with connections := put ConnectionRow.id db.connections connection } := by
  simp only [saveConnectionResource, bind_eq_ok, pure_eq, Except.ok.injEq, Prod.mk.injEq] at returned
  obtain ⟨held, aimed, previous, decoded, connection, saved, stored, kept, _, viewed, rfl, rfl⟩ := returned
  have same := write_target aimed (saveConnection_id saved) kept
  exact ⟨held, previous, connection, aimed, decoded, saved, viewed, by rw [same]⟩

/-! The transaction of a save that returned. -/

theorem saveRoleAccount_returned {value : Value}
    (returned : (save P self db fresh "role_accounts" value itemId).1 = .ok view) :
    ∃ entries, value = .dict entries ∧ (∀ entry ∈ entries, entry.1 ∈ fields .roleAccounts) ∧
      saveRoleAccount P self db fresh entries itemId =
      .ok (view, (save P self db fresh "role_accounts" value itemId).2) := by
  rcases checked_ok (Prod.ext returned rfl) with ⟨resource, known, checked⟩
  rcases checked_ok checked with ⟨entries, fields, written⟩
  rw [← Except.ok.inj known] at written fields
  exact ⟨entries, (checkFields_ok fields).1, (checkFields_ok fields).2, (transaction_ok.mp written).2⟩

theorem saveProxyResource_returned {value : Value}
    (returned : (save P self db fresh "proxies" value itemId).1 = .ok view) :
    ∃ entries, value = .dict entries ∧ (∀ entry ∈ entries, entry.1 ∈ fields .proxies) ∧
      saveProxyResource P self db fresh entries itemId =
      .ok (view, (save P self db fresh "proxies" value itemId).2) := by
  rcases checked_ok (Prod.ext returned rfl) with ⟨resource, known, checked⟩
  rcases checked_ok checked with ⟨entries, fields, written⟩
  rw [← Except.ok.inj known] at written fields
  exact ⟨entries, (checkFields_ok fields).1, (checkFields_ok fields).2, (transaction_ok.mp written).2⟩

theorem saveConnectionResource_returned {value : Value}
    (returned : (save P self db fresh "connections" value itemId).1 = .ok view) :
    ∃ entries, value = .dict entries ∧ (∀ entry ∈ entries, entry.1 ∈ fields .connections) ∧
      saveConnectionResource P self db fresh entries itemId =
      .ok (view, (save P self db fresh "connections" value itemId).2) := by
  rcases checked_ok (Prod.ext returned rfl) with ⟨resource, known, checked⟩
  rcases checked_ok checked with ⟨entries, fields, written⟩
  rw [← Except.ok.inj known] at written fields
  exact ⟨entries, (checkFields_ok fields).1, (checkFields_ok fields).2, (transaction_ok.mp written).2⟩

/-! Deletes. -/

theorem deleteRole_ok {id : String} {u : Unit} :
    deleteRole db id = .ok (u, written) ↔ (find RoleAccountRow.id db.roleAccounts id).isSome ∧
      roleReferenced db id = false ∧
      written = { db with roleAccounts := remove RoleAccountRow.id db.roleAccounts id } := by
  simp only [deleteRole, bind_eq_ok, row_ok, raiseWhen_ok, pure_eq, Except.ok.injEq, Prod.mk.injEq,
    exists_const, true_and, Option.isSome_iff_exists, exists_and_right, eq_comm (a := written)]

theorem deleteProxy_ok {id : String} {u : Unit} :
    deleteProxy db id = .ok (u, written) ↔ (find ProxyRow.id db.proxies id).isSome ∧
      proxyReferenced db id = false ∧
      written = { db with proxies := remove ProxyRow.id db.proxies id } := by
  simp only [deleteProxy, bind_eq_ok, row_ok, raiseWhen_ok, pure_eq, Except.ok.injEq, Prod.mk.injEq,
    exists_const, true_and, Option.isSome_iff_exists, exists_and_right, eq_comm (a := written)]

theorem deleteConnection_ok {id : String} {u : Unit} :
    deleteConnection db id = .ok (u, written) ↔ (find ConnectionRow.id db.connections id).isSome ∧
      written = { db with
        connections := remove ConnectionRow.id db.connections id
        staticRouteInitializations := db.staticRouteInitializations.filter (· ≠ id)
        staticRoutes := db.staticRoutes.filter (fun route => route.connectionId ≠ id) } := by
  simp only [deleteConnection, bind_eq_ok, row_ok, pure_eq, Except.ok.injEq, Prod.mk.injEq,
    true_and, Option.isSome_iff_exists, exists_and_right, eq_comm (a := written)]

end

end NetworkGateway.Store
