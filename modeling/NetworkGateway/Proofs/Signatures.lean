import NetworkGateway.Proofs.Attempts

/-! What a record of the transaction log says about the attempt it was written for. -/

namespace NetworkGateway.Store

open Auth Library Library.Dict Library.Result DeviceData

structure Signature (attempt : Attempt) (change : DeviceData.Change) (connectionId : String) (record : TransactionRow) : Prop where
  correlationId : record.correlationId = attempt.correlationId
  subject : record.actorSubject = Text.strip attempt.actor.subject
  tenant : record.actorTenantId = attempt.actor.tenantId.bind Uuid.parse
  name : record.actorName = Text.strip attempt.actor.name
  email : record.actorEmail = attempt.actor.email
  roles : record.actorRoles = (GatewayRole.sorted attempt.actor.roles).map GatewayRole.text
  mode : record.authMode = attempt.actor.authMode
  action : record.action = change.action
  resourceType : record.resourceType = "static_route"
  connectionId : record.connectionId = Uuid.parse connectionId
  requestMethod : record.requestMethod = some attempt.requestMethod
  requestPath : record.requestPath = some attempt.requestPath

theorem text_read {s label read : String} {required : Bool} {limit : Nat} (accepted : text (.str s) label required limit = .ok read) :
    read = if required then Text.strip s else s := by
  by_cases fits : Fits s limit
  · rw [text_fits label required fits] at accepted
    cases required with
    | true =>
        rw [if_pos rfl] at accepted ⊢
        split at accepted
        · cases accepted
        · exact (Except.ok.inj accepted).symm
    | false =>
        rw [if_neg Bool.false_ne_true] at accepted ⊢
        exact (Except.ok.inj accepted).symm
  · rw [text_refused label required fits] at accepted
    cases accepted

theorem optionalText_ofOption {s read : Option String} {label : String} {limit : Nat}
    (accepted : optionalText (Value.ofOption s) label limit = .ok read) : read = s := by
  cases s with
  | none => exact (Except.ok.inj accepted).symm
  | some held => exact optionalText_str accepted

theorem optionalUuid_ofOption {s read : Option String} {label : String}
    (accepted : optionalUuid (Value.ofOption s) label = .ok read) : read = s.bind Uuid.parse := by
  cases s with
  | none => exact (Except.ok.inj accepted).symm
  | some held =>
      have present : Value.ofOption (some held) ≠ .none := by simp [Value.ofOption]
      rw [optionalUuid, if_neg present] at accepted
      simp only [Value.ofOption, validateUuid, bind_eq_ok, pure_eq, Except.ok.injEq] at accepted
      rcases accepted with ⟨parsed, found, rfl⟩
      rw [Option.bind_some]
      split at found
      · rename_i read
        rw [read, Except.ok.inj found]
      · cases found

theorem actorRoles_ok {roles : Finset GatewayRole} {read : List String}
    (accepted : actorRoles (.list ((GatewayRole.sorted roles).map (fun role => .str role.text))) = .ok read) :
    read = (GatewayRole.sorted roles).map GatewayRole.text := by
  have texts : Value.strings ((GatewayRole.sorted roles).map (fun role => .str role.text)) =
      some ((GatewayRole.sorted roles).map GatewayRole.text) := by
    rw [Value.strings_eq_some, List.map_map]
    rfl
  unfold actorRoles at accepted
  simp only [texts] at accepted
  split at accepted
  · rw [← Except.ok.inj accepted]
    by_cases admin : GatewayRole.administrator ∈ roles <;> by_cases operator : GatewayRole.operator ∈ roles <;>
      by_cases viewer : GatewayRole.viewer ∈ roles <;>
      simp [GatewayRole.sorted, admin, operator, viewer, gatewayRoles, GatewayRole.text]
  · cases accepted

theorem authMode_ok {mode read : AuthMode} (accepted : authMode (.str mode.text) = .ok read) : read = mode := by
  cases mode <;> exact (Except.ok.inj accepted).symm

theorem correlation_ok {fresh : Fresh} {id read : String} (canonical : Uuid.parse id = some id)
    (accepted : correlation fresh (.str id) = .ok read) : read = id := by
  have given : (Value.str id).truthy = true := by
    by_contra blank
    have empty : id = "" := by simpa [Value.truthy] using blank
    rw [empty] at canonical
    cases canonical
  rw [correlation, if_pos given, validateUuid] at accepted
  simp only [canonical] at accepted
  exact (Except.ok.inj accepted).symm

theorem action_strip (change : DeviceData.Change) : Text.strip change.action = change.action := by
  have stripped : ∀ action ∈ ["static_route.create", "static_route.update", "static_route.delete"],
      Text.strip action = action := by decide
  apply stripped
  cases change <;> simp [DeviceData.Change.action]

theorem validateTransaction_signed {fresh : Fresh} {attempt : Attempt} {change : DeviceData.Change} {connectionId : String}
    {payload : Dict} {record : TransactionRow} (canonical : Uuid.parse attempt.correlationId = some attempt.correlationId)
    (context : ∀ key ∈ (auditContext attempt change.action).map Prod.fst,
      Dict.get payload key = Dict.get (auditContext attempt change.action) key)
    (resourceType : Dict.get payload "resource_type" = .str "static_route")
    (connection : Dict.get payload "connection_id" = .str connectionId)
    (valid : validateTransaction fresh (.dict payload) = .ok record) : Signature attempt change connectionId record := by
  simp only [validateTransaction, bind_eq_ok, pure_eq, Except.ok.injEq] at valid
  rcases valid with ⟨_, correlated, _, subject, _, tenant, _, name, _, email, _, roles, _, mode, _, acted, _, kind, _, -,
    _, connected, _, -, _, -, _, -, _, -, _, method, _, path, rfl⟩
  rw [context _ (by simp [auditContext])] at correlated subject tenant name email roles mode acted method path
  rw [resourceType] at kind
  rw [connection] at connected
  refine ⟨correlation_ok canonical correlated, ?_, optionalUuid_ofOption tenant, ?_, optionalText_ofOption email,
    actorRoles_ok roles, authMode_ok mode, ?_, ?_, ?_, optionalText_str method, optionalText_str path⟩
  · exact text_read subject
  · exact text_read name
  · exact (text_read acted).trans (action_strip change)
  · exact text_read kind
  · exact optionalUuid_ofOption (s := some connectionId) connected

section

variable {attempt : Attempt} {change : DeviceData.Change} {connectionId resourceId : String} {fresh : Fresh}

theorem Audited.signed {Token : Type} {before after : Value} {mutated written : Db Token} {record : TransactionRow}
    (canonical : Uuid.parse attempt.correlationId = some attempt.correlationId)
    (audited : Audited fresh (withDetail (auditContext attempt change.action) change.detail) resourceId connectionId
      before after mutated written record) : Signature attempt change connectionId record := by
  rcases audited with ⟨payload, built, inserted⟩
  simp only [auditPayload, withDetail, bind_eq_ok, asDict_ok, pure_eq, Except.ok.injEq, Value.dict.injEq] at built
  rcases built with ⟨entries, rfl, rfl⟩
  have valid := (insertTransaction_ok.mp inserted).1
  apply validateTransaction_signed canonical _ _ _ valid
  · intro key listed
    simp only [auditContext, List.map_cons, List.map_nil, List.mem_cons, List.not_mem_nil, or_false] at listed
    rw [Dict.get_eq, Dict.get_eq, lookup_merge, lookup_merge]
    rcases listed with rfl | rfl | rfl | rfl | rfl | rfl | rfl | rfl | rfl | rfl <;> rfl
  · rw [Dict.get_eq, lookup_merge]
    rfl
  · rw [Dict.get_eq, lookup_merge]
    rfl

theorem failure_signed {detail : String} {record : TransactionRow}
    (canonical : Uuid.parse attempt.correlationId = some attempt.correlationId)
    (valid : validateTransaction fresh (.dict (failurePayload (auditContext attempt change.action) change.resourceId
      connectionId detail)) = .ok record) : Signature attempt change connectionId record ∧ record.outcome = .failed := by
  constructor
  · apply validateTransaction_signed canonical _ _ _ valid
    · intro key listed
      simp only [auditContext, List.map_cons, List.map_nil, List.mem_cons, List.not_mem_nil, or_false] at listed
      rw [failurePayload, Dict.get_eq, Dict.get_eq, lookup_merge]
      rcases listed with rfl | rfl | rfl | rfl | rfl | rfl | rfl | rfl | rfl | rfl <;> rfl
    · rw [failurePayload, Dict.get_eq, lookup_merge]
      rfl
    · rw [failurePayload, Dict.get_eq, lookup_merge]
      rfl
  · have result := (validateTransaction_ok valid).2.2.1
    rw [failurePayload, Dict.get_eq, lookup_merge] at result
    exact (Except.ok.inj result).symm

end

end NetworkGateway.Store
