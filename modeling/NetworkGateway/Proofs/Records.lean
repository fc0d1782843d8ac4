import NetworkGateway.Proofs.Audit

/-! Which transaction records the store accepts. -/

namespace NetworkGateway.Store

open Library Library.Result

def Fits (s : String) (limit : Nat) : Prop := s.length ≤ limit ∧ Char.ofNat 0 ∉ s.toList

theorem fits_iff (s : String) (limit : Nat) :
    (decide (limit < s.length) || s.toList.contains (Char.ofNat 0)) = false ↔ Fits s limit := by
  simp [Fits]

theorem text_fits {s : String} {limit : Nat} (label : String) (required : Bool) (fits : Fits s limit) :
    text (.str s) label required limit =
      if required then
        if Text.strip s = "" then .error (invalid (Text.capitalize label ++ " is required."))
        else .ok (Text.strip s)
      else .ok s := by
  have within := (fits_iff s limit).mpr fits
  simp only [text]
  rw [within]
  rfl

theorem text_refused {s : String} {limit : Nat} (label : String) (required : Bool) (wrong : ¬Fits s limit) :
    text (.str s) label required limit = .error (invalid ("Invalid " ++ label ++ ".")) := by
  rw [← fits_iff, Bool.not_eq_false] at wrong
  simp only [text]
  rw [wrong]
  rfl

theorem text_accepts (s label : String) (limit : Nat) :
    (∃ read, text (.str s) label false limit = .ok read) ↔ Fits s limit := by
  by_cases fits : Fits s limit
  · rw [text_fits label false fits]
    simp [fits]
  · rw [text_refused label false fits]
    simp [fits]

theorem text_accepts_required (s label : String) (limit : Nat) :
    (∃ read, text (.str s) label true limit = .ok read) ↔ Fits s limit ∧ Text.strip s ≠ "" := by
  by_cases fits : Fits s limit
  · rw [text_fits label true fits]
    by_cases blank : Text.strip s = "" <;> simp [fits, blank]
  · rw [text_refused label true fits]
    simp [fits]

theorem optionalText_accepts (s : Option String) (label : String) (limit : Nat) :
    (∃ read, optionalText (Value.ofOption s) label limit = .ok read) ↔ ∀ held ∈ s, Fits held limit := by
  cases s with
  | none => simp [optionalText, Value.ofOption]
  | some held =>
      have accepts := text_accepts held label limit
      simp only [optionalText, Value.ofOption, reduceCtorEq, if_false, bind_eq_ok, pure_eq, Except.ok.injEq,
        Option.mem_def, Option.some.injEq, forall_eq']
      rw [← accepts]
      constructor
      · intro found
        rcases found with ⟨_, read, returned, _⟩
        exact ⟨read, returned⟩
      · intro found
        rcases found with ⟨read, returned⟩
        exact ⟨some read, read, returned, rfl⟩

theorem optionalUuid_accepts (s : Option String) (label : String) :
    (∃ read, optionalUuid (Value.ofOption s) label = .ok read) ↔ ∀ held ∈ s, (Uuid.parse held).isSome := by
  cases s with
  | none => simp [optionalUuid, Value.ofOption]
  | some held =>
      simp only [optionalUuid, Value.ofOption, reduceCtorEq, if_false, bind_eq_ok, pure_eq, Except.ok.injEq,
        Option.mem_def, Option.some.injEq, forall_eq', validateUuid]
      cases Uuid.parse held <;> simp

/-- The actor fields of a payload pass their checks. -/
structure ActorAccepted (payload : Dict) : Prop where
  subject : ∃ read, text (Dict.get payload "actor_subject") "actor_subject" true 255 = .ok read
  tenant : ∃ read, optionalUuid (Dict.get payload "actor_tenant_id") "actor_tenant_id" = .ok read
  name : ∃ read, text (Dict.get payload "actor_name") "actor_name" true 200 = .ok read
  email : ∃ read, optionalText (Dict.get payload "actor_email") "actor_email" 320 = .ok read
  roles : ∃ read, actorRoles (Dict.get payload "actor_roles") = .ok read
  mode : ∃ read, authMode (Dict.get payload "auth_mode") = .ok read

structure OperationAccepted (fresh : Fresh) (payload : Dict) : Prop where
  correlationId : ∃ read, correlation fresh (Dict.get payload "correlation_id") = .ok read
  action : ∃ read, text (Dict.get payload "action") "action" true 100 = .ok read
  resourceType : ∃ read, text (Dict.get payload "resource_type") "resource_type" true 64 = .ok read
  resourceId : ∃ read, optionalText (Dict.get payload "resource_id") "resource_id" 64 = .ok read
  connectionId : ∃ read, optionalUuid (Dict.get payload "connection_id") "connection_id" = .ok read
  result : ∃ read, outcome (Dict.get payload "outcome") = .ok read
  beforeState : ∃ read, auditState (Dict.get payload "before_state") "before_state" = .ok read
  afterState : ∃ read, auditState (Dict.get payload "after_state") "after_state" = .ok read
  detail : ∃ read, optionalText (Dict.get payload "detail") "detail" 4000 = .ok read
  requestMethod : ∃ read, optionalText (Dict.get payload "request_method") "request_method" 10 = .ok read
  requestPath : ∃ read, optionalText (Dict.get payload "request_path") "request_path" 2048 = .ok read

theorem validateTransaction_accepts (fresh : Fresh) (payload : Dict) :
    (∃ record, validateTransaction fresh (.dict payload) = .ok record) ↔
      ActorAccepted payload ∧ OperationAccepted fresh payload := by
  simp only [validateTransaction, bind_eq_ok, pure_eq, Except.ok.injEq]
  constructor
  · rintro ⟨_, a, ha, b, hb, c, hc, d, hd, e, he, f, hf, g, hg, h, hh, i, hi, j, hj, k, hk, l, hl, m, hm, n, hn,
      o, ho, p, hp, q, hq, -⟩
    exact ⟨⟨⟨b, hb⟩, ⟨c, hc⟩, ⟨d, hd⟩, ⟨e, he⟩, ⟨f, hf⟩, ⟨g, hg⟩⟩,
      ⟨⟨a, ha⟩, ⟨h, hh⟩, ⟨i, hi⟩, ⟨j, hj⟩, ⟨k, hk⟩, ⟨l, hl⟩, ⟨m, hm⟩, ⟨n, hn⟩, ⟨o, ho⟩, ⟨p, hp⟩, ⟨q, hq⟩⟩⟩
  · rintro ⟨⟨⟨b, hb⟩, ⟨c, hc⟩, ⟨d, hd⟩, ⟨e, he⟩, ⟨f, hf⟩, ⟨g, hg⟩⟩,
      ⟨⟨a, ha⟩, ⟨h, hh⟩, ⟨i, hi⟩, ⟨j, hj⟩, ⟨k, hk⟩, ⟨l, hl⟩, ⟨m, hm⟩, ⟨n, hn⟩, ⟨o, ho⟩, ⟨p, hp⟩, ⟨q, hq⟩⟩⟩
    exact ⟨_, a, ha, b, hb, c, hc, d, hd, e, he, f, hf, g, hg, h, hh, i, hi, j, hj, k, hk, l, hl, m, hm, n, hn,
      o, ho, p, hp, q, hq, rfl⟩

def actorKeys : List String :=
  ["actor_subject", "actor_tenant_id", "actor_name", "actor_email", "actor_roles", "auth_mode"]

theorem ActorAccepted.congr {payload other : Dict} (accepted : ActorAccepted payload)
    (same : ∀ key ∈ actorKeys, other.lookup key = payload.lookup key) : ActorAccepted other := by
  have get : ∀ key ∈ actorKeys, Dict.get other key = Dict.get payload key := by
    intro key member
    rw [Dict.get_eq, Dict.get_eq, same key member]
  constructor
  · rw [get _ (by decide)]
    exact accepted.subject
  · rw [get _ (by decide)]
    exact accepted.tenant
  · rw [get _ (by decide)]
    exact accepted.name
  · rw [get _ (by decide)]
    exact accepted.email
  · rw [get _ (by decide)]
    exact accepted.roles
  · rw [get _ (by decide)]
    exact accepted.mode

/-- Besides the actor, the detail of a payload can be another one that is accepted. -/
theorem OperationAccepted.redetail {fresh : Fresh} {payload other : Dict} (accepted : OperationAccepted fresh payload)
    (same : ∀ key ∉ "detail" :: actorKeys, other.lookup key = payload.lookup key)
    (detail : ∃ read, optionalText (Dict.get other "detail") "detail" 4000 = .ok read) : OperationAccepted fresh other := by
  have get : ∀ key ∉ "detail" :: actorKeys, Dict.get other key = Dict.get payload key := by
    intro key outside
    rw [Dict.get_eq, Dict.get_eq, same key outside]
  constructor
  · rw [get _ (by decide)]
    exact accepted.correlationId
  · rw [get _ (by decide)]
    exact accepted.action
  · rw [get _ (by decide)]
    exact accepted.resourceType
  · rw [get _ (by decide)]
    exact accepted.resourceId
  · rw [get _ (by decide)]
    exact accepted.connectionId
  · rw [get _ (by decide)]
    exact accepted.result
  · rw [get _ (by decide)]
    exact accepted.beforeState
  · rw [get _ (by decide)]
    exact accepted.afterState
  · exact detail
  · rw [get _ (by decide)]
    exact accepted.requestMethod
  · rw [get _ (by decide)]
    exact accepted.requestPath

theorem OperationAccepted.congr {fresh : Fresh} {payload other : Dict} (accepted : OperationAccepted fresh payload)
    (same : ∀ key ∉ actorKeys, other.lookup key = payload.lookup key) : OperationAccepted fresh other := by
  apply accepted.redetail
  · intro key outside
    exact same key (fun member => outside (List.mem_cons_of_mem _ member))
  · rw [Dict.get_eq, same "detail" (by decide), ← Dict.get_eq]
    exact accepted.detail

end NetworkGateway.Store
