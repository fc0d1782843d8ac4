import NetworkGateway.Dal.Inventory
import NetworkGateway.Dal.StaticRoutes

/-! The checks of the store: what they accept, and that they accept what they have normalized. -/

namespace NetworkGateway.Store

theorem text_ok {value : Value} {label : String} {required : Bool} {limit : Nat} {read : String} :
    text value label required limit = .ok read ↔ ∃ s, value = .str s ∧ s.length ≤ limit ∧ Char.ofNat 0 ∉ s.toList ∧
      (required = true → Text.strip s ≠ "") ∧ read = if required then Text.strip s else s := by
  unfold text
  cases value with
  | str s =>
      dsimp only
      by_cases bounds : (decide (limit < s.length) || s.toList.contains (Char.ofNat 0)) = true
      · rw [if_pos bounds]
        constructor
        · nofun
        · rintro ⟨t, same, short, clean, -⟩
          rw [← Value.str.inj same] at short clean
          rw [Bool.or_eq_true, decide_eq_true_iff, List.contains_iff_mem] at bounds
          rcases bounds with long | nul
          · exact absurd long (Nat.not_lt.mpr short)
          · exact absurd nul clean
      · rw [if_neg bounds]
        rw [Bool.or_eq_true, decide_eq_true_iff, List.contains_iff_mem, not_or, Nat.not_lt] at bounds
        have only : (∃ t, Value.str s = .str t ∧ t.length ≤ limit ∧ Char.ofNat 0 ∉ t.toList ∧
            (required = true → Text.strip t ≠ "") ∧ read = if required then Text.strip t else t) ↔
            (required = true → Text.strip s ≠ "") ∧ read = if required then Text.strip s else s := by
          constructor
          · rintro ⟨t, same, -, -, rest⟩
            rw [Value.str.inj same]
            exact rest
          · intro rest
            exact ⟨s, rfl, bounds.1, bounds.2, rest⟩
        rw [only]
        cases required with
        | false =>
            constructor
            · intro same
              exact ⟨nofun, (Except.ok.inj same).symm⟩
            · rintro ⟨-, rfl⟩
              rfl
        | true =>
            rw [if_pos rfl, if_pos rfl]
            by_cases blank : Text.strip s = ""
            · rw [if_pos blank]
              constructor
              · nofun
              · intro rest
                exact absurd blank (rest.1 rfl)
            · rw [if_neg blank]
              constructor
              · intro same
                exact ⟨fun _ => blank, (Except.ok.inj same).symm⟩
              · rintro ⟨-, rfl⟩
                rfl
  | none | bool | int | float | list | dict => simp

theorem port_ok {value : Value} {number : Port} : port value = .ok number ↔ value = .int number.1 := by
  unfold port
  cases value with
  | int n =>
      dsimp only
      split
      · rename_i inRange
        simp [Subtype.ext_iff]
      · rename_i outside
        constructor
        · nofun
        · intro same
          rw [Value.int.inj same] at outside
          exact absurd number.2 outside
  | none | bool | str | float | list | dict => simp

theorem metric_ok {value : Value} {number : Metric} : metric value = .ok number ↔ value = .int number.1 := by
  unfold metric
  cases value with
  | int n =>
      dsimp only
      split
      · rename_i inRange
        simp [Subtype.ext_iff]
      · rename_i outside
        constructor
        · nofun
        · intro same
          rw [Value.int.inj same] at outside
          exact absurd number.2 outside
  | none | bool | str | float | list | dict => simp

theorem routeEnabled_ok {value : Value} {enabled : Bool} :
    routeEnabled value = .ok enabled ↔ value = .bool enabled := by
  cases value <;> simp [routeEnabled]

theorem routeAddresses_ok {Token : Type} {P : Platform Token} {destination nextHop : Value}
    {texts : String × String} :
    routeAddresses P destination nextHop = .ok texts ↔ ∃ prefixText hopText network address,
      destination = .str prefixText ∧ nextHop = .str hopText ∧ prefixShape prefixText = true ∧
      ('%' ∉ prefixText.toList ∧ '%' ∉ hopText.toList) ∧ P.ipNetwork prefixText = some network ∧
      P.ipAddress hopText = some address ∧ network.version = address.version ∧
      texts = (P.strNetwork network, P.strAddress address) := by
  constructor
  · intro accepted
    unfold routeAddresses at accepted
    split at accepted
    · rename_i prefixText hopText
      split at accepted
      · rename_i checked
        simp only [Bool.and_eq_true, Bool.not_eq_true', List.contains_eq_mem, decide_eq_false_iff_not] at checked
        split at accepted
        · rename_i network address parsed read
          split at accepted
          · rename_i family
            exact ⟨prefixText, hopText, network, address, rfl, rfl, checked.1.1, ⟨checked.1.2, checked.2⟩, parsed, read,
              family, (Except.ok.inj accepted).symm⟩
          · cases accepted
        · cases accepted
      · cases accepted
    · cases accepted
  · rintro ⟨prefixText, hopText, network, address, rfl, rfl, shape, ⟨clean, plain⟩, parsed, read, family, rfl⟩
    have checked : (prefixShape prefixText && !prefixText.toList.contains '%' && !hopText.toList.contains '%') =
        true := by
      simp [shape, clean, plain]
    unfold routeAddresses
    dsimp only
    rw [if_pos checked, parsed, read]
    exact if_pos family

end NetworkGateway.Store
