import NetworkGateway.Dal.Connectors
import NetworkGateway.Python.Address

/-! What `validate_profile` makes sure of. -/

namespace NetworkGateway.Connectors

open Library.Result Library.Scan

variable {Token : Type} {N : Libraries Token}

/-- What the texts `ipaddress` reads consist of, and how a loopback address is printed. -/
structure AddressLaws (N : Libraries Token) : Prop where
  empty : N.ipAddress "" = none
  version : ∀ text address, N.ipAddress text = some address →
    address.version = 4 ∧ address.value < 4294967296 ∨
      address.version = 6 ∧ address.value < 340282366920938463463374607431768211456
  characters : ∀ text address, N.ipAddress text = some address → '%' ∉ text.toList →
    ∀ c ∈ text.toList, Address.isHex c ∨ c = '.' ∨ c = ':'
  colon : ∀ text address, N.ipAddress text = some address → (':' ∈ text.toList ↔ address.version = 6)
  localhost : N.ipAddress "127.0.0.1" = some ⟨4, 2130706433⟩
  printed : ∀ text address, N.ipAddress text = some address → isLoopback address →
    N.ipAddress (N.strAddress address) = some address ∧ '%' ∉ (N.strAddress address).toList

/-- The laws hold of the module itself. -/
theorem addressLaws (reads : N.ipAddress = Address.ipAddress) (prints : N.strAddress = Address.strAddress) :
    AddressLaws N where
  empty := by
    rw [reads]
    decide +kernel
  version := by
    intro text address read
    rw [reads] at read
    rcases Address.ipAddress_ok read with ⟨four, held⟩ | ⟨six, held⟩
    · exact .inl ⟨four, (Address.ipv4_ok held).2⟩
    · exact .inr ⟨six, (Address.ipv6_ok held).1⟩
  characters := by
    intro text address read whole c member
    rw [reads] at read
    rcases Address.ipAddress_ok read with ⟨-, held⟩ | ⟨-, held⟩
    · rcases (Address.ipv4_ok held).1 c member with digit | dot
      · exact .inl (by simp [Address.isHex, digit])
      · exact .inr (.inl dot)
    · exact (Address.ipv6_ok held).2.2 whole c member
  colon := by
    intro text address read
    rw [reads] at read
    rcases Address.ipAddress_ok read with ⟨four, held⟩ | ⟨six, held⟩
    · constructor
      · intro member
        rcases (Address.ipv4_ok held).1 ':' member with digit | dot
        · cases digit
        · cases dot
      · intro six
        rw [four] at six
        cases six
    · exact ⟨fun _ => six, fun _ => (Address.ipv6_ok held).2.1⟩
  localhost := by
    rw [reads]
    decide +kernel
  printed := by
    intro text address read loopback
    rw [reads] at read ⊢
    rw [prints]
    rcases Address.ipAddress_ok read with ⟨four, held⟩ | ⟨six, held⟩
    · have small := (Address.ipv4_ok held).2
      cases address with
      | mk version value =>
          simp only at four held small
          subst four
          have text : (Address.strAddress ⟨4, value⟩).toList = Address.dotted value := by
            simp [Address.strAddress]
          rw [text]
          refine ⟨?_, Address.dotted_unscoped value⟩
          unfold Address.ipAddress
          rw [text, Address.ipv4_dotted small]
    · cases address with
      | mk version value =>
          simp only at six
          subst six
          have one : value = 1 := by simpa [isLoopback] using loopback
          rw [one]
          decide +kernel

structure HostText (N : Libraries Token) (text : String) : Prop where
  present : text ≠ ""
  unscoped : '%' ∉ text.toList
  named : N.ipAddress text = none → hostname text = true

theorem host_ok {value : Value} {text : String} (accepted : host N value = .ok text) : HostText N text := by
  unfold host at accepted
  cases value with
  | str s =>
      simp only at accepted
      split at accepted
      · cases accepted
      · rename_i plain
        simp only [Bool.or_eq_true, not_or, decide_eq_true_iff, List.contains_iff_mem] at plain
        split at accepted
        · rename_i literal
          cases accepted
          refine ⟨plain.1.1, plain.2, ?_⟩
          intro unread
          rw [unread] at literal
          cases literal
        · split at accepted
          · cases accepted
          · rename_i name
            cases accepted
            refine ⟨plain.1.1, plain.2, fun _ => ?_⟩
            simp only [Bool.or_eq_true, not_or, Bool.not_eq_true', Bool.not_eq_false] at name
            exact name.1
  | none | bool | int | float | list | dict => cases accepted

/-- The host a connection is made to: the text of the profile, or in demo mode a loopback address. -/
theorem networkHost_ok (laws : AddressLaws N) {text network : String} {demoMode : Bool} (valid : HostText N text)
    (placed : networkHost N demoMode text = .ok network) : HostText N network := by
  unfold networkHost at placed
  cases demoMode with
  | false =>
      cases placed
      exact valid
  | true =>
      simp only [if_true, loopbackHost] at placed
      split at placed
      · cases placed
        refine ⟨by decide, by decide, fun _ => by decide +kernel⟩
      · split at placed
        · cases placed
        · rename_i address read
          split at placed
          · rename_i loopback
            cases placed
            rcases laws.printed text address read loopback with ⟨again, unscoped⟩
            refine ⟨?_, unscoped, ?_⟩
            · intro empty
              rw [empty, laws.empty] at again
              cases again
            · intro unread
              rw [again] at unread
              cases unread
          · cases placed

structure LoginText (text : String) : Prop where
  present : text ≠ ""
  bounded : text.length ≤ 4096
  printable : ∀ c ∈ text.toList, 32 ≤ c.toNat ∧ c.toNat ≠ 127

theorem textItem_ok {auth : Dict} {key text : String} (item : textItem auth key = .ok text) :
    auth.lookup key = some (.str text) := by
  unfold textItem at item
  split at item
  · cases item
  · rename_i held
    cases item
    exact held
  · cases item

theorem loginField_text {auth : Dict} {key : String} (checked : loginField (Dict.get auth key) = true)
    (given : (Dict.get auth key).truthy = true) : ∃ text, textItem auth key = .ok text ∧ LoginText text := by
  rw [Dict.get_eq] at checked given
  unfold textItem
  cases held : auth.lookup key with
  | none =>
      rw [held] at given
      cases given
  | some value =>
      rw [held, Option.getD_some] at checked given
      cases value with
      | str text =>
          simp only [loginField, Bool.and_eq_true, decide_eq_true_iff, List.all_eq_true, bne_iff_ne, ne_eq] at checked
          refine ⟨text, rfl, ?_, checked.1, checked.2⟩
          rintro rfl
          cases given
      | none => cases given
      | bool | int | float | list | dict => cases checked

/-- A login without SSH has a name and a password, or neither where none is required. -/
theorem authFields_login {auth : Dict} {required : Bool} (accepted : authFields auth required false = .ok ()) :
    (∃ username password, textItem auth "username" = .ok username ∧ textItem auth "password" = .ok password ∧
      LoginText username ∧ LoginText password ∧ (Dict.get auth "username").truthy = true) ∨
    required = false ∧ (Dict.get auth "username").truthy = false := by
  unfold authFields at accepted
  simp only [bind_eq_ok, raiseWhen_ok] at accepted
  rcases accepted with ⟨_, named, _, bounded, method, _, _, _, accepted⟩
  rw [List.any_eq_false] at bounded
  have username := bounded "username" (by decide)
  have password := bounded "password" (by decide)
  rw [Bool.not_eq_true', Bool.not_eq_false] at username password
  generalize Dict.getOr auth "authentication_type"
    (.str (if ((Dict.get auth "private_key").truthy || (Dict.get auth "private_key_path").truthy) = true then "ssh_key"
      else "password")) = chosen at accepted
  split at accepted
  · simp only [Bool.not_false, raiseWhen_true, error_bind] at accepted
    cases accepted
  · split at accepted
    · rename_i needed
      rw [raiseWhen_ok, Bool.not_eq_false'] at accepted
      rw [needed, Bool.true_and, Bool.or_eq_false_iff, Bool.not_eq_false', Bool.not_eq_false'] at named
      rcases loginField_text username named.2 with ⟨user, held, userText⟩
      rcases loginField_text password accepted with ⟨secret, kept, secretText⟩
      exact .inl ⟨user, secret, held, kept, userText, secretText, named.2⟩
    · rename_i optional
      rw [raiseWhen_ok, bne_eq_false_iff_eq] at accepted
      cases given : (Dict.get auth "username").truthy with
      | true =>
          rcases loginField_text username given with ⟨user, held, userText⟩
          rcases loginField_text password (accepted.symm.trans given) with ⟨secret, kept, secretText⟩
          exact .inl ⟨user, secret, held, kept, userText, secretText, rfl⟩
      | false => exact .inr ⟨by simpa using optional, rfl⟩

/-- What an accepted profile guarantees of its device and its connector. -/
structure Accepted (N : Libraries Token) (device : Device) (connector : Connector) : Prop where
  target : HostText N device.networkHost
  login : authFields device.auth true (device.protocol != .telnet) = .ok ()
  proxy : ∀ kind endpoint, connector = .proxy kind endpoint →
    HostText N endpoint.networkHost ∧ proxyAuth endpoint.auth (some kind) = .ok () ∧
      (kind = .sshShell → device.protocol = .telnet)

/-- A host of the profile is checked, and then the host a connection is made to is taken from it. -/
def Placed (N : Libraries Token) (demoMode : Bool) (network : String) : Prop :=
  ∃ value text, host N value = .ok text ∧ networkHost N demoMode text = .ok network

theorem validateProfile_ok {profile : Value} {demoMode : Bool} {device : Device} {connector : Connector}
    {seconds : Timeout} (accepted : validateProfile N profile demoMode = .ok (device, connector, seconds)) :
    Placed N demoMode device.networkHost ∧ authFields device.auth true (device.protocol != .telnet) = .ok () ∧
      ∀ kind endpoint, connector = .proxy kind endpoint →
        Placed N demoMode endpoint.networkHost ∧ proxyAuth endpoint.auth (some kind) = .ok () ∧
          (kind = .sshShell → device.protocol = .telnet) := by
  simp only [validateProfile, bind_eq_ok, raiseWhen_ok, pure_eq, Except.ok.injEq, Prod.mk.injEq] at accepted
  rcases accepted with ⟨entries, _, protocol, _, _, _, object, _, kind, _, _, _, _, shell, text, read, port, _, address,
    addressed, timeout, _, network, placed, access, entered, _, _, _, login, _, proxied, rfl, rfl, _⟩
  refine ⟨⟨_, text, read, placed⟩, login, ?_⟩
  intro type endpoint same
  cases kind with
  | none =>
      simp only [proxyAddress, Except.ok.injEq] at addressed
      rw [← addressed] at entered
      cases entered
      cases same
  | some kind =>
      simp only [proxyAddress, bind_eq_ok, pure_eq, Except.ok.injEq] at addressed
      rcases addressed with ⟨ownHost, hostRead, ownPort, _, rfl⟩
      simp only [proxyEndpoint, bind_eq_ok, pure_eq, Except.ok.injEq] at entered
      rcases entered with ⟨ownNetwork, ownPlaced, rfl⟩
      cases same
      refine ⟨⟨_, ownHost, hostRead, ownPlaced⟩, proxied, ?_⟩
      rintro rfl
      simpa using shell

theorem Placed.hostText (laws : AddressLaws N) {demoMode : Bool} {network : String} (placed : Placed N demoMode network) :
    HostText N network := by
  rcases placed with ⟨value, text, read, taken⟩
  exact networkHost_ok laws (host_ok read) taken

theorem validateProfile_accepted (laws : AddressLaws N) {profile : Value} {demoMode : Bool} {device : Device}
    {connector : Connector} {seconds : Timeout}
    (accepted : validateProfile N profile demoMode = .ok (device, connector, seconds)) :
    Accepted N device connector := by
  rcases validateProfile_ok accepted with ⟨placed, login, proxied⟩
  refine ⟨placed.hostText laws, login, ?_⟩
  intro kind endpoint same
  rcases proxied kind endpoint same with ⟨ownPlaced, auth, shell⟩
  exact ⟨ownPlaced.hostText laws, auth, shell⟩

def LoopbackText (N : Libraries Token) (host : String) : Prop :=
  ∃ address, N.ipAddress host = some address ∧ isLoopback address

theorem Placed.loopback (laws : AddressLaws N) {network : String} (placed : Placed N true network) :
    LoopbackText N network := by
  rcases placed with ⟨value, text, -, taken⟩
  simp only [networkHost, if_true, loopbackHost] at taken
  split at taken
  · cases taken
    exact ⟨_, laws.localhost, by decide⟩
  · split at taken
    · cases taken
    · rename_i address read
      split at taken
      · rename_i loopback
        cases taken
        exact ⟨address, (laws.printed text address read loopback).1, loopback⟩
      · cases taken

end NetworkGateway.Connectors
