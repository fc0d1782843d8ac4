import NetworkGateway.Dal.Network
import NetworkGateway.Python.Address

/-! A platform the model can be run on: tokens that name their key, and
`ipaddress` on the documentation networks. -/

namespace NetworkGateway.Platform

/-- A token under the fixed randomness of the bench: the key and the plaintext. -/
abbrev SealedToken := String × Value

def benchNetworks : List (String × IpNetwork) :=
  [("198.51.100.0/24", ⟨4, 3325256704, 24⟩), ("203.0.113.0/24", ⟨4, 3405803776, 24⟩),
   ("2001:db8:2::/64", ⟨6, 42540766411285010708543214210003238912, 64⟩)]

def benchAddresses : List (String × IpAddress) :=
  [("192.0.2.1", ⟨4, 3221225985⟩),
   ("2001:db8:1::1", ⟨6, 42540766411283801782723599580828532737⟩)]

def textOf {α : Type} [DecidableEq α] (table : List (String × α)) (value : α) : String :=
  ((table.find? (fun e => e.2 = value)).map Prod.fst).getD ""

def bench : Platform SealedToken where
  validKey key := key.length == 44
  encrypt key _ value := (key, value)
  decrypt key token := if token.1 = key then some token.2 else none
  validatePrivateKey value _ := value.isStr
  repr _ := ""
  lower := String.toLower
  ipNetwork text := benchNetworks.lookup text
  ipAddress text := benchAddresses.lookup text
  strNetwork := textOf benchNetworks
  strAddress := textOf benchAddresses

theorem bench_vaultLaws : bench.VaultLaws where
  decrypt_encrypt key iv value := if_pos rfl
  authentic key other iv value read opened := by
    have opened : (if key = other then some value else none) = some read := opened
    split at opened
    · exact (Option.some.inj opened).symm
    · cases opened

theorem lookup_textOf {α : Type} [DecidableEq α] {table : List (String × α)}
    (distinct : (table.map Prod.fst).Nodup) {text : String} {value : α}
    (found : table.lookup text = some value) : table.lookup (textOf table value) = some value := by
  obtain ⟨before, after, rfl, -⟩ := List.lookup_eq_some_iff.mp found
  obtain ⟨entry, hit⟩ : ∃ entry, (before ++ (text, value) :: after).find? (fun e => e.2 = value) = some entry := by
    rw [← Option.isSome_iff_exists, List.find?_isSome]
    exact ⟨(text, value), by simp, decide_eq_true rfl⟩
  have member := List.mem_of_find?_eq_some hit
  have same : entry.2 = value := by simpa using List.find?_some hit
  unfold textOf
  rw [hit]
  obtain ⟨first, last, split⟩ := List.append_of_mem member
  rw [split] at distinct ⊢
  rw [List.lookup_eq_some_iff]
  refine ⟨first, last, by rw [← same]; rfl, ?_⟩
  intro other listed
  rw [List.map_append, List.nodup_append] at distinct
  have apart := distinct.2.2 other.1 (List.mem_map_of_mem (f := Prod.fst) listed) entry.1 (by simp)
  exact bne_iff_ne.mpr apart.symm

theorem bench_ipLaws : bench.IpLaws where
  parse_strNetwork _ _ found := lookup_textOf (by decide) found
  parse_strAddress _ _ found := lookup_textOf (by decide) found

end NetworkGateway.Platform

namespace NetworkGateway.Bench

/-- The bench's platform for connection tests without key files and XML. -/
def libraries : Libraries Platform.SealedToken where
  toPlatform := Platform.bench
  parseInt := String.toInt?
  parseFloat _ := none
  round q := q
  parseXml _ := none
  loadPrivateKey _ _ := .error .value
  demoFile _ := false

/-- The bench's libraries with `ipaddress` as it is. -/
def networked : Libraries Platform.SealedToken :=
  { libraries with ipAddress := Address.ipAddress, strAddress := Address.strAddress }

def store : GatewayStore := ⟨"bench", false⟩

def fresh (id : String) : Fresh :=
  ⟨id, ("seed4", "seed6"), "1b4e28ba-2fa1-11d2-883f-0016d3cca427", "record-" ++ id, ⟨2026, 1, 9, 7, 5, 0, 0⟩, 0, none⟩

def fakeDevice : Value := .dict
  [("name", .str "edge"), ("host", .str "192.0.2.1"), ("port", .int 22), ("protocol", .str "ssh"),
   ("username", .str "ops"), ("password", .str "hunter2"), ("client_type", .str "fake")]

def operator : Value := .dict
  [("name", .str "operator"), ("username", .str "ops"), ("authentication_type", .str "password"),
   ("password", .str "hunter2")]

def bastion (role : String) : Value := .dict
  [("name", .str "bastion"), ("type", .str "ssh_tunnel"), ("host", .str "203.0.113.5"), ("port", .int 22),
   ("role_account_id", .str role)]

def proxied (proxy : String) : Value := .dict
  [("name", .str "core"), ("host", .str "198.51.100.7"), ("port", .int 830), ("protocol", .str "netconf"),
   ("proxy_id", .str proxy)]

def through (kind protocol username password : String) : Value := .dict
  [("protocol", .str protocol), ("host", .str "2001:db8:1::1"), ("port", .int 22), ("username", .str "ops"),
   ("password", .str "hunter2"),
   ("connector", .dict
     [("type", .str kind), ("host", .str "proxy.example"), ("port", .int 1080), ("username", .str username),
      ("password", .str password)])]

def logged (id : String) (now : UtcTime) : TransactionRow where
  id
  timestampUtc := now.format
  correlationId := "1b4e28ba-2fa1-11d2-883f-0016d3cca427"
  actorSubject := "alice"
  actorTenantId := none
  actorName := "Alice"
  actorEmail := none
  actorRoles := ["Operator"]
  authMode := .demo
  action := "static_route.create"
  resourceType := "static_route"
  resourceId := none
  connectionId := none
  outcome := .succeeded
  beforeState := .none
  afterState := .none
  detail := .none
  requestMethod := none
  requestPath := none

def log : Db Platform.SealedToken :=
  { Db.empty with transactions :=
      [logged "a" ⟨2026, 1, 9, 7, 5, 0, 0⟩, logged "b" ⟨2026, 1, 9, 7, 5, 0, 0⟩, logged "c" ⟨2026, 1, 10, 0, 0, 0, 0⟩] }

end NetworkGateway.Bench
