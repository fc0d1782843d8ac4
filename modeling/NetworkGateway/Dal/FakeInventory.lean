import NetworkGateway.Dal.FakeClient
import NetworkGateway.Dal.Jobs

/-! `app/dal/device/fake_client.py`: the inventory of a simulated device. -/

namespace NetworkGateway.FakeClient

open Library.Result

/-- `_INVENTORY`. -/
def fakeInventory : Dict :=
  [("system", .dict
     [("hostname", .str "fictional-transport-device"), ("model", .str "Fictional Gateway Simulator"),
      ("software_version", .str "SIMULATED-1.0"), ("serial_number", .str "FICTIONAL-0001"),
      ("uptime_seconds", .int 86400)]),
   ("interfaces", .list
     [.dict
       [("name", .str "eth0"), ("description", .str "Simulated IPv4 uplink"), ("admin_status", .str "up"),
        ("oper_status", .str "up"), ("mtu", .int 1500), ("mac_address", .str "02:00:00:00:00:01"),
        ("addresses", .list [.str "192.0.2.2/24"]), ("rx_bytes", .int 120000), ("tx_bytes", .int 80000)],
      .dict
       [("name", .str "eth1"), ("description", .str "Simulated IPv6 uplink"), ("admin_status", .str "up"),
        ("oper_status", .str "up"), ("mtu", .int 1500), ("mac_address", .str "02:00:00:00:00:02"),
        ("addresses", .list [.str "2001:db8:1::2/64"]), ("rx_bytes", .int 90000), ("tx_bytes", .int 60000)],
      .dict
       [("name", .str "lo"), ("description", .str "Simulated loopback"), ("admin_status", .str "up"),
        ("oper_status", .str "up"), ("mtu", .int 65536), ("mac_address", .str "00:00:00:00:00:00"),
        ("addresses", .list [.str "203.0.113.10/32"]), ("rx_bytes", .int 1000), ("tx_bytes", .int 1000)]]),
   ("bgp", .dict
     [("local_asn", .int 64512), ("router_id", .str "203.0.113.10"),
      ("neighbors", .list [.dict
        [("address", .str "192.0.2.1"), ("remote_asn", .int 64513), ("state", .str "Established"),
         ("uptime_seconds", .int 3600), ("prefixes_received", .int 2), ("prefixes_sent", .int 1)]])]),
   ("mpls", .dict
     [("interfaces", .list
        [.dict [("name", .str "eth0"), ("enabled", .bool true)], .dict [("name", .str "eth1"), ("enabled", .bool false)]]),
      ("ldp_neighbors", .list [.dict
        [("router_id", .str "203.0.113.1"), ("address", .str "192.0.2.1"), ("state", .str "Operational"),
         ("uptime_seconds", .int 3600)]]),
      ("lsps", .list [.dict
        [("name", .str "simulated-lsp"), ("source", .str "203.0.113.10"), ("destination", .str "203.0.113.1"),
         ("state", .str "up"), ("label", .int 16001)]])])]

/-- `{key: profile[key] for key in keys}`. -/
def selected (profile : Dict) (keys : List String) : Except PyError Dict :=
  each (fun key => do return (key, ← Store.item profile key)) keys

/-- `inventory` of a profile that `_profile` returned. -/
def readInventory (profile : Dict) : Except PyError Value := do
  let device ← selected profile ["id", "name", "protocol", "host", "port"]
  let roleAccountId ← Store.item profile "role_account_id"
  let proxyId ← Store.item profile "proxy_id"
  let connector ← Store.asDict (← Store.item profile "connector")
  let proxyRoleAccountId ← Store.item connector "role_account_id"
  let connectorType ← Store.item connector "type"
  return .dict
    ([("provider", .str "fake"), ("simulated", .bool true), ("device", .dict device),
      ("access", .dict
        [("role_account_id", roleAccountId), ("proxy_id", proxyId), ("proxy_role_account_id", proxyRoleAccountId),
         ("connector_type", connectorType)])] ++ fakeInventory)

end NetworkGateway.FakeClient
