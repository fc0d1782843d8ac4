import NetworkGateway.Dal.DeviceClients

/-! `app/bl/factories/client_factory.py`, and what its clients are used for. -/

namespace NetworkGateway.Factories

open Library.Interaction

inductive DeviceClient where
  | netconf (client : BaseNCCClient)
  | telnet (client : GenericTelnetNCCClient)

/-- The class a path of `CLIENT_CLASSES` is imported as; `none` is `GenericTelnetNCCClient`. -/
def importClass (path : Value) : Except Fault (Option NetconfClass) :=
  if path = .str "app.dal.device.nccclient_adva.AdvaFSP114ProNCCClient" then .ok (some .adva)
  else if path = .str "app.dal.device.nccclient_alcatel.AlcatelNCCClient" then .ok (some .alcatel)
  else if path = .str "app.dal.device.nccclient_ceina.CeinaNCCClient" then .ok (some .ceina)
  else if path = .str "app.dal.device.nccclient_ios.IOSNCCClient" then .ok (some .ios)
  else if path = .str "app.dal.device.nccclient_iox.IOXNCCClient" then .ok (some .iox)
  else if path = .str "app.dal.device.nccclient_juniper.JuniperNCCClient" then .ok (some .juniper)
  else if path = .str "app.dal.device.telnet_client.GenericTelnetNCCClient" then .ok none
  else .error (.other "import_module")

section

variable {Token : Type} (site : Site Token)

/-- `client_class(host=host, router_info=router_info)`. -/
def newClient (kind : Option NetconfClass) (host : String) (routerInfo : Dict) : Except Fault DeviceClient :=
  match kind with
  | some kind => do
      let client ← BaseNCCClient.new site kind host routerInfo
      return .netconf client
  | none => do
      let client ← GenericTelnetNCCClient.new site host routerInfo
      return .telnet client

/-- The address of a device: the first one its row has, or the name it was asked for by. -/
def hostOf (routerInfo : Dict) (device : String) : String :=
  match (["mgmt_ip", "ip", "host", "hostname"].map (Dict.get routerInfo)).find? Value.truthy with
  | some value => site.libraries.toPlatform.str value
  | none => device

/-- The `try` block of `get_client`, on what `get_device_info` and `get_config` come to. -/
def tryClient (found : Except Fault (Option Dict)) (clientMapping : Except Fault Dict) (device : String) :
    Except Fault DeviceClient := do
  match (← found).filter (fun routerInfo => !routerInfo.isEmpty) with
  | none => throw (.deviceNotFound ("Device not found: " ++ device))
  | some routerInfo => do
      let cfg ← clientMapping
      let path ← resolveClassPath site.libraries.toPlatform routerInfo cfg
      let kind ← importClass path
      newClient site kind (hostOf site routerInfo device) routerInfo

def getClient (found : Except Fault (Option Dict)) (clientMapping : Except Fault Dict) (device : String) :
    Except Fault DeviceClient :=
  match tryClient site found clientMapping device with
  | .ok client => .ok client
  | .error (.clientMapping message) => .error (.clientMapping message)
  | .error (.deviceNotFound message) => .error (.deviceNotFound message)
  | .error _ => .error (.clientMapping "Client database mapping is missing, invalid, or unavailable")

inductive Operation where
  | showInterface (interfaceName : Option String)
  | getConfig
  | setConfig (configData : String)
  | getOperationalState
  | configureInterface (interfaceName configXml : String)
  | getBgp
  | setBgp (configXml : String)
  | configureFirewall (configXml : String)
  | cleanup

def performNetconf : Operation → ClientMethod BaseNCCClient Value
  | .showInterface interfaceName => BaseNCCClient.showInterface site interfaceName
  | .getConfig => BaseNCCClient.getConfig site
  | .setConfig configData => BaseNCCClient.setConfig site configData
  | .getOperationalState => BaseNCCClient.getOperationalState site
  | .configureInterface _ configXml => BaseNCCClient.setConfig site configXml
  | .getBgp => BaseNCCClient.getBgp site
  | .setBgp configXml => BaseNCCClient.setConfig site configXml
  | .configureFirewall configXml => BaseNCCClient.setConfig site configXml
  | .cleanup => BaseNCCClient.cleanup

def performTelnet : Operation → ClientMethod GenericTelnetNCCClient Value
  | .showInterface interfaceName => GenericTelnetNCCClient.showInterface site interfaceName
  | .getConfig => GenericTelnetNCCClient.unsupported "get_config"
  | .setConfig _ => GenericTelnetNCCClient.unsupported "set_config"
  | .getOperationalState => GenericTelnetNCCClient.unsupported "get_operational_state"
  | .configureInterface _ _ => GenericTelnetNCCClient.unsupported "configure_interface"
  | .getBgp => GenericTelnetNCCClient.unsupported "get_bgp"
  | .setBgp _ => GenericTelnetNCCClient.unsupported "set_bgp"
  | .configureFirewall _ => GenericTelnetNCCClient.unsupported "configure_firewall"
  | .cleanup => do
      GenericTelnetNCCClient.close
      return .none

def operate {σ : Type} (perform : Operation → ClientMethod σ Value) : List Operation → ClientMethod σ Unit
  | [] => pure ()
  | operation :: rest => do
      let _ ← Method.catching (perform operation) fun _ => pure .none
      operate perform rest

end

end NetworkGateway.Factories
