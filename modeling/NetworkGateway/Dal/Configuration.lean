import NetworkGateway.Dal.Resources

/-! `app/dal/db/store.py`: credential-free operational mappings. -/

namespace NetworkGateway.Store

open Library.Dict Library.Result

def clientClasses : List String :=
  ["app.dal.device.nccclient_adva.AdvaFSP114ProNCCClient",
   "app.dal.device.nccclient_alcatel.AlcatelNCCClient",
   "app.dal.device.nccclient_ceina.CeinaNCCClient",
   "app.dal.device.nccclient_ios.IOSNCCClient",
   "app.dal.device.nccclient_iox.IOXNCCClient",
   "app.dal.device.nccclient_juniper.JuniperNCCClient",
   "app.dal.device.telnet_client.GenericTelnetNCCClient"]

inductive ConfigName where
  | deviceLookup
  | clientMapping
  | proxyMapping
  deriving DecidableEq, Repr

def ConfigName.text : ConfigName → String
  | .deviceLookup => "device_lookup"
  | .clientMapping => "client_mapping"
  | .proxyMapping => "proxy_mapping"

def configName (name : String) : Except PyError ConfigName :=
  match [ConfigName.deviceLookup, .clientMapping, .proxyMapping].find? (·.text == name) with
  | some found => .ok found
  | none => .error (.store "Unknown configuration name." 404)

/-- `re.fullmatch(r"[A-Za-z_][A-Za-z0-9_]*", value)` on at most 128 characters other than `none`. -/
def identifier (value : Value) : Bool :=
  match value with
  | .str s =>
      s.length ≤ 128 && Text.lower s != "none" && match s.toList with
        | [] => false
        | c :: rest =>
            (c.isAlpha || c == '_') && rest.all (fun c => c.isAlphanum || c == '_')
  | _ => false

def sameKeys (entries : Dict) (keys : List String) : Bool :=
  entries.all (fun e => keys.contains e.1) && keys.all (Dict.has entries)

/-- A value of `client_mapping`. -/
def clientClass (value : Value) : Bool := value.isOneOf clientClasses

/-- A value of `proxy_mapping`: `re.fullmatch(r"[A-Za-z0-9_.:-]+", value)`, or `None`. -/
def proxyHost (value : Value) : Bool :=
  match value with
  | .none => true
  | .str s => s != "" && s.length ≤ 255 &&
      s.toList.all (fun c => c.isAlphanum || ['_', '.', ':', '-'].contains c)
  | _ => false

/-- `key_columns`: one to eight distinct identifiers. -/
def keyColumns (value : Value) : Bool :=
  match value with
  | .list columns =>
      1 ≤ columns.length && columns.length ≤ 8 && columns.all identifier && decide columns.Nodup
  | _ => false

section

variable {Token : Type} (P : Platform Token)

def mappingKey (key : String) : Bool :=
  key != "" && key.length ≤ 255 && P.lower key == key && key.toList.all (fun c => 32 ≤ c.toNat)

def mappingEntry (name : ConfigName) (entry : String × Value) : Except PyError Unit := do
  raiseWhen (!mappingKey P entry.1) (invalid "Mapping keys must be nonempty lowercase strings.")
  match name with
  | .clientMapping =>
      raiseWhen (!clientClass entry.2)
        (invalid "Client mapping must select a supported gateway client class.")
  | _ =>
      raiseWhen (!proxyHost entry.2)
        (invalid "Proxy mappings accept only hostnames, IP addresses, or null for direct access.")

/-- The `map` of a mapping configuration. -/
def mappingEntries (name : ConfigName) (value : Value) : Except PyError Dict :=
  match value with
  | .dict mappings => do
      raiseWhen (1000 < mappings.length || name == .clientMapping && mappings.isEmpty)
        (invalid "Invalid mapping entries.")
      let _ ← each (mappingEntry P name) mappings
      return mappings
  | _ => .error (invalid "Invalid mapping entries.")

def validateConfig (name : String) (payload : Value) : Except PyError Value := do
  let name ← configName name
  match payload with
  | .dict entries =>
      if name = .deviceLookup then
        raiseWhen (!(sameKeys entries ["table", "search_column"] && entries.all (fun e => identifier e.2)))
          (invalid "Device lookup requires valid table and search_column identifiers.")
        return .dict entries
      else
        raiseWhen (!sameKeys entries ["key_columns", "map"])
          (invalid "Mapping requires only key_columns and map.")
        raiseWhen (!keyColumns (Dict.get entries "key_columns"))
          (invalid "Mapping key_columns must contain unique metadata identifiers.")
        let mappings ← mappingEntries P name (Dict.get entries "map")
        return .dict [("key_columns", Dict.get entries "key_columns"), ("map", .dict mappings)]
  | _ => throw (invalid "Configuration must be an object.")

variable (self : GatewayStore)

def saveConfig (db : Db Token) (name : String) (payload : Value) : Except PyError Value × Db Token :=
  checked db (validateConfig P name payload) fun validated =>
  transaction self db (.ok (validated,
    { db with configurations := set db.configurations name validated }))

def getConfig (db : Db Token) (name : String) : Except PyError Value := do
  let _ ← configName name
  reading self do
    match db.configurations.lookup name with
    | some payload => validateConfig P name payload
    | none => throw (.store "Required database configuration is missing." 404)

end

end NetworkGateway.Store
