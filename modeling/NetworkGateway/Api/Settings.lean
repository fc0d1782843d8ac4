import NetworkGateway.Bl.Management
import NetworkGateway.Dal.Configuration
import NetworkGateway.Python.Pydantic

/-! `app/api/schemas/management.py`: the models of the settings; `app/api/routes/management.py`:
the routes that read and replace one. -/

namespace NetworkGateway.Api

open Library.Result Management Pydantic Store

def clientClass : List String :=
  ["app.dal.device.nccclient_adva.AdvaFSP114ProNCCClient",
   "app.dal.device.nccclient_alcatel.AlcatelNCCClient",
   "app.dal.device.nccclient_ceina.CeinaNCCClient",
   "app.dal.device.nccclient_ios.IOSNCCClient",
   "app.dal.device.nccclient_iox.IOXNCCClient",
   "app.dal.device.nccclient_juniper.JuniperNCCClient",
   "app.dal.device.telnet_client.GenericTelnetNCCClient"]

/-- `^[A-Za-z_][A-Za-z0-9_]*$`; in pydantic's engine `$` is the end of the text only. -/
def identifierPattern (s : String) : Bool :=
  match s.toList with
  | [] => false
  | c :: rest => (c.isAlpha || c == '_') && rest.all (fun c => c.isAlphanum || c == '_')

/-- `^[A-Za-z0-9_.:-]+$`. -/
def hostPattern (s : String) : Bool :=
  s != "" && s.toList.all (fun c => c.isAlphanum || ['_', '.', ':', '-'].contains c)

/-- `MetadataIdentifier`, with `_identifier`. -/
def metadataIdentifier : StringType where
  minLength := 1
  maxLength := 128
  check s := identifierPattern s && Text.lower s != "none"

def proxyHost : StringType where
  minLength := 1
  maxLength := 255
  check := hostPattern

def deviceLookupSettings : Schema :=
  model [⟨"table", string metadataIdentifier, none⟩, ⟨"search_column", string metadataIdentifier, none⟩] .ok

def uniqueColumns (values : Dict) : Except ValidationError Dict :=
  match Dict.get values "key_columns" with
  | .list columns => if columns.Nodup then .ok values else .error .invalid
  | _ => .ok values

/-- The fields of a `MappingSettings` subclass with the given `map`. -/
def mappingSettings (map : Schema) : Schema :=
  model [⟨"key_columns", list 1 8 (string metadataIdentifier), none⟩, ⟨"map", map, none⟩] uniqueColumns

section

variable {Token : Type} (P : Platform Token)

/-- `MappingKey`, with `_mapping_key`. -/
def mappingKey : StringType where
  minLength := 1
  maxLength := 255
  check s := P.lower s == s && s.toList.all (fun c => 32 ≤ c.toNat)

def clientMappingSettings : Schema := mappingSettings (dict 1 1000 (mappingKey P) (literal clientClass))

def proxyMappingSettings : Schema := mappingSettings (dict 0 1000 (mappingKey P) (optional (string proxyHost)))

/-- `SETTINGS_MODELS[name]`. -/
def settingsModel : ConfigName → Schema
  | .deviceLookup => deviceLookupSettings
  | .clientMapping => clientMappingSettings P
  | .proxyMapping => proxyMappingSettings P

/-! The routes. -/

inductive RouteError where
  | management (error : ManagementError)
  | http (statusCode : Nat) (detail : String)
  deriving DecidableEq, Repr

def publicSettings (name : ConfigName) (payload : Value) : Except RouteError Value :=
  match settingsModel P name payload with
  | .ok settings => .ok settings
  | .error _ => .error (.management ⟨"Invalid stored management configuration.", 500⟩)

variable (self : GatewayStore) (db : Db Token)

def serviceCall {α : Type} (outcome : Except PyError α) : Except RouteError α :=
  match storeCall outcome with
  | .ok result => .ok result
  | .error error => .error (.management error)

def getSettings (name : ConfigName) : Except RouteError Value := do
  let payload ← serviceCall (getConfig P self db name.text)
  publicSettings P name payload

/-- `update_settings` on the dump of the body's model. -/
def updateSettings (name : ConfigName) (payload : Value) : Except RouteError Value × Db Token :=
  match settingsModel P name payload with
  | .error _ => (.error (.http 422 "Invalid settings fields for the selected configuration."), db)
  | .ok validated =>
      let outcome := saveConfig P self db name.text validated
      (do let saved ← serviceCall outcome.1
          publicSettings P name saved, outcome.2)

end

end NetworkGateway.Api
