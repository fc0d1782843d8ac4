import NetworkGateway.Dal.Configuration
import NetworkGateway.Dal.TelnetClient

/-! `app/bl/factories/`: the keys under which a device's row is looked up in the mappings. -/

namespace NetworkGateway

inductive Fault where
  | gateway (message : String)
  | deviceNotFound (message : String)
  | clientMapping (message : String)
  | proxyMapping (message : String)
  | telnetRead (error : TelnetClient.ReadError)
  | os (text : String)
  | other (text : String)

namespace Factories

open Library.Result

section Keys

variable {Token : Type} (P : Platform Token)

/-- `str(router_info.get(col, "*") or "*").lower()`. -/
def keyPart (routerInfo : Dict) (column : String) : String :=
  let value := Dict.getOr routerInfo column (.str "*")
  P.lower (if value.truthy then P.str value else "*")

def keyParts (columns : List String) (routerInfo : Dict) : List String := columns.map (keyPart P routerInfo)

/-- `":".join(key_parts)`. -/
def composed (parts : List String) : String := String.intercalate ":" parts

/-- `key_parts[:-1] + ["*"]`. -/
def wildcard (parts : List String) : List String := parts.dropLast ++ ["*"]

/-- `cfg.get("key_columns", default)`; `get_config` returns a list of texts under it. -/
def keyColumns (cfg : Dict) (default : List String) : Except Fault (List String) :=
  match Dict.getOr cfg "key_columns" (.list (default.map .str)) with
  | .list items => match Value.strings items with
    | some columns => .ok columns
    | none => .error (.other "key_columns")
  | _ => .error (.other "key_columns")

/-- `cfg.get("map", {})`; `get_config` returns an object under it. -/
def mapping (cfg : Dict) : Except Fault Dict :=
  match Dict.getOr cfg "map" (.dict []) with
  | .dict entries => .ok entries
  | _ => .error (.other "map")

/-- `if not class_path: class_path = client_map.get(key)`. -/
def orGet (entries : Dict) (found : Value) (key : String) : Value :=
  if found.truthy then found else Dict.get entries key

def resolveClassPath (routerInfo cfg : Dict) : Except Fault Value := do
  let columns ← keyColumns cfg ["vendor"]
  let clientMap ← mapping cfg
  let parts := keyParts P columns routerInfo
  let key := composed parts
  let found := Dict.get clientMap key
  let found := if 1 < parts.length then orGet clientMap found (composed (wildcard parts)) else found
  let found := match parts with
    | [] => found
    | first :: _ => orGet clientMap found first
  let found := orGet clientMap found "default"
  raiseWhen (!found.truthy) (.clientMapping ("No client mapping found for key: " ++ key))
  return found

/-- The keys `ProxyFactory.get_proxy` tries. -/
def candidates (parts : List String) : List String :=
  composed parts :: ((if 1 < parts.length then [composed (wildcard parts)] else []) ++ parts.take 1 ++ ["default", "*:*"])

/-- The `try` block of `ProxyFactory.get_proxy`, up to the client. -/
def selectProxy (routerInfo cfg : Dict) : Except Fault (Option Value) := do
  let columns ← keyColumns cfg ["owner"]
  let proxyMap ← mapping cfg
  let host := ((candidates (keyParts P columns routerInfo)).findSome? (fun key => proxyMap.lookup key)).getD .none
  return if host.truthy then some host else none

end Keys

end Factories

end NetworkGateway
