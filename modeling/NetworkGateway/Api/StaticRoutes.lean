import NetworkGateway.Dal.StaticRoutes
import NetworkGateway.Python.Pydantic

/-! `app/api/schemas/device_data.py`: the body of a static-route request. -/

namespace NetworkGateway.Api

open Library.Dict Pydantic Store

/-- `^[^/%]+/[0-9]{1,3}$`; in pydantic's engine `$` is the end of the text only. -/
def routePattern (text : String) : Bool :=
  let network := text.toList.takeWhile (fun c => c != '/' && c != '%')
  match text.toList.dropWhile (fun c => c != '/' && c != '%') with
  | '/' :: length =>
      !network.isEmpty && !length.isEmpty && length.length ≤ 3 && length.all Char.isDigit
  | _ => false

/-- The fields of `StaticRouteWrite`. -/
def routeFields : List Field :=
  [⟨"destination", string ⟨1, 64, routePattern⟩, none⟩,
   ⟨"next_hop", string ⟨1, 45, fun _ => true⟩, none⟩,
   ⟨"interface", optional (literal ["eth0", "eth1", "lo"]), some .none⟩,
   ⟨"metric", integer 0 65535, some (.int 1)⟩,
   ⟨"description", string ⟨0, 200, fun _ => true⟩, some (.str "")⟩,
   ⟨"enabled", boolean, some (.bool true)⟩]

section

variable {Token : Type} (P : Platform Token)

/-- `StaticRouteWrite.network_family`; a `ValueError` of `ipaddress` fails the validation. -/
def networkFamily (values : Dict) : Except ValidationError Dict :=
  match Dict.get values "destination", Dict.get values "next_hop" with
  | .str destination, .str nextHop =>
      match P.ipNetwork destination, P.ipAddress nextHop with
      | some network, some address =>
          if network.version ≠ address.version ∨ '%' ∈ nextHop.toList then .error .invalid
          else .ok (set (set values "destination" (.str (P.strNetwork network)))
            "next_hop" (.str (P.strAddress address)))
      | _, _ => .error .invalid
  | _, _ => .ok values

def staticRouteWrite : Schema := model routeFields (networkFamily P)

end

end NetworkGateway.Api
