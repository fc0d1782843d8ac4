import NetworkGateway.Library.Base64
import NetworkGateway.Library.Reading
import NetworkGateway.Python.Address
import NetworkGateway.Python.Bytes

/-! `demo/emulators/proxy_protocols.py`: what an HTTP proxy makes of the request head its client sends. -/

namespace NetworkGateway.HttpConnectPeer

open Library.Reading Reader

/-- A host and a port; an IPv6 address stands in brackets. -/
structure Authority where
  host : String
  bracketed : Bool
  port : Nat
  deriving DecidableEq, Repr

structure Head where
  target : Authority
  headers : List (String × String)
  deriving DecidableEq, Repr

def line : Reader Char (List Char) := do
  let text ← upTo '\r'
  let feed ← next
  if feed = '\n' && !text.contains '\n' then return text else refuse

def port (text : List Char) : Option Nat :=
  if text.isEmpty || !text.all Char.isDigit then none else some (Nat.ofDigitChars 10 text 0)

/-- `(\[[0-9a-fA-F:.]+\]|[A-Za-z0-9.-]+):([0-9]+)`. -/
def authority (text : List Char) : Option Authority :=
  match text with
  | '[' :: rest =>
      match upTo ']' rest with
      | some (host, ':' :: digits) =>
          if !host.isEmpty && host.all (fun c => Address.isHex c || c == ':' || c == '.') then
            (port digits).map (fun number => ⟨String.ofList host, true, number⟩)
          else none
      | _ => none
  | text =>
      match upTo ':' text with
      | some (host, digits) =>
          if !host.isEmpty && host.all (fun c => c.isAlphanum || c == '.' || c == '-') then
            (port digits).map (fun number => ⟨String.ofList host, false, number⟩)
          else none
      | none => none

/-- `CONNECT authority HTTP/1.1`. -/
def requestLine (text : List Char) : Option Authority :=
  match Text.splitChars ' ' text with
  | [method, target, version] =>
      if method = "CONNECT".toList && version = "HTTP/1.1".toList then authority target else none
  | _ => none

/-- `line.split(": ", 1)`. -/
def header (text : List Char) : Option (String × String) :=
  match upTo ':' text with
  | some (name, ' ' :: value) => some (String.ofList name, String.ofList value)
  | _ => none

def headers : Nat → Reader Char (List (String × String))
  | 0 => refuse
  | fuel + 1 => do
      let text ← line
      if text.isEmpty then return []
      else do
        let field ← ofOption (header text)
        let rest ← headers fuel
        return field :: rest

/-- A request head, up to and including its empty line; no head has more lines than characters. -/
def head : Reader Char Head := fun text =>
  (do
    let first ← line
    let target ← ofOption (requestLine first)
    let fields ← headers text.length
    return (⟨target, fields⟩ : Head) : Reader Char Head) text

/-- `base64.b64decode(text, validate=True)`. -/
def b64decode (text : List Char) : Option Bytes :=
  let body := text.takeWhile (· != '=')
  match Library.Base64.decode Library.Base64.standard body with
  | some data => if text = body ++ Library.Base64.padding data then some data else none
  | none => none

/-- The name and the password of `Basic` credentials, which the first colon separates. -/
def basicLogin (value : String) : Option (String × String) := do
  let encoded ← if "Basic ".toList.isPrefixOf value.toList then some (value.toList.drop 6) else none
  let text ← Bytes.decodeUtf8 (← b64decode encoded)
  let (username, password) ← upTo ':' text.toList
  return (String.ofList username, String.ofList password)

end NetworkGateway.HttpConnectPeer
