import NetworkGateway.Dal.Network

/-! `app/dal/device/telnet_client.py`: the option negotiation of `_TelnetNegotiator`. -/

namespace NetworkGateway.Telnet

open Library.Interaction

def iac : UInt8 := 0xFF
def dont : UInt8 := 0xFE
def do_ : UInt8 := 0xFD
def wont : UInt8 := 0xFC
def will : UInt8 := 0xFB
def sb : UInt8 := 0xFA
def se : UInt8 := 0xF0

/-- `_state`, with `_pending_verb` where it is read. -/
inductive State where
  | normal
  | gotIac
  | gotVerb (verb : UInt8)
  | gotSb
  | gotSbIac
  deriving DecidableEq, Repr

/-- `_reply`: the refusal of an option request. -/
def reply (verb option : UInt8) : Option Bytes :=
  if verb = do_ then some [iac, wont, option]
  else if verb = will then some [iac, dont, option]
  else none

/-- One turn of the loop in `feed`: the next state, the data the byte yields, and the reply sent. -/
def react (state : State) (byte : UInt8) : State × Bytes × Option Bytes :=
  match state with
  | .normal => if byte = iac then (.gotIac, [], none) else (.normal, [byte], none)
  | .gotIac =>
      if byte = iac then (.normal, [iac], none)
      else if byte = do_ || byte = dont || byte = will || byte = wont then (.gotVerb byte, [], none)
      else if byte = sb then (.gotSb, [], none)
      else (.normal, [], none)
  | .gotVerb verb => (.normal, [], reply verb byte)
  | .gotSb => if byte = iac then (.gotSbIac, [], none) else (.gotSb, [], none)
  | .gotSbIac => if byte = se then (.normal, [], none) else (.gotSb, [], none)

/-- `_reply` on the connection: a failed send surfaces on the next read. -/
def sendReply (stream : Handle) (payload : Option Bytes) : Net Unit :=
  match payload with
  | none => return ()
  | some payload => Program.catching (Net.sendall stream payload) fun raised =>
      if raised.isOs then return () else Program.raise raised

/-- `feed`, returning the state it leaves and the data. -/
def feed (stream : Handle) (state : State) : Bytes → Net (State × Bytes)
  | [] => return (state, [])
  | byte :: rest => do
      let (state, data, payload) := react state byte
      sendReply stream payload
      let (state, further) ← feed stream state rest
      return (state, data ++ further)

end NetworkGateway.Telnet
