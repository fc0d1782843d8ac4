import NetworkGateway.Library.Transducer
import NetworkGateway.Dal.Telnet

/-! `app/dal/device/telnet_client.py`: the reads of `GenericTelnetNCCClient`. -/

namespace NetworkGateway.Telnet

open Library.Transducer

/-! The negotiator as a machine over the bytes it is fed. -/

def next (state : State) (byte : UInt8) : State := (react state byte).1
def data (state : State) (byte : UInt8) : Bytes := (react state byte).2.1
def replies (state : State) (byte : UInt8) : List Bytes := (react state byte).2.2.toList

def after (state : State) (bytes : Bytes) : State := bytes.foldl next state
def decoded (state : State) (bytes : Bytes) : Bytes := emitted next data state bytes

end NetworkGateway.Telnet

namespace NetworkGateway.TelnetClient

open Library.Transducer

def defaultMaxResponseBytes : Nat := 8192

/-- What one turn of the loop in `_recv_until` meets: the deadline has passed, `settimeout` or
`recv` raises an `OSError`, or `recv` returns a chunk, which is empty at the end of the stream. -/
inductive Receipt where
  | late
  | failed (reason : String)
  | chunk (bytes : Bytes)

inductive Fault where
  | timedOut
  | failed (reason : String)
  | closed
  | exceeded (maxBytes : Nat)
  deriving DecidableEq, Repr

/-- `_TelnetReadError`, with the bytes read so far. -/
structure ReadError where
  fault : Fault
  marker : Bytes
  received : Bytes

/-- The text of a `_TelnetReadError`; `repr` writes a byte string. -/
def ReadError.message (repr : Bytes → String) (error : ReadError) : String :=
  match error.fault with
  | .timedOut => "Telnet read timed out waiting for " ++ repr error.marker
  | .failed reason => "Telnet read failed waiting for " ++ repr error.marker ++ ": " ++ reason
  | .closed => "Telnet connection closed before receiving " ++ repr error.marker ++ " (EOF)"
  | .exceeded maxBytes => "Telnet response exceeded the " ++ toString maxBytes ++
      "-byte limit while waiting for " ++ repr error.marker

/-- The connection between two reads: the negotiator's state, what it has sent, and what is still
to be met. -/
structure Connection where
  negotiator : Telnet.State
  sent : List Bytes
  incoming : List Receipt

/-- `waiting`: nothing further is met, so `recv` has not returned. -/
inductive Reading where
  | returned (data : Bytes) (connection : Connection)
  | raised (error : ReadError)
  | waiting

/-- The loop of `_recv_until`, holding the bytes read so far. -/
def recvOn (marker : Bytes) (maxBytes : Nat) (negotiator : Telnet.State) (sent : List Bytes) (buf : Bytes) :
    List Receipt → Reading
  | [] => if Bytes.contains buf marker then .returned buf ⟨negotiator, sent, []⟩ else .waiting
  | receipt :: incoming =>
      if Bytes.contains buf marker then .returned buf ⟨negotiator, sent, receipt :: incoming⟩
      else match receipt with
        | .late => .raised ⟨.timedOut, marker, buf⟩
        | .failed reason => .raised ⟨.failed reason, marker, buf⟩
        | .chunk chunk =>
            if chunk = [] then .raised ⟨.closed, marker, buf⟩
            else
              let further := buf ++ Telnet.decoded negotiator chunk
              if maxBytes < further.length then .raised ⟨.exceeded maxBytes, marker, further⟩
              else recvOn marker maxBytes (Telnet.after negotiator chunk)
                (sent ++ emitted Telnet.next Telnet.replies negotiator chunk) further incoming

def recvUntil (marker : Bytes) (maxBytes : Nat) (connection : Connection) : Reading :=
  recvOn marker maxBytes connection.negotiator connection.sent [] connection.incoming

inductive Ending where
  | finished
  | raised (fault : Fault)
  | waiting
  deriving DecidableEq, Repr

/-- One `_recv_until` after the other: what they return, and how they end. -/
def recvEach (maxBytes : Nat) : List Bytes → Connection → List Bytes × Ending
  | [], _ => ([], .finished)
  | marker :: markers, connection =>
      match recvUntil marker maxBytes connection with
      | .returned data connection =>
          let (texts, ending) := recvEach maxBytes markers connection
          (data :: texts, ending)
      | .raised error => ([], .raised error.fault)
      | .waiting => ([], .waiting)

end NetworkGateway.TelnetClient
