import NetworkGateway.Library.Reading
import NetworkGateway.Python.Bytes

/-! `demo/emulators/proxy_protocols.py`: what a Telnet device reads at a login prompt. -/

namespace NetworkGateway.TelnetPeer

open Library.Reading Reader

def isBreak (b : UInt8) : Bool := b = 13 || b = 10

/-- `data.strip(b"\r\n")`. -/
def strip (data : Bytes) : Bytes := ((data.dropWhile isBreak).reverse.dropWhile isBreak).reverse

/-- `_until(stream, b"\n").strip(b"\r\n").decode("utf-8")`. -/
def line : Reader UInt8 String := do
  let data ← upTo 10
  ofOption (Bytes.decodeUtf8 (strip data))

end NetworkGateway.TelnetPeer
