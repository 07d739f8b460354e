import FlyDpi.Lib.Cursor
import FlyDpi.Core.Datapath

/-!
# Packet — the bounds-checked IPv4/TCP/UDP metadata reader

The model of `packet.rs`.  Every read is a checked `index` or `slice` and every subtraction a
`checkedSub`, so a run that leaves the buffer or underflows is visible as `Outcome.panic`.
-/

namespace FlyDpi
namespace Core

open Lib Lib.Bytes Lib.Outcome

inductive PacketParseError
  | truncated
  | notIpv4
  | invalidIpv4Header
  | unsupportedTransport
  | invalidTransportHeader
  | unknownDirection
  deriving DecidableEq, Repr

/-- The address of the other side. -/
def remoteByDirection (direction : PacketDirection) (srcIp dstIp : IpBytes) :
    Outcome PacketParseError IpBytes :=
  match direction with
  | .outbound => ok dstIp
  | .inbound => ok srcIp
  | .unknown => err .unknownDirection

/-- The ports of the other side and of this side: `(remote_port, local_port)`. -/
def portsByDirection (direction : PacketDirection) (srcPort dstPort : UInt16) :
    Outcome PacketParseError (UInt16 × UInt16) :=
  match direction with
  | .outbound => ok (dstPort, srcPort)
  | .inbound => ok (srcPort, dstPort)
  | .unknown => err .unknownDirection

/-- The `6 =>` arm of `parse_ipv4_transport`. -/
def parseTcp (bytes : Bytes) (direction : PacketDirection) (ihl totalLen : Nat)
    (remoteIp : IpBytes) : Outcome PacketParseError PacketMeta := do
  reject (totalLen < ihl + 20) .invalidTransportHeader
  let srcPort ← readU16Be bytes ihl
  let dstPort ← readU16Be bytes (ihl + 2)
  let flags ← index bytes (ihl + 13)
  let offsetByte ← index bytes (ihl + 12)
  -- the upper nibble counts 32-bit words
  let dataOffset := (offsetByte >>> 4).toNat * 4
  reject (dataOffset < 20 ∨ ihl + dataOffset > totalLen) .invalidTransportHeader
  let ports ← portsByDirection direction srcPort dstPort
  let afterIp ← checkedSub totalLen ihl
  let payloadLen ← checkedSub afterIp dataOffset
  return {
    flow := { protocol := .tcp, remoteIp := remoteIp, remotePort := ports.1, localPort := ports.2 }
    direction := direction
    payloadLen := UInt64.ofNat payloadLen
    tcpFlags := flags }

/-- The `17 =>` arm of `parse_ipv4_transport`. -/
def parseUdp (bytes : Bytes) (direction : PacketDirection) (ihl totalLen : Nat)
    (remoteIp : IpBytes) : Outcome PacketParseError PacketMeta := do
  reject (totalLen < ihl + 8) .invalidTransportHeader
  let srcPort ← readU16Be bytes ihl
  let dstPort ← readU16Be bytes (ihl + 2)
  let udpLen16 ← readU16Be bytes (ihl + 4)
  let udpLen := udpLen16.toNat
  -- the datagram may end before the packet does
  reject (udpLen < 8 ∨ ihl + udpLen > totalLen) .invalidTransportHeader
  let ports ← portsByDirection direction srcPort dstPort
  let payloadLen ← checkedSub udpLen 8
  return {
    flow := { protocol := .udp, remoteIp := remoteIp, remotePort := ports.1, localPort := ports.2 }
    direction := direction
    payloadLen := UInt64.ofNat payloadLen
    tcpFlags := 0 }

/-- The `match protocol` of `parse_ipv4_transport`. -/
def parseTransport (protocol : UInt8) (bytes : Bytes) (direction : PacketDirection)
    (ihl totalLen : Nat) (remoteIp : IpBytes) : Outcome PacketParseError PacketMeta :=
  if protocol = 6 then
    parseTcp bytes direction ihl totalLen remoteIp
  else if protocol = 17 then
    parseUdp bytes direction ihl totalLen remoteIp
  else
    err .unsupportedTransport

def parseIpv4Transport (bytes : Bytes) (direction : PacketDirection) :
    Outcome PacketParseError PacketMeta := do
  reject (bytes.length < 20) .truncated
  let first ← index bytes 0
  reject (first >>> 4 ≠ 4) .notIpv4
  let ihl := (first &&& 0x0f).toNat * 4
  reject (ihl < 20 ∨ bytes.length < ihl) .invalidIpv4Header
  let totalLen16 ← readU16Be bytes 2
  let totalLen := totalLen16.toNat
  -- the buffer may be longer than the packet, never shorter
  reject (totalLen < ihl ∨ totalLen > bytes.length) .truncated
  let protocol ← index bytes 9
  let src ← slice bytes 12 16
  let dst ← slice bytes 16 20
  let remoteIp ← remoteByDirection direction (zeroPadded src) (zeroPadded dst)
  parseTransport protocol bytes direction ihl totalLen remoteIp

end Core
end FlyDpi
