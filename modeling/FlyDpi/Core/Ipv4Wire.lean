import FlyDpi.Core.Packet

/-!
# Ipv4Wire — the packets `parse_ipv4_transport` accepts

A packet is described by its fields: an IPv4 header, a TCP segment or UDP datagram inside the
declared total length, and whatever the capture buffer holds after it.  `Ipv4Packet.encode` writes
the fields in wire order and `Ipv4Packet.packetMeta` reads off what a flow observer has to report.
-/

namespace FlyDpi
namespace Core

open Lib Lib.Bytes Lib.Outcome

/-! ## Fields -/

structure TcpSegment where
  srcPort : UInt16
  dstPort : UInt16
  /-- Sequence and acknowledgement numbers. -/
  numbers : Bytes
  /-- Header length in 32-bit words. -/
  dataOffset : Nat
  reserved : Nat
  flags : UInt8
  /-- Window, checksum and urgent pointer. -/
  tail : Bytes
  options : Bytes
  payload : Bytes
  numbers_length : numbers.length = 8
  dataOffset_ge : 5 ≤ dataOffset
  dataOffset_le : dataOffset ≤ 15
  reserved_lt : reserved < 16
  tail_length : tail.length = 6
  options_length : options.length = 4 * dataOffset - 20

structure UdpDatagram where
  srcPort : UInt16
  dstPort : UInt16
  checksum : Bytes
  payload : Bytes
  /-- Bytes inside the IP total length but after the UDP length. -/
  slack : Bytes
  checksum_length : checksum.length = 2
  payload_length : 8 + payload.length < 65536

inductive Ipv4Payload
  | tcp (segment : TcpSegment)
  | udp (datagram : UdpDatagram)

namespace TcpSegment

def encode (s : TcpSegment) : Bytes :=
  u16ToBeBytes s.srcPort ++ (u16ToBeBytes s.dstPort ++ (s.numbers ++
    (nibbles s.dataOffset s.reserved :: s.flags :: (s.tail ++ (s.options ++ s.payload)))))

theorem length_encode (s : TcpSegment) :
    s.encode.length = 4 * s.dataOffset + s.payload.length := by
  have hge := s.dataOffset_ge
  simp [encode, s.numbers_length, s.tail_length, s.options_length]
  omega

end TcpSegment

namespace UdpDatagram

def encode (d : UdpDatagram) : Bytes :=
  u16ToBeBytes d.srcPort ++ (u16ToBeBytes d.dstPort ++
    (u16ToBeBytes (UInt16.ofNat (8 + d.payload.length)) ++
      (d.checksum ++ (d.payload ++ d.slack))))

theorem length_encode (d : UdpDatagram) :
    d.encode.length = 8 + d.payload.length + d.slack.length := by
  simp [encode, d.checksum_length]
  omega

end UdpDatagram

namespace Ipv4Payload

def encode : Ipv4Payload → Bytes
  | tcp s => s.encode
  | udp d => d.encode

/-- The protocol number of the IPv4 header. -/
def number : Ipv4Payload → UInt8
  | tcp _ => 6
  | udp _ => 17

def protocol : Ipv4Payload → Protocol
  | tcp _ => .tcp
  | udp _ => .udp

def srcPort : Ipv4Payload → UInt16
  | tcp s => s.srcPort
  | udp d => d.srcPort

def dstPort : Ipv4Payload → UInt16
  | tcp s => s.dstPort
  | udp d => d.dstPort

def flags : Ipv4Payload → UInt8
  | tcp s => s.flags
  | udp _ => 0

def payload : Ipv4Payload → Bytes
  | tcp s => s.payload
  | udp d => d.payload

end Ipv4Payload

structure Ipv4Packet where
  /-- Header length in 32-bit words. -/
  ihl : Nat
  service : UInt8
  /-- Identification, flags and fragment offset. -/
  fragmentation : Bytes
  ttl : UInt8
  checksum : Bytes
  src : Bytes
  dst : Bytes
  options : Bytes
  body : Ipv4Payload
  ihl_ge : 5 ≤ ihl
  ihl_le : ihl ≤ 15
  fragmentation_length : fragmentation.length = 4
  checksum_length : checksum.length = 2
  src_length : src.length = 4
  dst_length : dst.length = 4
  options_length : options.length = 4 * ihl - 20
  total_lt : 4 * ihl + body.encode.length < 65536

namespace Ipv4Packet

def totalLen (p : Ipv4Packet) : Nat :=
  4 * p.ihl + p.body.encode.length

def header (p : Ipv4Packet) : Bytes :=
  nibbles 4 p.ihl :: p.service :: (u16ToBeBytes (UInt16.ofNat p.totalLen) ++
    (p.fragmentation ++ (p.ttl :: p.body.number :: (p.checksum ++
      (p.src ++ (p.dst ++ p.options))))))

def encode (p : Ipv4Packet) : Bytes :=
  p.header ++ p.body.encode

/-- The flow a packet belongs to, seen from the side that sends it (`outbound`) or receives it. -/
def flowKey (p : Ipv4Packet) : PacketDirection → FlowKey
  | .outbound =>
      { protocol := p.body.protocol
        remoteIp := zeroPadded p.dst
        remotePort := p.body.dstPort
        localPort := p.body.srcPort }
  | _ =>
      { protocol := p.body.protocol
        remoteIp := zeroPadded p.src
        remotePort := p.body.srcPort
        localPort := p.body.dstPort }

def packetMeta (p : Ipv4Packet) (direction : PacketDirection) : PacketMeta :=
  { flow := p.flowKey direction
    direction := direction
    payloadLen := UInt64.ofNat p.body.payload.length
    tcpFlags := p.body.flags }

theorem remoteByDirection_eq (p : Ipv4Packet) {direction : PacketDirection}
    (hdir : direction ≠ .unknown) :
    remoteByDirection direction (zeroPadded p.src) (zeroPadded p.dst) =
      ok (p.flowKey direction).remoteIp := by
  cases direction <;> first | rfl | exact absurd rfl hdir

theorem portsByDirection_eq (p : Ipv4Packet) {direction : PacketDirection}
    (hdir : direction ≠ .unknown) :
    portsByDirection direction p.body.srcPort p.body.dstPort =
      ok ((p.flowKey direction).remotePort, (p.flowKey direction).localPort) := by
  cases direction <;> first | rfl | exact absurd rfl hdir

theorem length_header (p : Ipv4Packet) : p.header.length = 4 * p.ihl := by
  have hge := p.ihl_ge
  simp [header, p.fragmentation_length, p.checksum_length, p.src_length, p.dst_length,
    p.options_length]
  omega

theorem length_encode (p : Ipv4Packet) : p.encode.length = p.totalLen := by
  simp [encode, p.length_header, totalLen]

end Ipv4Packet

end Core
end FlyDpi
