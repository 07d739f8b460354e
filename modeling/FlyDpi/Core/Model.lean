import FlyDpi.Lib.Bytes

/-!
# Model — shared data types of the core crate

The records of `model.rs` and `telemetry.rs`, the clock types, and the text form of a remote
address.  Addresses are 16 bytes; an IPv4 address occupies the first four.
-/

namespace FlyDpi
namespace Core

open Lib Lib.Bytes

/-! ## Clock -/

/-- `std::time::Instant`, in nanoseconds since an arbitrary origin. -/
abbrev Instant := Nat

/-- `std::time::Duration`, in nanoseconds. -/
abbrev Duration := Nat

namespace Instant

/-- `duration_since`: zero when `earlier` is not earlier. -/
def durationSince (now earlier : Instant) : Duration :=
  now - earlier

/-- `checked_duration_since`. -/
def checkedDurationSince (now earlier : Instant) : Option Duration :=
  if earlier ≤ now then some (now - earlier) else none

end Instant

/-! ## Records -/

inductive Protocol
  | tcp
  | udp
  | unknown
  deriving DecidableEq, Repr

structure FlowContext where
  protocol : Protocol
  remoteAddr : String
  remotePort : UInt16
  hostname : Option String
  startedUnixMs : UInt64
  deriving DecidableEq, Repr

inductive EventKind
  | packetObserved
  | connectAttempt
  | connectSuccess
  | connectFailure
  | resetObserved
  | receiveTimeout
  | dnsAddressMismatch
  deriving DecidableEq, Repr

structure NetworkEvent where
  timestampUnixMs : UInt64
  kind : EventKind
  protocol : String
  remoteAddr : String
  remotePort : UInt16
  processId : Option UInt32
  latencyMs : Option UInt64
  errorCode : Option Int32
  deriving DecidableEq

/-! ## Address text -/

abbrev IpBytes := Vector UInt8 16

/-- A zeroed 16-byte buffer with `prefixBytes` copied to its front. -/
def zeroPadded (prefixBytes : Bytes) : IpBytes :=
  Vector.ofFn fun i => prefixBytes.getD i.val 0

namespace Ipv6Addr

/-- The eight big-endian 16-bit groups. -/
def segments (addr : IpBytes) : List UInt16 :=
  (List.finRange 8).map fun i => u16FromBeBytes addr[2 * i.val] addr[2 * i.val + 1]

structure Span where
  start : Nat
  len : Nat

/-- One step of the scan for the first longest run of zero groups: `(longest, current)`. -/
def scanZeroes (acc : Span × Span) (segment : UInt16 × Nat) : Span × Span :=
  if segment.1 = 0 then
    -- a run that starts here, or the one that is open
    let start := if acc.2.len = 0 then segment.2 else acc.2.start
    let current : Span := { start := start, len := acc.2.len + 1 }
    -- strictly longer: of equal runs the first is kept
    (if acc.1.len < current.len then current else acc.1, current)
  else
    (acc.1, { start := 0, len := 0 })

def zeroes (groups : List UInt16) : Span :=
  (groups.zipIdx.foldl scanZeroes ({ start := 0, len := 0 }, { start := 0, len := 0 })).1

def lowerHex (segment : UInt16) : String :=
  String.ofList (Nat.toDigits 16 segment.toNat)

def fmtSubslice (chunk : List UInt16) : String :=
  ":".intercalate (chunk.map lowerHex)

end Ipv6Addr

/-- `a.b.c.d` from the first four bytes. -/
def dottedQuad (a b c d : UInt8) : String :=
  s!"{a.toNat}.{b.toNat}.{c.toNat}.{d.toNat}"

/-- `Ipv6Addr::from(addr).to_string()`: IPv4-mapped addresses keep their dotted quad, otherwise the
first longest run of at least two zero groups is written `::`. -/
def Ipv6Addr.display (addr : IpBytes) : String :=
  let groups := Ipv6Addr.segments addr
  if groups.take 6 = [0, 0, 0, 0, 0, 0xffff] then
    "::ffff:" ++ dottedQuad addr[12] addr[13] addr[14] addr[15]
  else
    let span := Ipv6Addr.zeroes groups
    -- a single zero group is written out
    if 1 < span.len then
      Ipv6Addr.fmtSubslice (groups.take span.start) ++ "::" ++
        Ipv6Addr.fmtSubslice (groups.drop (span.start + span.len))
    else
      Ipv6Addr.fmtSubslice groups

/-- The IPv4 text of the first four bytes. -/
def ipv4Text (addr : IpBytes) : String :=
  dottedQuad addr[0] addr[1] addr[2] addr[3]

/-- The address text both `format_remote` and `format_ip` write: a dotted quad when the last twelve
bytes are zero. -/
def addressText (addr : IpBytes) : String :=
  if (addr.toList.drop 4).all (fun b => b == 0) then
    dottedQuad addr[0] addr[1] addr[2] addr[3]
  else
    Ipv6Addr.display addr

end Core
end FlyDpi
