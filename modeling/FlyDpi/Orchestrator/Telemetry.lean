import FlyDpi.Lib.Cursor
import FlyDpi.Orchestrator.GoStd

/-!
# Telemetry — the Go decoder of native snapshots

The model of `event.go` and `ingest.go`.  Strings of errors are kept; a read outside the buffer is
`Outcome.panic`.
-/

namespace FlyDpi
namespace Orchestrator
namespace Telemetry

open Lib Lib.Bytes Lib.Outcome

inductive Protocol
  | unknown
  | tcp
  | udp
  deriving DecidableEq, Repr

structure Event where
  timestamp : Time
  ipVersion : UInt32
  protocol : Protocol
  direction : UInt8
  localPort : UInt16
  remotePort : UInt16
  processId : UInt32
  eventCode : UInt32
  status : UInt32
  deriving DecidableEq, Repr

/-- The `switch` on the protocol byte. -/
def protocolOf (proto : UInt8) : Protocol :=
  if proto = 6 then .tcp
  else if proto = 17 then .udp
  else .unknown

/-- Times before 1970 become the zero time. -/
def filetimeToTime (v : UInt64) : Time :=
  if v < 116444736000000000 then
    Time.zero
  else
    let unix100ns := (v - 116444736000000000).toNat
    Time.unix (unix100ns / 10000000) (unix100ns % 10000000 * 100)

/-- `binary.LittleEndian` at width `w`: the value of `buf[n : n+w]`. -/
def littleEndian (w : Nat) (buf : Bytes) (n : Nat) : Outcome String Nat := do
  let bytes ← slice buf n (n + w)
  return leNat bytes

def decodeSnapshot (buf : Bytes) : Outcome String Event := do
  let size := 8 + 4 + 4 + 1 + 2 + 2 + 4 + 4
  reject (buf.length < size) s!"snapshot too small: {buf.length} < {size}"
  let n := 0
  let filetime ← littleEndian 8 buf n
  let n := n + 8
  -- flags are read and not used
  let _flags ← littleEndian 4 buf n
  let n := n + 4
  let ipVersion ← littleEndian 4 buf n
  let n := n + 4
  let proto ← index buf n
  let n := n + 1
  let localPort ← littleEndian 2 buf n
  let n := n + 2
  let remotePort ← littleEndian 2 buf n
  let n := n + 2
  let eventCode ← littleEndian 4 buf n
  let n := n + 4
  let status ← littleEndian 4 buf n
  return {
    timestamp := filetimeToTime (UInt64.ofNat filetime)
    ipVersion := UInt32.ofNat ipVersion
    protocol := protocolOf proto
    direction := 0
    localPort := UInt16.ofNat localPort
    remotePort := UInt16.ofNat remotePort
    processId := 0
    eventCode := UInt32.ofNat eventCode
    status := UInt32.ofNat status }

/-! ## What the decoder reads -/

theorem littleEndian_eq {buf bytes : Bytes} {n w : Nat} (h : At buf n bytes)
    (hlen : bytes.length = w) : littleEndian w buf n = ok (leNat bytes) := by
  unfold littleEndian
  rw [← hlen, h.slice_eq, ok_bind]
  rfl

/-- The decoder reads its fields one right after the other. -/
theorem decodeSnapshot_packed {filetime flags ipVersion localPort remotePort eventCode status rest :
    Bytes} {proto : UInt8} (hfiletime : filetime.length = 8) (hflags : flags.length = 4)
    (hipVersion : ipVersion.length = 4) (hlocalPort : localPort.length = 2)
    (hremotePort : remotePort.length = 2) (heventCode : eventCode.length = 4)
    (hstatus : status.length = 4) :
    decodeSnapshot (filetime ++ (flags ++ (ipVersion ++ (proto :: (localPort ++ (remotePort ++
        (eventCode ++ (status ++ rest)))))))) =
      ok
        { timestamp := filetimeToTime (UInt64.ofNat (leNat filetime))
          ipVersion := UInt32.ofNat (leNat ipVersion)
          protocol := protocolOf proto
          direction := 0
          localPort := UInt16.ofNat (leNat localPort)
          remotePort := UInt16.ofNat (leNat remotePort)
          processId := 0
          eventCode := UInt32.ofNat (leNat eventCode)
          status := UInt32.ofNat (leNat status) } := by
  generalize hbuf : filetime ++ (flags ++ (ipVersion ++ (proto :: (localPort ++ (remotePort ++
    (eventCode ++ (status ++ rest))))))) = buf
  have hat : At buf 0 (filetime ++ (flags ++ (ipVersion ++ (proto :: (localPort ++ (remotePort ++
      (eventCode ++ (status ++ rest)))))))) := by
    rw [← hbuf]
    exact At.self _
  simp only [At.append_iff, At.cons_iff, hfiletime, hflags, hipVersion, hlocalPort, hremotePort,
    heventCode, hstatus] at hat
  -- one fact for each field, named after its offset
  rcases hat with ⟨h0, h8, h12, h16, h17, h19, h21, h25, _⟩
  have hlong : ¬ buf.length < 8 + 4 + 4 + 1 + 2 + 2 + 4 + 4 := by
    have := h25.le_length
    omega
  unfold decodeSnapshot
  dsimp only
  rw [reject_of_not hlong, ok_bind, littleEndian_eq h0 hfiletime, ok_bind,
    littleEndian_eq h8 hflags, ok_bind, littleEndian_eq h12 hipVersion, ok_bind,
    index_eq_ok_iff.2 h16, ok_bind, littleEndian_eq h17 hlocalPort, ok_bind,
    littleEndian_eq h19 hremotePort, ok_bind, littleEndian_eq h21 heventCode, ok_bind,
    littleEndian_eq h25 hstatus, ok_bind]
  rfl

/-- `t` is the FILETIME `v`, 100 ns ticks since 1601, as Unix time; what lies before 1970 is
negative. -/
structure IsUnixTime (v : UInt64) (t : Time) : Prop where
  ticks : t.sec * 1000000000 + t.nsec = ((v.toNat : Int) - 116444736000000000) * 100
  nsec_lt : t.nsec < 1000000000

/-- The conversion is right from 1970 on, and never before: the zero time lies in the year 1. -/
theorem filetimeToTime_isUnixTime_iff (v : UInt64) :
    IsUnixTime v (filetimeToTime v) ↔ 116444736000000000 ≤ v.toNat := by
  have hepoch : v < 116444736000000000 ↔ v.toNat < 116444736000000000 := UInt64.lt_iff_toNat_lt
  unfold filetimeToTime
  by_cases h : v.toNat < 116444736000000000
  · rw [if_pos (hepoch.2 h)]
    constructor
    · intro htime
      have hticks := htime.ticks
      simp only [Time.zero] at hticks
      omega
    · intro hle
      exact absurd h (Nat.not_lt.2 hle)
  · -- from 1970 on the subtraction does not wrap
    have hsub : (v - 116444736000000000).toNat = v.toNat - 116444736000000000 :=
      UInt64.toNat_sub_of_le _ _ (UInt64.le_iff_toNat_le.2 (Nat.not_lt.1 h))
    rw [if_neg (mt hepoch.1 h), hsub]
    refine ⟨fun _ => Nat.not_lt.1 h, fun _ => ⟨?_, ?_⟩⟩
    · simp only [Time.unix]
      omega
    · simp only [Time.unix]
      omega

end Telemetry
end Orchestrator
end FlyDpi
