import FlyDpi.Core.Datapath
import FlyDpi.Native.Observer

/-!
# WfpBridge — normalization of native snapshots

The model of `wfp_bridge.rs`: which snapshots are transport events, the flow key and the event they
normalize to, and `feed_snapshot`, the one step by which a snapshot reaches the flow table.
-/

namespace FlyDpi
namespace Core

open Lib Native

abbrev WfpEventSnapshot := FlyDpiEventSnapshot

inductive SnapshotClass
  | transport
  | other
  | invalid
  deriving DecidableEq, Repr

def classifySnapshot (snapshot : WfpEventSnapshot) : SnapshotClass :=
  if snapshot.ipVersion ≠ 4 ∧ snapshot.ipVersion ≠ 6 then .invalid
  else if snapshot.protocol = 6 ∨ snapshot.protocol = 17 then .transport
  else .other

/-- FILETIME ticks to Unix milliseconds; times before 1970 become zero. -/
def filetimeToUnixMs (value : UInt64) : UInt64 :=
  saturatingSub value 116444736000000000 / 10000

def formatIp (addr : IpBytes) : String :=
  addressText addr

/-- `result_code as i32`: the same bits, read as two's complement. -/
def asI32 (value : UInt32) : Int32 :=
  Int32.ofBitVec value.toBitVec

def snapshotToEvent (snapshot : WfpEventSnapshot) : Option NetworkEvent :=
  if classifySnapshot snapshot = .invalid then
    none
  else
    some
      { timestampUnixMs := filetimeToUnixMs snapshot.timestamp100ns
        kind := .packetObserved
        protocol :=
          if snapshot.protocol = 6 then "tcp"
          else if snapshot.protocol = 17 then "udp"
          else "other"
        remoteAddr := formatIp snapshot.remoteAddr
        remotePort := snapshot.remotePort
        processId := none
        latencyMs := none
        errorCode := if snapshot.resultCode ≠ 0 then some (asI32 snapshot.resultCode) else none }

/-- The transport protocol of an IP protocol number, if it is TCP or UDP. -/
def transportProtocol (protocol : UInt8) : Option Protocol :=
  if protocol = 6 then some .tcp
  else if protocol = 17 then some .udp
  else none

def snapshotToMeta (snapshot : WfpEventSnapshot) : Option PacketMeta := do
  let protocol ← transportProtocol snapshot.protocol
  -- the same test as in `classify_snapshot`, made a second time
  if snapshot.ipVersion ≠ 4 ∧ snapshot.ipVersion ≠ 6 then
    none
  else if snapshot.remotePort = 0 ∧ snapshot.localPort = 0 then
    none
  else
    some
      { flow :=
          { protocol := protocol
            remoteIp := snapshot.remoteAddr
            remotePort := snapshot.remotePort
            localPort := snapshot.localPort }
        direction := .unknown
        payloadLen := 0
        tcpFlags := 0 }

/-- The event returned and the datapath afterwards. -/
def feedSnapshot (datapath : Datapath) (snapshot : WfpEventSnapshot) (now : Instant) :
    Option NetworkEvent × Datapath :=
  match snapshotToMeta snapshot with
  -- what is not a transport event leaves the table alone
  | none => (none, datapath)
  | some packet => (snapshotToEvent snapshot, (datapath.onPacket packet now).2)

/-! ## Accepted snapshots -/

/-- What `snapshot_to_meta` asks of a snapshot. -/
structure Accepted (snapshot : WfpEventSnapshot) : Prop where
  version : snapshot.ipVersion = 4 ∨ snapshot.ipVersion = 6
  protocol : snapshot.protocol = 6 ∨ snapshot.protocol = 17
  ports : ¬ (snapshot.remotePort = 0 ∧ snapshot.localPort = 0)

instance (snapshot : WfpEventSnapshot) : Decidable (Accepted snapshot) :=
  decidable_of_iff
    ((snapshot.ipVersion = 4 ∨ snapshot.ipVersion = 6) ∧
      (snapshot.protocol = 6 ∨ snapshot.protocol = 17) ∧
      ¬ (snapshot.remotePort = 0 ∧ snapshot.localPort = 0))
    ⟨fun h => ⟨h.1, h.2.1, h.2.2⟩, fun h => ⟨h.version, h.protocol, h.ports⟩⟩

/-- The packet an accepted snapshot stands for. -/
def acceptedPacket (snapshot : WfpEventSnapshot) : PacketMeta :=
  { flow :=
      { protocol := if snapshot.protocol = 6 then .tcp else .udp
        remoteIp := snapshot.remoteAddr
        remotePort := snapshot.remotePort
        localPort := snapshot.localPort }
    direction := .unknown
    payloadLen := 0
    tcpFlags := 0 }

theorem snapshotToMeta_of_accepted {snapshot : WfpEventSnapshot} (h : Accepted snapshot) :
    snapshotToMeta snapshot = some (acceptedPacket snapshot) := by
  have hversion : ¬ (snapshot.ipVersion ≠ 4 ∧ snapshot.ipVersion ≠ 6) := by
    rintro ⟨h4, h6⟩
    exact h.version.elim h4 h6
  have hprotocol : transportProtocol snapshot.protocol =
      some (acceptedPacket snapshot).flow.protocol := by
    rcases h.protocol with hp | hp <;> simp [transportProtocol, acceptedPacket, hp]
  unfold snapshotToMeta
  rw [hprotocol, Option.bind_eq_bind, Option.bind_some, if_neg hversion, if_neg h.ports]
  rfl

theorem snapshotToMeta_of_not_accepted {snapshot : WfpEventSnapshot} (h : ¬ Accepted snapshot) :
    snapshotToMeta snapshot = none := by
  unfold snapshotToMeta transportProtocol
  -- a result has passed all three tests
  by_contra hne
  rcases Option.ne_none_iff_exists'.1 hne with ⟨packet, hpacket⟩
  rcases Option.bind_eq_some_iff.1 hpacket with ⟨protocol, hprotocol, hrest⟩
  split at hrest
  · cases hrest
  rename_i hversion
  split at hrest
  · cases hrest
  rename_i hports
  refine h ⟨?_, ?_, hports⟩
  · by_contra hboth
    exact hversion (not_or.1 hboth)
  · by_contra hboth
    rcases not_or.1 hboth with ⟨h6, h17⟩
    simp [h6, h17] at hprotocol

theorem classifySnapshot_of_accepted {snapshot : WfpEventSnapshot} (h : Accepted snapshot) :
    classifySnapshot snapshot = .transport := by
  have hversion : ¬ (snapshot.ipVersion ≠ 4 ∧ snapshot.ipVersion ≠ 6) := by
    rintro ⟨h4, h6⟩
    exact h.version.elim h4 h6
  rw [classifySnapshot, if_neg hversion, if_pos h.protocol]

/-! ## What `feed_snapshot` does -/

/-- The event a snapshot normalizes to; it does not depend on the datapath. -/
def normalize (snapshot : WfpEventSnapshot) : Option NetworkEvent :=
  if Accepted snapshot then snapshotToEvent snapshot else none

theorem normalize_isSome_iff {snapshot : WfpEventSnapshot} :
    (normalize snapshot).isSome ↔ Accepted snapshot := by
  unfold normalize
  split
  · rename_i h
    simp [snapshotToEvent, classifySnapshot_of_accepted h, h]
  · rename_i h
    simp [h]

theorem feedSnapshot_of_accepted {snapshot : WfpEventSnapshot} (h : Accepted snapshot)
    (datapath : Datapath) (now : Instant) :
    feedSnapshot datapath snapshot now =
      (normalize snapshot, (datapath.onPacket (acceptedPacket snapshot) now).2) := by
  rw [feedSnapshot, snapshotToMeta_of_accepted h, normalize, if_pos h]

theorem feedSnapshot_of_not_accepted {snapshot : WfpEventSnapshot} (h : ¬ Accepted snapshot)
    (datapath : Datapath) (now : Instant) :
    feedSnapshot datapath snapshot now = (none, datapath) := by
  rw [feedSnapshot, snapshotToMeta_of_not_accepted h]

theorem fst_feedSnapshot (datapath : Datapath) (snapshot : WfpEventSnapshot) (now : Instant) :
    (feedSnapshot datapath snapshot now).1 = normalize snapshot := by
  by_cases h : Accepted snapshot
  · rw [feedSnapshot_of_accepted h]
  · rw [feedSnapshot_of_not_accepted h, normalize, if_neg h]

end Core
end FlyDpi
