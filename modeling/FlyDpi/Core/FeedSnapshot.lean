import FlyDpi.Core.AddressFamilies
import FlyDpi.Core.IngestMemory

/-!
# FeedSnapshot — one snapshot, one count, one event

`feed_snapshot` updates the table before it builds the event, and the two are guarded by different
tests.  Both tests accept the same snapshots, so a snapshot is either refused without a trace or
counted once, in the flow that its event describes.
-/

namespace FlyDpi
namespace Core

open Lib Native

/-- The name `event_for` gives to the protocol of a flow. -/
def protocolName : Protocol → String
  | .tcp => "tcp"
  | .udp => "udp"
  | .unknown => "unknown"

/-- The key is made of the snapshot's protocol, remote address and ports. -/
structure KeyedBy (snapshot : WfpEventSnapshot) (key : FlowKey) : Prop where
  protocol : transportProtocol snapshot.protocol = some key.protocol
  remoteIp : key.remoteIp = snapshot.remoteAddr
  remotePort : key.remotePort = snapshot.remotePort
  localPort : key.localPort = snapshot.localPort

/-- The event names the protocol and the remote end that the key and the context of a flow name. -/
structure Describes (event : NetworkEvent) (key : FlowKey) (context : FlowContext) : Prop where
  keyProtocol : event.protocol = protocolName key.protocol
  keyRemoteAddr : event.remoteAddr = formatRemote key.remoteIp
  keyRemotePort : event.remotePort = key.remotePort
  contextProtocol : event.protocol = protocolName context.protocol
  contextRemoteAddr : event.remoteAddr = context.remoteAddr
  contextRemotePort : event.remotePort = context.remotePort

/-- The packet count of a flow, zero when there is none. -/
def Datapath.packetCount (dp : Datapath) (key : FlowKey) : UInt64 :=
  ((dp.flow key).map FlowState.packets).getD 0

/-- One flow has one packet more, and it is the one that the event describes. -/
structure CountedOnce (dp dp' : Datapath) (key : FlowKey) (event : NetworkEvent) : Prop where
  counted : ∃ entry, dp'.flow key = some entry ∧
    entry.packets = saturatingAdd (dp.packetCount key) 1 ∧ Describes event key entry.context
  others : ∀ key', key' ≠ key → dp'.flow key' = dp.flow key'

theorem keyedBy_acceptedPacket {snapshot : WfpEventSnapshot} (h : Accepted snapshot) :
    KeyedBy snapshot (acceptedPacket snapshot).flow where
  protocol := by
    rcases h.protocol with hp | hp
    · simp [transportProtocol, acceptedPacket, hp]
    · simp [transportProtocol, acceptedPacket, hp]
  remoteIp := rfl
  remotePort := rfl
  localPort := rfl

/-- The three tests of `snapshot_to_meta` include the one of `snapshot_to_event`, and the two match
the protocol numbers alike. -/
theorem exists_event_of_accepted {snapshot : WfpEventSnapshot} (h : Accepted snapshot) :
    ∃ event, normalize snapshot = some event ∧
      event.protocol = protocolName (acceptedPacket snapshot).flow.protocol ∧
      event.remoteAddr = formatRemote snapshot.remoteAddr ∧
      event.remotePort = snapshot.remotePort := by
  have hclass : classifySnapshot snapshot ≠ .invalid := by
    simp [classifySnapshot_of_accepted h]
  rw [normalize, if_pos h, snapshotToEvent, if_neg hclass]
  refine ⟨_, rfl, ?_, rfl, rfl⟩
  rcases h.protocol with hp | hp
  · simp [acceptedPacket, protocolName, hp]
  · simp [acceptedPacket, protocolName, hp]

theorem packets_touch (dp : Datapath) (packet : PacketMeta) (now : Instant) :
    (((dp.flow packet.flow).getD (FlowState.fresh packet now)).touch packet now).packets =
      saturatingAdd (dp.packetCount packet.flow) 1 := by
  rw [Datapath.packetCount]
  cases dp.flow packet.flow with
  | none =>
      rfl
  | some entry =>
      rfl

theorem countedOnce_feedSnapshot {snapshot : WfpEventSnapshot} (h : Accepted snapshot)
    (ops : List DatapathOp) (now : Instant) :
    ∃ event, (feedSnapshot (Datapath.run ops) snapshot now).1 = some event ∧
      CountedOnce (Datapath.run ops) (feedSnapshot (Datapath.run ops) snapshot now).2
        (acceptedPacket snapshot).flow event := by
  rcases exists_event_of_accepted h with ⟨event, hevent, hprotocol, haddr, hport⟩
  refine ⟨event, ?_, ?_, ?_⟩
  · rw [fst_feedSnapshot]
    exact hevent
  · have hflow := Datapath.flow_onPacket_self (Datapath.run ops) (acceptedPacket snapshot) now
    have hpackets := packets_touch (Datapath.run ops) (acceptedPacket snapshot) now
    rw [feedSnapshot_of_accepted h]
    refine ⟨_, hflow, hpackets, ?_⟩
    have hrun := feedSnapshot_run h ops now
    rw [feedSnapshot_of_accepted h] at hrun
    rw [hrun] at hflow
    have haccount := Datapath.flowAccount_of_flow hflow
    exact
      { keyProtocol := hprotocol
        keyRemoteAddr := haddr
        keyRemotePort := hport
        contextProtocol := by
          rw [haccount.protocol]
          exact hprotocol
        contextRemoteAddr := by
          rw [haccount.remoteAddr]
          exact haddr
        contextRemotePort := by
          rw [haccount.remotePort]
          exact hport }
  · intro key hkey
    rw [feedSnapshot_of_accepted h]
    exact Datapath.flow_onPacket_ne _ _ _ hkey

/-! ## Totals over a run -/

/-- Packets over all flows. -/
def Datapath.totalPackets (dp : Datapath) : Nat :=
  dp.flows.total fun entry => entry.packets.toNat

/-- The events that feeding the snapshots one after the other returns. -/
def returnedEvents (dp : Datapath) : List (WfpEventSnapshot × Instant) → List NetworkEvent
  | [] => []
  | fed :: run =>
      (feedSnapshot dp fed.1 fed.2).1.toList ++
        returnedEvents (feedSnapshot dp fed.1 fed.2).2 run

/-- No fed snapshot meets a packet count that is at its maximum. -/
def NoSaturation (dp : Datapath) : List (WfpEventSnapshot × Instant) → Prop
  | [] => True
  | fed :: run =>
      (∀ packet, snapshotToMeta fed.1 = some packet →
        (dp.packetCount packet.flow).toNat < 2 ^ 64 - 1) ∧
      NoSaturation (feedSnapshot dp fed.1 fed.2).2 run

theorem totalPackets_onPacket {dp : Datapath} {packet : PacketMeta}
    (h : (dp.packetCount packet.flow).toNat < 2 ^ 64 - 1) (now : Instant) :
    (dp.onPacket packet now).2.totalPackets = dp.totalPackets + 1 := by
  have htotal : (dp.onPacket packet now).2.totalPackets +
      ((dp.flow packet.flow).map fun entry => entry.packets.toNat).getD 0 =
      dp.totalPackets +
        (((dp.flow packet.flow).getD (FlowState.fresh packet now)).touch packet now).packets.toNat :=
    Table.total_upsert dp.flows packet.flow
      (fun entry => (entry.getD (FlowState.fresh packet now)).touch packet now)
      fun entry => entry.packets.toNat
  have hold : ((dp.flow packet.flow).map fun entry => entry.packets.toNat).getD 0 =
      (dp.packetCount packet.flow).toNat := by
    rw [Datapath.packetCount]
    cases dp.flow packet.flow with
    | none =>
        rfl
    | some entry =>
        rfl
  rw [packets_touch, toNat_saturatingAdd_one h, hold] at htotal
  omega

/-- One fed snapshot moves the total by the event it returns. -/
theorem totalPackets_feedSnapshot {dp : Datapath} {snapshot : WfpEventSnapshot}
    (h : ∀ packet, snapshotToMeta snapshot = some packet →
      (dp.packetCount packet.flow).toNat < 2 ^ 64 - 1) (now : Instant) :
    (feedSnapshot dp snapshot now).2.totalPackets =
      dp.totalPackets + (feedSnapshot dp snapshot now).1.toList.length := by
  by_cases haccepted : Accepted snapshot
  · rcases exists_event_of_accepted haccepted with ⟨event, hevent, _⟩
    rw [feedSnapshot_of_accepted haccepted, hevent]
    exact totalPackets_onPacket (h _ (snapshotToMeta_of_accepted haccepted)) now
  · rw [feedSnapshot_of_not_accepted haccepted]
    rfl

theorem totalPackets_ingest (dp : Datapath) (run : List (WfpEventSnapshot × Instant))
    (h : NoSaturation dp run) :
    (ingest dp run).totalPackets = dp.totalPackets + (returnedEvents dp run).length := by
  induction run generalizing dp with
  | nil =>
      rfl
  | cons fed run ih =>
      have hrun : ingest dp (fed :: run) = ingest (feedSnapshot dp fed.1 fed.2).2 run := rfl
      have hfirst := totalPackets_feedSnapshot h.1 fed.2
      rw [hrun, ih _ h.2, hfirst, returnedEvents, List.length_append, Nat.add_assoc]

/-- From every reachable table a snapshot is either refused without a trace or counted once in the
flow that its event describes, and over a run the packets counted are the events returned. -/
theorem feedSnapshot_allOrNothing (ops : List DatapathOp) :
    (∀ snapshot now,
      feedSnapshot (Datapath.run ops) snapshot now = (none, Datapath.run ops) ∨
      ∃ event key, (feedSnapshot (Datapath.run ops) snapshot now).1 = some event ∧
        KeyedBy snapshot key ∧
        CountedOnce (Datapath.run ops) (feedSnapshot (Datapath.run ops) snapshot now).2 key
          event) ∧
    ∀ run, NoSaturation (Datapath.run ops) run →
      (ingest (Datapath.run ops) run).totalPackets =
        (Datapath.run ops).totalPackets + (returnedEvents (Datapath.run ops) run).length := by
  constructor
  · intro snapshot now
    by_cases h : Accepted snapshot
    · right
      rcases countedOnce_feedSnapshot h ops now with ⟨event, hevent, hcounted⟩
      exact ⟨event, _, hevent, keyedBy_acceptedPacket h, hcounted⟩
    · left
      exact feedSnapshot_of_not_accepted h _ _
  · intro run h
    exact totalPackets_ingest _ run h

/-- Two snapshots of one flow and one without ports, fed into an empty table. -/
theorem feedSnapshot_allOrNothing_three :
    (ingest (Datapath.run []) [(snapshotTo 4 [1, 1, 1, 1], 0), (FlyDpiEventSnapshot.zero, 1),
        (snapshotTo 4 [1, 1, 1, 1], 2)]).totalPackets =
      (Datapath.run []).totalPackets +
        (returnedEvents (Datapath.run []) [(snapshotTo 4 [1, 1, 1, 1], 0),
          (FlyDpiEventSnapshot.zero, 1), (snapshotTo 4 [1, 1, 1, 1], 2)]).length :=
  (feedSnapshot_allOrNothing []).2 _ (by
    refine ⟨?_, ?_, ?_, trivial⟩
    · rintro packet ⟨⟩
      decide
    · rintro packet ⟨⟩
    · rintro packet ⟨⟩
      decide)

end Core
end FlyDpi
