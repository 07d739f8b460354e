import FlyDpi.Lib.Saturating
import FlyDpi.Lib.Table
import FlyDpi.Core.Model

/-!
# Datapath — the transformation-free flow table

The model of `datapath.rs`: a table of flow records keyed by protocol, remote endpoint and local
port.  The hash map of the source is only looked up, updated, filtered and counted, so it is
modelled by `Lib.Table`.
-/

namespace FlyDpi
namespace Core

open Lib

structure FlowKey where
  protocol : Protocol
  remoteIp : IpBytes
  remotePort : UInt16
  localPort : UInt16
  deriving DecidableEq

inductive PacketDirection
  | outbound
  | inbound
  | unknown
  deriving DecidableEq, Repr

/-- `payload_len` is a `usize`, 64 bits wide on the supported targets. -/
structure PacketMeta where
  flow : FlowKey
  direction : PacketDirection
  payloadLen : UInt64
  tcpFlags : UInt8
  deriving DecidableEq

inductive DatapathAction
  | pass
  | observe
  deriving DecidableEq, Repr

structure FlowState where
  context : FlowContext
  createdAt : Instant
  lastSeen : Instant
  packets : UInt64
  bytes : UInt64

def formatRemote (addr : IpBytes) : String :=
  addressText addr

/-- The record `on_packet` inserts for a key that has none. -/
def FlowState.fresh (packet : PacketMeta) (now : Instant) : FlowState :=
  { context :=
      { protocol := packet.flow.protocol
        remoteAddr := formatRemote packet.flow.remoteIp
        remotePort := packet.flow.remotePort
        -- neither is known to the datapath
        hostname := none
        startedUnixMs := 0 }
    createdAt := now
    lastSeen := now
    packets := 0
    bytes := 0 }

/-- The update `on_packet` makes to the entry of its key. -/
def FlowState.touch (entry : FlowState) (packet : PacketMeta) (now : Instant) : FlowState :=
  { entry with
    lastSeen := now
    packets := saturatingAdd entry.packets 1
    bytes := saturatingAdd entry.bytes packet.payloadLen }

structure Datapath where
  flows : Table FlowKey FlowState

namespace Datapath

def new : Datapath :=
  { flows := ∅ }

def onPacket (dp : Datapath) (packet : PacketMeta) (now : Instant) : DatapathAction × Datapath :=
  (DatapathAction.observe,
    { flows := dp.flows.upsert packet.flow fun entry =>
        (entry.getD (FlowState.fresh packet now)).touch packet now })

def flow (dp : Datapath) (key : FlowKey) : Option FlowState :=
  dp.flows.lookup key

def flowCount (dp : Datapath) : Nat :=
  dp.flows.size

def expireIdle (dp : Datapath) (now : Instant) (idle : Duration) : Nat × Datapath :=
  let flows := dp.flows.retain fun _ flow => decide (now.durationSince flow.lastSeen ≤ idle)
  (dp.flows.size - flows.size, { flows := flows })

def clear (_dp : Datapath) : Datapath :=
  { flows := ∅ }

/-! ## What `on_packet` changes -/

variable (dp : Datapath) (packet : PacketMeta) (now : Instant)

theorem flow_onPacket_self :
    (dp.onPacket packet now).2.flow packet.flow =
      some (((dp.flow packet.flow).getD (FlowState.fresh packet now)).touch packet now) := by
  simp [onPacket, flow]

theorem flow_onPacket_ne {key : FlowKey} (h : key ≠ packet.flow) :
    (dp.onPacket packet now).2.flow key = dp.flow key := by
  simp [onPacket, flow, Table.lookup_upsert_ne h]

theorem keySet_onPacket :
    (dp.onPacket packet now).2.flows.keySet = insert packet.flow dp.flows.keySet :=
  Table.keySet_upsert _ _ _

theorem flowCount_eq_card : dp.flowCount = dp.flows.keySet.card :=
  Table.size_eq_card _

end Datapath

end Core
end FlyDpi
