import FlyDpi.Core.Datapath
import FlyDpi.Core.Transport

/-!
# FlowAnalyzer — per-flow session signals

The model of `flow_analyzer.rs`.  `observe_packet` is one update of the signals of a flow; it
panics exactly when the payload analysis does.
-/

namespace FlyDpi
namespace Core

open Lib Lib.Outcome

inductive TcpLifecycle
  | new
  | synSent
  | established
  | finSeen
  | reset
  deriving DecidableEq, Repr

structure FlowSignals where
  synSeen : Bool
  synAckSeen : Bool
  ackSeen : Bool
  finSeen : Bool
  rstSeen : Bool
  packets : UInt64
  bytes : UInt64
  firstSeen : Option Instant
  lastSeen : Option Instant
  connectLatency : Option Duration
  tlsClientHelloSeen : Bool
  tlsSni : Option String
  quicLongHeaderSeen : Bool
  quicVersion : Option UInt32
  quicPacketType : Option UInt8
  deriving DecidableEq, Repr

inductive FlowDiagnosis
  | healthyTransport
  | tcpReset
  | tcpHandshakeIncomplete
  | idleTimeoutSuspected
  | tlsClientHelloObserved
  | quicLongHeaderObserved
  | unknown
  deriving DecidableEq, Repr

structure FlowSnapshot where
  key : FlowKey
  lifecycle : TcpLifecycle
  signals : FlowSignals
  diagnosis : FlowDiagnosis

structure FlowSessionAnalyzer where
  flows : Table FlowKey FlowSignals

namespace FlowSignals

/-- `FlowSignals::default()`. -/
def default : FlowSignals :=
  { synSeen := false
    synAckSeen := false
    ackSeen := false
    finSeen := false
    rstSeen := false
    packets := 0
    bytes := 0
    firstSeen := none
    lastSeen := none
    connectLatency := none
    tlsClientHelloSeen := false
    tlsSni := none
    quicLongHeaderSeen := false
    quicVersion := none
    quicPacketType := none }

/-- Counters and clock of `observe_packet`. -/
def count (s : FlowSignals) (packet : PacketMeta) (now : Instant) : FlowSignals :=
  { s with
    packets := saturatingAdd s.packets 1
    bytes := saturatingAdd s.bytes packet.payloadLen
    firstSeen := some (s.firstSeen.getD now)
    lastSeen := some now }

/-- The five sticky TCP flags. -/
def observeFlags (s : FlowSignals) (flags : UInt8) : FlowSignals :=
  let syn := flags &&& 0x02 ≠ 0
  let ack := flags &&& 0x10 ≠ 0
  { s with
    synSeen := s.synSeen || (decide syn && !decide ack)
    synAckSeen := s.synAckSeen || (decide syn && decide ack)
    ackSeen := s.ackSeen || decide ack
    finSeen := s.finSeen || decide (flags &&& 0x01 ≠ 0)
    rstSeen := s.rstSeen || decide (flags &&& 0x04 ≠ 0) }

/-- The connect latency is taken once, when both SYN and SYN-ACK have been seen. -/
def measureConnect (s : FlowSignals) (now : Instant) : FlowSignals :=
  if s.connectLatency.isNone ∧ s.synSeen ∧ s.synAckSeen then
    match s.firstSeen with
    | some first => { s with connectLatency := now.checkedDurationSince first }
    -- `observe_packet` has set `first_seen` before, so this arm is not taken
    | none => s
  else
    s

/-- The `packet.flow.protocol == Protocol::Tcp` branch. -/
def observeTcp (s : FlowSignals) (packet : PacketMeta) (now : Instant) : FlowSignals :=
  if packet.flow.protocol = .tcp then
    (s.observeFlags packet.tcpFlags).measureConnect now
  else
    s

/-- The match on the payload analysis. -/
def observeTransport (s : FlowSignals) (info : TransportInfo) : FlowSignals :=
  match info with
  | .tlsClientHello hello =>
      { s with
        tlsClientHelloSeen := true
        -- a ClientHello without a server name keeps the one seen before
        tlsSni := if hello.sni.isSome then hello.sni else s.tlsSni }
  | .quicLongHeader header =>
      { s with
        quicLongHeaderSeen := true
        quicVersion := some header.version
        quicPacketType := some header.packetType }
  | .unknown => s

def observe (s : FlowSignals) (packet : PacketMeta) (now : Instant) (info : TransportInfo) :
    FlowSignals :=
  ((s.count packet now).observeTcp packet now).observeTransport info

def lifecycle (s : FlowSignals) : TcpLifecycle :=
  if s.rstSeen then .reset
  else if s.finSeen then .finSeen
  else if s.synSeen && s.synAckSeen && s.ackSeen then .established
  else if s.synSeen then .synSent
  else .new

/-- The `SynSent` branch of `diagnosis`. -/
def idleDiagnosis (s : FlowSignals) (now : Instant) (timeout : Duration) : FlowDiagnosis :=
  match s.lastSeen with
  | some last =>
      if timeout ≤ now.durationSince last then .idleTimeoutSuspected else .tcpHandshakeIncomplete
  | none => .tcpHandshakeIncomplete

def diagnosis (s : FlowSignals) (state : TcpLifecycle) (now : Instant) (timeout : Duration) :
    FlowDiagnosis :=
  if s.rstSeen then .tcpReset
  else if state = .synSent then s.idleDiagnosis now timeout
  else if s.tlsClientHelloSeen then .tlsClientHelloObserved
  else if s.quicLongHeaderSeen then .quicLongHeaderObserved
  else if state = .established then .healthyTransport
  else .unknown

end FlowSignals

/-- What `observe_packet` keeps of a payload analysis: `Err(_)` is treated like `Ok(Unknown)`. -/
def observedInfo (protocol : Protocol) (payload : Bytes) : Outcome Empty TransportInfo :=
  match analyzePayload protocol payload with
  | .ok info => ok info
  | .err _ => ok .unknown
  | .panic => panic

namespace FlowSessionAnalyzer

def new : FlowSessionAnalyzer :=
  { flows := ∅ }

def observePacket (a : FlowSessionAnalyzer) (packet : PacketMeta) (payload : Bytes)
    (now : Instant) : Outcome Empty FlowSessionAnalyzer := do
  -- the source analyzes last; the entry is not read by it, and a panic loses the call either way
  let info ← observedInfo packet.flow.protocol payload
  return { flows := a.flows.upsert packet.flow fun entry =>
    (entry.getD FlowSignals.default).observe packet now info }

def snapshot (a : FlowSessionAnalyzer) (key : FlowKey) (now : Instant) (timeout : Duration) :
    Option FlowSnapshot :=
  (a.flows.lookup key).map fun signals =>
    { key := key
      lifecycle := signals.lifecycle
      signals := signals
      diagnosis := signals.diagnosis signals.lifecycle now timeout }

def expire (a : FlowSessionAnalyzer) (now : Instant) (idle : Duration) :
    Nat × FlowSessionAnalyzer :=
  -- a flow that was never seen counts as too old
  let flows := a.flows.retain fun _ flow =>
    (flow.lastSeen.map fun t => decide (now.durationSince t ≤ idle)).getD false
  (a.flows.size - flows.size, { flows := flows })

def flowCount (a : FlowSessionAnalyzer) : Nat :=
  a.flows.size

end FlowSessionAnalyzer

end Core
end FlyDpi
