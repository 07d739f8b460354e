import FlyDpi.Lib.Sessions
import FlyDpi.Core.FlowAnalyzer

/-!
# FlowHistory — the session analyzer summarizes the packets it saw

A run of the analyzer is a sequence of `observe_packet` and `expire` calls.  The abstract state of a
key is its life, the list of packets observed since its last removal; the signals the analyzer keeps
are the fold of that list, and every field a snapshot shows is a statement about it.
-/

namespace FlyDpi
namespace Core

open Lib Lib.Outcome

/-- One call of `observe_packet`. -/
structure Observation where
  packet : PacketMeta
  payload : Bytes
  now : Instant

namespace Observation

/-- What the payload analysis contributes; errors contribute nothing. -/
def info (o : Observation) : TransportInfo :=
  match analyzePayload o.packet.flow.protocol o.payload with
  | .ok info => info
  | _ => .unknown

def clientHello (o : Observation) : Option TlsClientHelloInfo :=
  match o.info with
  | .tlsClientHello hello => some hello
  | _ => none

def longHeader (o : Observation) : Option QuicHeaderInfo :=
  match o.info with
  | .quicLongHeader header => some header
  | _ => none

/-- The server name extracted from the packet. -/
def sni (o : Observation) : Option String :=
  o.clientHello.bind fun hello => hello.sni

/-! ### Flags -/

def HasSyn (o : Observation) : Prop := o.packet.tcpFlags &&& 0x02 ≠ 0
def HasAck (o : Observation) : Prop := o.packet.tcpFlags &&& 0x10 ≠ 0
def HasFin (o : Observation) : Prop := o.packet.tcpFlags &&& 0x01 ≠ 0
def HasRst (o : Observation) : Prop := o.packet.tcpFlags &&& 0x04 ≠ 0

/-- SYN without ACK. -/
def IsSyn (o : Observation) : Prop := o.HasSyn ∧ ¬ o.HasAck

/-- SYN with ACK. -/
def IsSynAck (o : Observation) : Prop := o.HasSyn ∧ o.HasAck

instance : DecidablePred HasSyn := fun _ => inferInstanceAs (Decidable (_ ≠ _))
instance : DecidablePred HasAck := fun _ => inferInstanceAs (Decidable (_ ≠ _))
instance : DecidablePred HasFin := fun _ => inferInstanceAs (Decidable (_ ≠ _))
instance : DecidablePred HasRst := fun _ => inferInstanceAs (Decidable (_ ≠ _))
instance : DecidablePred IsSyn := fun _ => inferInstanceAs (Decidable (_ ∧ _))
instance : DecidablePred IsSynAck := fun _ => inferInstanceAs (Decidable (_ ∧ _))

theorem protocol_of_clientHello {o : Observation} {hello : TlsClientHelloInfo}
    (h : o.clientHello = some hello) : o.packet.flow.protocol = .tcp := by
  unfold clientHello info at h
  split at h
  · rename_i hello' hinfo
    split at hinfo
    · subst hinfo
      exact analyzePayload_tls (by assumption)
    · cases hinfo
  · cases h

theorem protocol_of_longHeader {o : Observation} {header : QuicHeaderInfo}
    (h : o.longHeader = some header) : o.packet.flow.protocol = .udp := by
  unfold longHeader info at h
  split at h
  · rename_i header' hinfo
    split at hinfo
    · subst hinfo
      exact analyzePayload_quic (by assumption)
    · cases hinfo
  · cases h

end Observation

/-! ## Runs of the analyzer -/

inductive FlowOp
  | observe (o : Observation)
  | expire (now : Instant) (idle : Duration)

namespace FlowOp

/-- The calls as steps of a session table. -/
def toSession : FlowOp → Sessions.Op FlowKey Observation (Instant × Duration)
  | observe o => .touch o.packet.flow o
  | expire now idle => .sweep (now, idle)

end FlowOp

/-- `expire(now, idle)` keeps a key whose last packet is not more than `idle` before `now`. -/
def stays (expiry : Instant × Duration) (es : List Observation) : Bool :=
  es.getLast?.any fun o => decide (expiry.1 ≤ o.now + expiry.2)

/-- The packets of `key` observed since its last removal, oldest first. -/
def packetsSince (key : FlowKey) (ops : List FlowOp) : List Observation :=
  Sessions.life stays key (ops.map FlowOp.toSession)

theorem packetsSince_expire (key : FlowKey) (ops : List FlowOp) (now : Instant) (idle : Duration) :
    packetsSince key (ops ++ [.expire now idle]) =
      if stays (now, idle) (packetsSince key ops) then packetsSince key ops else [] := by
  unfold packetsSince
  rw [List.map_append]
  exact Sessions.life_concat stays key (ops.map FlowOp.toSession) (.sweep (now, idle))

namespace FlowSessionAnalyzer

def apply (a : FlowSessionAnalyzer) : FlowOp → Outcome Empty FlowSessionAnalyzer
  | .observe o => a.observePacket o.packet o.payload o.now
  | .expire now idle => ok (a.expire now idle).2

/-- A run; it panics when one of its calls does. -/
def run (a : FlowSessionAnalyzer) (ops : List FlowOp) : Outcome Empty FlowSessionAnalyzer :=
  ops.foldlM apply a

/-- The update of an entry by one observation. -/
def update (entry : Option FlowSignals) (o : Observation) : FlowSignals :=
  (entry.getD FlowSignals.default).observe o.packet o.now o.info

/-- The entries `expire` retains. -/
def retains (expiry : Instant × Duration) (flow : FlowSignals) : Bool :=
  (flow.lastSeen.map fun t => decide (expiry.1.durationSince t ≤ expiry.2)).getD false

theorem flows_of_apply {a a' : FlowSessionAnalyzer} {op : FlowOp} (h : a.apply op = ok a') :
    a'.flows = Sessions.step update retains a.flows op.toSession := by
  cases op with
  | observe o =>
      -- the observation did not panic, so its analysis is what `Observation.info` says
      simp only [apply, observePacket, bind_eq_ok_iff, pure_eq_ok, ok.injEq] at h
      rcases h with ⟨info, hinfo, rfl⟩
      have hinfo' : o.info = info := by
        unfold observedInfo at hinfo
        unfold Observation.info
        split at hinfo <;> simp_all
      simp only [FlowOp.toSession, Sessions.step, update, hinfo']
  | expire now idle =>
      cases h
      rfl

theorem flows_of_run {ops : List FlowOp} {a a' : FlowSessionAnalyzer} (h : a.run ops = ok a') :
    a'.flows = (ops.map FlowOp.toSession).foldl (Sessions.step update retains) a.flows := by
  induction ops generalizing a with
  | nil =>
      cases h
      rfl
  | cons op ops ih =>
      simp only [run, List.foldlM_cons, bind_eq_ok_iff] at h
      rcases h with ⟨b, hb, h⟩
      rw [ih h, flows_of_apply hb]
      rfl

theorem run_append {a b c : FlowSessionAnalyzer} {ops more : List FlowOp} (hb : a.run ops = ok b)
    (hc : b.run more = ok c) : a.run (ops ++ more) = ok c := by
  simp only [run, List.foldlM_append]
  exact bind_eq_ok_iff.2 ⟨b, hb, hc⟩

end FlowSessionAnalyzer

/-! ## One observation -/

namespace FlowSignals

theorem measureConnect_eq (s : FlowSignals) (now : Instant) :
    ∃ latency, s.measureConnect now = { s with connectLatency := latency } := by
  unfold measureConnect
  split
  · split
    · exact ⟨_, rfl⟩
    · exact ⟨s.connectLatency, rfl⟩
  · exact ⟨s.connectLatency, rfl⟩

/-- One observation, field by field; only the connect latency is left open. -/
theorem observe_eq (s : FlowSignals) (o : Observation) :
    ∃ latency, s.observe o.packet o.now o.info =
      { synSeen := s.synSeen || decide (o.packet.flow.protocol = .tcp ∧ o.IsSyn)
        synAckSeen := s.synAckSeen || decide (o.packet.flow.protocol = .tcp ∧ o.IsSynAck)
        ackSeen := s.ackSeen || decide (o.packet.flow.protocol = .tcp ∧ o.HasAck)
        finSeen := s.finSeen || decide (o.packet.flow.protocol = .tcp ∧ o.HasFin)
        rstSeen := s.rstSeen || decide (o.packet.flow.protocol = .tcp ∧ o.HasRst)
        packets := saturatingAdd s.packets 1
        bytes := saturatingAdd s.bytes o.packet.payloadLen
        firstSeen := some (s.firstSeen.getD o.now)
        lastSeen := some o.now
        connectLatency := latency
        tlsClientHelloSeen := s.tlsClientHelloSeen || o.clientHello.isSome
        tlsSni := o.sni.or s.tlsSni
        quicLongHeaderSeen := s.quicLongHeaderSeen || o.longHeader.isSome
        quicVersion := (o.longHeader.map (·.version)).or s.quicVersion
        quicPacketType := (o.longHeader.map (·.packetType)).or s.quicPacketType } := by
  -- the TCP branch first: the counters do not touch the flags
  have htcp : ∃ latency, (s.count o.packet o.now).observeTcp o.packet o.now =
      { s.count o.packet o.now with
        synSeen := s.synSeen || decide (o.packet.flow.protocol = .tcp ∧ o.IsSyn)
        synAckSeen := s.synAckSeen || decide (o.packet.flow.protocol = .tcp ∧ o.IsSynAck)
        ackSeen := s.ackSeen || decide (o.packet.flow.protocol = .tcp ∧ o.HasAck)
        finSeen := s.finSeen || decide (o.packet.flow.protocol = .tcp ∧ o.HasFin)
        rstSeen := s.rstSeen || decide (o.packet.flow.protocol = .tcp ∧ o.HasRst)
        connectLatency := latency } := by
    unfold observeTcp
    split
    · rename_i h
      rcases measureConnect_eq ((s.count o.packet o.now).observeFlags o.packet.tcpFlags) o.now with
        ⟨latency, hlatency⟩
      refine ⟨latency, ?_⟩
      rw [hlatency]
      simp [observeFlags, count, h, Observation.IsSyn, Observation.IsSynAck, Observation.HasSyn,
        Observation.HasAck, Observation.HasFin, Observation.HasRst]
    · rename_i h
      refine ⟨s.connectLatency, ?_⟩
      simp [count, h]
  rcases htcp with ⟨latency, htcp⟩
  refine ⟨latency, ?_⟩
  -- then the payload, which touches the TLS and QUIC fields only
  rw [observe, htcp]
  unfold observeTransport Observation.sni Observation.clientHello Observation.longHeader
  cases o.info with
  | tlsClientHello hello =>
      cases hsni : hello.sni <;> simp [count, hsni]
  | quicLongHeader header =>
      simp [count]
  | unknown =>
      simp [count]

end FlowSignals

/-! ## What the signals say about a life -/

/-- Some packet of a TCP key satisfies `P`. -/
def Shown (key : FlowKey) (es : List Observation) (P : Observation → Prop) : Prop :=
  key.protocol = .tcp ∧ ∃ o ∈ es, P o

instance (key : FlowKey) (es : List Observation) (P : Observation → Prop) [DecidablePred P] :
    Decidable (Shown key es P) :=
  inferInstanceAs (Decidable (_ ∧ _))

theorem Shown.mono {key : FlowKey} {es more : List Observation} {P : Observation → Prop}
    (hsub : es <+: more) (h : Shown key es P) : Shown key more P := by
  rcases h with ⟨htcp, o, ho, hP⟩
  exact ⟨htcp, o, hsub.subset ho, hP⟩

theorem Shown.imp {key : FlowKey} {es : List Observation} {P Q : Observation → Prop}
    (hPQ : ∀ o, P o → Q o) (h : Shown key es P) : Shown key es Q := by
  rcases h with ⟨htcp, o, ho, hP⟩
  exact ⟨htcp, o, ho, hPQ o hP⟩

/-- The signals of a key whose packets since its last removal are `es`. -/
structure Summary (key : FlowKey) (es : List Observation) (s : FlowSignals) : Prop where
  syn : s.synSeen ↔ Shown key es Observation.IsSyn
  synAck : s.synAckSeen ↔ Shown key es Observation.IsSynAck
  ack : s.ackSeen ↔ Shown key es Observation.HasAck
  fin : s.finSeen ↔ Shown key es Observation.HasFin
  rst : s.rstSeen ↔ Shown key es Observation.HasRst
  firstSeen : s.firstSeen = es.head?.map (·.now)
  lastSeen : s.lastSeen = es.getLast?.map (·.now)
  clientHello : s.tlsClientHelloSeen ↔ ∃ o ∈ es, o.clientHello.isSome
  sni : s.tlsSni = (es.filterMap Observation.sni).getLast?
  longHeader : s.quicLongHeaderSeen ↔ ∃ o ∈ es, o.longHeader.isSome
  quicVersion : s.quicVersion = (es.filterMap Observation.longHeader).getLast?.map (·.version)
  quicPacketType :
    s.quicPacketType = (es.filterMap Observation.longHeader).getLast?.map (·.packetType)

namespace FlowSessionAnalyzer

variable {es : List Observation} {s : FlowSignals}

theorem replay_latest {α : Type} {get : FlowSignals → Option α} {f : Observation → Option α}
    (empty : get FlowSignals.default = none)
    (next : ∀ s (o : Observation), get (s.observe o.packet o.now o.info) = (f o).or (get s))
    (h : Sessions.replay update es = some s) : get s = (es.filterMap f).getLast? := by
  refine Sessions.replay_latest ?_ ?_ h
  · intro o
    simp [update, next, empty]
  · intro s o
    exact next s o

theorem replay_earliest {α : Type} {get : FlowSignals → Option α} {f : Observation → Option α}
    (empty : get FlowSignals.default = none)
    (next : ∀ s (o : Observation), get (s.observe o.packet o.now o.info) = (get s).or (f o))
    (h : Sessions.replay update es = some s) : get s = (es.filterMap f).head? := by
  refine Sessions.replay_earliest ?_ ?_ h
  · intro o
    simp [update, next, empty]
  · intro s o
    exact next s o

theorem replay_flag {get : FlowSignals → Bool} {P : Observation → Prop}
    (empty : get FlowSignals.default = false)
    (next : ∀ s (o : Observation), get (s.observe o.packet o.now o.info) ↔ get s ∨ P o)
    (h : Sessions.replay update es = some s) : get s ↔ ∃ o ∈ es, P o := by
  refine Sessions.replay_sticky ?_ ?_ h
  · intro o
    simp [update, next, empty]
  · intro s o
    exact next s o

/-- A TCP flag of the signals is the flag of some packet. -/
theorem replay_tcpFlag {key : FlowKey} {get : FlowSignals → Bool} {P : Observation → Prop}
    (hkey : ∀ o ∈ es, o.packet.flow = key) (empty : get FlowSignals.default = false)
    (next : ∀ s (o : Observation), get (s.observe o.packet o.now o.info) ↔
      get s ∨ (o.packet.flow.protocol = .tcp ∧ P o))
    (h : Sessions.replay update es = some s) : get s ↔ Shown key es P := by
  rw [replay_flag empty next h]
  -- every packet of the life has the protocol of the key
  constructor
  · rintro ⟨o, ho, htcp, hP⟩
    rw [hkey o ho] at htcp
    exact ⟨htcp, o, ho, hP⟩
  · rintro ⟨htcp, o, ho, hP⟩
    exact ⟨o, ho, by rw [hkey o ho]; exact htcp, hP⟩

theorem replay_lastSeen (h : Sessions.replay update es = some s) :
    s.lastSeen = es.getLast?.map (·.now) := by
  have hlatest : s.lastSeen = (es.filterMap fun o => some o.now).getLast? := by
    refine replay_latest rfl (fun s o => ?_) h
    rcases s.observe_eq o with ⟨_, hobs⟩
    simp [hobs]
  simpa [List.filterMap_eq_map'] using hlatest

theorem replay_firstSeen (h : Sessions.replay update es = some s) :
    s.firstSeen = es.head?.map (·.now) := by
  have hearliest : s.firstSeen = (es.filterMap fun o => some o.now).head? := by
    refine replay_earliest rfl (fun s o => ?_) h
    rcases s.observe_eq o with ⟨_, hobs⟩
    cases hfirst : s.firstSeen <;> simp [hobs, hfirst]
  simpa [List.filterMap_eq_map'] using hearliest

/-- A field of the last accepted long header. -/
theorem replay_headerField {α : Type} {get : FlowSignals → Option α} {g : QuicHeaderInfo → α}
    (empty : get FlowSignals.default = none)
    (next : ∀ s (o : Observation),
      get (s.observe o.packet o.now o.info) = (o.longHeader.map g).or (get s))
    (h : Sessions.replay update es = some s) :
    get s = (es.filterMap Observation.longHeader).getLast?.map g := by
  rw [replay_latest empty next h, ← List.getLast?_map, List.map_filterMap]

theorem replay_summary {key : FlowKey} (hkey : ∀ o ∈ es, o.packet.flow = key)
    (h : Sessions.replay update es = some s) : Summary key es s where
  syn := by
    refine replay_tcpFlag hkey rfl (fun s o => ?_) h
    rcases s.observe_eq o with ⟨_, hobs⟩
    simp [hobs]
  synAck := by
    refine replay_tcpFlag hkey rfl (fun s o => ?_) h
    rcases s.observe_eq o with ⟨_, hobs⟩
    simp [hobs]
  ack := by
    refine replay_tcpFlag hkey rfl (fun s o => ?_) h
    rcases s.observe_eq o with ⟨_, hobs⟩
    simp [hobs]
  fin := by
    refine replay_tcpFlag hkey rfl (fun s o => ?_) h
    rcases s.observe_eq o with ⟨_, hobs⟩
    simp [hobs]
  rst := by
    refine replay_tcpFlag hkey rfl (fun s o => ?_) h
    rcases s.observe_eq o with ⟨_, hobs⟩
    simp [hobs]
  firstSeen := replay_firstSeen h
  lastSeen := replay_lastSeen h
  clientHello := by
    refine replay_flag rfl (fun s o => ?_) h
    rcases s.observe_eq o with ⟨_, hobs⟩
    simp [hobs]
  sni := by
    refine replay_latest rfl (fun s o => ?_) h
    rcases s.observe_eq o with ⟨_, hobs⟩
    simp [hobs]
  longHeader := by
    refine replay_flag rfl (fun s o => ?_) h
    rcases s.observe_eq o with ⟨_, hobs⟩
    simp [hobs]
  quicVersion := by
    refine replay_headerField rfl (fun s o => ?_) h
    rcases s.observe_eq o with ⟨_, hobs⟩
    simp [hobs]
  quicPacketType := by
    refine replay_headerField rfl (fun s o => ?_) h
    rcases s.observe_eq o with ⟨_, hobs⟩
    simp [hobs]

/-- `expire` decides on the last packet of a life. -/
theorem retains_agrees : Sessions.Agrees update retains stays := by
  rintro ⟨now, idle⟩ es s h
  -- the entry remembers the time of the last packet, which is all that `stays` asks for
  simp only [retains, stays, replay_lastSeen h, Option.map_map]
  cases es.getLast? with
  | none =>
      rfl
  | some o =>
      have hcomm : o.now + idle = idle + o.now := Nat.add_comm _ _
      simp [Instant.durationSince, hcomm]

theorem flow_packetsSince (key : FlowKey) (ops : List FlowOp) :
    ∀ o ∈ packetsSince key ops, o.packet.flow = key := by
  refine Sessions.forall_mem_life stays key fun o ho => ?_
  rcases List.mem_map.1 ho with ⟨op, _, hop⟩
  cases op with
  | observe o' =>
      simp only [FlowOp.toSession, Sessions.Op.touch.injEq] at hop
      rw [← hop.2]
      exact hop.1
  | expire now idle =>
      cases hop

/-- The table after a run holds, for each key, the fold of its life. -/
theorem lookup_run {ops : List FlowOp} {a : FlowSessionAnalyzer} (h : new.run ops = ok a)
    (key : FlowKey) : a.flows.lookup key = Sessions.replay update (packetsSince key ops) := by
  rw [flows_of_run h]
  exact Sessions.lookup_run retains_agrees (ops.map FlowOp.toSession) key

end FlowSessionAnalyzer

/-! ## Lifecycle and diagnosis -/

/-- The lifecycle of a key by the packets it has shown. -/
def lifecycleOf (key : FlowKey) (es : List Observation) : TcpLifecycle :=
  if Shown key es Observation.HasRst then .reset
  else if Shown key es Observation.HasFin then .finSeen
  else if Shown key es Observation.IsSyn ∧ Shown key es Observation.IsSynAck then .established
  else if Shown key es Observation.IsSyn then .synSent
  else .new

/-- The diagnosis of a key by the packets it has shown and its silence since the last of them. -/
def diagnosisOf (key : FlowKey) (es : List Observation) (now : Instant) (timeout : Duration) :
    FlowDiagnosis :=
  if Shown key es Observation.HasRst then .tcpReset
  else if lifecycleOf key es = .synSent then
    if es.getLast?.any fun o => decide (timeout ≤ now.durationSince o.now) then
      .idleTimeoutSuspected
    else .tcpHandshakeIncomplete
  else if ∃ o ∈ es, o.clientHello.isSome then .tlsClientHelloObserved
  else if ∃ o ∈ es, o.longHeader.isSome then .quicLongHeaderObserved
  else if lifecycleOf key es = .established then .healthyTransport
  else .unknown

/-- The order in which a flow goes through the stages. -/
def TcpLifecycle.rank : TcpLifecycle → Nat
  | .new => 0
  | .synSent => 1
  | .established => 2
  | .finSeen => 3
  | .reset => 4

namespace Summary

variable {key : FlowKey} {es : List Observation} {s : FlowSignals}

theorem lifecycle_eq (h : Summary key es s) : s.lifecycle = lifecycleOf key es := by
  -- a SYN-ACK carries the ACK that the established state asks for
  have hack : s.synAckSeen = true → s.ackSeen = true := by
    intro hsynAck
    exact h.ack.2 ((h.synAck.1 hsynAck).imp fun _ => And.right)
  have hboth : (s.synSeen = true ∧ s.synAckSeen = true) ∧ s.ackSeen = true ↔
      s.synSeen = true ∧ s.synAckSeen = true :=
    ⟨And.left, fun h => ⟨h, hack h.2⟩⟩
  unfold FlowSignals.lifecycle lifecycleOf
  simp only [← h.rst, ← h.fin, ← h.syn, ← h.synAck, Bool.and_eq_true, hboth]

theorem diagnosis_eq (h : Summary key es s) (now : Instant) (timeout : Duration) :
    s.diagnosis s.lifecycle now timeout = diagnosisOf key es now timeout := by
  unfold FlowSignals.diagnosis diagnosisOf FlowSignals.idleDiagnosis
  simp only [← h.rst, ← h.clientHello, ← h.longHeader, h.lifecycle_eq, h.lastSeen]
  cases es.getLast? <;> simp

end Summary

/-- More packets never move a flow back. -/
theorem rank_lifecycleOf_mono {key : FlowKey} {es more : List Observation} (h : es <+: more) :
    (lifecycleOf key es).rank ≤ (lifecycleOf key more).rank := by
  have hrst : Shown key es Observation.HasRst → Shown key more Observation.HasRst := Shown.mono h
  have hfin : Shown key es Observation.HasFin → Shown key more Observation.HasFin := Shown.mono h
  have hsyn : Shown key es Observation.IsSyn → Shown key more Observation.IsSyn := Shown.mono h
  have hsynAck : Shown key es Observation.IsSynAck → Shown key more Observation.IsSynAck :=
    Shown.mono h
  -- each flag, once shown, stays shown: no branch of `more` comes before that of `es`
  unfold lifecycleOf
  split_ifs <;> simp_all [TcpLifecycle.rank]

/-! ## Snapshots of a run -/

/-- What a snapshot shows of a key whose packets since its last removal are `es`. -/
structure Reports (key : FlowKey) (es : List Observation) (now : Instant) (timeout : Duration)
    (snap : FlowSnapshot) : Prop where
  key_eq : snap.key = key
  signals : Summary key es snap.signals
  tlsOnTcp :
    snap.signals.tlsClientHelloSeen ∨ snap.signals.tlsSni.isSome → key.protocol = .tcp
  quicOnUdp :
    snap.signals.quicLongHeaderSeen ∨ snap.signals.quicVersion.isSome ∨
      snap.signals.quicPacketType.isSome → key.protocol = .udp
  lifecycle : snap.lifecycle = lifecycleOf key es
  diagnosis : snap.diagnosis = diagnosisOf key es now timeout

namespace Summary

variable {key : FlowKey} {es : List Observation} {s : FlowSignals}

theorem tls_on_tcp (h : Summary key es s) (hkey : ∀ o ∈ es, o.packet.flow = key) :
    s.tlsClientHelloSeen ∨ s.tlsSni.isSome → key.protocol = .tcp := by
  have hsome : ∀ o ∈ es, o.clientHello.isSome → key.protocol = .tcp := by
    intro o ho hhello
    rcases Option.isSome_iff_exists.1 hhello with ⟨hello, hhello⟩
    rw [← hkey o ho]
    exact Observation.protocol_of_clientHello hhello
  -- a server name is only kept together with the ClientHello it came from
  rintro (hseen | hsni)
  · rcases h.clientHello.1 hseen with ⟨o, ho, hhello⟩
    exact hsome o ho hhello
  · rw [h.sni] at hsni
    rcases Option.isSome_iff_exists.1 hsni with ⟨name, hname⟩
    rcases List.mem_filterMap.1 (List.mem_of_getLast? hname) with ⟨o, ho, hsni⟩
    refine hsome o ho ?_
    unfold Observation.sni at hsni
    rcases Option.bind_eq_some_iff.1 hsni with ⟨hello, hhello, _⟩
    simp [hhello]

theorem quic_on_udp (h : Summary key es s) (hkey : ∀ o ∈ es, o.packet.flow = key) :
    s.quicLongHeaderSeen ∨ s.quicVersion.isSome ∨ s.quicPacketType.isSome →
      key.protocol = .udp := by
  have hsome : ∀ o ∈ es, o.longHeader.isSome → key.protocol = .udp := by
    intro o ho hheader
    rcases Option.isSome_iff_exists.1 hheader with ⟨header, hheader⟩
    rw [← hkey o ho]
    exact Observation.protocol_of_longHeader hheader
  have hlast : (es.filterMap Observation.longHeader).getLast?.isSome → key.protocol = .udp := by
    intro hheaders
    rcases Option.isSome_iff_exists.1 hheaders with ⟨header, hheader⟩
    rcases List.mem_filterMap.1 (List.mem_of_getLast? hheader) with ⟨o, ho, hheader⟩
    exact hsome o ho (by simp [hheader])
  rintro (hseen | hversion | htype)
  · rcases h.longHeader.1 hseen with ⟨o, ho, hheader⟩
    exact hsome o ho hheader
  · rw [h.quicVersion, Option.isSome_map] at hversion
    exact hlast hversion
  · rw [h.quicPacketType, Option.isSome_map] at htype
    exact hlast htype

end Summary

namespace FlowSessionAnalyzer

theorem snapshot_isSome_iff {ops : List FlowOp} {a : FlowSessionAnalyzer}
    (h : new.run ops = ok a) (key : FlowKey) (now : Instant) (timeout : Duration) :
    (a.snapshot key now timeout).isSome ↔ packetsSince key ops ≠ [] := by
  rw [snapshot, Option.isSome_map, lookup_run h, Sessions.replay_isSome]

theorem snapshot_reports {ops : List FlowOp} {a : FlowSessionAnalyzer} (h : new.run ops = ok a)
    {key : FlowKey} {now : Instant} {timeout : Duration} {snap : FlowSnapshot}
    (hsnap : a.snapshot key now timeout = some snap) :
    Reports key (packetsSince key ops) now timeout snap := by
  rw [snapshot, lookup_run h] at hsnap
  rcases Option.map_eq_some_iff.1 hsnap with ⟨s, hs, rfl⟩
  have hkey := flow_packetsSince key ops
  have hsummary : Summary key (packetsSince key ops) s := replay_summary hkey hs
  exact
    { key_eq := rfl
      signals := hsummary
      tlsOnTcp := hsummary.tls_on_tcp hkey
      quicOnUdp := hsummary.quic_on_udp hkey
      lifecycle := hsummary.lifecycle_eq
      diagnosis := hsummary.diagnosis_eq now timeout }

/-- While a key stays in the table, the packets since its last removal grow at the end. -/
theorem packetsSince_prefix_append {key : FlowKey} {ops more : List FlowOp}
    (hkept : ∀ pre, pre <+: more → packetsSince key (ops ++ pre) ≠ []) :
    packetsSince key ops <+: packetsSince key (ops ++ more) := by
  unfold packetsSince
  rw [List.map_append]
  refine Sessions.life_prefix stays key fun pre hpre => ?_
  rcases List.prefix_map_iff.1 hpre with ⟨pre', hpre', rfl⟩
  rw [← List.map_append]
  exact hkept pre' hpre'

/-- While a key stays in the table, its lifecycle moves forward only. -/
theorem rank_snapshot_mono {ops more : List FlowOp} {a b : FlowSessionAnalyzer}
    (ha : new.run ops = ok a) (hb : a.run more = ok b) {key : FlowKey}
    (hkept : ∀ pre, pre <+: more → packetsSince key (ops ++ pre) ≠ [])
    {now now' : Instant} {timeout timeout' : Duration} {snap snap' : FlowSnapshot}
    (hsnap : a.snapshot key now timeout = some snap)
    (hsnap' : b.snapshot key now' timeout' = some snap') :
    snap.lifecycle.rank ≤ snap'.lifecycle.rank := by
  calc
    snap.lifecycle.rank = (lifecycleOf key (packetsSince key ops)).rank := by
      rw [(snapshot_reports ha hsnap).lifecycle]
    _ ≤ (lifecycleOf key (packetsSince key (ops ++ more))).rank :=
          rank_lifecycleOf_mono (packetsSince_prefix_append hkept)
    _ = snap'.lifecycle.rank := by
          rw [(snapshot_reports (run_append ha hb) hsnap').lifecycle]

/-- A snapshot exists exactly for the keys observed since their last removal, it reports exactly
what their packets showed since then, the lifecycle does not move back while the key is kept, and
`expire` removes exactly the keys whose last packet is too old. -/
theorem snapshot_faithful {ops : List FlowOp} {a : FlowSessionAnalyzer} (h : new.run ops = ok a)
    (key : FlowKey) (now : Instant) (timeout : Duration) :
    ((a.snapshot key now timeout).isSome ↔ packetsSince key ops ≠ []) ∧
    (∀ snap, a.snapshot key now timeout = some snap →
      Reports key (packetsSince key ops) now timeout snap) ∧
    (∀ more b, a.run more = ok b → (∀ pre, pre <+: more → packetsSince key (ops ++ pre) ≠ []) →
      ∀ now' timeout' snap snap', a.snapshot key now timeout = some snap →
        b.snapshot key now' timeout' = some snap' →
          snap.lifecycle.rank ≤ snap'.lifecycle.rank) ∧
    ∀ expiry idle, ((a.expire expiry idle).2.snapshot key now timeout).isSome ↔
      ∃ last, (packetsSince key ops).getLast? = some last ∧ expiry ≤ last.now + idle := by
  refine ⟨snapshot_isSome_iff h key now timeout, fun snap => snapshot_reports h, ?_, ?_⟩
  · intro more b hb hkept now' timeout' snap snap' hsnap hsnap'
    exact rank_snapshot_mono h hb hkept hsnap hsnap'
  · -- an expiry is one more step of the run, so the first part says what is left
    intro expiry idle
    have hrun : new.run (ops ++ [.expire expiry idle]) = ok (a.expire expiry idle).2 :=
      run_append h rfl
    rw [snapshot_isSome_iff hrun, packetsSince_expire, stays]
    cases hlast : (packetsSince key ops).getLast? with
    | none =>
        simp
    | some last =>
        have hne : packetsSince key ops ≠ [] := by
          rintro hnil
          simp [hnil] at hlast
        simp [hne]

/-- A flow that expires and opens again: SYN, expiry, SYN, SYN-ACK. -/
def reopenedKey : FlowKey :=
  { protocol := .tcp
    remoteIp := zeroPadded [1, 1, 1, 1]
    remotePort := 443
    localPort := 50000 }

def reopened : List FlowOp :=
  let packet (flags : UInt8) (now : Instant) : FlowOp :=
    .observe
      { packet :=
          { flow := reopenedKey
            direction := .outbound
            payloadLen := 0
            tcpFlags := flags }
        payload := []
        now := now }
  [packet 0x02 0, .expire 20 10, packet 0x02 30, packet 0x12 31]

theorem snapshot_faithful_reopened :
    ∃ a, new.run reopened = ok a ∧ ∀ snap, a.snapshot reopenedKey 40 5 = some snap →
      Reports reopenedKey (packetsSince reopenedKey reopened) 40 5 snap :=
  ⟨_, rfl, (snapshot_faithful rfl reopenedKey 40 5).2.1⟩

end FlowSessionAnalyzer

end Core
end FlyDpi
