import FlyDpi.Core.Handshake

/-!
# ConnectLatency — what the connect latency measures

The latency is taken at the packet that completes SYN and SYN-ACK, and kept from then on.  It is
measured from the first packet of the flow, which need not be the SYN.
-/

namespace FlyDpi
namespace Core

open Lib Lib.Outcome

/-! ## One observation -/

/-- The latency is taken by the packet that completes the pair, if it was not taken before. -/
theorem FlowSignals.connectLatency_observe (s : FlowSignals) (o : Observation) :
    (s.observe o.packet o.now o.info).connectLatency =
      if s.connectLatency = none ∧ o.packet.flow.protocol = .tcp ∧ (s.synSeen = true ∨ o.IsSyn) ∧
          (s.synAckSeen = true ∨ o.IsSynAck) then
        o.now.checkedDurationSince (s.firstSeen.getD o.now)
      else s.connectLatency := by
  -- the payload does not touch the latency
  have htransport : ∀ (s : FlowSignals) (info : TransportInfo),
      (s.observeTransport info).connectLatency = s.connectLatency := by
    intro s info
    cases info <;> rfl
  rw [observe, htransport, observeTcp]
  by_cases htcp : o.packet.flow.protocol = .tcp
  · rw [if_pos htcp, measureConnect]
    simp only [observeFlags, count, htcp, true_and, Option.isNone_iff_eq_none, Bool.or_eq_true,
      Bool.and_eq_true, Bool.not_eq_true', decide_eq_true_eq, decide_eq_false_iff_not,
      Observation.IsSyn, Observation.IsSynAck, Observation.HasSyn, Observation.HasAck]
    split_ifs <;> rfl
  · rw [if_neg htcp, if_neg fun h => htcp h.2.1]
    rfl

namespace FlowSessionAnalyzer

theorem connectLatency_update (s : FlowSignals) (o : Observation)
    (h : s.connectLatency.isSome) : (update (some s) o).connectLatency = s.connectLatency := by
  change (s.observe o.packet o.now o.info).connectLatency = _
  rw [FlowSignals.connectLatency_observe, if_neg]
  intro hnone
  rw [hnone.1] at h
  cases h

/-! ## The life of a key -/

variable {es : List Observation} {s : FlowSignals}

/-- Without a SYN-ACK nothing is measured. -/
theorem replay_unmeasured (h : Sessions.replay update es = some s)
    (hno : ∀ o ∈ es, ¬ o.IsSynAck) : s.synAckSeen = false ∧ s.connectLatency = none := by
  have hstep : ∀ (s : FlowSignals) (o : Observation), ¬ o.IsSynAck → s.synAckSeen = false →
      s.connectLatency = none →
        (s.observe o.packet o.now o.info).synAckSeen = false ∧
          (s.observe o.packet o.now o.info).connectLatency = none := by
    intro s o hnot hseen hnone
    refine ⟨?_, ?_⟩
    · rcases s.observe_eq o with ⟨_, hobs⟩
      simp [hobs, hseen, hnot]
    · rw [FlowSignals.connectLatency_observe, if_neg]
      · exact hnone
      · rintro ⟨_, _, _, hsynAck⟩
        simp [hseen, hnot] at hsynAck
  refine Sessions.replay_induction update
    (P := fun es s => (∀ o ∈ es, ¬ o.IsSynAck) → s.synAckSeen = false ∧ s.connectLatency = none)
    ?_ ?_ h hno
  · intro o hno
    exact hstep FlowSignals.default o (hno o (List.mem_singleton_self o)) rfl rfl
  · intro es o s _ ih hno
    rcases ih fun o' ho' => hno o' (List.mem_append_left _ ho') with ⟨hseen, hnone⟩
    exact hstep s o (hno o (List.mem_append_right _ (List.mem_singleton_self o))) hseen hnone

/-- The packets of a life around the first SYN and, behind it, the first SYN-ACK. -/
structure Pair (es before between after : List Observation) (syn synAck : Observation) : Prop where
  split : es = before ++ syn :: (between ++ synAck :: after)
  isSyn : syn.IsSyn
  isSynAck : synAck.IsSynAck
  noSyn : ∀ o ∈ before, ¬ o.IsSyn
  noSynAck : ∀ o ∈ before ++ syn :: between, ¬ o.IsSynAck

/-- The time at which the flow was first seen. -/
def firstSeen (before : List Observation) (syn : Observation) : Instant :=
  (before.head?.map (·.now)).getD syn.now

variable {key : FlowKey} {before between after : List Observation} {syn synAck : Observation}

/-- From the SYN-ACK on, the latency is the time since the first packet of the flow. -/
theorem Pair.replay_measured (h : Pair es before between after syn synAck)
    (hkey : ∀ o ∈ es, o.packet.flow = key) (htcp : key.protocol = .tcp)
    (hle : firstSeen before syn ≤ synAck.now) :
    ∃ s, Sessions.replay update es = some s ∧
      s.connectLatency = some (synAck.now - firstSeen before syn) := by
  have hsplit : es = (before ++ syn :: between) ++ [synAck] ++ after := by
    rw [h.split]
    simp
  -- the state before the SYN-ACK
  have hsome : (Sessions.replay update (before ++ syn :: between)).isSome := by
    rw [Sessions.replay_isSome]
    simp
  rcases Option.isSome_iff_exists.1 hsome with ⟨s, hs⟩
  have hmem : ∀ o ∈ before ++ syn :: between, o.packet.flow = key := by
    intro o ho
    refine hkey o ?_
    rw [hsplit]
    exact List.mem_append_left _ (List.mem_append_left _ ho)
  have hsummary := replay_summary hmem hs
  have hsyn : s.synSeen = true :=
    hsummary.syn.2 ⟨htcp, syn, List.mem_append_right _ List.mem_cons_self, h.isSyn⟩
  have hfirst : s.firstSeen = some (firstSeen before syn) := by
    rw [hsummary.firstSeen, firstSeen]
    cases before <;> rfl
  have hsynAckKey : synAck.packet.flow.protocol = .tcp := by
    rw [hkey synAck (by rw [hsplit]; simp)]
    exact htcp
  -- the SYN-ACK measures
  have hmeasured : (update (some s) synAck).connectLatency =
      some (synAck.now - firstSeen before syn) := by
    change (s.observe synAck.packet synAck.now synAck.info).connectLatency = _
    rw [FlowSignals.connectLatency_observe, if_pos
      ⟨(replay_unmeasured hs h.noSynAck).2, hsynAckKey, Or.inl hsyn, Or.inr h.isSynAck⟩, hfirst]
    exact if_pos hle
  have hreplay : Sessions.replay update ((before ++ syn :: between) ++ [synAck]) =
      some (update (some s) synAck) := by
    rw [Sessions.replay_concat, hs]
  have hset : (update (some s) synAck).connectLatency.isSome := by
    rw [hmeasured]
    rfl
  rcases @Sessions.replay_kept _ _ update _ _ _ FlowSignals.connectLatency connectLatency_update
    hreplay hset after with ⟨s', hs', hkept⟩
  rw [hsplit]
  exact ⟨s', hs', hkept.trans hmeasured⟩

/-! ## Runs -/

/-- The key has an entry all along these calls. -/
def Kept (key : FlowKey) (ops more : List FlowOp) : Prop :=
  ∀ pre, pre <+: more → packetsSince key (ops ++ pre) ≠ []

/-- From now on, while the key is kept, every snapshot shows the latency `d`. -/
def ShowsLatency (a : FlowSessionAnalyzer) (key : FlowKey) (ops : List FlowOp) (d : Duration) :
    Prop :=
  ∀ more b, a.run more = ok b → Kept key ops more → ∀ now timeout,
    ∃ snap, b.snapshot key now timeout = some snap ∧ snap.signals.connectLatency = some d

theorem firstSeen_le (h : Pair es before between after syn synAck)
    (hmono : es.Pairwise fun o o' => o.now ≤ o'.now) : firstSeen before syn ≤ syn.now := by
  rw [h.split] at hmono
  cases before with
  | nil =>
      exact Nat.le_refl _
  | cons first before =>
      exact List.rel_of_pairwise_cons hmono (List.mem_append_right _ List.mem_cons_self)

theorem syn_le_synAck (h : Pair es before between after syn synAck)
    (hmono : es.Pairwise fun o o' => o.now ≤ o'.now) : syn.now ≤ synAck.now := by
  rw [h.split] at hmono
  have htail := (List.pairwise_append.1 hmono).2.1
  exact List.rel_of_pairwise_cons htail (List.mem_append_right _ List.mem_cons_self)

variable {ops : List FlowOp} {a : FlowSessionAnalyzer}

/-- The latency that is shown, whatever the packets before the SYN were. -/
theorem showsLatency_firstSeen (hrun : new.run ops = ok a) (htcp : key.protocol = .tcp)
    (h : Pair (packetsSince key ops) before between after syn synAck)
    (hmono : (packetsSince key ops).Pairwise fun o o' => o.now ≤ o'.now) :
    ShowsLatency a key ops (synAck.now - firstSeen before syn) := by
  intro more b hb hkept now timeout
  rcases packetsSince_prefix_append hkept with ⟨later, hlater⟩
  -- more packets only follow those behind the SYN-ACK
  have hpair : Pair (packetsSince key (ops ++ more)) before between (after ++ later) syn synAck :=
    { h with
      split := by
        rw [← hlater, h.split]
        simp }
  have hle := Nat.le_trans (firstSeen_le h hmono) (syn_le_synAck h hmono)
  rcases hpair.replay_measured (flow_packetsSince key _) htcp hle with ⟨s, hs, hlatency⟩
  rw [← lookup_run (run_append hrun hb) key] at hs
  refine ⟨
    { key := key
      lifecycle := s.lifecycle
      signals := s
      diagnosis := s.diagnosis s.lifecycle now timeout },
    ?_, hlatency⟩
  rw [snapshot, hs]
  rfl

theorem showsLatency_unique {d d' : Duration} (hne : packetsSince key ops ≠ [])
    (h : ShowsLatency a key ops d) (h' : ShowsLatency a key ops d') : d = d' := by
  have hkept : Kept key ops [] := by
    intro pre hpre
    rw [List.prefix_nil.1 hpre, List.append_nil]
    exact hne
  rcases h [] a rfl hkept 0 0 with ⟨snap, hsnap, hlatency⟩
  rcases h' [] a rfl hkept 0 0 with ⟨snap', hsnap', hlatency'⟩
  rw [hsnap, Option.some.injEq] at hsnap'
  subst hsnap'
  rw [hlatency, Option.some.injEq] at hlatency'
  exact hlatency'

/-- The latency of a TCP key whose first SYN precedes its first SYN-ACK is the time between the two,
now and while the key is kept, exactly when the flow was first seen at the time of the SYN. -/
theorem connectLatency_measures_handshake_iff (hrun : new.run ops = ok a)
    (htcp : key.protocol = .tcp)
    (h : Pair (packetsSince key ops) before between after syn synAck)
    (hmono : (packetsSince key ops).Pairwise fun o o' => o.now ≤ o'.now) :
    ShowsLatency a key ops (synAck.now - syn.now) ↔
      ∀ first ∈ before.head?, first.now = syn.now := by
  have hfirst := firstSeen_le h hmono
  have hsynAck := syn_le_synAck h hmono
  have hshows := showsLatency_firstSeen hrun htcp h hmono
  have hne : packetsSince key ops ≠ [] := by
    rw [h.split]
    simp
  have hiff : (∀ first ∈ before.head?, first.now = syn.now) ↔ firstSeen before syn = syn.now := by
    cases before with
    | nil =>
        simp [firstSeen]
    | cons first before =>
        simp [firstSeen]
  rw [hiff]
  constructor
  · intro hmeasures
    have heq := showsLatency_unique hne hmeasures hshows
    exact ((tsub_right_inj hsynAck (Nat.le_trans hfirst hsynAck)).1 heq).symm
  · intro heq
    rw [← heq]
    exact hshows

/-- A handshake on a key that was not seen before. -/
theorem connectLatency_fullHandshake :
    ∃ a, new.run (fullHandshake.map .observe) = ok a ∧
      (ShowsLatency a reopenedKey (fullHandshake.map .observe) 1 ↔
        ∀ first ∈ ([] : List Observation).head?, first.now = 0) := by
  have hpair : Pair (packetsSince reopenedKey (fullHandshake.map .observe)) [] []
      [packetWith reopenedKey 0x10 2] (packetWith reopenedKey 0x02 0)
      (packetWith reopenedKey 0x12 1) :=
    { split := rfl
      isSyn := by decide
      isSynAck := by decide
      noSyn := by decide
      noSynAck := by decide }
  exact ⟨_, rfl, connectLatency_measures_handshake_iff rfl rfl hpair (by decide)⟩

/-- A late packet of an earlier connection on the same ports, then a handshake of one tick. -/
def handshakeOnUsedPorts : List Observation :=
  [packetWith reopenedKey 0x10 0, packetWith reopenedKey 0x02 10, packetWith reopenedKey 0x12 11]

theorem handshakeOnUsedPorts_latency :
    ¬ ∀ (obs : List Observation) (key : FlowKey) (a : FlowSessionAnalyzer)
        (before between after : List Observation) (syn synAck : Observation),
      new.run (obs.map .observe) = ok a → key.protocol = .tcp →
        Pair (packetsSince key (obs.map .observe)) before between after syn synAck →
          (packetsSince key (obs.map .observe)).Pairwise (fun o o' => o.now ≤ o'.now) →
            ShowsLatency a key (obs.map .observe) (synAck.now - syn.now) := by
  intro hall
  have hpair : Pair (packetsSince reopenedKey (handshakeOnUsedPorts.map .observe))
      [packetWith reopenedKey 0x10 0] [] [] (packetWith reopenedKey 0x02 10)
      (packetWith reopenedKey 0x12 11) :=
    { split := rfl
      isSyn := by decide
      isSynAck := by decide
      noSyn := by decide
      noSynAck := by decide }
  have hmono : (packetsSince reopenedKey (handshakeOnUsedPorts.map .observe)).Pairwise
      fun o o' => o.now ≤ o'.now := by
    decide
  have hmeasures := hall handshakeOnUsedPorts reopenedKey _ _ _ _ _ _ rfl rfl hpair hmono
  have hshows := showsLatency_firstSeen (a := _) rfl rfl hpair hmono
  have hne : packetsSince reopenedKey (handshakeOnUsedPorts.map .observe) ≠ [] := by
    decide
  exact absurd (showsLatency_unique hne hmeasures hshows) (by decide)

end FlowSessionAnalyzer

end Core
end FlyDpi
