import FlyDpi.Core.FlowHistory

/-!
# Handshake — what an established flow has shown

`lifecycle` asks for three flags, `syn_seen`, `syn_ack_seen` and `ack_seen`, but the packet that sets
the second one carries an ACK and sets the third one too.  An established flow has shown a SYN and a
SYN-ACK; the ACK that completes the handshake may be missing.
-/

namespace FlyDpi
namespace Core

open Lib Lib.Outcome

namespace Observation

/-- ACK without SYN, the last step of a handshake. -/
def IsBareAck (o : Observation) : Prop := o.HasAck ∧ ¬ o.HasSyn

instance : DecidablePred IsBareAck := fun _ => inferInstanceAs (Decidable (_ ∧ _))

end Observation

/-- All three steps of a handshake are among the packets. -/
structure HandshakeShown (es : List Observation) : Prop where
  syn : ∃ o ∈ es, o.IsSyn
  synAck : ∃ o ∈ es, o.IsSynAck
  ack : ∃ o ∈ es, o.IsBareAck

/-- The packets show the first two steps and not the third, and nothing closes the flow. -/
structure StopsAtSynAck (es : List Observation) : Prop where
  syn : ∃ o ∈ es, o.IsSyn
  synAck : ∃ o ∈ es, o.IsSynAck
  noAck : ∀ o ∈ es, ¬ o.IsBareAck
  noFin : ∀ o ∈ es, ¬ o.HasFin
  noRst : ∀ o ∈ es, ¬ o.HasRst

section Established

variable {key : FlowKey} {es : List Observation}

theorem shown_iff (htcp : key.protocol = .tcp) {P : Observation → Prop} :
    Shown key es P ↔ ∃ o ∈ es, P o := by
  constructor
  · intro h
    exact h.2
  · intro h
    exact ⟨htcp, h⟩

/-- A flow is established when SYN and SYN-ACK were seen and neither FIN nor RST was. -/
theorem lifecycleOf_established_iff (htcp : key.protocol = .tcp) :
    lifecycleOf key es = .established ↔
      (∃ o ∈ es, o.IsSyn) ∧ (∃ o ∈ es, o.IsSynAck) ∧ (∀ o ∈ es, ¬ o.HasFin) ∧
        ∀ o ∈ es, ¬ o.HasRst := by
  unfold lifecycleOf
  simp only [shown_iff htcp]
  split_ifs with hrst hfin hboth hsyn
  · have : ¬ ∀ o ∈ es, ¬ o.HasRst := by
      rcases hrst with ⟨o, ho, hrst⟩
      intro hno
      exact hno o ho hrst
    simp [this]
  · have : ¬ ∀ o ∈ es, ¬ o.HasFin := by
      rcases hfin with ⟨o, ho, hfin⟩
      intro hno
      exact hno o ho hfin
    simp [this]
  · simp only [not_exists, not_and] at hrst hfin
    exact ⟨fun _ => ⟨hboth.1, hboth.2, hfin, hrst⟩, fun _ => rfl⟩
  · simp only [false_iff]
    rintro ⟨hsyn, hsynAck, _⟩
    exact hboth ⟨hsyn, hsynAck⟩
  · simp only [false_iff]
    rintro ⟨hsyn', _⟩
    exact hsyn hsyn'

/-- A healthy diagnosis is only given to an established flow. -/
theorem established_of_healthy {now : Instant} {timeout : Duration}
    (h : diagnosisOf key es now timeout = .healthyTransport) :
    lifecycleOf key es = .established := by
  unfold diagnosisOf at h
  split_ifs at h
  assumption

theorem handshakeShown_or_stopsAtSynAck (htcp : key.protocol = .tcp)
    (h : lifecycleOf key es = .established) : HandshakeShown es ∨ StopsAtSynAck es := by
  rcases (lifecycleOf_established_iff htcp).1 h with ⟨hsyn, hsynAck, hfin, hrst⟩
  by_cases hack : ∃ o ∈ es, o.IsBareAck
  · left
    exact ⟨hsyn, hsynAck, hack⟩
  · right
    refine ⟨hsyn, hsynAck, ?_, hfin, hrst⟩
    intro o ho hbare
    exact hack ⟨o, ho, hbare⟩

theorem StopsAtSynAck.established (htcp : key.protocol = .tcp) (h : StopsAtSynAck es) :
    lifecycleOf key es = .established :=
  (lifecycleOf_established_iff htcp).2 ⟨h.syn, h.synAck, h.noFin, h.noRst⟩

theorem StopsAtSynAck.not_handshakeShown (h : StopsAtSynAck es) : ¬ HandshakeShown es := by
  intro hshown
  rcases hshown.ack with ⟨o, ho, hack⟩
  exact h.noAck o ho hack

theorem StopsAtSynAck.ne_nil (h : StopsAtSynAck es) : es ≠ [] := by
  rcases h.syn with ⟨o, ho, _⟩
  exact List.ne_nil_of_mem ho

end Established

namespace FlowSessionAnalyzer

/-- After any run, what a snapshot of a TCP key calls established or healthy has shown all three
steps of a handshake, unless the packets of the key stop at the SYN-ACK. -/
theorem handshakeShown_iff {ops : List FlowOp} {a : FlowSessionAnalyzer} (h : new.run ops = ok a)
    {key : FlowKey} (htcp : key.protocol = .tcp) :
    (∀ now timeout snap, a.snapshot key now timeout = some snap →
      snap.lifecycle = .established ∨ snap.diagnosis = .healthyTransport →
        HandshakeShown (packetsSince key ops)) ↔
      ¬ StopsAtSynAck (packetsSince key ops) := by
  constructor
  · intro hcomplete hstops
    -- such a key is in the table, and its snapshot says established at any time
    have hsome : (a.snapshot key 0 0).isSome :=
      (snapshot_isSome_iff h key 0 0).2 hstops.ne_nil
    rcases Option.isSome_iff_exists.1 hsome with ⟨snap, hsnap⟩
    have hestablished : snap.lifecycle = .established := by
      rw [(snapshot_reports h hsnap).lifecycle]
      exact hstops.established htcp
    exact hstops.not_handshakeShown (hcomplete 0 0 snap hsnap (Or.inl hestablished))
  · intro hgoes now timeout snap hsnap hsays
    have hreports := snapshot_reports h hsnap
    have hestablished : lifecycleOf key (packetsSince key ops) = .established := by
      rcases hsays with hlifecycle | hdiagnosis
      · rw [← hreports.lifecycle]
        exact hlifecycle
      · rw [hreports.diagnosis] at hdiagnosis
        exact established_of_healthy hdiagnosis
    rcases handshakeShown_or_stopsAtSynAck htcp hestablished with hshown | hstops
    · exact hshown
    · exact absurd hstops hgoes

/-- Without expiries, the packets of a key are all packets observed on it. -/
theorem packetsSince_observe (key : FlowKey) (obs : List Observation) :
    packetsSince key (obs.map .observe) = obs.filter fun o => o.packet.flow = key := by
  induction obs using List.reverseRecOn with
  | nil =>
      rfl
  | append_singleton obs o ih =>
      unfold packetsSince at ih ⊢
      rw [List.map_append, List.map_append, List.filter_append, ← ih]
      refine (Sessions.life_concat stays key _ (.touch o.packet.flow o)).trans ?_
      simp only [Sessions.lifeStep]
      by_cases hkey : o.packet.flow = key
      · simp [hkey]
      · simp [hkey]

/-- A packet of `key` with the given flags. -/
def packetWith (key : FlowKey) (flags : UInt8) (now : Instant) : Observation :=
  { packet :=
      { flow := key
        direction := .outbound
        payloadLen := 0
        tcpFlags := flags }
    payload := []
    now := now }

/-- SYN, SYN-ACK, ACK. -/
def fullHandshake : List Observation :=
  [packetWith reopenedKey 0x02 0, packetWith reopenedKey 0x12 1, packetWith reopenedKey 0x10 2]

theorem handshakeShown_iff_fullHandshake :
    ∃ a, new.run (fullHandshake.map .observe) = ok a ∧
      ((∀ now timeout snap, a.snapshot reopenedKey now timeout = some snap →
        snap.lifecycle = .established ∨ snap.diagnosis = .healthyTransport →
          HandshakeShown (packetsSince reopenedKey (fullHandshake.map .observe))) ↔
        ¬ StopsAtSynAck (packetsSince reopenedKey (fullHandshake.map .observe))) :=
  ⟨_, rfl, handshakeShown_iff rfl rfl⟩

/-- SYN and SYN-ACK, and never the ACK that answers them. -/
def halfHandshake : List Observation :=
  [packetWith reopenedKey 0x02 0, packetWith reopenedKey 0x12 1]

theorem halfHandshake_established :
    ¬ ∀ (obs : List Observation) (key : FlowKey) (a : FlowSessionAnalyzer),
      key.protocol = .tcp → new.run (obs.map .observe) = ok a →
        ∀ now timeout snap, a.snapshot key now timeout = some snap →
          snap.lifecycle = .established ∨ snap.diagnosis = .healthyTransport →
            HandshakeShown (obs.filter fun o => o.packet.flow = key) := by
  intro hcomplete
  have hshown := hcomplete halfHandshake reopenedKey _ rfl rfl 1 5 _ rfl (Or.inl (by decide))
  rcases hshown.ack with ⟨o, ho, hack⟩
  have hnone : (halfHandshake.all fun o => !decide o.IsBareAck) = true := by
    decide
  have hno := List.all_eq_true.1 hnone o (List.mem_filter.1 ho).1
  simp [hack] at hno

end FlowSessionAnalyzer

end Core
end FlyDpi
