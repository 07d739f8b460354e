import FlyDpi.Core.FlowTable
import FlyDpi.Core.FlowHistory

/-!
# Lockstep — the two flow tables side by side

The datapath and the session analyzer keep tables of their own, written separately.  Given the same
packets and the same expiries at the same times they hold the same keys, and the counters and the
clocks of a key are equal; the analyzer's optional times are then never missing.
-/

namespace FlyDpi
namespace Core

open Lib Lib.Outcome

/-- A datapath and an analyzer that are given the same calls. -/
structure FlowTables where
  datapath : Datapath
  analyzer : FlowSessionAnalyzer

/-- What the two records of a key share. -/
structure SameTally (entry : FlowState) (signals : FlowSignals) : Prop where
  packets : entry.packets = signals.packets
  bytes : entry.bytes = signals.bytes
  firstSeen : signals.firstSeen = some entry.createdAt
  lastSeen : signals.lastSeen = some entry.lastSeen

namespace FlowTables

def new : FlowTables :=
  { datapath := .new
    analyzer := .new }

/-- One packet or one expiry, given to both. -/
def apply (t : FlowTables) : FlowOp → Outcome Empty FlowTables
  | .observe o => do
      let analyzer ← t.analyzer.observePacket o.packet o.payload o.now
      return { datapath := (t.datapath.onPacket o.packet o.now).2, analyzer := analyzer }
  | .expire now idle =>
      ok { datapath := (t.datapath.expireIdle now idle).2,
           analyzer := (t.analyzer.expire now idle).2 }

def run (t : FlowTables) (ops : List FlowOp) : Outcome Empty FlowTables :=
  ops.foldlM apply t

/-- The two tables hold the same keys with equal tallies, and would expire equally many of them. -/
structure InStep (t : FlowTables) : Prop where
  keys : ∀ key, (t.datapath.flow key).isSome ↔ (t.analyzer.flows.lookup key).isSome
  entries : ∀ key entry signals, t.datapath.flow key = some entry →
    t.analyzer.flows.lookup key = some signals → SameTally entry signals
  flowCount : t.datapath.flowCount = t.analyzer.flowCount
  expired : ∀ now idle, (t.datapath.expireIdle now idle).1 = (t.analyzer.expire now idle).1

/-- The simulation relation between the two tables. -/
def Tallied (t : FlowTables) : Prop :=
  Table.Related SameTally t.datapath.flows t.analyzer.flows

end FlowTables

/-- One packet, on two records that agree or on none. -/
theorem SameTally.observe {entry : Option FlowState} {signals : Option FlowSignals}
    (h : Option.Rel SameTally entry signals) (o : Observation) :
    SameTally ((entry.getD (FlowState.fresh o.packet o.now)).touch o.packet o.now)
      (FlowSessionAnalyzer.update signals o) := by
  rcases (signals.getD FlowSignals.default).observe_eq o with ⟨latency, hobs⟩
  rw [FlowSessionAnalyzer.update, hobs]
  cases h with
  | none =>
      exact ⟨rfl, rfl, rfl, rfl⟩
  | some h =>
      refine ⟨?_, ?_, ?_, rfl⟩
      · simp [FlowState.touch, h.packets]
      · simp [FlowState.touch, h.bytes]
      · -- the first packet of the flow set both times, and both keep them
        simp [FlowState.touch, h.firstSeen]

/-- The discard-on-`None` branch of `expire` is never taken: both decide on the same time. -/
theorem SameTally.retains_eq {entry : FlowState} {signals : FlowSignals}
    (h : SameTally entry signals) (now : Instant) (idle : Duration) :
    decide (now.durationSince entry.lastSeen ≤ idle) =
      FlowSessionAnalyzer.retains (now, idle) signals := by
  simp [FlowSessionAnalyzer.retains, h.lastSeen]

namespace FlowTables

theorem Tallied.expire {t : FlowTables} (h : t.Tallied) (now : Instant) (idle : Duration) :
    Table.Related SameTally (t.datapath.expireIdle now idle).2.flows
      (t.analyzer.expire now idle).2.flows := by
  refine Table.Related.retain h ?_
  intro key entry signals hsame
  exact hsame.retains_eq now idle

theorem Tallied.apply {t t' : FlowTables} (h : t.Tallied) {op : FlowOp}
    (hstep : t.apply op = ok t') : t'.Tallied := by
  cases op with
  | observe o =>
      simp only [FlowTables.apply, bind_eq_ok_iff, pure_eq_ok, ok.injEq] at hstep
      rcases hstep with ⟨analyzer, hanalyzer, rfl⟩
      have hop : t.analyzer.apply (.observe o) = ok analyzer := hanalyzer
      have hflows : analyzer.flows =
          t.analyzer.flows.upsert o.packet.flow (FlowSessionAnalyzer.update · o) :=
        FlowSessionAnalyzer.flows_of_apply hop
      rw [Tallied, hflows]
      refine Table.Related.upsert h o.packet.flow ?_
      intro entry signals hrel
      exact SameTally.observe hrel o
  | expire now idle =>
      cases hstep
      exact h.expire now idle

theorem Tallied.inStep {t : FlowTables} (h : t.Tallied) : t.InStep where
  keys := Table.Related.isSome_iff h
  entries := by
    intro key entry signals hentry hsignals
    exact Table.Related.entries h hentry hsignals
  flowCount := Table.Related.size_eq h
  expired := by
    intro now idle
    have hbefore : t.datapath.flows.size = t.analyzer.flows.size := Table.Related.size_eq h
    have hafter : (t.datapath.expireIdle now idle).2.flows.size =
        (t.analyzer.expire now idle).2.flows.size := Table.Related.size_eq (h.expire now idle)
    change t.datapath.flows.size - (t.datapath.expireIdle now idle).2.flows.size =
      t.analyzer.flows.size - (t.analyzer.expire now idle).2.flows.size
    rw [hbefore, hafter]

/-- After any packets and expiries given to both, on which the analyzer did not panic, the tables
are in step. -/
theorem inStep_of_run {ops : List FlowOp} {t : FlowTables} (h : new.run ops = ok t) :
    t.InStep := by
  have htallied : t.Tallied := by
    refine foldlM_induction (I := Tallied) ?_ ?_ h
    · intro s op s' hs hstep
      exact hs.apply hstep
    · exact Table.Related.empty
  exact htallied.inStep

theorem inStep_reopened :
    ∃ t, new.run FlowSessionAnalyzer.reopened = ok t ∧ t.InStep := by
  refine ⟨_, rfl, ?_⟩
  have hrun : new.run FlowSessionAnalyzer.reopened = ok _ := rfl
  exact inStep_of_run hrun

end FlowTables

end Core
end FlyDpi
