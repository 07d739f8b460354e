import FlyDpi.Lib.Sessions
import FlyDpi.Core.Datapath

/-!
# FlowTable — the datapath as an account of its arrivals

A run of the datapath is a sequence of `on_packet`, `expire_idle` and `clear` calls.  The abstract
state of a key is the list of its arrivals since it was last removed; its record is the fold of that
list, and the counts that `expire_idle` and `flow_count` return are counts of such keys.
-/

namespace FlyDpi
namespace Core

open Lib

/-- One call of `on_packet`. -/
structure Arrival where
  packet : PacketMeta
  now : Instant

/-- The two ways in which the datapath drops records. -/
inductive Removal
  | idle (now : Instant) (idle : Duration)
  | all

inductive DatapathOp
  | packet (arrival : Arrival)
  | expireIdle (now : Instant) (idle : Duration)
  | clear

namespace DatapathOp

def toSession : DatapathOp → Sessions.Op FlowKey Arrival Removal
  | packet arrival => .touch arrival.packet.flow arrival
  | expireIdle now idle => .sweep (.idle now idle)
  | clear => .sweep .all

end DatapathOp

/-- The last arrival is more than `idle` ago. -/
def Outdated (now : Instant) (idle : Duration) (es : List Arrival) : Prop :=
  ∃ last, es.getLast? = some last ∧ idle < now.durationSince last.now

instance (now : Instant) (idle : Duration) (es : List Arrival) : Decidable (Outdated now idle es) :=
  decidable_of_iff (es.getLast?.any fun last => idle < now.durationSince last.now) (by
    simp [Outdated, Option.any_eq_true])

def survives : Removal → List Arrival → Bool
  | .idle now idle, es => !decide (Outdated now idle es)
  | .all, _ => false

/-- The arrivals of `key` since its last removal, oldest first. -/
def arrivalsSince (key : FlowKey) (ops : List DatapathOp) : List Arrival :=
  Sessions.life survives key (ops.map DatapathOp.toSession)

section Arrivals

variable (key : FlowKey) (ops : List DatapathOp)

theorem arrivalsSince_concat (op : DatapathOp) :
    arrivalsSince key (ops ++ [op]) =
      Sessions.lifeStep survives key (arrivalsSince key ops) op.toSession := by
  unfold arrivalsSince
  rw [List.map_append]
  exact Sessions.life_concat survives key _ _

theorem arrivalsSince_expireIdle (now : Instant) (idle : Duration) :
    arrivalsSince key (ops ++ [.expireIdle now idle]) =
      if Outdated now idle (arrivalsSince key ops) then [] else arrivalsSince key ops := by
  rw [arrivalsSince_concat]
  by_cases h : Outdated now idle (arrivalsSince key ops)
  · simp [DatapathOp.toSession, Sessions.lifeStep, survives, h]
  · simp [DatapathOp.toSession, Sessions.lifeStep, survives, h]

theorem flow_arrivalsSince : ∀ arrival ∈ arrivalsSince key ops, arrival.packet.flow = key := by
  refine Sessions.forall_mem_life survives key fun arrival harrival => ?_
  rcases List.mem_map.1 harrival with ⟨op, _, hop⟩
  cases op with
  | packet arrival' =>
      simp only [DatapathOp.toSession, Sessions.Op.touch.injEq] at hop
      rw [← hop.2]
      exact hop.1
  | expireIdle now idle =>
      cases hop
  | clear =>
      cases hop

end Arrivals

namespace Datapath

def apply (dp : Datapath) : DatapathOp → Datapath
  | .packet arrival => (dp.onPacket arrival.packet arrival.now).2
  | .expireIdle now idle => (dp.expireIdle now idle).2
  | .clear => dp.clear

def run (ops : List DatapathOp) : Datapath :=
  ops.foldl apply new

theorem run_concat (ops : List DatapathOp) (op : DatapathOp) :
    run (ops ++ [op]) = (run ops).apply op := by
  simp [run]

/-- The update of an entry by one arrival. -/
def update (entry : Option FlowState) (arrival : Arrival) : FlowState :=
  (entry.getD (FlowState.fresh arrival.packet arrival.now)).touch arrival.packet arrival.now

/-- The entries a removal retains. -/
def retains : Removal → FlowState → Bool
  | .idle now idle, entry => decide (now.durationSince entry.lastSeen ≤ idle)
  | .all, _ => false

theorem flows_apply (dp : Datapath) (op : DatapathOp) :
    (dp.apply op).flows = Sessions.step update retains dp.flows op.toSession := by
  cases op with
  | packet arrival =>
      rfl
  | expireIdle now idle =>
      rfl
  | clear =>
      apply AList.ext
      simp [apply, clear, DatapathOp.toSession, Sessions.step, Table.retain, retains]

theorem flows_run (ops : List DatapathOp) :
    (run ops).flows = Sessions.run update retains (ops.map DatapathOp.toSession) := by
  induction ops using List.reverseRecOn with
  | nil =>
      rfl
  | append_singleton ops op ih =>
      rw [run_concat, flows_apply, ih]
      simp [Sessions.run]

end Datapath

/-! ## The record of a life -/

/-- What the record of `key` says when its arrivals since the last removal are `es`. -/
structure FlowAccount (key : FlowKey) (es : List Arrival) (entry : FlowState) : Prop where
  packets : entry.packets.toNat = min es.length (2 ^ 64 - 1)
  bytes : entry.bytes.toNat = min (es.map fun e => e.packet.payloadLen.toNat).sum (2 ^ 64 - 1)
  createdAt : es.head?.map (·.now) = some entry.createdAt
  lastSeen : es.getLast?.map (·.now) = some entry.lastSeen
  protocol : entry.context.protocol = key.protocol
  remoteAddr : entry.context.remoteAddr = formatRemote key.remoteIp
  remotePort : entry.context.remotePort = key.remotePort

namespace Datapath

section Replay

variable {es : List Arrival} {entry : FlowState}

theorem replay_packets (h : Sessions.replay update es = some entry) :
    entry.packets.toNat = min es.length (2 ^ 64 - 1) := by
  have hfold : entry.packets = es.foldl (fun total _ => saturatingAdd total 1) 0 :=
    Sessions.replay_foldl (fun _ => rfl) (fun _ _ => rfl) h
  rw [hfold, toNat_foldl_saturatingAdd (fun _ => 1)]
  simp

theorem replay_bytes (h : Sessions.replay update es = some entry) :
    entry.bytes.toNat = min (es.map fun e => e.packet.payloadLen.toNat).sum (2 ^ 64 - 1) := by
  have hfold : entry.bytes =
      es.foldl (fun total (e : Arrival) => saturatingAdd total e.packet.payloadLen) 0 :=
    Sessions.replay_foldl (fun _ => rfl) (fun _ _ => rfl) h
  rw [hfold, toNat_foldl_saturatingAdd fun e : Arrival => e.packet.payloadLen]
  simp

theorem replay_createdAt (h : Sessions.replay update es = some entry) :
    es.head?.map (·.now) = some entry.createdAt := by
  refine Sessions.replay_head ?_ ?_ h
  · intro e
    rfl
  · intro entry e
    rfl

theorem replay_lastSeen (h : Sessions.replay update es = some entry) :
    es.getLast?.map (·.now) = some entry.lastSeen := by
  refine Sessions.replay_getLast ?_ ?_ h
  · intro e
    rfl
  · intro entry e
    rfl

/-- The context is written once, by the first arrival, and never touched again. -/
theorem replay_context (h : Sessions.replay update es = some entry) :
    ∃ first ∈ es, entry.context = (FlowState.fresh first.packet first.now).context := by
  refine Sessions.replay_induction update
    (P := fun es entry =>
      ∃ first ∈ es, entry.context = (FlowState.fresh first.packet first.now).context) ?_ ?_ h
  · intro e
    exact ⟨e, by simp, rfl⟩
  · rintro es e entry _ ⟨first, hfirst, hcontext⟩
    exact ⟨first, List.mem_append_left _ hfirst, hcontext⟩

theorem replay_account {key : FlowKey} (hkey : ∀ e ∈ es, e.packet.flow = key)
    (h : Sessions.replay update es = some entry) : FlowAccount key es entry := by
  rcases replay_context h with ⟨first, hfirst, hcontext⟩
  have hflow : first.packet.flow = key := hkey first hfirst
  refine
    { packets := replay_packets h
      bytes := replay_bytes h
      createdAt := replay_createdAt h
      lastSeen := replay_lastSeen h
      protocol := ?_
      remoteAddr := ?_
      remotePort := ?_ }
  · rw [hcontext, ← hflow]
    rfl
  · rw [hcontext, ← hflow]
    rfl
  · rw [hcontext, ← hflow]
    rfl

end Replay

/-- A removal decides on the last arrival of a life. -/
theorem retains_agrees : Sessions.Agrees update retains survives := by
  intro removal es entry h
  cases removal with
  | idle now idle =>
      rcases Option.map_eq_some_iff.1 (replay_lastSeen h) with ⟨last, hlast, hseen⟩
      rw [Bool.eq_iff_iff]
      simp [retains, survives, Outdated, hlast, hseen]
  | all =>
      rfl

theorem flow_run (ops : List DatapathOp) (key : FlowKey) :
    (run ops).flow key = Sessions.replay update (arrivalsSince key ops) := by
  rw [flow, flows_run]
  exact Sessions.lookup_run retains_agrees _ key

theorem flow_run_isSome (ops : List DatapathOp) (key : FlowKey) :
    ((run ops).flow key).isSome ↔ arrivalsSince key ops ≠ [] := by
  rw [flow_run]
  exact Sessions.replay_isSome update

theorem mem_keySet_run {ops : List DatapathOp} {key : FlowKey} :
    key ∈ (run ops).flows.keySet ↔ arrivalsSince key ops ≠ [] := by
  rw [Table.mem_keySet]
  exact flow_run_isSome ops key

/-- `expire_idle` removes the keys whose last arrival is outdated. -/
theorem mem_keySet_sdiff_expireIdle {ops : List DatapathOp} {now : Instant} {idle : Duration}
    {key : FlowKey} :
    key ∈ (run ops).flows.keySet \ ((run ops).expireIdle now idle).2.flows.keySet ↔
      Outdated now idle (arrivalsSince key ops) := by
  have hnext : ((run ops).expireIdle now idle).2 = run (ops ++ [.expireIdle now idle]) :=
    (run_concat ops (.expireIdle now idle)).symm
  rw [hnext, Finset.mem_sdiff, mem_keySet_run, mem_keySet_run, arrivalsSince_expireIdle]
  by_cases h : Outdated now idle (arrivalsSince key ops)
  · -- a life with an outdated last arrival has an arrival
    have hne : arrivalsSince key ops ≠ [] := by
      rintro hnil
      simp [Outdated, hnil] at h
    simp [h, hne]
  · simp [h]

theorem flowAccount_of_flow {ops : List DatapathOp} {key : FlowKey} {entry : FlowState}
    (h : (run ops).flow key = some entry) : FlowAccount key (arrivalsSince key ops) entry := by
  rw [flow_run] at h
  exact replay_account (flow_arrivalsSince key ops) h

/-- After any run the table is an account of it: a key is present exactly when a packet of it
arrived since its last removal, its record sums these packets up, `flow_count` counts the keys that
are present and `expire_idle` counts the keys it removes, which are the outdated ones. -/
theorem flowTable_accounts (ops : List DatapathOp) :
    (∀ key, ((run ops).flow key).isSome ↔ arrivalsSince key ops ≠ []) ∧
    (∀ key entry, (run ops).flow key = some entry →
      FlowAccount key (arrivalsSince key ops) entry) ∧
    (∃ present : Finset FlowKey, (∀ key, key ∈ present ↔ arrivalsSince key ops ≠ []) ∧
      (run ops).flowCount = present.card) ∧
    ∀ now idle, ∃ removed : Finset FlowKey,
      (∀ key, key ∈ removed ↔ Outdated now idle (arrivalsSince key ops)) ∧
      ((run ops).expireIdle now idle).1 = removed.card ∧
      ∀ key, ((run ops).expireIdle now idle).2.flow key =
        if key ∈ removed then none else (run ops).flow key := by
  refine ⟨flow_run_isSome ops, ?_, ?_, ?_⟩
  · intro key entry h
    exact flowAccount_of_flow h
  · exact ⟨(run ops).flows.keySet, fun key => mem_keySet_run, flowCount_eq_card _⟩
  · intro now idle
    refine ⟨_, fun key => mem_keySet_sdiff_expireIdle, Table.size_sub_size_retain _ _, ?_⟩
    intro key
    have hnext : ((run ops).expireIdle now idle).2 = run (ops ++ [.expireIdle now idle]) :=
      (run_concat ops (.expireIdle now idle)).symm
    simp only [mem_keySet_sdiff_expireIdle]
    rw [hnext, flow_run, flow_run, arrivalsSince_expireIdle]
    split_ifs
    · rfl
    · rfl

end Datapath

end Core
end FlyDpi
