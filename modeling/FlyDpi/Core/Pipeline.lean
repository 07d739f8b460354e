import FlyDpi.Lib.Runs
import FlyDpi.Core.Runtime

/-!
# Pipeline — native queue, worker, ring and consumers together

The parties of the observation pipeline are the native callback, the ingest worker and any number
of consumers; each action is one critical section or one access of shared state, and actions
interleave freely.  A world carries the history next to the state: the records the callback took,
the snapshots the worker popped, the events consumers received.

Both bounded queues keep the same invariant, `DropOldest.Accounts`, and the worker links them: the
ring's input is the normalization of the snapshots the worker has settled.
-/

namespace FlyDpi
namespace Core

open Lib Native

/-! ## Worlds and actions -/

structure World where
  shared : Shared
  worker : IngestWorker
  /-- Callbacks that have left the queue lock and not yet raised the event counter. -/
  uncounted : Nat
  callbacks : List FwpmNetEvent2
  popped : List WfpEventSnapshot
  /-- The snapshots fed into the datapath, each with the time it was fed. -/
  fed : List (WfpEventSnapshot × Instant)
  delivered : List FlyDpiRuntimeEvent

inductive Action
  | callback (event : FwpmNetEvent2)
  | countEvent
  | worker (now : Instant)
  | poll
  | drain (capacity : Nat)
  | stop

namespace World

def ringCapacity : Nat := 4096

def start : World :=
  { shared :=
      { observer := .new
        datapath := .new .new
        events := .new (.new ringCapacity (by decide)) }
    worker := .start
    uncounted := 0
    callbacks := []
    popped := []
    fed := []
    delivered := [] }

/-- The worker owns the observer and closes it when it exits. -/
def ObserverOpen (w : World) : Prop :=
  w.worker.pc ≠ .exited

/-- The snapshot that a worker step takes from the native queue. -/
def poppedBy (w : World) : List WfpEventSnapshot :=
  match w.worker.pc with
  | .popping _ => w.shared.observer.queue.take 1
  | _ => []

theorem poppedBy_of_not_popping {w : World} (h : ∀ drained, w.worker.pc ≠ .popping drained) :
    w.poppedBy = [] := by
  unfold poppedBy
  split
  · exact absurd ‹_› (h _)
  · rfl

/-- The snapshot that a worker step feeds into the datapath. -/
def fedBy (w : World) (now : Instant) : List (WfpEventSnapshot × Instant) :=
  match w.worker.pc with
  | .feeding _ snapshot => [(snapshot, now)]
  | _ => []

inductive Step : World → Action → World → Prop where
  -- the queue lock and the event counter are two separate accesses
  | callback {w : World} (event : FwpmNetEvent2) :
      w.ObserverOpen →
      Step w (.callback event)
        { w with
          shared := { w.shared with
            observer := w.shared.observer.enqueue (buildSnapshot event) }
          uncounted := w.uncounted + 1
          callbacks := w.callbacks ++ [event] }
  | countEvent {w : World} {n : Nat} :
      w.ObserverOpen → w.uncounted = n + 1 →
      Step w .countEvent
        { w with
          shared := { w.shared with observer := w.shared.observer.countEvent }
          uncounted := n }
  | worker {w : World} {now : Instant} {worker : IngestWorker} {shared : Shared} :
      w.worker.step now w.shared = some (worker, shared) →
      Step w (.worker now)
        { w with
          shared := shared
          worker := worker
          popped := w.popped ++ w.poppedBy
          fed := w.fed ++ w.fedBy now }
  | poll {w : World} {rc : UInt32} {written : Option FlyDpiRuntimeEvent}
      {events : Mutex EventRing} :
      flydpiRuntimePoll (some w.shared.events) true = ((rc, written), some events) →
      Step w .poll
        { w with
          shared := { w.shared with events := events }
          delivered := w.delivered ++ written.toList }
  | drain {w : World} {capacity : Nat} {written : List FlyDpiRuntimeEvent}
      {events : Mutex EventRing} :
      flydpiRuntimeDrain (some w.shared.events) true capacity = (written, some events) →
      Step w (.drain capacity)
        { w with
          shared := { w.shared with events := events }
          delivered := w.delivered ++ written }
  -- the flag only; the worker leaves its loop when it next looks
  | stop {w : World} :
      Step w .stop { w with worker := { w.worker with stop := true } }

def ring (w : World) : EventRing :=
  w.shared.events.value

def observer (w : World) : FlyDpiWfpObserver :=
  w.shared.observer

def stats (w : World) : IngestStats :=
  w.worker.stats

/-- No counter stands at its maximum. -/
structure Unsaturated (w : World) : Prop where
  nativeDropped : w.observer.dropped.toNat < 2 ^ 64 - 1
  ringDropped : w.ring.dropped.toNat < 2 ^ 64 - 1
  snapshotsSeen : w.stats.snapshotsSeen.toNat < 2 ^ 64 - 1
  eventsNormalized : w.stats.eventsNormalized.toNat < 2 ^ 64 - 1
  snapshotsRejected : w.stats.snapshotsRejected.toNat < 2 ^ 64 - 1

/-- Some party takes a step. -/
def Next (w w' : World) : Prop :=
  ∃ action, Step w action w'

/-- The worlds that some interleaving leads to. -/
def Interleaved (w : World) : Prop :=
  Relation.ReflTransGen Next start w

/-- The worlds that some interleaving leads to while no counter saturates. -/
def Reachable (w : World) : Prop :=
  Relation.ReflTransGen (fun w w' => w.Unsaturated ∧ Next w w') start w

/-! ## Normalization -/

/-- What a snapshot becomes for a consumer, if it is accepted. -/
def delivers (snapshot : WfpEventSnapshot) : Option FlyDpiRuntimeEvent :=
  (normalize snapshot).map .ofEvent

/-- What a record becomes for a consumer. -/
def normalization (event : FwpmNetEvent2) : Option FlyDpiRuntimeEvent :=
  delivers (buildSnapshot event)

/-- The snapshot the worker is working on. -/
def inFlight (w : World) : List WfpEventSnapshot :=
  match w.worker.pc with
  | .feeding _ snapshot => [snapshot]
  | .pushing _ snapshot _ => [snapshot]
  | _ => []

/-- The event counted as normalized and not yet in the ring. -/
def unpushed (w : World) : List NetworkEvent :=
  match w.worker.pc with
  | .pushing _ _ event => [event]
  | _ => []

theorem unpushed_eq_nil {w : World} (h : w.inFlight = []) : w.unpushed = [] := by
  unfold inFlight at h
  unfold unpushed
  split
  · rename_i hpc
    rw [hpc] at h
    cases h
  · rfl

/-- The worker is between taking a snapshot and storing its event. -/
def InCriticalStep (w : World) : Prop :=
  w.inFlight ≠ []

/-! ## The invariant -/

/-- Both queues account for what went through them; `settled` are the popped snapshots the worker
is done with. -/
structure Inv (w : World) (settled : List WfpEventSnapshot) : Prop where
  ringCapacity : w.ring.capacity = ringCapacity
  datapathHealthy : w.shared.datapath.poisoned = false
  eventsHealthy : w.shared.events.poisoned = false
  queueLe : w.observer.queue.length ≤ kQueueCapacity
  native : DropOldest.Accounts (w.callbacks.map buildSnapshot) w.popped w.observer.queue
    w.observer.dropped.toNat
  poppedEq : w.popped = settled ++ w.inFlight
  events : DropOldest.Accounts (settled.filterMap delivers) w.delivered
    (w.ring.events.map .ofEvent) w.ring.dropped.toNat
  inRing : w.inFlight.filterMap normalize = w.unpushed ∨ w.unpushed = []
  seen : w.stats.snapshotsSeen.toNat = w.popped.length
  normalized :
    w.stats.eventsNormalized.toNat = (settled.filterMap delivers).length + w.unpushed.length
  rejected :
    settled.length = (settled.filterMap delivers).length + w.stats.snapshotsRejected.toNat

theorem start_inv : Inv start [] where
  ringCapacity := rfl
  datapathHealthy := rfl
  eventsHealthy := rfl
  queueLe := Nat.zero_le _
  native := DropOldest.Accounts.empty
  poppedEq := rfl
  events := DropOldest.Accounts.empty
  inRing := Or.inr rfl
  seen := rfl
  normalized := rfl
  rejected := rfl

section Preservation

variable {w : World} {settled : List WfpEventSnapshot}

theorem Inv.callback (h : Inv w settled) (hw : w.Unsaturated) (event : FwpmNetEvent2) :
    Inv
      { w with
        shared := { w.shared with observer := w.shared.observer.enqueue (buildSnapshot event) }
        uncounted := w.uncounted + 1
        callbacks := w.callbacks ++ [event] }
      settled :=
  { h with
    queueLe := by
      change (w.observer.enqueue (buildSnapshot event)).queue.length ≤ _
      rw [FlyDpiWfpObserver.queue_enqueue]
      exact DropOldest.length_push_le _ (by decide) h.queueLe
    native := by
      change DropOldest.Accounts ((w.callbacks ++ [event]).map buildSnapshot) w.popped
        (w.observer.enqueue (buildSnapshot event)).queue _
      rw [FlyDpiWfpObserver.queue_enqueue, List.map_append]
      change DropOldest.Accounts _ _ _ (w.observer.enqueue (buildSnapshot event)).dropped.toNat
      rw [FlyDpiWfpObserver.toNat_dropped_enqueue _ _ hw.nativeDropped]
      exact h.native.push (by decide) (buildSnapshot event) }

theorem Inv.countEvent (h : Inv w settled) (n : Nat) :
    Inv
      { w with
        shared := { w.shared with observer := w.shared.observer.countEvent }
        uncounted := n }
      settled :=
  { h with }

/-- The fed snapshots are a history of their own. -/
theorem Inv.withFed (h : Inv w settled) (fed : List (WfpEventSnapshot × Instant)) :
    Inv { w with fed := fed } settled :=
  { h with }

theorem Inv.stop (h : Inv w settled) :
    Inv { w with worker := { w.worker with stop := true } } settled :=
  { h with }

/-- Handing out the oldest events of the ring. -/
theorem Inv.drained (h : Inv w settled) (max : Nat) :
    Inv
      { w with
        shared := { w.shared with
          events := { w.shared.events with value := (w.ring.drain max).2 } }
        delivered := w.delivered ++ (w.ring.drain max).1.map .ofEvent }
      settled :=
  { h with
    events := by
      change DropOldest.Accounts _ (w.delivered ++ (w.ring.drain max).1.map .ofEvent)
        ((w.ring.drain max).2.events.map .ofEvent) _
      rw [EventRing.fst_drain, EventRing.events_drain, List.map_take, List.map_drop]
      exact h.events.take max }

/-- A snapshot is in flight between its pop and its settlement only. -/
theorem inFlight_of_not {w : World} (hfeeding : ∀ s v, w.worker.pc ≠ .feeding s v)
    (hpushing : ∀ s v e, w.worker.pc ≠ .pushing s v e) : w.inFlight = [] := by
  unfold inFlight
  split
  · exact absurd ‹_› (hfeeding _ _)
  · exact absurd ‹_› (hpushing _ _ _)
  · rfl

/-- A worker step that only moves the program counter outside the critical step. -/
theorem Inv.idle (h : Inv w settled) (hin : w.inFlight = []) {worker : IngestWorker}
    (hfeeding : ∀ s v, worker.pc ≠ .feeding s v) (hpushing : ∀ s v e, worker.pc ≠ .pushing s v e)
    (hstats : worker.stats =
      { w.stats with observerDropped := worker.stats.observerDropped }) :
    Inv { w with worker := worker } settled := by
  have hout : w.unpushed = [] := unpushed_eq_nil hin
  have hin' : inFlight { w with worker := worker } = [] := inFlight_of_not hfeeding hpushing
  have hout' : unpushed { w with worker := worker } = [] := unpushed_eq_nil hin'
  exact
    { h with
      poppedEq := by
        rw [hin', ← hin]
        exact h.poppedEq
      inRing := Or.inr hout'
      seen := by
        change worker.stats.snapshotsSeen.toNat = _
        rw [hstats]
        exact h.seen
      normalized := by
        change worker.stats.eventsNormalized.toNat = _
        rw [hstats, hout', ← hout]
        exact h.normalized
      rejected := by
        change _ = _ + worker.stats.snapshotsRejected.toNat
        rw [hstats]
        exact h.rejected }

/-- Taking the oldest snapshot of the native queue, or finding it empty. -/
theorem Inv.popStep (h : Inv w settled) (hw : w.Unsaturated) {drained : UInt32}
    (hpc : w.worker.pc = .popping drained) :
    Inv
      { w with
        shared := (w.worker.popStep drained w.shared).2
        worker := (w.worker.popStep drained w.shared).1
        popped := w.popped ++ w.poppedBy }
      settled := by
  have hin : w.inFlight = [] := by
    simp [inFlight, hpc]
  have hout : w.unpushed = [] := by
    simp [World.unpushed, hpc]
  cases hqueue : w.shared.observer.queue with
  | nil =>
      -- an empty queue ends the inner loop
      have hpop : WfpObserverBridge.pop w.shared.observer = (none, w.shared.observer) :=
        WfpObserverBridge.pop_nil hqueue
      have htaken : w.poppedBy = [] := by
        simp [poppedBy, hpc, hqueue]
      simp only [IngestWorker.popStep, hpop, htaken, List.append_nil]
      exact h.idle hin (by simp) (by simp) rfl
  | cons snapshot queue =>
      have hpop := WfpObserverBridge.pop_cons hqueue
      have htaken : w.poppedBy = [snapshot] := by
        simp [poppedBy, hpc, hqueue]
      simp only [IngestWorker.popStep, hpop, htaken]
      -- for the native queue a pop is a delivery of its oldest element
      have hnative := h.native.take 1
      simp only [World.observer, hqueue, List.take_succ_cons, List.take_zero, List.drop_succ_cons,
        List.drop_zero] at hnative
      exact
        { h with
          queueLe := by
            have hle := h.queueLe
            simp only [World.observer, hqueue, List.length_cons] at hle
            change queue.length ≤ _
            omega
          native := hnative
          poppedEq := by
            change w.popped ++ [snapshot] = settled ++ [snapshot]
            rw [h.poppedEq, hin, List.append_nil]
          inRing := Or.inr rfl
          seen := by
            calc
              (saturatingAdd w.stats.snapshotsSeen 1).toNat = w.stats.snapshotsSeen.toNat + 1 :=
                toNat_saturatingAdd_one hw.snapshotsSeen
              _ = w.popped.length + 1 := by
                    rw [h.seen]
              _ = (w.popped ++ [snapshot]).length := by
                    rw [List.length_append]
                    rfl
          normalized := by
            have hnormalized := h.normalized
            rw [hout] at hnormalized
            exact hnormalized }

/-- Feeding the snapshot in flight; a rejected one is settled at once. -/
theorem Inv.feedStep (h : Inv w settled) (hw : w.Unsaturated) {drained : UInt32}
    {snapshot : WfpEventSnapshot} (hpc : w.worker.pc = .feeding drained snapshot) (now : Instant) :
    ∃ settled', Inv
      { w with
        shared := (w.worker.feedStep drained snapshot now w.shared).2
        worker := (w.worker.feedStep drained snapshot now w.shared).1 }
      settled' := by
  have hin : w.inFlight = [snapshot] := by
    simp [inFlight, hpc]
  have hout : w.unpushed = [] := by
    simp [World.unpushed, hpc]
  have hnormalized := h.normalized
  rw [hout] at hnormalized
  have hlock : w.shared.datapath.lock = some w.shared.datapath.value := by
    simp [Mutex.lock, h.datapathHealthy]
  have hnorm := fst_feedSnapshot w.shared.datapath.value snapshot now
  cases hfeed : feedSnapshot w.shared.datapath.value snapshot now with
  | mk event dp =>
      rw [hfeed] at hnorm
      change event = normalize snapshot at hnorm
      cases event with
      | some event =>
          -- counted now, in the ring only after the next step
          refine ⟨settled, ?_⟩
          simp only [IngestWorker.feedStep, hlock, hfeed]
          exact
            { h with
              poppedEq := by
                rw [h.poppedEq, hin]
                rfl
              inRing := Or.inl (by
                change [snapshot].filterMap normalize = [event]
                simp [← hnorm])
              normalized := by
                calc
                  (saturatingAdd w.stats.eventsNormalized 1).toNat
                      = w.stats.eventsNormalized.toNat + 1 :=
                        toNat_saturatingAdd_one hw.eventsNormalized
                  _ = (settled.filterMap delivers).length + 1 := by
                        rw [hnormalized]
                        rfl }
      | none =>
          -- a rejected snapshot adds nothing to the input of the ring
          have hdelivers : delivers snapshot = none := by
            simp [delivers, ← hnorm]
          have hsettled : (settled ++ [snapshot]).filterMap delivers =
              settled.filterMap delivers := by
            simp [hdelivers]
          refine ⟨settled ++ [snapshot], ?_⟩
          simp only [IngestWorker.feedStep, hlock, hfeed]
          exact
            { h with
              poppedEq := by
                rw [h.poppedEq, hin]
                exact (List.append_nil _).symm
              events := by
                rw [hsettled]
                exact h.events
              inRing := Or.inr rfl
              normalized := by
                rw [hsettled]
                exact hnormalized
              rejected := by
                change _ = _ + (saturatingAdd w.stats.snapshotsRejected 1).toNat
                rw [hsettled, toNat_saturatingAdd_one hw.snapshotsRejected, List.length_append,
                  h.rejected]
                rfl }

/-- Storing the event of the snapshot in flight, which is settled by that. -/
theorem Inv.pushStep (h : Inv w settled) (hw : w.Unsaturated) {drained : UInt32}
    {snapshot : WfpEventSnapshot} {event : NetworkEvent}
    (hpc : w.worker.pc = .pushing drained snapshot event) :
    Inv
      { w with
        shared := (w.worker.pushStep drained event w.shared).2
        worker := (w.worker.pushStep drained event w.shared).1 }
      (settled ++ [snapshot]) := by
  have hin : w.inFlight = [snapshot] := by
    simp [inFlight, hpc]
  have hout : w.unpushed = [event] := by
    simp [World.unpushed, hpc]
  have hnormalized := h.normalized
  rw [hout] at hnormalized
  have hlock : w.shared.events.lock = some w.shared.events.value := by
    simp [Mutex.lock, h.eventsHealthy]
  -- the event in hand is still the one the snapshot normalizes to
  have hevent : normalize snapshot = some event := by
    have hring := h.inRing
    rw [hin, hout] at hring
    cases hsnapshot : normalize snapshot with
    | none =>
        simp [hsnapshot] at hring
    | some event' =>
        simpa [hsnapshot] using hring
  have hsettled : (settled ++ [snapshot]).filterMap delivers =
      settled.filterMap delivers ++ [FlyDpiRuntimeEvent.ofEvent event] := by
    simp [delivers, hevent]
  simp only [IngestWorker.pushStep, hlock]
  exact
    { h with
      ringCapacity := (EventRing.capacity_push _ _).trans h.ringCapacity
      poppedEq := by
        rw [h.poppedEq, hin]
        exact (List.append_nil _).symm
      events := by
        rw [hsettled]
        change DropOldest.Accounts _ _ ((w.ring.push event).events.map FlyDpiRuntimeEvent.ofEvent)
          (w.ring.push event).dropped.toNat
        rw [EventRing.events_push, DropOldest.map_push,
          EventRing.toNat_dropped_push _ _ hw.ringDropped,
          ← DropOldest.evicted_map FlyDpiRuntimeEvent.ofEvent]
        exact h.events.push w.ring.capacity_pos (.ofEvent event)
      inRing := Or.inr rfl
      normalized := by
        rw [hsettled, List.length_append]
        exact hnormalized
      rejected := by
        rw [hsettled, List.length_append, List.length_append, h.rejected]
        exact Nat.add_right_comm _ _ _ }

theorem Inv.worker (h : Inv w settled) (hw : w.Unsaturated) {now : Instant}
    {worker : IngestWorker} {shared : Shared}
    (hstep : w.worker.step now w.shared = some (worker, shared)) :
    ∃ settled', Inv
      { w with
        shared := shared
        worker := worker
        popped := w.popped ++ w.poppedBy }
      settled' := by
  rcases IngestWorker.step_cases hstep with ⟨drained, hpc, hpop⟩ |
    ⟨drained, snapshot, hpc, hfeed⟩ | ⟨drained, snapshot, event, hpc, hpush⟩ | ⟨hrests, rfl⟩
  · have hinv := h.popStep hw hpc
    rw [hpop] at hinv
    exact ⟨settled, hinv⟩
  · have hinv := h.feedStep hw hpc now
    rw [hfeed] at hinv
    rw [poppedBy_of_not_popping (by simp [hpc]), List.append_nil]
    exact hinv
  · have hinv := h.pushStep hw hpc
    rw [hpush] at hinv
    rw [poppedBy_of_not_popping (by simp [hpc]), List.append_nil]
    exact ⟨_, hinv⟩
  · rw [poppedBy_of_not_popping hrests.notPopping, List.append_nil]
    have hin : w.inFlight = [] := inFlight_of_not hrests.notFeeding hrests.notPushing
    exact ⟨settled, h.idle hin hrests.notFeeding' hrests.notPushing' hrests.stats⟩

end Preservation

/-! ## Every interleaving -/

theorem Inv.step {w w' : World} {settled : List WfpEventSnapshot} {action : Action}
    (h : Inv w settled) (hw : w.Unsaturated) (hstep : Step w action w') :
    ∃ settled', Inv w' settled' := by
  cases hstep with
  | callback event _ =>
      exact ⟨settled, h.callback hw event⟩
  | countEvent _ _ =>
      exact ⟨settled, h.countEvent _⟩
  | worker hworker =>
      rcases h.worker hw hworker with ⟨settled', hinv⟩
      exact ⟨settled', hinv.withFed _⟩
  | poll hpoll =>
      rcases flydpiRuntimePoll_spec h.eventsHealthy hpoll with ⟨hwritten, rfl⟩
      rw [hwritten]
      exact ⟨settled, h.drained 1⟩
  | drain hdrain =>
      rcases flydpiRuntimeDrain_spec h.eventsHealthy hdrain with ⟨rfl, rfl⟩
      exact ⟨settled, h.drained _⟩
  | stop =>
      exact ⟨settled, h.stop⟩

theorem reachable_inv {w : World} (h : Reachable w) : ∃ settled, Inv w settled := by
  refine Runs.invariant (I := fun w => ∃ settled, Inv w settled) ?_ ⟨[], start_inv⟩ h
  intro w w' hinv hnext
  rcases hinv with ⟨settled, hinv⟩
  rcases hnext with ⟨hw, _, hstep⟩
  exact hinv.step hw hstep

/-- Nothing is lost unaccounted, duplicated or reordered between the callback and the consumers. -/
theorem pipeline_accounts {w : World} (h : Reachable w) :
    (w.observer.queue.length ≤ 4096 ∧ w.ring.len ≤ 4096) ∧
    w.callbacks.length =
      w.observer.queue.length + w.observer.dropped.toNat + w.popped.length ∧
    (¬ w.InCriticalStep →
      w.stats.snapshotsSeen.toNat =
        w.stats.eventsNormalized.toNat + w.stats.snapshotsRejected.toNat ∧
      w.stats.eventsNormalized.toNat =
        w.ring.len + w.ring.dropped.toNat + w.delivered.length) ∧
    ∃ taken : List FwpmNetEvent2, taken.Sublist w.callbacks ∧
      taken.map normalization = w.delivered.map some := by
  rcases reachable_inv h with ⟨settled, hinv⟩
  refine ⟨⟨hinv.queueLe, ?_⟩, ?_, ?_, ?_⟩
  · have hle := w.ring.length_le
    rw [hinv.ringCapacity] at hle
    exact hle
  · have hbalance := hinv.native.balance
    rw [List.length_map] at hbalance
    omega
  · intro hcritical
    have hin : w.inFlight = [] := not_not.1 hcritical
    have hout : w.unpushed = [] := unpushed_eq_nil hin
    have hpopped := hinv.poppedEq
    rw [hin, List.append_nil] at hpopped
    have hseen := hinv.seen
    have hnormalized := hinv.normalized
    have hrejected := hinv.rejected
    -- with nothing in flight, everything popped is settled
    have hbalance := hinv.events.balance
    rw [hpopped] at hseen
    rw [hout] at hnormalized
    rw [List.length_map] at hbalance
    simp only [EventRing.len, List.length_nil] at *
    omega
  · have hevents : w.delivered.Sublist (settled.filterMap delivers) := hinv.events.delivered
    have hsettled : settled.Sublist (w.callbacks.map buildSnapshot) := by
      have hpopped := hinv.native.delivered
      rw [hinv.poppedEq] at hpopped
      exact (List.sublist_append_left settled w.inFlight).trans hpopped
    -- delivered events come from settled snapshots, these from what the callback took
    have hall : w.delivered.Sublist (w.callbacks.filterMap normalization) := by
      have hmap := hevents.trans (hsettled.filterMap delivers)
      rw [List.filterMap_map] at hmap
      exact hmap
    exact DropOldest.exists_sublist_map_of_sublist_filterMap hall

/-- A record the bridge takes, its raw version being 4. -/
def acceptedRecord : FwpmNetEvent2 :=
  { header :=
      { timeStamp := { dwLowDateTime := 0, dwHighDateTime := 0x01da0000 }
        flags := 0x11f
        ipVersion := 4
        ipProtocol := 6
        localAddr := { byteArray16 := zeroPadded [] }
        remoteAddr := { byteArray16 := zeroPadded [] }
        localPort := 50000
        remotePort := 443
        appId := .null }
    type := 1 }

/-- One record goes from the callback through the worker and the ring to a consumer. -/
theorem pipeline_accounts_oneRecord :
    ∃ w : World, w.delivered.length = 1 ∧
      w.callbacks.length =
        w.observer.queue.length + w.observer.dropped.toNat + w.popped.length ∧
      ∃ taken : List FwpmNetEvent2, taken.Sublist w.callbacks ∧
        taken.map normalization = w.delivered.map some := by
  -- queue, loop head, pop, feed, push, poll
  have hstart : Reachable start := Relation.ReflTransGen.refl
  have hqueued := hstart.tail ⟨⟨by decide, by decide, by decide, by decide, by decide⟩, _,
    Step.callback acceptedRecord (by simp [ObserverOpen, start, IngestWorker.start])⟩
  have hlooped := hqueued.tail ⟨⟨by decide, by decide, by decide, by decide, by decide⟩, _,
    @Step.worker _ 0 _ _ rfl⟩
  have hpopped := hlooped.tail ⟨⟨by decide, by decide, by decide, by decide, by decide⟩, _,
    @Step.worker _ 0 _ _ rfl⟩
  have hfed := hpopped.tail ⟨⟨by decide, by decide, by decide, by decide, by decide⟩, _,
    @Step.worker _ 0 _ _ rfl⟩
  have hpushed := hfed.tail ⟨⟨by decide, by decide, by decide, by decide, by decide⟩, _,
    @Step.worker _ 0 _ _ rfl⟩
  have hpolled := hpushed.tail ⟨⟨by decide, by decide, by decide, by decide, by decide⟩, _,
    Step.poll rfl⟩
  exact ⟨_, rfl, (pipeline_accounts hpolled).2.1, (pipeline_accounts hpolled).2.2.2⟩

end World

end Core
end FlyDpi
