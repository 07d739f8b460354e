import FlyDpi.Core.Ring
import FlyDpi.Core.WfpBridge

/-!
# Ingest — the worker that pumps snapshots into the datapath

The model of `ingest.rs`.  The worker loop is a program counter that moves from one access of shared
state to the next: the stop flag, the native queue, the datapath mutex and the ring mutex.  Its
counters are local, so they change together with the access before them.
-/

namespace FlyDpi
namespace Core

open Lib Native

/-- `std::sync::Mutex`, as the code uses it: a lock fails only when it is poisoned. -/
structure Mutex (α : Type) where
  poisoned : Bool
  value : α

namespace Mutex

variable {α : Type}

def new (value : α) : Mutex α :=
  { poisoned := false
    value := value }

def lock (m : Mutex α) : Option α :=
  if m.poisoned then none else some m.value

end Mutex

structure IngestStats where
  snapshotsSeen : UInt64
  eventsNormalized : UInt64
  snapshotsRejected : UInt64
  observerDropped : UInt64

def IngestStats.default : IngestStats :=
  { snapshotsSeen := 0
    eventsNormalized := 0
    snapshotsRejected := 0
    observerDropped := 0 }

/-- Where the worker loop stands.  `drained` is the counter of the inner loop. -/
inductive WorkerPc
  -- the head of the outer loop
  | checkStop
  | popping (drained : UInt32)
  | feeding (drained : UInt32) (snapshot : WfpEventSnapshot)
  | pushing (drained : UInt32) (snapshot : WfpEventSnapshot) (event : NetworkEvent)
  -- behind the inner loop
  | readDropped (drained : UInt32)
  -- nothing was drained
  | sleeping
  -- behind the outer loop
  | exiting
  | exited

structure IngestWorker where
  stop : Bool
  pc : WorkerPc
  stats : IngestStats

def IngestWorker.start : IngestWorker :=
  { stop := false
    pc := .checkStop
    stats := .default }

namespace WfpObserverBridge

/-- `pop` returns the snapshot when the native call succeeds. -/
def pop (observer : FlyDpiWfpObserver) : Option WfpEventSnapshot × FlyDpiWfpObserver :=
  let ((rc, written), observer') := flydpiWfpObserverPop (some observer) true
  (if rc = 0 then some (written.getD .zero) else none, observer'.getD observer)

def droppedCount (observer : FlyDpiWfpObserver) : UInt64 :=
  flydpiWfpObserverDroppedCount (some observer)

theorem pop_nil {observer : FlyDpiWfpObserver} (h : observer.queue = []) :
    pop observer = (none, observer) := by
  simp [pop, flydpiWfpObserverPop, h, ERROR_NOT_FOUND]

theorem pop_cons {observer : FlyDpiWfpObserver} {snapshot : WfpEventSnapshot}
    {queue : List WfpEventSnapshot} (h : observer.queue = snapshot :: queue) :
    pop observer = (some snapshot, { observer with queue := queue }) := by
  simp [pop, flydpiWfpObserverPop, h, ERROR_SUCCESS]

end WfpObserverBridge

/-- What the worker shares with the callback and the consumers. -/
structure Shared where
  observer : FlyDpiWfpObserver
  datapath : Mutex Datapath
  events : Mutex EventRing

namespace IngestWorker

def seen (stats : IngestStats) : IngestStats :=
  { stats with snapshotsSeen := saturatingAdd stats.snapshotsSeen 1 }

def normalized (stats : IngestStats) : IngestStats :=
  { stats with eventsNormalized := saturatingAdd stats.eventsNormalized 1 }

def rejected (stats : IngestStats) : IngestStats :=
  { stats with snapshotsRejected := saturatingAdd stats.snapshotsRejected 1 }

/-- `bridge.pop()` at the head of the inner loop. -/
def popStep (w : IngestWorker) (drained : UInt32) (s : Shared) : IngestWorker × Shared :=
  match WfpObserverBridge.pop s.observer with
  | (some snapshot, observer) =>
      ({ w with pc := .feeding (drained + 1) snapshot, stats := seen w.stats },
        { s with observer := observer })
  | (none, observer) => ({ w with pc := .readDropped drained }, { s with observer := observer })

/-- `feed_snapshot` under the datapath lock, and the counter of its outcome. -/
def feedStep (w : IngestWorker) (drained : UInt32) (snapshot : WfpEventSnapshot) (now : Instant)
    (s : Shared) : IngestWorker × Shared :=
  match s.datapath.lock with
  | some dp =>
      match feedSnapshot dp snapshot now with
      | (some event, dp) =>
          ({ w with pc := .pushing drained snapshot event, stats := normalized w.stats },
            { s with datapath := { s.datapath with value := dp } })
      | (none, dp) =>
          ({ w with pc := .popping drained, stats := rejected w.stats },
            { s with datapath := { s.datapath with value := dp } })
  -- a poisoned lock counts as a rejection
  | none => ({ w with pc := .popping drained, stats := rejected w.stats }, s)

/-- `ring.push(event)` under the ring lock. -/
def pushStep (w : IngestWorker) (drained : UInt32) (event : NetworkEvent) (s : Shared) :
    IngestWorker × Shared :=
  match s.events.lock with
  | some ring =>
      ({ w with pc := .popping drained },
        { s with events := { s.events with value := ring.push event } })
  -- a poisoned lock loses the event without a trace
  | none => ({ w with pc := .popping drained }, s)

/-- The counter read after the inner loop and at exit. -/
def readObserverDropped (w : IngestWorker) (s : Shared) : IngestStats :=
  { w.stats with observerDropped := WfpObserverBridge.droppedCount s.observer }

/-- One step of the worker thread; a worker that has left its loop takes none. -/
def step (w : IngestWorker) (now : Instant) (s : Shared) : Option (IngestWorker × Shared) :=
  match w.pc with
  | .checkStop => some ({ w with pc := if w.stop then .exiting else .popping 0 }, s)
  | .popping drained => some (w.popStep drained s)
  | .feeding drained snapshot => some (w.feedStep drained snapshot now s)
  | .pushing drained _ event => some (w.pushStep drained event s)
  | .readDropped drained =>
      some
        ({ w with
            pc := if drained = 0 then .sleeping else .checkStop
            stats := w.readObserverDropped s },
          s)
  | .sleeping => some ({ w with pc := .checkStop }, s)
  | .exiting => some ({ w with pc := .exited, stats := w.readObserverDropped s }, s)
  | .exited => none

/-- A step outside the pump: the worker holds no snapshot before or after it, and of the counters
only the copy of the observer's moves. -/
structure Rests (w w' : IngestWorker) : Prop where
  notPopping : ∀ drained, w.pc ≠ .popping drained
  notFeeding : ∀ drained snapshot, w.pc ≠ .feeding drained snapshot
  notPushing : ∀ drained snapshot event, w.pc ≠ .pushing drained snapshot event
  notFeeding' : ∀ drained snapshot, w'.pc ≠ .feeding drained snapshot
  notPushing' : ∀ drained snapshot event, w'.pc ≠ .pushing drained snapshot event
  stats : w'.stats = { w.stats with observerDropped := w'.stats.observerDropped }

/-- Everything a step of the worker can do. -/
theorem step_cases {w w' : IngestWorker} {now : Instant} {s s' : Shared}
    (h : w.step now s = some (w', s')) :
    (∃ drained, w.pc = .popping drained ∧ w.popStep drained s = (w', s')) ∨
    (∃ drained snapshot, w.pc = .feeding drained snapshot ∧
      w.feedStep drained snapshot now s = (w', s')) ∨
    (∃ drained snapshot event, w.pc = .pushing drained snapshot event ∧
      w.pushStep drained event s = (w', s')) ∨
    (w.Rests w' ∧ s' = s) := by
  cases hpc : w.pc with
  | popping drained =>
      simp only [step, hpc, Option.some.injEq] at h
      exact Or.inl ⟨drained, rfl, h⟩
  | feeding drained snapshot =>
      simp only [step, hpc, Option.some.injEq] at h
      exact Or.inr (Or.inl ⟨drained, snapshot, rfl, h⟩)
  | pushing drained snapshot event =>
      simp only [step, hpc, Option.some.injEq] at h
      exact Or.inr (Or.inr (Or.inl ⟨drained, snapshot, event, rfl, h⟩))
  | checkStop =>
      simp only [step, hpc, Option.some.injEq, Prod.mk.injEq] at h
      rcases h with ⟨rfl, rfl⟩
      refine Or.inr (Or.inr (Or.inr ⟨?_, rfl⟩))
      cases hstop : w.stop <;> constructor <;> simp [hpc]
  | readDropped drained =>
      simp only [step, hpc, Option.some.injEq, Prod.mk.injEq] at h
      rcases h with ⟨rfl, rfl⟩
      refine Or.inr (Or.inr (Or.inr ⟨?_, rfl⟩))
      -- a round that drained nothing sleeps, any other looks at the stop flag at once
      by_cases hd : drained = 0 <;> constructor <;> simp [hpc, hd, readObserverDropped]
  | sleeping =>
      simp only [step, hpc, Option.some.injEq, Prod.mk.injEq] at h
      rcases h with ⟨rfl, rfl⟩
      refine Or.inr (Or.inr (Or.inr ⟨?_, rfl⟩))
      constructor <;> simp [hpc]
  | exiting =>
      simp only [step, hpc, Option.some.injEq, Prod.mk.injEq] at h
      rcases h with ⟨rfl, rfl⟩
      refine Or.inr (Or.inr (Or.inr ⟨?_, rfl⟩))
      constructor <;> simp [hpc, readObserverDropped]
  | exited =>
      simp [step, hpc] at h

end IngestWorker

end Core
end FlyDpi
