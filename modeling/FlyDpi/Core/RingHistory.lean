import FlyDpi.Core.Ring

/-!
# RingHistory — the event ring over whole runs

A run of the ring is a sequence of `push`, `drain` and `clear` calls on a new ring.  The ring tracks
a drop-oldest queue with its history, apart from the drop counter, which stops at its maximum.
-/

namespace FlyDpi
namespace Core

open Lib

/-- `take n` stands for `drain(n)`. -/
abbrev RingOp := DropOldest.Op NetworkEvent

/-- A ring and what its callers have seen: the events pushed, the result of each `drain`, and how
many events were in the ring when it was cleared. -/
structure RingHistory where
  ring : EventRing
  pushed : List NetworkEvent
  drains : List (List NetworkEvent)
  cleared : Nat

namespace RingHistory

def new (capacity : Nat) (capacity_pos : 0 < capacity) : RingHistory :=
  { ring := .new capacity capacity_pos
    pushed := []
    drains := []
    cleared := 0 }

def apply (h : RingHistory) : RingOp → RingHistory
  | .push event =>
      { h with
        ring := h.ring.push event
        pushed := h.pushed ++ [event] }
  | .take max =>
      { h with
        ring := (h.ring.drain max).2
        drains := h.drains ++ [(h.ring.drain max).1] }
  | .clear =>
      { h with
        ring := h.ring.clear
        cleared := h.cleared + h.ring.len }

def run (h : RingHistory) (ops : List RingOp) : RingHistory :=
  ops.foldl apply h

/-- The drained events, in the order in which they were returned. -/
def drained (h : RingHistory) : List NetworkEvent :=
  h.drains.flatten

/-- The ring and its history follow a queue of the given capacity. -/
structure Tracks (capacity : Nat) (h : RingHistory) (log : DropOldest.Log NetworkEvent) : Prop where
  capacity : h.ring.capacity = capacity
  events : h.ring.events = log.q
  dropped : h.ring.dropped.toNat = min log.lost (2 ^ 64 - 1)
  pushed : h.pushed = log.inp
  drained : h.drained = log.out
  cleared : h.cleared = log.cleared

end RingHistory

theorem EventRing.toNat_dropped_push_min (ring : EventRing) (event : NetworkEvent) :
    (ring.push event).dropped.toNat =
      min (ring.dropped.toNat + DropOldest.evicted ring.capacity ring.events) (2 ^ 64 - 1) := by
  have hlt : ring.dropped.toNat < 2 ^ 64 := ring.dropped.toNat_lt
  have hle := ring.length_le
  unfold EventRing.push DropOldest.evicted
  by_cases hfull : ring.events.length = ring.capacity
  · rw [dif_pos hfull, if_pos (by omega)]
    exact toNat_saturatingAdd ring.dropped 1
  · rw [dif_neg hfull, if_neg (by omega)]
    simp
    omega

namespace RingHistory

theorem Tracks.apply {capacity : Nat} {h : RingHistory} {log : DropOldest.Log NetworkEvent}
    (ht : Tracks capacity h log) (op : RingOp) :
    Tracks capacity (h.apply op) (log.step capacity op) := by
  have hcapacity := ht.capacity
  cases op with
  | push event =>
      refine { ht with capacity := ?_, events := ?_, dropped := ?_, pushed := ?_ }
      · rw [← hcapacity]
        exact EventRing.capacity_push h.ring event
      · rw [← hcapacity]
        simp [RingHistory.apply, DropOldest.Log.step, EventRing.events_push, ht.events]
      · -- saturating once more at the same maximum changes nothing
        have hpush := EventRing.toNat_dropped_push_min h.ring event
        rw [ht.dropped, ht.events, hcapacity] at hpush
        simp only [RingHistory.apply, DropOldest.Log.step, hpush]
        omega
      · simp [RingHistory.apply, DropOldest.Log.step, ht.pushed]
  | take max =>
      refine { ht with events := ?_, drained := ?_ }
      · simp [RingHistory.apply, DropOldest.Log.step, EventRing.events_drain, ht.events]
      · have hdrained : h.drains.flatten = log.out := ht.drained
        simp [RingHistory.apply, RingHistory.drained, DropOldest.Log.step, EventRing.fst_drain,
          ht.events, hdrained]
  | clear =>
      refine { ht with events := rfl, cleared := ?_ }
      simp [RingHistory.apply, DropOldest.Log.step, EventRing.len, ht.cleared, ht.events]

/-- Every run of the ring is a run of the queue. -/
theorem tracks_run (capacity : Nat) (capacity_pos : 0 < capacity) (ops : List RingOp) :
    Tracks capacity ((new capacity capacity_pos).run ops) (DropOldest.Log.run capacity ops) := by
  induction ops using List.reverseRecOn with
  | nil =>
      exact ⟨rfl, rfl, rfl, rfl, rfl, rfl⟩
  | append_singleton ops op ih =>
      rw [run, List.foldl_append, DropOldest.Log.run, List.foldl_append]
      exact ih.apply op

/-- The laws of a bounded first-in first-out ring after a run. -/
structure Fifo (capacity : Nat) (h : RingHistory) : Prop where
  bound : h.ring.len ≤ capacity
  recent : h.ring.events <:+ h.pushed
  /-- A push evicts only when the ring is full, and then the oldest event. -/
  push : ∀ event, (h.ring.push event).events =
    if h.ring.len = capacity then h.ring.events.tail ++ [event] else h.ring.events ++ [event]
  drain : ∀ max,
    (h.ring.drain max).1 = h.ring.events.take (min max h.ring.len) ∧
    (h.ring.drain max).2.events = h.ring.events.drop (min max h.ring.len)
  /-- No event is returned twice, and none overtakes another. -/
  order : (h.drained ++ h.ring.events).Sublist h.pushed
  balance : h.ring.dropped.toNat < 2 ^ 64 - 1 →
    h.pushed.length = h.drained.length + h.cleared + h.ring.dropped.toNat + h.ring.len
  /-- At its maximum the counter only says how many events were lost at least. -/
  saturated :
    h.drained.length + h.cleared + h.ring.dropped.toNat + h.ring.len ≤ h.pushed.length

/-- A ring is a bounded queue with exact overflow accounting, whatever its callers do. -/
theorem fifo_run (capacity : Nat) (capacity_pos : 0 < capacity) (ops : List RingOp) :
    Fifo capacity ((new capacity capacity_pos).run ops) := by
  have ht := tracks_run capacity capacity_pos ops
  have hsound := DropOldest.Log.sound_run capacity_pos ops
  generalize (new capacity capacity_pos).run ops = h at ht ⊢
  generalize DropOldest.Log.run capacity ops = log at ht hsound
  have hbalance := hsound.accounts.balance
  rw [← ht.events, ← ht.pushed, ← ht.drained, ← ht.cleared] at hbalance
  have hdropped := ht.dropped
  refine
    { bound := ?_
      recent := ?_
      push := ?_
      drain := ?_
      order := ?_
      balance := ?_
      saturated := ?_ }
  · rw [EventRing.len, ht.events]
    exact hsound.bound
  · rw [ht.events, ht.pushed]
    exact hsound.recent
  · intro event
    rw [EventRing.push, EventRing.len, ← ht.capacity]
    split
    · rfl
    · rfl
  · intro max
    exact ⟨rfl, rfl⟩
  · rw [ht.events, ht.pushed, ht.drained]
    exact hsound.accounts.order
  · intro hunsaturated
    unfold EventRing.len
    omega
  · unfold EventRing.len
    omega

def eventTo (remotePort : UInt16) : NetworkEvent :=
  { timestampUnixMs := 0
    kind := .packetObserved
    protocol := "tcp"
    remoteAddr := "1.1.1.1"
    remotePort := remotePort
    processId := none
    latencyMs := none
    errorCode := none }

/-- Three pushes into a ring of two, a drain of one and a clear. -/
theorem fifo_run_overflow :
    Fifo 2 ((new 2 (by decide)).run
      [.push (eventTo 1), .push (eventTo 2), .push (eventTo 3), .take 1, .clear]) :=
  fifo_run 2 (by decide) _

end RingHistory

end Core
end FlyDpi
