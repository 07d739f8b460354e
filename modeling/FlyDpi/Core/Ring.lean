import FlyDpi.Lib.DropOldest
import FlyDpi.Lib.Saturating
import FlyDpi.Core.Model

/-!
# Ring — the bounded diagnostic event ring

The model of `ring.rs`.  A ring carries its capacity and the proof that it does not hold more.
-/

namespace FlyDpi
namespace Core

open Lib

structure EventRing where
  capacity : Nat
  events : List NetworkEvent
  dropped : UInt64
  capacity_pos : 0 < capacity
  length_le : events.length ≤ capacity

namespace EventRing

/-- `new` asserts a positive capacity. -/
def new (capacity : Nat) (capacity_pos : 0 < capacity) : EventRing :=
  { capacity := capacity
    events := []
    dropped := 0
    capacity_pos := capacity_pos
    length_le := Nat.zero_le _ }

def len (ring : EventRing) : Nat :=
  ring.events.length

def push (ring : EventRing) (event : NetworkEvent) : EventRing :=
  if h : ring.events.length = ring.capacity then
    { ring with
      -- the oldest event makes room
      events := ring.events.tail ++ [event]
      dropped := saturatingAdd ring.dropped 1
      length_le := by
        have := ring.capacity_pos
        simp
        omega }
  else
    { ring with
      events := ring.events ++ [event]
      length_le := by
        have := ring.length_le
        simp
        omega }

/-- The events handed out and the ring afterwards. -/
def drain (ring : EventRing) (max : Nat) : List NetworkEvent × EventRing :=
  -- `max` may be larger than what is held
  let take := min max ring.events.length
  (ring.events.take take,
    { ring with
      events := ring.events.drop take
      length_le := by
        have := ring.length_le
        simp
        omega })

def clear (ring : EventRing) : EventRing :=
  { ring with
    events := []
    length_le := Nat.zero_le _ }

/-! ## What the operations do -/

variable (ring : EventRing) (event : NetworkEvent) (max : Nat)

@[simp] theorem capacity_push : (ring.push event).capacity = ring.capacity := by
  unfold push
  split <;> rfl

theorem events_push :
    (ring.push event).events = DropOldest.push ring.capacity ring.events event := by
  have hle := ring.length_le
  unfold push DropOldest.push
  by_cases hfull : ring.events.length = ring.capacity
  · rw [dif_pos hfull, if_pos (by omega)]
  · rw [dif_neg hfull, if_neg (by omega)]

theorem toNat_dropped_push (h : ring.dropped.toNat < 2 ^ 64 - 1) :
    (ring.push event).dropped.toNat =
      ring.dropped.toNat + DropOldest.evicted ring.capacity ring.events := by
  have hle := ring.length_le
  unfold push DropOldest.evicted
  by_cases hfull : ring.events.length = ring.capacity
  · rw [dif_pos hfull, if_pos (by omega)]
    exact toNat_saturatingAdd_one h
  · rw [dif_neg hfull, if_neg (by omega)]
    rfl

@[simp] theorem capacity_drain : (ring.drain max).2.capacity = ring.capacity := rfl

@[simp] theorem dropped_drain : (ring.drain max).2.dropped = ring.dropped := rfl

theorem fst_drain : (ring.drain max).1 = ring.events.take max := by
  simp only [drain, List.take_eq_take_iff]
  omega

theorem events_drain : (ring.drain max).2.events = ring.events.drop max := by
  simp only [drain]
  rcases Nat.le_total max ring.events.length with h | h
  · rw [Nat.min_eq_left h]
  · rw [Nat.min_eq_right h, List.drop_length, List.drop_eq_nil_of_le h]

theorem drain_zero : ring.drain 0 = ([], ring) := by
  simp [drain]

end EventRing

end Core
end FlyDpi
