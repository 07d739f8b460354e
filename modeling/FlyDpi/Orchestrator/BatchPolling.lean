import FlyDpi.Core.RingHistory
import FlyDpi.Orchestrator.Server

/-!
# BatchPolling — a batch of polls against one drain

`PollBatch` takes the events of the ring one by one.  While nobody pushes this is one drain; a
producer that pushes between the polls can only evict events that the batch then leaves out, and
cannot bring it out of order.
-/

namespace FlyDpi
namespace Orchestrator
namespace Server

open Lib FlyDpi.Core

/-- The loop of `PollBatch` for so many more events: those appended, and the ring afterwards. -/
def pollLoop : Nat → Mutex EventRing → List FlyDpiRuntimeEvent × Mutex EventRing
  | 0, ring => ([], ring)
  | wanted + 1, ring =>
      match poll ring with
      | (some event, ring') =>
          let rest := pollLoop wanted ring'
          (event :: rest.1, rest.2)
      | (none, ring') => ([], ring')

/-- `Runtime.PollBatch`. -/
def pollBatch (limit : Int) (ring : Mutex EventRing) :
    List FlyDpiRuntimeEvent × Mutex EventRing :=
  pollLoop (batchLimit limit) ring

/-! ## Without a push in between -/

theorem batchLimit_eq (limit : Int) : batchLimit limit = (min limit 256).toNat := by
  unfold batchLimit
  split_ifs <;> omega

theorem drain_drain (ring : EventRing) (m n : Nat) :
    ((ring.drain m).2.drain n).2 = (ring.drain (m + n)).2 := by
  have hevents : ((ring.drain m).2.drain n).2.events = (ring.drain (m + n)).2.events := by
    rw [EventRing.events_drain, EventRing.events_drain, EventRing.events_drain, List.drop_drop]
  simp only [EventRing.drain] at hevents ⊢
  congr 1

/-- The loop hands out what one drain does. -/
theorem pollLoop_eq {ring : Mutex EventRing} (h : ring.poisoned = false) (wanted : Nat) :
    pollLoop wanted ring =
      ((ring.value.drain wanted).1.map .ofEvent,
        { ring with value := (ring.value.drain wanted).2 }) := by
  induction wanted generalizing ring with
  | zero =>
      rw [EventRing.drain_zero]
      rfl
  | succ wanted ih =>
      rw [pollLoop, poll_eq h]
      cases hevents : ring.value.events with
      | nil =>
          -- an empty ring is drained by any number
          have hdrain : (ring.value.drain 1) = (ring.value.drain (wanted + 1)) := by
            simp [EventRing.drain, hevents]
          rw [← hdrain]
          simp [EventRing.fst_drain, hevents]
      | cons event rest =>
          have hrest := @ih { ring with value := (ring.value.drain 1).2 } h
          dsimp only [List.head?_cons, Option.map_some]
          rw [hrest, drain_drain, Nat.add_comm 1 wanted, EventRing.fst_drain, EventRing.fst_drain,
            EventRing.events_drain, hevents]
          rfl

theorem pollBatch_eq_drain {ring : Mutex EventRing} (h : ring.poisoned = false) (limit : Int) :
    flydpiRuntimeDrain (some ring) true (min limit 256).toNat =
      ((pollBatch limit ring).1, some (pollBatch limit ring).2) := by
  rw [pollBatch, pollLoop_eq h, batchLimit_eq, flydpiRuntimeDrain, lockAndDrain_eq h]
  split
  · rename_i hzero
    rw [hzero, EventRing.drain_zero]
    rfl
  · rfl

/-! ## With pushes in between -/

/-- A batch in progress, with its history.  The events that were in the ring when the batch began
and those pushed since are known by their position in `stream`. -/
structure BatchRun where
  ring : Mutex EventRing
  out : List FlyDpiRuntimeEvent
  stream : List NetworkEvent
  returned : List Nat
  evicted : List Nat

namespace BatchRun

def start (ring : Mutex EventRing) : BatchRun :=
  { ring := ring
    out := []
    stream := ring.value.events
    returned := []
    evicted := [] }

/-- The position of the oldest event in the ring. -/
def oldest (r : BatchRun) : Nat :=
  r.stream.length - r.ring.value.len

/-- A push by the worker; into a full ring it evicts the oldest event. -/
def push (r : BatchRun) (event : NetworkEvent) : BatchRun :=
  { r with
    ring := { r.ring with value := r.ring.value.push event }
    stream := r.stream ++ [event]
    evicted :=
      if r.ring.value.len = r.ring.value.capacity then r.evicted ++ [r.oldest] else r.evicted }

/-- The loop of `PollBatch`; `pushes k` are the events pushed before its `k`-th poll. -/
def loop (pushes : Nat → List NetworkEvent) : Nat → BatchRun → BatchRun
  | 0, r => r
  | wanted + 1, r =>
      let r := (pushes 0).foldl push r
      match poll r.ring with
      | (some event, ring') =>
          loop (fun k => pushes (k + 1)) wanted
            { r with
              ring := ring'
              out := r.out ++ [event]
              returned := r.returned ++ [r.oldest] }
      | (none, ring') => { r with ring := ring' }

end BatchRun

/-- `Runtime.PollBatch` while the worker pushes. -/
def pollBatchAmid (pushes : Nat → List NetworkEvent) (limit : Int) (ring : Mutex EventRing) :
    BatchRun :=
  (BatchRun.start ring).loop pushes (batchLimit limit)

/-! ### What a step does -/

/-- A poll that finds the ring empty leaves it as it is. -/
theorem poll_none_eq {ring ring' : Mutex EventRing} (h : ring.poisoned = false)
    (hpoll : poll ring = (none, ring')) : ring' = ring := by
  have hnil := (poll_none h hpoll).1
  rw [poll_eq h, Prod.mk.injEq] at hpoll
  rcases hpoll with ⟨_, rfl⟩
  have hdrain : (ring.value.drain 1).2 = ring.value := by
    rcases hring : ring.value with ⟨capacity, events, dropped, hpos, hle⟩
    rw [hring] at hnil
    subst hnil
    rfl
  rw [hdrain]

namespace BatchRun

/-- Without pushes the loop is that of `pollBatch`. -/
theorem loop_nil (wanted : Nat) (r : BatchRun) :
    (r.loop (fun _ => []) wanted).out = r.out ++ (pollLoop wanted r.ring).1 ∧
      (r.loop (fun _ => []) wanted).ring = (pollLoop wanted r.ring).2 := by
  induction wanted generalizing r with
  | zero =>
      simp [loop, pollLoop]
  | succ wanted ih =>
      rw [loop, pollLoop]
      dsimp only [List.foldl_nil]
      rcases poll r.ring with ⟨event, ring'⟩
      cases event with
      | none =>
          simp
      | some event =>
          simp [ih]

theorem pollBatchAmid_nil (limit : Int) (ring : Mutex EventRing) :
    (pollBatchAmid (fun _ => []) limit ring).out = (pollBatch limit ring).1 ∧
      (pollBatchAmid (fun _ => []) limit ring).ring = (pollBatch limit ring).2 :=
  loop_nil (batchLimit limit) (start ring)

variable {ring : Mutex EventRing}

/-- The ring holds the newest events of the stream; every older one was returned or evicted, and the
evictions are counted. -/
structure Sound (ring : Mutex EventRing) (r : BatchRun) : Prop where
  healthy : r.ring.poisoned = false
  held : r.ring.value.events = r.stream.drop r.oldest
  len_le : r.ring.value.len ≤ r.stream.length
  gone : (r.returned ++ r.evicted).Perm (List.range r.oldest)
  ordered : r.returned.Pairwise (· < ·)
  out_eq : r.out.map some = r.returned.map fun p => r.stream[p]?.map .ofEvent
  counted : r.ring.value.dropped.toNat =
    min (ring.value.dropped.toNat + r.evicted.length) (2 ^ 64 - 1)

theorem Sound.lt_oldest {r : BatchRun} (h : Sound ring r) {p : Nat} (hp : p ∈ r.returned) :
    p < r.oldest :=
  List.mem_range.1 (h.gone.subset (List.mem_append_left _ hp))

theorem start_sound (h : ring.poisoned = false) : Sound ring (start ring) where
  healthy := h
  held := by
    simp [start, oldest, EventRing.len]
  len_le := Nat.le_refl _
  gone := by
    simp [start, oldest, EventRing.len]
  ordered := List.Pairwise.nil
  out_eq := rfl
  counted := by
    have hlt := ring.value.dropped.toNat_lt
    simp [start]
    omega

/-- Where a push leaves the oldest event. -/
theorem oldest_push {r : BatchRun} (h : r.ring.value.len ≤ r.stream.length) (event : NetworkEvent) :
    (r.push event).oldest =
      r.oldest + DropOldest.evicted r.ring.value.capacity r.ring.value.events := by
  have hpos := r.ring.value.capacity_pos
  have hle := r.ring.value.length_le
  unfold EventRing.len at h
  unfold oldest push EventRing.len
  simp only [EventRing.events_push, DropOldest.push, DropOldest.evicted, List.length_append,
    List.length_singleton]
  split_ifs
  · rw [List.length_tail]
    omega
  · omega

theorem evicted_push (r : BatchRun) (event : NetworkEvent) :
    (r.push event).evicted =
      r.evicted ++
        List.replicate (DropOldest.evicted r.ring.value.capacity r.ring.value.events) r.oldest := by
  have hle := r.ring.value.length_le
  unfold push DropOldest.evicted EventRing.len
  by_cases hfull : r.ring.value.events.length = r.ring.value.capacity
  · simp [hfull]
  · rw [if_neg hfull, if_neg (by omega), List.replicate_zero, List.append_nil]

theorem Sound.push {r : BatchRun} (h : Sound ring r) (event : NetworkEvent) :
    Sound ring (r.push event) := by
  have holdest := oldest_push h.len_le event
  have hevicted := evicted_push r event
  have hle : r.ring.value.events.length ≤ r.stream.length := h.len_le
  have hcapacity := r.ring.value.length_le
  have hpos := r.ring.value.capacity_pos
  refine
    { healthy := h.healthy
      held := ?_
      len_le := ?_
      gone := ?_
      ordered := h.ordered
      out_eq := ?_
      counted := ?_ }
  · rw [holdest]
    change (r.ring.value.push event).events = (r.stream ++ [event]).drop _
    have hoff : r.oldest + DropOldest.evicted r.ring.value.capacity r.ring.value.events ≤
        r.stream.length := by
      unfold oldest DropOldest.evicted EventRing.len
      split_ifs
      · omega
      · omega
    rw [EventRing.events_push, DropOldest.push, List.drop_append_of_le_length hoff, ← List.drop_drop,
      ← h.held, DropOldest.evicted]
    split_ifs
    · rw [List.drop_one]
    · rfl
  · change (r.ring.value.push event).events.length ≤ (r.stream ++ [event]).length
    rw [EventRing.events_push, DropOldest.push, List.length_append, List.length_append]
    split_ifs
    · rw [List.length_tail]
      omega
    · omega
  · rw [holdest, hevicted, ← List.append_assoc]
    refine (h.gone.append_right _).trans ?_
    unfold DropOldest.evicted
    split_ifs
    · rw [List.range_succ]
      exact List.Perm.refl _
    · simp
  · -- what was returned lies before the end of the stream
    refine h.out_eq.trans (List.map_congr_left fun p hp => ?_)
    have hlt := h.lt_oldest hp
    have hoff : r.oldest ≤ r.stream.length := Nat.sub_le _ _
    change _ = ((r.stream ++ [event])[p]?).map _
    rw [List.getElem?_append_left (by omega)]
  · rw [hevicted, List.length_append, List.length_replicate]
    change (r.ring.value.push event).dropped.toNat = _
    rw [EventRing.toNat_dropped_push_min, h.counted]
    omega

theorem Sound.pushAll {r : BatchRun} (h : Sound ring r) (events : List NetworkEvent) :
    Sound ring (events.foldl BatchRun.push r) := by
  induction events generalizing r with
  | nil =>
      exact h
  | cons event events ih =>
      exact ih (h.push event)

/-- A poll that returns an event returns the oldest one. -/
theorem Sound.poll {r : BatchRun} (h : Sound ring r) {event : FlyDpiRuntimeEvent}
    {ring' : Mutex EventRing} (hpoll : Server.poll r.ring = (some event, ring')) :
    Sound ring
      { r with
        ring := ring'
        out := r.out ++ [event]
        returned := r.returned ++ [r.oldest] } := by
  rw [poll_eq h.healthy, Prod.mk.injEq] at hpoll
  rcases hpoll with ⟨hhead, rfl⟩
  rcases Option.map_eq_some_iff.1 hhead with ⟨e, he, rfl⟩
  have hle := h.len_le
  have hpos : 0 < r.ring.value.len := by
    cases hevents : r.ring.value.events with
    | nil =>
        simp [hevents] at he
    | cons first rest =>
        simp [EventRing.len, hevents]
  have hat : r.stream[r.oldest]? = some e := by
    rw [h.held, List.head?_drop] at he
    exact he
  have hoff : r.stream.length - (r.ring.value.drain 1).2.len = r.oldest + 1 := by
    unfold EventRing.len at hpos hle ⊢
    rw [EventRing.events_drain, List.length_drop, oldest, EventRing.len]
    omega
  refine
    { healthy := h.healthy
      held := ?_
      len_le := ?_
      gone := ?_
      ordered := ?_
      out_eq := ?_
      counted := h.counted }
  · change (r.ring.value.drain 1).2.events = r.stream.drop (r.stream.length - _)
    rw [hoff, EventRing.events_drain, h.held, List.drop_drop]
  · change (r.ring.value.drain 1).2.events.length ≤ r.stream.length
    rw [EventRing.events_drain, List.length_drop]
    exact Nat.le_trans (Nat.sub_le _ _) hle
  · change ((r.returned ++ [r.oldest]) ++ r.evicted).Perm (List.range (r.stream.length - _))
    rw [hoff, List.range_succ]
    refine List.Perm.trans ?_ (h.gone.append_right [r.oldest])
    rw [List.append_assoc, List.append_assoc]
    exact List.Perm.append_left _ List.perm_append_comm
  · refine List.pairwise_append.2 ⟨h.ordered, List.pairwise_singleton _ _, ?_⟩
    intro p hp q hq
    rw [List.mem_singleton.1 hq]
    exact h.lt_oldest hp
  · change (r.out ++ [_]).map some = (r.returned ++ [r.oldest]).map _
    rw [List.map_append, List.map_append, h.out_eq, List.map_singleton, List.map_singleton, hat]
    rfl

theorem Sound.loop {r : BatchRun} (h : Sound ring r) (pushes : Nat → List NetworkEvent)
    (wanted : Nat) : Sound ring (r.loop pushes wanted) := by
  induction wanted generalizing r pushes with
  | zero =>
      exact h
  | succ wanted ih =>
      have hpushed := h.pushAll (pushes 0)
      rw [BatchRun.loop]
      rcases hpoll : Server.poll ((pushes 0).foldl BatchRun.push r).ring with ⟨event, ring'⟩
      cases event with
      | some event =>
          exact ih (hpushed.poll hpoll) _
      | none =>
          rw [poll_none_eq hpushed.healthy hpoll]
          exact hpushed

/-- Each poll appends one event at most. -/
theorem length_out_loop (pushes : Nat → List NetworkEvent) (wanted : Nat) (r : BatchRun) :
    (r.loop pushes wanted).out.length ≤ r.out.length + wanted := by
  have hpushes : ∀ (events : List NetworkEvent) (r : BatchRun),
      (events.foldl push r).out = r.out := by
    intro events
    induction events with
    | nil =>
        intro r
        rfl
    | cons event events ih =>
        intro r
        exact ih (r.push event)
  induction wanted generalizing r pushes with
  | zero =>
      exact Nat.le_refl _
  | succ wanted ih =>
      rw [BatchRun.loop]
      rcases Server.poll ((pushes 0).foldl push r).ring with ⟨event, ring'⟩
      cases event with
      | none =>
          change ((pushes 0).foldl push r).out.length ≤ _
          rw [hpushes]
          omega
      | some event =>
          refine Nat.le_trans (ih _ _) ?_
          rw [List.length_append, List.length_singleton, hpushes]
          omega

/-- The stream consists of what was retained and what was pushed. -/
theorem stream_loop (pushes : Nat → List NetworkEvent) (wanted : Nat) (r : BatchRun) :
    ∃ k ≤ wanted, (r.loop pushes wanted).stream = r.stream ++ (List.range k).flatMap pushes := by
  have hpushes : ∀ (events : List NetworkEvent) (r : BatchRun),
      (events.foldl push r).stream = r.stream ++ events := by
    intro events
    induction events with
    | nil =>
        intro r
        exact (List.append_nil _).symm
    | cons event events ih =>
        intro r
        exact (ih (r.push event)).trans (List.append_cons _ _ _).symm
  induction wanted generalizing r pushes with
  | zero =>
      exact ⟨0, Nat.le_refl _, (List.append_nil _).symm⟩
  | succ wanted ih =>
      rw [BatchRun.loop]
      rcases Server.poll ((pushes 0).foldl push r).ring with ⟨event, ring'⟩
      cases event with
      | none =>
          refine ⟨1, Nat.succ_le_succ (Nat.zero_le _), ?_⟩
          change ((pushes 0).foldl push r).stream = _
          rw [hpushes, List.range_one, List.flatMap_singleton]
      | some event =>
          rcases ih (fun k => pushes (k + 1))
            { (pushes 0).foldl push r with
              ring := ring'
              out := ((pushes 0).foldl push r).out ++ [event]
              returned := ((pushes 0).foldl push r).returned ++
                [((pushes 0).foldl push r).oldest] } with ⟨k, hk, hstream⟩
          refine ⟨k + 1, Nat.succ_le_succ hk, hstream.trans ?_⟩
          change ((pushes 0).foldl push r).stream ++ _ = _
          rw [hpushes, List.append_assoc, List.range_succ_eq_map, List.flatMap_cons,
            List.flatMap_map]

/-- What a batch of at most `limit` events returns while the worker pushes. -/
structure InOrder (pushes : Nat → List NetworkEvent) (limit : Int) (ring : Mutex EventRing)
    (r : BatchRun) : Prop where
  stream : ∃ k ≤ batchLimit limit,
    r.stream = ring.value.events ++ (List.range k).flatMap pushes
  bounded : r.out.length ≤ (min limit 256).toNat
  /-- The events returned stand at increasing positions of the stream. -/
  ordered : r.returned.Pairwise (· < ·)
  out_eq : r.out.map some = r.returned.map fun p => r.stream[p]?.map .ofEvent
  /-- What was passed over was evicted, and counted. -/
  passedOver : ∀ q ∈ r.returned, ∀ p < q, p ∉ r.returned → p ∈ r.evicted
  nodup : r.evicted.Nodup
  counted : r.ring.value.dropped.toNat =
    min (ring.value.dropped.toNat + r.evicted.length) (2 ^ 64 - 1)

theorem inOrder (h : ring.poisoned = false) (pushes : Nat → List NetworkEvent) (limit : Int) :
    InOrder pushes limit ring (pollBatchAmid pushes limit ring) := by
  have hsound := (start_sound h).loop pushes (batchLimit limit)
  refine
    { stream := stream_loop pushes (batchLimit limit) (start ring)
      bounded := ?_
      ordered := hsound.ordered
      out_eq := hsound.out_eq
      passedOver := ?_
      nodup := ?_
      counted := hsound.counted }
  · rw [← batchLimit_eq]
    exact Nat.le_trans (length_out_loop pushes (batchLimit limit) (start ring))
      (Nat.le_of_eq (Nat.zero_add _))
  · intro q hq p hp hnot
    have hmem := hsound.gone.symm.subset
      (List.mem_range.2 (Nat.lt_trans hp (hsound.lt_oldest hq)))
    exact (List.mem_append.1 hmem).resolve_left hnot
  · exact (List.nodup_append.1 (hsound.gone.symm.nodup List.nodup_range)).2.1

end BatchRun

/-- A batch of polls returns what one drain returns, and leaves the same ring; with pushes between
its polls it stays in order, and passes over evicted events only. -/
theorem pollBatch_refines_drain (ring : Mutex EventRing) (h : ring.poisoned = false) (limit : Int) :
    flydpiRuntimeDrain (some ring) true (min limit 256).toNat =
      ((pollBatch limit ring).1, some (pollBatch limit ring).2) ∧
    ∀ pushes, BatchRun.InOrder pushes limit ring (pollBatchAmid pushes limit ring) :=
  ⟨pollBatch_eq_drain h limit, fun pushes => BatchRun.inOrder h pushes limit⟩

/-- A full ring of one event. -/
def fullRing : Mutex EventRing :=
  .new ((EventRing.new 1 (by decide)).push (RingHistory.eventTo 443))

theorem pollBatch_refines_drain_fullRing :
    flydpiRuntimeDrain (some fullRing) true (min (4 : Int) 256).toNat =
      ((pollBatch 4 fullRing).1, some (pollBatch 4 fullRing).2) ∧
    ∀ pushes, BatchRun.InOrder pushes 4 fullRing (pollBatchAmid pushes 4 fullRing) :=
  pollBatch_refines_drain fullRing rfl 4

end Server
end Orchestrator
end FlyDpi
