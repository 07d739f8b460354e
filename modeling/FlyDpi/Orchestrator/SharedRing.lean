import FlyDpi.Lib.Runs
import FlyDpi.Orchestrator.Server

/-!
# SharedRing — a diagnosis and telemetry polls on one ring

Both kinds of request take events out of the one ring of the runtime.  The manager's mutex keeps
their batches apart, but not the events: what a poll has taken before a diagnosis reads is missing in
its summary.  The worker pushes while batches run.
-/

namespace FlyDpi
namespace Orchestrator
namespace Server

open Lib FlyDpi.Core Diagnostic

/-- A `PollBatch` in progress. -/
structure Batch where
  limit : Nat
  out : List FlyDpiRuntimeEvent

/-- Who holds the mutex of the manager. -/
inductive Holder
  | nobody
  | client (batch : Batch)
  | diagnosis

/-- Where the one `diagnostic.run` request is. -/
inductive Diagnosis
  /-- In `engine.Run`, or waiting for the mutex. -/
  | waiting
  | reading (batch : Batch)
  | done (events : List Event)

structure World where
  runtime : RuntimeState
  ring : Mutex EventRing
  holder : Holder
  diagnosis : Diagnosis
  /-- Every event pushed so far. -/
  pushed : List NetworkEvent
  /-- Every event handed to a `telemetry.poll` so far. -/
  polled : List Event
  /-- For each ring poll of the diagnosis, how many events had been pushed by then. -/
  reads : List Nat
  /-- How many events the polls had taken when the diagnosis began to read. -/
  skipped : Nat

namespace World

def start (runtime : RuntimeState) : World :=
  { runtime := runtime
    ring := .new (.new 4096 (by decide))
    holder := .nobody
    diagnosis := .waiting
    pushed := []
    polled := []
    reads := []
    skipped := 0 }

/-- One step; `polls` says whether `telemetry.poll` requests are made.  Without a running runtime
such a request touches nothing and is left out. -/
inductive Step (polls : Bool) : World → World → Prop
  -- the worker pushes without the mutex of the manager; the ring does not overflow
  | push {w : World} (event : NetworkEvent) (hroom : w.ring.value.len < w.ring.value.capacity) :
      Step polls w
        { w with
          ring := { w.ring with value := w.ring.value.push event }
          pushed := w.pushed ++ [event] }
  | pollStart {w : World} (paramsLimit : Int) (hpolls : polls = true)
      (hruntime : w.runtime = .enabled) (hfree : w.holder = .nobody) :
      Step polls w
        { w with holder := .client { limit := batchLimit (telemetryLimit paramsLimit), out := [] } }
  | pollNext {w : World} {batch : Batch} {event : FlyDpiRuntimeEvent} {ring : Mutex EventRing}
      (hholder : w.holder = .client batch) (hmore : batch.out.length < batch.limit)
      (hpoll : poll w.ring = (some event, ring)) :
      Step polls w
        { w with
          ring := ring
          holder := .client { batch with out := batch.out ++ [event] }
          polled := w.polled ++ [convert event] }
  | pollEmpty {w : World} {batch : Batch} {ring : Mutex EventRing}
      (hholder : w.holder = .client batch) (hmore : batch.out.length < batch.limit)
      (hpoll : poll w.ring = (none, ring)) :
      Step polls w
        { w with
          ring := ring
          holder := .nobody }
  | pollFull {w : World} {batch : Batch} (hholder : w.holder = .client batch)
      (hfull : batch.limit ≤ batch.out.length) :
      Step polls w { w with holder := .nobody }
  | readNil {w : World} (hruntime : w.runtime ≠ .enabled) (hwaiting : w.diagnosis = .waiting) :
      Step polls w { w with diagnosis := .done [] }
  | readStart {w : World} (hruntime : w.runtime = .enabled) (hfree : w.holder = .nobody)
      (hwaiting : w.diagnosis = .waiting) :
      Step polls w
        { w with
          holder := .diagnosis
          diagnosis := .reading { limit := batchLimit diagnosticLimit, out := [] }
          skipped := w.polled.length }
  | readNext {w : World} {batch : Batch} {event : FlyDpiRuntimeEvent} {ring : Mutex EventRing}
      (hreading : w.diagnosis = .reading batch) (hmore : batch.out.length < batch.limit)
      (hpoll : poll w.ring = (some event, ring)) :
      Step polls w
        { w with
          ring := ring
          diagnosis := .reading { batch with out := batch.out ++ [event] }
          reads := w.reads ++ [w.pushed.length] }
  | readEmpty {w : World} {batch : Batch} {ring : Mutex EventRing}
      (hreading : w.diagnosis = .reading batch) (hmore : batch.out.length < batch.limit)
      (hpoll : poll w.ring = (none, ring)) :
      Step polls w
        { w with
          ring := ring
          holder := .nobody
          diagnosis := .done (batch.out.map convert)
          reads := w.reads ++ [w.pushed.length] }
  | readFull {w : World} {batch : Batch} (hreading : w.diagnosis = .reading batch)
      (hfull : batch.limit ≤ batch.out.length) :
      Step polls w
        { w with
          holder := .nobody
          diagnosis := .done (batch.out.map convert) }

def Reachable (runtime : RuntimeState) (polls : Bool) (w : World) : Prop :=
  Relation.ReflTransGen (Step polls) (start runtime) w

/-! ## The invariant -/

/-- The record a request gets for an event of the ring. -/
def record (event : NetworkEvent) : Event :=
  convert (.ofEvent event)

/-- The events the diagnosis has taken so far. -/
def taken (w : World) : List Event :=
  match w.diagnosis with
  | .waiting => []
  | .reading batch => batch.out.map convert
  | .done events => events

/-- `events` is the block of pushed events behind those skipped, and each was there when the
diagnosis polled for it. -/
structure Block (pushed : List NetworkEvent) (skipped : Nat) (reads : List Nat)
    (events : List Event) : Prop where
  events_eq : events = ((pushed.drop skipped).take events.length).map record
  length_le : skipped + events.length ≤ pushed.length
  found : ∀ j < events.length, ∃ r, reads[j]? = some r ∧ skipped + j < r
  bounded : events.length ≤ 128

/-- The diagnosis stopped because it had as many events as it asked for, or found the ring empty. -/
def Stopped (skipped : Nat) (reads : List Nat) (events : List Event) : Prop :=
  events.length = 128 ∨ ∃ r, reads[events.length]? = some r ∧ r ≤ skipped + events.length

/-- What the phase of the diagnosis says about its history. -/
def PhaseInv (w : World) : Diagnosis → Prop
  | .waiting => w.reads = [] ∧ w.skipped = 0
  | .reading batch =>
      w.runtime = .enabled ∧ batch.limit = 128 ∧ w.reads.length = batch.out.length ∧
        w.polled.length = w.skipped ∧ Block w.pushed w.skipped w.reads (batch.out.map convert)
  | .done events =>
      Block w.pushed w.skipped w.reads events ∧
        if w.runtime = .enabled then Stopped w.skipped w.reads events else events = []

structure Inv (w : World) : Prop where
  healthy : w.ring.poisoned = false
  /-- Nothing is lost: the ring holds what neither kind of request has taken. -/
  events : w.ring.value.events = w.pushed.drop (w.polled.length + w.taken.length)
  drained_le : w.polled.length + w.taken.length ≤ w.pushed.length
  holder : w.holder = .diagnosis ↔ ∃ batch, w.diagnosis = .reading batch
  phase : PhaseInv w w.diagnosis

theorem start_inv (runtime : RuntimeState) : Inv (start runtime) where
  healthy := rfl
  events := rfl
  drained_le := Nat.le_refl _
  holder := by
    simp [start]
  phase := ⟨rfl, rfl⟩

/-! ### Blocks -/

section Blocks

variable {pushed : List NetworkEvent} {skipped : Nat} {reads : List Nat} {events : List Event}

theorem Block.nil (reads : List Nat) (h : skipped ≤ pushed.length) :
    Block pushed skipped reads [] where
  events_eq := rfl
  length_le := h
  found := by
    simp
  bounded := by
    simp

/-- A push does not change the block behind the events skipped. -/
theorem Block.push (h : Block pushed skipped reads events) (event : NetworkEvent) :
    Block (pushed ++ [event]) skipped reads events := by
  have hle := h.length_le
  refine { h with events_eq := ?_, length_le := ?_ }
  · have hskipped : skipped ≤ pushed.length := by
      omega
    have hshort : events.length ≤ (pushed.drop skipped).length := by
      rw [List.length_drop]
      omega
    rw [List.drop_append_of_le_length hskipped, List.take_append_of_le_length hshort]
    exact h.events_eq
  · rw [List.length_append]
    omega

/-- The next event behind a block extends it. -/
theorem Block.next (h : Block pushed skipped reads events) {event : NetworkEvent}
    {rest : List NetworkEvent} (hnext : pushed.drop (skipped + events.length) = event :: rest)
    (hreads : reads.length = events.length) (hmore : events.length < 128) :
    Block pushed skipped (reads ++ [pushed.length]) (events ++ [record event]) := by
  have hlt : skipped + events.length < pushed.length := by
    have hne : pushed.drop (skipped + events.length) ≠ [] := by
      simp [hnext]
    simpa using hne
  have hget : (pushed.drop skipped)[events.length]? = some event := by
    rw [List.getElem?_drop, ← List.head?_drop, hnext]
    rfl
  refine { events_eq := ?_, length_le := ?_, found := ?_, bounded := ?_ }
  · rw [List.length_append, List.length_singleton, List.take_add_one, hget, List.map_append,
      ← h.events_eq]
    rfl
  · simp
    omega
  · intro j hj
    rw [List.length_append, List.length_singleton] at hj
    rcases Nat.lt_succ_iff_lt_or_eq.1 hj with hold | rfl
    · rcases h.found j hold with ⟨r, hr, hlt⟩
      refine ⟨r, ?_, hlt⟩
      rw [List.getElem?_append_left (by omega)]
      exact hr
    · -- the poll that found the event was made when all of `pushed` was there
      refine ⟨pushed.length, ?_, hlt⟩
      rw [← hreads]
      simp
  · simp
    omega

/-- The reads of a block are not disturbed by one more. -/
theorem Block.read (h : Block pushed skipped reads events) (hreads : reads.length = events.length)
    (r : Nat) : Block pushed skipped (reads ++ [r]) events := by
  refine { h with found := ?_ }
  intro j hj
  rcases h.found j hj with ⟨r', hr', hlt⟩
  refine ⟨r', ?_, hlt⟩
  rw [List.getElem?_append_left (by omega)]
  exact hr'

end Blocks

/-! ### One step -/

variable {w : World} {polls : Bool}

theorem Inv.push (h : Inv w) (event : NetworkEvent)
    (hroom : w.ring.value.len < w.ring.value.capacity) :
    Inv
      { w with
        ring := { w.ring with value := w.ring.value.push event }
        pushed := w.pushed ++ [event] } := by
  have hle := h.drained_le
  refine { h with events := ?_, drained_le := ?_, phase := ?_ }
  · have hpush : (w.ring.value.push event).events = w.ring.value.events ++ [event] := by
      rw [EventRing.events_push, DropOldest.push]
      exact congrArg (· ++ [event]) (if_neg (not_le.2 hroom))
    change (w.ring.value.push event).events = _
    rw [hpush, h.events]
    exact (List.drop_append_of_le_length hle).symm
  · exact hle.trans (by simp)
  · have hphase := h.phase
    dsimp only
    cases hdiagnosis : w.diagnosis with
    | waiting =>
        rw [hdiagnosis] at hphase
        exact hphase
    | reading batch =>
        rw [hdiagnosis] at hphase
        rcases hphase with ⟨hruntime, hlimit, hreads, hpolled, hblock⟩
        exact ⟨hruntime, hlimit, hreads, hpolled, hblock.push event⟩
    | done events =>
        rw [hdiagnosis] at hphase
        exact ⟨hphase.1.push event, hphase.2⟩

/-- A client holds the mutex only while the diagnosis does not read. -/
theorem Inv.not_reading (h : Inv w) (hholder : w.holder ≠ .diagnosis) (batch : Batch) :
    w.diagnosis ≠ .reading batch := by
  intro hreading
  exact hholder (h.holder.2 ⟨batch, hreading⟩)

/-- What a client does under the mutex does not concern the phase of the diagnosis. -/
theorem Inv.phase_of_client (h : Inv w) (hholder : w.holder ≠ .diagnosis)
    (ring : Mutex EventRing) (holder : Holder) (polled : List Event) :
    PhaseInv { w with ring := ring, holder := holder, polled := polled } w.diagnosis := by
  have hphase := h.phase
  cases hdiagnosis : w.diagnosis with
  | waiting =>
      rw [hdiagnosis] at hphase
      exact hphase
  | reading batch =>
      exact absurd hdiagnosis (h.not_reading hholder batch)
  | done events =>
      rw [hdiagnosis] at hphase
      exact hphase

theorem Inv.holder_of_client (h : Inv w) (hholder : w.holder ≠ .diagnosis) {holder : Holder}
    (hnew : holder ≠ .diagnosis) : holder = .diagnosis ↔ ∃ batch, w.diagnosis = .reading batch := by
  constructor
  · intro hdiagnosis
    exact absurd hdiagnosis hnew
  · rintro ⟨batch, hreading⟩
    exact absurd hreading (h.not_reading hholder batch)

theorem drop_succ_of_cons {xs rest : List NetworkEvent} {d : Nat} {x : NetworkEvent}
    (h : xs.drop d = x :: rest) : xs.drop (d + 1) = rest ∧ d < xs.length := by
  constructor
  · rw [← List.tail_drop, h]
    rfl
  · have hne : xs.drop d ≠ [] := by
      simp [h]
    simpa using hne

theorem Inv.pollNext (h : Inv w) {batch : Batch} {event : FlyDpiRuntimeEvent}
    {ring : Mutex EventRing} (hholder : w.holder = .client batch)
    (hpoll : poll w.ring = (some event, ring)) :
    Inv
      { w with
        ring := ring
        holder := .client { batch with out := batch.out ++ [event] }
        polled := w.polled ++ [convert event] } := by
  have hclient : w.holder ≠ .diagnosis := by
    simp [hholder]
  rcases poll_some h.healthy hpoll with ⟨e, _, hevents, hhealthy⟩
  rw [h.events] at hevents
  rcases drop_succ_of_cons hevents with ⟨hrest, hlt⟩
  refine
    { h with
      healthy := hhealthy
      events := ?_
      drained_le := ?_
      holder := h.holder_of_client hclient (by simp)
      phase := h.phase_of_client hclient _ _ _ }
  · change ring.value.events = w.pushed.drop ((w.polled ++ [convert event]).length + w.taken.length)
    rw [← hrest, List.length_append, List.length_singleton, Nat.add_right_comm]
  · change (w.polled ++ [convert event]).length + w.taken.length ≤ w.pushed.length
    rw [List.length_append, List.length_singleton, Nat.add_right_comm]
    exact hlt

theorem Inv.pollEmpty (h : Inv w) {batch : Batch} {ring : Mutex EventRing}
    (hholder : w.holder = .client batch) (hpoll : poll w.ring = (none, ring)) :
    Inv
      { w with
        ring := ring
        holder := .nobody } := by
  have hclient : w.holder ≠ .diagnosis := by
    simp [hholder]
  rcases poll_none h.healthy hpoll with ⟨hempty, hempty', hhealthy⟩
  refine
    { h with
      healthy := hhealthy
      events := ?_
      holder := h.holder_of_client hclient (by simp)
      phase := h.phase_of_client hclient _ _ _ }
  change ring.value.events = w.pushed.drop (w.polled.length + w.taken.length)
  rw [← h.events, hempty, hempty']

/-- A client that takes the mutex or gives it back changes nothing else. -/
theorem Inv.handOver (h : Inv w) (hclient : w.holder ≠ .diagnosis) {holder : Holder}
    (hnew : holder ≠ .diagnosis) : Inv { w with holder := holder } :=
  { h with
    holder := h.holder_of_client hclient hnew
    phase := h.phase_of_client hclient w.ring holder w.polled }

theorem Inv.taken_of_waiting (hwaiting : w.diagnosis = .waiting) : w.taken = [] := by
  rw [taken, hwaiting]

/-- What the ring holds when the diagnosis has taken `events`. -/
theorem Inv.ring_of_taken (h : Inv w) {events : List Event} (htaken : w.taken = events) :
    w.ring.value.events = w.pushed.drop (w.polled.length + events.length) ∧
      w.polled.length + events.length ≤ w.pushed.length := by
  rw [← htaken]
  exact ⟨h.events, h.drained_le⟩

theorem Inv.readNil (h : Inv w) (hruntime : w.runtime ≠ .enabled)
    (hwaiting : w.diagnosis = .waiting) : Inv { w with diagnosis := .done [] } := by
  rcases h.ring_of_taken (Inv.taken_of_waiting hwaiting) with ⟨hevents, hle⟩
  have hphase := h.phase
  rw [hwaiting] at hphase
  refine
    { h with
      events := hevents
      drained_le := hle
      holder := ?_
      phase := ⟨Block.nil w.reads ?_, ?_⟩ }
  · rw [h.holder, hwaiting]
    simp
  · rw [hphase.2]
    exact Nat.zero_le _
  · rw [if_neg hruntime]

theorem Inv.readStart (h : Inv w) (hruntime : w.runtime = .enabled)
    (hwaiting : w.diagnosis = .waiting) :
    Inv
      { w with
        holder := .diagnosis
        diagnosis := .reading { limit := batchLimit diagnosticLimit, out := [] }
        skipped := w.polled.length } := by
  rcases h.ring_of_taken (Inv.taken_of_waiting hwaiting) with ⟨hevents, hle⟩
  have hphase := h.phase
  rw [hwaiting] at hphase
  refine
    { h with
      events := hevents
      drained_le := hle
      holder := ?_
      phase := ⟨hruntime, batchLimit_diagnosticLimit, ?_, rfl, Block.nil w.reads hle⟩ }
  · simp
  · simp [hphase.1]

/-- What is known while the diagnosis reads. -/
theorem Inv.reading (h : Inv w) {batch : Batch} (hreading : w.diagnosis = .reading batch) :
    w.taken = batch.out.map convert ∧ w.runtime = .enabled ∧ batch.limit = 128 ∧
      w.reads.length = batch.out.length ∧ w.polled.length = w.skipped ∧
      Block w.pushed w.skipped w.reads (batch.out.map convert) := by
  have hphase := h.phase
  rw [hreading] at hphase
  refine ⟨?_, hphase⟩
  rw [taken, hreading]

theorem Inv.readNext (h : Inv w) {batch : Batch} {event : FlyDpiRuntimeEvent}
    {ring : Mutex EventRing} (hreading : w.diagnosis = .reading batch)
    (hmore : batch.out.length < batch.limit) (hpoll : poll w.ring = (some event, ring)) :
    Inv
      { w with
        ring := ring
        diagnosis := .reading { batch with out := batch.out ++ [event] }
        reads := w.reads ++ [w.pushed.length] } := by
  rcases h.reading hreading with ⟨htaken, hruntime, hlimit, hreads, hpolled, hblock⟩
  rcases poll_some h.healthy hpoll with ⟨e, rfl, hevents, hhealthy⟩
  rw [h.events, htaken] at hevents
  rcases drop_succ_of_cons hevents with ⟨hrest, hlt⟩
  rw [List.length_map] at hrest hlt
  rw [hpolled] at hevents
  have hnext : Block w.pushed w.skipped (w.reads ++ [w.pushed.length])
      (batch.out.map convert ++ [record e]) := by
    refine hblock.next hevents ?_ ?_
    · rw [List.length_map]
      exact hreads
    · rw [List.length_map, ← hlimit]
      exact hmore
  have hmap : (batch.out ++ [FlyDpiRuntimeEvent.ofEvent e]).map convert =
      batch.out.map convert ++ [record e] := by
    simp [record]
  refine
    { healthy := hhealthy
      events := ?_
      drained_le := ?_
      holder := ?_
      phase := ?_ }
  · change ring.value.events = w.pushed.drop
      (w.polled.length + ((batch.out ++ [FlyDpiRuntimeEvent.ofEvent e]).map convert).length)
    rw [hmap, List.length_append, List.length_map, List.length_singleton, ← Nat.add_assoc, hrest]
  · change w.polled.length + ((batch.out ++ [FlyDpiRuntimeEvent.ofEvent e]).map convert).length ≤
      w.pushed.length
    rw [hmap, List.length_append, List.length_map, List.length_singleton, ← Nat.add_assoc]
    exact hlt
  · simp [h.holder, hreading]
  · refine ⟨hruntime, hlimit, ?_, hpolled, ?_⟩
    · simp [hreads]
    · dsimp only
      rw [hmap]
      exact hnext

theorem Inv.readEmpty (h : Inv w) {batch : Batch} {ring : Mutex EventRing}
    (hreading : w.diagnosis = .reading batch) (hpoll : poll w.ring = (none, ring)) :
    Inv
      { w with
        ring := ring
        holder := .nobody
        diagnosis := .done (batch.out.map convert)
        reads := w.reads ++ [w.pushed.length] } := by
  rcases h.reading hreading with ⟨htaken, hruntime, _, hreads, hpolled, hblock⟩
  rcases poll_none h.healthy hpoll with ⟨hempty, hempty', hhealthy⟩
  rcases h.ring_of_taken htaken with ⟨hevents, hle⟩
  have hreads' : w.reads.length = (batch.out.map convert).length := by
    rw [List.length_map]
    exact hreads
  refine
    { healthy := hhealthy
      events := ?_
      drained_le := hle
      holder := ?_
      phase := ⟨hblock.read hreads' _, ?_⟩ }
  · change ring.value.events = _
    rw [hempty', ← hempty]
    exact hevents
  · simp
  · rw [if_pos hruntime]
    -- the ring was empty: everything pushed had been taken
    refine Or.inr ⟨w.pushed.length, ?_, ?_⟩
    · dsimp only
      rw [← hreads']
      simp
    · have hdrop : w.pushed.drop (w.polled.length + (batch.out.map convert).length) = [] := by
        rw [← hevents, hempty]
      rw [hpolled] at hdrop
      exact List.drop_eq_nil_iff.1 hdrop

theorem Inv.readFull (h : Inv w) {batch : Batch} (hreading : w.diagnosis = .reading batch)
    (hfull : batch.limit ≤ batch.out.length) :
    Inv
      { w with
        holder := .nobody
        diagnosis := .done (batch.out.map convert) } := by
  rcases h.reading hreading with ⟨htaken, hruntime, hlimit, _, _, hblock⟩
  rcases h.ring_of_taken htaken with ⟨hevents, hle⟩
  refine
    { healthy := h.healthy
      events := hevents
      drained_le := hle
      holder := ?_
      phase := ⟨hblock, ?_⟩ }
  · simp
  · rw [if_pos hruntime]
    left
    have hbounded := hblock.bounded
    rw [List.length_map] at hbounded ⊢
    omega

theorem Inv.step {w' : World} (h : Inv w) (hstep : Step polls w w') : Inv w' := by
  cases hstep with
  | push event hroom =>
      exact h.push event hroom
  | pollStart _ _ _ hfree =>
      exact h.handOver (by simp [hfree]) (by simp)
  | pollNext hholder _ hpoll =>
      exact h.pollNext hholder hpoll
  | pollEmpty hholder _ hpoll =>
      exact h.pollEmpty hholder hpoll
  | pollFull hholder _ =>
      exact h.handOver (by simp [hholder]) (by simp)
  | readNil hruntime hwaiting =>
      exact h.readNil hruntime hwaiting
  | readStart hruntime _ hwaiting =>
      exact h.readStart hruntime hwaiting
  | readNext hreading hmore hpoll =>
      exact h.readNext hreading hmore hpoll
  | readEmpty hreading _ hpoll =>
      exact h.readEmpty hreading hpoll
  | readFull hreading hfull =>
      exact h.readFull hreading hfull

theorem inv_of_reachable {runtime : RuntimeState} (h : Reachable runtime polls w) : Inv w :=
  Runs.invariant (fun _ _ hw hstep => hw.step hstep) (start_inv runtime) h

/-! ## Two runs -/

theorem runtime_of_reachable {runtime : RuntimeState} (h : Reachable runtime polls w) :
    w.runtime = runtime := by
  refine Runs.invariant (I := fun w => w.runtime = runtime) ?_ rfl h
  intro w w' hw hstep
  cases hstep <;> exact hw

/-- Nothing is polled in a run without `telemetry.poll` requests. -/
structure Quiet (w : World) : Prop where
  polled : w.polled = []
  skipped : w.skipped = 0
  holder : ∀ batch, w.holder ≠ .client batch

theorem Quiet.step {w' : World} (h : Quiet w) (hstep : Step false w w') : Quiet w' := by
  cases hstep with
  | push event hroom =>
      exact ⟨h.polled, h.skipped, h.holder⟩
  | pollStart _ hpolls _ _ =>
      cases hpolls
  | pollNext hholder _ _ =>
      exact absurd hholder (h.holder _)
  | pollEmpty hholder _ _ =>
      exact absurd hholder (h.holder _)
  | pollFull hholder _ =>
      exact absurd hholder (h.holder _)
  | readNil _ _ =>
      exact ⟨h.polled, h.skipped, h.holder⟩
  | readStart _ _ _ =>
      exact ⟨h.polled, by simp [h.polled], by simp⟩
  | readNext _ _ _ =>
      exact ⟨h.polled, h.skipped, h.holder⟩
  | readEmpty _ _ _ =>
      exact ⟨h.polled, h.skipped, by simp⟩
  | readFull _ _ =>
      exact ⟨h.polled, h.skipped, by simp⟩

theorem quiet_of_reachable {runtime : RuntimeState} (h : Reachable runtime false w) : Quiet w := by
  refine Runs.invariant (fun _ _ hw hstep => hw.step hstep) ?_ h
  exact ⟨rfl, rfl, by simp [start]⟩

/-- The diagnosis made its `j`-th ring poll after `f j` pushes. -/
def Timed (w : World) (f : Nat → Nat) : Prop :=
  ∀ j r, w.reads[j]? = some r → r = f j

/-- What the diagnosis took, once it is done. -/
structure Took (w : World) (events : List Event) : Prop where
  block : Block w.pushed w.skipped w.reads events
  stopped : w.runtime = .enabled → Stopped w.skipped w.reads events
  disabled : w.runtime ≠ .enabled → events = []

theorem Inv.took (h : Inv w) {events : List Event} (hdone : w.diagnosis = .done events) :
    Took w events := by
  have hphase := h.phase
  rw [hdone] at hphase
  rcases hphase with ⟨hblock, hend⟩
  refine ⟨hblock, ?_, ?_⟩
  · intro hruntime
    rw [if_pos hruntime] at hend
    exact hend
  · intro hruntime
    rw [if_neg hruntime] at hend
    exact hend

/-- From the same start and with the same timing, a diagnosis cannot take fewer events. -/
theorem Took.length_le {w' : World} {f : Nat → Nat} {events events' : List Event}
    (h : Took w events) (h' : Took w' events') (hruntime : w.runtime = .enabled)
    (ht : Timed w f) (ht' : Timed w' f) (hskipped : w.skipped = w'.skipped) :
    events'.length ≤ events.length := by
  by_contra hmore
  rw [not_le] at hmore
  have hbounded := h'.block.bounded
  -- where the one stopped, the other found an event
  rcases h'.block.found events.length hmore with ⟨r', hr', hfound⟩
  rcases h.stopped hruntime with hfull | ⟨r, hr, hempty⟩
  · omega
  · rw [ht _ r hr] at hempty
    rw [ht' _ r' hr'] at hfound
    omega

/-- Two diagnoses that skip as many events and poll at the same times take the same events. -/
theorem Took.events_eq {w' : World} {f : Nat → Nat} {events events' : List Event}
    (h : Took w events) (h' : Took w' events') (hruntime : w.runtime = w'.runtime)
    (ht : Timed w f) (ht' : Timed w' f) (hpushed : w.pushed = w'.pushed)
    (hskipped : w.skipped = w'.skipped) : events = events' := by
  by_cases henabled : w.runtime = .enabled
  · have henabled' : w'.runtime = .enabled := by
      rw [← hruntime]
      exact henabled
    have hlength : events.length = events'.length :=
      Nat.le_antisymm (h'.length_le h henabled' ht' ht hskipped.symm)
        (h.length_le h' henabled ht ht' hskipped)
    rw [h.block.events_eq, h'.block.events_eq, hlength, hpushed, hskipped]
  · have hdisabled' : w'.runtime ≠ .enabled := by
      rw [← hruntime]
      exact henabled
    rw [h.disabled henabled, h'.disabled hdisabled']

/-- The status of the WFP stage depends on the runtime alone. -/
theorem wfpStatus_eq {runtime : RuntimeState} {w' : World} {events events' : List Event}
    (h : Took w events) (h' : Took w' events') (hw : w.runtime = runtime)
    (hw' : w'.runtime = runtime) (report : DiagnosticReport) :
    (correlate runtime events report).stages.wfp.status =
      (correlate runtime events' report).stages.wfp.status := by
  by_cases hruntime : runtime = .enabled
  · subst hruntime
    rw [wfpStatus_correlate_enabled, wfpStatus_correlate_enabled]
  · rw [h.disabled (by rw [hw]; exact hruntime), h'.disabled (by rw [hw']; exact hruntime)]

/-- Two runs with the same pushes in which the diagnosis polls the ring at the same times, one of
them without `telemetry.poll` requests: the status of the WFP stage is the same, the summary counts
the block of events behind those that the polls had taken before, and it is the same as without polls
if they had taken none. -/
theorem diagnosis_under_polls {runtime : RuntimeState} {w w' : World} {f : Nat → Nat}
    {events events' : List Event} (hw : Reachable runtime true w)
    (hw' : Reachable runtime false w') (hpushed : w.pushed = w'.pushed) (ht : Timed w f)
    (ht' : Timed w' f) (hdone : w.diagnosis = .done events) (hdone' : w'.diagnosis = .done events')
    (report : DiagnosticReport) :
    (correlate runtime events report).stages.wfp.status =
      (correlate runtime events' report).stages.wfp.status ∧
    events = ((w.pushed.drop w.skipped).take events.length).map record ∧
    events' = (w'.pushed.take events'.length).map record ∧
    (w.skipped = 0 →
      (correlate runtime events report).wfpEvents =
        (correlate runtime events' report).wfpEvents) := by
  have htook := (inv_of_reachable hw).took hdone
  have htook' := (inv_of_reachable hw').took hdone'
  have hruntime := runtime_of_reachable hw
  have hruntime' := runtime_of_reachable hw'
  have hquiet := (quiet_of_reachable hw').skipped
  refine ⟨wfpStatus_eq htook htook' hruntime hruntime' report, htook.block.events_eq, ?_, ?_⟩
  · have hblock := htook'.block.events_eq
    rw [hquiet, List.drop_zero] at hblock
    exact hblock
  · intro hskipped
    have hsame : w.skipped = w'.skipped := by
      rw [hskipped, hquiet]
    rw [htook.events_eq htook' (hruntime.trans hruntime'.symm) ht ht' hpushed hsame]

/-! ## One event and one poll -/

/-- Nothing answers. -/
def offline : Environment :=
  { system := fun _ _ => .error (lit "no such host")
    doh := fun _ _ => .error (lit "connection refused")
    nets := fun _ =>
      { dial := fun _ _ => .error (lit "connection refused")
        handshake := fun _ _ => none }
    started := .zero
    finished := .zero }

def offlineReport : DiagnosticReport :=
  (newEngine { targets := [], port := [], timeout := 0, concurrency := 0 }).run offline

def observedEvent : NetworkEvent :=
  { timestampUnixMs := 0
    kind := .packetObserved
    protocol := "tcp"
    remoteAddr := "1.1.1.1"
    remotePort := 443
    processId := none
    latencyMs := none
    errorCode := none }

/-- A run without polls, in which the diagnosis reads the event. -/
theorem unpolledRun : ∃ w, Reachable .enabled false w ∧ w.pushed = [observedEvent] ∧
    w.reads = [1, 1] ∧ w.diagnosis = .done [record observedEvent] := by
  have hstart : Reachable .enabled false (start .enabled) := .refl
  have hpush := hstart.tail (.push observedEvent (by decide))
  have hread := hpush.tail (.readStart rfl rfl rfl)
  have hnext := hread.tail (.readNext rfl (by decide) rfl)
  have hend := hnext.tail (.readEmpty rfl (by decide) rfl)
  exact ⟨_, hend, rfl, rfl, rfl⟩

/-- The same run with a poll that comes first. -/
theorem polledRun : ∃ w, Reachable .enabled true w ∧ w.pushed = [observedEvent] ∧
    w.reads = [1] ∧ w.diagnosis = .done [] := by
  have hstart : Reachable .enabled true (start .enabled) := .refl
  have hpush := hstart.tail (.push observedEvent (by decide))
  have hpoll := hpush.tail (.pollStart 1 rfl rfl rfl)
  have htake := hpoll.tail (.pollNext rfl (by decide) rfl)
  have hfree := htake.tail (.pollFull rfl (by decide))
  have hread := hfree.tail (.readStart rfl rfl rfl)
  have hend := hread.tail (.readEmpty rfl (by decide) rfl)
  exact ⟨_, hend, rfl, rfl, rfl⟩

theorem timed_of_forall {w : World} {r : Nat} (h : ∀ r' ∈ w.reads, r' = r) : Timed w fun _ => r :=
  fun _ _ hr => h _ (List.mem_of_getElem? hr)

theorem diagnosis_under_polls_oneEvent :
    ∃ w w' : World, w.pushed = w'.pushed ∧
      (correlate .enabled [] offlineReport).stages.wfp.status =
        (correlate .enabled [record observedEvent] offlineReport).stages.wfp.status ∧
      ([] : List Event) = ((w.pushed.drop w.skipped).take 0).map record ∧
      [record observedEvent] = (w'.pushed.take 1).map record ∧
      (w.skipped = 0 →
        (correlate .enabled [] offlineReport).wfpEvents =
          (correlate .enabled [record observedEvent] offlineReport).wfpEvents) := by
  rcases polledRun with ⟨w, hw, hpushed, hreads, hdone⟩
  rcases unpolledRun with ⟨w', hw', hpushed', hreads', hdone'⟩
  have hsame : w.pushed = w'.pushed := hpushed.trans hpushed'.symm
  have ht : Timed w fun _ => 1 := timed_of_forall (by simp [hreads])
  have ht' : Timed w' fun _ => 1 := timed_of_forall (by simp [hreads'])
  exact ⟨w, w', hsame, diagnosis_under_polls hw hw' hsame ht ht' hdone hdone' offlineReport⟩

theorem poll_changes_summary :
    ¬ ∀ (runtime : RuntimeState) (w w' : World) (f : Nat → Nat) (events events' : List Event)
      (report : DiagnosticReport), Reachable runtime true w → Reachable runtime false w' →
        w.pushed = w'.pushed → Timed w f → Timed w' f → w.diagnosis = .done events →
          w'.diagnosis = .done events' →
            (correlate runtime events report).wfpEvents =
                (correlate runtime events' report).wfpEvents ∧
              (correlate runtime events report).stages.wfp.status =
                (correlate runtime events' report).stages.wfp.status := by
  intro h
  rcases polledRun with ⟨w, hw, hpushed, hreads, hdone⟩
  rcases unpolledRun with ⟨w', hw', hpushed', hreads', hdone'⟩
  have ht : Timed w fun _ => 1 := timed_of_forall (by simp [hreads])
  have ht' : Timed w' fun _ => 1 := timed_of_forall (by simp [hreads'])
  have hsame := h .enabled w w' _ _ _ offlineReport hw hw' (hpushed.trans hpushed'.symm) ht ht'
    hdone hdone'
  -- without the poll the event is observed, with it nothing is
  have hsummary := hsame.1
  rw [wfpEvents_correlate _ (by decide), wfpEvents_correlate _ (by decide)] at hsummary
  have hbase : offlineReport.wfpEvents = .zero := rfl
  rw [hbase] at hsummary
  exact absurd (congrArg WFPEventSummary.observed hsummary) (by decide)

end World

end Server
end Orchestrator
end FlyDpi
