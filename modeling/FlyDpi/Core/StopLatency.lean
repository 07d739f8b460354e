import FlyDpi.Core.Pipeline

/-!
# StopLatency — how long the worker goes on after its stop flag is stored

The flag is tested at the head of the outer loop only.  The inner loop pops until the native queue
is empty, and callbacks may refill the queue meanwhile, so what bounds the worker is the number of
snapshots still to come, not the size of the queue.
-/

namespace FlyDpi
namespace Core

open Lib Native

/-- The worker is in the inner loop. -/
def WorkerPc.draining : WorkerPc → Bool
  | .popping _ => true
  | .feeding _ _ => true
  | .pushing _ _ _ => true
  | _ => false

/-- The steps to the exit of a worker that is told to stop and finds the queue empty. -/
def WorkerPc.stepsLeft : WorkerPc → Nat
  | .feeding _ _ => 7
  | .pushing _ _ _ => 6
  | .popping _ => 5
  | .readDropped _ => 4
  | .sleeping => 3
  | .checkStop => 2
  | .exiting => 1
  | .exited => 0

theorem WorkerPc.stepsLeft_le (pc : WorkerPc) : pc.stepsLeft ≤ 7 := by
  cases pc <;> simp [stepsLeft]

namespace IngestWorker

variable {w w' : IngestWorker} {now : Instant} {s s' : Shared}

theorem feedStep_spec (w : IngestWorker) (drained : UInt32) (snapshot : WfpEventSnapshot)
    (now : Instant) (s : Shared) :
    (w.feedStep drained snapshot now s).2.observer = s.observer ∧
    (w.feedStep drained snapshot now s).1.stop = w.stop ∧
    ((w.feedStep drained snapshot now s).1.pc = .popping drained ∨
      ∃ event, (w.feedStep drained snapshot now s).1.pc = .pushing drained snapshot event) := by
  unfold feedStep
  split
  · split
    · exact ⟨rfl, rfl, Or.inr ⟨_, rfl⟩⟩
    · exact ⟨rfl, rfl, Or.inl rfl⟩
  · exact ⟨rfl, rfl, Or.inl rfl⟩

theorem pushStep_spec (w : IngestWorker) (drained : UInt32) (event : NetworkEvent) (s : Shared) :
    (w.pushStep drained event s).2.observer = s.observer ∧
    (w.pushStep drained event s).1.stop = w.stop ∧
    (w.pushStep drained event s).1.pc = .popping drained := by
  unfold pushStep
  split <;> exact ⟨rfl, rfl, rfl⟩

/-- The oldest snapshot goes from the queue to the worker, or the inner loop ends. -/
theorem popStep_spec (w : IngestWorker) (drained : UInt32) (s : Shared) :
    (w.popStep drained s).1.stop = w.stop ∧
    ((s.observer.queue = [] ∧ (w.popStep drained s).1.pc = .readDropped drained ∧
        (w.popStep drained s).2.observer.queue = []) ∨
      ∃ snapshot queue, s.observer.queue = snapshot :: queue ∧
        (w.popStep drained s).1.pc = .feeding (drained + 1) snapshot ∧
        (w.popStep drained s).2.observer.queue = queue) := by
  cases hqueue : s.observer.queue with
  | nil =>
      rw [popStep, WfpObserverBridge.pop_nil hqueue]
      exact ⟨rfl, Or.inl ⟨rfl, rfl, hqueue⟩⟩
  | cons snapshot queue =>
      rw [popStep, WfpObserverBridge.pop_cons hqueue]
      exact ⟨rfl, Or.inr ⟨snapshot, queue, rfl, rfl, rfl⟩⟩

/-- Any other step of a worker that is told to stop is one step on its way out. -/
theorem step_of_not_popping (hstop : w.stop = true) (hnot : ∀ drained, w.pc ≠ .popping drained)
    (h : w.step now s = some (w', s')) :
    w'.stop = true ∧ (w'.pc.draining = true → w.pc.draining = true) ∧
      s'.observer = s.observer ∧ w'.pc.stepsLeft < w.pc.stepsLeft := by
  cases hpc : w.pc with
  | popping drained =>
      exact absurd hpc (hnot drained)
  | feeding drained snapshot =>
      simp only [step, hpc, Option.some.injEq] at h
      rcases w.feedStep_spec drained snapshot now s with ⟨hobserver, hkept, hnext⟩
      rw [h] at hobserver hkept hnext
      refine ⟨hkept.trans hstop, fun _ => rfl, hobserver, ?_⟩
      rcases hnext with hnext | ⟨event, hnext⟩
      · rw [hnext]
        simp [WorkerPc.stepsLeft]
      · rw [hnext]
        simp [WorkerPc.stepsLeft]
  | pushing drained snapshot event =>
      simp only [step, hpc, Option.some.injEq] at h
      rcases w.pushStep_spec drained event s with ⟨hobserver, hkept, hnext⟩
      rw [h] at hobserver hkept hnext
      refine ⟨hkept.trans hstop, fun _ => rfl, hobserver, ?_⟩
      rw [hnext]
      simp [WorkerPc.stepsLeft]
  | checkStop =>
      -- the one place where the flag is read
      simp only [step, hpc, hstop, if_true, Option.some.injEq, Prod.mk.injEq] at h
      rcases h with ⟨rfl, rfl⟩
      exact ⟨rfl, fun h => h, rfl, by simp [WorkerPc.stepsLeft]⟩
  | readDropped drained =>
      simp only [step, hpc, Option.some.injEq, Prod.mk.injEq] at h
      rcases h with ⟨rfl, rfl⟩
      by_cases hd : drained = 0
      · rw [if_pos hd]
        exact ⟨hstop, fun h => h, rfl, by simp [WorkerPc.stepsLeft]⟩
      · rw [if_neg hd]
        exact ⟨hstop, fun h => h, rfl, by simp [WorkerPc.stepsLeft]⟩
  | sleeping =>
      simp only [step, hpc, Option.some.injEq, Prod.mk.injEq] at h
      rcases h with ⟨rfl, rfl⟩
      exact ⟨hstop, fun h => h, rfl, by simp [WorkerPc.stepsLeft]⟩
  | exiting =>
      simp only [step, hpc, Option.some.injEq, Prod.mk.injEq] at h
      rcases h with ⟨rfl, rfl⟩
      exact ⟨hstop, fun h => h, rfl, by simp [WorkerPc.stepsLeft]⟩
  | exited =>
      simp [step, hpc] at h

/-- What a step of a worker that is told to stop does to the queue and to the way out. -/
theorem step_of_stop (hstop : w.stop = true) (h : w.step now s = some (w', s')) :
    w'.stop = true ∧ (w'.pc.draining = true → w.pc.draining = true) ∧
      w'.pc.stepsLeft + 3 * s'.observer.queue.length + 1 ≤
        w.pc.stepsLeft + 3 * s.observer.queue.length := by
  by_cases hpop : ∃ drained, w.pc = .popping drained
  · rcases hpop with ⟨drained, hpc⟩
    simp only [step, hpc, Option.some.injEq] at h
    have hspec := w.popStep_spec drained s
    rw [h] at hspec
    rcases hspec with ⟨hkept, ⟨hqueue, hnext, hqueue'⟩ | ⟨snapshot, queue, hqueue, hnext, hqueue'⟩⟩
    · refine ⟨hkept.trans hstop, fun _ => by rw [hpc]; rfl, ?_⟩
      rw [hnext, hpc, hqueue, hqueue']
      exact Nat.le_refl _
    · -- settling the snapshot takes three steps, and there is one place less in the queue
      refine ⟨hkept.trans hstop, fun _ => by rw [hpc]; rfl, ?_⟩
      rw [hnext, hpc, hqueue, hqueue', List.length_cons]
      simp only [WorkerPc.stepsLeft]
      omega
  · rcases step_of_not_popping hstop (fun drained hpc => hpop ⟨drained, hpc⟩) h with
      ⟨hkept, hdraining, hobserver, hless⟩
    refine ⟨hkept, hdraining, ?_⟩
    rw [hobserver]
    omega

end IngestWorker

/-- The snapshots that an action offers to the native queue. -/
def Action.enqueued : Action → Nat
  | .callback _ => 1
  | _ => 0

/-- The steps of the worker. -/
def Action.worked : Action → Nat
  | .worker _ => 1
  | _ => 0

def enqueuedIn (actions : List Action) : Nat :=
  (actions.map Action.enqueued).sum

def workedIn (actions : List Action) : Nat :=
  (actions.map Action.worked).sum

namespace World

variable {w w' : World} {actions : List Action}

/-- In the loop that does not look at the flag. -/
def Draining (w : World) : Prop :=
  w.worker.pc.draining = true

/-! ## Upper bounds -/

theorem length_queue_enqueue_le (w : World) (snapshot : WfpEventSnapshot) :
    (w.observer.enqueue snapshot).queue.length ≤ w.observer.queue.length + 1 := by
  rw [FlyDpiWfpObserver.queue_enqueue, DropOldest.push]
  split <;> simp

/-- A worker step moves snapshots, it neither makes nor loses one. -/
theorem handled_worker {now : Instant} {worker : IngestWorker} {shared : Shared}
    (h : w.worker.step now w.shared = some (worker, shared)) :
    (w.popped ++ w.poppedBy).length + shared.observer.queue.length =
      w.popped.length + w.observer.queue.length := by
  rcases IngestWorker.step_cases h with ⟨drained, hpc, hpop⟩ |
    ⟨drained, snapshot, hpc, hfeed⟩ | ⟨drained, snapshot, event, hpc, hpush⟩ | ⟨hrests, rfl⟩
  · have hspec := (w.worker.popStep_spec drained w.shared).2
    rw [hpop] at hspec
    rcases hspec with ⟨hqueue, _, hqueue'⟩ | ⟨snapshot, queue, hqueue, _, hqueue'⟩
    · change shared.observer.queue = [] at hqueue'
      simp [poppedBy, hpc, observer, hqueue, hqueue']
    · change shared.observer.queue = queue at hqueue'
      simp only [poppedBy, hpc, observer, hqueue, hqueue', List.length_append, List.length_cons,
        List.take_succ_cons, List.take_zero, List.length_nil]
      omega
  · have hobserver := (w.worker.feedStep_spec drained snapshot now w.shared).1
    rw [hfeed] at hobserver
    rw [poppedBy_of_not_popping (by simp [hpc]), List.append_nil, hobserver]
    rfl
  · have hobserver := (w.worker.pushStep_spec drained event w.shared).1
    rw [hpush] at hobserver
    rw [poppedBy_of_not_popping (by simp [hpc]), List.append_nil, hobserver]
    rfl
  · rw [poppedBy_of_not_popping hrests.notPopping, List.append_nil]
    rfl

theorem handled_step {action : Action} (h : Step w action w') :
    w'.popped.length + w'.observer.queue.length ≤
      w.popped.length + w.observer.queue.length + action.enqueued := by
  cases h with
  | callback event _ =>
      exact Nat.add_le_add_left (w.length_queue_enqueue_le (buildSnapshot event)) _
  | worker hworker =>
      exact (handled_worker hworker).le
  | countEvent _ _ =>
      exact Nat.le_refl _
  | poll _ =>
      exact Nat.le_refl _
  | drain _ =>
      exact Nat.le_refl _
  | stop =>
      exact Nat.le_refl _

/-- Only what is queued, or will be, can be popped. -/
theorem popped_le (h : Runs.Trace Step w actions w') :
    w'.popped.length ≤ w.popped.length + w.observer.queue.length + enqueuedIn actions := by
  have hpaid := h.amortized (I := fun _ => True)
    (f := fun w => w.popped.length + w.observer.queue.length) (g := fun _ => 0)
    (c := Action.enqueued) (fun w a w' _ hstep => ⟨trivial, handled_step hstep⟩) trivial
  exact Nat.le_trans (Nat.le_add_right _ _) (Nat.le_trans (Nat.le_add_right _ _) hpaid)

/-- A worker that is told to stop and is outside its inner loop stays outside. -/
theorem leaving_step {action : Action} (hstop : w.worker.stop = true) (hout : ¬ w.Draining)
    (h : Step w action w') :
    (w'.worker.stop = true ∧ ¬ w'.Draining) ∧ w'.popped = w.popped := by
  cases h with
  | worker hworker =>
      rcases IngestWorker.step_of_stop hstop hworker with ⟨hstop', hdraining, _⟩
      refine ⟨⟨hstop', fun hin => hout (hdraining hin)⟩, ?_⟩
      have hnot : ∀ drained, w.worker.pc ≠ .popping drained := by
        intro drained hpc
        exact hout (by simp [Draining, hpc, WorkerPc.draining])
      change w.popped ++ w.poppedBy = w.popped
      rw [poppedBy_of_not_popping hnot, List.append_nil]
  | callback event _ =>
      exact ⟨⟨hstop, hout⟩, rfl⟩
  | countEvent _ _ =>
      exact ⟨⟨hstop, hout⟩, rfl⟩
  | poll _ =>
      exact ⟨⟨hstop, hout⟩, rfl⟩
  | drain _ =>
      exact ⟨⟨hstop, hout⟩, rfl⟩
  | stop =>
      exact ⟨⟨rfl, hout⟩, rfl⟩

theorem popped_of_not_draining (hstop : w.worker.stop = true) (hout : ¬ w.Draining)
    (h : Runs.Trace Step w actions w') : w'.popped = w.popped := by
  induction h with
  | nil w =>
      rfl
  | cons hstep _ ih =>
      rcases leaving_step hstop hout hstep with ⟨⟨hstop', hout'⟩, hpopped⟩
      rw [ih hstop' hout', hpopped]

/-- What is left to do for a worker that is told to stop. -/
def workLeft (w : World) : Nat :=
  w.worker.pc.stepsLeft + 3 * w.observer.queue.length

theorem workLeft_step {action : Action} (hstop : w.worker.stop = true) (h : Step w action w') :
    w'.worker.stop = true ∧ w'.workLeft + action.worked ≤ w.workLeft + 3 * action.enqueued := by
  cases h with
  | worker hworker =>
      rcases IngestWorker.step_of_stop hstop hworker with ⟨hstop', _, hless⟩
      exact ⟨hstop', hless⟩
  | callback event _ =>
      refine ⟨hstop, ?_⟩
      have hle := w.length_queue_enqueue_le (buildSnapshot event)
      change _ + 3 * (w.observer.enqueue (buildSnapshot event)).queue.length ≤ _
      simp only [workLeft, Action.enqueued]
      omega
  | countEvent _ _ =>
      exact ⟨hstop, Nat.le_refl _⟩
  | poll _ =>
      exact ⟨hstop, Nat.le_refl _⟩
  | drain _ =>
      exact ⟨hstop, Nat.le_refl _⟩
  | stop =>
      exact ⟨rfl, Nat.le_refl _⟩

/-- After the store the worker takes three steps for each snapshot that was queued or still comes,
and at most seven besides. -/
theorem worked_after_stop (hstop : w.worker.stop = true) (h : Runs.Trace Step w actions w') :
    workedIn actions ≤ 7 + 3 * (w.observer.queue.length + enqueuedIn actions) := by
  have hpaid := h.amortized (I := fun w => w.worker.stop = true) (f := workLeft)
    (g := Action.worked) (c := fun a => 3 * a.enqueued)
    (fun w a w' hstop hstep => workLeft_step hstop hstep) hstop
  have hpc := w.worker.pc.stepsLeft_le
  rw [List.sum_map_mul_left] at hpaid
  simp only [workLeft, workedIn, enqueuedIn] at *
  omega

/-! ## The bound is attained -/

/-- Without a callback the worker gets to the head of its inner loop, the native queue untouched. -/
def ReachesPopping (w : World) : Prop :=
  ∃ actions w' drained, Runs.Trace Step w actions w' ∧ enqueuedIn actions = 0 ∧
    w'.worker.pc = .popping drained ∧ w'.popped = w.popped ∧ w'.observer = w.observer

/-- A worker step that pops nothing comes before it. -/
theorem ReachesPopping.of_step {next : IngestWorker × Shared}
    (hstep : w.worker.step 0 w.shared = some next)
    (hnot : ∀ drained, w.worker.pc ≠ .popping drained)
    (hobserver : next.2.observer = w.shared.observer)
    (h : ∀ w' : World, w'.worker = next.1 → w'.ReachesPopping) : w.ReachesPopping := by
  have hfirst := @Step.worker w 0 next.1 next.2 hstep
  rcases h
    { w with
      shared := next.2
      worker := next.1
      popped := w.popped ++ w.poppedBy
      fed := w.fed ++ w.fedBy 0 }
    rfl with ⟨actions, w', drained, hrun, hnone, hpc, hpopped, hobserver'⟩
  refine ⟨.worker 0 :: actions, w', drained, Runs.Trace.cons hfirst hrun, ?_, hpc, ?_,
    hobserver'.trans hobserver⟩
  · simpa [enqueuedIn, Action.enqueued] using hnone
  · rw [hpopped]
    change w.popped ++ w.poppedBy = w.popped
    rw [poppedBy_of_not_popping hnot, List.append_nil]

theorem reachesPopping_of_popping {drained : UInt32} (hpc : w.worker.pc = .popping drained) :
    w.ReachesPopping :=
  ⟨[], w, drained, Runs.Trace.nil w, rfl, hpc, rfl, rfl⟩

theorem reachesPopping_of_pushing {drained : UInt32} {snapshot : WfpEventSnapshot}
    {event : NetworkEvent} (hpc : w.worker.pc = .pushing drained snapshot event) :
    w.ReachesPopping := by
  rcases w.worker.pushStep_spec drained event w.shared with ⟨hobserver, _, hnext⟩
  have hstep : w.worker.step 0 w.shared = some (w.worker.pushStep drained event w.shared) := by
    simp [IngestWorker.step, hpc]
  refine ReachesPopping.of_step hstep (by simp [hpc]) hobserver fun w' hw' => ?_
  rw [← hw'] at hnext
  exact reachesPopping_of_popping hnext

theorem reachesPopping_of_feeding {drained : UInt32} {snapshot : WfpEventSnapshot}
    (hpc : w.worker.pc = .feeding drained snapshot) : w.ReachesPopping := by
  rcases w.worker.feedStep_spec drained snapshot 0 w.shared with ⟨hobserver, _, hnext⟩
  have hstep : w.worker.step 0 w.shared =
      some (w.worker.feedStep drained snapshot 0 w.shared) := by
    simp [IngestWorker.step, hpc]
  refine ReachesPopping.of_step hstep (by simp [hpc]) hobserver fun w' hw' => ?_
  rw [← hw'] at hnext
  rcases hnext with hnext | ⟨event, hnext⟩
  · exact reachesPopping_of_popping hnext
  · exact reachesPopping_of_pushing hnext

theorem Draining.reachesPopping (h : w.Draining) : w.ReachesPopping := by
  cases hpc : w.worker.pc with
  | popping drained =>
      exact reachesPopping_of_popping hpc
  | feeding drained snapshot =>
      exact reachesPopping_of_feeding hpc
  | pushing drained snapshot event =>
      exact reachesPopping_of_pushing hpc
  | _ =>
      simp [Draining, hpc, WorkerPc.draining] at h

/-- At the head of the inner loop a queued snapshot is popped, and the worker stays in the loop. -/
theorem exists_pop {drained : UInt32} (hpc : w.worker.pc = .popping drained)
    {snapshot : WfpEventSnapshot} {queue : List WfpEventSnapshot}
    (hqueue : w.observer.queue = snapshot :: queue) :
    ∃ w', Step w (.worker 0) w' ∧ w'.Draining ∧ w'.popped = w.popped ++ [snapshot] ∧
      w'.observer.queue = queue := by
  have hshared : w.shared.observer.queue = snapshot :: queue := hqueue
  have hstep : w.worker.step 0 w.shared = some (w.worker.popStep drained w.shared) := by
    simp [IngestWorker.step, hpc]
  rw [IngestWorker.popStep, WfpObserverBridge.pop_cons hshared] at hstep
  refine ⟨_, Step.worker hstep, rfl, ?_, rfl⟩
  change w.popped ++ w.poppedBy = w.popped ++ [snapshot]
  rw [poppedBy, hpc]
  simp [hshared]

/-- A callback on an empty queue. -/
theorem exists_callback (event : FwpmNetEvent2) (hopen : w.ObserverOpen)
    (hqueue : w.observer.queue = []) :
    ∃ w', Step w (.callback event) w' ∧ w'.worker = w.worker ∧ w'.popped = w.popped ∧
      w'.observer.queue = [buildSnapshot event] := by
  refine ⟨_, Step.callback event hopen, rfl, rfl, ?_⟩
  change (w.observer.enqueue (buildSnapshot event)).queue = _
  rw [FlyDpiWfpObserver.queue_enqueue, hqueue]
  rfl

/-- From inside the inner loop any number of snapshots can be popped, as long as callbacks make up
for what the queue does not hold. -/
theorem Draining.exists_pops (event : FwpmNetEvent2) (n : Nat) (h : w.Draining) :
    ∃ actions w', Runs.Trace Step w actions w' ∧
      enqueuedIn actions = n - w.observer.queue.length ∧
        w'.popped.length = w.popped.length + n := by
  induction n generalizing w with
  | zero =>
      exact ⟨[], w, Runs.Trace.nil w, (Nat.zero_sub _).symm, rfl⟩
  | succ n ih =>
      rcases h.reachesPopping with ⟨back, w₁, drained, hback, hnone, hpc, hpopped, hobserver⟩
      cases hqueue : w.observer.queue with
      | cons snapshot queue =>
          rw [← hobserver] at hqueue
          rcases exists_pop hpc hqueue with ⟨w₂, hpop, hdraining, hpopped₂, hqueue₂⟩
          rcases ih hdraining with ⟨actions, w', hrun, hcount, hlength⟩
          refine ⟨back ++ .worker 0 :: actions, w',
            hback.append (Runs.Trace.cons hpop hrun), ?_, ?_⟩
          · simp only [enqueuedIn, List.map_append, List.map_cons, List.sum_append, List.sum_cons,
              Action.enqueued, hqueue₂, List.length_cons] at *
            omega
          · rw [hlength, hpopped₂, hpopped, List.length_append, List.length_singleton]
            omega
      | nil =>
          -- the callback comes just before the pop that would have ended the loop
          have hopen : w₁.ObserverOpen := by
            simp [ObserverOpen, hpc]
          rw [← hobserver] at hqueue
          rcases exists_callback event hopen hqueue with
            ⟨wq, hcallback, hworker, hpoppedq, hqueued⟩
          rw [← hworker] at hpc
          rcases exists_pop hpc hqueued with ⟨w₂, hpop, hdraining, hpopped₂, hqueue₂⟩
          rcases ih hdraining with ⟨actions, w', hrun, hcount, hlength⟩
          refine ⟨back ++ .callback event :: .worker 0 :: actions, w',
            hback.append (Runs.Trace.cons hcallback (Runs.Trace.cons hpop hrun)), ?_, ?_⟩
          · simp only [enqueuedIn, List.map_append, List.map_cons, List.sum_append, List.sum_cons,
              Action.enqueued, hqueue₂, List.length_nil] at *
            omega
          · rw [hlength, hpopped₂, hpoppedq, hpopped, List.length_append, List.length_singleton]
            omega

/-! ## Stopping under load -/

/-- In every interleaving from `w` on with at most `n` callbacks, at most a full queue is popped. -/
def PopsAtMostQueue (w : World) (n : Nat) : Prop :=
  ∀ actions w', Runs.Trace Step w actions w' → enqueuedIn actions ≤ n →
    w'.popped.length ≤ w.popped.length + kQueueCapacity

/-- The world in which the flag has just been stored. -/
def stopped (w : World) : World :=
  { w with worker := { w.worker with stop := true } }

theorem eq_stopped (h : Step w .stop w') : w' = w.stopped := by
  cases h with
  | stop =>
      rfl

/-- From the moment the flag is stored, the worker pops at most a full queue exactly when it is not
in its inner loop or the queue and the callbacks still to come make up no more than that. -/
theorem popsAtMostQueue_iff (hstop : Step w .stop w') (n : Nat) :
    w'.PopsAtMostQueue n ↔ (w.Draining → w.observer.queue.length + n ≤ kQueueCapacity) := by
  rw [eq_stopped hstop]
  constructor
  · intro hbound hdraining
    by_contra hfull
    -- one pop more than the queue can hold
    have hstopped : w.stopped.Draining := hdraining
    rcases hstopped.exists_pops acceptedRecord (kQueueCapacity + 1) with
      ⟨actions, w'', hrun, hcount, hpopped⟩
    have henough : enqueuedIn actions ≤ n := by
      rw [hcount]
      change kQueueCapacity + 1 - w.observer.queue.length ≤ n
      omega
    have hle := hbound actions w'' hrun henough
    omega
  · intro hroom actions w'' hrun hcount
    by_cases hdraining : w.Draining
    · calc
        w''.popped.length ≤ w.popped.length + w.observer.queue.length + enqueuedIn actions :=
          popped_le (w := w.stopped) hrun
        _ ≤ w.popped.length + w.observer.queue.length + n := Nat.add_le_add_left hcount _
        _ = w.popped.length + (w.observer.queue.length + n) := Nat.add_assoc _ _ _
        _ ≤ w.popped.length + kQueueCapacity := Nat.add_le_add_left (hroom hdraining) _
    · have hout : ¬ w.stopped.Draining := hdraining
      rw [popped_of_not_draining rfl hout hrun]
      exact Nat.le_add_right _ _

/-- The worker has found its flag unset and is about to pop. -/
def aboutToPop : World :=
  { start with worker := { IngestWorker.start with pc := .popping 0 } }

theorem interleaved_aboutToPop : Interleaved aboutToPop :=
  Relation.ReflTransGen.single ⟨.worker 0, @Step.worker start 0 _ _ rfl⟩

/-- With an empty queue a full one may still come. -/
theorem popsAtMostQueue_aboutToPop : aboutToPop.stopped.PopsAtMostQueue 4096 :=
  (popsAtMostQueue_iff Step.stop 4096).2 fun _ => Nat.le_refl _

/-- Callbacks that go on make the worker pop more than the queue can hold. -/
theorem popped_unbounded_after_stop :
    ¬ ∀ (w w' w'' : World) (actions : List Action), Interleaved w → Step w .stop w' →
      Runs.Trace Step w' actions w'' → w''.popped.length ≤ w'.popped.length + kQueueCapacity := by
  intro hall
  have hdraining : aboutToPop.stopped.Draining := rfl
  rcases hdraining.exists_pops acceptedRecord (kQueueCapacity + 1) with
    ⟨actions, w'', hrun, _, hpopped⟩
  have hle := hall aboutToPop aboutToPop.stopped w'' actions interleaved_aboutToPop Step.stop hrun
  omega

end World

end Core
end FlyDpi
