import FlyDpi.Lib.Runs
import FlyDpi.Orchestrator.Probe

/-!
# ProbeEngine — the workers of `Engine.Run`

The goroutines of `Engine.Run` in `engine.go` as a step relation: the producer spawns the workers,
hands the targets over the unbuffered channel, closes it and waits; a worker receives a job, runs it
and writes its result, and leaves when the channel is closed.  Whatever the schedule, the run ends,
every index is processed once, and the results are those of the sequential `run`.
-/

namespace FlyDpi
namespace Orchestrator
namespace Probe

open Lib

/-- `item`, what the channel carries. -/
structure Job where
  idx : Nat
  target : Bytes

inductive Worker
  /-- In the receive of `for job := range jobs`. -/
  | receiving
  | running (job : Job)
  /-- Out of the loop, before the deferred `wg.Done()`. -/
  | leaving
  | exited

inductive Producer
  /-- In the loop of the `go` statements. -/
  | spawning (started : Nat)
  /-- In the loop of the sends, or behind it when there is no target left. -/
  | sending (next : Nat)
  /-- In `wg.Wait()`. -/
  | waiting
  | returned
  deriving DecidableEq

structure EngineState where
  producer : Producer
  closed : Bool
  wg : Int
  workers : List Worker
  results : List Result
  /-- The jobs finished so far, each with the number of its worker; the source keeps no such log. -/
  log : List (Nat × Nat)

namespace Engine

variable (e : Engine)

/-- Number of workers, at most one for each target. -/
def workers : Nat :=
  min e.cfg.concurrency.toNat e.cfg.targets.length

/-- `Run` up to `wg.Add(workers)`; without workers it returns at once. -/
def start : EngineState :=
  { producer := if e.workers = 0 then .returned else .spawning 0
    closed := false
    wg := e.workers
    workers := []
    results := List.replicate e.cfg.targets.length Result.zero
    log := [] }

/-- The `runOne` call of a job. -/
def process (nets : Nat → Network) (job : Job) : Result :=
  runOne (nets job.idx)
    { timeout := e.cfg.timeout
      targets := [job.target]
      port := e.cfg.port
      serverName := [] }
    job.target

/-- One step of one goroutine, or of the two that meet at the channel. -/
inductive Step (nets : Nat → Network) : EngineState → EngineState → Prop
  | spawn {s : EngineState} {started : Nat} (hproducer : s.producer = .spawning started)
      (hmore : started < e.workers) :
      Step nets s
        { s with
          producer := .spawning (started + 1)
          workers := s.workers ++ [.receiving] }
  | spawned {s : EngineState} (hproducer : s.producer = .spawning e.workers) :
      Step nets s { s with producer := .sending 0 }
  | handOff {s : EngineState} {next : Nat} {target : Bytes} {before after : List Worker}
      (hproducer : s.producer = .sending next) (htarget : e.cfg.targets[next]? = some target)
      (hworker : s.workers = before ++ .receiving :: after) :
      Step nets s
        { s with
          producer := .sending (next + 1)
          workers := before ++ .running ⟨next, target⟩ :: after }
  | finish {s : EngineState} {job : Job} {before after : List Worker}
      (hworker : s.workers = before ++ .running job :: after) :
      Step nets s
        { s with
          workers := before ++ .receiving :: after
          results := s.results.set job.idx (e.process nets job)
          log := s.log ++ [(before.length, job.idx)] }
  | close {s : EngineState} (hproducer : s.producer = .sending e.cfg.targets.length) :
      Step nets s
        { s with
          producer := .waiting
          closed := true }
  | leave {s : EngineState} {before after : List Worker} (hclosed : s.closed = true)
      (hworker : s.workers = before ++ .receiving :: after) :
      Step nets s { s with workers := before ++ .leaving :: after }
  | done {s : EngineState} {before after : List Worker}
      (hworker : s.workers = before ++ .leaving :: after) :
      Step nets s
        { s with
          workers := before ++ .exited :: after
          wg := s.wg - 1 }
  | wake {s : EngineState} (hproducer : s.producer = .waiting) (hwg : s.wg = 0) :
      Step nets s { s with producer := .returned }

def Reachable (nets : Nat → Network) (s : EngineState) : Prop :=
  Relation.ReflTransGen (Step e nets) e.start s

end Engine

/-! ## The invariant -/

namespace Worker

/-- The job in the worker's hands. -/
def job : Worker → Option Job
  | running job => some job
  | _ => none

/-- The worker still counts in the wait group. -/
def active : Worker → Nat
  | exited => 0
  | _ => 1

/-- The worker is out of its loop. -/
def Out : Worker → Prop
  | leaving => True
  | exited => True
  | _ => False

end Worker

namespace EngineState

variable (s : EngineState)

/-- The jobs in the hands of workers. -/
def held : List Job :=
  s.workers.filterMap Worker.job

/-- The indices processed so far. -/
def processed : List Nat :=
  s.log.map Prod.snd

end EngineState

namespace Engine

/-- How many jobs the producer has handed over. -/
def sent (e : Engine) (s : EngineState) : Nat :=
  match s.producer with
  | .spawning _ => 0
  | .sending next => next
  | .waiting => e.cfg.targets.length
  -- without workers there is nothing to hand over
  | .returned => e.cfg.targets.length

/-- How many workers the producer has started. -/
def started (e : Engine) (s : EngineState) : Nat :=
  match s.producer with
  | .spawning started => started
  | .sending _ => e.workers
  | .waiting => e.workers
  | .returned => e.workers

/-- What holds in every reachable state of a run. -/
structure Inv (e : Engine) (nets : Nat → Network) (s : EngineState) : Prop where
  started : s.workers.length = e.started s
  started_le : e.started s ≤ e.workers
  sent_le : e.sent s ≤ e.cfg.targets.length
  /-- Nobody leaves before the channel is closed, which happens behind the last send. -/
  closed : s.closed = true → s.producer = .waiting ∨ s.producer = .returned
  waiting : s.producer = .waiting → s.closed = true
  out : ∀ w ∈ s.workers, w.Out → s.closed = true
  wg : s.wg = (e.workers - s.workers.length : Int) + ((s.workers.map Worker.active).sum : Nat)
  returned : s.producer = .returned → s.wg = 0
  /-- Every index handed over is in the hands of one worker or was processed once. -/
  jobs : (s.processed ++ s.held.map Job.idx).Perm (List.range (e.sent s))
  targets : ∀ job ∈ s.held, e.cfg.targets[job.idx]? = some job.target
  length_results : s.results.length = e.cfg.targets.length
  results : ∀ i ∈ s.processed,
    s.results[i]? = e.cfg.targets[i]?.map fun target => e.process nets ⟨i, target⟩

variable {e : Engine} {nets : Nat → Network}

theorem workers_eq_zero_iff : e.workers = 0 ↔ e.cfg.targets = [] := by
  have hpos := e.concurrency_pos
  rw [← List.length_eq_zero_iff]
  unfold workers
  omega

theorem start_inv : Inv e nets e.start := by
  by_cases hworkers : e.workers = 0
  · have htargets := workers_eq_zero_iff.1 hworkers
    constructor <;>
      simp [start, Engine.started, Engine.sent, EngineState.processed, EngineState.held, hworkers,
        htargets]
  · constructor <;>
      simp [start, Engine.started, Engine.sent, EngineState.processed, EngineState.held, hworkers]

/-- The channel stays open as long as the producer spawns or sends. -/
theorem Inv.not_closed {s : EngineState} (h : Inv e nets s) (hwaiting : s.producer ≠ .waiting)
    (hreturned : s.producer ≠ .returned) : ¬ s.closed = true := by
  intro hclosed
  rcases h.closed hclosed with hproducer | hproducer
  · exact hwaiting hproducer
  · exact hreturned hproducer

/-! ### One step

Three kinds of step: the producer alone, a worker alone, and the two at the channel. -/

theorem Inv.spawn {s : EngineState} (h : Inv e nets s) {started : Nat}
    (hproducer : s.producer = .spawning started) (hmore : started < e.workers) :
    Inv e nets
      { s with
        producer := .spawning (started + 1)
        workers := s.workers ++ [.receiving] } := by
  have hlength : s.workers.length = started := by
    rw [h.started, Engine.started, hproducer]
  have hjobs := h.jobs
  have hwg := h.wg
  refine
    { h with
      started := ?_
      started_le := hmore
      sent_le := Nat.zero_le _
      closed := ?_
      waiting := ?_
      out := ?_
      wg := ?_
      returned := ?_
      jobs := ?_
      targets := ?_ }
  · simp [Engine.started, hlength]
  · intro hclosed
    exact absurd hclosed (h.not_closed (by simp [hproducer]) (by simp [hproducer]))
  · simp
  · intro w hw hout
    rcases List.mem_append.1 hw with hold | hnew
    · exact h.out w hold hout
    · rw [List.mem_singleton.1 hnew] at hout
      exact hout.elim
  · have hactive : ((s.workers ++ [Worker.receiving]).map Worker.active).sum =
        (s.workers.map Worker.active).sum + 1 := by
      simp [Worker.active]
    simp only [hactive, List.length_append, List.length_singleton]
    omega
  · simp
  · rw [Engine.sent, hproducer] at hjobs
    simpa [EngineState.processed, EngineState.held, Worker.job, Engine.sent] using hjobs
  · intro job hjob
    refine h.targets job ?_
    simpa [EngineState.held, Worker.job] using hjob

theorem Inv.spawned {s : EngineState} (h : Inv e nets s)
    (hproducer : s.producer = .spawning e.workers) : Inv e nets { s with producer := .sending 0 } := by
  have hstarted := h.started
  have hjobs := h.jobs
  rw [Engine.started, hproducer] at hstarted
  rw [Engine.sent, hproducer] at hjobs
  refine
    { h with
      started := hstarted
      started_le := Nat.le_refl _
      sent_le := Nat.zero_le _
      closed := ?_
      waiting := ?_
      returned := ?_
      jobs := hjobs }
  · intro hclosed
    exact absurd hclosed (h.not_closed (by simp [hproducer]) (by simp [hproducer]))
  · simp
  · simp

theorem Inv.close {s : EngineState} (h : Inv e nets s)
    (hproducer : s.producer = .sending e.cfg.targets.length) :
    Inv e nets
      { s with
        producer := .waiting
        closed := true } := by
  have hstarted := h.started
  have hjobs := h.jobs
  rw [Engine.started, hproducer] at hstarted
  rw [Engine.sent, hproducer] at hjobs
  refine
    { h with
      started := hstarted
      started_le := Nat.le_refl _
      sent_le := Nat.le_refl _
      closed := ?_
      waiting := ?_
      out := ?_
      returned := ?_
      jobs := hjobs }
  · simp
  · simp
  · simp
  · simp

theorem Inv.wake {s : EngineState} (h : Inv e nets s) (hproducer : s.producer = .waiting)
    (hwg : s.wg = 0) : Inv e nets { s with producer := .returned } := by
  have hstarted := h.started
  have hjobs := h.jobs
  rw [Engine.started, hproducer] at hstarted
  rw [Engine.sent, hproducer] at hjobs
  refine
    { h with
      started := hstarted
      started_le := Nat.le_refl _
      sent_le := Nat.le_refl _
      closed := ?_
      waiting := ?_
      returned := ?_
      jobs := hjobs }
  · simp
  · simp
  · intro _
    exact hwg

/-- What one worker does concerns no other worker. -/
theorem forall_replaced {before after : List Worker} {w w' : Worker} {P : Worker → Prop}
    (h : ∀ v ∈ before ++ w :: after, P v) (hnew : P w') : ∀ v ∈ before ++ w' :: after, P v := by
  intro v hv
  rcases List.mem_append.1 hv with hbefore | hrest
  · exact h v (List.mem_append_left _ hbefore)
  · rcases List.mem_cons.1 hrest with rfl | hafter
    · exact hnew
    · exact h v (List.mem_append_right _ (List.mem_cons_of_mem _ hafter))

/-- A worker that moves on without a job leaves the jobs where they are. -/
theorem held_replaced {s : EngineState} {before after : List Worker} {w w' : Worker}
    (hworker : s.workers = before ++ w :: after) (h : w'.job = w.job) :
    (before ++ w' :: after).filterMap Worker.job = s.held := by
  simp [EngineState.held, hworker, List.filterMap_cons, h]

theorem Inv.handOff {s : EngineState} (h : Inv e nets s) {next : Nat} {target : Bytes}
    {before after : List Worker} (hproducer : s.producer = .sending next)
    (htarget : e.cfg.targets[next]? = some target)
    (hworker : s.workers = before ++ .receiving :: after) :
    Inv e nets
      { s with
        producer := .sending (next + 1)
        workers := before ++ .running ⟨next, target⟩ :: after } := by
  have hstarted := h.started
  have hjobs := h.jobs
  have hwg := h.wg
  have hout := h.out
  have htargets := h.targets
  have hnext : next < e.cfg.targets.length := (List.getElem?_eq_some_iff.1 htarget).1
  rw [Engine.started, hproducer, hworker] at hstarted
  rw [Engine.sent, hproducer] at hjobs
  rw [hworker] at hwg hout
  simp only [EngineState.held, hworker, List.filterMap_append, List.filterMap_cons,
    Worker.job] at hjobs htargets
  refine
    { h with
      started := ?_
      started_le := Nat.le_refl _
      sent_le := hnext
      closed := ?_
      waiting := ?_
      out := forall_replaced hout (fun hout => hout.elim)
      wg := ?_
      returned := ?_
      jobs := ?_
      targets := ?_ }
  · simpa [Engine.started] using hstarted
  · intro hclosed
    exact absurd hclosed (h.not_closed (by simp [hproducer]) (by simp [hproducer]))
  · simp
  · simpa [Worker.active] using hwg
  · simp
  · -- the next index joins those on their way
    simp only [EngineState.held, EngineState.processed, Engine.sent, List.filterMap_append,
      List.filterMap_cons, Worker.job, List.map_append, List.map_cons, List.range_succ] at hjobs ⊢
    rw [← List.append_assoc] at hjobs ⊢
    exact List.perm_middle.trans ((hjobs.cons next).trans (List.perm_append_singleton next _).symm)
  · intro job hjob
    simp only [EngineState.held, List.filterMap_append, List.filterMap_cons, Worker.job,
      List.mem_append, List.mem_cons] at hjob htargets
    rcases hjob with hbefore | rfl | hafter
    · exact htargets job (Or.inl hbefore)
    · exact htarget
    · exact htargets job (Or.inr hafter)

theorem Inv.finish {s : EngineState} (h : Inv e nets s) {job : Job} {before after : List Worker}
    (hworker : s.workers = before ++ .running job :: after) :
    Inv e nets
      { s with
        workers := before ++ .receiving :: after
        results := s.results.set job.idx (e.process nets job)
        log := s.log ++ [(before.length, job.idx)] } := by
  have hstarted := h.started
  have hjobs := h.jobs
  have hwg := h.wg
  have hout := h.out
  have htargets := h.targets
  rw [hworker] at hstarted hwg hout
  simp only [EngineState.held, hworker, List.filterMap_append, List.filterMap_cons,
    Worker.job] at hjobs htargets
  have htarget : e.cfg.targets[job.idx]? = some job.target := htargets job (by simp)
  have hidx : job.idx < s.results.length := by
    rw [h.length_results]
    exact (List.getElem?_eq_some_iff.1 htarget).1
  refine
    { h with
      started := ?_
      out := forall_replaced hout (fun hout => hout.elim)
      wg := ?_
      jobs := ?_
      targets := ?_
      length_results := ?_
      results := ?_ }
  · simpa [Engine.started] using hstarted
  · simpa [Worker.active] using hwg
  · -- the index moves from the worker's hands to the log
    refine List.Perm.trans ?_ hjobs
    simp only [EngineState.held, EngineState.processed, List.filterMap_append, List.filterMap_cons,
      Worker.job, List.map_append, List.map_cons, List.map_nil, List.append_assoc,
      List.singleton_append]
    refine List.Perm.append_left _ ?_
    exact List.perm_middle.symm
  · intro job' hjob'
    refine htargets job' ?_
    simp only [EngineState.held, List.filterMap_append, List.filterMap_cons, Worker.job,
      List.mem_append, List.mem_cons] at hjob' ⊢
    rcases hjob' with hbefore | hafter
    · exact Or.inl hbefore
    · exact Or.inr (Or.inr hafter)
  · simpa using h.length_results
  · intro i hi
    by_cases heq : i = job.idx
    · subst heq
      rw [List.getElem?_set_self hidx, htarget]
      rfl
    · rw [List.getElem?_set_ne (Ne.symm heq)]
      refine h.results i ?_
      simpa [EngineState.processed, heq] using hi

theorem Inv.leave {s : EngineState} (h : Inv e nets s) {before after : List Worker}
    (hclosed : s.closed = true) (hworker : s.workers = before ++ .receiving :: after) :
    Inv e nets { s with workers := before ++ .leaving :: after } := by
  have hstarted := h.started
  have hwg := h.wg
  have hout := h.out
  rw [hworker] at hstarted hwg hout
  have hheld : (before ++ .leaving :: after).filterMap Worker.job = s.held :=
    held_replaced hworker rfl
  refine
    { h with
      started := ?_
      out := forall_replaced hout (fun _ => hclosed)
      wg := ?_
      jobs := ?_
      targets := ?_ }
  · simpa [Engine.started] using hstarted
  · simpa [Worker.active] using hwg
  · rw [EngineState.held, hheld]
    exact h.jobs
  · rw [EngineState.held, hheld]
    exact h.targets

theorem Inv.done {s : EngineState} (h : Inv e nets s) {before after : List Worker}
    (hworker : s.workers = before ++ .leaving :: after) :
    Inv e nets
      { s with
        workers := before ++ .exited :: after
        wg := s.wg - 1 } := by
  have hstarted := h.started
  have hle := h.started_le
  have hwg := h.wg
  have hout := h.out
  rw [hworker] at hstarted hwg hout
  have hheld : (before ++ .exited :: after).filterMap Worker.job = s.held :=
    held_replaced hworker rfl
  have hclosed : s.closed = true := hout .leaving (by simp) trivial
  simp only [List.length_append, List.length_cons, List.map_append, List.map_cons,
    List.sum_append, List.sum_cons, Worker.active] at hstarted hwg
  refine
    { h with
      started := ?_
      out := forall_replaced hout (fun _ => hclosed)
      wg := ?_
      returned := ?_
      jobs := ?_
      targets := ?_ }
  · simpa [Engine.started] using hstarted
  · simp only [List.length_append, List.length_cons, List.map_append, List.map_cons,
      List.sum_append, List.sum_cons, Worker.active]
    omega
  · intro hreturned
    -- a returned producer has waited for this worker too
    have hzero := h.returned hreturned
    omega
  · rw [EngineState.held, hheld]
    exact h.jobs
  · rw [EngineState.held, hheld]
    exact h.targets

theorem Inv.step {s s' : EngineState} (h : Inv e nets s) (hstep : Step e nets s s') :
    Inv e nets s' := by
  cases hstep with
  | spawn hproducer hmore =>
      exact h.spawn hproducer hmore
  | spawned hproducer =>
      exact h.spawned hproducer
  | handOff hproducer htarget hworker =>
      exact h.handOff hproducer htarget hworker
  | finish hworker =>
      exact h.finish hworker
  | close hproducer =>
      exact h.close hproducer
  | leave hclosed hworker =>
      exact h.leave hclosed hworker
  | done hworker =>
      exact h.done hworker
  | wake hproducer hwg =>
      exact h.wake hproducer hwg

theorem inv_of_reachable {s : EngineState} (h : e.Reachable nets s) : Inv e nets s :=
  Runs.invariant (fun _ _ hs hstep => hs.step hstep) start_inv h

/-! ## No deadlock -/

theorem Inv.length_workers {s : EngineState} (h : Inv e nets s)
    (hproducer : ∀ started, s.producer ≠ .spawning started) : s.workers.length = e.workers := by
  rw [h.started, Engine.started]
  cases hp : s.producer with
  | spawning started =>
      exact absurd hp (hproducer started)
  | sending next =>
      rfl
  | waiting =>
      rfl
  | returned =>
      rfl

/-- While there is something to send, the first worker can take it or has a job to finish. -/
theorem Inv.progress_sending {s : EngineState} (h : Inv e nets s) {next : Nat}
    (hproducer : s.producer = .sending next) : ∃ s', Step e nets s s' := by
  have hle := h.sent_le
  rw [Engine.sent, hproducer] at hle
  rcases Nat.eq_or_lt_of_le hle with rfl | hlt
  · exact ⟨_, .close hproducer⟩
  · have hlength := h.length_workers (by simp [hproducer])
    cases hworkers : s.workers with
    | nil =>
        -- there is a target, so there are workers
        rw [hworkers, eq_comm, List.length_nil, workers_eq_zero_iff] at hlength
        simp [hlength] at hlt
    | cons w after =>
        have hworkers' : s.workers = [] ++ w :: after := hworkers
        cases w with
        | receiving =>
            exact ⟨_, .handOff hproducer (List.getElem?_eq_getElem hlt) hworkers'⟩
        | running job =>
            exact ⟨_, .finish hworkers'⟩
        | leaving =>
            have hclosed := h.out .leaving (by simp [hworkers]) trivial
            exact absurd hclosed (h.not_closed (by simp [hproducer]) (by simp [hproducer]))
        | exited =>
            have hclosed := h.out .exited (by simp [hworkers]) trivial
            exact absurd hclosed (h.not_closed (by simp [hproducer]) (by simp [hproducer]))

theorem active_eq_zero_iff {w : Worker} : w.active = 0 ↔ w = .exited := by
  cases w <;> simp [Worker.active]

/-- The wait group is at zero exactly when every worker has left. -/
theorem Inv.wg_eq_zero_iff {s : EngineState} (h : Inv e nets s)
    (hproducer : ∀ started, s.producer ≠ .spawning started) :
    s.wg = 0 ↔ ∀ w ∈ s.workers, w = .exited := by
  have hwg := h.wg
  rw [h.length_workers hproducer, sub_self, zero_add] at hwg
  rw [hwg, Int.natCast_eq_zero, List.sum_eq_zero_iff_forall_eq_nat]
  simp [active_eq_zero_iff]

/-- Behind the last send, every worker still there can go on, and the last one wakes the producer. -/
theorem Inv.progress_waiting {s : EngineState} (h : Inv e nets s)
    (hproducer : s.producer = .waiting) : ∃ s', Step e nets s s' := by
  have hclosed := h.waiting hproducer
  by_cases hexited : ∀ w ∈ s.workers, w = .exited
  · exact ⟨_, .wake hproducer ((h.wg_eq_zero_iff (by simp [hproducer])).2 hexited)⟩
  · simp only [not_forall] at hexited
    rcases hexited with ⟨w, hw, hne⟩
    rcases List.append_of_mem hw with ⟨before, after, hworkers⟩
    cases w with
    | receiving =>
        exact ⟨_, .leave hclosed hworkers⟩
    | running job =>
        exact ⟨_, .finish hworkers⟩
    | leaving =>
        exact ⟨_, .done hworkers⟩
    | exited =>
        exact absurd rfl hne

theorem Inv.progress {s : EngineState} (h : Inv e nets s) :
    s.producer = .returned ∨ ∃ s', Step e nets s s' := by
  cases hproducer : s.producer with
  | spawning started =>
      right
      have hle := h.started_le
      rw [Engine.started, hproducer] at hle
      rcases Nat.eq_or_lt_of_le hle with rfl | hlt
      · exact ⟨_, .spawned hproducer⟩
      · exact ⟨_, .spawn hproducer hlt⟩
  | sending next =>
      right
      exact h.progress_sending hproducer
  | waiting =>
      right
      exact h.progress_waiting hproducer
  | returned =>
      left
      rfl

/-! ## Every run ends -/

/-- Steps a worker may still take, apart from the jobs it has not been handed. -/
def workerCost : Worker → Nat
  | .receiving => 2
  | .running _ => 3
  | .leaving => 1
  | .exited => 0

/-- Steps the producer may still take, with those of the workers and jobs it has yet to start. -/
def producerCost (e : Engine) : Producer → Nat
  | .spawning started => 3 * (e.workers - started) + 2 * e.cfg.targets.length + 3
  | .sending next => 2 * (e.cfg.targets.length - next) + 2
  | .waiting => 1
  | .returned => 0

def remaining (e : Engine) (s : EngineState) : Nat :=
  e.producerCost s.producer + (s.workers.map workerCost).sum

theorem remaining_lt {s s' : EngineState} (hstep : Step e nets s s') :
    e.remaining s' < e.remaining s := by
  cases hstep with
  | spawn hproducer hmore =>
      simp [remaining, producerCost, hproducer, workerCost]
      omega
  | spawned hproducer =>
      simp [remaining, producerCost, hproducer]
  | handOff hproducer htarget hworker =>
      have hlt := (List.getElem?_eq_some_iff.1 htarget).1
      simp [remaining, producerCost, hproducer, hworker, workerCost]
      omega
  | finish hworker =>
      simp [remaining, hworker, workerCost]
  | close hproducer =>
      simp [remaining, producerCost, hproducer]
  | leave _ hworker =>
      simp [remaining, hworker, workerCost]
  | done hworker =>
      simp [remaining, hworker, workerCost]
  | wake hproducer _ =>
      simp [remaining, producerCost, hproducer]

theorem returned_of_stuck {s : EngineState} (h : Inv e nets s)
    (hstuck : Runs.Stuck (Step e nets) s) : s.producer = .returned := by
  rcases h.progress with hreturned | ⟨s', hstep⟩
  · exact hreturned
  · exact absurd hstep (hstuck s')

/-! ## The results -/

theorem Inv.held_of_returned {s : EngineState} (h : Inv e nets s)
    (hreturned : s.producer = .returned) : s.held = [] := by
  have hexited := (h.wg_eq_zero_iff (by simp [hreturned])).1 (h.returned hreturned)
  refine List.filterMap_eq_nil_iff.2 ?_
  intro w hw
  rw [hexited w hw]
  rfl

theorem Inv.processed_of_returned {s : EngineState} (h : Inv e nets s)
    (hreturned : s.producer = .returned) :
    s.processed.Perm (List.range e.cfg.targets.length) := by
  have hjobs := h.jobs
  rw [h.held_of_returned hreturned, List.map_nil, List.append_nil, Engine.sent, hreturned] at hjobs
  exact hjobs

/-- No index is processed twice. -/
theorem Inv.nodup_processed {s : EngineState} (h : Inv e nets s) : s.processed.Nodup := by
  have hnodup := h.jobs.nodup_iff.2 List.nodup_range
  exact (List.nodup_append.1 hnodup).1

/-- The settings of the sequential run that an engine's run is compared with. -/
def sequential (cfg : EngineConfig) : Config :=
  { timeout := (newEngine cfg).cfg.timeout
    targets := cfg.targets
    port := cfg.port
    serverName := [] }

theorem process_newEngine (cfg : EngineConfig) (nets : Nat → Network) (job : Job) :
    (newEngine cfg).process nets job = runOne (nets job.idx) (sequential cfg) job.target := by
  refine runOne_congr _ _ rfl ?_ rfl
  exact orElse_orElse cfg.port (lit "443")

theorem Inv.results_of_returned {cfg : EngineConfig} {s : EngineState}
    (h : Inv (newEngine cfg) nets s) (hreturned : s.producer = .returned) :
    s.results = run nets (sequential cfg) := by
  have hlength : s.results.length = (run nets (sequential cfg)).length := by
    rw [h.length_results, length_run]
    rfl
  refine List.ext_getElem? fun i => ?_
  by_cases hi : i < cfg.targets.length
  · have hprocessed : i ∈ s.processed :=
      (h.processed_of_returned hreturned).mem_iff.2 (List.mem_range.2 hi)
    rw [h.results i hprocessed, getElem?_run]
    simp only [process_newEngine]
    rfl
  · have hrun : (run nets (sequential cfg)).length ≤ i := by
      rw [length_run]
      exact not_lt.1 hi
    rw [List.getElem?_eq_none hrun, List.getElem?_eq_none (hlength.trans_le hrun)]

/-- For every configuration, every assignment of outcomes and every schedule: no state short of the
return is stuck, every maximal run returns, no index is processed twice on the way, each was
processed by one worker at the end, and the results are those of the sequential run. -/
theorem engineRun_eq_run (cfg : EngineConfig) (nets : Nat → Network) :
    (∀ s, (newEngine cfg).Reachable nets s →
      s.producer = .returned ∨ ∃ s', Step (newEngine cfg) nets s s') ∧
    (∀ r, Runs.Maximal (Step (newEngine cfg) nets) r → r 0 = (newEngine cfg).start →
      ∃ i, (r i).producer = .returned) ∧
    (∀ s, (newEngine cfg).Reachable nets s → s.processed.Nodup) ∧
    ∀ s, (newEngine cfg).Reachable nets s → s.producer = .returned →
      s.processed.Perm (List.range cfg.targets.length) ∧
        s.results = run nets (sequential cfg) := by
  refine ⟨?_, ?_, ?_, ?_⟩
  · intro s hs
    exact (inv_of_reachable hs).progress
  · intro r hr hstart
    have hinv : Inv (newEngine cfg) nets (r 0) := by
      rw [hstart]
      exact start_inv
    have hstep : ∀ s s', Inv (newEngine cfg) nets s → Step (newEngine cfg) nets s s' →
        Inv (newEngine cfg) nets s' := fun _ _ h hstep => h.step hstep
    exact Runs.Maximal.reaches hstep (fun _ _ _ => remaining_lt) (fun _ => returned_of_stuck) hr hinv
  · intro s hs
    exact (inv_of_reachable hs).nodup_processed
  · intro s hs hreturned
    have hinv := inv_of_reachable hs
    exact ⟨hinv.processed_of_returned hreturned, hinv.results_of_returned hreturned⟩

end Engine

end Probe
end Orchestrator
end FlyDpi
