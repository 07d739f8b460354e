import FlyDpi.Lib.Resources
import FlyDpi.Native.Observer

/-!
# ObserverSession — starting and stopping the native observer

What the process acquires on its way to a running observation, across all layers, and the calls on
which that can fail; then `flydpi_wfp_observer_start` and `flydpi_wfp_observer_stop` as programs over
these resources.  A call is answered by its error code, zero for success.
-/

namespace FlyDpi
namespace Native

open Lib Lib.Resources

/-! ## Resources and calls -/

inductive Kind
  /-- The `FlyDpiWfpObserver` on the heap. -/
  | observer
  | engine
  | subscription
  /-- A reference to the loaded observer library. -/
  | observerModule
  | worker
  /-- The boxed runtime. -/
  | runtime
  /-- A reference to the loaded core library. -/
  | coreDll
  deriving DecidableEq, Repr

inductive Call
  | stat (file : String)
  | loadDll
  | findProc (name : String)
  | loadLibrary
  | getProcAddress (name : String)
  | engineOpen
  | netEventSubscribe
  | spawn
  | runtimePoll
  | netEventUnsubscribe
  | engineClose
  | freeLibrary
  | releaseDll
  deriving DecidableEq, Repr

abbrev Os :=
  Prog Kind Call UInt32

abbrev Handle :=
  Resource Kind

abbrev OsEnv :=
  Env Call UInt32

/-- A handle that may be null. -/
def useHandle : Option Handle → Os Unit
  | some r => use r
  | none => pure ()

def closeHandle (call : Call) : Option Handle → Os Unit
  | some r => closeWith call r
  | none => pure ()

/-- The first call that failed, with its code. -/
def failure (calls : List (Call × UInt32)) : Option (Call × UInt32) :=
  calls.find? fun c => c.2 ≠ 0

/-- What stays behind when a call fails: the library without the entry point that was looked for, or
the resource that the call was to end. -/
def Call.leaves : Call → Option Kind
  | .getProcAddress _ => some .observerModule
  | .netEventUnsubscribe => some .subscription
  | .engineClose => some .engine
  | .freeLibrary => some .observerModule
  | .releaseDll => some .coreDll
  | _ => none

def leftBy (c : Call × UInt32) : Option Kind :=
  if c.2 = 0 then none else c.1.leaves

def leaked (calls : List (Call × UInt32)) : Multiset Kind :=
  ↑(calls.filterMap leftBy)

/-! ## The observer -/

structure ObserverHandle where
  memory : Handle
  engine : Option Handle
  subscription : Option Handle

/-- The return code, and what is stored through the output pointer. -/
def flydpiWfpObserverStart (outObserver : Bool) : Os (UInt32 × Option ObserverHandle) := do
  if !outObserver then
    return (ERROR_INVALID_PARAMETER, none)
  let observer ← acquire .observer
  let rc ← ask .engineOpen
  if rc ≠ ERROR_SUCCESS then
    -- the unique pointer goes out of scope
    release observer
    return (rc, none)
  let engine ← acquire .engine
  let rc ← ask .netEventSubscribe
  if rc ≠ ERROR_SUCCESS then
    closeWith .engineClose engine
    release observer
    return (rc, none)
  let subscription ← acquire .subscription
  return (ERROR_SUCCESS,
    some { memory := observer, engine := some engine, subscription := some subscription })

def flydpiWfpObserverStop (observer : Option ObserverHandle) : Os Unit := do
  match observer with
  | none => return ()
  | some observer =>
      -- a subscription is ended in its session
      if observer.subscription.isSome then
        useHandle observer.engine
        closeHandle .netEventUnsubscribe observer.subscription
      closeHandle .engineClose observer.engine
      -- also when a call has failed and the subscription still refers to it
      release observer.memory

/-! ## What they acquire and release -/

theorem failure_nil : failure [] = none :=
  rfl

theorem failure_append (calls calls' : List (Call × UInt32)) :
    failure (calls ++ calls') = (failure calls).or (failure calls') :=
  List.find?_append

theorem failure_cons_zero (call : Call) (calls : List (Call × UInt32)) :
    failure ((call, 0) :: calls) = failure calls :=
  rfl

theorem failure_cons {call : Call} {rc : UInt32} (h : rc ≠ 0) (calls : List (Call × UInt32)) :
    failure ((call, rc) :: calls) = some (call, rc) := by
  simp [failure, h]

theorem leaked_append (calls calls' : List (Call × UInt32)) :
    leaked (calls ++ calls') = leaked calls + leaked calls' := by
  rw [leaked, List.filterMap_append]
  rfl

theorem leaked_cons_zero (call : Call) (calls : List (Call × UInt32)) :
    leaked ((call, 0) :: calls) = leaked calls :=
  rfl

theorem leftBy_fails {call : Call} {rc : UInt32} (h : rc ≠ 0) : leftBy (call, rc) = call.leaves :=
  if_neg h

theorem leaked_cons_fails {call : Call} {rc : UInt32} (h : rc ≠ 0) (calls : List (Call × UInt32)) :
    leaked ((call, rc) :: calls) = ↑call.leaves.toList + leaked calls := by
  have hleft : leftBy (call, rc) = call.leaves := leftBy_fails h
  cases hleaves : call.leaves with
  | none =>
      rw [hleaves] at hleft
      simp [leaked, hleft]
  | some kind =>
      rw [hleaves] at hleft
      simp [leaked, hleft]

theorem leaked_single {call : Call} (h : call.leaves = none) (rc : UInt32) :
    leaked [(call, rc)] = 0 := by
  have hleft : leftBy (call, rc) = none := by
    rw [leftBy]
    split
    · rfl
    · exact h
  simp [leaked, hleft]

/-- Where nothing failed, nothing is left. -/
theorem leaked_of_failure_eq_none {calls : List (Call × UInt32)} (h : failure calls = none) :
    leaked calls = 0 := by
  have hnone : calls.filterMap leftBy = [] := by
    rw [List.filterMap_eq_nil_iff]
    intro c hc
    have hrc : c.2 = 0 := by
      simpa using List.find?_eq_none.1 h c hc
    rw [leftBy, if_pos hrc]
  rw [leaked, hnone]
  rfl

theorem closes_call (env : OsEnv) {call : Call} {r : Handle} (h : call.leaves = some r.kind) :
    Closes leftBy env {r} (closeWith call r) :=
  Closes.closeWith rfl fun _ hrc => (leftBy_fails hrc).trans h

namespace ObserverHandle

/-- Everything the observer holds, the newest first. -/
def resources (o : ObserverHandle) : Multiset Handle :=
  ↑(o.subscription.toList ++ (o.engine.toList ++ [o.memory]))

/-- All three handles are open. -/
structure Running (o : ObserverHandle) : Prop where
  memory : o.memory.kind = .observer
  engine : ∃ engine, o.engine = some engine ∧ engine.kind = .engine
  subscription : ∃ subscription, o.subscription = some subscription ∧
    subscription.kind = .subscription

end ObserverHandle

/-- The calls that `flydpi_wfp_observer_start` makes. -/
def Call.ofObserver : Call → Prop
  | .engineOpen => True
  | .netEventSubscribe => True
  | _ => False

/-- A start runs the observer, or returns the code of the call that failed and leaves nothing but an
engine that could not be closed. -/
theorem flydpiWfpObserverStart_spec (env : OsEnv) :
    Triple env 0 (flydpiWfpObserverStart true) fun result owned made =>
      (result.1 = 0 ∧ failure made = none ∧
        ∃ o : ObserverHandle, result.2 = some o ∧ o.Running ∧ owned = o.resources) ∨
      (result.1 ≠ 0 ∧ result.2 = none ∧ owned.map Resource.kind = leaked made ∧
        ∃ call : Call, call.ofObserver ∧ failure made = some (call, result.1)) := by
  unfold flydpiWfpObserverStart
  refine Triple.acquire fun memory hmemory => ?_
  refine Triple.ask fun rc => ?_
  split
  · rename_i hrc
    refine Triple.release (Triple.pure (Or.inr ⟨hrc, rfl, ?_, .engineOpen, trivial, ?_⟩))
    · rw [leaked_cons_fails hrc]
      rfl
    · exact failure_cons hrc _
  · rename_i hrc
    have hrc : rc = 0 := not_not.1 hrc
    subst hrc
    refine Triple.acquire fun engine hengine => ?_
    refine Triple.ask fun rc => ?_
    split
    · rename_i hrc
      have hclose : Closes leftBy env {engine} (closeWith .engineClose engine) :=
        closes_call env (by rw [hengine]; rfl)
      refine Triple.bind (hclose.frame {memory}) fun _ owned made hclosed => ?_
      rcases hclosed with ⟨rest, hleft, rfl⟩
      rw [Multiset.add_comm, Multiset.singleton_add]
      refine Triple.release (Triple.pure (Or.inr ⟨hrc, rfl, ?_, .netEventSubscribe, trivial, ?_⟩))
      · rw [hleft, leaked_cons_zero, leaked_cons_fails hrc, List.append_nil]
        exact (Multiset.zero_add _).symm
      · rw [failure_cons_zero]
        exact failure_cons hrc _
    · rename_i hrc
      have hrc : rc = 0 := not_not.1 hrc
      subst hrc
      refine Triple.acquire fun subscription hsubscription => ?_
      exact Triple.pure (Or.inl ⟨rfl, rfl, _, rfl,
        ⟨hmemory, ⟨engine, rfl, hengine⟩, ⟨subscription, rfl, hsubscription⟩⟩, rfl⟩)

/-- Stopping a running observer ends all it holds, as far as the calls succeed. -/
theorem flydpiWfpObserverStop_spec (env : OsEnv) {o : ObserverHandle} (h : o.Running) :
    Closes leftBy env o.resources (flydpiWfpObserverStop (some o)) := by
  rcases h.engine with ⟨engine, hengine, hengineKind⟩
  rcases h.subscription with ⟨subscription, hsubscription, hsubscriptionKind⟩
  have hresources : o.resources = {subscription} + ({engine} + {o.memory}) := by
    simp only [ObserverHandle.resources, hengine, hsubscription]
    rfl
  rw [hresources]
  simp only [flydpiWfpObserverStop, hengine, hsubscription, Option.isSome_some, if_true, useHandle,
    closeHandle]
  refine Closes.use (by simp) ?_
  refine (closes_call env (by rw [hsubscriptionKind]; rfl)).bind fun _ => ?_
  refine (closes_call env (by rw [hengineKind]; rfl)).bind fun _ => ?_
  exact Closes.release o.memory

end Native
end FlyDpi
