import FlyDpi.Native.ObserverSession

/-!
# RuntimeLifecycle — opening and closing the observation runtime

The parts of `wfp_bridge.rs`, `ingest.rs` and `runtime.rs` that acquire and release: the bridge to
the observer library, the ingest thread and the boxed runtime, with the error codes of a start that
fails.  The loop of the thread and the events are modelled in `Ingest` and `Runtime`.
-/

namespace FlyDpi
namespace Core
namespace Lifecycle

open Lib Lib.Resources Native

/-! ## The bridge -/

inductive BridgeError
  | unsupportedPlatform
  | invalidPath
  | loadFailed
  | missingSymbol
  | startFailed (code : UInt32)
  | workerStartFailed
  deriving DecidableEq, Repr

structure WfpObserverBridge where
  module : Handle
  observer : Option ObserverHandle

/-- The entry points that `open` looks up, in this order. -/
def symbols : List String :=
  ["flydpi_wfp_observer_start", "flydpi_wfp_observer_stop", "flydpi_wfp_observer_pop",
    "flydpi_wfp_observer_dropped_count"]

def findSymbols (module : Handle) : List String → Os Bool
  | [] => return true
  | name :: names => do
      use module
      let rc ← ask (.getProcAddress name)
      if rc ≠ 0 then
        return false
      findSymbols module names

namespace WfpObserverBridge

/-- `WfpObserverBridge::open`. -/
def openLibrary (path : Bytes) : Os (Except BridgeError WfpObserverBridge) := do
  -- `CString::new`
  if 0 ∈ path then
    return .error .invalidPath
  let rc ← ask .loadLibrary
  if rc ≠ 0 then
    return .error .loadFailed
  let module ← acquire .observerModule
  let found ← findSymbols module symbols
  if !found then
    -- the `?` returns at once: nothing frees the library
    return .error .missingSymbol
  use module
  let (rc, observer) ← flydpiWfpObserverStart true
  if rc ≠ 0 then
    closeWith .freeLibrary module
    return .error (.startFailed rc)
  return .ok { module := module, observer := observer }

def drop (bridge : WfpObserverBridge) : Os Unit := do
  use bridge.module
  flydpiWfpObserverStop bridge.observer
  closeWith .freeLibrary bridge.module

end WfpObserverBridge

/-! ## The worker -/

/-- The thread owns the bridge. -/
structure IngestWorker where
  thread : Handle
  bridge : WfpObserverBridge

namespace IngestWorker

def start (path : Bytes) : Os (Except BridgeError IngestWorker) := do
  let bridge ← WfpObserverBridge.openLibrary path
  match bridge with
  | .error error => return .error error
  | .ok bridge =>
      let rc ← ask .spawn
      if rc ≠ 0 then
        -- the closure is dropped with the bridge in it
        bridge.drop
        return .error .workerStartFailed
      let thread ← acquire .worker
      return .ok { thread := thread, bridge := bridge }

/-- The flag is stored and the thread joined; it drops the bridge when it leaves its loop. -/
def stop (worker : IngestWorker) : Os Unit := do
  use worker.thread
  worker.bridge.drop
  release worker.thread

end IngestWorker

/-! ## The runtime -/

structure FlyDpiRuntime where
  memory : Handle
  worker : Option IngestWorker

/-- `a.saturating_add(b)` on `u32`. -/
def saturatingAdd32 (a b : UInt32) : UInt32 :=
  UInt32.ofNat (min (a.toNat + b.toNat) (2 ^ 32 - 1))

def bridgeErrorCode : BridgeError → UInt32
  | .unsupportedPlatform => 1
  | .invalidPath => 2
  | .loadFailed => 3
  | .missingSymbol => 4
  | .startFailed code => saturatingAdd32 0x10000000 code
  | .workerStartFailed => 5

/-- `CStr::to_str` succeeds. -/
def isUtf8 (s : Bytes) : Bool :=
  ByteArray.validateUTF8 ⟨s.toArray⟩

/-- `flydpi_runtime_start`: the pointer that is returned, and what `LAST_START_ERROR` holds
afterwards. -/
def flydpiRuntimeStart (dllPath : Option Bytes) : Os (Option FlyDpiRuntime × UInt32) := do
  match dllPath with
  | none => return (none, 2)
  | some path =>
      if !(isUtf8 path && !path.isEmpty) then
        return (none, 2)
      let worker ← IngestWorker.start path
      match worker with
      | .error error => return (none, bridgeErrorCode error)
      | .ok worker =>
          let memory ← acquire .runtime
          return (some { memory := memory, worker := some worker }, 0)

def flydpiRuntimeStop (runtime : Option FlyDpiRuntime) : Os Unit := do
  match runtime with
  | none => return ()
  | some runtime =>
      use runtime.memory
      match runtime.worker with
      | none => release runtime.memory
      | some worker =>
          worker.stop
          release runtime.memory

/-! ## What a start acquires, and a stop releases -/

/-- The error of the bridge for the call that failed. -/
def bridgeErrorOf : Call × UInt32 → BridgeError
  | (.getProcAddress _, _) => .missingSymbol
  | (.engineOpen, rc) => .startFailed rc
  | (.netEventSubscribe, rc) => .startFailed rc
  | (.spawn, _) => .workerStartFailed
  | _ => .loadFailed

/-- The calls that a native start makes. -/
def ofStart : Call → Prop
  | .loadLibrary => True
  | .getProcAddress _ => True
  | .engineOpen => True
  | .netEventSubscribe => True
  | .spawn => True
  | _ => False

theorem ofStart_ofObserver {call : Call} (h : call.ofObserver) : ofStart call := by
  cases call with
  | engineOpen =>
      trivial
  | netEventSubscribe =>
      trivial
  | _ =>
      exact h.elim

theorem bridgeErrorOf_ofObserver {call : Call} (h : call.ofObserver) (rc : UInt32) :
    bridgeErrorOf (call, rc) = .startFailed rc := by
  cases call with
  | engineOpen =>
      rfl
  | netEventSubscribe =>
      rfl
  | _ =>
      exact h.elim

/-- The first failure is the one that the error stands for, and of what was acquired only what failing
calls leave is left. -/
def Refused (error : BridgeError) (owned : Multiset Handle) (made : List (Call × UInt32)) : Prop :=
  owned.map Resource.kind = leaked made ∧
    ∃ c, failure made = some c ∧ ofStart c.1 ∧ error = bridgeErrorOf c

namespace WfpObserverBridge

def resources (bridge : WfpObserverBridge) : Multiset Handle :=
  (match bridge.observer with
    | some observer => observer.resources
    | none => 0) + {bridge.module}

structure Open (bridge : WfpObserverBridge) : Prop where
  module : bridge.module.kind = .observerModule
  observer : ∃ observer, bridge.observer = some observer ∧ observer.Running

end WfpObserverBridge

section Specs

variable (env : OsEnv)

theorem findSymbols_spec (module : Handle) (names : List String) :
    Triple env {module} (findSymbols module names) fun found owned made =>
      owned = {module} ∧
        ((found = true ∧ failure made = none) ∨
          (found = false ∧ leaked made = {Kind.observerModule} ∧
            ∃ name rc, failure made = some (.getProcAddress name, rc))) := by
  induction names with
  | nil =>
      exact Triple.pure ⟨rfl, Or.inl ⟨rfl, rfl⟩⟩
  | cons name names ih =>
      refine Triple.use (Multiset.mem_singleton_self _) ?_
      refine Triple.ask fun rc => ?_
      split
      · rename_i hrc
        refine Triple.pure ⟨rfl, Or.inr ⟨rfl, ?_, name, rc, failure_cons hrc _⟩⟩
        rw [leaked_cons_fails hrc]
        rfl
      · rename_i hrc
        have hrc : rc = 0 := not_not.1 hrc
        subst hrc
        refine ih.consequence ?_
        rintro found owned made ⟨howned, hfound⟩
        exact ⟨howned, hfound⟩

theorem openLibrary_spec {path : Bytes} (hpath : 0 ∉ path) :
    Triple env 0 (WfpObserverBridge.openLibrary path) fun result owned made =>
      (∃ bridge : WfpObserverBridge, result = .ok bridge ∧ bridge.Open ∧ owned = bridge.resources ∧
        failure made = none) ∨
      (∃ error, result = .error error ∧ Refused error owned made) := by
  unfold WfpObserverBridge.openLibrary
  rw [if_neg hpath]
  refine Triple.ask fun rc => ?_
  split
  · rename_i hrc
    refine Triple.pure (Or.inr ⟨_, rfl, ?_, _, failure_cons hrc _, trivial, rfl⟩)
    rw [leaked_cons_fails hrc]
    rfl
  · rename_i hrc
    have hrc : rc = 0 := not_not.1 hrc
    subst hrc
    refine Triple.acquire fun module hmodule => ?_
    refine Triple.bind (findSymbols_spec env module symbols) fun found owned made hfound => ?_
    rcases hfound with ⟨rfl, ⟨rfl, hmade⟩ | ⟨rfl, hleaked, name, rc, hmade⟩⟩
    · simp only [Bool.not_true, Bool.false_eq_true, if_false]
      refine Triple.use (Multiset.mem_singleton_self _) ?_
      refine Triple.bind ((flydpiWfpObserverStart_spec env).frame_zero {module})
        fun result owned made' hstart => ?_
      rcases hstart with ⟨rest, hstarted | hrefused, rfl⟩
      · rcases hstarted with ⟨hrc, hmade', observer, hobserver, hrunning, rfl⟩
        rw [if_neg (not_not.2 hrc)]
        refine Triple.pure (Or.inl ⟨_, rfl, ⟨hmodule, observer, hobserver, hrunning⟩, ?_, ?_⟩)
        · simp only [WfpObserverBridge.resources, hobserver]
        · simp [failure_cons_zero, failure_append, hmade, hmade']
      · rcases hrefused with ⟨hrc, _, hleft, call, hcall, hmade'⟩
        rw [if_pos hrc, Multiset.add_comm]
        have hfree : Closes leftBy env {module} (closeWith .freeLibrary module) :=
          closes_call env (by rw [hmodule]; rfl)
        refine Triple.bind (hfree.frame rest) fun _ owned made'' hfreed => ?_
        rcases hfreed with ⟨rest', hleft', rfl⟩
        refine Triple.pure (Or.inr ⟨_, rfl, ?_, (call, result.1), ?_, ofStart_ofObserver hcall, ?_⟩)
        · rw [Multiset.map_add, hleft, hleft', ← leaked, leaked_cons_zero, leaked_append,
            leaked_of_failure_eq_none hmade, leaked_append, List.append_nil, Multiset.zero_add,
            Multiset.add_comm]
        · simp [failure_cons_zero, failure_append, hmade, hmade']
        · exact (bridgeErrorOf_ofObserver hcall _).symm
    · simp only [Bool.not_false, if_true]
      refine Triple.pure (Or.inr ⟨_, rfl, ?_, (.getProcAddress name, rc), ?_, trivial, rfl⟩)
      · simp [leaked_cons_zero, hleaked, hmodule]
      · simp [failure_cons_zero, hmade]

theorem drop_spec {bridge : WfpObserverBridge} (h : bridge.Open) :
    Closes leftBy env bridge.resources bridge.drop := by
  rcases h.observer with ⟨observer, hobserver, hrunning⟩
  have hresources : bridge.resources = observer.resources + {bridge.module} := by
    simp only [WfpObserverBridge.resources, hobserver]
  rw [hresources]
  unfold WfpObserverBridge.drop
  rw [hobserver]
  refine Closes.use (by simp) ?_
  exact (flydpiWfpObserverStop_spec env hrunning).bind fun _ => closes_call env (by rw [h.module]; rfl)

end Specs

namespace IngestWorker

def resources (worker : IngestWorker) : Multiset Handle :=
  worker.thread ::ₘ worker.bridge.resources

structure Running (worker : IngestWorker) : Prop where
  thread : worker.thread.kind = .worker
  bridge : worker.bridge.Open

variable (env : OsEnv)

theorem start_spec {path : Bytes} (hpath : 0 ∉ path) :
    Triple env 0 (start path) fun result owned made =>
      (∃ worker : IngestWorker, result = .ok worker ∧ worker.Running ∧ owned = worker.resources ∧
        failure made = none) ∨
      (∃ error, result = .error error ∧ Refused error owned made) := by
  unfold start
  refine Triple.bind (openLibrary_spec env hpath) fun result owned made hopened => ?_
  rcases hopened with ⟨bridge, rfl, hopen, rfl, hmade⟩ | ⟨error, rfl, hleaked, c, hmade, hc, herror⟩
  · refine Triple.ask fun rc => ?_
    split
    · rename_i hrc
      refine Triple.bind (drop_spec env hopen) fun _ owned made' hleft => ?_
      refine Triple.pure (Or.inr ⟨_, rfl, ?_, (.spawn, rc), ?_, trivial, rfl⟩)
      · rw [hleft, ← leaked, leaked_append, leaked_of_failure_eq_none hmade, leaked_cons_fails hrc,
          List.append_nil, Multiset.zero_add]
        exact (Multiset.zero_add _).symm
      · simp [failure_append, hmade, failure_cons hrc]
    · rename_i hrc
      have hrc : rc = 0 := not_not.1 hrc
      subst hrc
      refine Triple.acquire fun thread hthread => ?_
      refine Triple.pure (Or.inl ⟨_, rfl, ⟨hthread, hopen⟩, rfl, ?_⟩)
      simp [failure_append, hmade, failure_cons_zero, failure_nil]
  · refine Triple.pure (Or.inr ⟨error, rfl, ?_, c, ?_, hc, herror⟩)
    · rw [List.append_nil]
      exact hleaked
    · rw [List.append_nil]
      exact hmade

theorem stop_spec {worker : IngestWorker} (h : worker.Running) :
    Closes leftBy env worker.resources worker.stop := by
  have hresources : worker.resources = worker.bridge.resources + {worker.thread} := by
    rw [resources, Multiset.add_comm]
    rfl
  rw [hresources]
  unfold stop
  refine Closes.use (by simp) ?_
  exact (drop_spec env h.bridge).bind fun _ => Closes.release worker.thread

end IngestWorker

namespace FlyDpiRuntime

def resources (runtime : FlyDpiRuntime) : Multiset Handle :=
  runtime.memory ::ₘ
    match runtime.worker with
    | some worker => worker.resources
    | none => 0

structure Running (runtime : FlyDpiRuntime) : Prop where
  memory : runtime.memory.kind = .runtime
  worker : ∃ worker, runtime.worker = some worker ∧ worker.Running

end FlyDpiRuntime

/-- The paths that a start does not refuse by themselves. -/
structure PathOk (path : Bytes) : Prop where
  utf8 : isUtf8 path = true
  nonempty : path ≠ []
  noNul : 0 ∉ path

section RuntimeSpecs

variable (env : OsEnv)

/-- A start with a usable path runs everything or reports the first call that failed. -/
theorem flydpiRuntimeStart_spec {path : Bytes} (hpath : PathOk path) :
    Triple env 0 (flydpiRuntimeStart (some path)) fun result owned made =>
      (∃ runtime : FlyDpiRuntime, result = (some runtime, 0) ∧ runtime.Running ∧
        owned = runtime.resources ∧ failure made = none) ∨
      (∃ error, result = (none, bridgeErrorCode error) ∧ Refused error owned made) := by
  unfold flydpiRuntimeStart
  have hnonempty : path.isEmpty = false := by
    simpa using hpath.nonempty
  simp only [hpath.utf8, hnonempty, Bool.not_false, Bool.and_self, Bool.not_true, Bool.false_eq_true,
    if_false]
  refine Triple.bind (IngestWorker.start_spec env hpath.noNul) fun result owned made hstarted => ?_
  rcases hstarted with ⟨worker, rfl, hrunning, rfl, hmade⟩ | ⟨error, rfl, hrefused⟩
  · refine Triple.acquire fun memory hmemory => ?_
    refine Triple.pure (Or.inl ⟨_, rfl, ⟨hmemory, worker, rfl, hrunning⟩, rfl, ?_⟩)
    rw [List.append_nil]
    exact hmade
  · refine Triple.pure (Or.inr ⟨error, rfl, ?_⟩)
    rw [List.append_nil]
    exact hrefused

/-- A path that is unusable is refused before anything is acquired or asked. -/
theorem flydpiRuntimeStart_badPath {path : Bytes} (hnul : 0 ∉ path) (hpath : ¬ PathOk path) :
    flydpiRuntimeStart (some path) = pure (none, 2) := by
  have hrefused : (!(isUtf8 path && !path.isEmpty)) = true := by
    cases hutf8 : isUtf8 path with
    | false =>
        rfl
    | true =>
        cases hempty : path.isEmpty with
        | true =>
            rfl
        | false =>
            exact absurd ⟨hutf8, by simpa using hempty, hnul⟩ hpath
  simp only [flydpiRuntimeStart, hrefused, if_true]

theorem flydpiRuntimeStop_spec {runtime : FlyDpiRuntime} (h : runtime.Running) :
    Closes leftBy env runtime.resources (flydpiRuntimeStop (some runtime)) := by
  rcases h.worker with ⟨worker, hworker, hrunning⟩
  have hresources : runtime.resources = worker.resources + {runtime.memory} := by
    rw [FlyDpiRuntime.resources, hworker, Multiset.add_comm]
    rfl
  rw [hresources]
  simp only [flydpiRuntimeStop, hworker]
  refine Closes.use (by simp) ?_
  exact (IngestWorker.stop_spec env hrunning).bind fun _ => Closes.release runtime.memory

end RuntimeSpecs

end Lifecycle
end Core
end FlyDpi
