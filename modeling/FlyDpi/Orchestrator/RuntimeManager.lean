import FlyDpi.Core.RuntimeLifecycle
import FlyDpi.Lib.Decimal
import FlyDpi.Orchestrator.GoStd
import FlyDpi.Orchestrator.Server

/-!
# RuntimeManager — the native runtime as the orchestrator holds it

The model of `runtime_windows.go` and `manager.go`: loading the core library, starting the runtime
behind it, polling it, and closing both.  The manager's operations run under its mutex, one after
the other.  How many events a poll finds is up to the environment here; the events themselves are
modelled in `Server`.
-/

namespace FlyDpi
namespace Orchestrator
namespace RuntimeManager

open Lib Lib.Resources Native Core.Lifecycle

/-- Texts of operating system errors: `syscall.Errno.Error`, and the system call that `os.Stat` names
in an error. -/
structure OsTexts where
  errno : UInt32 → Bytes
  statOp : UInt32 → Bytes

/-- `fs.PathError.Error`, of an error of `os.Stat`. -/
def pathError (os : OsTexts) (path : Bytes) (rc : UInt32) : Bytes :=
  os.statOp rc ++ lit " " ++ path ++ lit ": " ++ os.errno rc

/-- `syscall.DLLError.Error`, of an error of `LoadDLL`. -/
def loadError (os : OsTexts) (dll : Bytes) (rc : UInt32) : Bytes :=
  lit "Failed to load " ++ dll ++ lit ": " ++ os.errno rc

/-- `syscall.DLLError.Error`, of an error of `FindProc`. -/
def findError (os : OsTexts) (dll proc : Bytes) (rc : UInt32) : Bytes :=
  lit "Failed to find " ++ proc ++ lit " procedure in " ++ dll ++ lit ": " ++ os.errno rc

/-- `%d`. -/
def decimal (n : UInt32) : Bytes :=
  Decimal.zeroPadded 1 n.toNat

/-! ## runtime_windows.go -/

structure Runtime where
  /-- The library that the procedures point into. -/
  code : Handle
  /-- The reference to it that `Close` releases. -/
  dll : Option Handle
  rt : Option FlyDpiRuntime

/-- The procedures that `Open` looks up, each with what its absence is reported as. -/
def procs : List (String × String) :=
  [("flydpi_runtime_start", "runtime start symbol"),
    ("flydpi_runtime_last_error_code", "runtime error symbol"),
    ("flydpi_runtime_poll", "runtime poll symbol"),
    ("flydpi_runtime_stop", "runtime stop symbol")]

def describeStartError (os : OsTexts) (code fallback : UInt32) : Bytes :=
  if code = 0 then
    if fallback ≠ 0 then os.errno fallback else lit "unknown startup failure"
  else if code = 1 then lit "unsupported platform"
  else if code = 2 then lit "invalid observer DLL path"
  else if code = 3 then lit "failed to load observer DLL"
  else if code = 4 then lit "required observer entry point is missing"
  else if code = 5 then lit "failed to start WFP ingest worker"
  else if 0x10000000 ≤ code then
    lit "WFP observer start failed with Win32 code " ++ decimal (code - 0x10000000)
  else lit "startup error code " ++ decimal code

def startFailedText (os : OsTexts) (code fallback : UInt32) : Bytes :=
  lit "runtime start failed (code " ++ decimal code ++ lit "): " ++
    describeStartError os code fallback

/-- The error of the first procedure that is not found. -/
def findProcs (os : OsTexts) (coreDLL : Bytes) (dll : Handle) :
    List (String × String) → Os (Option Bytes)
  | [] => return none
  | (name, what) :: rest => do
      use dll
      let rc ← ask (.findProc name)
      if rc ≠ 0 then
        return some (lit what ++ lit ": " ++ findError os coreDLL (lit name) rc)
      findProcs os coreDLL dll rest

namespace Runtime

/-- `Open`; `callErr` is the error that the call of the start procedure leaves behind. -/
def openCore (os : OsTexts) (callErr : UInt32) (coreDLL observerDLL : Bytes) :
    Os (Except Bytes Runtime) := do
  let rc ← ask .loadDll
  if rc ≠ 0 then
    return .error (lit "load core dll: " ++ loadError os coreDLL rc)
  let dll ← acquire .coreDll
  let missing ← findProcs os coreDLL dll procs
  match missing with
  | some error =>
      closeWith .releaseDll dll
      return .error error
  | none =>
      -- `BytePtrFromString`
      if 0 ∈ observerDLL then
        closeWith .releaseDll dll
        return .error (lit "observer path: invalid argument")
      use dll
      let (ret, lastError) ← flydpiRuntimeStart (some observerDLL)
      match ret with
      | none =>
          -- `lastError.Call()`
          use dll
          closeWith .releaseDll dll
          return .error (startFailedText os lastError callErr)
      | some rt => return .ok { code := dll, dll := some dll, rt := some rt }

/-- `Poll`: whether an event was returned. -/
def poll (r : Runtime) : Os Bool := do
  use r.code
  match r.rt with
  -- the native function refuses a null runtime
  | none => return false
  | some rt =>
      use rt.memory
      let ret ← ask .runtimePoll
      return ret = 1

/-- The loop of `PollBatch` while `wanted` events are missing. -/
def pollLoop (r : Runtime) : Nat → Os Nat
  | 0 => return 0
  | wanted + 1 => do
      let found ← r.poll
      if !found then
        return 0
      let rest ← r.pollLoop wanted
      return rest + 1

/-- `PollBatch`: the number of events returned. -/
def pollBatch (r : Runtime) (limit : Int) : Os Nat :=
  r.pollLoop (Server.batchLimit limit)

def close (r : Runtime) : Os Runtime := do
  if r.rt.isSome then
    use r.code
    flydpiRuntimeStop r.rt
  closeHandle .releaseDll r.dll
  return { r with rt := none, dll := none }

end Runtime

/-! ## manager.go -/

structure Manager where
  rt : Option Runtime
  err : Option Bytes

def corePath (join : List Bytes → Bytes) (baseDir : Bytes) : Bytes :=
  join [baseDir, lit "bin", lit "flydpi-core.dll"]

def observerPath (join : List Bytes → Bytes) (baseDir : Bytes) : Bytes :=
  join [baseDir, lit "bin", lit "flydpi_wfp_observer.dll"]

/-- `NewManager`; `join` is `filepath.Join`. -/
def newManager (os : OsTexts) (callErr : UInt32) (join : List Bytes → Bytes)
    (baseDir : Bytes) : Os Manager := do
  if baseDir = [] then
    return { rt := none, err := none }
  let core := corePath join baseDir
  let observer := observerPath join baseDir
  let rc ← ask (.stat "flydpi-core.dll")
  if rc ≠ 0 then
    return { rt := none, err := some (lit "core runtime unavailable: " ++ pathError os core rc) }
  let rc ← ask (.stat "flydpi_wfp_observer.dll")
  if rc ≠ 0 then
    return { rt := none, err := some (lit "WFP observer unavailable: " ++ pathError os observer rc) }
  let opened ← Runtime.openCore os callErr core observer
  match opened with
  | .error error => return { rt := none, err := some error }
  | .ok rt => return { rt := some rt, err := none }

inductive ManagerOp
  | enabled
  | error
  | events (limit : Int)
  | close

namespace Manager

def enabled (m : Manager) : Bool :=
  m.rt.isSome

def error (m : Manager) : Bytes :=
  m.err.getD []

def events (m : Manager) (limit : Int) : Os Nat :=
  match m.rt with
  | none => return 0
  | some rt => rt.pollBatch limit

def close (m : Manager) : Os Manager := do
  match m.rt with
  | none => return m
  | some rt =>
      let _ ← rt.close
      return { m with rt := none }

/-- An operation under the mutex; the first two only read. -/
def handle (m : Manager) : ManagerOp → Os Manager
  | .enabled => return m
  | .error => return m
  | .events limit => do
      let _ ← m.events limit
      return m
  | .close => m.close

end Manager

/-- A process: the manager is created, then any goroutines use it. -/
def process (os : OsTexts) (callErr : UInt32) (join : List Bytes → Bytes) (baseDir : Bytes)
    (ops : List ManagerOp) : Os Manager := do
  let m ← newManager os callErr join baseDir
  ops.foldlM Manager.handle m

end RuntimeManager
end Orchestrator
end FlyDpi
