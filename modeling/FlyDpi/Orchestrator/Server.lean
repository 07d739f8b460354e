import FlyDpi.Core.Runtime
import FlyDpi.Orchestrator.Diagnostic

/-!
# Server — requests that read the runtime's events

The `telemetry.poll` and `diagnostic.run` branches of `Server.Handle`, with what they use of the
runtime manager: how many events a request asks for, one poll of the native ring, and what a
diagnosis makes of the events it reads.
-/

namespace FlyDpi
namespace Orchestrator
namespace Server

open Lib FlyDpi.Core Diagnostic

/-- The manager of the server: none, one whose runtime did not start, or a running one. -/
inductive RuntimeState
  | absent
  | disabled
  | enabled
  deriving DecidableEq, Repr

/-- `runtime.Event`, the part of a native record that is passed on. -/
structure Event where
  timestampUnixMs : UInt64
  kind : UInt32
  protocol : UInt32
  remotePort : UInt16
  processId : UInt32
  latencyMs : UInt64
  errorCode : Int32
  deriving DecidableEq

def convert (e : FlyDpiRuntimeEvent) : Event :=
  { timestampUnixMs := e.timestampUnixMs
    kind := e.kind
    protocol := e.protocol
    remotePort := e.remotePort
    processId := e.processId
    latencyMs := e.latencyMs
    errorCode := e.errorCode }

/-- The limit of a `telemetry.poll`; parameters that do not decode leave zero. -/
def telemetryLimit (paramsLimit : Int) : Int :=
  let limit := if 0 < paramsLimit then paramsLimit else 32
  if 128 < limit then 128 else limit

/-- The number of events a diagnosis asks for. -/
def diagnosticLimit : Int := 128

/-- How many polls `PollBatch(limit)` makes at most. -/
def batchLimit (limit : Int) : Nat :=
  if limit ≤ 0 then 0
  else if 256 < limit then 256
  else limit.toNat

/-- `Runtime.Poll`: an event, if the native call returned 1. -/
def poll (ring : Mutex EventRing) : Option FlyDpiRuntimeEvent × Mutex EventRing :=
  match flydpiRuntimePoll (some ring) true with
  | ((rc, event), ring') => (if rc = 1 then event else none, ring'.getD ring)

/-- One event in the summary of a diagnosis; the kinds are those of the ABI. -/
def countEvent (summary : WFPEventSummary) (event : Event) : WFPEventSummary :=
  let summary := { summary with observed := summary.observed + 1 }
  if event.kind = 5 then { summary with resetLike := summary.resetLike + 1 }
  else if event.kind = 6 then { summary with timeoutLike := summary.timeoutLike + 1 }
  else summary

/-- What `diagnostic.run` adds to the report of the engine, given the events it reads. -/
def correlate (runtime : RuntimeState) (events : List Event) (report : DiagnosticReport) :
    DiagnosticReport :=
  match runtime with
  | .absent =>
      { report with
        stages :=
          { report.stages with
            wfp :=
              { report.stages.wfp with
                status := .failed
                summary := "WFP telemetry manager не инициализирован" } } }
  | _ =>
      let report := { report with wfpEvents := events.foldl countEvent report.wfpEvents }
      if report.wfpEvents.observed = 0 ∧ runtime ≠ .enabled then
        { report with
          stages :=
            { report.stages with
              wfp :=
                { report.stages.wfp with
                  status := .failed
                  summary := "WFP telemetry недоступна: runtime не запущен" } } }
      else
        report

/-! ## What the operations do -/

theorem batchLimit_diagnosticLimit : batchLimit diagnosticLimit = 128 := by
  decide

/-- A poll takes the oldest event of the ring. -/
theorem poll_eq {ring : Mutex EventRing} (h : ring.poisoned = false) :
    poll ring =
      (ring.value.events.head?.map .ofEvent, { ring with value := (ring.value.drain 1).2 }) := by
  simp only [poll, flydpiRuntimePoll, lockAndDrain_eq h, EventRing.fst_drain]
  cases ring.value.events with
  | nil =>
      simp
  | cons event rest =>
      simp

theorem poll_some {ring ring' : Mutex EventRing} {event : FlyDpiRuntimeEvent}
    (h : ring.poisoned = false) (hpoll : poll ring = (some event, ring')) :
    ∃ e, event = .ofEvent e ∧ ring.value.events = e :: ring'.value.events ∧
      ring'.poisoned = false := by
  rw [poll_eq h, Prod.mk.injEq] at hpoll
  rcases hpoll with ⟨hevent, rfl⟩
  rcases Option.map_eq_some_iff.1 hevent with ⟨e, hhead, rfl⟩
  refine ⟨e, rfl, ?_, h⟩
  rw [EventRing.events_drain]
  cases hevents : ring.value.events with
  | nil =>
      simp [hevents] at hhead
  | cons e' rest =>
      simp only [hevents, List.head?_cons, Option.some.injEq] at hhead
      rw [hhead]
      rfl

theorem poll_none {ring ring' : Mutex EventRing} (h : ring.poisoned = false)
    (hpoll : poll ring = (none, ring')) :
    ring.value.events = [] ∧ ring'.value.events = [] ∧ ring'.poisoned = false := by
  rw [poll_eq h, Prod.mk.injEq] at hpoll
  rcases hpoll with ⟨hevent, rfl⟩
  have hnil : ring.value.events = [] := by
    simpa using hevent
  refine ⟨hnil, ?_, h⟩
  rw [EventRing.events_drain, hnil]
  rfl

/-- With a running runtime the stage keeps the status it had. -/
theorem wfpStatus_correlate_enabled (events : List Event) (report : DiagnosticReport) :
    (correlate .enabled events report).stages.wfp.status = report.stages.wfp.status := by
  simp [correlate]

theorem wfpEvents_correlate (runtime : RuntimeState) (hruntime : runtime ≠ .absent)
    (events : List Event) (report : DiagnosticReport) :
    (correlate runtime events report).wfpEvents = events.foldl countEvent report.wfpEvents := by
  unfold correlate
  split
  · exact absurd rfl hruntime
  · dsimp only
    split
    · rfl
    · rfl

end Server
end Orchestrator
end FlyDpi
