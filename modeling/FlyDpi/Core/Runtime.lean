import FlyDpi.Core.Ingest

/-!
# Runtime — the C ABI facade

The model of the consumer side of `runtime.rs`: the conversion of an event to its ABI record, and
the two ways a consumer takes events out of the ring.
-/

namespace FlyDpi
namespace Core

open Lib Native

structure FlyDpiRuntimeEvent where
  timestampUnixMs : UInt64
  kind : UInt32
  protocol : UInt32
  remotePort : UInt16
  processId : UInt32
  latencyMs : UInt64
  errorCode : Int32
  reserved : UInt32
  deriving DecidableEq

def eventKindCode : EventKind → UInt32
  | .packetObserved => 1
  | .connectAttempt => 2
  | .connectSuccess => 3
  | .connectFailure => 4
  | .resetObserved => 5
  | .receiveTimeout => 6
  | .dnsAddressMismatch => 7

def protocolCode (protocol : String) : UInt32 :=
  if protocol = "tcp" then 6
  else if protocol = "udp" then 17
  else 0

/-- `FlyDpiRuntimeEvent::from`. -/
def FlyDpiRuntimeEvent.ofEvent (event : NetworkEvent) : FlyDpiRuntimeEvent :=
  { timestampUnixMs := event.timestampUnixMs
    kind := eventKindCode event.kind
    protocol := protocolCode event.protocol
    remotePort := event.remotePort
    processId := event.processId.getD 0
    latencyMs := event.latencyMs.getD 0
    errorCode := event.errorCode.getD 0
    reserved := 0 }

/-- `runtime.events.lock()` followed by `ring.drain(max)`; nothing when the lock fails. -/
def lockAndDrain (events : Mutex EventRing) (max : Nat) : List NetworkEvent × Mutex EventRing :=
  match events.lock with
  | some ring => ((ring.drain max).1, { events with value := (ring.drain max).2 })
  | none => ([], events)

/-- `flydpi_runtime_poll`: the return code, the event written and the ring afterwards.  `none` is a
null runtime; `outEvent` says whether the output pointer is not null. -/
def flydpiRuntimePoll (runtime : Option (Mutex EventRing)) (outEvent : Bool) :
    (UInt32 × Option FlyDpiRuntimeEvent) × Option (Mutex EventRing) :=
  match runtime, outEvent with
  | some events, true =>
      -- one event at most, taken under the lock
      let drained := lockAndDrain events 1
      match drained.1.head? with
      | some event => ((1, some (.ofEvent event)), some drained.2)
      | none => ((0, none), some drained.2)
  -- `ERROR_INVALID_PARAMETER`
  | runtime, _ => ((87, none), runtime)

/-- `flydpi_runtime_drain`: the events written, in order; their number is the return value. -/
def flydpiRuntimeDrain (runtime : Option (Mutex EventRing)) (outEvents : Bool) (capacity : Nat) :
    List FlyDpiRuntimeEvent × Option (Mutex EventRing) :=
  match runtime, outEvents with
  | some events, true =>
      if capacity = 0 then
        ([], some events)
      else
        let drained := lockAndDrain events capacity
        (drained.1.map .ofEvent, some drained.2)
  | runtime, _ => ([], runtime)

/-! ## Consumers drain the ring -/

section Consumers

variable {events events' : Mutex EventRing}

theorem lockAndDrain_eq (h : events.poisoned = false) (max : Nat) :
    lockAndDrain events max =
      ((events.value.drain max).1, { events with value := (events.value.drain max).2 }) := by
  simp [lockAndDrain, Mutex.lock, h]

/-- A poll hands out what `drain(1)` does. -/
theorem flydpiRuntimePoll_spec (h : events.poisoned = false) {rc : UInt32}
    {written : Option FlyDpiRuntimeEvent}
    (hpoll : flydpiRuntimePoll (some events) true = ((rc, written), some events')) :
    written.toList = (events.value.drain 1).1.map .ofEvent ∧
      events' = { events with value := (events.value.drain 1).2 } := by
  simp only [flydpiRuntimePoll, lockAndDrain_eq h] at hpoll
  rw [EventRing.fst_drain] at hpoll ⊢
  cases hring : events.value.events with
  | nil =>
      simp only [hring, List.take_nil, List.head?_nil, Prod.mk.injEq, Option.some.injEq] at hpoll
      rcases hpoll with ⟨⟨_, rfl⟩, rfl⟩
      exact ⟨rfl, rfl⟩
  | cons event rest =>
      simp only [hring, List.take_succ_cons, List.take_zero, List.head?_cons, Prod.mk.injEq,
        Option.some.injEq] at hpoll
      rcases hpoll with ⟨⟨_, rfl⟩, rfl⟩
      exact ⟨rfl, rfl⟩

/-- A drain hands out what `drain(capacity)` does. -/
theorem flydpiRuntimeDrain_spec (h : events.poisoned = false) {capacity : Nat}
    {written : List FlyDpiRuntimeEvent}
    (hdrain : flydpiRuntimeDrain (some events) true capacity = (written, some events')) :
    written = (events.value.drain capacity).1.map .ofEvent ∧
      events' = { events with value := (events.value.drain capacity).2 } := by
  simp only [flydpiRuntimeDrain, lockAndDrain_eq h] at hdrain
  split at hdrain
  · rename_i hzero
    subst hzero
    cases hdrain
    rw [EventRing.drain_zero]
    exact ⟨rfl, rfl⟩
  · cases hdrain
    exact ⟨rfl, rfl⟩

end Consumers

end Core
end FlyDpi
