import FlyDpi.Core.Pipeline
import FlyDpi.Lib.Batches
import FlyDpi.Orchestrator.Rpc

/-!
# Backend — the server's connections on the running pipeline

The goroutines of `ListenLoop`, one for each connection, and the pipeline of the native runtime under
them.  A step is one access to what connections share: the sequence number, the mutex of the manager,
one poll of the ring, the history.  Native callbacks and the ingest worker run between any two steps.
-/

namespace FlyDpi
namespace Orchestrator
namespace Backend

open Lib FlyDpi.Core Diagnostic Server Rpc

/-- What `main` hands to the server. -/
structure Setup where
  engine : Engine
  go : Go
  runtime : RuntimeState
  runtimeError : String

/-- A request and what `Handle` returned for it; `batch` is what it took out of the ring, if it held
the mutex for that. -/
structure Answer where
  request : Request
  response : Response
  batch : Option (List FlyDpiRuntimeEvent)

/-- Where the goroutine of a connection is. -/
inductive Handler
  /-- In `dec.Decode`. -/
  | decoding
  | dispatching (request : Request)
  /-- In `PollBatch` for a `telemetry.poll`, with the mutex. -/
  | polling (request : Request) (limit : Nat)
  /-- In `engine.Run`. -/
  | diagnosing (request : Request)
  | waiting (request : Request) (report : DiagnosticReport)
  /-- In `PollBatch` for a diagnosis, with the mutex. -/
  | reading (request : Request) (report : DiagnosticReport)
  /-- Before `history.Add`. -/
  | recording (request : Request) (report : DiagnosticReport)
      (batch : Option (List FlyDpiRuntimeEvent))
  /-- In `enc.Encode`. -/
  | answering (answer : Answer)
  /-- Returned; an answer that could not be written is lost. -/
  | closed (lost : Option Answer)

structure Connection where
  /-- The requests decoded so far. -/
  requests : List Request
  handler : Handler
  /-- The answers written so far. -/
  answers : List Answer
  /-- The response to what could not be decoded. -/
  parting : Option Response

def Connection.new : Connection :=
  { requests := []
    handler := .decoding
    answers := []
    parting := none }

structure Shared where
  core : Core.World
  seq : UInt64
  /-- What was taken out of the ring under the mutex; a batch is open while the mutex is held. -/
  batches : Batches Nat FlyDpiRuntimeEvent
  /-- The reports handed to `history.Add`. -/
  added : List DiagnosticReport

/-- One poll of the ring that returned an event or nothing. -/
def Shared.polled (s : Shared) (event : Option FlyDpiRuntimeEvent) (ring : Mutex EventRing) :
    Core.World :=
  { s.core with
    shared := { s.core.shared with events := ring }
    delivered := s.core.delivered ++ event.toList }

/-- How many polls the batch in progress makes at most. -/
def Handler.limit : Handler → Option Nat
  | .polling _ limit => some limit
  | .reading _ _ => some (batchLimit diagnosticLimit)
  | _ => none

/-- The end of `PollBatch`: the batch is full, or the ring has nothing more. -/
inductive Ends (s : Shared) (limit : Nat) (out : List FlyDpiRuntimeEvent) : Core.World → Prop
  | full : limit ≤ out.length → Ends s limit out s.core
  | empty {ring : Mutex EventRing} : out.length < limit →
      poll s.core.shared.events = (none, ring) → Ends s limit out (s.polled none ring)

/-- `status.get`; only a manager that is not running has an error. -/
def statusResult (setup : Setup) (seq : UInt64) : Result :=
  .status (decide (setup.runtime = .enabled))
    (if setup.runtime = .disabled then setup.runtimeError else "") seq

/-- `telemetry.poll` without a running runtime; the manager returns a nil slice. -/
def nothingPolled (runtime : RuntimeState) : Result :=
  .events (if runtime = .absent then some [] else none)

/-- The report that is returned, with what the batch says about the telemetry. -/
def reported (runtime : RuntimeState) (batch : Option (List FlyDpiRuntimeEvent))
    (report : DiagnosticReport) : DiagnosticReport :=
  correlate runtime ((batch.getD []).map convert) report

/-- The answer to a request. -/
def answered (request : Request) (outcome : Except RPCError Result)
    (batch : Option (List FlyDpiRuntimeEvent)) : Answer :=
  { request := request
    response := { id := request.id, outcome := outcome }
    batch := batch }

section Steps

variable (setup : Setup)

/-- One step of the goroutine of connection `c`. -/
inductive Serves (c : Nat) : Shared → Connection → Shared → Connection → Prop
  | decode {s : Shared} {conn : Connection} (request : Request) : conn.handler = .decoding →
      Serves c s conn s
        { conn with
          requests := conn.requests ++ [request]
          handler := .dispatching request }
  | endOfStream {s : Shared} {conn : Connection} : conn.handler = .decoding →
      Serves c s conn s { conn with handler := .closed none }
  -- the ID is what had been decoded of it
  | invalidJson {s : Shared} {conn : Connection} (id : UInt64) : conn.handler = .decoding →
      Serves c s conn s
        { conn with
          handler := .closed none
          parting := some
            { id := id
              outcome := .error { code := -32700, message := lit "invalid JSON" } } }
  | reply {s : Shared} {conn : Connection} {request : Request} {outcome : Except RPCError Result} :
      conn.handler = .dispatching request → Replies setup.go request outcome →
      Serves c s conn s { conn with handler := .answering (answered request outcome none) }
  | status {s : Shared} {conn : Connection} {request : Request} :
      conn.handler = .dispatching request → request.calls .statusGet →
      Serves c s conn s
        { conn with
          handler := .answering (answered request (.ok (statusResult setup s.seq)) none) }
  | pollNothing {s : Shared} {conn : Connection} {request : Request} :
      conn.handler = .dispatching request → request.calls .telemetryPoll →
      setup.runtime ≠ .enabled →
      Serves c s conn s
        { conn with
          handler := .answering (answered request (.ok (nothingPolled setup.runtime)) none) }
  | pollStart {s : Shared} {conn : Connection} {request : Request} :
      conn.handler = .dispatching request → request.calls .telemetryPoll →
      setup.runtime = .enabled → s.batches.current = none →
      Serves c s conn { s with batches := s.batches.opened c }
        { conn with handler := .polling request (batchLimit (request.limit setup.go)) }
  | next {s : Shared} {conn : Connection} {limit : Nat} {out : List FlyDpiRuntimeEvent}
      {event : FlyDpiRuntimeEvent} {ring : Mutex EventRing} :
      conn.handler.limit = some limit → s.batches.current = some (c, out) → out.length < limit →
      poll s.core.shared.events = (some event, ring) →
      Serves c s conn { s with core := s.polled (some event) ring, batches := s.batches.took event }
        conn
  | pollEnd {s : Shared} {conn : Connection} {request : Request} {limit : Nat}
      {out : List FlyDpiRuntimeEvent} {core : Core.World} :
      conn.handler = .polling request limit → s.batches.current = some (c, out) →
      Ends s limit out core →
      Serves c s conn { s with core := core, batches := s.batches.closed }
        { conn with
          handler := .answering
            (answered request (.ok (.events (some (out.map convert)))) (some out)) }
  | diagnose {s : Shared} {conn : Connection} {request : Request} :
      conn.handler = .dispatching request → request.calls .diagnosticRun →
      Serves c s conn { s with seq := s.seq + 1 } { conn with handler := .diagnosing request }
  | engineDone {s : Shared} {conn : Connection} {request : Request} (env : Environment) :
      conn.handler = .diagnosing request →
      Serves c s conn s { conn with handler := .waiting request (setup.engine.run env) }
  | readNothing {s : Shared} {conn : Connection} {request : Request} {report : DiagnosticReport} :
      conn.handler = .waiting request report → setup.runtime ≠ .enabled →
      Serves c s conn s { conn with handler := .recording request report none }
  | readStart {s : Shared} {conn : Connection} {request : Request} {report : DiagnosticReport} :
      conn.handler = .waiting request report → setup.runtime = .enabled →
      s.batches.current = none →
      Serves c s conn { s with batches := s.batches.opened c }
        { conn with handler := .reading request report }
  | readEnd {s : Shared} {conn : Connection} {request : Request} {report : DiagnosticReport}
      {out : List FlyDpiRuntimeEvent} {core : Core.World} :
      conn.handler = .reading request report → s.batches.current = some (c, out) →
      Ends s (batchLimit diagnosticLimit) out core →
      Serves c s conn { s with core := core, batches := s.batches.closed }
        { conn with handler := .recording request report (some out) }
  -- whether `history.Add` succeeds makes no difference to the response
  | record {s : Shared} {conn : Connection} {request : Request} {report : DiagnosticReport}
      {batch : Option (List FlyDpiRuntimeEvent)} :
      conn.handler = .recording request report batch →
      Serves c s conn { s with added := s.added ++ [reported setup.runtime batch report] }
        { conn with
          handler := .answering
            (answered request (.ok (.report (reported setup.runtime batch report))) batch) }
  | encode {s : Shared} {conn : Connection} {answer : Answer} : conn.handler = .answering answer →
      Serves c s conn s
        { conn with
          handler := .decoding
          answers := conn.answers ++ [answer] }
  | encodeError {s : Shared} {conn : Connection} {answer : Answer} :
      conn.handler = .answering answer →
      Serves c s conn s { conn with handler := .closed (some answer) }

end Steps

end Backend

/-- The process: what the connections share, and the connections accepted so far. -/
structure Backend where
  shared : Backend.Shared
  connections : List Backend.Connection

namespace Backend

def start : Backend :=
  { shared :=
      { core := Core.World.start
        seq := 0
        batches := .new
        added := [] }
    connections := [] }

/-- What the native side and the worker do by themselves. -/
def Internal : Core.Action → Prop
  | .callback _ => True
  | .countEvent => True
  | .worker _ => True
  | _ => False

inductive Step (setup : Setup) : Backend → Backend → Prop
  | core {b : Backend} {action : Core.Action} {core : Core.World} : Internal action →
      Core.World.Step b.shared.core action core →
      Step setup b { b with shared := { b.shared with core := core } }
  | accept {b : Backend} :
      Step setup b { b with connections := b.connections ++ [Connection.new] }
  | serve {b : Backend} {c : Nat} {conn conn' : Connection} {shared : Shared} :
      b.connections[c]? = some conn → Serves setup c b.shared conn shared conn' →
      Step setup b
        { shared := shared
          connections := b.connections.set c conn' }

def Reachable (setup : Setup) (b : Backend) : Prop :=
  Relation.ReflTransGen (Step setup) start b

end Backend
end Orchestrator
end FlyDpi
