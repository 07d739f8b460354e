import FlyDpi.Orchestrator.HistoryStore
import FlyDpi.Orchestrator.ProfileStore
import FlyDpi.Orchestrator.Server

/-!
# Rpc — requests and responses of the server

The messages of `server.go` and the branches of `Handle` that do not touch the runtime.  What the
stores hold at the moment of a request is up to other requests: a list may be any list, and any
operation of a store may fail.
-/

namespace FlyDpi
namespace Orchestrator
namespace Rpc

open Lib Diagnostic

/-- A request as `Decode` fills it; a field that is missing is empty, or zero. -/
structure Request where
  jsonrpc : Bytes
  id : UInt64
  method : Bytes
  params : Bytes
  deriving DecidableEq

structure RPCError where
  code : Int
  message : Bytes
  deriving DecidableEq

/-- The results of `Handle`. -/
inductive Result
  | status (enabled : Bool) (error : String) (sequence : UInt64)
  /-- A slice of events may be nil. -/
  | events (events : Option (List Server.Event))
  | report (report : DiagnosticReport)
  | history (items : List History.Entry)
  | profiles (items : List Profile)
  | saved

/-- `Response`: the ID, and either an error or a result. -/
structure Response where
  id : UInt64
  outcome : Except RPCError Result

/-- What the server uses of the packages `encoding/json` and `fmt`. -/
structure Go where
  /-- `params.Limit` after `json.Unmarshal`. -/
  limit : Bytes → Int
  /-- A `profile.Profile`, if `json.Unmarshal` accepts one. -/
  profile : Bytes → Option Profile
  /-- `%q`. -/
  quote : Bytes → Bytes

inductive Method
  | statusGet
  | telemetryPoll
  | diagnosticRun
  | historyList
  | profileList
  | profileSave
  deriving DecidableEq, Repr

/-- The cases of the switch; two names run a diagnosis. -/
def methodOf (name : Bytes) : Option Method :=
  if name = lit "status.get" then some .statusGet
  else if name = lit "telemetry.poll" then some .telemetryPoll
  else if name = lit "diagnostic.run" ∨ name = lit "probe.run" then some .diagnosticRun
  else if name = lit "history.list" then some .historyList
  else if name = lit "profile.list" then some .profileList
  else if name = lit "profile.save" then some .profileSave
  else none

/-- The case that a request reaches. -/
def Request.calls (request : Request) (m : Method) : Prop :=
  request.jsonrpc = lit "2.0" ∧ methodOf request.method = some m

/-- The limit of a `telemetry.poll`. -/
def Request.limit (go : Go) (request : Request) : Int :=
  Server.telemetryLimit (if request.params = [] then 0 else go.limit request.params)

/-- What `Handle` may return to a request that needs neither the runtime nor the engine. -/
inductive Replies (go : Go) (request : Request) : Except RPCError Result → Prop
  | invalid : request.jsonrpc ≠ lit "2.0" →
      Replies go request (.error { code := -32600, message := lit "invalid request" })
  | history (items : List History.Entry) : request.calls .historyList →
      Replies go request (.ok (.history items))
  | historyError (message : Bytes) : request.calls .historyList →
      Replies go request (.error { code := -32020, message := message })
  | profiles (items : List Profile) : request.calls .profileList →
      Replies go request (.ok (.profiles items))
  | profilesError (message : Bytes) : request.calls .profileList →
      Replies go request (.error { code := -32021, message := message })
  | invalidProfile : request.calls .profileSave → go.profile request.params = none →
      Replies go request (.error { code := -32602, message := lit "invalid profile" })
  | saved (p : Profile) : request.calls .profileSave → go.profile request.params = some p →
      -- `Save` refuses an empty name
      trimSpace p.name ≠ [] →
      Replies go request (.ok .saved)
  | saveError (p : Profile) (message : Bytes) : request.calls .profileSave →
      go.profile request.params = some p →
      Replies go request (.error { code := -32022, message := message })
  | notFound : request.jsonrpc = lit "2.0" → methodOf request.method = none →
      Replies go request
        (.error
          { code := -32601
            message := lit "method " ++ go.quote request.method ++ lit " not found" })

end Rpc
end Orchestrator
end FlyDpi
