import FlyDpi.Orchestrator.HistoryStore
import FlyDpi.Orchestrator.ProfileStore
import FlyDpi.Orchestrator.Server
import FlyDpi.Ui.RpcClient

/-!
# RpcRouting — which list of the client a response ends up in

A response carries the ID of its request, but the client looks at the keys of the first element to
decide which of its lists the response is.  An empty list has no first element and always replaces
the telemetry.
-/

namespace FlyDpi
namespace Ui

open Lib FlyDpi.Orchestrator

/-! ## What the server answers -/

/-- What the client reads of the strings and times that `encoding/json` writes. -/
structure Texts where
  string : Bytes → Bytes
  /-- An instant at an offset from UTC. -/
  time : Time → Int → Bytes

section Elements

variable (texts : Texts)

def entryJson (e : History.Entry) : Json :=
  .object
    [("id", .string (texts.string e.id)),
      ("timestamp", .string (texts.time e.timestamp.instant e.timestamp.offset)),
      ("severity", .string (texts.string e.severity)),
      ("title", .string (texts.string e.title)),
      ("summary", .string (texts.string e.summary))]

/-- A slice that is nil becomes null. -/
def targetsJson : Option (List Bytes) → Json
  | none => .null
  | some targets => .array (targets.map fun target => .string (texts.string target))

def profileJson (p : Profile) : Json :=
  .object
    [("schema_version", .number p.schemaVersion),
      ("name", .string (texts.string p.name)),
      ("preferred_action", .string (texts.string p.preferredAction)),
      ("mode", .string (texts.string p.mode)),
      ("timeout_ms", .number p.timeoutMs),
      ("targets", targetsJson texts p.targets),
      ("last_severity", .string (texts.string p.lastSeverity)),
      ("updated_at", .string (texts.time p.updatedAt 0))]

def eventJson (e : Server.Event) : Json :=
  .object
    [("timestamp_unix_ms", .number e.timestampUnixMs.toNat),
      ("kind", .number e.kind.toNat),
      ("protocol", .number e.protocol.toNat),
      ("remote_port", .number e.remotePort.toNat),
      ("process_id", .number e.processId.toNat),
      ("latency_ms", .number e.latencyMs.toNat),
      ("error_code", .number e.errorCode.toInt)]

end Elements

/-- The array results of `Handle`. -/
inductive ListResult
  | history (items : List History.Entry)
  | profiles (items : List Profile)
  | telemetry (events : List Server.Event)

namespace ListResult

/-- The method that a result answers. -/
def method : ListResult → String
  | history _ => "history.list"
  | profiles _ => "profile.list"
  | telemetry _ => "telemetry.poll"

def json (texts : Texts) : ListResult → List Json
  | history items => items.map (entryJson texts)
  | profiles items => items.map (profileJson texts)
  | telemetry events => events.map eventJson

/-- `Response{JSONRPC: "2.0", ID: req.ID, Result: …}`. -/
def response (texts : Texts) (id : UInt64) (result : ListResult) : JsonObject :=
  [("jsonrpc", .string (lit "2.0")), ("id", .number id.toNat), ("result", .array (result.json texts))]

end ListResult

/-! ## Requests and responses in any order -/

/-- The client and the requests that have no response yet. -/
structure Session where
  client : RpcClient
  pending : List Request

/-- What the socket, the timers and the user interface make the client do; `answer i result` delivers
the response to the request at index `i`. -/
inductive Action
  | connected
  | disconnected
  | historyList
  | profileList
  | telemetryPoll
  | answer (i : Nat) (result : ListResult)

/-- A response and the client that takes it. -/
structure Answer where
  before : RpcClient
  id : UInt64
  result : ListResult

def Answer.after (texts : Texts) (a : Answer) : RpcClient :=
  a.before.handleObject (a.result.response texts a.id)

namespace Session

def start : Session :=
  { client := RpcClient.start
    pending := [] }

/-- What the client has written since waits for responses. -/
def sending (s : Session) (client : RpcClient) : Session :=
  { client := client
    pending := s.pending ++ client.written.drop s.client.written.length }

/-- The response that an action delivers; the server rejects an ID that the client has written with a
sign. -/
def answer (s : Session) (i : Nat) (result : ListResult) : Option Answer :=
  match s.pending[i]? with
  | some request =>
      if request.method = result.method ∧ request.id.toNat < 2 ^ 63 then
        some { before := s.client, id := request.id, result := result }
      else
        none
  | none => none

variable (texts : Texts) (qt : Qt)

def step (s : Session) : Action → Option Session
  | .connected => some (s.sending (s.client.onConnected qt))
  -- what was on its way is lost
  | .disconnected => some { client := s.client.onDisconnected, pending := [] }
  | .historyList => some (s.sending (s.client.historyList qt))
  | .profileList => some (s.sending (s.client.profileList qt))
  | .telemetryPoll => some (s.sending (s.client.telemetryPoll qt))
  | .answer i result =>
      (s.answer i result).map fun a =>
        { client := a.after texts
          pending := s.pending.eraseIdx i }

def run (s : Session) (actions : List Action) : Option Session :=
  actions.foldlM (step texts qt) s

/-- The response that an action delivers, if it is one. -/
def answeredBy (s : Session) : Action → List Answer
  | .answer i result => (s.answer i result).toList
  | _ => []

/-- The responses of a run. -/
def answered (s : Session) : List Action → List Answer
  | [] => []
  | action :: actions =>
      s.answeredBy action ++
        match s.step texts qt action with
        | some s' => answered s' actions
        | none => []

end Session

/-! ## What a response should do -/

/-- `m_history`, `m_profiles` and `m_telemetry`. -/
@[ext] structure Lists where
  history : List Json
  profiles : List Json
  telemetry : List Json

def RpcClient.lists (client : RpcClient) : Lists :=
  { history := client.history
    profiles := client.profiles
    telemetry := client.telemetry }

namespace ListResult

/-- The list that was asked for. -/
def asked (lists : Lists) : ListResult → List Json
  | history _ => lists.history
  | profiles _ => lists.profiles
  | telemetry _ => lists.telemetry

/-- Only the list that was asked for is replaced. -/
def put (texts : Texts) (lists : Lists) (result : ListResult) : Lists :=
  match result with
  | history _ => { lists with history := result.json texts }
  | profiles _ => { lists with profiles := result.json texts }
  | telemetry _ => { lists with telemetry := result.json texts }

end ListResult

namespace Answer

variable (texts : Texts)

def Attributed (a : Answer) : Prop :=
  (a.after texts).lists = a.result.put texts a.before.lists

def Unambiguous (a : Answer) : Prop :=
  if a.id = 0 then
    -- the counter has wrapped around, and the client passes the response by
    a.result.asked a.before.lists = a.result.json texts
  else
    a.result.json texts ≠ [] ∨ a.result.method = "telemetry.poll" ∨
      (a.result.asked a.before.lists = [] ∧ a.before.lists.telemetry = [])

end Answer

/-! ## Routing by the first element -/

section Routing

variable (texts : Texts) (client : RpcClient)

theorem contains_entryJson (e : History.Entry) :
    JsonObject.contains (entryJson texts e).toObject "timestamp" = true := rfl

theorem contains_profileJson (p : Profile) :
    JsonObject.contains (profileJson texts p).toObject "timestamp" = false ∧
      JsonObject.contains (profileJson texts p).toObject "preferred_action" = true :=
  ⟨rfl, rfl⟩

theorem contains_eventJson (e : Server.Event) :
    JsonObject.contains (eventJson e).toObject "timestamp" = false ∧
      JsonObject.contains (eventJson e).toObject "preferred_action" = false :=
  ⟨rfl, rfl⟩

theorem firstContains_map {α : Type} {f : α → Json} {key : String} {found : Bool}
    (h : ∀ x, JsonObject.contains (f x).toObject key = found) {xs : List α} (hxs : xs.map f ≠ []) :
    RpcClient.firstContains (xs.map f) key = found := by
  cases xs with
  | nil =>
      exact absurd rfl hxs
  | cons x xs =>
      exact h x

/-- A list with an element replaces the list that was asked for. -/
theorem lists_takeList_of_ne_nil {result : ListResult} (h : result.json texts ≠ []) :
    (client.takeList (result.json texts)).lists = result.put texts client.lists := by
  cases result with
  | history items =>
      simp only [ListResult.json] at h
      have htime := firstContains_map (contains_entryJson texts) h
      simp only [ListResult.json, RpcClient.takeList, htime, if_true]
      rfl
  | profiles items =>
      simp only [ListResult.json] at h
      have htime := firstContains_map (fun p => (contains_profileJson texts p).1) h
      have haction := firstContains_map (fun p => (contains_profileJson texts p).2) h
      simp only [ListResult.json, RpcClient.takeList, htime, haction, if_true, Bool.false_eq_true,
        if_false]
      rfl
  | telemetry events =>
      simp only [ListResult.json] at h
      have htime := firstContains_map (fun e => (contains_eventJson e).1) h
      have haction := firstContains_map (fun e => (contains_eventJson e).2) h
      simp only [ListResult.json, RpcClient.takeList, htime, haction, Bool.false_eq_true, if_false]
      rfl

/-- An empty list replaces the telemetry. -/
theorem lists_takeList_nil :
    (client.takeList []).lists = { client.lists with telemetry := [] } := rfl

theorem handleObject_response (id : UInt64) (result : ListResult) :
    client.handleObject (result.response texts id) =
      if 0 < id then client.takeList (result.json texts)
      else client.handleResult id (.array (result.json texts)) := by
  have hid : UInt64.ofInt (id.toNat : Int) = id := by
    have hlt := id.toNat_lt
    have hmod : ((id.toNat : Int) % 2 ^ 64).toNat = id.toNat := by
      omega
    rw [UInt64.ofInt, hmod, UInt64.ofNat_toNat]
  calc
    client.handleObject (result.response texts id) =
        if 0 < UInt64.ofInt (id.toNat : Int) then client.takeList (result.json texts)
        else client.handleResult (UInt64.ofInt (id.toNat : Int)) (.array (result.json texts)) := rfl
    _ = if 0 < id then client.takeList (result.json texts)
        else client.handleResult id (.array (result.json texts)) := by
          rw [hid]

theorem put_eq_self_iff (lists : Lists) (result : ListResult) :
    lists = result.put texts lists ↔ result.asked lists = result.json texts := by
  cases result with
  | history items =>
      simp [ListResult.put, ListResult.asked, Lists.ext_iff]
  | profiles items =>
      simp [ListResult.put, ListResult.asked, Lists.ext_iff]
  | telemetry events =>
      simp [ListResult.put, ListResult.asked, Lists.ext_iff]

theorem lists_handleResult_array (id : UInt64) (items : List Json) :
    (client.handleResult id (.array items)).lists = client.lists := rfl

/-- An empty list is taken for telemetry, and rightly so if it was asked for or there was none. -/
theorem lists_takeList_nil_iff {result : ListResult} (h : result.json texts = []) :
    (client.takeList []).lists = result.put texts client.lists ↔
      result.method = "telemetry.poll" ∨
        (result.asked client.lists = [] ∧ client.lists.telemetry = []) := by
  rw [lists_takeList_nil]
  cases result with
  | history items =>
      simp [ListResult.put, ListResult.asked, ListResult.method, Lists.ext_iff, h,
        eq_comm (a := ([] : List Json))]
  | profiles items =>
      simp [ListResult.put, ListResult.asked, ListResult.method, Lists.ext_iff, h,
        eq_comm (a := ([] : List Json))]
  | telemetry events =>
      simp [ListResult.put, ListResult.method, h]

end Routing

/-- A response is attributed to its request exactly when it is not ambiguous. -/
theorem Answer.attributed_iff (texts : Texts) (a : Answer) :
    a.Attributed texts ↔ a.Unambiguous texts := by
  rw [Attributed, Unambiguous, after, handleObject_response]
  by_cases hid : a.id = 0
  · have hzero : ¬ 0 < a.id := by
      rw [hid]
      decide
    rw [if_neg hzero, if_pos hid, lists_handleResult_array]
    exact put_eq_self_iff texts a.before.lists a.result
  · have hpos : 0 < a.id := UInt64.pos_iff_ne_zero.2 hid
    rw [if_pos hpos, if_neg hid]
    by_cases hjson : a.result.json texts = []
    · rw [hjson, lists_takeList_nil_iff texts a.before hjson]
      simp
    · simp [lists_takeList_of_ne_nil texts a.before hjson, hjson]

/-- In every run, every response replaces exactly the list that was asked for if and only if no
response of the run is ambiguous. -/
theorem routing_exact_iff (texts : Texts) (qt : Qt) (actions : List Action) :
    (∀ a ∈ Session.start.answered texts qt actions, a.Attributed texts) ↔
      ∀ a ∈ Session.start.answered texts qt actions, a.Unambiguous texts :=
  forall₂_congr fun a _ => a.attributed_iff texts

/-! ## The lists after a run -/

section Runs

variable (texts : Texts) (qt : Qt)

theorem RpcClient.SameData.lists_eq {client client' : RpcClient} (h : SameData client client') :
    client'.lists = client.lists :=
  Lists.ext h.history h.profiles h.telemetry

namespace Session

theorem before_answer {s : Session} {i : Nat} {result : ListResult} {a : Answer}
    (h : s.answer i result = some a) : a.before = s.client := by
  unfold answer at h
  split at h
  · split at h
    · cases h
      rfl
    · cases h
  · cases h

/-- The step: an action that delivers no ambiguous response replaces the lists that were asked for. -/
theorem lists_step {s s' : Session} {action : Action} (hstep : s.step texts qt action = some s')
    (h : ∀ a ∈ s.answeredBy action, a.Unambiguous texts) :
    s'.client.lists =
      ((s.answeredBy action).map Answer.result).foldl (ListResult.put texts) s.client.lists := by
  cases action with
  | connected =>
      cases hstep
      exact (RpcClient.sameData_onConnected qt s.client).lists_eq
  | disconnected =>
      cases hstep
      rfl
  | historyList =>
      cases hstep
      exact (RpcClient.sameData_send qt s.client _ _).lists_eq
  | profileList =>
      cases hstep
      exact (RpcClient.sameData_send qt s.client _ _).lists_eq
  | telemetryPoll =>
      cases hstep
      exact (RpcClient.sameData_send qt s.client _ _).lists_eq
  | answer i result =>
      rcases Option.map_eq_some_iff.1 hstep with ⟨a, ha, rfl⟩
      have hbefore : a.before = s.client := before_answer ha
      have hby : s.answeredBy (.answer i result) = [a] := by
        simp [answeredBy, ha]
      rw [hby] at h ⊢
      have hattributed := (a.attributed_iff texts).2 (h a (List.mem_singleton.2 rfl))
      rw [List.map_singleton, List.foldl_cons, List.foldl_nil, ← hbefore]
      exact hattributed

/-- The run: without ambiguous responses every list is the one last asked for. -/
theorem lists_run {s s' : Session} {actions : List Action}
    (hrun : s.run texts qt actions = some s')
    (h : ∀ a ∈ s.answered texts qt actions, a.Unambiguous texts) :
    s'.client.lists =
      ((s.answered texts qt actions).map Answer.result).foldl (ListResult.put texts)
        s.client.lists := by
  induction actions generalizing s with
  | nil =>
      cases hrun
      rfl
  | cons action actions ih =>
      rw [run, List.foldlM_cons] at hrun
      rcases Option.bind_eq_some_iff.1 hrun with ⟨mid, hstep, hrest⟩
      simp only [answered, hstep, List.forall_mem_append] at h
      simp only [answered, hstep, List.map_append, List.foldl_append]
      rw [← lists_step texts qt hstep h.1]
      exact ih hrest h.2

end Session

end Runs

/-! ## A telemetry list that is lost -/

/-- A client whose requests are all written. -/
def openQt : Qt :=
  { fromJson := fun _ => none
    accepts := fun _ => true }

def plainTexts : Texts :=
  { string := id
    time := fun _ _ => lit "2024-10-27T02:30:00+02:00" }

def resetEvent : Server.Event :=
  { timestampUnixMs := 1729989000000
    kind := 5
    protocol := 6
    remotePort := 443
    processId := 4
    latencyMs := 0
    errorCode := 0 }

/-- After the lists that are polled on connecting, the empty history is asked for again. -/
def emptyHistory : List Action :=
  [.connected, .answer 1 (.history []), .answer 1 (.profiles []), .answer 1 (.telemetry [resetEvent]),
    .historyList, .answer 1 (.history [])]

theorem emptyHistory_answered :
    ∃ a ∈ Session.start.answered plainTexts openQt emptyHistory, a.id = 5 ∧
      a.result = .history [] ∧ a.before.lists.telemetry = [eventJson resetEvent] := by
  refine ⟨_, List.mem_of_getLast? rfl, rfl, rfl, rfl⟩

theorem telemetry_lost :
    ¬ ∀ (texts : Texts) (qt : Qt) (actions : List Action),
      ∀ a ∈ Session.start.answered texts qt actions, a.Attributed texts := by
  intro h
  rcases emptyHistory_answered with ⟨a, ha, hid, hresult, htelemetry⟩
  have hunambiguous := (a.attributed_iff plainTexts).1 (h plainTexts openQt emptyHistory a ha)
  rw [Answer.Unambiguous, hid, if_neg (by decide), hresult, htelemetry] at hunambiguous
  simp [ListResult.json, ListResult.method] at hunambiguous

end Ui
end FlyDpi
