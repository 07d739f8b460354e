import FlyDpi.Lib.Framing
import FlyDpi.Orchestrator.GoStd

/-!
# RpcClient — the connection of the user interface to the orchestrator

The model of `RpcClient.cpp`.  The slots are functions on the client's state; what they emit and
write is appended to two logs.  Parsing JSON and writing to the socket belong to Qt and are
parameters.
-/

namespace FlyDpi
namespace Ui

open Lib FlyDpi.Orchestrator

/-! ## JSON values -/

/-- `QJsonValue`; the orchestrator sends no fractions. -/
inductive Json
  | null
  | bool (value : Bool)
  | number (value : Int)
  | string (value : Bytes)
  | array (items : List Json)
  | object (members : List (String × Json))

abbrev JsonObject := List (String × Json)

namespace JsonObject

def contains (obj : JsonObject) (key : String) : Bool :=
  obj.any fun member => member.1 == key

/-- `value(key)`: undefined, which no conversion tells from null, when the key is missing. -/
def value (obj : JsonObject) (key : String) : Json :=
  match obj.find? fun member => member.1 == key with
  | some member => member.2
  | none => .null

end JsonObject

namespace Json

/-- `toObject`, and `toMap` of the variant: empty for what is no object. -/
def toObject : Json → JsonObject
  | object members => members
  | _ => []

def toInteger : Json → Int
  | number value => value
  | _ => 0

def toBool : Json → Bool
  | bool value => value
  | _ => false

def toString : Json → Bytes
  | string value => value
  | _ => []

end Json

/-! ## The client -/

structure Request where
  id : UInt64
  method : String
  params : JsonObject

inductive Signal
  | connectedChanged
  | resultReceived (id : UInt64) (value : Json)
  | errorOccurred (message : Bytes)
  | diagnosticReportChanged
  | historyChanged
  | profilesChanged
  | telemetryChanged
  | runtimeStatusChanged

/-- What Qt contributes: `QJsonDocument::fromJson`, and whether the socket takes the request of an
id.  `overflow` is what comes of the loop of `onReadyRead` on a buffer on which `newline + 1`
overflows, which C++ leaves undefined. -/
structure Qt where
  fromJson : Bytes → Option Json
  accepts : UInt64 → Bool
  overflow : Bytes → List Bytes × Bytes := fun buffer => ([], buffer)

structure RpcClient where
  /-- `m_socket.state()` is `ConnectedState`. -/
  connected : Bool
  telemetryTimer : Bool
  reconnectTimer : Bool
  nextId : UInt64
  buffer : Bytes
  diagnosticReport : JsonObject
  history : List Json
  profiles : List Json
  telemetry : List Json
  runtimeEnabled : Bool
  emitted : List Signal
  written : List Request

namespace RpcClient

def start : RpcClient :=
  { connected := false
    telemetryTimer := false
    reconnectTimer := false
    nextId := 1
    buffer := []
    diagnosticReport := []
    history := []
    profiles := []
    telemetry := []
    runtimeEnabled := false
    emitted := []
    written := [] }

def emit (client : RpcClient) (signal : Signal) : RpcClient :=
  { client with emitted := client.emitted ++ [signal] }

def scheduleReconnect (client : RpcClient) : RpcClient :=
  { client with reconnectTimer := true }

/-! ### Requests -/

variable (qt : Qt)

def send (client : RpcClient) (method : String) (params : JsonObject) : RpcClient :=
  if !client.connected then
    client.scheduleReconnect.emit
      (.errorOccurred (lit "Оркестратор недоступен, выполняется переподключение…"))
  else
    let id := client.nextId
    let client := { client with nextId := id + 1 }
    if !qt.accepts id then
      (client.emit (.errorOccurred (lit "Не удалось отправить RPC-запрос"))).scheduleReconnect
    else
      { client with
        written := client.written ++ [{ id := id, method := method, params := params }] }

def statusGet (client : RpcClient) : RpcClient :=
  client.send qt "status.get" []

def historyList (client : RpcClient) : RpcClient :=
  client.send qt "history.list" []

def profileList (client : RpcClient) : RpcClient :=
  client.send qt "profile.list" []

def telemetryPoll (client : RpcClient) : RpcClient :=
  client.send qt "telemetry.poll" [("limit", .number 32)]

def probeRun (client : RpcClient) (targets : List Bytes) : RpcClient :=
  client.send qt "diagnostic.run"
    (if targets = [] then [] else [("targets", .array (targets.map .string))])

def saveProfile (client : RpcClient) (name action mode : Bytes) (timeoutMs : Int)
    (targets : List Bytes) : RpcClient :=
  client.send qt "profile.save"
    [("name", .string name), ("preferred_action", .string action), ("mode", .string mode),
      ("timeout_ms", .number timeoutMs), ("targets", .array (targets.map .string)),
      ("schema_version", .number 1)]

def pollTelemetry (client : RpcClient) : RpcClient :=
  if client.connected then client.telemetryPoll qt else client

/-! ### Responses -/

/-- `runtimeObject.value("enabled")` is taken over; the error text is only logged. -/
def takeRuntimeStatus (client : RpcClient) (runtimeObject : JsonObject) : RpcClient :=
  let enabled := (runtimeObject.value "enabled").toBool
  if enabled ≠ client.runtimeEnabled then
    { client with runtimeEnabled := enabled }.emit .runtimeStatusChanged
  else
    client

def handleResult (client : RpcClient) (id : UInt64) (value : Json) : RpcClient :=
  match value with
  | .object result =>
      let client :=
        if JsonObject.contains result "schema_version" && JsonObject.contains result "severity" then
          { client with diagnosticReport := result }.emit .diagnosticReportChanged
        else
          client
      let client :=
        if JsonObject.contains result "runtime" then
          client.takeRuntimeStatus (JsonObject.value result "runtime").toObject
        else
          client
      client.emit (.resultReceived id (.object result))
  | .array items =>
      client.emit (.resultReceived id (.array items))
  | _ => client

/-- The key is in the first element of the list. -/
def firstContains (list : List Json) (key : String) : Bool :=
  match list.head? with
  | some first => first.toObject.contains key
  | none => false

/-- The branch of `onReadyRead` for array results: the keys of the first element decide where the
list goes. -/
def takeList (client : RpcClient) (list : List Json) : RpcClient :=
  if firstContains list "timestamp" then
    { client with history := list }.emit .historyChanged
  else if firstContains list "preferred_action" then
    { client with profiles := list }.emit .profilesChanged
  else
    -- also every empty list
    { client with telemetry := list }.emit .telemetryChanged

/-- A response that is an object. -/
def handleObject (client : RpcClient) (obj : JsonObject) : RpcClient :=
  if obj.contains "error" then
    client.emit (.errorOccurred ((obj.value "error").toObject.value "message").toString)
  else
    let id := UInt64.ofInt (obj.value "id").toInteger
    match obj.value "result" with
    | .array list =>
        if 0 < id then client.takeList list else client.handleResult id (.array list)
    | value => client.handleResult id value

def handleLine (client : RpcClient) (line : Bytes) : RpcClient :=
  match qt.fromJson line with
  | some (.object obj) => client.handleObject obj
  | _ => client.emit (.errorOccurred (lit "Некорректный RPC ответ"))

/-! ### Lines -/

/-- `QByteArray::trimmed` removes the white space of ASCII. -/
def isSpace (c : UInt8) : Bool :=
  decide ((0x09 ≤ c ∧ c ≤ 0x0d) ∨ c = 0x20)

def trimmed (line : Bytes) : Bytes :=
  Framing.trim isSpace line

/-- `const int newline = m_buffer.indexOf('\n')`: the position has 64 bits, and 32 of them are
kept. -/
def newlineIndex (buffer : Bytes) : Int :=
  if 0x0a ∈ buffer then Int.bmod (buffer.idxOf 0x0a) (2 ^ 32) else -1

theorem mem_of_newlineIndex {buffer : Bytes} (h : ¬ newlineIndex buffer < 0) : 0x0a ∈ buffer := by
  by_contra hnot
  rw [newlineIndex, if_neg hnot] at h
  omega

/-- The loop of `onReadyRead` on the buffer: the lines that it parses, and what it leaves. -/
def readLines (buffer : Bytes) : List Bytes × Bytes :=
  if h : newlineIndex buffer < 0 then
    ([], buffer)
  else if newlineIndex buffer = 2 ^ 31 - 1 then
    qt.overflow buffer
  else
    let newline := (newlineIndex buffer).toNat
    let line := trimmed (buffer.take newline)
    let rest := readLines (buffer.drop (newline + 1))
    -- an empty line is passed over
    if line = [] then rest else (line :: rest.1, rest.2)
termination_by buffer.length
decreasing_by
  have hpos := List.length_pos_of_mem (mem_of_newlineIndex h)
  rw [List.length_drop]
  omega

/-- The handling of a line does not touch the buffer, so the lines are handled after they are cut. -/
def onReadyRead (client : RpcClient) (chunk : Bytes) : RpcClient :=
  let read := readLines qt (client.buffer ++ chunk)
  read.1.foldl (handleLine qt) { client with buffer := read.2 }

/-! ### The other slots -/

def onConnected (client : RpcClient) : RpcClient :=
  let client := { client with connected := true, reconnectTimer := false }.emit .connectedChanged
  let client := (((client.statusGet qt).historyList qt).profileList qt).telemetryPoll qt
  { client with telemetryTimer := true }

def onDisconnected (client : RpcClient) : RpcClient :=
  let client := { client with connected := false, telemetryTimer := false }
  (client.emit .connectedChanged).scheduleReconnect

/-- `connected` is the state in which Qt leaves the socket after the error. -/
def onSocketError (client : RpcClient) (connected : Bool) (errorString : Bytes) : RpcClient :=
  let client := { client with connected := connected, telemetryTimer := false }
  ((client.emit .connectedChanged).emit (.errorOccurred errorString)).scheduleReconnect

/-- `retryConnection` makes Qt open a connection; the outcome is an event of its own. -/
def retryConnection (client : RpcClient) : RpcClient :=
  client

/-! ### What requests do not touch -/

/-- The two clients have the same data from responses, and the same unread bytes. -/
structure SameData (client client' : RpcClient) : Prop where
  buffer : client'.buffer = client.buffer
  diagnosticReport : client'.diagnosticReport = client.diagnosticReport
  history : client'.history = client.history
  profiles : client'.profiles = client.profiles
  telemetry : client'.telemetry = client.telemetry
  runtimeEnabled : client'.runtimeEnabled = client.runtimeEnabled

theorem SameData.trans {client client' client'' : RpcClient} (h : SameData client client')
    (h' : SameData client' client'') : SameData client client'' where
  buffer := h'.buffer.trans h.buffer
  diagnosticReport := h'.diagnosticReport.trans h.diagnosticReport
  history := h'.history.trans h.history
  profiles := h'.profiles.trans h.profiles
  telemetry := h'.telemetry.trans h.telemetry
  runtimeEnabled := h'.runtimeEnabled.trans h.runtimeEnabled

theorem sameData_send (client : RpcClient) (method : String) (params : JsonObject) :
    SameData client (client.send qt method params) := by
  unfold send
  split
  · exact ⟨rfl, rfl, rfl, rfl, rfl, rfl⟩
  · dsimp only
    split
    · exact ⟨rfl, rfl, rfl, rfl, rfl, rfl⟩
    · exact ⟨rfl, rfl, rfl, rfl, rfl, rfl⟩

theorem sameData_onConnected (client : RpcClient) : SameData client (client.onConnected qt) := by
  have hopen : SameData client
      ({ client with connected := true, reconnectTimer := false }.emit .connectedChanged) :=
    ⟨rfl, rfl, rfl, rfl, rfl, rfl⟩
  have hsent := (((hopen.trans (sameData_send qt _ "status.get" [])).trans
    (sameData_send qt _ "history.list" [])).trans (sameData_send qt _ "profile.list" [])).trans
      (sameData_send qt _ "telemetry.poll" [("limit", .number 32)])
  exact hsent.trans ⟨rfl, rfl, rfl, rfl, rfl, rfl⟩

end RpcClient

/-- What Qt's event loop delivers. -/
inductive SocketEvent
  | connected
  | readyRead (chunk : Bytes)
  | disconnected
  | errorOccurred (connected : Bool) (errorString : Bytes)
  | telemetryTimeout
  | reconnectTimeout
  deriving DecidableEq

namespace RpcClient

def handle (qt : Qt) (client : RpcClient) : SocketEvent → RpcClient
  | .connected => client.onConnected qt
  | .readyRead chunk => client.onReadyRead qt chunk
  | .disconnected => client.onDisconnected
  | .errorOccurred connected errorString => client.onSocketError connected errorString
  | .telemetryTimeout => client.pollTelemetry qt
  | .reconnectTimeout => client.retryConnection

def run (qt : Qt) (client : RpcClient) (events : List SocketEvent) : RpcClient :=
  events.foldl (handle qt) client

/-- The lines that an event makes `onReadyRead` parse. -/
def parsedBy (qt : Qt) (client : RpcClient) : SocketEvent → List Bytes
  | .readyRead chunk => (readLines qt (client.buffer ++ chunk)).1
  | _ => []

def parsedLines (qt : Qt) (client : RpcClient) : List SocketEvent → List Bytes
  | [] => []
  | event :: events => client.parsedBy qt event ++ parsedLines qt (client.handle qt event) events

end RpcClient

end Ui
end FlyDpi
