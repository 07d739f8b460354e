import FlyDpi.Ui.RpcFraming

/-!
# MainWindow — the state of the main window

The properties and the slots of `Main.qml` that a diagnosis goes through.  Signals of the client call
the slots at once, in the order in which they are emitted; no slot calls the client.
-/

namespace FlyDpi
namespace Ui

open Lib FlyDpi.Orchestrator

/-- Whether JavaScript takes a value for true. -/
def Json.truthy : Json → Bool
  | .null => false
  | .bool value => value
  | .number value => decide (value ≠ 0)
  | .string value => decide (value ≠ [])
  | _ => true

/-- `value || text`, as a string property takes it over. -/
def Json.orText (value : Json) (text : String) : Bytes :=
  if value.truthy then value.toString else lit text

structure MainWindow where
  client : RpcClient
  running : Bool
  report : JsonObject
  diagnosisText : Bytes
  detailText : Bytes

/-- What the event loop delivers to the window and its client, and what the user does. -/
inductive Input
  | socket (event : SocketEvent)
  | startDiagnostic
  | saveProfile (name action mode : Bytes) (timeoutMs : Int) (targets : List Bytes)
  | historyList

namespace MainWindow

/-- The texts are bound to the state of the client until a slot assigns them. -/
def start : MainWindow :=
  { client := RpcClient.start
    running := false
    report := []
    diagnosisText := lit "Оркестратор не запущен"
    detailText := lit "Запустите диагностику, чтобы получить фактический результат." }

/-! ## Slots -/

def onConnectedChanged (w : MainWindow) : MainWindow :=
  if !w.client.connected then
    { w with
      running := false
      diagnosisText := lit "Оркестратор не запущен"
      detailText := lit "Запустите backend FlyDPI." }
  else if !w.running && !(JsonObject.value w.client.diagnosticReport "schema_version").truthy then
    { w with
      diagnosisText := lit "Готов к диагностике"
      detailText := lit "Нажмите кнопку, чтобы начать проверку." }
  else
    w

def onDiagnosticReportChanged (w : MainWindow) : MainWindow :=
  { w with
    report := w.client.diagnosticReport
    running := false
    diagnosisText :=
      (JsonObject.value w.client.diagnosticReport "title").orText "Диагностика завершена"
    detailText :=
      (JsonObject.value w.client.diagnosticReport "explanation").orText "Отчёт сформирован." }

def onErrorOccurred (w : MainWindow) (message : Bytes) : MainWindow :=
  { w with
    running := false
    diagnosisText := lit "Ошибка диагностики"
    detailText := message }

def onSignal (w : MainWindow) : Signal → MainWindow
  | .connectedChanged => w.onConnectedChanged
  | .diagnosticReportChanged => w.onDiagnosticReportChanged
  | .errorOccurred message => w.onErrorOccurred message
  | _ => w

/-- The client has done something: the slots take what it has emitted. -/
def changed (w : MainWindow) (client : RpcClient) : MainWindow :=
  (client.emitted.drop w.client.emitted.length).foldl onSignal { w with client := client }

/-! ## What happens to the window -/

variable (qt : Qt)

/-- `onReadyRead` of the client; every line emits its signals before the next one is read. -/
def readyRead (w : MainWindow) (chunk : Bytes) : MainWindow :=
  let read := RpcClient.readLines qt (w.client.buffer ++ chunk)
  read.1.foldl (fun w line => w.changed (w.client.handleLine qt line))
    { w with client := { w.client with buffer := read.2 } }

def startDiagnostic (w : MainWindow) : MainWindow :=
  if w.running || !w.client.connected then w
  else
    let w :=
      { w with
        running := true
        diagnosisText := lit "Проводим диагностику…"
        detailText := lit "Проверяются DNS, TCP, TLS и корреляция WFP." }
    w.changed (w.client.probeRun qt [])

def handle (w : MainWindow) : Input → MainWindow
  | .socket (.readyRead chunk) => w.readyRead qt chunk
  | .socket event => w.changed (w.client.handle qt event)
  | .startDiagnostic => w.startDiagnostic qt
  | .saveProfile name action mode timeoutMs targets =>
      w.changed (w.client.saveProfile qt name action mode timeoutMs targets)
  | .historyList => w.changed (w.client.historyList qt)

/-! ## What the slots leave alone -/

@[simp] theorem client_onSignal (w : MainWindow) (signal : Signal) :
    (w.onSignal signal).client = w.client := by
  cases signal with
  | connectedChanged =>
      rw [onSignal, onConnectedChanged]
      split
      · rfl
      · split <;> rfl
  | _ =>
      rfl

theorem client_foldl_onSignal (w : MainWindow) (signals : List Signal) :
    (signals.foldl onSignal w).client = w.client := by
  induction signals generalizing w with
  | nil =>
      rfl
  | cons signal signals ih =>
      rw [List.foldl_cons, ih, client_onSignal]

@[simp] theorem client_changed (w : MainWindow) (client : RpcClient) :
    (w.changed client).client = client :=
  client_foldl_onSignal _ _

theorem client_foldl_handleLine (w : MainWindow) (lines : List Bytes) :
    (lines.foldl (fun w line => w.changed (w.client.handleLine qt line)) w).client =
      lines.foldl (RpcClient.handleLine qt) w.client := by
  induction lines generalizing w with
  | nil =>
      rfl
  | cons line lines ih =>
      rw [List.foldl_cons, List.foldl_cons, ih, client_changed]

/-- The window does to its client what the socket does. -/
theorem client_handle_socket (w : MainWindow) (event : SocketEvent) :
    (w.handle qt (.socket event)).client = w.client.handle qt event := by
  cases event with
  | readyRead chunk =>
      exact client_foldl_handleLine qt _ _
  | _ =>
      exact client_changed w _

end MainWindow

/-- The signals that end a diagnosis whatever state the client is in. -/
def Signal.Ends : Signal → Prop
  | .diagnosticReportChanged => True
  | .errorOccurred _ => True
  | _ => False

namespace MainWindow

/-! ## When a diagnosis ends -/

/-- Slots never start one. -/
theorem running_onSignal {w : MainWindow} {signal : Signal}
    (h : (w.onSignal signal).running = true) :
    w.running = true ∧ ¬ signal.Ends ∧
      (signal = .connectedChanged → w.client.connected = true) := by
  cases signal with
  | connectedChanged =>
      rw [onSignal, onConnectedChanged] at h
      cases hconnected : w.client.connected with
      | false =>
          simp [hconnected] at h
      | true =>
          refine ⟨?_, nofun, fun _ => rfl⟩
          simp only [hconnected, Bool.not_true, Bool.false_eq_true, if_false] at h
          split at h
          · exact h
          · exact h
  | diagnosticReportChanged =>
      cases h
  | errorOccurred message =>
      cases h
  | _ =>
      exact ⟨h, nofun, nofun⟩

theorem running_foldl_onSignal {w : MainWindow} {signals : List Signal}
    (h : (signals.foldl onSignal w).running = true) :
    w.running = true ∧ ∀ signal ∈ signals, ¬ signal.Ends ∧
      (signal = .connectedChanged → w.client.connected = true) := by
  induction signals generalizing w with
  | nil =>
      exact ⟨h, nofun⟩
  | cons signal signals ih =>
      rcases ih h with ⟨hfirst, hrest⟩
      rcases running_onSignal hfirst with ⟨hrunning, hsignal⟩
      rw [client_onSignal] at hrest
      exact ⟨hrunning, List.forall_mem_cons.2 ⟨hsignal, hrest⟩⟩

/-- A diagnosis goes on as long as no signal ends it. -/
theorem running_changed {w : MainWindow} {client : RpcClient} {signals : List Signal}
    (hemitted : client.emitted = w.client.emitted ++ signals)
    (h : (w.changed client).running = true) :
    w.running = true ∧ ∀ signal ∈ signals, ¬ signal.Ends ∧
      (signal = .connectedChanged → client.connected = true) := by
  rw [changed, hemitted, List.drop_left] at h
  exact running_foldl_onSignal h

end MainWindow

/-! ## What the client emits and writes -/

namespace RpcClient

variable (qt : Qt)

/-- The logs of a client only grow. -/
structure Grows (client client' : RpcClient) : Prop where
  emitted : client.emitted <+: client'.emitted
  written : client.written <+: client'.written

variable {client client' client'' : RpcClient}

theorem Grows.refl (client : RpcClient) : Grows client client :=
  ⟨List.prefix_rfl, List.prefix_rfl⟩

theorem Grows.trans (h : Grows client client') (h' : Grows client' client'') :
    Grows client client'' :=
  ⟨h.emitted.trans h'.emitted, h.written.trans h'.written⟩

/-- A request is written, or an error is reported. -/
theorem send_cases (client : RpcClient) (method : String) (params : JsonObject) :
    ((client.send qt method params).emitted = client.emitted ∧
      (client.send qt method params).written = client.written ++
        [{ id := client.nextId, method := method, params := params }]) ∨
    ((client.send qt method params).written = client.written ∧
      ∃ message, (client.send qt method params).emitted =
        client.emitted ++ [.errorOccurred message]) := by
  unfold send
  split
  · exact .inr ⟨rfl, _, rfl⟩
  · dsimp only
    split
    · exact .inr ⟨rfl, _, rfl⟩
    · exact .inl ⟨rfl, rfl⟩

@[simp] theorem connected_send (client : RpcClient) (method : String) (params : JsonObject) :
    (client.send qt method params).connected = client.connected := by
  unfold send
  split
  · rfl
  · dsimp only
    split <;> rfl

theorem grows_send (client : RpcClient) (method : String) (params : JsonObject) :
    Grows client (client.send qt method params) := by
  rcases send_cases qt client method params with ⟨hemitted, hwritten⟩ | ⟨hwritten, _, hemitted⟩
  · refine ⟨?_, ?_⟩
    · rw [hemitted]
    · rw [hwritten]
      exact List.prefix_append _ _
  · refine ⟨?_, ?_⟩
    · rw [hemitted]
      exact List.prefix_append _ _
    · rw [hwritten]

theorem grows_onConnected (client : RpcClient) : Grows client (client.onConnected qt) := by
  have hopen : Grows client
      ({ client with connected := true, reconnectTimer := false }.emit .connectedChanged) :=
    ⟨List.prefix_append _ _, List.prefix_rfl⟩
  exact ((((hopen.trans (grows_send qt _ "status.get" [])).trans
    (grows_send qt _ "history.list" [])).trans (grows_send qt _ "profile.list" [])).trans
      (grows_send qt _ "telemetry.poll" [("limit", .number 32)])).trans
        ⟨List.prefix_rfl, List.prefix_rfl⟩

@[simp] theorem connected_onConnected (client : RpcClient) :
    (client.onConnected qt).connected = true := by
  simp [onConnected, statusGet, historyList, profileList, telemetryPoll, emit]

/-! ### Lines -/

/-- Lines write nothing and leave the connection as it is. -/
structure Reads (client client' : RpcClient) : Prop where
  emitted : client.emitted <+: client'.emitted
  written : client'.written = client.written
  connected : client'.connected = client.connected

theorem Reads.refl (client : RpcClient) : Reads client client :=
  ⟨List.prefix_rfl, rfl, rfl⟩

theorem Reads.trans (h : Reads client client') (h' : Reads client' client'') :
    Reads client client'' :=
  ⟨h.emitted.trans h'.emitted, h'.written.trans h.written, h'.connected.trans h.connected⟩

theorem Reads.grows (h : Reads client client') : Grows client client' :=
  ⟨h.emitted, by rw [h.written]⟩

theorem reads_emit (client : RpcClient) (signal : Signal) : Reads client (client.emit signal) :=
  ⟨List.prefix_append _ _, rfl, rfl⟩

theorem reads_takeRuntimeStatus (client : RpcClient) (runtimeObject : JsonObject) :
    Reads client (client.takeRuntimeStatus runtimeObject) := by
  unfold takeRuntimeStatus
  dsimp only
  split
  · exact ⟨List.prefix_append _ _, rfl, rfl⟩
  · exact Reads.refl client

theorem reads_handleResult (client : RpcClient) (id : UInt64) (value : Json) :
    Reads client (client.handleResult id value) := by
  unfold handleResult
  split
  · dsimp only
    refine Reads.trans ?_ (reads_emit _ _)
    split
    · refine Reads.trans ?_ (reads_takeRuntimeStatus _ _)
      split
      · exact ⟨List.prefix_append _ _, rfl, rfl⟩
      · exact Reads.refl client
    · split
      · exact ⟨List.prefix_append _ _, rfl, rfl⟩
      · exact Reads.refl client
  · exact reads_emit client _
  · exact Reads.refl client

theorem reads_takeList (client : RpcClient) (list : List Json) :
    Reads client (client.takeList list) := by
  unfold takeList
  split
  · exact ⟨List.prefix_append _ _, rfl, rfl⟩
  · split
    · exact ⟨List.prefix_append _ _, rfl, rfl⟩
    · exact ⟨List.prefix_append _ _, rfl, rfl⟩

theorem reads_handleLine (client : RpcClient) (line : Bytes) :
    Reads client (client.handleLine qt line) := by
  unfold handleLine
  split
  · unfold handleObject
    split
    · exact reads_emit client _
    · dsimp only
      split
      · split
        · exact reads_takeList client _
        · exact reads_handleResult client _ _
      · exact reads_handleResult client _ _
  · exact reads_emit client _

theorem reads_foldl_handleLine (client : RpcClient) (lines : List Bytes) :
    Reads client (lines.foldl (handleLine qt) client) := by
  induction lines generalizing client with
  | nil =>
      exact Reads.refl client
  | cons line lines ih =>
      exact (reads_handleLine qt client line).trans (ih _)

theorem reads_onReadyRead (client : RpcClient) (chunk : Bytes) :
    Reads client (client.onReadyRead qt chunk) := by
  have hread := reads_foldl_handleLine qt
    { client with buffer := (readLines qt (client.buffer ++ chunk)).2 }
    (readLines qt (client.buffer ++ chunk)).1
  exact ⟨hread.emitted, hread.written, hread.connected⟩

theorem grows_handle (client : RpcClient) (event : SocketEvent) :
    Grows client (client.handle qt event) := by
  cases event with
  | connected =>
      exact grows_onConnected qt client
  | readyRead chunk =>
      exact (reads_onReadyRead qt client chunk).grows
  | disconnected =>
      exact ⟨List.prefix_append _ _, List.prefix_rfl⟩
  | errorOccurred connected errorString =>
      refine ⟨?_, List.prefix_rfl⟩
      exact (List.prefix_append _ _).trans (List.prefix_append _ _)
  | telemetryTimeout =>
      rw [handle, pollTelemetry]
      split
      · exact grows_send qt client _ _
      · exact Grows.refl client
  | reconnectTimeout =>
      exact Grows.refl client

/-- A line after which no diagnosis is under way. -/
def Settles (line : Bytes) : Prop :=
  ∀ client : RpcClient, ∃ signals, (client.handleLine qt line).emitted = client.emitted ++ signals ∧
    ∃ signal ∈ signals, signal.Ends

theorem settles_of_fromJson_none {line : Bytes} (h : qt.fromJson line = none) :
    Settles qt line := by
  intro client
  rw [handleLine, h]
  exact ⟨_, rfl, _, List.mem_singleton.2 rfl, trivial⟩

end RpcClient

namespace MainWindow

variable (qt : Qt)

theorem running_foldl_handleLine {w : MainWindow} {lines : List Bytes}
    (h : (lines.foldl (fun w line => w.changed (w.client.handleLine qt line)) w).running = true) :
    w.running = true ∧ ∀ line ∈ lines, ¬ RpcClient.Settles qt line := by
  induction lines generalizing w with
  | nil =>
      exact ⟨h, nofun⟩
  | cons line lines ih =>
      rcases ih h with ⟨hfirst, hrest⟩
      rcases (RpcClient.reads_handleLine qt w.client line).emitted with ⟨signals, hsignals⟩
      rcases running_changed hsignals.symm hfirst with ⟨hrunning, hnone⟩
      refine ⟨hrunning, List.forall_mem_cons.2 ⟨fun hsettles => ?_, hrest⟩⟩
      rcases hsettles w.client with ⟨signals', hsignals', signal, hmem, hends⟩
      rw [← hsignals, List.append_cancel_left_eq] at hsignals'
      rw [← hsignals'] at hmem
      exact (hnone signal hmem).1 hends

/-- What the window does to its client only adds to its logs. -/
theorem grows_handle (w : MainWindow) (input : Input) :
    RpcClient.Grows w.client (w.handle qt input).client := by
  cases input with
  | socket event =>
      rw [client_handle_socket]
      exact RpcClient.grows_handle qt w.client event
  | startDiagnostic =>
      rw [handle, startDiagnostic]
      split
      · exact .refl w.client
      · dsimp only
        rw [client_changed]
        exact RpcClient.grows_send qt w.client _ _
  | saveProfile name action mode timeoutMs targets =>
      rw [handle, client_changed]
      exact RpcClient.grows_send qt w.client _ _
  | historyList =>
      rw [handle, client_changed]
      exact RpcClient.grows_send qt w.client _ _

end MainWindow

end Ui
end FlyDpi
