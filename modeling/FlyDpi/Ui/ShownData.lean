import FlyDpi.Ui.ApplicationRuns

/-!
# ShownData — where the data of the user interface comes from

Whatever connections were lost on the way, each list, the report and the status that the client holds
are, as a whole, those of one response of the server.  With what holds of all answers of the backend,
this says what a user can and cannot see.
-/

namespace FlyDpi
namespace Ui

open Lib FlyDpi.Orchestrator FlyDpi.Orchestrator.GoJson

/-- The result of the server that a list is. -/
def ListResult.toResult : ListResult → Rpc.Result
  | history items => .history items
  | profiles items => .profiles items
  | telemetry events => .events (some events)

/-- Every part of the client's data is empty, or the result of an answer. -/
structure RpcClient.Shows (times : Times) (Answered : Backend.Answer → Prop) (client : RpcClient) :
    Prop where
  report : client.diagnosticReport = [] ∨ ∃ a report, Answered a ∧
    a.response.outcome = .ok (.report report) ∧ client.diagnosticReport = reportJson times report
  history : client.history = [] ∨ ∃ a items, Answered a ∧
    a.response.outcome = .ok (.history items) ∧
      client.history = items.map (entryJson (texts times))
  profiles : client.profiles = [] ∨ ∃ a items, Answered a ∧
    a.response.outcome = .ok (.profiles items) ∧
      client.profiles = items.map (profileJson (texts times))
  telemetry : client.telemetry = [] ∨ ∃ a events, Answered a ∧
    a.response.outcome = .ok (.events (some events)) ∧ client.telemetry = events.map eventJson
  runtime : client.runtimeEnabled = true → ∃ a error sequence, Answered a ∧
    a.response.outcome = .ok (.status true error sequence)

namespace RpcClient

variable {times : Times} {Answered Answered' : Backend.Answer → Prop} {client client' : RpcClient}

theorem shows_start : Shows times Answered start :=
  ⟨.inl rfl, .inl rfl, .inl rfl, .inl rfl, nofun⟩

/-- More answers, and the same data. -/
theorem Shows.mono (h : Shows times Answered client) (hmore : ∀ a, Answered a → Answered' a) :
    Shows times Answered' client where
  report := h.report.imp_right fun ⟨a, report, ha, hrest⟩ => ⟨a, report, hmore a ha, hrest⟩
  history := h.history.imp_right fun ⟨a, items, ha, hrest⟩ => ⟨a, items, hmore a ha, hrest⟩
  profiles := h.profiles.imp_right fun ⟨a, items, ha, hrest⟩ => ⟨a, items, hmore a ha, hrest⟩
  telemetry := h.telemetry.imp_right fun ⟨a, events, ha, hrest⟩ => ⟨a, events, hmore a ha, hrest⟩
  runtime := fun henabled =>
    match h.runtime henabled with
    | ⟨a, error, sequence, ha, hrest⟩ => ⟨a, error, sequence, hmore a ha, hrest⟩

/-- The data of a client: everything it holds of responses but the unread bytes. -/
structure KeepsData (client client' : RpcClient) : Prop where
  diagnosticReport : client'.diagnosticReport = client.diagnosticReport
  history : client'.history = client.history
  profiles : client'.profiles = client.profiles
  telemetry : client'.telemetry = client.telemetry
  runtimeEnabled : client'.runtimeEnabled = client.runtimeEnabled

theorem SameData.keeps (h : SameData client client') : KeepsData client client' :=
  ⟨h.diagnosticReport, h.history, h.profiles, h.telemetry, h.runtimeEnabled⟩

theorem Shows.keeps (h : Shows times Answered client) (hkeeps : KeepsData client client') :
    Shows times Answered client' := by
  rcases h with ⟨hreport, hhistory, hprofiles, htelemetry, hruntime⟩
  rcases hkeeps with ⟨ereport, ehistory, eprofiles, etelemetry, eruntime⟩
  refine ⟨?_, ?_, ?_, ?_, ?_⟩
  · rwa [ereport]
  · rwa [ehistory]
  · rwa [eprofiles]
  · rwa [etelemetry]
  · rwa [eruntime]

/-! ## A list -/

theorem takeList_report (client : RpcClient) (list : List Json) :
    (client.takeList list).diagnosticReport = client.diagnosticReport ∧
      (client.takeList list).runtimeEnabled = client.runtimeEnabled := by
  unfold takeList
  split
  · exact ⟨rfl, rfl⟩
  · split
    · exact ⟨rfl, rfl⟩
    · exact ⟨rfl, rfl⟩

/-- A list replaces the one that its elements belong to; an empty one replaces the telemetry. -/
theorem Shows.takeList (h : Shows times Answered client) {a : Backend.Answer} (ha : Answered a)
    {result : ListResult} (hresult : a.response.outcome = .ok result.toResult) :
    Shows times Answered (client.takeList (result.json (texts times))) := by
  by_cases hempty : result.json (texts times) = []
  · rw [hempty]
    exact ⟨h.report, h.history, h.profiles, .inl rfl, h.runtime⟩
  · rcases takeList_report client (result.json (texts times)) with ⟨hreport, hruntime⟩
    have hlists := lists_takeList_of_ne_nil (texts times) client hempty
    have hhistory := congrArg Lists.history hlists
    have hprofiles := congrArg Lists.profiles hlists
    have htelemetry := congrArg Lists.telemetry hlists
    simp only [lists] at hhistory hprofiles htelemetry
    refine ⟨?_, ?_, ?_, ?_, ?_⟩
    · rw [hreport]
      exact h.report
    · rw [hhistory]
      cases result with
      | history items =>
          exact .inr ⟨a, items, ha, hresult, rfl⟩
      | _ =>
          exact h.history
    · rw [hprofiles]
      cases result with
      | profiles items =>
          exact .inr ⟨a, items, ha, hresult, rfl⟩
      | _ =>
          exact h.profiles
    · rw [htelemetry]
      cases result with
      | telemetry events =>
          exact .inr ⟨a, events, ha, hresult, rfl⟩
      | _ =>
          exact h.telemetry
    · rw [hruntime]
      exact h.runtime

/-- The status is the only result with a part for the runtime. -/
theorem Shows.takeStatus (h : Shows times Answered client) {a : Backend.Answer} (ha : Answered a)
    {enabled : Bool} {error : String} {sequence : UInt64}
    (hresult : a.response.outcome = .ok (.status enabled error sequence)) (id : UInt64) :
    Shows times Answered
      (client.handleResult id (.object (statusJson enabled error sequence))) := by
  have hhandle : client.handleResult id (.object (statusJson enabled error sequence)) =
      (client.takeRuntimeStatus [("enabled", .bool enabled),
        ("error", .string (cleanString (lit error)))]).emit
          (.resultReceived id (.object (statusJson enabled error sequence))) := rfl
  have henabled : (JsonObject.value [("enabled", .bool enabled),
      ("error", .string (cleanString (lit error)))] "enabled").toBool = enabled := rfl
  rw [hhandle, takeRuntimeStatus, henabled]
  split
  · -- the flag changes, to what the status says
    refine ⟨h.report, h.history, h.profiles, h.telemetry, fun hset => ?_⟩
    have hset : enabled = true := hset
    subst hset
    exact ⟨a, error, sequence, ha, hresult⟩
  · exact h.keeps ⟨rfl, rfl, rfl, rfl, rfl⟩

/-- The step: the line of a response, or a spoiled one. -/
theorem Shows.handleLine (h : Shows times Answered client) {a : Backend.Answer} (ha : Answered a)
    {qt : Qt} {line : Bytes} (hhears : Hears times qt line a.response) :
    Shows times Answered (client.handleLine qt line) := by
  rcases hhears with hread | hspoiled
  · rw [handleLine_of_some client hread]
    cases houtcome : a.response.outcome with
    | error e =>
        rw [handleObject_error times client houtcome]
        exact h.keeps ⟨rfl, rfl, rfl, rfl, rfl⟩
    | ok result =>
        rw [handleObject_ok times client houtcome]
        have hlist : ∀ list : ListResult, result = list.toResult →
            Shows times Answered
              (if 0 < a.response.id then client.takeList (list.json (texts times))
                else client.handleResult a.response.id (.array (list.json (texts times)))) := by
          intro list hresult
          split
          · exact h.takeList ha (houtcome.trans (by rw [hresult]))
          · exact h.keeps ⟨rfl, rfl, rfl, rfl, rfl⟩
        cases result with
        | status enabled error sequence =>
            exact h.takeStatus ha houtcome a.response.id
        | events events =>
            cases events with
            | none =>
                exact h.keeps ⟨rfl, rfl, rfl, rfl, rfl⟩
            | some events =>
                exact hlist (.telemetry events) rfl
        | report report =>
            simp only [resultJson, handleResult_report]
            exact ⟨.inr ⟨a, report, ha, houtcome, rfl⟩, h.history, h.profiles, h.telemetry,
              h.runtime⟩
        | history items =>
            exact hlist (.history items) rfl
        | profiles items =>
            exact hlist (.profiles items) rfl
        | saved =>
            exact h.keeps ⟨rfl, rfl, rfl, rfl, rfl⟩
  · rw [RpcClient.handleLine, hspoiled]
    exact h.keeps ⟨rfl, rfl, rfl, rfl, rfl⟩

theorem Shows.handleLines (h : Shows times Answered client) {qt : Qt} {lines : List Bytes}
    {rs : List Rpc.Response} (hlines : List.Forall₂ (Hears times qt) lines rs)
    (hrs : ∀ r ∈ rs, ∃ a, Answered a ∧ a.response = r) :
    Shows times Answered (lines.foldl (RpcClient.handleLine qt) client) := by
  induction hlines generalizing client with
  | nil =>
      exact h
  | @cons line r lines rs hfirst _ ih =>
      rcases List.forall_mem_cons.1 hrs with ⟨⟨a, ha, hr⟩, hrest⟩
      rw [← hr] at hfirst
      exact ih (h.handleLine ha hfirst) hrest

end RpcClient

/-! ## Runs -/

namespace Application

variable {world : World} {app app' : Application}

/-- An answer that some connection of the backend has written. -/
def Answered (b : Backend) (a : Backend.Answer) : Prop :=
  ∃ (c : Nat) (conn : Backend.Connection), b.connections[c]? = some conn ∧ a ∈ conn.answers

theorem answered_step {setup : Backend.Setup} {b b' : Backend} (h : Backend.Step setup b b')
    {a : Backend.Answer} (ha : Answered b a) : Answered b' a := by
  rcases ha with ⟨c, conn, hconn, hmem⟩
  rcases answers_step h hconn with ⟨conn', hconn', hanswers⟩
  exact ⟨c, conn', hconn', hanswers.subset hmem⟩

def Shown (world : World) (app : Application) : Prop :=
  app.window.client.Shows world.times (Answered app.backend)

theorem start_shown : Shown world start := RpcClient.shows_start

theorem Shown.step (hqt : Parses world.times world.qt) (h : Shown world app)
    (hinv : Inv world app) (hstep : Step world app app') : Shown world app' := by
  cases hstep with
  | backend hbackend _ =>
      exact RpcClient.Shows.mono h fun a ha => answered_step hbackend ha
  | connected _ =>
      have hclient := MainWindow.client_handle_socket world.qt app.window .connected
      have hkeeps := (RpcClient.sameData_onConnected world.qt app.window.client).keeps
      rw [Shown, hclient]
      have haccept : Backend.Step world.setup app.backend _ := .accept
      exact (RpcClient.Shows.keeps h hkeeps).mono fun a ha => answered_step haccept ha
  | @readyRead link conn chunk hlink hconn hchunk hreadable =>
      have hclient := MainWindow.client_handle_socket world.qt app.window
        (.readyRead chunk)
      rcases hinv.buffer with ⟨stale, hstale, hbuffer⟩
      rcases hinv.carries link hlink with ⟨conn', hcarries⟩
      cases Option.some.inj (hconn.symm.trans hcarries.accepted)
      have harrived : app.arrived = link.got := by
        rw [arrived, hlink]
      have hfit := hreadable.fit
      rw [hbuffer, harrived] at hfit
      -- every line that the chunk completes is a response or spoiled
      have hlines := readLines_hears hqt hreadable.portable hstale hcarries.got hchunk hfit
      rw [← harrived, ← hbuffer] at hlines
      have hcut : RpcClient.Shows world.times (Answered app.backend)
          { app.window.client with
            buffer := (RpcClient.readLines world.qt (app.window.client.buffer ++ chunk)).2 } :=
        RpcClient.Shows.keeps h ⟨rfl, rfl, rfl, rfl, rfl⟩
      rw [Shown, hclient]
      refine hcut.handleLines hlines ?_
      intro r hr
      have hr : r ∈ responses conn := List.mem_of_mem_take (List.mem_of_mem_drop hr)
      rcases List.mem_map.1 hr with ⟨a, ha, hresponse⟩
      exact ⟨a, ⟨link.connection, conn, hconn, ha⟩, hresponse⟩
  | disconnected _ =>
      rw [Shown, MainWindow.client_handle_socket]
      exact RpcClient.Shows.keeps h ⟨rfl, rfl, rfl, rfl, rfl⟩
  | errorOccurred _ =>
      rw [Shown, MainWindow.client_handle_socket]
      exact RpcClient.Shows.keeps h ⟨rfl, rfl, rfl, rfl, rfl⟩
  | acts hlocal =>
      exact RpcClient.Shows.keeps h (sameData_acts world.qt app.window hlocal).1.keeps

/-- In every run, whatever connections are lost, the client's data come from answers as a whole. -/
theorem reachable_shown (hqt : Parses world.times world.qt) (h : Reachable world app) :
    Shown world app := by
  have hboth : Inv world app ∧ Shown world app := by
    refine Runs.invariant (I := fun app => Inv world app ∧ Shown world app) ?_
      ⟨start_inv, start_shown⟩ h
    intro app app' happ hstep
    exact ⟨happ.1.step hqt hstep, happ.2.step hqt happ.1 hstep⟩
  exact hboth.2

/-! ## What a user can see -/

theorem explained_status {setup : Backend.Setup} {a : Backend.Answer}
    (h : Backend.Explained setup a) {enabled : Bool} {error : String} {sequence : UInt64}
    (houtcome : a.response.outcome = .ok (.status enabled error sequence)) :
    enabled = decide (setup.runtime = .enabled) := by
  cases h with
  | replies hreplies =>
      rw [Backend.answered] at houtcome
      cases hreplies <;> cases houtcome
  | status _ _ =>
      cases houtcome
      rfl
  | _ =>
      cases houtcome

/-- The telemetry that is shown consists of bare observations, and a report that is shown counts
events as observed and as nothing else; that the runtime is enabled is shown only when the backend has
said so, whose runtime it is. -/
theorem shown_plain (hqt : Parses world.times world.qt) (h : Reachable world app) :
    (∀ shown ∈ app.window.client.telemetry, ∃ e, shown = eventJson e ∧ Backend.EventOnly e) ∧
    (app.window.client.diagnosticReport = [] ∨ ∃ report n,
      app.window.client.diagnosticReport = reportJson world.times report ∧
        report.wfpEvents = { Diagnostic.WFPEventSummary.zero with observed := n } ∧
          report.stages.wfp.status = Backend.wfpStatus world.setup.runtime) ∧
    (app.window.client.runtimeEnabled = true → world.setup.runtime = .enabled ∧
      ∃ a error sequence, Answered app.backend a ∧
        a.response.outcome = .ok (.status true error sequence)) := by
  have hbackend := (reachable_inv hqt h).backend
  have hshown := reachable_shown hqt h
  have hplain : ∀ a, Answered app.backend a → a.Plain world.setup := by
    rintro a ⟨c, conn, hconn, ha⟩
    exact Backend.answers_plain hbackend hconn a ha
  refine ⟨?_, ?_, ?_⟩
  · intro shown hmem
    rcases hshown.telemetry with hempty | ⟨a, events, ha, houtcome, htelemetry⟩
    · rw [hempty] at hmem
      cases hmem
    · rw [htelemetry] at hmem
      rcases List.mem_map.1 hmem with ⟨e, he, rfl⟩
      exact ⟨e, rfl, (hplain a ha).events events houtcome e he⟩
  · rcases hshown.report with hempty | ⟨a, report, ha, houtcome, hreport⟩
    · exact .inl hempty
    · exact .inr ⟨report, _, hreport, (hplain a ha).summary report houtcome,
        (hplain a ha).stage report houtcome⟩
  · intro henabled
    rcases hshown.runtime henabled with ⟨a, error, sequence, ⟨c, conn, hconn, ha⟩, houtcome⟩
    have hexplained := ((Backend.answers_exact hbackend).2.2 c conn hconn).2.2 a ha
    exact ⟨of_decide_eq_true (explained_status hexplained houtcome).symm, a, error, sequence,
      ⟨c, conn, hconn, ha⟩, houtcome⟩

/-! ## The status on a fresh connection -/

/-- The first request of the client. -/
def statusRequest : Rpc.Request :=
  decoded liveWorld { id := 1, method := "status.get", params := [] }

def statusAnswer : Backend.Answer :=
  Backend.answered statusRequest (.ok (Backend.statusResult Backend.liveSetup 0)) none

/-- The backend with one connection. -/
def serving (handler : Backend.Handler) (answers : List Backend.Answer) : Backend :=
  { Backend.start with
    connections :=
      [{ requests := [statusRequest]
         handler := handler
         answers := answers
         parting := none }] }

theorem served_reachable :
    Reachable liveWorld { opened with backend := serving .decoding [statusAnswer] } := by
  have hsent : ∀ (handler : Backend.Handler) (answers : List Backend.Answer)
      (b : Backend), Decodes liveWorld { opened with backend := b } (serving handler answers) := by
    intro handler answers b link hlink conn hconn
    cases hlink
    cases hconn
    exact ⟨⟨_, rfl⟩, rfl⟩
  have hcalls : statusRequest.calls .statusGet := ⟨rfl, by decide +kernel⟩
  have hdecoded : Backend.Step Backend.liveSetup opened.backend
      (serving (.dispatching statusRequest) []) :=
    .serve (c := 0) rfl (.decode statusRequest rfl)
  have hanswering : Backend.Step Backend.liveSetup (serving (.dispatching statusRequest) [])
      (serving (.answering statusAnswer) []) :=
    .serve (c := 0) rfl (.status rfl hcalls)
  have hanswered : Backend.Step Backend.liveSetup (serving (.answering statusAnswer) [])
      (serving .decoding [statusAnswer]) :=
    .serve (c := 0) rfl (.encode rfl)
  exact ((opened_reachable.tail (.backend hdecoded (hsent _ _ _))).tail
    (.backend hanswering (hsent _ _ _))).tail (.backend hanswered (hsent _ _ _))

theorem statusAnswer_portable : Portable liveWorld.times statusAnswer.response :=
  ⟨by decide +kernel, by decide +kernel⟩

theorem exists_shown : ∃ app, Reachable liveWorld app ∧
    app.window.client.runtimeEnabled = true := by
  have hqt : Parses liveWorld.times liveWorld.qt := strict_parses _ rfl
  have hchunk : [] ++ encode liveWorld.times statusAnswer.response <+:
      streamOf liveWorld.times [statusAnswer.response] := by
    rw [streamOf, List.flatMap_singleton, List.nil_append]
  have hreadable : Readable liveWorld opened.window.client
      { requests := [statusRequest]
        handler := .decoding
        answers := [statusAnswer]
        parting := none } (encode liveWorld.times statusAnswer.response) :=
    { portable := List.forall_mem_singleton.2 statusAnswer_portable
      fit := RpcClient.linesFit_of_length_lt (by decide +kernel) }
  refine ⟨_, served_reachable.tail (.readyRead rfl rfl hchunk hreadable), ?_⟩
  have hstatus : statusAnswer.response.outcome = .ok (.status true "" 0) := rfl
  rw [MainWindow.client_handle_socket, RpcClient.handle,
    onReadyRead_encode _ _ hqt rfl statusAnswer_portable, handleObject_ok _ _ hstatus]
  rfl

theorem status_shown : ∃ app : Application, app.window.client.runtimeEnabled = true ∧
    Shown liveWorld app := by
  rcases exists_shown with ⟨app, hreachable, henabled⟩
  exact ⟨app, henabled, reachable_shown (strict_parses _ rfl) hreachable⟩

theorem status_plain : ∃ app : Application, app.window.client.runtimeEnabled = true ∧
    (∀ shown ∈ app.window.client.telemetry, ∃ e, shown = eventJson e ∧ Backend.EventOnly e) ∧
    ∃ a error sequence, Answered app.backend a ∧
      a.response.outcome = .ok (.status true error sequence) := by
  rcases exists_shown with ⟨app, hreachable, henabled⟩
  rcases shown_plain (strict_parses _ rfl) hreachable with ⟨htelemetry, _, hstatus⟩
  exact ⟨app, henabled, htelemetry, (hstatus henabled).2⟩

end Application

end Ui
end FlyDpi
