import FlyDpi.Ui.Application

/-!
# ApplicationRuns — what the user sees in every run

While the window says that a diagnosis is under way, one is: the request is written on the current
connection, and its response has not been read.  What the window shows is what the server has
answered, and nothing that a lost connection left behind.
-/

namespace FlyDpi
namespace Ui

open Lib FlyDpi.Orchestrator FlyDpi.Orchestrator.GoJson

namespace Application

variable {world : World} {app app' : Application}

/-! ## The connection in the backend -/

theorem answers_serves {setup : Backend.Setup} {c : Nat} {s s' : Backend.Shared}
    {conn conn' : Backend.Connection} (h : Backend.Serves setup c s conn s' conn') :
    conn.answers <+: conn'.answers := by
  cases h with
  | encode _ =>
      exact List.prefix_append _ _
  | _ =>
      exact List.prefix_rfl

/-- Answers are only added. -/
theorem answers_step {setup : Backend.Setup} {b b' : Backend} (h : Backend.Step setup b b') {c : Nat}
    {conn : Backend.Connection} (hconn : b.connections[c]? = some conn) :
    ∃ conn', b'.connections[c]? = some conn' ∧ conn.answers <+: conn'.answers := by
  cases h with
  | core _ _ =>
      exact ⟨conn, hconn, List.prefix_rfl⟩
  | accept =>
      have hlt : c < b.connections.length := (List.getElem?_eq_some_iff.1 hconn).1
      exact ⟨conn, by rw [← hconn]; exact List.getElem?_append_left hlt, List.prefix_rfl⟩
  | @serve c' own own' shared hown hserves =>
      by_cases hc : c' = c
      · subst hc
        rw [hown] at hconn
        cases hconn
        have hlt : c' < b.connections.length := (List.getElem?_eq_some_iff.1 hown).1
        exact ⟨own', List.getElem?_set_self hlt, answers_serves hserves⟩
      · exact ⟨conn, by rw [← hconn]; exact List.getElem?_set_ne hc, List.prefix_rfl⟩

theorem streamOf_mono (times : Times) {rs rs' : List Rpc.Response} (h : rs <+: rs') :
    streamOf times rs <+: streamOf times rs' := by
  rcases h with ⟨more, rfl⟩
  rw [streamOf, streamOf, List.flatMap_append]
  exact List.prefix_append _ _

/-! ## The invariant -/

/-- The bytes that have arrived on the current connection. -/
def arrived (app : Application) : Bytes :=
  match app.link with
  | none => []
  | some link => link.got

/-- What holds of the client's connection. -/
structure Carries (world : World) (app : Application) (link : Link) (conn : Backend.Connection) :
    Prop where
  accepted : app.backend.connections[link.connection]? = some conn
  requests : conn.requests <+: (link.sent app.window.client).map (decoded world)
  got : link.got <+: streamOf world.times (responses conn)
  first : link.first ≤ app.window.client.written.length
  parting : conn.parting = none

/-- A request for a diagnosis is written, and its response has not been read. -/
def Awaits (app : Application) : Prop :=
  ∃ link ∈ app.link, ∃ i request, link.heard ≤ i ∧
    (link.sent app.window.client)[i]? = some request ∧ request.method = "diagnostic.run"

structure Inv (world : World) (app : Application) : Prop where
  backend : Backend.Reachable world.setup app.backend
  linked : app.link.isSome = app.window.client.connected
  carries : ∀ link ∈ app.link, ∃ conn, Carries world app link conn
  /-- Behind what lost connections left stands what has arrived since the last newline. -/
  buffer : ∃ stale, Stale world.times stale ∧
    app.window.client.buffer = (Framing.cut 0x0a (stale ++ app.arrived)).2
  awaits : app.window.running = true → app.Awaits

theorem start_inv : Inv world start where
  backend := Relation.ReflTransGen.refl
  linked := rfl
  carries := nofun
  buffer := ⟨[], .nil, rfl⟩
  awaits := nofun

/-! ## What the answers on the connection are -/

/-- The answer to a request of the client is at the place of the request. -/
theorem Carries.answer {link : Link} {conn : Backend.Connection}
    (hbackend : Backend.Reachable world.setup app.backend) (h : Carries world app link conn) {i : Nat}
    {request : Request} (hrequest : (link.sent app.window.client)[i]? = some request)
    {a : Backend.Answer} (ha : conn.answers[i]? = some a) :
    a.request = decoded world request ∧ Backend.Explained world.setup a := by
  rcases (Backend.answers_exact hbackend).2.2 _ _ h.accepted with ⟨_, hrequests, hanswers⟩
  refine ⟨?_, hanswers a (List.mem_of_getElem? ha)⟩
  have hlt : i < conn.answers.length := (List.getElem?_eq_some_iff.1 ha).1
  have hat : conn.requests[i]? = some a.request := by
    rw [hrequests, List.getElem?_append_left (by simpa using hlt), List.getElem?_map, ha]
    rfl
  have hsent : ((link.sent app.window.client).map (decoded world))[i]? = some a.request := by
    rcases h.requests with ⟨more, hmore⟩
    rw [← hmore, List.getElem?_append_left (List.getElem?_eq_some_iff.1 hat).1, hat]
  rw [List.getElem?_map, hrequest] at hsent
  exact (Option.some.inj hsent).symm

/-- There are no more answers than requests. -/
theorem Carries.length_responses_le {link : Link} {conn : Backend.Connection}
    (hbackend : Backend.Reachable world.setup app.backend) (h : Carries world app link conn) :
    (responses conn).length ≤ (link.sent app.window.client).length := by
  have hrequests := ((Backend.answers_exact hbackend).2.2 _ _ h.accepted).2.1
  have hle := h.requests.length_le
  rw [hrequests, List.length_append, List.length_map, List.length_map] at hle
  rw [responses, List.length_map]
  omega

theorem methodOf_diagnosis : Rpc.methodOf (lit "diagnostic.run") = some .diagnosticRun := by
  decide +kernel

/-- A request for a diagnosis is answered with a report. -/
theorem explained_diagnosis {request : Request} (hmethod : request.method = "diagnostic.run")
    {a : Backend.Answer} (hrequest : a.request = decoded world request)
    (h : Backend.Explained world.setup a) :
    ∃ report, a.response.outcome = .ok (.report report) := by
  have hcalls : ∀ m, a.request.calls m → m = .diagnosticRun := by
    rintro m ⟨_, hm⟩
    rw [hrequest, decoded, hmethod] at hm
    exact (Option.some.inj (methodOf_diagnosis.symm.trans hm)).symm
  have hjsonrpc : a.request.jsonrpc = lit "2.0" := by
    rw [hrequest]
    rfl
  cases h with
  | replies hreplies =>
      cases hreplies with
      | invalid hne =>
          exact absurd hjsonrpc hne
      | notFound _ hnone =>
          rw [Backend.answered] at hrequest
          simp only at hrequest
          rw [hrequest, decoded, hmethod, methodOf_diagnosis] at hnone
          cases hnone
      | history _ hm => cases hcalls _ hm
      | historyError _ hm => cases hcalls _ hm
      | profiles _ hm => cases hcalls _ hm
      | profilesError _ hm => cases hcalls _ hm
      | invalidProfile hm _ => cases hcalls _ hm
      | saved _ hm _ _ => cases hcalls _ hm
      | saveError _ _ hm _ => cases hcalls _ hm
  | status _ hm =>
      cases hcalls _ hm
  | nothingPolled hm _ =>
      cases hcalls _ hm
  | polled hm _ =>
      cases hcalls _ hm
  | report env _ _ _ =>
      exact ⟨_, rfl⟩

/-! ## Lines -/

/-- The response to a diagnosis ends it, also when its line is spoiled. -/
theorem settles_report {response : Rpc.Response} {report : Diagnostic.DiagnosticReport}
    (houtcome : response.outcome = .ok (.report report)) {line : Bytes}
    (h : Hears world.times world.qt line response) : RpcClient.Settles world.qt line := by
  rcases h with hread | hspoiled
  · intro client
    rw [handleLine_of_some client hread, handleObject_ok world.times client houtcome]
    refine ⟨[.diagnosticReportChanged, .resultReceived response.id
      (.object (reportJson world.times report))], ?_, _, List.mem_cons_self, trivial⟩
    simp only [resultJson, handleResult_report]
    simp [RpcClient.emit]
  · exact RpcClient.settles_of_fromJson_none _ hspoiled

theorem exists_line {α β : Type} {R : α → β → Prop} {xs : List α} {ys : List β}
    (h : List.Forall₂ R xs ys) {y : β} (hy : y ∈ ys) : ∃ x ∈ xs, R x y := by
  induction h with
  | nil =>
      cases hy
  | @cons x y' xs ys hfirst _ ih =>
      rcases List.mem_cons.1 hy with rfl | hrest
      · exact ⟨x, List.mem_cons_self, hfirst⟩
      · rcases ih hrest with ⟨x', hx', hR⟩
        exact ⟨x', List.mem_cons_of_mem _ hx', hR⟩

/-- The lines that a chunk completes, and the responses that they are. -/
theorem readLines_hears {times : Times} {qt : Qt} (hqt : Parses times qt) {stale got chunk : Bytes}
    {rs : List Rpc.Response} (hportable : ∀ response ∈ rs, Portable times response)
    (hstale : Stale times stale) (hgot : got <+: streamOf times rs)
    (hmore : got ++ chunk <+: streamOf times rs)
    (hfit : RpcClient.LinesFit ((Framing.cut 0x0a (stale ++ got)).2 ++ chunk)) :
    List.Forall₂ (Hears times qt)
      (RpcClient.readLines qt ((Framing.cut 0x0a (stale ++ got)).2 ++ chunk)).1
      ((rs.take (Framing.cut 0x0a (got ++ chunk)).1.length).drop
        (Framing.cut 0x0a got).1.length) := by
  rcases hears_lines hqt hstale hportable hgot with ⟨k, hk, hkle, hbefore⟩
  rcases hears_lines hqt hstale hportable hmore with ⟨k', hk', _, hafter⟩
  have hlength : (RpcClient.lineOf (Framing.cut 0x0a (stale ++ got)).1).length = k := by
    rw [hbefore.length_eq, List.length_take]
    omega
  rw [← List.append_assoc, Framing.cut_append, RpcClient.lineOf_append] at hafter
  have hdrop := List.forall₂_drop k hafter
  rw [← hlength, List.drop_left, hlength] at hdrop
  rw [RpcClient.readLines_eq_cut qt hfit, ← hk, ← hk']
  exact hdrop

/-- When the response to a diagnosis has arrived, a line ends the diagnosis. -/
theorem Carries.settles (hqt : Parses world.times world.qt) {link : Link}
    {conn : Backend.Connection} (hbackend : Backend.Reachable world.setup app.backend)
    (h : Carries world app link conn) {stale chunk : Bytes} (hstale : Stale world.times stale)
    (hchunk : link.got ++ chunk <+: streamOf world.times (responses conn))
    (hportable : ∀ response ∈ responses conn, Portable world.times response)
    (hfit : RpcClient.LinesFit ((Framing.cut 0x0a (stale ++ link.got)).2 ++ chunk)) {i : Nat}
    {request : Request} (hheard : link.heard ≤ i)
    (hread : i < (Framing.cut 0x0a (link.got ++ chunk)).1.length)
    (hsent : (link.sent app.window.client)[i]? = some request)
    (hmethod : request.method = "diagnostic.run") :
    ∃ line ∈ (RpcClient.readLines world.qt
      ((Framing.cut 0x0a (stale ++ link.got)).2 ++ chunk)).1, RpcClient.Settles world.qt line := by
  have hlines := readLines_hears hqt hportable hstale h.got hchunk hfit
  rcases hears_lines hqt hstale hportable hchunk with ⟨k, hk, hkle, _⟩
  rw [← hk] at hlines hread
  have hlt : i < conn.answers.length := by
    rw [responses, List.length_map] at hkle
    omega
  have ha : conn.answers[i]? = some conn.answers[i] := List.getElem?_eq_getElem hlt
  have hmem : conn.answers[i].response ∈
      ((responses conn).take k).drop (Framing.cut 0x0a link.got).1.length := by
    refine List.mem_of_getElem? (i := i - link.heard) ?_
    have hindex : (Framing.cut 0x0a link.got).1.length + (i - link.heard) = i :=
      Nat.add_sub_of_le hheard
    rw [List.getElem?_drop, hindex, List.getElem?_take_of_lt hread, responses, List.getElem?_map, ha]
    rfl
  rcases exists_line hlines hmem with ⟨line, hline, hhears⟩
  rcases h.answer hbackend hsent ha with ⟨hrequest, hexplained⟩
  rcases explained_diagnosis hmethod hrequest hexplained with ⟨report, houtcome⟩
  exact ⟨line, hline, settles_report houtcome hhears⟩

/-- What a lost connection leaves in the buffer. -/
theorem stale_rest {times : Times} {stale got : Bytes} {rs : List Rpc.Response}
    (hstale : Stale times stale) (hgot : got <+: streamOf times rs) :
    Stale times (Framing.cut 0x0a (stale ++ got)).2 := by
  rcases cut_streamOf times hgot with ⟨k, rest, hcut, _, hrest⟩
  rw [Framing.cut_append_left (hstale.newline_not_mem times), hcut]
  have hpart : ∀ {stale : Bytes}, Stale times stale → Stale times (stale ++ rest) := by
    intro stale hstale
    by_cases hempty : rest = []
    · rwa [hempty, List.append_nil]
    · rcases hrest hempty with ⟨response, _, hcuts⟩
      exact hstale.cut hcuts hempty
  cases htake : rs.take k with
  | nil =>
      -- no newline has arrived
      have hgot' : got = rest := by
        have hjoin := @Framing.join_cut _ _ 0x0a got
        rw [hcut, htake] at hjoin
        exact hjoin.symm
      rw [hgot']
      exact hpart hstale
  | cons response responses =>
      exact hpart .nil

/-! ## Steps -/

theorem sent_mono {link : Link} {client client' : RpcClient}
    (h : client.written <+: client'.written) : link.sent client <+: link.sent client' :=
  h.drop link.first

/-- The client writes more, and has the same connection. -/
theorem Carries.grows {link : Link} {conn : Backend.Connection} (h : Carries world app link conn)
    (hbackend : app'.backend = app.backend)
    (hwritten : app.window.client.written <+: app'.window.client.written) :
    Carries world app' link conn where
  accepted := by
    rw [hbackend]
    exact h.accepted
  requests := h.requests.trans ((sent_mono hwritten).map _)
  got := h.got
  first := h.first.trans hwritten.length_le
  parting := h.parting

theorem Awaits.grows (h : app.Awaits) (hlink : app'.link = app.link)
    (hwritten : app.window.client.written <+: app'.window.client.written) : app'.Awaits := by
  rcases h with ⟨link, hmem, i, request, hheard, hsent, hmethod⟩
  refine ⟨link, by rw [hlink]; exact hmem, i, request, hheard, ?_, hmethod⟩
  have hmono : link.sent _ <+: link.sent _ := sent_mono hwritten
  rcases hmono with ⟨more, hmore⟩
  rw [← hmore, List.getElem?_append_left (List.getElem?_eq_some_iff.1 hsent).1, hsent]

theorem Inv.backend_step (h : Inv world app) {backend : Backend}
    (hstep : Backend.Step world.setup app.backend backend) (hdecodes : Decodes world app backend) :
    Inv world { app with backend := backend } where
  backend := h.backend.tail hstep
  linked := h.linked
  carries := by
    intro link hlink
    rcases h.carries link hlink with ⟨conn, hconn⟩
    rcases answers_step hstep hconn.accepted with ⟨conn', hconn', hanswers⟩
    exact ⟨conn',
      { accepted := hconn'
        requests := (hdecodes link hlink conn' hconn').1
        got := hconn.got.trans (streamOf_mono _ (hanswers.map _))
        first := hconn.first
        parting := (hdecodes link hlink conn' hconn').2 }⟩
  buffer := h.buffer
  awaits := h.awaits

theorem Inv.connected (h : Inv world app) (hlink : app.link = none) :
    Inv world
      { backend :=
          { app.backend with
            connections := app.backend.connections ++ [Backend.Connection.new] }
        window := app.window.handle world.qt (.socket .connected)
        link := some
          { connection := app.backend.connections.length
            first := app.window.client.written.length
            got := [] } } := by
  have hclient := MainWindow.client_handle_socket world.qt app.window .connected
  have hgrows := RpcClient.grows_onConnected world.qt app.window.client
  rcases h.buffer with ⟨stale, hstale, hbuffer⟩
  refine ⟨h.backend.tail .accept, ?_, ?_, ⟨stale, hstale, ?_⟩, ?_⟩
  · simp [hclient, RpcClient.handle]
  · intro link hmem
    cases hmem
    refine ⟨Backend.Connection.new, ⟨by simp, List.nil_prefix, List.nil_prefix, ?_, rfl⟩⟩
    rw [hclient]
    exact hgrows.written.length_le
  · rw [hclient, RpcClient.handle, (RpcClient.sameData_onConnected _ _).buffer, hbuffer]
    simp [arrived, hlink]
  · -- no diagnosis is under way without a connection
    intro hrunning
    rcases hgrows.emitted with ⟨signals, hsignals⟩
    have hbefore := (MainWindow.running_changed hsignals.symm hrunning).1
    rcases h.awaits hbefore with ⟨link, hmem, _⟩
    rw [hlink] at hmem
    cases hmem

theorem Inv.readyRead (hqt : Parses world.times world.qt) (h : Inv world app) {link : Link}
    {conn : Backend.Connection} {chunk : Bytes} (hlink : app.link = some link)
    (hconn : app.backend.connections[link.connection]? = some conn)
    (hchunk : link.got ++ chunk <+: streamOf world.times (responses conn))
    (hreadable : Readable world app.window.client conn chunk) :
    Inv world
      { app with
        window := app.window.handle world.qt (.socket (.readyRead chunk))
        link := some { link with got := link.got ++ chunk } } := by
  have hclient := MainWindow.client_handle_socket world.qt app.window (.readyRead chunk)
  have hreads := RpcClient.reads_onReadyRead world.qt app.window.client chunk
  rcases h.buffer with ⟨stale, hstale, hbuffer⟩
  rcases h.carries link hlink with ⟨conn', hcarries⟩
  cases Option.some.inj (hconn.symm.trans hcarries.accepted)
  have harrived : app.arrived = link.got := by
    rw [arrived, hlink]
  rw [harrived] at hbuffer
  have hfit := hreadable.fit
  refine ⟨h.backend, ?_, ?_, ⟨stale, hstale, ?_⟩, ?_⟩
  · rw [hclient, RpcClient.handle, hreads.connected, ← h.linked, hlink]
    rfl
  · intro link' hmem
    cases hmem
    refine ⟨conn, ⟨hcarries.accepted, ?_, hchunk, ?_, hcarries.parting⟩⟩
    · rw [hclient, Link.sent, RpcClient.handle, hreads.written]
      exact hcarries.requests
    · rw [hclient, RpcClient.handle, hreads.written]
      exact hcarries.first
  · have hclean : 0x0a ∉ app.window.client.buffer := by
      rw [hbuffer]
      exact Framing.not_mem_rest _
    rw [hclient, RpcClient.buffer_handle world.qt _ (.readyRead chunk) hclean hfit, hbuffer,
      RpcClient.received, arrived, ← List.append_assoc, Framing.cut_append (stale ++ link.got)]
  · intro hrunning
    rcases MainWindow.running_foldl_handleLine _ hrunning with ⟨hbefore, hlines⟩
    rcases h.awaits hbefore with ⟨link', hmem, i, request, hheard, hsent, hmethod⟩
    cases Option.some.inj (hlink.symm.trans hmem)
    refine ⟨_, rfl, i, request, ?_, ?_, hmethod⟩
    · -- had the response arrived, its line would have ended the diagnosis
      by_contra hread
      rw [hbuffer] at hfit
      rcases hcarries.settles hqt h.backend hstale hchunk hreadable.portable hfit hheard
        (Nat.not_le.1 hread) hsent hmethod with ⟨line, hline, hsettles⟩
      rw [← hbuffer] at hline
      exact hlines line hline hsettles
    · rw [hclient, Link.sent, RpcClient.handle, hreads.written]
      exact hsent

/-- The connection is gone; what had arrived of it is stale. -/
theorem Inv.unlinked (h : Inv world app) {window : MainWindow}
    (hconnected : window.client.connected = false)
    (hbuffer : window.client.buffer = app.window.client.buffer) (hrunning : window.running = false) :
    Inv world { app with window := window, link := none } := by
  rcases h.buffer with ⟨stale, hstale, hrest⟩
  have hleft : Stale world.times (Framing.cut 0x0a (stale ++ app.arrived)).2 := by
    cases hlink : app.link with
    | none =>
        rw [arrived, hlink, List.append_nil, Framing.cut_of_not_mem (hstale.newline_not_mem _)]
        exact hstale
    | some link =>
        rcases h.carries link hlink with ⟨conn, hcarries⟩
        rw [arrived, hlink]
        exact stale_rest hstale hcarries.got
  refine ⟨h.backend, ?_, nofun, ⟨_, hleft, ?_⟩, ?_⟩
  · rw [hconnected]
    rfl
  · have hnone : ({ app with window := window, link := none } : Application).arrived = [] := rfl
    rw [hbuffer, hrest, hnone, List.append_nil, Framing.cut_of_not_mem (hleft.newline_not_mem _)]
  · rw [hrunning]
    nofun

theorem Inv.disconnected (h : Inv world app) :
    Inv world
      { app with
        window := app.window.handle world.qt (.socket .disconnected)
        link := none } := by
  have hclient := MainWindow.client_handle_socket world.qt app.window .disconnected
  refine h.unlinked (by rw [hclient]; rfl) (by rw [hclient]; rfl) ?_
  by_contra hrunning
  have hemitted : app.window.client.onDisconnected.emitted =
      app.window.client.emitted ++ [.connectedChanged] := rfl
  have hsignals := (MainWindow.running_changed hemitted
    (Bool.eq_true_of_not_eq_false hrunning)).2 _ List.mem_cons_self
  cases hsignals.2 rfl

theorem Inv.errorOccurred (h : Inv world app) {connected : Bool} {errorString : Bytes}
    (hlink : connected = true → app.link.isSome = true) :
    Inv world
      { app with
        window := app.window.handle world.qt
          (.socket (.errorOccurred connected errorString))
        link := if connected then app.link else none } := by
  have hclient := MainWindow.client_handle_socket world.qt app.window
    (.errorOccurred connected errorString)
  have hrunning : (app.window.handle world.qt
      (.socket (.errorOccurred connected errorString))).running = false := by
    by_contra hrunning
    have hemitted : (app.window.client.onSocketError connected errorString).emitted =
        app.window.client.emitted ++ [.connectedChanged, .errorOccurred errorString] := by
      simp [RpcClient.onSocketError, RpcClient.emit, RpcClient.scheduleReconnect]
    have hsignals := (MainWindow.running_changed hemitted
      (Bool.eq_true_of_not_eq_false hrunning)).2 (.errorOccurred errorString) (by simp)
    exact hsignals.1 trivial
  cases connected with
  | false =>
      exact h.unlinked (by rw [hclient]; rfl) (by rw [hclient]; rfl) hrunning
  | true =>
      refine ⟨h.backend, ?_, ?_, ?_, ?_⟩
      · rw [hclient, if_pos rfl, hlink rfl]
        rfl
      · intro link hmem
        rcases h.carries link hmem with ⟨conn, hconn⟩
        exact ⟨conn, hconn.grows rfl (by rw [hclient]; exact List.prefix_rfl)⟩
      · rcases h.buffer with ⟨stale, hstale, hbuffer⟩
        exact ⟨stale, hstale, by rw [hclient]; exact hbuffer⟩
      · intro hrunning'
        rw [hrunning] at hrunning'
        cases hrunning'

/-! ### What the user and the timers do -/

theorem sameData_acts (qt : Qt) (w : MainWindow) {input : Input} (hlocal : Local input) :
    RpcClient.SameData w.client (w.handle qt input).client ∧
      (w.handle qt input).client.connected = w.client.connected := by
  have hsame : RpcClient.SameData w.client w.client := ⟨rfl, rfl, rfl, rfl, rfl, rfl⟩
  have hsend : ∀ method params,
      RpcClient.SameData w.client (w.client.send qt method params) ∧
        (w.client.send qt method params).connected = w.client.connected :=
    fun method params => ⟨RpcClient.sameData_send _ w.client method params,
      RpcClient.connected_send _ w.client method params⟩
  cases input with
  | socket event =>
      rw [MainWindow.client_handle_socket]
      cases event with
      | telemetryTimeout =>
          rw [RpcClient.handle, RpcClient.pollTelemetry]
          split
          · exact hsend _ _
          · exact ⟨hsame, rfl⟩
      | reconnectTimeout =>
          exact ⟨hsame, rfl⟩
      | _ =>
          exact hlocal.elim
  | startDiagnostic =>
      rw [MainWindow.handle, MainWindow.startDiagnostic]
      split
      · exact ⟨hsame, rfl⟩
      · dsimp only
        rw [MainWindow.client_changed]
        exact hsend _ _
  | saveProfile name action mode timeoutMs targets =>
      rw [MainWindow.handle, MainWindow.client_changed]
      exact hsend _ _
  | historyList =>
      rw [MainWindow.handle, MainWindow.client_changed]
      exact hsend _ _

/-- A diagnosis that is under way afterwards was under way before, or its request has been written. -/
theorem running_acts (w : MainWindow) {input : Input} (hlocal : Local input)
    (h : (w.handle world.qt input).running = true) :
    w.running = true ∨ (w.client.connected = true ∧ ∃ request,
      (w.handle world.qt input).client.written = w.client.written ++ [request] ∧
        request.method = "diagnostic.run") := by
  have hkept : ∀ client : RpcClient, RpcClient.Grows w.client client →
      (w.changed client).running = true → w.running = true := by
    intro client hgrows hrunning
    rcases hgrows.emitted with ⟨signals, hsignals⟩
    exact (MainWindow.running_changed hsignals.symm hrunning).1
  cases input with
  | socket event =>
      cases event with
      | telemetryTimeout =>
          exact .inl (hkept _ (RpcClient.grows_handle _ w.client .telemetryTimeout) h)
      | reconnectTimeout =>
          exact .inl (hkept _ (RpcClient.Grows.refl w.client) h)
      | _ =>
          exact hlocal.elim
  | startDiagnostic =>
      rw [MainWindow.handle, MainWindow.startDiagnostic] at h ⊢
      split at h
      · exact .inl h
      · rename_i hopen
        rw [if_neg hopen]
        simp only [Bool.or_eq_true, Bool.not_eq_true', not_or, Bool.not_eq_false] at hopen
        dsimp only at h ⊢
        rw [MainWindow.client_changed]
        rcases RpcClient.send_cases world.qt w.client "diagnostic.run" [] with
          ⟨_, hwritten⟩ | ⟨_, message, hemitted⟩
        · exact .inr ⟨hopen.2, _, hwritten, rfl⟩
        · -- the request has not been written, and the error has ended the diagnosis
          have hended : ∀ started : MainWindow, started.client = w.client →
              (started.changed (w.client.probeRun world.qt [])).running = true → False := by
            intro started hstarted hrunning
            rw [← hstarted] at hemitted
            rw [← hstarted] at hrunning
            exact ((MainWindow.running_changed hemitted hrunning).2 _ List.mem_cons_self).1 trivial
          refine (hended _ ?_ h).elim
          rfl
  | saveProfile name action mode timeoutMs targets =>
      exact .inl (hkept _ (RpcClient.grows_send _ w.client _ _) h)
  | historyList =>
      exact .inl (hkept _ (RpcClient.grows_send _ w.client _ _) h)

theorem Inv.acts (h : Inv world app) {input : Input} (hlocal : Local input) :
    Inv world { app with window := app.window.handle world.qt input } := by
  have hgrows := MainWindow.grows_handle world.qt app.window input
  have hacts := sameData_acts world.qt app.window hlocal
  refine ⟨h.backend, ?_, ?_, ?_, ?_⟩
  · rw [hacts.2]
    exact h.linked
  · intro link hmem
    rcases h.carries link hmem with ⟨conn, hconn⟩
    exact ⟨conn, hconn.grows rfl hgrows.written⟩
  · rcases h.buffer with ⟨stale, hstale, hrest⟩
    exact ⟨stale, hstale, by rw [hacts.1.buffer]; exact hrest⟩
  · intro hrunning
    rcases running_acts app.window hlocal hrunning with hbefore | ⟨hopen, request, hwritten, hmethod⟩
    · exact (h.awaits hbefore).grows rfl hgrows.written
    · -- all that has been heard answers earlier requests
      rcases Option.isSome_iff_exists.1 (h.linked.trans hopen) with ⟨link, hlink⟩
      rcases h.carries link hlink with ⟨conn, hcarries⟩
      rcases cut_streamOf world.times hcarries.got with ⟨k, rest, hcut, hk, _⟩
      have hle := hcarries.length_responses_le h.backend
      have hsent : link.sent (app.window.handle world.qt input).client =
          link.sent app.window.client ++ [request] := by
        rw [Link.sent, hwritten, List.drop_append_of_le_length hcarries.first]
        rfl
      refine ⟨link, hlink, (link.sent app.window.client).length, request, ?_, ?_, hmethod⟩
      · rw [Link.heard, hcut, List.length_map, List.length_take]
        omega
      · rw [hsent, List.getElem?_concat_length]

theorem Inv.step (hqt : Parses world.times world.qt) (h : Inv world app)
    (hstep : Step world app app') : Inv world app' := by
  cases hstep with
  | backend hbackend hdecodes =>
      exact h.backend_step hbackend hdecodes
  | connected hlink =>
      exact h.connected hlink
  | readyRead hlink hconn hchunk hreadable =>
      exact h.readyRead hqt hlink hconn hchunk hreadable
  | disconnected _ =>
      exact h.disconnected
  | errorOccurred hlink =>
      exact h.errorOccurred hlink
  | acts hlocal =>
      exact h.acts hlocal

theorem reachable_inv (hqt : Parses world.times world.qt) (h : Reachable world app) :
    Inv world app :=
  Runs.invariant (fun _ _ happ hstep => happ.step hqt hstep) start_inv h

/-! ## The running diagnosis -/

/-- While the window says that a diagnosis is under way, the client is connected, the request of one is
written on this connection, and its response has not arrived. -/
theorem running_awaits (hqt : Parses world.times world.qt) (h : Reachable world app)
    (hrunning : app.window.running = true) :
    app.window.client.connected = true ∧ app.Awaits := by
  have hinv := reachable_inv hqt h
  have hawaits := hinv.awaits hrunning
  refine ⟨?_, hawaits⟩
  rcases hawaits with ⟨link, hlink, _⟩
  rw [← hinv.linked, hlink]
  rfl

/-- A world in which the socket takes everything. -/
def liveWorld : World :=
  { setup := Backend.liveSetup
    times := liveTimes
    qt := strictQt
    toJson := fun params =>
      match params with
      | [("limit", .number 32)] => lit "\x7b\"limit\":32\x7d"
      | _ => lit "\x7b\x7d" }

/-- The client has connected. -/
def opened : Application :=
  { backend :=
      { Backend.start with
        connections := [Backend.Connection.new] }
    window := MainWindow.start.handle liveWorld.qt (.socket .connected)
    link := some { connection := 0, first := 0, got := [] } }

theorem opened_reachable : Reachable liveWorld opened :=
  Relation.ReflTransGen.refl.tail (.connected rfl)

theorem exists_running : ∃ app, Reachable liveWorld app ∧ app.window.running = true := by
  have hlocal : Local .startDiagnostic := trivial
  exact ⟨_, opened_reachable.tail (.acts hlocal), rfl⟩

theorem started_awaits : ∃ app : Application, app.window.running = true ∧
    app.window.client.connected = true ∧ app.Awaits := by
  rcases exists_running with ⟨app, hreachable, hrunning⟩
  exact ⟨app, hrunning, running_awaits (strict_parses _ rfl) hreachable hrunning⟩

/-- All that the client wrote on its connection is answered, and the answers have arrived. -/
def Quiet (world : World) (app : Application) : Prop :=
  ∀ link ∈ app.link, ∀ conn ∈ app.backend.connections[link.connection]?,
    conn.answers.length = (link.sent app.window.client).length ∧
      link.got = streamOf world.times (responses conn)

/-- The window is never stuck in a diagnosis: when nothing is on its way, none is under way. -/
theorem not_running_of_quiet (hqt : Parses world.times world.qt) (h : Reachable world app)
    (hquiet : Quiet world app) : app.window.running = false := by
  by_contra hrunning
  rcases running_awaits hqt h (Bool.eq_true_of_not_eq_false hrunning) with
    ⟨_, link, hlink, i, request, hheard, hsent, _⟩
  rcases (reachable_inv hqt h).carries link hlink with ⟨conn, hcarries⟩
  rcases hquiet link hlink conn hcarries.accepted with ⟨hanswered, hgot⟩
  have hall : link.heard = (responses conn).length := by
    rw [Link.heard, hgot]
    exact length_cut_streamOf _ _
  have hlt := (List.getElem?_eq_some_iff.1 hsent).1
  rw [hall, responses, List.length_map] at hheard
  omega

end Application

end Ui
end FlyDpi
