import FlyDpi.Orchestrator.BackendProgress
import FlyDpi.Ui.ApplicationRuns

/-!
# ApplicationProgress — a diagnosis comes to its end

While neither the user nor a timer does anything, every schedule of the goroutines and of the socket
comes to an end, and then no diagnosis is under way: its report has arrived, or the connection is
gone.  The other connections of the backend may have any peers, also such that stop reading; of the
client's own connection it is assumed that it is read, or gets lost.
-/

namespace FlyDpi
namespace Ui

open Lib FlyDpi.Orchestrator FlyDpi.Orchestrator.GoJson

namespace Application

variable {world : World} {peers : Nat → Backend.Peer} {app app' : Application}

/-- A round of the backend, bytes arriving, or the end of a connection that the server has closed. -/
inductive Round (world : World) (peers : Nat → Backend.Peer) : Application → Application → Prop
  | backend {app : Application} {backend : Backend} :
      Backend.Round world.setup peers app.backend backend → Decodes world app backend →
      Round world peers app { app with backend := backend }
  | readyRead {app : Application} {link : Link} {conn : Backend.Connection} {chunk : Bytes} :
      app.link = some link → app.backend.connections[link.connection]? = some conn → chunk ≠ [] →
      link.got ++ chunk <+: streamOf world.times (responses conn) →
      Readable world app.window.client conn chunk →
      Round world peers app
        { app with
          window := app.window.handle world.qt (.socket (.readyRead chunk))
          link := some { link with got := link.got ++ chunk } }
  | disconnected {app : Application} {link : Link} {conn : Backend.Connection}
      {lost : Option Backend.Answer} :
      app.link = some link → app.backend.connections[link.connection]? = some conn →
      conn.handler = .closed lost →
      Round world peers app
        { app with
          window := app.window.handle world.qt (.socket .disconnected)
          link := none }

/-- Something is going to happen: a goroutine can go on, bytes are on their way, or the server has
closed the connection. -/
inductive Due (world : World) (peers : Nat → Backend.Peer) (app : Application) : Prop
  | backend : Backend.Due world.setup peers app.backend → Due world peers app
  | readyRead {link : Link} {conn : Backend.Connection} : app.link = some link →
      app.backend.connections[link.connection]? = some conn →
      link.got ≠ streamOf world.times (responses conn) → Due world peers app
  | disconnected {link : Link} {conn : Backend.Connection} {lost : Option Backend.Answer} :
      app.link = some link → app.backend.connections[link.connection]? = some conn →
      conn.handler = .closed lost → Due world peers app

/-- The client is the peer of its own connection; it reads what arrives. -/
structure Peered (world : World) (peers : Nat → Backend.Peer) (app : Application) : Prop where
  admitted : Backend.Admitted peers app.backend
  sent : ∀ link ∈ app.link,
    (peers link.connection).sent = (link.sent app.window.client).map (decoded world)
  conduct : ∀ link ∈ app.link, (peers link.connection).conduct ≠ .stalls

/-! ## Rounds are runs -/

theorem Inv.decodes (h : Inv world app) : Decodes world app app.backend := by
  intro link hlink conn hconn
  rcases h.carries link hlink with ⟨conn', hcarries⟩
  cases Option.some.inj (hconn.symm.trans hcarries.accepted)
  exact ⟨hcarries.requests, hcarries.parting⟩

section Rounds

variable (hqt : Parses world.times world.qt)

include hqt

theorem reachable_coreSteps (h : Reachable world app) {mid : Backend}
    (hcore : Relation.ReflTransGen Backend.CoreStep app.backend mid) :
    Reachable world { app with backend := mid } := by
  induction hcore with
  | refl =>
      exact h
  | tail _ hnext ih =>
      cases hnext with
      | mk haction hstep =>
          refine ih.tail (.backend (.core haction hstep) ?_)
          exact (reachable_inv hqt ih).decodes

theorem Round.reachable (h : Round world peers app app') (happ : Reachable world app) :
    Reachable world app' := by
  cases h with
  | backend hround hdecodes =>
      cases hround with
      | mk hcore hconn hserves _ =>
          exact (reachable_coreSteps hqt happ hcore).tail (.backend (.serve hconn hserves) hdecodes)
  | readyRead hlink hconn _ hchunk hreadable =>
      exact happ.tail (.readyRead hlink hconn hchunk hreadable)
  | disconnected hlink _ _ =>
      exact happ.tail (.disconnected (by rw [hlink]; rfl))

/-- What arrives makes the client write nothing. -/
theorem Round.peered (h : Round world peers app app') (happ : Reachable world app)
    (hpeers : Peered world peers app) : Peered world peers app' := by
  cases h with
  | backend hround _ =>
      exact
        { admitted := hround.admitted (reachable_inv hqt happ).backend hpeers.admitted
          sent := hpeers.sent
          conduct := hpeers.conduct }
  | @readyRead link conn chunk hlink _ _ _ _ =>
      have hclient := MainWindow.client_handle_socket world.qt app.window (.readyRead chunk)
      have hwritten := (RpcClient.reads_onReadyRead world.qt app.window.client chunk).written
      refine
        { admitted := hpeers.admitted
          sent := ?_
          conduct := ?_ }
      · intro link' hlink'
        cases hlink'
        rw [hclient, Link.sent, RpcClient.handle, hwritten]
        exact hpeers.sent link hlink
      · intro link' hlink'
        cases hlink'
        exact hpeers.conduct link hlink
  | disconnected _ _ _ =>
      refine
        { admitted := hpeers.admitted
          sent := ?_
          conduct := ?_ }
      · intro link hlink
        cases hlink
      · intro link hlink
        cases hlink

end Rounds

/-! ## What is left to do -/

/-- The bytes that are on their way to the client. -/
def undelivered (world : World) (app : Application) : Nat :=
  match app.link with
  | none => 0
  | some link =>
      match app.backend.connections[link.connection]? with
      | none => 0
      | some conn => (streamOf world.times (responses conn)).length - link.got.length

/-- The work of the backend, and whether there is a connection that may end. -/
def backlog (peers : Nat → Backend.Peer) (app : Application) : Nat :=
  Backend.remaining peers app.backend + (if app.link.isSome then 1 else 0)

/-- The backlog first, since the backend writes when it works. -/
def left (world : World) (peers : Nat → Backend.Peer) (app : Application) : Nat × Nat :=
  (app.backlog peers, app.undelivered world)

theorem Round.left_lt (h : Round world peers app app')
    (hbackend : Backend.Reachable world.setup app.backend) :
    Prod.Lex (· < ·) (· < ·) (left world peers app') (left world peers app) := by
  cases h with
  | backend hround _ =>
      -- it may have written, which makes more bytes to deliver
      have hless := hround.remaining_lt hbackend
      refine Prod.Lex.left _ _ ?_
      exact Nat.add_lt_add_right hless _
  | @readyRead link conn chunk hlink hconn hne hchunk _ =>
      have hbacklog : ({ app with
          window := app.window.handle world.qt (.socket (.readyRead chunk))
          link := some { link with got := link.got ++ chunk } } : Application).backlog peers =
            app.backlog peers := by
        rw [backlog, backlog, hlink]
        rfl
      rw [left, left, hbacklog]
      refine Prod.Lex.right _ ?_
      -- the chunk is not empty and part of what was on its way
      have hle := hchunk.length_le
      have hpos := List.length_pos_iff.2 hne
      rw [List.length_append] at hle
      simp only [undelivered, hlink, hconn, List.length_append]
      omega
  | @disconnected link conn lost hlink _ _ =>
      refine Prod.Lex.left _ _ ?_
      rw [backlog, backlog, hlink]
      exact Nat.lt_succ_self _

/-! ## The end -/

/-- Where nothing is due, nothing is on its way. -/
theorem not_running_of_not_due (hqt : Parses world.times world.qt) (happ : Reachable world app)
    (hpeers : Peered world peers app) (hnot : ¬ Due world peers app) :
    app.window.running = false := by
  have hbackend := (reachable_inv hqt happ).backend
  have hquiet : ¬ Backend.Due world.setup peers app.backend := fun hdue => hnot (.backend hdue)
  refine not_running_of_quiet hqt happ ?_
  intro link hlink conn hconn
  have hconn : app.backend.connections[link.connection]? = some conn := hconn
  have hadmits := hpeers.admitted link.connection conn hconn
  have hserved := ((Backend.reachable_inv hbackend).connections _ conn hconn).served hadmits
    (Backend.not_obliges hbackend hpeers.admitted hquiet hconn)
  cases hserved with
  | all _ hanswers =>
      -- every request of the client has its answer, and all of them have arrived
      rw [hpeers.sent link hlink] at hanswers
      refine ⟨?_, ?_⟩
      · have hlength := congrArg List.length hanswers
        rwa [List.length_map, List.length_map] at hlength
      · by_contra hmore
        exact hnot (.readyRead hlink hconn hmore)
  | left lost _ hclosed _ =>
      -- the client would be told
      exact absurd (.disconnected hlink hconn hclosed) hnot
  | stalled _ hstalls _ _ =>
      exact absurd hstalls (hpeers.conduct link hlink)

/-- From every reachable state of the whole application, however the goroutines and the socket are
scheduled: while no more requests come from the user and the timers, everything comes to rest, and
then no diagnosis is under way. -/
theorem diagnosis_ends (hqt : Parses world.times world.qt) {r : Nat → Application}
    (hstart : Reachable world (r 0)) (hpeers : Peered world peers (r 0))
    (hr : Runs.Driven (Round world peers) (Due world peers) r) :
    ∃ i, (∀ j, i ≤ j → r j = r i) ∧ (r i).window.running = false := by
  have hinv : ∀ i, Reachable world (r i) ∧ Peered world peers (r i) := by
    refine hr.invariant (I := fun app => Reachable world app ∧ Peered world peers app) ?_
      ⟨hstart, hpeers⟩
    intro app app' happ hround
    exact ⟨hround.reachable hqt happ.1, hround.peered hqt happ.1 happ.2⟩
  have hwf : WellFounded (Prod.Lex (fun a b : Nat => a < b) fun a b : Nat => a < b) :=
    (Prod.lex ⟨_, Nat.lt_wfRel.wf⟩ ⟨_, Nat.lt_wfRel.wf⟩).wf
  have hless : ∀ i, Round world peers (r i) (r (i + 1)) →
      Prod.Lex (· < ·) (· < ·) (left world peers (r (i + 1))) (left world peers (r i)) :=
    fun i hround => hround.left_lt (reachable_inv hqt (hinv i).1).backend
  rcases hr.settles hwf hless with ⟨i, hnot, hrest⟩
  exact ⟨i, hrest, not_running_of_not_due hqt (hinv i).1 (hinv i).2 hnot⟩

/-! ## One diagnosis -/

/-- A world in which the socket takes the request of the diagnosis only. -/
def quietWorld : World :=
  { liveWorld with
    qt := { strictQt with accepts := fun id => id == 5 } }

def diagnosisRequest : Rpc.Request :=
  decoded quietWorld { id := 5, method := "diagnostic.run", params := [] }

/-- The network is down, and the runtime has nothing to tell. -/
def diagnosisAnswer : Backend.Answer :=
  Backend.answered diagnosisRequest
    (.ok (.report (Backend.reported .enabled (some [])
      (Backend.liveSetup.engine.run Backend.unplugged)))) (some [])

/-- The user has started a diagnosis. -/
def askedWindow : MainWindow :=
  (MainWindow.start.handle quietWorld.qt (.socket .connected)).handle quietWorld.qt .startDiagnostic

def asked (shared : Backend.Shared) (handler : Backend.Handler) (answers : List Backend.Answer) :
    Application :=
  { backend :=
      { shared := shared
        connections :=
          [{ requests := [diagnosisRequest]
             handler := handler
             answers := answers
             parting := none }] }
    window := askedWindow
    link := some { connection := 0, first := 0, got := [] } }

theorem asked_decodes {backend : Backend} (shared : Backend.Shared) (handler : Backend.Handler)
    (answers : List Backend.Answer) :
    Decodes quietWorld { asked shared handler answers with backend := backend }
      (asked shared handler answers).backend := by
  intro link hlink conn hconn
  cases hlink
  cases hconn
  exact ⟨⟨_, rfl⟩, rfl⟩

/-- A step of the goroutine. -/
theorem asked_tail {shared shared' : Backend.Shared} {handler handler' : Backend.Handler}
    {answers answers' : List Backend.Answer}
    (h : Reachable quietWorld (asked shared handler answers))
    (hstep : Backend.Step quietWorld.setup (asked shared handler answers).backend
      (asked shared' handler' answers').backend) :
    Reachable quietWorld (asked shared' handler' answers') :=
  h.tail (.backend hstep (asked_decodes shared' handler' answers'))

/-- `Handle` has returned the report. -/
theorem exists_reported : ∃ shared,
    Reachable quietWorld (asked shared (.answering diagnosisAnswer) []) := by
  have hlocal : Local .startDiagnostic := trivial
  have hcalls : diagnosisRequest.calls .diagnosticRun := ⟨rfl, by decide +kernel⟩
  have hlimit : Server.batchLimit Server.diagnosticLimit = 128 := Server.batchLimit_diagnosticLimit
  -- the connection stands, and the client has written its request
  have hasked : Reachable quietWorld
      { asked Backend.start.shared .decoding [] with
        backend :=
          { Backend.start with
            connections := [Backend.Connection.new] } } :=
    (Relation.ReflTransGen.refl.tail (.connected rfl)).tail (.acts hlocal)
  have hdecoded : Reachable quietWorld
      (asked Backend.start.shared (.dispatching diagnosisRequest) []) :=
    hasked.tail (.backend (.serve (c := 0) rfl (.decode diagnosisRequest rfl))
      (asked_decodes Backend.start.shared (.dispatching diagnosisRequest) []))
  exact ⟨_, asked_tail (asked_tail (asked_tail (asked_tail (asked_tail hdecoded
    (.serve (c := 0) rfl (.diagnose rfl hcalls)))
    (.serve (c := 0) rfl (.engineDone Backend.unplugged rfl)))
    (.serve (c := 0) rfl (.readStart rfl rfl rfl)))
    (.serve (c := 0) rfl (.readEnd rfl rfl (.empty (by rw [hlimit]; decide) rfl))))
    (.serve (c := 0) rfl (.record rfl))⟩

theorem diagnosisAnswer_portable : Portable liveTimes diagnosisAnswer.response :=
  ⟨by decide +kernel, by decide +kernel⟩

/-- The report has arrived. -/
def reported (shared : Backend.Shared) : Application :=
  { asked shared .decoding [diagnosisAnswer] with
    window :=
      askedWindow.handle quietWorld.qt
        (.socket (.readyRead (encode liveTimes diagnosisAnswer.response)))
    link := some { connection := 0, first := 0, got := encode liveTimes diagnosisAnswer.response } }

/-- The goroutine writes the report, it arrives at once, and nothing else happens. -/
def ending (shared : Backend.Shared) : Nat → Application
  | 0 => asked shared (.answering diagnosisAnswer) []
  | 1 => asked shared .decoding [diagnosisAnswer]
  | _ => reported shared

/-- Nobody else is connected. -/
def onlyClient : Nat → Backend.Peer :=
  fun _ => { sent := [diagnosisRequest], conduct := .stays }

theorem ending_driven (shared : Backend.Shared) :
    Runs.Driven (Round quietWorld onlyClient) (Due quietWorld onlyClient) (ending shared) := by
  intro i
  match i with
  | 0 =>
      refine Or.inl (.backend (.mk (c := 0) Relation.ReflTransGen.refl rfl (.encode rfl) ?_)
        (asked_decodes shared .decoding [diagnosisAnswer]))
      exact
        { requests := List.prefix_refl _
          closed := fun hclosed => hclosed.elim }
  | 1 =>
      have hwhole : [] ++ encode liveTimes diagnosisAnswer.response <+:
          streamOf liveTimes [diagnosisAnswer.response] := by
        rw [streamOf, List.flatMap_singleton, List.nil_append]
      have hne : encode liveTimes diagnosisAnswer.response ≠ [] := by
        rw [encode]
        simp
      have hreadable : Readable quietWorld askedWindow.client
          { requests := [diagnosisRequest]
            handler := .decoding
            answers := [diagnosisAnswer]
            parting := none } (encode liveTimes diagnosisAnswer.response) :=
        { portable := List.forall_mem_singleton.2 diagnosisAnswer_portable
          fit := RpcClient.linesFit_of_length_lt (by decide +kernel) }
      have hround : Round quietWorld onlyClient (asked shared .decoding [diagnosisAnswer])
          (reported shared) :=
        @Round.readyRead _ _ _ { connection := 0, first := 0, got := [] } _ _ rfl rfl hne hwhole
          hreadable
      exact Or.inl hround
  | i + 2 =>
      -- the goroutine waits for a request, and all that was written has arrived
      refine Or.inr ⟨fun hdue => ?_, rfl⟩
      cases hdue with
      | backend hbackend =>
          cases hbackend with
          | @mk c conn _ _ hconn hobliges _ _ =>
              cases c with
              | zero =>
                  cases hconn
                  exact hobliges rfl
              | succ c =>
                  cases hconn
      | readyRead hlink hconn hmore =>
          cases hlink
          cases hconn
          refine hmore ?_
          change _ = streamOf liveTimes [diagnosisAnswer.response]
          rw [streamOf, List.flatMap_singleton]
      | disconnected hlink hconn hclosed =>
          cases hlink
          cases hconn
          cases hclosed

theorem started_ends : ∃ r : Nat → Application, (r 0).window.running = true ∧
    ∃ i, (∀ j, i ≤ j → r j = r i) ∧ (r i).window.running = false := by
  rcases exists_reported with ⟨shared, hreachable⟩
  have hpeers : Peered quietWorld onlyClient (ending shared 0) := by
    refine
      { admitted := ?_
        sent := ?_
        conduct := ?_ }
    · intro c conn hconn
      cases c with
      | zero =>
          cases hconn
          exact
            { requests := List.prefix_refl _
              closed := fun hclosed => hclosed.elim }
      | succ c =>
          cases hconn
    · intro link hlink
      cases hlink
      rfl
    · intro link hlink hstalls
      cases hstalls
  exact ⟨ending shared, rfl,
    diagnosis_ends (strict_parses _ rfl) hreachable hpeers (ending_driven shared)⟩

end Application

end Ui
end FlyDpi
