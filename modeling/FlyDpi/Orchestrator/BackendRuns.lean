import FlyDpi.Core.Provenance
import FlyDpi.Lib.Pool
import FlyDpi.Orchestrator.Backend

/-!
# BackendRuns — every event is in one answer

In every interleaving of any number of connections with the pipeline, what the ring hands out is
divided into batches, and each batch goes into the answer of the one request that read it.  The
backend is a consumer of the pipeline, so what holds of all records that reach a consumer holds of
all answers.
-/

namespace FlyDpi
namespace Orchestrator
namespace Backend

open Lib FlyDpi.Core Diagnostic Server Rpc

variable {setup : Setup} {b : Backend} {c : Nat} {s s' : Shared} {conn conn' : Connection}

/-! ## The pipeline under the connections -/

theorem step_polled {event : Option FlyDpiRuntimeEvent} {ring : Mutex EventRing}
    (h : poll s.core.shared.events = (event, ring)) :
    Core.World.Step s.core .poll (s.polled event ring) := by
  simp only [poll, flydpiRuntimePoll] at h
  cases hhead : (lockAndDrain s.core.shared.events 1).1.head? with
  | some e =>
      simp only [hhead, Prod.mk.injEq] at h
      rcases h with ⟨rfl, rfl⟩
      have hpoll : flydpiRuntimePoll (some s.core.shared.events) true =
          ((1, some (.ofEvent e)), some (lockAndDrain s.core.shared.events 1).2) := by
        simp [flydpiRuntimePoll, hhead]
      exact .poll hpoll
  | none =>
      simp only [hhead, Prod.mk.injEq] at h
      rcases h with ⟨rfl, rfl⟩
      have hpoll : flydpiRuntimePoll (some s.core.shared.events) true =
          ((0, none), some (lockAndDrain s.core.shared.events 1).2) := by
        simp [flydpiRuntimePoll, hhead]
      exact .poll hpoll

theorem Ends.next {limit : Nat} {out : List FlyDpiRuntimeEvent} {core : Core.World}
    (h : Ends s limit out core) : core = s.core ∨ Core.World.Step s.core .poll core := by
  cases h with
  | full _ =>
      exact Or.inl rfl
  | empty _ hpoll =>
      exact Or.inr (step_polled hpoll)

/-- To the pipeline, a step of a connection is nothing or a poll. -/
theorem Serves.core (h : Serves setup c s conn s' conn') :
    s'.core = s.core ∨ Core.World.Step s.core .poll s'.core := by
  cases h with
  | next _ _ _ hpoll =>
      exact Or.inr (step_polled hpoll)
  | pollEnd _ _ hends =>
      exact hends.next
  | readEnd _ _ hends =>
      exact hends.next
  | _ =>
      exact Or.inl rfl

/-- The backend is a consumer of the pipeline. -/
theorem core_interleaved (h : Reachable setup b) : Core.World.Interleaved b.shared.core := by
  have hstart : Core.World.Interleaved start.shared.core := Relation.ReflTransGen.refl
  refine Runs.invariant (I := fun b : Backend => Core.World.Interleaved b.shared.core) ?_ hstart h
  intro b b' hb hstep
  cases hstep with
  | core _ hcore =>
      exact hb.tail ⟨_, hcore⟩
  | accept =>
      exact hb
  | serve _ hserves =>
      rcases hserves.core with heq | hcore
      · rw [← heq] at hb
        exact hb
      · exact hb.tail ⟨_, hcore⟩

/-! ## What an answer is -/

/-- How an answer follows from its request and the batch that was read for it. -/
inductive Explained (setup : Setup) : Answer → Prop
  | replies {request : Request} {outcome : Except RPCError Result} :
      Replies setup.go request outcome → Explained setup (answered request outcome none)
  | status {request : Request} (seq : UInt64) : request.calls .statusGet →
      Explained setup (answered request (.ok (statusResult setup seq)) none)
  | nothingPolled {request : Request} : request.calls .telemetryPoll → setup.runtime ≠ .enabled →
      Explained setup (answered request (.ok (nothingPolled setup.runtime)) none)
  | polled {request : Request} {out : List FlyDpiRuntimeEvent} : request.calls .telemetryPoll →
      out.length ≤ batchLimit (request.limit setup.go) →
      Explained setup (answered request (.ok (.events (some (out.map convert)))) (some out))
  | report {request : Request} (env : Environment) {batch : Option (List FlyDpiRuntimeEvent)} :
      request.calls .diagnosticRun → (batch.isSome ↔ setup.runtime = .enabled) →
      (∀ out ∈ batch, out.length ≤ batchLimit diagnosticLimit) →
      Explained setup
        (answered request (.ok (.report (reported setup.runtime batch (setup.engine.run env))))
          batch)

/-- What the goroutine knows where it is. -/
def Handler.Sound (setup : Setup) : Handler → Prop
  | .polling request limit =>
      request.calls .telemetryPoll ∧ limit = batchLimit (request.limit setup.go)
  | .diagnosing request => request.calls .diagnosticRun
  | .waiting request report =>
      request.calls .diagnosticRun ∧ ∃ env, report = setup.engine.run env
  | .reading request report =>
      (request.calls .diagnosticRun ∧ ∃ env, report = setup.engine.run env) ∧
        setup.runtime = .enabled
  | .recording request report batch =>
      (request.calls .diagnosticRun ∧ ∃ env, report = setup.engine.run env) ∧
        (batch.isSome ↔ setup.runtime = .enabled) ∧
        ∀ out ∈ batch, out.length ≤ batchLimit diagnosticLimit
  | .answering answer => Explained setup answer
  | .closed lost => ∀ a ∈ lost, Explained setup a
  | _ => True

/-- The request that the goroutine is at. -/
def Handler.request : Handler → Option Request
  | .decoding => none
  | .dispatching request => some request
  | .polling request _ => some request
  | .diagnosing request => some request
  | .waiting request _ => some request
  | .reading request _ => some request
  | .recording request _ _ => some request
  | .answering answer => some answer.request
  | .closed lost => lost.map Answer.request

/-- The batch that it has read for it. -/
def Handler.batch : Handler → Option (List FlyDpiRuntimeEvent)
  | .recording _ _ batch => batch
  | .answering answer => answer.batch
  | .closed lost => lost.bind Answer.batch
  | _ => none

/-- What holds of connection `c` in every reachable state. -/
structure Connection.Faithful (setup : Setup) (s : Shared) (c : Nat) (conn : Connection) : Prop where
  requests : conn.requests = conn.answers.map Answer.request ++ conn.handler.request.toList
  batches : s.batches.owned c = conn.answers.filterMap Answer.batch ++ conn.handler.batch.toList
  answers : ∀ a ∈ conn.answers, Explained setup a
  sound : conn.handler.Sound setup
  /-- Whoever reads a batch has the mutex. -/
  holds : ∀ limit, conn.handler.limit = some limit →
    ∃ out, s.batches.current = some (c, out) ∧ out.length ≤ limit

/-! ## A step of one connection -/

/-- Nothing changes under the mutex of another connection. -/
structure Spares (c' : Nat) (s s' : Shared) : Prop where
  owned : s'.batches.owned c' = s.batches.owned c'
  current : ∀ out, s'.batches.current = some (c', out) ↔ s.batches.current = some (c', out)

theorem spares_of_batches {c' : Nat} (h : s'.batches = s.batches) : Spares c' s s' where
  owned := by
    rw [h]
  current := by
    intro out
    rw [h]

theorem spares_opened {c' : Nat} (hne : c ≠ c') (hfree : s.batches.current = none) :
    Spares c' s { s with batches := s.batches.opened c } where
  owned := rfl
  current := by
    intro out
    simp [Batches.opened, hfree, hne]

theorem spares_took {c' : Nat} (hne : c ≠ c') {out : List FlyDpiRuntimeEvent}
    (hcurrent : s.batches.current = some (c, out)) (event : FlyDpiRuntimeEvent)
    (core : Core.World) :
    Spares c' s { s with core := core, batches := s.batches.took event } where
  owned := rfl
  current := by
    intro out
    simp [Batches.took, hcurrent, hne]

theorem spares_closed {c' : Nat} (hne : c ≠ c') {out : List FlyDpiRuntimeEvent}
    (hcurrent : s.batches.current = some (c, out)) (core : Core.World) :
    Spares c' s { s with core := core, batches := s.batches.closed } where
  owned := Batches.owned_closed_of_ne hcurrent hne
  current := by
    intro out
    simp [Batches.closed, hcurrent, hne]

theorem Serves.spares (h : Serves setup c s conn s' conn') {c' : Nat} (hne : c ≠ c') :
    Spares c' s s' := by
  cases h with
  | pollStart _ _ _ hfree =>
      exact spares_opened hne hfree
  | readStart _ _ hfree =>
      exact spares_opened hne hfree
  | next _ hcurrent _ _ =>
      exact spares_took hne hcurrent _ _
  | pollEnd _ hcurrent _ =>
      exact spares_closed hne hcurrent _
  | readEnd _ hcurrent _ =>
      exact spares_closed hne hcurrent _
  | _ =>
      exact spares_of_batches rfl

theorem Connection.Faithful.spared (h : conn.Faithful setup s c) (hspares : Spares c s s') :
    conn.Faithful setup s' c :=
  { h with
    batches := hspares.owned.trans h.batches
    holds := by
      intro limit hlimit
      rcases h.holds limit hlimit with ⟨out, hcurrent, hle⟩
      exact ⟨out, (hspares.current out).2 hcurrent, hle⟩ }

theorem holds_of_limit {handler : Handler} (h : handler.limit = none) (limit : Nat)
    (hlimit : handler.limit = some limit) :
    ∃ out, s.batches.current = some (c, out) ∧ out.length ≤ limit := by
  rw [h] at hlimit
  cases hlimit

theorem sound_closed_none : (Handler.closed none).Sound setup := by
  intro a ha
  cases ha

/-- The goroutine goes on with the same request and batch, and without the mutex. -/
theorem Connection.Faithful.moved (h : conn.Faithful setup s c) {handler : Handler}
    (hbatches : s'.batches = s.batches) (hrequest : handler.request = conn.handler.request)
    (hbatch : handler.batch = conn.handler.batch) (hsound : handler.Sound setup)
    (hlimit : handler.limit = none) :
    Connection.Faithful setup s' c { conn with handler := handler } where
  requests := by
    rw [hrequest]
    exact h.requests
  batches := by
    rw [hbatches, hbatch]
    exact h.batches
  answers := h.answers
  sound := hsound
  holds := holds_of_limit hlimit

/-- It takes the mutex for a batch. -/
theorem Connection.Faithful.locked (h : conn.Faithful setup s c) {handler : Handler}
    (hrequest : handler.request = conn.handler.request)
    (hbatch : handler.batch = conn.handler.batch) (hsound : handler.Sound setup) :
    Connection.Faithful setup { s with batches := s.batches.opened c } c
      { conn with handler := handler } where
  requests := by
    rw [hrequest]
    exact h.requests
  batches := by
    rw [hbatch]
    exact h.batches
  answers := h.answers
  sound := hsound
  holds := fun limit _ => ⟨[], rfl, Nat.zero_le limit⟩

/-- It gives the mutex back and keeps the batch. -/
theorem Connection.Faithful.unlocked (h : conn.Faithful setup s c) {handler : Handler}
    {out : List FlyDpiRuntimeEvent} (hcurrent : s.batches.current = some (c, out))
    (core : Core.World) (hrequest : handler.request = conn.handler.request)
    (hnone : conn.handler.batch = none) (hbatch : handler.batch = some out)
    (hsound : handler.Sound setup) (hlimit : handler.limit = none) :
    Connection.Faithful setup { s with core := core, batches := s.batches.closed } c
      { conn with handler := handler } where
  requests := by
    rw [hrequest]
    exact h.requests
  batches := by
    have hbatches := h.batches
    rw [hnone, Option.toList_none, List.append_nil] at hbatches
    rw [hbatch, Batches.owned_closed_self hcurrent, hbatches]
    rfl
  answers := h.answers
  sound := hsound
  holds := holds_of_limit hlimit

theorem filterMap_batch_singleton (a : Answer) : [a].filterMap Answer.batch = a.batch.toList := by
  cases hbatch : a.batch with
  | none =>
      simp [hbatch]
  | some out =>
      simp [hbatch]

theorem Connection.Faithful.serves (h : conn.Faithful setup s c)
    (hserves : Serves setup c s conn s' conn') : conn'.Faithful setup s' c := by
  have hrequests := h.requests
  have hbatches := h.batches
  have hsound := h.sound
  cases hserves with
  | decode request hhandler =>
      simp only [hhandler, Handler.request, Option.toList_none, List.append_nil] at hrequests
      simp only [hhandler, Handler.batch] at hbatches
      exact
        { requests := congrArg (· ++ [request]) hrequests
          batches := hbatches
          answers := h.answers
          sound := trivial
          holds := holds_of_limit rfl }
  | endOfStream hhandler =>
      exact h.moved rfl (by rw [hhandler]; rfl) (by rw [hhandler]; rfl) sound_closed_none rfl
  | invalidJson id hhandler =>
      have hmoved : Connection.Faithful setup s c { conn with handler := .closed none } :=
        h.moved rfl (by rw [hhandler]; rfl) (by rw [hhandler]; rfl) sound_closed_none rfl
      exact { hmoved with }
  | reply hhandler hreplies =>
      exact h.moved rfl (by rw [hhandler]; rfl) (by rw [hhandler]; rfl) (.replies hreplies) rfl
  | status hhandler hcalls =>
      exact h.moved rfl (by rw [hhandler]; rfl) (by rw [hhandler]; rfl) (.status _ hcalls) rfl
  | pollNothing hhandler hcalls hruntime =>
      exact h.moved rfl (by rw [hhandler]; rfl) (by rw [hhandler]; rfl)
        (.nothingPolled hcalls hruntime) rfl
  | pollStart hhandler hcalls hruntime _ =>
      exact h.locked (by rw [hhandler]; rfl) (by rw [hhandler]; rfl) ⟨hcalls, rfl⟩
  | next hlimit hcurrent hmore _ =>
      exact
        { h with
          holds := by
            intro limit' hlimit'
            rw [hlimit] at hlimit'
            cases hlimit'
            refine ⟨_, congrArg (Option.map _) hcurrent, ?_⟩
            rw [List.length_append]
            exact hmore }
  | pollEnd hhandler hcurrent _ =>
      rw [hhandler] at hsound
      rcases h.holds _ (by rw [hhandler]; rfl) with ⟨out, hout, hle⟩
      rw [hcurrent] at hout
      cases hout
      rw [hsound.2] at hle
      exact h.unlocked hcurrent _ (by rw [hhandler]; rfl) (by rw [hhandler]; rfl) rfl
        (.polled hsound.1 hle) rfl
  | diagnose hhandler hcalls =>
      exact h.moved rfl (by rw [hhandler]; rfl) (by rw [hhandler]; rfl) hcalls rfl
  | engineDone env hhandler =>
      rw [hhandler] at hsound
      exact h.moved rfl (by rw [hhandler]; rfl) (by rw [hhandler]; rfl) ⟨hsound, env, rfl⟩ rfl
  | readNothing hhandler hruntime =>
      rw [hhandler] at hsound
      refine h.moved rfl (by rw [hhandler]; rfl) (by rw [hhandler]; rfl) ⟨hsound, ?_, ?_⟩ rfl
      · exact iff_of_false Bool.false_ne_true hruntime
      · intro out hout
        cases hout
  | readStart hhandler hruntime _ =>
      rw [hhandler] at hsound
      exact h.locked (by rw [hhandler]; rfl) (by rw [hhandler]; rfl) ⟨hsound, hruntime⟩
  | readEnd hhandler hcurrent _ =>
      rw [hhandler] at hsound
      rcases h.holds _ (by rw [hhandler]; rfl) with ⟨out, hout, hle⟩
      rw [hcurrent] at hout
      cases hout
      refine h.unlocked hcurrent _ (by rw [hhandler]; rfl) (by rw [hhandler]; rfl) rfl
        ⟨hsound.1, iff_of_true rfl hsound.2, ?_⟩ rfl
      intro out' hout'
      cases hout'
      exact hle
  | record hhandler =>
      rw [hhandler] at hsound
      rcases hsound with ⟨⟨hcalls, env, rfl⟩, hbatch, hle⟩
      exact h.moved rfl (by rw [hhandler]; rfl) (by rw [hhandler]; rfl)
        (.report env hcalls hbatch hle) rfl
  | encode hhandler =>
      rw [hhandler] at hsound
      simp only [hhandler, Handler.request] at hrequests
      simp only [hhandler, Handler.batch] at hbatches
      exact
        { requests := by
            simpa [Handler.request] using hrequests
          batches := by
            rw [hbatches, List.filterMap_append, filterMap_batch_singleton]
            exact (List.append_nil _).symm
          answers := by
            intro a ha
            rcases List.mem_append.1 ha with hold | hnew
            · exact h.answers a hold
            · rw [List.mem_singleton.1 hnew]
              exact hsound
          sound := trivial
          holds := holds_of_limit rfl }
  | encodeError hhandler =>
      rw [hhandler] at hsound
      refine h.moved rfl (by rw [hhandler]; rfl) (by rw [hhandler]; rfl) ?_ rfl
      intro a ha
      cases ha
      exact hsound

/-! ## Every interleaving -/

/-- What the native runtime has handed out is what the connections have taken. -/
structure Inv (setup : Setup) (b : Backend) : Prop where
  taken : b.shared.core.delivered = b.shared.batches.taken
  connections : ∀ (c : Nat) (conn : Connection), b.connections[c]? = some conn →
    conn.Faithful setup b.shared c
  /-- Numbers that no connection has yet are not in the log. -/
  fresh : ∀ c : Nat, b.connections.length ≤ c → b.shared.batches.owned c = []

theorem start_inv : Inv setup start where
  taken := rfl
  connections := by
    intro c conn hconn
    simp [start] at hconn
  fresh := fun _ _ => rfl

theorem new_faithful (h : s.batches.owned c = []) : Connection.new.Faithful setup s c where
  requests := rfl
  batches := h
  answers := by
    intro a ha
    cases ha
  sound := trivial
  holds := holds_of_limit rfl

/-- What internal steps leave alone. -/
theorem delivered_of_internal {w w' : Core.World} {action : Core.Action} (haction : Internal action)
    (h : Core.World.Step w action w') : w'.delivered = w.delivered := by
  cases h with
  | poll _ =>
      cases haction
  | drain _ =>
      cases haction
  | _ =>
      rfl

theorem Ends.delivered {limit : Nat} {out : List FlyDpiRuntimeEvent} {core : Core.World}
    (h : Ends s limit out core) : core.delivered = s.core.delivered := by
  cases h with
  | full _ =>
      rfl
  | empty _ _ =>
      exact List.append_nil _

/-- A step of a connection takes out of the ring what it adds to the open batch. -/
theorem Serves.taken (h : Serves setup c s conn s' conn')
    (htaken : s.core.delivered = s.batches.taken) : s'.core.delivered = s'.batches.taken := by
  cases h with
  | pollStart _ _ _ hfree =>
      exact htaken.trans (Batches.taken_opened hfree c).symm
  | readStart _ _ hfree =>
      exact htaken.trans (Batches.taken_opened hfree c).symm
  | next _ hcurrent _ _ =>
      change s.core.delivered ++ _ = _
      rw [htaken, Batches.taken_took hcurrent]
      rfl
  | pollEnd _ _ hends =>
      exact hends.delivered.trans (htaken.trans (Batches.taken_closed _).symm)
  | readEnd _ _ hends =>
      exact hends.delivered.trans (htaken.trans (Batches.taken_closed _).symm)
  | _ =>
      exact htaken

theorem Inv.step {b b' : Backend} (h : Inv setup b) (hstep : Step setup b b') : Inv setup b' := by
  cases hstep with
  | core haction hcore =>
      exact
        { taken := (delivered_of_internal haction hcore).trans h.taken
          connections := fun c conn hconn => (h.connections c conn hconn).spared (spares_of_batches rfl)
          fresh := h.fresh }
  | accept =>
      refine
        { taken := h.taken
          connections := ?_
          fresh := ?_ }
      · intro c conn hconn
        rcases Pool.get_concat hconn with hold | ⟨rfl, rfl⟩
        · exact h.connections c conn hold
        · exact new_faithful (h.fresh _ (Nat.le_refl _))
      · intro c hc
        refine h.fresh c ?_
        rw [List.length_append] at hc
        omega
  | @serve c conn conn' shared hconn hserves =>
      refine
        { taken := hserves.taken h.taken
          connections := ?_
          fresh := ?_ }
      · intro c' conn'' hconn''
        rcases Pool.get_set hconn'' with ⟨rfl, rfl⟩ | ⟨hne, hother⟩
        · exact (h.connections _ conn hconn).serves hserves
        · exact (h.connections c' conn'' hother).spared (hserves.spares hne)
      · intro c' hc'
        rw [List.length_set] at hc'
        have hne : c ≠ c' := Nat.ne_of_lt ((Pool.lt_of_get hconn).trans_le hc')
        rw [(hserves.spares hne).owned]
        exact h.fresh c' hc'

theorem reachable_inv (h : Reachable setup b) : Inv setup b :=
  Runs.invariant (fun _ _ hinv hstep => hinv.step hstep) start_inv h

/-- In every reachable state the batches are, one after the other, what the native runtime has handed
out.  Those of a connection are in its answers in the same order, the last one perhaps not yet, and
there is no batch without a connection.  Every answer belongs to the request in its place. -/
theorem answers_exact (h : Reachable setup b) :
    b.shared.core.delivered = b.shared.batches.taken ∧
    (∀ c : Nat, b.connections.length ≤ c → b.shared.batches.owned c = []) ∧
    ∀ (c : Nat) (conn : Connection), b.connections[c]? = some conn →
      b.shared.batches.owned c =
        conn.answers.filterMap Answer.batch ++ conn.handler.batch.toList ∧
      conn.requests = conn.answers.map Answer.request ++ conn.handler.request.toList ∧
      ∀ a ∈ conn.answers, Explained setup a := by
  have hinv := reachable_inv h
  refine ⟨hinv.taken, hinv.fresh, fun c conn hconn => ?_⟩
  have hfaithful := hinv.connections c conn hconn
  exact ⟨hfaithful.batches, hfaithful.requests, hfaithful.answers⟩

/-- `{"limit":1}` is the only parameter that is decoded in the runs below. -/
def plainGo : Go :=
  { limit := fun params => if params = lit "\x7b\"limit\":1\x7d" then 1 else 0
    profile := fun _ => none
    quote := id }

def liveSetup : Setup :=
  { engine := newEngine { targets := [], port := [], timeout := 0, concurrency := 0 }
    go := plainGo
    runtime := .enabled
    runtimeError := "" }

def pollOne : Request :=
  { jsonrpc := lit "2.0"
    id := 4
    method := lit "telemetry.poll"
    params := lit "\x7b\"limit\":1\x7d" }

theorem pollOne_calls : pollOne.calls .telemetryPoll :=
  ⟨rfl, by decide +kernel⟩

/-- The pipeline under a backend without connections. -/
def idle (core : Core.World) : Backend :=
  { start with shared := { start.shared with core := core } }

theorem reachable_idle {core : Core.World} (h : Relation.ReflTransGen
    (fun w w' => ∃ action, Internal action ∧ Core.World.Step w action w') Core.World.start core) :
    Reachable setup (idle core) := by
  induction h with
  | refl =>
      exact Relation.ReflTransGen.refl
  | tail _ hnext ih =>
      rcases hnext with ⟨action, haction, hstep⟩
      exact ih.tail (.core haction hstep)

/-- Two records have come through to the ring. -/
theorem exists_pushed : ∃ core event event' ring ring', Reachable liveSetup (idle core) ∧
    poll core.shared.events = (some event, ring) ∧ poll ring = (some event', ring') ∧
    core.delivered = [] := by
  refine ⟨_, _, _, _, _, reachable_idle ((((((((((Relation.ReflTransGen.single
    ⟨.callback Core.World.acceptedRecord, trivial, .callback _ nofun⟩).tail
    ⟨.callback Core.World.acceptedRecord, trivial, .callback _ nofun⟩).tail
    ⟨.worker 0, trivial, .worker rfl⟩).tail ⟨.worker 0, trivial, .worker rfl⟩).tail
    ⟨.worker 0, trivial, .worker rfl⟩).tail ⟨.worker 0, trivial, .worker rfl⟩).tail
    ⟨.worker 0, trivial, .worker rfl⟩).tail ⟨.worker 0, trivial, .worker rfl⟩).tail
    ⟨.worker 0, trivial, .worker rfl⟩).tail ⟨.worker 0, trivial, .worker rfl⟩), rfl, rfl, rfl⟩

/-- A connection that has had one event. -/
def polledBy (event : FlyDpiRuntimeEvent) : Connection :=
  { requests := [pollOne]
    handler := .decoding
    answers := [answered pollOne (.ok (.events (some [convert event]))) (some [event])]
    parting := none }

/-- Of two connections with a request, the second one reads first and answers last. -/
theorem exists_polled : ∃ b event event', Reachable liveSetup b ∧
    b.connections = [polledBy event', polledBy event] ∧
    b.shared.core.delivered = [event, event'] := by
  rcases exists_pushed with ⟨core, event, event', ring, ring', hpushed, hpoll, hpoll', hnone⟩
  have hlimit : batchLimit (pollOne.limit liveSetup.go) = 1 := by
    decide +kernel
  have hfirst := (((((((hpushed.tail .accept).tail .accept).tail
    (.serve (c := 0) rfl (.decode pollOne rfl))).tail
    (.serve (c := 1) rfl (.decode pollOne rfl))).tail
    (.serve (c := 1) rfl (.pollStart rfl pollOne_calls rfl rfl))).tail
    (.serve (c := 1) rfl (.next rfl rfl (by rw [hlimit]; decide) hpoll))).tail
    (.serve (c := 1) rfl (.pollEnd rfl rfl (.full (by rw [hlimit]; rfl)))))
  refine ⟨_, event, event', (((((hfirst.tail
    (.serve (c := 0) rfl (.pollStart rfl pollOne_calls rfl rfl))).tail
    (.serve (c := 0) rfl (.next rfl rfl (by rw [hlimit]; decide) hpoll'))).tail
    (.serve (c := 0) rfl (.pollEnd rfl rfl (.full (by rw [hlimit]; rfl))))).tail
    (.serve (c := 0) rfl (.encode rfl))).tail
    (.serve (c := 1) rfl (.encode rfl))), rfl, ?_⟩
  change core.delivered ++ [event] ++ [event'] = _
  rw [hnone]
  rfl

/-- Each of the two events is in the answer of the connection that read it. -/
theorem polled_exact : ∃ b : Backend, ∃ event event' : FlyDpiRuntimeEvent,
    b.connections = [polledBy event', polledBy event] ∧
    b.shared.batches.taken = [event, event'] ∧ b.shared.batches.owned 0 = [[event']] ∧
    b.shared.batches.owned 1 = [[event]] ∧ b.shared.batches.owned 2 = [] := by
  rcases exists_polled with ⟨b, event, event', hreachable, hconns, hdelivered⟩
  rcases answers_exact hreachable with ⟨htaken, hfresh, hall⟩
  refine ⟨b, event, event', hconns, htaken.symm.trans hdelivered, ?_, ?_, ?_⟩
  · exact (hall 0 (polledBy event') (by rw [hconns]; rfl)).1
  · exact (hall 1 (polledBy event) (by rw [hconns]; rfl)).1
  · exact hfresh 2 (by rw [hconns]; exact Nat.le_refl 2)

/-! ## What the answers say -/

/-- An event that tells of a packet and of nothing else. -/
structure EventOnly (e : Event) : Prop where
  kind : e.kind = 1
  protocol : e.protocol = 6 ∨ e.protocol = 17
  processId : e.processId = 0
  latencyMs : e.latencyMs = 0
  errorCode : e.errorCode = 0

theorem eventOnly_convert {record : FlyDpiRuntimeEvent} (h : Core.World.ObservationOnly record) :
    EventOnly (convert record) :=
  { kind := h.kind
    protocol := h.protocol
    processId := h.processId
    latencyMs := h.latencyMs
    errorCode := h.errorCode }

/-- What is in a batch has been handed out by the pipeline. -/
theorem mem_delivered_of_batch (h : Reachable setup b) (hconn : b.connections[c]? = some conn)
    {a : Answer} (ha : a ∈ conn.answers) {out : List FlyDpiRuntimeEvent}
    (hout : a.batch = some out) {record : FlyDpiRuntimeEvent} (hrecord : record ∈ out) :
    record ∈ b.shared.core.delivered := by
  have hinv := reachable_inv h
  have howned : out ∈ b.shared.batches.owned c := by
    rw [(hinv.connections c conn hconn).batches]
    exact List.mem_append_left _ (List.mem_filterMap.2 ⟨a, ha, hout⟩)
  rw [hinv.taken]
  exact Batches.mem_taken_of_mem_owned howned hrecord

theorem foldl_countEvent {events : List Event} (h : ∀ e ∈ events, EventOnly e)
    (summary : WFPEventSummary) :
    events.foldl countEvent summary =
      { summary with observed := summary.observed + UInt64.ofNat events.length } := by
  induction events generalizing summary with
  | nil =>
      simp
  | cons e events ih =>
      rcases List.forall_mem_cons.1 h with ⟨he, hrest⟩
      have hcount : countEvent summary e = { summary with observed := summary.observed + 1 } := by
        simp [countEvent, he.kind]
      rw [List.foldl_cons, hcount, ih hrest, List.length_cons]
      simp only [WFPEventSummary.mk.injEq, and_true]
      rw [UInt64.add_assoc, UInt64.ofNat_add, UInt64.add_comm (UInt64.ofNat events.length)]
      rfl

/-- The stage of the telemetry in a report depends on the runtime alone. -/
def wfpStatus (runtime : RuntimeState) : StageStatus :=
  if runtime = .enabled then .passed else .failed

theorem reported_spec (runtime : RuntimeState) {batch : Option (List FlyDpiRuntimeEvent)}
    (hbatch : batch.isSome ↔ runtime = .enabled)
    (hevents : ∀ out ∈ batch, ∀ record ∈ out, EventOnly (convert record)) (e : Engine)
    (env : Environment) :
    (reported runtime batch (e.run env)).wfpEvents =
        { WFPEventSummary.zero with observed := UInt64.ofNat (batch.getD []).length } ∧
      (reported runtime batch (e.run env)).stages.wfp.status = wfpStatus runtime := by
  cases batch with
  | none =>
      cases runtime with
      | enabled =>
          exact absurd (hbatch.2 rfl) Bool.false_ne_true
      | _ =>
          exact ⟨rfl, rfl⟩
  | some out =>
      rcases hbatch.1 rfl with rfl
      have hall : ∀ event ∈ out.map convert, EventOnly event := by
        intro event hevent
        rcases List.mem_map.1 hevent with ⟨record, hrecord, rfl⟩
        exact hevents out rfl record hrecord
      refine ⟨?_, wfpStatus_correlate_enabled _ _⟩
      have hzero : (e.run env).wfpEvents = .zero := rfl
      rw [reported, wfpEvents_correlate _ (by decide), Option.getD_some, foldl_countEvent hall,
        List.length_map, hzero]
      simp [WFPEventSummary.zero]

/-- What an answer says of the telemetry. -/
structure Answer.Plain (setup : Setup) (a : Answer) : Prop where
  events : ∀ events, a.response.outcome = .ok (.events (some events)) → ∀ e ∈ events, EventOnly e
  summary : ∀ report, a.response.outcome = .ok (.report report) →
    report.wfpEvents =
      { WFPEventSummary.zero with observed := UInt64.ofNat (a.batch.getD []).length }
  stage : ∀ report, a.response.outcome = .ok (.report report) →
    report.stages.wfp.status = wfpStatus setup.runtime

/-- Neither events nor a report. -/
def Silent (outcome : Except RPCError Result) : Prop :=
  (∀ events, outcome ≠ .ok (.events (some events))) ∧ ∀ report, outcome ≠ .ok (.report report)

theorem replies_silent {request : Request} {outcome : Except RPCError Result}
    (h : Replies setup.go request outcome) : Silent outcome := by
  cases h <;> refine ⟨?_, ?_⟩ <;> intro _ heq <;> cases heq

theorem nothingPolled_silent (runtime : RuntimeState) (hruntime : runtime ≠ .absent) :
    Silent (.ok (nothingPolled runtime)) := by
  rw [nothingPolled, if_neg hruntime]
  refine ⟨?_, ?_⟩
  · intro events heq
    cases heq
  · intro report heq
    cases heq

theorem plain_of_silent {a : Answer} (h : Silent a.response.outcome) : a.Plain setup where
  events := fun events heq => absurd heq (h.1 events)
  summary := fun report heq => absurd heq (h.2 report)
  stage := fun report heq => absurd heq (h.2 report)

theorem plain_events (request : Request) {events : List Event} (h : ∀ e ∈ events, EventOnly e)
    (batch : Option (List FlyDpiRuntimeEvent)) :
    (answered request (.ok (.events (some events))) batch).Plain setup where
  events := by
    intro events' heq
    cases heq
    exact h
  summary := by
    intro report heq
    cases heq
  stage := by
    intro report heq
    cases heq

theorem Explained.plain {a : Answer} (h : Explained setup a)
    (hevents : ∀ out ∈ a.batch, ∀ record ∈ out, EventOnly (convert record)) : a.Plain setup := by
  cases h with
  | replies hreplies =>
      exact plain_of_silent (replies_silent hreplies)
  | status seq _ =>
      refine plain_of_silent ⟨?_, ?_⟩
      · intro events heq
        cases heq
      · intro report heq
        cases heq
  | nothingPolled _ _ =>
      by_cases habsent : setup.runtime = .absent
      · rw [Backend.nothingPolled, if_pos habsent]
        exact plain_events _ (List.forall_mem_nil _) none
      · exact plain_of_silent (nothingPolled_silent setup.runtime habsent)
  | @polled request out _ _ =>
      refine plain_events request (fun event hevent => ?_) (some out)
      rcases List.mem_map.1 hevent with ⟨record, hrecord, rfl⟩
      exact hevents out rfl record hrecord
  | report env _ hbatch _ =>
      have hreported := reported_spec setup.runtime hbatch hevents setup.engine env
      refine ⟨?_, ?_, ?_⟩
      · intro events heq
        cases heq
      · intro report heq
        cases heq
        exact hreported.1
      · intro report heq
        cases heq
        exact hreported.2

/-- In every interleaving, with whatever records, all answers tell of packets only: no event of a
`telemetry.poll` is a reset, a timeout or an error, and no report counts one. -/
theorem answers_plain (h : Reachable setup b) (hconn : b.connections[c]? = some conn) :
    ∀ a ∈ conn.answers, a.Plain setup := by
  intro a ha
  refine ((reachable_inv h).connections c conn hconn).answers a ha |>.plain ?_
  intro out hout record hrecord
  have hdelivered := mem_delivered_of_batch h hconn ha hout hrecord
  exact eventOnly_convert ((Core.World.delivered_observationOnly (core_interleaved h)).1 _ hdelivered)

theorem polled_plain : ∃ (b : Backend) (conn : Connection), b.connections[0]? = some conn ∧
    conn.answers.length = 1 ∧ ∀ a ∈ conn.answers, a.Plain liveSetup := by
  rcases exists_polled with ⟨b, event, event', hreachable, hconns, _⟩
  have hconn : b.connections[0]? = some (polledBy event') := by
    rw [hconns]
    rfl
  exact ⟨b, polledBy event', hconn, rfl, answers_plain hreachable hconn⟩

/-- While the records carry the version numbers of the Windows SDK, a running backend answers every
`telemetry.poll` with an empty list, and every report says that the telemetry is available and that
nothing was observed. -/
theorem answers_silent_under_sdk_versions (h : Reachable setup b) (hruntime : setup.runtime = .enabled)
    (hversions : ∀ record ∈ b.shared.core.callbacks,
      record.header.ipVersion = Native.FWP_IP_VERSION_V4 ∨
        record.header.ipVersion = Native.FWP_IP_VERSION_V6)
    (hconn : b.connections[c]? = some conn) :
    ∀ a ∈ conn.answers,
      (∀ events, a.response.outcome = .ok (.events events) → events = some []) ∧
      ∀ report, a.response.outcome = .ok (.report report) →
        report.wfpEvents = .zero ∧ report.stages.wfp.status = .passed := by
  intro a ha
  have hnothing : b.shared.core.delivered = [] :=
    (Core.World.silent_under_sdk_versions (core_interleaved h) hversions).1
  have hempty : ∀ out, a.batch = some out → out = [] := by
    intro out hout
    refine List.eq_nil_iff_forall_not_mem.2 fun record hrecord => ?_
    have hdelivered := mem_delivered_of_batch h hconn ha hout hrecord
    rw [hnothing] at hdelivered
    cases hdelivered
  have hplain := answers_plain h hconn a ha
  refine ⟨?_, ?_⟩
  · intro events heq
    have hexplained := ((reachable_inv h).connections c conn hconn).answers a ha
    cases hexplained with
    | replies hreplies =>
        cases hreplies <;> cases heq
    | status _ _ =>
        cases heq
    | nothingPolled _ hnot =>
        exact absurd hruntime hnot
    | @polled _ out _ _ =>
        cases heq
        rw [hempty out rfl]
        rfl
    | report _ _ _ _ =>
        cases heq
  · intro report heq
    have hcount : (a.batch.getD []).length = 0 := by
      cases hbatch : a.batch with
      | none =>
          rfl
      | some out =>
          rw [Option.getD_some, hempty out hbatch]
          rfl
    refine ⟨?_, ?_⟩
    · rw [hplain.summary report heq, hcount]
      rfl
    · rw [hplain.stage report heq, wfpStatus, if_pos hruntime]

/-- The record of a TCP connection as Windows sends it is fed and refused; the poll finds nothing. -/
theorem exists_polled_sdk : ∃ b conn, Reachable liveSetup b ∧ b.connections[0]? = some conn ∧
    conn.answers.length = 1 ∧ b.shared.core.callbacks = [ipv4Record] := by
  have hlimit : batchLimit (pollOne.limit liveSetup.go) = 1 := by
    decide +kernel
  have hqueued : Reachable liveSetup (idle Core.World.recordQueued) :=
    reachable_idle (.single ⟨.callback ipv4Record, trivial, .callback ipv4Record nofun⟩)
  refine ⟨_, _, (((((hqueued.tail .accept).tail
    (.serve (c := 0) rfl (.decode pollOne rfl))).tail
    (.serve (c := 0) rfl (.pollStart rfl pollOne_calls rfl rfl))).tail
    (.serve (c := 0) rfl (.pollEnd rfl rfl (.empty (by rw [hlimit]; decide) rfl)))).tail
    (.serve (c := 0) rfl (.encode rfl))), rfl, rfl, rfl⟩

theorem polled_silent : ∃ (b : Backend) (conn : Connection), b.connections[0]? = some conn ∧
    conn.answers.length = 1 ∧ ∀ a ∈ conn.answers,
      ∀ events, a.response.outcome = .ok (.events events) → events = some [] := by
  rcases exists_polled_sdk with ⟨b, conn, hreachable, hconn, hanswers, hcallbacks⟩
  refine ⟨b, conn, hconn, hanswers, fun a ha => ?_⟩
  refine (answers_silent_under_sdk_versions hreachable rfl (fun record hrecord => ?_) hconn a ha).1
  rw [hcallbacks] at hrecord
  exact Or.inl (congrArg (·.header.ipVersion) (List.mem_singleton.1 hrecord))

end Backend
end Orchestrator
end FlyDpi
