import FlyDpi.Orchestrator.BackendRuns

/-!
# BackendProgress — counters of the server, and every request is answered

The sequence number counts the diagnoses begun, and each finished one is recorded once.  No request
waits for the goroutines of others for ever: the connection that has the mutex can always go on, and
every request costs its goroutine a bounded number of steps.  What a goroutine may wait for is its own
peer: the connection has no deadline, and a peer that does not read may keep `enc.Encode` from
returning.  A peer is therefore a parameter: what it has sent, and whether it reads what it is answered.
-/

namespace FlyDpi
namespace Orchestrator
namespace Backend

open Lib FlyDpi.Core Diagnostic Server Rpc

variable {setup : Setup} {b b' : Backend} {c : Nat} {s s' : Shared} {conn conn' : Connection}

/-! ## The sequence number -/

def Answer.isReport (a : Answer) : Bool :=
  match a.response.outcome with
  | .ok (.report _) => true
  | _ => false

def Answer.report (a : Answer) : Option DiagnosticReport :=
  match a.response.outcome with
  | .ok (.report report) => some report
  | _ => none

theorem report_eq_none {a : Answer} (h : a.isReport = false) : a.report = none := by
  rw [Answer.isReport] at h
  rw [Answer.report]
  split at h
  · cases h
  · rfl

theorem isReport_of_report {a : Answer} {report : DiagnosticReport} (h : a.report = some report) :
    a.isReport = true := by
  cases hreport : a.isReport with
  | true =>
      rfl
  | false =>
      rw [report_eq_none hreport] at h
      cases h

/-- The answer that `Handle` has returned and that is not written, or lost. -/
def Handler.answer : Handler → Option Answer
  | .answering answer => some answer
  | .closed lost => lost
  | _ => none

/-- The answers that `Handle` has returned. -/
def Connection.returned (conn : Connection) : List Answer :=
  conn.answers ++ conn.handler.answer.toList

/-- A diagnosis that has begun and is not recorded yet. -/
def Handler.inDiagnosis : Handler → Nat
  | .diagnosing _ => 1
  | .waiting _ _ => 1
  | .reading _ _ => 1
  | .recording _ _ _ => 1
  | _ => 0

/-- The reports among them. -/
def Connection.reports (conn : Connection) : List DiagnosticReport :=
  conn.returned.filterMap Answer.report

def Connection.recorded (conn : Connection) : Nat :=
  conn.returned.countP Answer.isReport

def Connection.begun (conn : Connection) : Nat :=
  conn.recorded + conn.handler.inDiagnosis

/-- Every sequence number that a connection is told counts some of the diagnoses begun so far, among
them all those it has had an answer to. -/
def Connection.Informed (total : Nat) (conn : Connection) : Prop :=
  ∀ before a after enabled error seq, conn.returned = before ++ a :: after →
    a.response.outcome = .ok (.status enabled error seq) →
    ∃ n, seq = UInt64.ofNat n ∧ before.countP Answer.isReport ≤ n ∧ n ≤ total

theorem Connection.Informed.mono {total total' : Nat} (h : conn.Informed total)
    (hle : total ≤ total') (hreturned : conn'.returned = conn.returned) : conn'.Informed total' := by
  intro before a after enabled error seq hsplit hstatus
  rw [hreturned] at hsplit
  rcases h before a after enabled error seq hsplit hstatus with ⟨n, hseq, hbefore, hn⟩
  exact ⟨n, hseq, hbefore, hn.trans hle⟩

/-- One more answer. -/
theorem Connection.Informed.returned {total total' : Nat} (h : conn.Informed total)
    (hle : total ≤ total') {a : Answer} (hreturned : conn'.returned = conn.returned ++ [a])
    (ha : ∀ enabled error seq, a.response.outcome = .ok (.status enabled error seq) →
      ∃ n, seq = UInt64.ofNat n ∧ conn.recorded ≤ n ∧ n ≤ total') : conn'.Informed total' := by
  intro before a' after enabled error seq hsplit hstatus
  rw [hreturned] at hsplit
  -- the answer looked at is the new one, or one that was there before
  rcases List.eq_nil_or_concat after with rfl | ⟨after', last, rfl⟩
  · rcases List.append_inj' hsplit rfl with ⟨rfl, hsame⟩
    cases hsame
    exact ha enabled error seq hstatus
  · rw [List.concat_eq_append, ← List.cons_append, ← List.append_assoc] at hsplit
    have hold := List.append_inj_left' hsplit rfl
    rcases h before a' after' enabled error seq hold hstatus with ⟨n, hseq, hbefore, hn⟩
    exact ⟨n, hseq, hbefore, hn.trans hle⟩

/-- What a step of a goroutine does to the counters: it goes on with its request, begins a diagnosis,
or returns an answer, which is a report exactly when this report is handed to `history.Add`. -/
inductive Counts (s s' : Shared) (conn conn' : Connection) : Prop
  | stays : s'.seq = s.seq → s'.added = s.added → conn'.returned = conn.returned →
      conn'.handler.inDiagnosis = conn.handler.inDiagnosis → Counts s s' conn conn'
  | begins : s'.seq = s.seq + 1 → s'.added = s.added →
      conn'.returned = conn.returned → conn.handler.inDiagnosis = 0 →
      conn'.handler.inDiagnosis = 1 → Counts s s' conn conn'
  | records (a : Answer) (report : DiagnosticReport) : s'.seq = s.seq →
      s'.added = s.added ++ [report] → conn'.returned = conn.returned ++ [a] →
      a.report = some report → conn.handler.inDiagnosis = 1 →
      conn'.handler.inDiagnosis = 0 → Counts s s' conn conn'
  | returns (a : Answer) : s'.seq = s.seq → s'.added = s.added →
      conn'.returned = conn.returned ++ [a] → a.isReport = false →
      (∀ enabled error seq, a.response.outcome = .ok (.status enabled error seq) → seq = s.seq) →
      conn'.handler.inDiagnosis = conn.handler.inDiagnosis → Counts s s' conn conn'

/-- No answer was there, and none is. -/
theorem counts_stays {handler : Handler} (hseq : s'.seq = s.seq)
    (hadded : s'.added = s.added) (hbefore : conn.handler.answer = none)
    (hafter : handler.answer = none) (hdiagnosis : handler.inDiagnosis = conn.handler.inDiagnosis) :
    Counts s s' conn { conn with handler := handler } := by
  refine .stays hseq hadded ?_ hdiagnosis
  rw [Connection.returned, Connection.returned, hbefore, hafter]

/-- The answer to a request for anything but a diagnosis. -/
theorem counts_returns {request : Request} {outcome : Except RPCError Result}
    {batch : Option (List FlyDpiRuntimeEvent)} (hseq : s'.seq = s.seq)
    (hadded : s'.added = s.added) (hbefore : conn.handler.answer = none)
    (hreport : (answered request outcome batch).isReport = false)
    (hstatus : ∀ enabled error seq, outcome = .ok (.status enabled error seq) → seq = s.seq)
    (hdiagnosis : conn.handler.inDiagnosis = 0) :
    Counts s s' conn { conn with handler := .answering (answered request outcome batch) } := by
  refine .returns (answered request outcome batch) hseq hadded ?_ hreport hstatus hdiagnosis.symm
  rw [Connection.returned, Connection.returned, hbefore, Option.toList_none, List.append_nil]
  rfl

theorem isReport_replies {request : Request} {outcome : Except RPCError Result}
    (h : Replies setup.go request outcome) : (answered request outcome none).isReport = false := by
  cases h <;> rfl

theorem ne_status_replies {request : Request} {outcome : Except RPCError Result}
    (h : Replies setup.go request outcome) (enabled : Bool) (error : String) (seq : UInt64) :
    outcome ≠ .ok (.status enabled error seq) := by
  intro heq
  cases h <;> cases heq

theorem Serves.counts (h : Serves setup c s conn s' conn') : Counts s s' conn conn' := by
  cases h with
  | decode request hhandler =>
      refine .stays rfl rfl ?_ ?_
      · simp [Connection.returned, hhandler, Handler.answer]
      · simp [hhandler, Handler.inDiagnosis]
  | endOfStream hhandler =>
      exact counts_stays rfl rfl (by rw [hhandler]; rfl) rfl (by rw [hhandler]; rfl)
  | invalidJson id hhandler =>
      refine .stays rfl rfl ?_ ?_
      · simp [Connection.returned, hhandler, Handler.answer]
      · simp [hhandler, Handler.inDiagnosis]
  | reply hhandler hreplies =>
      refine counts_returns rfl rfl (by rw [hhandler]; rfl) (isReport_replies hreplies) ?_
        (by rw [hhandler]; rfl)
      intro enabled error seq heq
      exact absurd heq (ne_status_replies hreplies enabled error seq)
  | status hhandler _ =>
      refine counts_returns rfl rfl (by rw [hhandler]; rfl) rfl ?_ (by rw [hhandler]; rfl)
      intro enabled error seq heq
      cases heq
      rfl
  | pollNothing hhandler _ _ =>
      refine counts_returns rfl rfl (by rw [hhandler]; rfl) rfl ?_ (by rw [hhandler]; rfl)
      intro enabled error seq heq
      cases heq
  | pollStart hhandler _ _ _ =>
      exact counts_stays rfl rfl (by rw [hhandler]; rfl) rfl (by rw [hhandler]; rfl)
  | next _ _ _ _ =>
      -- the event goes to the open batch, which is in the shared state
      exact .stays rfl rfl rfl rfl
  | pollEnd hhandler _ _ =>
      refine counts_returns rfl rfl (by rw [hhandler]; rfl) rfl ?_ (by rw [hhandler]; rfl)
      intro enabled error seq heq
      cases heq
  | diagnose hhandler _ =>
      refine .begins rfl rfl ?_ (by rw [hhandler]; rfl) rfl
      simp [Connection.returned, hhandler, Handler.answer]
  | engineDone env hhandler =>
      exact counts_stays rfl rfl (by rw [hhandler]; rfl) rfl (by rw [hhandler]; rfl)
  | readNothing hhandler _ =>
      exact counts_stays rfl rfl (by rw [hhandler]; rfl) rfl (by rw [hhandler]; rfl)
  | readStart hhandler _ _ =>
      exact counts_stays rfl rfl (by rw [hhandler]; rfl) rfl (by rw [hhandler]; rfl)
  | readEnd hhandler _ _ =>
      exact counts_stays rfl rfl (by rw [hhandler]; rfl) rfl (by rw [hhandler]; rfl)
  | @record request report batch hhandler =>
      refine .records
        (answered request (.ok (.report (reported setup.runtime batch report))) batch)
        (reported setup.runtime batch report) rfl rfl ?_ rfl (by rw [hhandler]; rfl) rfl
      simp only [Connection.returned, hhandler, Handler.answer, Option.toList_none, List.append_nil]
      rfl
  | encode hhandler =>
      refine .stays rfl rfl ?_ ?_
      · simp [Connection.returned, hhandler, Handler.answer]
      · simp [hhandler, Handler.inDiagnosis]
  | encodeError hhandler =>
      refine .stays rfl rfl ?_ ?_
      · simp [Connection.returned, hhandler, Handler.answer]
      · simp [hhandler, Handler.inDiagnosis]

/-- The counters in a reachable state. -/
structure Counted (b : Backend) : Prop where
  added : b.shared.added.length = Pool.total Connection.recorded b.connections
  seq : b.shared.seq = UInt64.ofNat (Pool.total Connection.begun b.connections)
  informed : ∀ conn ∈ b.connections, conn.Informed (Pool.total Connection.begun b.connections)
  reports : b.shared.added.Perm (b.connections.flatMap Connection.reports)
  /-- Those of one connection, in their order. -/
  ordered : ∀ conn ∈ b.connections, conn.reports.Sublist b.shared.added

theorem start_counted : Counted start where
  added := rfl
  seq := rfl
  informed := by
    intro conn hconn
    cases hconn
  reports := List.Perm.nil
  ordered := by
    intro conn hconn
    cases hconn

theorem Counts.recorded (h : Counts s s' conn conn') :
    s'.added.length + conn.recorded = s.added.length + conn'.recorded := by
  cases h with
  | stays _ hadded hreturned _ =>
      rw [Connection.recorded, Connection.recorded, hadded, hreturned]
  | begins _ hadded hreturned _ _ =>
      rw [Connection.recorded, Connection.recorded, hadded, hreturned]
  | records a report _ hadded hreturned hreport _ _ =>
      rw [Connection.recorded, Connection.recorded, hadded, hreturned, List.countP_append,
        List.countP_singleton, if_pos (isReport_of_report hreport), List.length_append,
        List.length_singleton]
      omega
  | returns a _ hadded hreturned hreport _ _ =>
      rw [Connection.recorded, Connection.recorded, hadded, hreturned, List.countP_append,
        List.countP_singleton, hreport, if_neg Bool.false_ne_true]
      omega

/-- `history.Add` is handed the reports that are returned. -/
theorem Counts.reports (h : Counts s s' conn conn') :
    ∃ new, s'.added = s.added ++ new ∧ conn'.reports = conn.reports ++ new := by
  cases h with
  | stays _ hadded hreturned _ =>
      refine ⟨[], hadded.trans (List.append_nil _).symm, ?_⟩
      rw [Connection.reports, Connection.reports, hreturned, List.append_nil]
  | begins _ hadded hreturned _ _ =>
      refine ⟨[], hadded.trans (List.append_nil _).symm, ?_⟩
      rw [Connection.reports, Connection.reports, hreturned, List.append_nil]
  | records a report _ hadded hreturned hreport _ _ =>
      refine ⟨[report], hadded, ?_⟩
      rw [Connection.reports, Connection.reports, hreturned, List.filterMap_append,
        List.filterMap_cons_some hreport, List.filterMap_nil]
  | returns a _ hadded hreturned hreport _ _ =>
      refine ⟨[], hadded.trans (List.append_nil _).symm, ?_⟩
      rw [Connection.reports, Connection.reports, hreturned, List.filterMap_append,
        List.filterMap_cons_none (report_eq_none hreport), List.filterMap_nil]

/-- The sequence number rises with the number of diagnoses begun. -/
theorem Counts.begun (h : Counts s s' conn conn') :
    ∃ n, s'.seq = s.seq + UInt64.ofNat n ∧ conn'.begun = conn.begun + n := by
  cases h with
  | stays hseq _ hreturned hdiagnosis =>
      refine ⟨0, ?_, ?_⟩
      · rw [hseq]
        simp
      · rw [Connection.begun, Connection.begun, Connection.recorded, Connection.recorded, hreturned,
          hdiagnosis]
        rfl
  | begins hseq _ hreturned hbefore hafter =>
      refine ⟨1, hseq, ?_⟩
      rw [Connection.begun, Connection.begun, Connection.recorded, Connection.recorded, hreturned,
        hbefore, hafter]
  | records a report hseq _ hreturned hreport hbefore hafter =>
      refine ⟨0, ?_, ?_⟩
      · rw [hseq]
        simp
      · rw [Connection.begun, Connection.begun, Connection.recorded, Connection.recorded, hreturned,
          List.countP_append, List.countP_singleton, if_pos (isReport_of_report hreport), hbefore,
          hafter]
  | returns a hseq _ hreturned hreport _ hdiagnosis =>
      refine ⟨0, ?_, ?_⟩
      · rw [hseq]
        simp
      · rw [Connection.begun, Connection.begun, Connection.recorded, Connection.recorded, hreturned,
          List.countP_append, List.countP_singleton, hreport, if_neg Bool.false_ne_true, hdiagnosis]
        rfl

theorem Counted.step (h : Counted b) (hstep : Step setup b b') : Counted b' := by
  cases hstep with
  | core _ _ =>
      exact { h with }
  | accept =>
      have hnew : Pool.total Connection.begun (b.connections ++ [Connection.new]) =
          Pool.total Connection.begun b.connections :=
        Pool.total_concat _ _ _
      have hrecorded : Pool.total Connection.recorded (b.connections ++ [Connection.new]) =
          Pool.total Connection.recorded b.connections :=
        Pool.total_concat _ _ _
      refine
        { added := h.added.trans hrecorded.symm
          seq := h.seq.trans (congrArg UInt64.ofNat hnew.symm)
          informed := ?_
          reports := ?_
          ordered := ?_ }
      · intro conn hconn
        rw [hnew]
        rcases List.mem_append.1 hconn with hold | hlast
        · exact h.informed conn hold
        · rw [List.mem_singleton.1 hlast]
          intro before a after enabled error seq hsplit
          exact absurd hsplit.symm (List.append_ne_nil_of_right_ne_nil _ (List.cons_ne_nil _ _))
      · change b.shared.added.Perm ((b.connections ++ [Connection.new]).flatMap Connection.reports)
        rw [List.flatMap_append]
        exact h.reports.trans (List.Perm.of_eq (List.append_nil _).symm)
      · intro conn hconn
        rcases List.mem_append.1 hconn with hold | hlast
        · exact h.ordered conn hold
        · rw [List.mem_singleton.1 hlast]
          exact List.nil_sublist _
  | @serve c conn conn' shared hconn hserves =>
      -- in every total only the share of this connection changes
      have hcounts := hserves.counts
      rcases hcounts.begun with ⟨n, hseq, hbegun⟩
      rcases hcounts.reports with ⟨new, hnew, hreports⟩
      have hrecorded := Pool.total_set (f := Connection.recorded) hconn conn'
      have htotal := Pool.total_set (f := Connection.begun) hconn conn'
      have hsum : Pool.total Connection.begun (b.connections.set c conn') =
          Pool.total Connection.begun b.connections + n := by
        omega
      have hle : Pool.total Connection.begun b.connections ≤
          Pool.total Connection.begun (b.connections.set c conn') := by
        omega
      refine
        { added := ?_
          seq := ?_
          informed := ?_
          reports := ?_
          ordered := ?_ }
      · have hadded := h.added
        have hcount := hcounts.recorded
        change shared.added.length = Pool.total Connection.recorded (b.connections.set c conn')
        omega
      · change shared.seq = UInt64.ofNat (Pool.total Connection.begun (b.connections.set c conn'))
        rw [hseq, h.seq, hsum, UInt64.ofNat_add]
      · intro conn'' hconn''
        rcases List.mem_or_eq_of_mem_set hconn'' with hold | rfl
        · exact (h.informed conn'' hold).mono hle rfl
        · have hinformed := h.informed conn (List.mem_of_getElem? hconn)
          cases hcounts with
          | stays _ _ hreturned _ =>
              exact hinformed.mono hle hreturned
          | begins _ _ hreturned _ _ =>
              exact hinformed.mono hle hreturned
          | records a report _ _ hreturned hreport _ _ =>
              -- a report is no status
              refine hinformed.returned hle hreturned ?_
              intro enabled error seq heq
              rw [Answer.report, heq] at hreport
              cases hreport
          | returns a _ _ hreturned _ hstatus _ =>
              refine hinformed.returned hle hreturned ?_
              intro enabled error seq heq
              -- it was told the number of all diagnoses begun so far
              have hown : conn.begun ≤ Pool.total Connection.begun b.connections :=
                Pool.le_total hconn
              refine ⟨Pool.total Connection.begun b.connections, ?_, ?_, hle⟩
              · rw [hstatus enabled error seq heq, h.seq]
              · exact (Nat.le_add_right _ _).trans hown
      · change shared.added.Perm ((b.connections.set c conn').flatMap Connection.reports)
        rw [hnew]
        exact (h.reports.append_right new).trans (Pool.flatMap_set hconn hreports).symm
      · intro conn'' hconn''
        change conn''.reports.Sublist shared.added
        rw [hnew]
        rcases List.mem_or_eq_of_mem_set hconn'' with hold | rfl
        · exact (h.ordered conn'' hold).trans (List.sublist_append_left _ _)
        · rw [hreports]
          exact (h.ordered conn (List.mem_of_getElem? hconn)).append_right new

def runDiagnosis : Request :=
  { jsonrpc := lit "2.0"
    id := 5
    method := lit "diagnostic.run"
    params := [] }

theorem runDiagnosis_calls : runDiagnosis.calls .diagnosticRun :=
  ⟨rfl, by decide +kernel⟩

/-- In every interleaving of any number of connections: the sequence number is the number of diagnoses
begun, modulo 2^64; `history.Add` has been called once for each diagnosis that is answered or about to
be, with just the reports that are answered, those of one connection in their order; and a `status.get`
counts at least the diagnoses answered before on its connection. -/
theorem sequence_exact (h : Reachable setup b) :
    b.shared.seq = UInt64.ofNat (Pool.total Connection.begun b.connections) ∧
    b.shared.added.length = Pool.total Connection.recorded b.connections ∧
    b.shared.added.Perm (b.connections.flatMap Connection.reports) ∧
    ∀ conn ∈ b.connections, conn.reports.Sublist b.shared.added ∧
      conn.Informed (Pool.total Connection.begun b.connections) := by
  have hcounted : Counted b := Runs.invariant (fun _ _ hb hstep => hb.step hstep) start_counted h
  exact ⟨hcounted.seq, hcounted.added, hcounted.reports,
    fun conn hconn => ⟨hcounted.ordered conn hconn, hcounted.informed conn hconn⟩⟩

/-- Nothing answers. -/
def unplugged : Environment :=
  { system := fun _ _ => .error (lit "no such host")
    doh := fun _ _ => .error (lit "connection refused")
    nets := fun _ =>
      { dial := fun _ _ => .error (lit "connection refused")
        handshake := fun _ _ => none }
    started := .zero
    finished := .zero }

/-- A diagnosis has been answered, with no event to report, and another one has begun. -/
theorem exists_diagnosed : ∃ b conn report, Reachable liveSetup b ∧ b.connections = [conn] ∧
    conn.requests = [runDiagnosis, runDiagnosis] ∧ conn.reports = [report] ∧
    conn.handler = .diagnosing runDiagnosis := by
  have hlimit : batchLimit diagnosticLimit = 128 :=
    batchLimit_diagnosticLimit
  refine ⟨_, _, reported .enabled (some []) (liveSetup.engine.run unplugged),
    (((((((((Relation.ReflTransGen.single .accept).tail
    (.serve (c := 0) rfl (.decode runDiagnosis rfl))).tail
    (.serve (c := 0) rfl (.diagnose rfl runDiagnosis_calls))).tail
    (.serve (c := 0) rfl (.engineDone unplugged rfl))).tail
    (.serve (c := 0) rfl (.readStart rfl rfl rfl))).tail
    (.serve (c := 0) rfl (.readEnd rfl rfl (.empty (by rw [hlimit]; decide) rfl)))).tail
    (.serve (c := 0) rfl (.record rfl))).tail
    (.serve (c := 0) rfl (.encode rfl))).tail
    (.serve (c := 0) rfl (.decode runDiagnosis rfl))).tail
    (.serve (c := 0) rfl (.diagnose rfl runDiagnosis_calls)), rfl, rfl, rfl, rfl⟩

theorem diagnosed_sequence : ∃ (b : Backend) (conn : Connection) (report : DiagnosticReport),
    b.connections = [conn] ∧ conn.handler = .diagnosing runDiagnosis ∧ b.shared.added = [report] ∧
      b.shared.seq = UInt64.ofNat 2 := by
  rcases exists_diagnosed with ⟨b, conn, report, hreachable, hconn, _, hreports, hhandler⟩
  rcases sequence_exact hreachable with ⟨hseq, hlength, hadded, _⟩
  rw [hconn, List.flatMap_singleton, hreports] at hadded
  rw [List.perm_singleton.1 hadded, hconn] at hlength
  have hbegun : Pool.total Connection.begun [conn] = 2 := by
    change 1 = conn.recorded + 0 at hlength
    change conn.recorded + conn.handler.inDiagnosis + 0 = 2
    rw [Nat.add_zero] at hlength
    rw [hhandler, ← hlength]
    rfl
  rw [hconn, hbegun] at hseq
  exact ⟨b, conn, report, hconn, hhandler, List.perm_singleton.1 hadded, hseq⟩

/-! ## Work that is left -/

/-- How many polls of the open batch may still find an event. -/
def Shared.room (s : Shared) (limit : Nat) : Nat :=
  limit - ((s.batches.current.map fun batch => batch.2.length).getD 0)

/-- A bound for the steps of a goroutine until it returns, without those for requests to come. -/
def work (s : Shared) : Handler → Nat
  | .closed _ => 0
  | .decoding => 1
  | .answering _ => 2
  | .recording _ _ _ => 3
  | .polling _ limit => 3 + s.room limit
  | .reading _ _ => 4 + s.room (batchLimit diagnosticLimit)
  | .waiting _ _ => 133
  | .diagnosing _ => 134
  | .dispatching _ => 135

theorem batchLimit_telemetryLimit_le (n : Int) : batchLimit (telemetryLimit n) ≤ 128 := by
  unfold batchLimit telemetryLimit
  dsimp only
  split_ifs <;> omega

theorem room_le (s : Shared) (limit : Nat) : s.room limit ≤ limit :=
  Nat.sub_le _ _

theorem room_took {out : List FlyDpiRuntimeEvent} {limit : Nat} (event : FlyDpiRuntimeEvent)
    (core : Core.World) (hcurrent : s.batches.current = some (c, out)) (hmore : out.length < limit) :
    Shared.room { s with core := core, batches := s.batches.took event } limit < s.room limit := by
  simp only [Shared.room, Batches.took, hcurrent, Option.map_some, Option.getD_some,
    List.length_append, List.length_singleton]
  omega

/-- Every step of a goroutine is work done, or a request decoded, which is paid for with 135. -/
theorem Serves.work_lt (h : Serves setup c s conn s' conn') :
    work s' conn'.handler + 135 * conn.requests.length <
      work s conn.handler + 135 * conn'.requests.length := by
  cases h with
  | decode request hhandler =>
      rw [hhandler, List.length_append, List.length_singleton]
      change 135 + _ < 1 + _
      omega
  | @pollStart request hhandler _ _ _ =>
      -- the limit of a telemetry.poll is the client's, but never above 128
      have hroom := room_le { s with batches := s.batches.opened c }
        (batchLimit (request.limit setup.go))
      have hlimit := batchLimit_telemetryLimit_le
        (if request.params = [] then 0 else setup.go.limit request.params)
      rw [hhandler]
      refine Nat.add_lt_add_right ?_ _
      change 3 + _ < 135
      simp only [Rpc.Request.limit] at hroom ⊢
      omega
  | @next limit out event ring hlimit hcurrent hmore _ =>
      refine Nat.add_lt_add_right ?_ _
      have hroom := room_took event (s.polled (some event) ring) hcurrent hmore
      -- only the two loops of `PollBatch` have a limit
      cases hhandler : conn.handler with
      | polling request limit' =>
          rw [hhandler] at hlimit
          cases hlimit
          exact Nat.add_lt_add_left hroom 3
      | reading request report =>
          rw [hhandler] at hlimit
          cases hlimit
          exact Nat.add_lt_add_left hroom 4
      | _ =>
          rw [hhandler] at hlimit
          cases hlimit
  | pollEnd hhandler _ _ =>
      rw [hhandler]
      refine Nat.add_lt_add_right ?_ _
      change 2 < 3 + _
      omega
  | readStart hhandler _ _ =>
      have hroom := room_le { s with batches := s.batches.opened c } (batchLimit diagnosticLimit)
      rw [hhandler]
      refine Nat.add_lt_add_right ?_ _
      change 4 + _ < 133
      rw [batchLimit_diagnosticLimit] at hroom ⊢
      omega
  | readEnd hhandler _ _ =>
      rw [hhandler]
      refine Nat.add_lt_add_right ?_ _
      change 3 < 4 + _
      omega
  | endOfStream hhandler =>
      simp [work, hhandler]
  | invalidJson _ hhandler =>
      simp [work, hhandler]
  | reply hhandler _ =>
      simp [work, hhandler]
  | status hhandler _ =>
      simp [work, hhandler]
  | pollNothing hhandler _ _ =>
      simp [work, hhandler]
  | diagnose hhandler _ =>
      simp [work, hhandler]
  | engineDone _ hhandler =>
      simp [work, hhandler]
  | readNothing hhandler _ =>
      simp [work, hhandler]
  | record hhandler =>
      simp [work, hhandler]
  | encode hhandler =>
      simp [work, hhandler]
  | encodeError hhandler =>
      simp [work, hhandler]

/-- It does not make the others' work more. -/
theorem work_spared (h : conn.Faithful setup s c) (hspares : Spares c s s') :
    work s' conn.handler = work s conn.handler := by
  have hroom : ∀ limit, conn.handler.limit = some limit → s'.room limit = s.room limit := by
    intro limit hlimit
    rcases h.holds limit hlimit with ⟨out, hcurrent, _⟩
    rw [Shared.room, Shared.room, hcurrent, (hspares.current out).2 hcurrent]
  cases hhandler : conn.handler with
  | polling request limit =>
      exact congrArg (3 + ·) (hroom limit (by rw [hhandler]; rfl))
  | reading request report =>
      exact congrArg (4 + ·) (hroom _ (by rw [hhandler]; rfl))
  | _ =>
      rfl

/-! ## Somebody can go on -/

/-- Whoever has the mutex is in `PollBatch`. -/
def HolderReads (b : Backend) : Prop :=
  ∀ (c : Nat) (out : List FlyDpiRuntimeEvent), b.shared.batches.current = some (c, out) →
    ∃ conn limit, b.connections[c]? = some conn ∧ conn.handler.limit = some limit

/-- What a step does to the mutex: nothing, it takes or keeps it, or it gives it back. -/
theorem Serves.mutex (h : Serves setup c s conn s' conn') :
    (s'.batches.current = s.batches.current ∧
        (conn'.handler.limit = conn.handler.limit ∨ conn.handler.limit = none)) ∨
      ((∀ c' out, s'.batches.current = some (c', out) → c' = c) ∧
        ∃ limit, conn'.handler.limit = some limit) ∨
      s'.batches.current = none := by
  cases h with
  | decode _ hhandler =>
      exact Or.inl ⟨rfl, Or.inr (by rw [hhandler]; rfl)⟩
  | endOfStream hhandler =>
      exact Or.inl ⟨rfl, Or.inr (by rw [hhandler]; rfl)⟩
  | invalidJson _ hhandler =>
      exact Or.inl ⟨rfl, Or.inr (by rw [hhandler]; rfl)⟩
  | reply hhandler _ =>
      exact Or.inl ⟨rfl, Or.inr (by rw [hhandler]; rfl)⟩
  | status hhandler _ =>
      exact Or.inl ⟨rfl, Or.inr (by rw [hhandler]; rfl)⟩
  | pollNothing hhandler _ _ =>
      exact Or.inl ⟨rfl, Or.inr (by rw [hhandler]; rfl)⟩
  | pollStart _ _ _ _ =>
      refine Or.inr (Or.inl ⟨?_, _, rfl⟩)
      intro c' out hcurrent
      cases hcurrent
      rfl
  | next hlimit hcurrent _ _ =>
      refine Or.inr (Or.inl ⟨?_, _, hlimit⟩)
      intro c' out hcurrent'
      simp only [Batches.took, hcurrent, Option.map_some, Option.some.injEq, Prod.mk.injEq]
        at hcurrent'
      exact hcurrent'.1.symm
  | pollEnd _ _ _ =>
      exact Or.inr (Or.inr rfl)
  | diagnose hhandler _ =>
      exact Or.inl ⟨rfl, Or.inr (by rw [hhandler]; rfl)⟩
  | engineDone _ hhandler =>
      exact Or.inl ⟨rfl, Or.inr (by rw [hhandler]; rfl)⟩
  | readNothing hhandler _ =>
      exact Or.inl ⟨rfl, Or.inr (by rw [hhandler]; rfl)⟩
  | readStart _ _ _ =>
      refine Or.inr (Or.inl ⟨?_, _, rfl⟩)
      intro c' out hcurrent
      cases hcurrent
      rfl
  | readEnd _ _ _ =>
      exact Or.inr (Or.inr rfl)
  | record hhandler =>
      exact Or.inl ⟨rfl, Or.inr (by rw [hhandler]; rfl)⟩
  | encode hhandler =>
      exact Or.inl ⟨rfl, Or.inr (by rw [hhandler]; rfl)⟩
  | encodeError hhandler =>
      exact Or.inl ⟨rfl, Or.inr (by rw [hhandler]; rfl)⟩

theorem HolderReads.step (h : HolderReads b) (hstep : Step setup b b') : HolderReads b' := by
  cases hstep with
  | core _ _ =>
      exact h
  | accept =>
      intro c out hcurrent
      rcases h c out hcurrent with ⟨conn, limit, hconn, hlimit⟩
      refine ⟨conn, limit, ?_, hlimit⟩
      rw [List.getElem?_append_left (Pool.lt_of_get hconn)]
      exact hconn
  | @serve c conn conn' shared hconn hserves =>
      intro c' out hcurrent
      have hself : (b.connections.set c conn')[c]? = some conn' :=
        List.getElem?_set_self (Pool.lt_of_get hconn)
      rcases hserves.mutex with ⟨hsame, hlimit⟩ | ⟨howner, limit, hlimit⟩ | hnone
      · -- whoever has the mutex has it still; if it is this goroutine, it polls on
        change shared.batches.current = _ at hcurrent
        rw [hsame] at hcurrent
        rcases h c' out hcurrent with ⟨conn'', limit, hconn'', hlimit''⟩
        by_cases hne : c = c'
        · subst hne
          rw [hconn] at hconn''
          cases hconn''
          rcases hlimit with hlimit | hlimit
          · exact ⟨conn', limit, hself, hlimit.trans hlimit''⟩
          · rw [hlimit] at hlimit''
            cases hlimit''
        · refine ⟨conn'', limit, ?_, hlimit''⟩
          rw [List.getElem?_set_ne hne]
          exact hconn''
      · rcases howner c' out hcurrent with rfl
        exact ⟨conn', limit, hself, hlimit⟩
      · change shared.batches.current = _ at hcurrent
        rw [hnone] at hcurrent
        cases hcurrent

theorem holderReads (h : Reachable setup b) : HolderReads b := by
  refine Runs.invariant (fun _ _ hb hstep => hb.step hstep) ?_ h
  intro c out hcurrent
  cases hcurrent

theorem Ends.serves {limit : Nat} {out : List FlyDpiRuntimeEvent} {core : Core.World}
    (hlimit : conn.handler.limit = some limit) (hcurrent : s.batches.current = some (c, out))
    (hends : Ends s limit out core) : ∃ shared conn', Serves setup c s conn shared conn' := by
  cases hhandler : conn.handler with
  | polling request limit' =>
      rw [hhandler] at hlimit
      cases hlimit
      exact ⟨_, _, .pollEnd hhandler hcurrent hends⟩
  | reading request report =>
      rw [hhandler] at hlimit
      cases hlimit
      exact ⟨_, _, .readEnd hhandler hcurrent hends⟩
  | _ =>
      rw [hhandler] at hlimit
      cases hlimit

/-- In `PollBatch` there is always a next step. -/
theorem Connection.Faithful.reads (h : conn.Faithful setup s c) {limit : Nat}
    (hlimit : conn.handler.limit = some limit) :
    ∃ shared conn', Serves setup c s conn shared conn' := by
  rcases h.holds limit hlimit with ⟨out, hcurrent, _⟩
  -- it polls, or the batch ends: at its limit, or since the ring is empty
  by_cases hmore : out.length < limit
  · cases hpoll : poll s.core.shared.events with
    | mk event ring =>
        cases event with
        | some event =>
            exact ⟨_, _, .next hlimit hcurrent hmore hpoll⟩
        | none =>
            exact Ends.serves hlimit hcurrent (.empty hmore hpoll)
  · exact Ends.serves hlimit hcurrent (.full (not_lt.1 hmore))

/-- `Handle` has a case for every request; only the two that read events may have to wait. -/
theorem dispatches {request : Request} (hhandler : conn.handler = .dispatching request)
    (hfree : s.batches.current = none) : ∃ shared conn', Serves setup c s conn shared conn' := by
  by_cases hversion : request.jsonrpc = lit "2.0"
  · cases hmethod : methodOf request.method with
    | none =>
        exact ⟨_, _, .reply hhandler (.notFound hversion hmethod)⟩
    | some m =>
        have hcalls : request.calls m := ⟨hversion, hmethod⟩
        cases m with
        | statusGet =>
            exact ⟨_, _, .status hhandler hcalls⟩
        | telemetryPoll =>
            by_cases hruntime : setup.runtime = .enabled
            · exact ⟨_, _, .pollStart hhandler hcalls hruntime hfree⟩
            · exact ⟨_, _, .pollNothing hhandler hcalls hruntime⟩
        | diagnosticRun =>
            exact ⟨_, _, .diagnose hhandler hcalls⟩
        | historyList =>
            exact ⟨_, _, .reply hhandler (.history [] hcalls)⟩
        | profileList =>
            exact ⟨_, _, .reply hhandler (.profiles [] hcalls)⟩
        | profileSave =>
            cases hprofile : setup.go.profile request.params with
            | none =>
                exact ⟨_, _, .reply hhandler (.invalidProfile hcalls hprofile)⟩
            | some p =>
                exact ⟨_, _, .reply hhandler (.saveError p [] hcalls hprofile)⟩
  · exact ⟨_, _, .reply hhandler (.invalid hversion)⟩

/-- The goroutine is in `Handle`. -/
def Handler.InHandle : Handler → Prop
  | .decoding => False
  | .answering _ => False
  | .closed _ => False
  | _ => True

def Handler.Closed : Handler → Prop
  | .closed _ => True
  | _ => False

/-- While the mutex is free, every goroutine in `Handle` has a next step. -/
theorem Connection.Faithful.goesOn (h : conn.Faithful setup s c) (hin : conn.handler.InHandle)
    (hfree : s.batches.current = none) : ∃ shared conn', Serves setup c s conn shared conn' := by
  cases hhandler : conn.handler with
  | decoding =>
      rw [hhandler] at hin
      cases hin
  | closed _ =>
      rw [hhandler] at hin
      cases hin
  | answering _ =>
      rw [hhandler] at hin
      cases hin
  | dispatching request =>
      exact dispatches hhandler hfree
  | polling request limit =>
      exact h.reads (by rw [hhandler]; rfl)
  | diagnosing request =>
      exact ⟨_, _, .engineDone unplugged hhandler⟩
  | waiting request report =>
      -- a runtime that is not enabled has no mutex to wait for
      by_cases hruntime : setup.runtime = .enabled
      · exact ⟨_, _, .readStart hhandler hruntime hfree⟩
      · exact ⟨_, _, .readNothing hhandler hruntime⟩
  | reading request report =>
      exact h.reads (by rw [hhandler]; rfl)
  | recording request report batch =>
      exact ⟨_, _, .record hhandler⟩

theorem inHandle_of_limit {handler : Handler} {limit : Nat} (h : handler.limit = some limit) :
    handler.InHandle := by
  cases handler with
  | polling _ _ =>
      trivial
  | reading _ _ =>
      trivial
  | _ =>
      cases h

/-- A step in `Handle` decodes nothing and does not end the goroutine. -/
theorem Serves.inHandle (h : Serves setup c s conn s' conn') (hin : conn.handler.InHandle) :
    conn'.requests = conn.requests ∧ ¬ conn'.handler.Closed := by
  cases h with
  | decode _ hhandler =>
      rw [hhandler] at hin
      cases hin
  | endOfStream hhandler =>
      rw [hhandler] at hin
      cases hin
  | invalidJson _ hhandler =>
      rw [hhandler] at hin
      cases hin
  | encode hhandler =>
      rw [hhandler] at hin
      cases hin
  | encodeError hhandler =>
      rw [hhandler] at hin
      cases hin
  | @next limit _ _ _ hlimit _ _ _ =>
      -- the handler stays what it was, which is not closed since it polls
      refine ⟨rfl, fun hclosed => ?_⟩
      cases hhandler : conn.handler with
      | closed _ =>
          rw [hhandler] at hlimit
          cases hlimit
      | _ =>
          rw [hhandler] at hclosed
          cases hclosed
  | _ =>
      exact ⟨rfl, fun hclosed => hclosed⟩

/-! ## The other ends of the connections -/

inductive Conduct
  /-- It reads what it is answered, and does not close the connection. -/
  | stays
  /-- It may close or reset the connection at any time, or send what is no request. -/
  | leaves
  /-- It may stop reading. -/
  | stalls

/-- The other end of a connection. -/
structure Peer where
  /-- The requests that it has sent. -/
  sent : List Request
  conduct : Conduct

/-- A state of the connection that such a peer allows. -/
structure Peer.Admits (peer : Peer) (conn : Connection) : Prop where
  requests : conn.requests <+: peer.sent
  closed : conn.handler.Closed → peer.conduct ≠ .stays

/-- The goroutine does not wait for its peer. -/
def Peer.Obliges (peer : Peer) (conn : Connection) : Prop :=
  match conn.handler with
  | .decoding => conn.requests ≠ peer.sent
  | .answering _ => peer.conduct ≠ .stalls
  | .closed _ => False
  | _ => True

/-- The peer has all its answers, in order; or it is not one that stays, and the connection was closed
before, perhaps with an answer that could not be written; or it does not read, and one answer waits
for it. -/
inductive Peer.Served (peer : Peer) (conn : Connection) : Prop
  | all : conn.handler = .decoding → conn.answers.map Answer.request = peer.sent →
      Peer.Served peer conn
  | left (lost : Option Answer) : peer.conduct ≠ .stays → conn.handler = .closed lost →
      conn.answers.map Answer.request ++ (lost.map Answer.request).toList = conn.requests →
      Peer.Served peer conn
  | stalled (answer : Answer) : peer.conduct = .stalls → conn.handler = .answering answer →
      conn.answers.map Answer.request ++ [answer.request] = conn.requests → Peer.Served peer conn

variable {peers : Nat → Peer} {peer : Peer}

theorem obliges_of_inHandle (hin : conn.handler.InHandle) : peer.Obliges conn := by
  rw [Peer.Obliges]
  cases hhandler : conn.handler with
  | decoding =>
      rw [hhandler] at hin
      cases hin
  | answering _ =>
      rw [hhandler] at hin
      cases hin
  | closed _ =>
      rw [hhandler] at hin
      cases hin
  | _ =>
      trivial

/-- What is left to do for the requests of a connection. -/
def Peer.remaining (peer : Peer) (s : Shared) (conn : Connection) : Nat :=
  135 * (peer.sent.length - conn.requests.length) + work s conn.handler

theorem Serves.remaining_lt (h : Serves setup c s conn s' conn') (hadmits : peer.Admits conn') :
    peer.remaining s' conn' < peer.remaining s conn := by
  have hwork := h.work_lt
  -- what is decoded has been sent, so it is paid for once
  have hle := hadmits.requests.length_le
  have hgrows : conn.requests.length ≤ conn'.requests.length := by
    cases h with
    | decode _ _ =>
        exact (List.prefix_append _ _).length_le
    | _ =>
        exact Nat.le_refl _
  rw [Peer.remaining, Peer.remaining]
  omega

theorem Peer.remaining_spared (peer : Peer) (h : conn.Faithful setup s c)
    (hspares : Spares c s s') : peer.remaining s' conn = peer.remaining s conn :=
  congrArg (135 * (peer.sent.length - conn.requests.length) + ·) (work_spared h hspares)

theorem Connection.Faithful.served (h : conn.Faithful setup s c) (hadmits : peer.Admits conn)
    (hnot : ¬ peer.Obliges conn) : peer.Served conn := by
  have hrequests := h.requests
  rw [Peer.Obliges] at hnot
  cases hhandler : conn.handler with
  | decoding =>
      rw [hhandler] at hnot hrequests
      rw [Handler.request, Option.toList_none, List.append_nil] at hrequests
      exact .all hhandler (hrequests.symm.trans (not_not.1 hnot))
  | closed lost =>
      rw [hhandler] at hrequests
      exact .left lost (hadmits.closed (by rw [hhandler]; trivial)) hhandler hrequests.symm
  | answering answer =>
      rw [hhandler] at hnot hrequests
      exact .stalled answer (not_not.1 hnot) hhandler hrequests.symm
  | _ =>
      rw [hhandler] at hnot
      exact absurd trivial hnot

/-! ## Every request is answered -/

inductive CoreStep (b : Backend) : Backend → Prop
  | mk {action : Core.Action} {core : Core.World} : Internal action →
      Core.World.Step b.shared.core action core →
      CoreStep b { b with shared := { b.shared with core := core } }

/-- Every connection is one that its peer allows. -/
def Admitted (peers : Nat → Peer) (b : Backend) : Prop :=
  ∀ (c : Nat) (conn : Connection), b.connections[c]? = some conn → (peers c).Admits conn

/-- The native side and the worker run for a while, then a goroutine takes a step. -/
inductive Round (setup : Setup) (peers : Nat → Peer) (b : Backend) : Backend → Prop
  | mk {mid : Backend} {c : Nat} {conn conn' : Connection} {shared : Shared} :
      Relation.ReflTransGen CoreStep b mid → mid.connections[c]? = some conn →
      Serves setup c mid.shared conn shared conn' → (peers c).Admits conn' →
      Round setup peers b
        { shared := shared
          connections := mid.connections.set c conn' }

/-- A goroutine that does not wait for its peer can take a step. -/
inductive Due (setup : Setup) (peers : Nat → Peer) (b : Backend) : Prop
  | mk {c : Nat} {conn conn' : Connection} {shared : Shared} : b.connections[c]? = some conn →
      (peers c).Obliges conn → Serves setup c b.shared conn shared conn' →
      (peers c).Admits conn' → Due setup peers b

theorem Due.round (h : Due setup peers b) : ∃ b', Round setup peers b b' := by
  cases h with
  | mk hconn _ hserves hadmits =>
      exact ⟨_, .mk Relation.ReflTransGen.refl hconn hserves hadmits⟩

def remaining (peers : Nat → Peer) (b : Backend) : Nat :=
  Pool.weight (fun c conn => (peers c).remaining b.shared conn) b.connections

theorem coreSteps_spec (peers : Nat → Peer) {mid : Backend}
    (h : Relation.ReflTransGen CoreStep b mid) (hb : Reachable setup b) :
    Reachable setup mid ∧ mid.connections = b.connections ∧
      remaining peers mid = remaining peers b := by
  induction h with
  | refl =>
      exact ⟨hb, rfl, rfl⟩
  | tail _ hnext ih =>
      rcases ih with ⟨hreachable, hconnections, hremaining⟩
      cases hnext with
      | mk haction hcore =>
          exact ⟨hreachable.tail (.core haction hcore), hconnections, hremaining⟩

theorem Round.reachable (h : Round setup peers b b') (hb : Reachable setup b) :
    Reachable setup b' := by
  cases h with
  | mk hcore hconn hserves _ =>
      exact (coreSteps_spec peers hcore hb).1.tail (.serve hconn hserves)

theorem Round.admitted (h : Round setup peers b b') (hb : Reachable setup b)
    (hpeers : Admitted peers b) : Admitted peers b' := by
  cases h with
  | mk hcore hconn _ hadmits =>
      intro c' conn'' hconn''
      rcases Pool.get_set hconn'' with ⟨rfl, rfl⟩ | ⟨_, hother⟩
      · exact hadmits
      · rw [(coreSteps_spec peers hcore hb).2.1] at hother
        exact hpeers c' conn'' hother

/-- A round brings the backend nearer to having answered everything. -/
theorem Round.remaining_lt (h : Round setup peers b b') (hb : Reachable setup b) :
    remaining peers b' < remaining peers b := by
  cases h with
  | @mk mid c conn conn' shared hcore hconn hserves hadmits =>
      rcases coreSteps_spec peers hcore hb with ⟨hmid, _, hremaining⟩
      rw [← hremaining]
      -- the other goroutines do not get more to do
      refine Pool.weight_set_lt hconn (hserves.remaining_lt hadmits) ?_
      intro c' conn'' hne hconn''
      exact (peers c').remaining_spared ((reachable_inv hmid).connections c' conn'' hconn'')
        (hserves.spares hne)

theorem due_of_inHandle (hpeers : Admitted peers b) (hconn : b.connections[c]? = some conn)
    (hin : conn.handler.InHandle) (h : ∃ shared conn', Serves setup c b.shared conn shared conn') :
    Due setup peers b := by
  rcases h with ⟨shared, conn', hserves⟩
  have hadmits := hpeers c conn hconn
  rcases hserves.inHandle hin with ⟨hrequests, hopen⟩
  have hadmits' : (peers c).Admits conn' :=
    { requests := by
        rw [hrequests]
        exact hadmits.requests
      closed := fun hclosed => absurd hclosed hopen }
  exact .mk hconn (obliges_of_inHandle hin) hserves hadmits'

/-- While the mutex is held, whoever has it goes on. -/
theorem mutex_free (hb : Reachable setup b) (hpeers : Admitted peers b)
    (hnot : ¬ Due setup peers b) : b.shared.batches.current = none := by
  cases hcurrent : b.shared.batches.current with
  | none =>
      rfl
  | some batch =>
      rcases holderReads hb batch.1 batch.2 hcurrent with ⟨holder, limit, hholder, hlimit⟩
      have hfaithful := (reachable_inv hb).connections batch.1 holder hholder
      exact absurd (due_of_inHandle hpeers hholder (inHandle_of_limit hlimit) (hfaithful.reads hlimit))
        hnot

/-- Where nothing is due, every goroutine waits for its peer. -/
theorem not_obliges (hb : Reachable setup b) (hpeers : Admitted peers b)
    (hnot : ¬ Due setup peers b) (hconn : b.connections[c]? = some conn) :
    ¬ (peers c).Obliges conn := by
  intro hobliges
  have hfree := mutex_free hb hpeers hnot
  have hfaithful := (reachable_inv hb).connections c conn hconn
  have hadmits := hpeers c conn hconn
  cases hhandler : conn.handler with
  | decoding =>
      -- the peer has sent another request
      rcases hadmits.requests with ⟨more, hmore⟩
      cases more with
      | nil =>
          rw [Peer.Obliges, hhandler] at hobliges
          exact hobliges (by rw [← hmore, List.append_nil])
      | cons request more =>
          refine hnot (.mk hconn hobliges (.decode request hhandler) ?_)
          exact
            { requests := ⟨more, by rw [← hmore]; simp⟩
              closed := fun hclosed => hclosed.elim }
  | answering answer =>
      -- the peer reads, so the answer can be written
      refine hnot (.mk hconn hobliges (.encode hhandler) ?_)
      exact
        { requests := hadmits.requests
          closed := fun hclosed => hclosed.elim }
  | closed _ =>
      rw [Peer.Obliges, hhandler] at hobliges
      exact hobliges
  | _ =>
      -- in `Handle` only the mutex can keep a goroutine, and it is free
      have hin : conn.handler.InHandle := by
        rw [hhandler]
        trivial
      exact hnot (due_of_inHandle hpeers hconn hin (hfaithful.goesOn hin hfree))

/-- From every reachable state, whatever its peers have sent, however the goroutines are scheduled and
whatever the native side and the worker do between their steps: when nothing more is sent, the backend
comes to rest.  Then nobody has the mutex, and every peer that reads and stays has all its answers; the
others do not keep it waiting. -/
theorem every_request_answered {r : Nat → Backend} (hstart : Reachable setup (r 0))
    (hpeers : Admitted peers (r 0)) (hr : Runs.Driven (Round setup peers) (Due setup peers) r) :
    ∃ i, (∀ j, i ≤ j → r j = r i) ∧ (r i).shared.batches.current = none ∧
      ∀ (c : Nat) (conn : Connection), (r i).connections[c]? = some conn →
        (peers c).Served conn := by
  have hinv : ∀ i, Reachable setup (r i) ∧ Admitted peers (r i) := by
    refine hr.invariant (I := fun b => Reachable setup b ∧ Admitted peers b) ?_ ⟨hstart, hpeers⟩
    intro b b' hb hround
    exact ⟨hround.reachable hb.1, hround.admitted hb.1 hb.2⟩
  have hless : ∀ i, Round setup peers (r i) (r (i + 1)) →
      remaining peers (r (i + 1)) < remaining peers (r i) :=
    fun i hround => hround.remaining_lt (hinv i).1
  -- it settles where no goroutine can go on without its peer
  rcases hr.settles Nat.lt_wfRel.wf hless with ⟨i, hnot, hrest⟩
  rcases hinv i with ⟨hreachable, hadmitted⟩
  refine ⟨i, hrest, mutex_free hreachable hadmitted hnot, fun c conn hconn => ?_⟩
  exact ((reachable_inv hreachable).connections c conn hconn).served (hadmitted c conn hconn)
    (not_obliges hreachable hadmitted hnot hconn)

/-- The first peer reads, the other one may not. -/
def readerAndStaller : Nat → Peer
  | 0 => { sent := [runDiagnosis, runDiagnosis], conduct := .stays }
  | _ => { sent := [pollOne], conduct := .stalls }

theorem diagnosis_answered : ∃ r : Nat → Backend,
    (∃ conn, (r 0).connections = [conn, Connection.new] ∧
      conn.handler = .diagnosing runDiagnosis) ∧
    ∃ i, (∀ j, i ≤ j → r j = r i) ∧ (r i).shared.batches.current = none ∧
      ∀ (c : Nat) (conn : Connection), (r i).connections[c]? = some conn →
        (readerAndStaller c).Served conn := by
  rcases exists_diagnosed with ⟨b, conn, _, hreachable, hconn, hrequests, _, hhandler⟩
  rcases Runs.exists_maximal (Round liveSetup readerAndStaller)
    { b with connections := b.connections ++ [Connection.new] } with ⟨r, hr, hfirst⟩
  have hconns : (r 0).connections = [conn, Connection.new] := by
    rw [hfirst, hconn]
    rfl
  have hstart : Reachable liveSetup (r 0) := by
    rw [hfirst]
    exact hreachable.tail .accept
  refine ⟨r, ⟨conn, hconns, hhandler⟩, every_request_answered hstart ?_ (hr.driven fun _ => Due.round)⟩
  intro c conn' hconn'
  rw [hconns] at hconn'
  match c, hconn' with
  | 0, rfl =>
      exact
        { requests := by
            rw [hrequests]
            exact List.prefix_refl _
          closed := by
            intro hclosed
            rw [hhandler] at hclosed
            cases hclosed }
  | 1, rfl =>
      exact
        { requests := List.nil_prefix
          closed := fun hclosed => hclosed.elim }

end Backend
end Orchestrator
end FlyDpi
