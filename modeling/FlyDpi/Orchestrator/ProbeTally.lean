import FlyDpi.Orchestrator.Diagnostic

/-!
# ProbeTally — what the loop over the probe results computes

The loop counts two kinds of failures, collects two symptoms and appends one entry for each result.
All of it is said at once by `foldl_step`; the results themselves come from the two answers of the
network that `runOne` looks at.
-/

namespace FlyDpi
namespace Orchestrator

open Lib

/-! ## Outcomes of one probe -/

namespace Probe

namespace Result

/-- Counted by `failTCP`. -/
def failsTCP (r : Result) : Bool := !r.tcpConnected

/-- Counted by `failTLS`. -/
def failsTLS (r : Result) : Bool := r.tcpConnected && !r.tlsHandshake

end Result

variable {net : Network} {cfg : Config} {target : Bytes}

/-- The dial of `runOne`. -/
def dialOf (net : Network) (cfg : Config) (target : Bytes) : Except Bytes Int :=
  net.dial cfg.timeout (joinHostPort target (orElse cfg.port (lit "443")))

/-- The handshake of `runOne`. -/
def handshakeOf (net : Network) (cfg : Config) (target : Bytes) : Option Bytes :=
  net.handshake cfg.timeout (orElse cfg.serverName target)

theorem runOne_of_dial_error {err : Bytes} (h : dialOf net cfg target = .error err) :
    runOne net cfg target = { Result.zero with target := target, error := err } := by
  unfold dialOf at h
  simp only [runOne, h]

theorem runOne_of_handshake_error {latency : Int} {err : Bytes}
    (h : dialOf net cfg target = .ok latency) (herr : handshakeOf net cfg target = some err) :
    runOne net cfg target =
      { target := target
        tcpConnected := true
        tlsHandshake := false
        latency := latency
        error := lit "tls handshake: " ++ err } := by
  unfold dialOf at h
  unfold handshakeOf at herr
  simp only [runOne, h, herr]
  rfl

theorem runOne_of_success {latency : Int} (h : dialOf net cfg target = .ok latency)
    (hnone : handshakeOf net cfg target = none) :
    runOne net cfg target =
      { target := target
        tcpConnected := true
        tlsHandshake := true
        latency := latency
        error := [] } := by
  unfold dialOf at h
  unfold handshakeOf at hnone
  simp only [runOne, h, hnone]
  rfl

/-- A probe ends in one of three ways. -/
theorem runOne_cases (net : Network) (cfg : Config) (target : Bytes) :
    (∃ err, dialOf net cfg target = .error err ∧
      runOne net cfg target = { Result.zero with target := target, error := err }) ∨
    (∃ latency err, dialOf net cfg target = .ok latency ∧
      handshakeOf net cfg target = some err ∧
      runOne net cfg target =
        { target := target
          tcpConnected := true
          tlsHandshake := false
          latency := latency
          error := lit "tls handshake: " ++ err }) ∨
    ∃ latency, dialOf net cfg target = .ok latency ∧ handshakeOf net cfg target = none ∧
      runOne net cfg target =
        { target := target
          tcpConnected := true
          tlsHandshake := true
          latency := latency
          error := [] } := by
  cases hdial : dialOf net cfg target with
  | error err =>
      exact Or.inl ⟨err, rfl, runOne_of_dial_error hdial⟩
  | ok latency =>
      cases hshake : handshakeOf net cfg target with
      | some err =>
          exact Or.inr (Or.inl ⟨latency, err, rfl, rfl, runOne_of_handshake_error hdial hshake⟩)
      | none =>
          exact Or.inr (Or.inr ⟨latency, rfl, rfl, runOne_of_success hdial hshake⟩)

theorem tcpConnected_runOne :
    (runOne net cfg target).tcpConnected = (dialOf net cfg target).isOk := by
  rcases runOne_cases net cfg target with
    ⟨_, hdial, hrun⟩ | ⟨_, _, hdial, _, hrun⟩ | ⟨_, hdial, _, hrun⟩
  · rw [hrun, hdial]
    rfl
  · rw [hrun, hdial]
    rfl
  · rw [hrun, hdial]
    rfl

/-- A handshake needs a connection. -/
theorem tcpConnected_of_tlsHandshake (h : (runOne net cfg target).tlsHandshake = true) :
    (runOne net cfg target).tcpConnected = true := by
  rcases runOne_cases net cfg target with ⟨_, _, hrun⟩ | ⟨_, _, _, _, hrun⟩ | ⟨_, _, _, hrun⟩
  · rw [hrun] at h
    cases h
  · rw [hrun]
  · rw [hrun]

end Probe

/-! ## The loop -/

namespace Diagnostic

/-- The entry that the loop appends for a result. -/
def DnsState.targetResult (dns : DnsState) (r : Probe.Result) : TargetResult :=
  let dnsOK := decide ((dns.dnsMap.lookup r.target).getD [] ≠ [])
  { target := r.target
    dnsOK := dnsOK
    dnsMismatch := dns.dnsStageFailed && dnsOK
    tcpConnected := r.tcpConnected
    tlsHandshake := r.tlsHandshake
    latency := r.latency
    errorClass :=
      if r.failsTCP then classifyError r.error
      else if r.failsTLS then "tls_failure"
      else ""
    error := if r.failsTCP || r.failsTLS then r.error else [] }

/-- What a list of results adds to the counters, the features and the entries. -/
def Tally.add (dns : DnsState) (t : Tally) (results : List Probe.Result) : Tally :=
  { failTCP := t.failTCP + results.countP Probe.Result.failsTCP
    failTLS := t.failTLS + results.countP Probe.Result.failsTLS
    features :=
      { t.features with
        timeoutDetected :=
          t.features.timeoutDetected ||
            results.any fun r => r.failsTCP && looksLikeTimeout r.error
        rstDetected :=
          t.features.rstDetected ||
            results.any fun r => r.failsTCP && classifyError r.error == "connection_reset" }
    probeResults := t.probeResults ++ results.map dns.targetResult }

theorem step_eq_add (dns : DnsState) (t : Tally) (r : Probe.Result) :
    Tally.step dns t r = t.add dns [r] := by
  unfold Tally.step Tally.add
  cases htcp : r.tcpConnected <;> cases htls : r.tlsHandshake <;>
    simp [Probe.Result.failsTCP, Probe.Result.failsTLS, DnsState.targetResult, htcp, htls]

theorem add_append (dns : DnsState) (t : Tally) (results results' : List Probe.Result) :
    (t.add dns results).add dns results' = t.add dns (results ++ results') := by
  simp [Tally.add, List.countP_append, Bool.or_assoc, Nat.add_assoc]

theorem foldl_step (dns : DnsState) (results : List Probe.Result) (t : Tally) :
    results.foldl (Tally.step dns) t = t.add dns results := by
  induction results generalizing t with
  | nil =>
      simp [Tally.add]
  | cons r results ih =>
      rw [List.foldl_cons, ih, step_eq_add, add_append, List.singleton_append]

namespace Engine

variable (e : Engine) (env : Environment)

/-- The settings of every probe of the engine. -/
def probeConfig : Probe.Config :=
  Probe.Engine.sequential
    { targets := e.cfg.targets
      port := e.cfg.port
      timeout := e.cfg.timeout
      concurrency := e.cfg.concurrency }

/-- How the dial of the `i`-th target ends. -/
def dial (i : Nat) (target : Bytes) : Except Bytes Int :=
  Probe.dialOf (env.nets i) e.probeConfig target

/-- How the handshake of the `i`-th target ends, if its dial succeeds. -/
def handshake (i : Nat) (target : Bytes) : Option Bytes :=
  Probe.handshakeOf (env.nets i) e.probeConfig target

/-- There is one result for each target. -/
theorem getElem?_probe (i : Nat) :
    (e.probe env)[i]? =
      e.cfg.targets[i]?.map (Probe.runOne (env.nets i) e.probeConfig) :=
  Probe.getElem?_run env.nets e.probeConfig i

theorem mem_probe_iff {e : Engine} {env : Environment} {r : Probe.Result} :
    r ∈ e.probe env ↔
      ∃ i target, e.cfg.targets[i]? = some target ∧
        r = Probe.runOne (env.nets i) e.probeConfig target := by
  rw [List.mem_iff_getElem?]
  constructor
  · rintro ⟨i, hi⟩
    rw [getElem?_probe] at hi
    rcases Option.map_eq_some_iff.1 hi with ⟨target, htarget, rfl⟩
    exact ⟨i, target, htarget, rfl⟩
  · rintro ⟨i, target, htarget, rfl⟩
    refine ⟨i, ?_⟩
    rw [getElem?_probe, htarget]
    rfl

theorem tally_eq (dns : DnsState) :
    e.tally env dns =
      { failTCP := (e.probe env).countP Probe.Result.failsTCP
        failTLS := (e.probe env).countP Probe.Result.failsTLS
        features :=
          { rstDetected := (e.probe env).any fun r =>
              r.failsTCP && classifyError r.error == "connection_reset"
            poisoningDetected := dns.dnsStageFailed
            timeoutDetected := (e.probe env).any fun r => r.failsTCP && looksLikeTimeout r.error
            fragWorks := false
            sniSpoofWorks := false }
        probeResults := (e.probe env).map dns.targetResult } := by
  rw [tally, foldl_step]
  simp [Tally.add]

end Engine

end Diagnostic
end Orchestrator
end FlyDpi
