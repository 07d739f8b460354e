import FlyDpi.Orchestrator.DnsAttribution
import FlyDpi.Orchestrator.ProbeTally

/-!
# DiagnosticStages — the stages of a report and the results behind them

The headline is computed from the entries of the report, the stages from the counters of the loop,
and both agree.  The TLS stage subtracts the failed handshakes from all targets, so it counts a
target that was never connected as a success.
-/

namespace FlyDpi
namespace Orchestrator
namespace Diagnostic

open Lib

theorem stageForFailures_passed_iff {failures total : Nat} (h : failures ≤ total) :
    stageForFailures failures total = .passed ↔ failures = 0 := by
  unfold stageForFailures
  split
  · rename_i hzero
    simp only [true_iff]
    omega
  · rename_i hpos
    simp only [reduceCtorEq, false_iff]
    omega

theorem stageForFailures_failed_iff {failures total : Nat} (h : failures ≤ total) :
    stageForFailures failures total = .failed ↔ 0 < failures := by
  unfold stageForFailures
  split
  · rename_i hzero
    simp only [reduceCtorEq, false_iff]
    omega
  · rename_i hpos
    simp only [true_iff]
    omega

theorem dnsStage_passed_iff {failed : Bool} : (dnsStage failed).status = .passed ↔ failed = false := by
  cases failed <;> simp [dnsStage, finishedStage]

/-! ## The report by the probe results -/

section Report

variable (e : Engine) (env : Environment)

theorem dns_status_run :
    (e.run env).stages.dns.status = .passed ↔ (dnsLoop env e.cfg.targets).dnsStageFailed = false :=
  dnsStage_passed_iff

theorem tcp_status_run :
    (e.run env).stages.tcp.status =
      stageForFailures ((e.probe env).countP Probe.Result.failsTCP) (e.probe env).length := by
  change stageForFailures (e.tally env _).failTCP _ = _
  rw [Engine.tally_eq]

theorem tls_status_run :
    (e.run env).stages.tls.status =
      stageForFailures ((e.probe env).countP Probe.Result.failsTLS) (e.probe env).length := by
  change stageForFailures (e.tally env _).failTLS _ = _
  rw [Engine.tally_eq]

/-- The text of the TLS stage for a number of successes. -/
def tlsSummary (succeeded total : Nat) : String :=
  s!"TLS: {succeeded} из {total} успешно"

theorem tls_summary_run :
    (e.run env).stages.tls.summary =
      tlsSummary ((e.probe env).length - (e.probe env).countP Probe.Result.failsTLS)
        (e.probe env).length := by
  change tlsSummary (_ - (e.tally env _).failTLS) _ = _
  rw [Engine.tally_eq]

theorem probeResults_run :
    (e.run env).probeResults = (e.probe env).map (dnsLoop env e.cfg.targets).targetResult := by
  change (e.tally env _).probeResults = _
  rw [Engine.tally_eq]

/-! ## The headline -/

/-- The count of `summarize` over the entries is that of the loop over the results. -/
theorem countP_entries_tcp (dns : DnsState) (results : List Probe.Result) :
    (results.map dns.targetResult).countP (fun x => !x.tcpConnected) =
      results.countP Probe.Result.failsTCP := by
  rw [List.countP_map]
  rfl

theorem countP_entries_tls (dns : DnsState) (results : List Probe.Result) :
    (results.map dns.targetResult).countP (fun x => x.tcpConnected && !x.tlsHandshake) =
      results.countP Probe.Result.failsTLS := by
  rw [List.countP_map]
  rfl

theorem summarize_ok_iff {features : Features} {probeResults : List TargetResult} :
    (summarize features probeResults).1 = .ok ↔
      features.poisoningDetected = false ∧
      probeResults.countP (fun x => !x.tcpConnected) = 0 ∧
      probeResults.countP (fun x => x.tcpConnected && !x.tlsHandshake) = 0 := by
  unfold summarize
  dsimp only
  split
  · rename_i hpoisoning
    simp [hpoisoning]
  · rename_i hpoisoning
    rw [Bool.not_eq_true] at hpoisoning
    split
    · rename_i hnone
      simp only [hpoisoning, hnone, and_self]
    · rename_i hsome
      -- the two remaining headlines are warnings
      split
      · simp only [reduceCtorEq, hpoisoning, true_and, false_iff]
        exact hsome
      · simp only [reduceCtorEq, hpoisoning, true_and, false_iff]
        exact hsome

theorem severity_run :
    (e.run env).severity = .ok ↔
      (dnsLoop env e.cfg.targets).dnsStageFailed = false ∧
      (e.probe env).countP Probe.Result.failsTCP = 0 ∧
      (e.probe env).countP Probe.Result.failsTLS = 0 := by
  change (summarize (e.tally env _).features (e.tally env _).probeResults).1 = .ok ↔ _
  rw [summarize_ok_iff, Engine.tally_eq, countP_entries_tcp, countP_entries_tls]

/-- The severity is ok exactly when the stages have passed; a stage has failed exactly when the
entries hold a failure of its kind; and there is one entry for each target. -/
theorem headline_agrees_with_stages :
    ((e.run env).severity = .ok ↔
      (e.run env).stages.dns.status = .passed ∧ (e.run env).stages.tcp.status = .passed ∧
        (e.run env).stages.tls.status = .passed) ∧
    ((e.run env).stages.tcp.status = .failed ↔
      0 < (e.run env).probeResults.countP fun x => !x.tcpConnected) ∧
    ((e.run env).stages.tls.status = .failed ↔
      0 < (e.run env).probeResults.countP fun x => x.tcpConnected && !x.tlsHandshake) ∧
    (e.run env).probeResults.map TargetResult.target = e.cfg.targets := by
  have htcp : (e.probe env).countP Probe.Result.failsTCP ≤ (e.probe env).length :=
    List.countP_le_length
  have htls : (e.probe env).countP Probe.Result.failsTLS ≤ (e.probe env).length :=
    List.countP_le_length
  refine ⟨?_, ?_, ?_, ?_⟩
  · rw [severity_run, dns_status_run, tcp_status_run, tls_status_run,
      stageForFailures_passed_iff htcp, stageForFailures_passed_iff htls]
  · rw [tcp_status_run, stageForFailures_failed_iff htcp, probeResults_run, countP_entries_tcp]
  · rw [tls_status_run, stageForFailures_failed_iff htls, probeResults_run, countP_entries_tls]
  · calc
      (e.run env).probeResults.map TargetResult.target =
          (e.probe env).map Probe.Result.target := by
            rw [probeResults_run, List.map_map]
            rfl
      _ = e.cfg.targets := targets_probe e env

/-! ## The TLS stage -/

/-- The TLS stage tells how many results completed the handshake, and passes if all of them did. -/
structure TlsStageTruthful : Prop where
  status : (e.run env).stages.tls.status = .passed ↔
    ∀ r ∈ e.probe env, r.tlsHandshake = true
  summary : (e.run env).stages.tls.summary =
    tlsSummary ((e.probe env).countP Probe.Result.tlsHandshake) (e.probe env).length

end Report

/-- The text determines the number of successes. -/
theorem tlsSummary_inj {m n total : Nat} : tlsSummary m total = tlsSummary n total ↔ m = n := by
  constructor
  · intro h
    have hrepr : m.repr = n.repr := by
      simpa [tlsSummary, String.append_left_inj, String.append_right_inj] using h
    have hdigits : Nat.toDigits 10 m = Nat.toDigits 10 n := by
      rw [← Nat.toList_repr, hrepr, Nat.toList_repr]
    rw [← @Nat.ofDigitChars_ten_toDigits m, hdigits, Nat.ofDigitChars_ten_toDigits]
  · rintro rfl
    rfl

/-- Every probe fails to connect, fails the handshake or completes it. -/
theorem countP_outcomes (e : Engine) (env : Environment) :
    (e.probe env).countP Probe.Result.failsTCP + (e.probe env).countP Probe.Result.failsTLS +
      (e.probe env).countP Probe.Result.tlsHandshake = (e.probe env).length := by
  have hgen : ∀ results : List Probe.Result,
      (∀ r ∈ results, r.tlsHandshake = true → r.tcpConnected = true) →
      results.countP Probe.Result.failsTCP + results.countP Probe.Result.failsTLS +
        results.countP Probe.Result.tlsHandshake = results.length := by
    intro results
    induction results with
    | nil =>
        intro _
        rfl
    | cons r results ih =>
        intro h
        have hrest := ih fun r' hr' => h r' (List.mem_cons_of_mem _ hr')
        have hr := h r List.mem_cons_self
        simp only [List.countP_cons, List.length_cons]
        -- a result with a handshake and no connection does not occur
        cases htcp : r.tcpConnected <;> cases htls : r.tlsHandshake <;>
          simp_all [Probe.Result.failsTCP, Probe.Result.failsTLS] <;> omega
  refine hgen _ fun r hr h => ?_
  rcases Engine.mem_probe_iff.1 hr with ⟨i, target, _, rfl⟩
  exact Probe.tcpConnected_of_tlsHandshake h

theorem countP_failsTCP_eq_zero_iff (e : Engine) (env : Environment) :
    (e.probe env).countP Probe.Result.failsTCP = 0 ↔
      ∀ i target, e.cfg.targets[i]? = some target → (e.dial env i target).isOk = true := by
  rw [List.countP_eq_zero]
  constructor
  · intro h i target hi
    have hrun := h _ (Engine.mem_probe_iff.2 ⟨i, target, hi, rfl⟩)
    rwa [Probe.Result.failsTCP, Probe.tcpConnected_runOne, Bool.not_eq_true', Bool.not_eq_false]
      at hrun
  · intro h r hr
    rcases Engine.mem_probe_iff.1 hr with ⟨i, target, hi, rfl⟩
    rw [Probe.Result.failsTCP, Probe.tcpConnected_runOne, Bool.not_eq_true', Bool.not_eq_false]
    exact h i target hi

/-- The TLS stage tells the truth exactly when every dial succeeds. -/
theorem tlsStageTruthful_iff (e : Engine) (env : Environment) :
    TlsStageTruthful e env ↔
      ∀ i target, e.cfg.targets[i]? = some target → (e.dial env i target).isOk = true := by
  rw [← countP_failsTCP_eq_zero_iff]
  have hsum := countP_outcomes e env
  have htls : (e.probe env).countP Probe.Result.failsTLS ≤ (e.probe env).length :=
    List.countP_le_length
  constructor
  · intro h
    -- the number in the text exceeds the handshakes by the failed dials
    have hsummary := h.summary
    rw [tls_summary_run, tlsSummary_inj] at hsummary
    omega
  · intro hconnected
    refine ⟨?_, ?_⟩
    · rw [tls_status_run, stageForFailures_passed_iff htls, ← List.countP_eq_length]
      omega
    · rw [tls_summary_run, tlsSummary_inj]
      omega

/-- No dial succeeds, and the stage passes with one success of one. -/
theorem refused_tls_passed :
    ¬ ∀ (e : Engine) (env : Environment), TlsStageTruthful e env := by
  intro h
  have hsummary := (h (newEngine (configFor (lit "example.com"))) (.ofZone plainZone)).summary
  rw [tls_summary_run, tlsSummary_inj] at hsummary
  exact absurd hsummary (by decide)

end Diagnostic
end Orchestrator
end FlyDpi
