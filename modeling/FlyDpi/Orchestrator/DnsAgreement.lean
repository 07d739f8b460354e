import FlyDpi.Orchestrator.ProbeTally

/-!
# DnsAgreement — when the DNS stage compares like with like

The engine asks the system resolver for any address of a host, and the DoH servers for its A records
only.  With the same zone behind all of them, the availability it compares differs exactly for hosts
that have an AAAA record and no A record.
-/

namespace FlyDpi
namespace Orchestrator
namespace Diagnostic

open Lib

/-- An IPv4 address by its four fields. -/
structure Ipv4 where
  a : UInt8
  b : UInt8
  c : UInt8
  d : UInt8

/-- The address records of every host; those of IPv6 by their text. -/
structure Zone where
  a : Bytes → List Ipv4
  aaaa : Bytes → List Bytes

namespace Zone

variable (zone : Zone)

/-- The host has an address at all. -/
def HasAddress (host : Bytes) : Prop := zone.a host ≠ [] ∨ zone.aaaa host ≠ []

instance (host : Bytes) : Decidable (zone.HasAddress host) :=
  inferInstanceAs (Decidable (_ ∨ _))

/-- The records of the asked type, as a DoH server writes them. -/
def answers (host type : Bytes) : List DohAnswer :=
  if type = lit "A" then
    (zone.a host).map fun addr =>
      { type := 1
        data := dottedDecimal addr.a addr.b addr.c addr.d }
  else if type = lit "AAAA" then
    (zone.aaaa host).map fun text =>
      { type := 28
        data := text }
  else
    []

end Zone

/-- All resolvers see the zone, and no lookup fails for any other reason than a missing record. -/
structure Environment.Sees (env : Environment) (zone : Zone) : Prop where
  system : ∀ i host, (env.system i host).isOk ↔ zone.HasAddress host
  doh : ∀ i (request : DohRequest),
    env.doh i request = .ok
      { statusCode := 200
        body := .ok (zone.answers request.name request.type) }

/-! ## One target -/

theorem lookupDoH_of_sees {env : Environment} {zone : Zone} (h : env.Sees zone) (i : Nat)
    (endpoint host : Bytes) :
    lookupDoH (env.doh i) endpoint host =
      .ok ((zone.a host).map fun addr =>
        List.replicate 10 0 ++ [0xff, 0xff, addr.a, addr.b, addr.c, addr.d]) := by
  -- every answer is an A record, and its text parses
  have hanswers : ((zone.answers host (lit "A")).filter fun answer => answer.type = 1).filterMap
      (fun answer => parseIP answer.data) =
        (zone.a host).map fun addr =>
          List.replicate 10 0 ++ [0xff, 0xff, addr.a, addr.b, addr.c, addr.d] := by
    simp [Zone.answers, List.filter_map, Function.comp_def, List.filterMap_map,
      parseIP_dottedDecimal, List.filterMap_eq_map']
  unfold lookupDoH
  rw [h.doh]
  simp [bind, Except.bind, pure, Except.pure, hanswers]

/-- The DoH lookup succeeds exactly for hosts with an A record. -/
theorem lookupAnyDoH_isOk {env : Environment} {zone : Zone} (h : env.Sees zone) (i : Nat)
    (host : Bytes) : (lookupAnyDoH (env.doh i) host).isOk ↔ zone.a host ≠ [] := by
  have hfirst : ∀ endpoints, endpoints ≠ [] →
      ((lookupFirst (env.doh i) host endpoints).isOk ↔ zone.a host ≠ []) := by
    intro endpoints
    induction endpoints with
    | nil =>
        intro hne
        exact absurd rfl hne
    | cons endpoint rest ih =>
        intro _
        rw [lookupFirst, lookupDoH_of_sees h]
        cases hrecords : zone.a host with
        | nil =>
            -- an endpoint without addresses passes the question on
            cases rest with
            | nil =>
                simp [lookupFirst, throw, throwThe, MonadExceptOf.throw, Except.isOk,
                  Except.toBool]
            | cons next rest =>
                rw [hrecords] at ih
                exact ih (by simp)
        | cons addr addrs =>
            simp [Except.isOk, Except.toBool]
  exact hfirst defaultDoHEndpoints (by simp [defaultDoHEndpoints])

/-- The host is reachable by IPv6 only. -/
def Zone.OnlyIPv6 (zone : Zone) (host : Bytes) : Prop := zone.aaaa host ≠ [] ∧ zone.a host = []

theorem isOk_eq_iff_of_sees {env : Environment} {zone : Zone} (h : env.Sees zone) (i : Nat)
    (host : Bytes) :
    (env.system i host).isOk = (lookupAnyDoH (env.doh i) host).isOk ↔ ¬ zone.OnlyIPv6 host := by
  rw [Bool.eq_iff_iff, h.system, lookupAnyDoH_isOk h]
  unfold Zone.HasAddress Zone.OnlyIPv6
  tauto

/-! ## The whole run -/

/-- The DNS stage fails when some target is available to one side only. -/
theorem dnsStageFailed_dnsLoop (env : Environment) (targets : List Bytes) :
    (dnsLoop env targets).dnsStageFailed = targets.zipIdx.any fun entry =>
      (env.system entry.2 entry.1).isOk != (lookupAnyDoH (env.doh entry.2) entry.1).isOk := by
  have hgen : ∀ (entries : List (Bytes × Nat)) (st : DnsState),
      (entries.foldl (DnsState.step env) st).dnsStageFailed =
        (st.dnsStageFailed || entries.any fun entry =>
          (env.system entry.2 entry.1).isOk != (lookupAnyDoH (env.doh entry.2) entry.1).isOk) := by
    intro entries
    induction entries with
    | nil =>
        simp
    | cons entry entries ih =>
        intro st
        rw [List.foldl_cons, ih, List.any_cons, ← Bool.or_assoc]
        rfl
  rw [dnsLoop, hgen]
  rfl

/-- With one zone behind all resolvers, the DNS loop passes the targets that are not reachable by
IPv6 only. -/
theorem dnsLoop_passes_iff {env : Environment} {zone : Zone} (h : env.Sees zone)
    (targets : List Bytes) :
    (dnsLoop env targets).dnsStageFailed = false ↔
      ∀ target ∈ targets, ¬ zone.OnlyIPv6 target := by
  rw [dnsStageFailed_dnsLoop, List.any_eq_false]
  simp only [bne_iff_ne, ne_eq, not_not, isOk_eq_iff_of_sees h]
  constructor
  · intro hall target htarget
    rcases List.getElem_of_mem htarget with ⟨i, hi, rfl⟩
    exact hall (_, i) (List.mem_zipIdx_iff_getElem?.2 (by simp [hi]))
  · intro hall entry hentry
    exact hall entry.1 (List.fst_mem_of_mem_zipIdx hentry)

/-- The probes do not touch the DNS feature. -/
theorem poisoningDetected_tally (e : Engine) (env : Environment) (dns : DnsState) :
    (e.tally env dns).features.poisoningDetected = dns.dnsStageFailed := by
  rw [Engine.tally_eq]

/-- A report without a DNS anomaly. -/
structure DiagnosticReport.NoDnsAnomaly (report : DiagnosticReport) : Prop where
  poisoning : report.features.poisoningDetected = false
  stage : report.stages.dns.status = .passed

theorem noDnsAnomaly_iff_dnsLoop (e : Engine) (env : Environment) :
    (e.run env).NoDnsAnomaly ↔ (dnsLoop env e.cfg.targets).dnsStageFailed = false := by
  constructor
  · intro h
    rw [← poisoningDetected_tally e env]
    exact h.poisoning
  · intro h
    refine ⟨?_, ?_⟩
    · change (e.tally env (dnsLoop env e.cfg.targets)).features.poisoningDetected = false
      rw [poisoningDetected_tally, h]
    · change (dnsStage (dnsLoop env e.cfg.targets).dnsStageFailed).status = .passed
      rw [h]
      rfl

/-- With one zone behind all resolvers, a run reports no DNS anomaly exactly when no target of the
engine is reachable by IPv6 only. -/
theorem noDnsAnomaly_iff (cfg : Config) {env : Environment} {zone : Zone} (h : env.Sees zone) :
    ((newEngine cfg).run env).NoDnsAnomaly ↔
      ∀ target ∈ (newEngine cfg).cfg.targets, ¬ zone.OnlyIPv6 target := by
  rw [noDnsAnomaly_iff_dnsLoop, dnsLoop_passes_iff h]

/-- Resolvers that look everything up in the zone; no target accepts connections. -/
def Environment.ofZone (zone : Zone) : Environment :=
  { system := fun _ host =>
      if zone.HasAddress host then
        .ok (((zone.a host).map fun addr => [addr.a, addr.b, addr.c, addr.d]) ++
          (zone.aaaa host).filterMap parseIP)
      else
        .error (lit "no such host")
    doh := fun _ request =>
      .ok
        { statusCode := 200
          body := .ok (zone.answers request.name request.type) }
    nets := fun _ =>
      { dial := fun _ _ => .error (lit "connection refused")
        handshake := fun _ _ => none }
    started := .zero
    finished := .zero }

theorem Environment.ofZone_sees (zone : Zone) : (Environment.ofZone zone).Sees zone where
  system := by
    intro i host
    by_cases h : zone.HasAddress host
    · simp [Environment.ofZone, h, Except.isOk, Except.toBool]
    · simp [Environment.ofZone, h, Except.isOk, Except.toBool]
  doh := by
    intro i request
    rfl

/-- One host with an A record and nothing else. -/
def plainZone : Zone :=
  { a := fun host => if host = lit "example.com" then [⟨93, 184, 216, 34⟩] else []
    aaaa := fun _ => [] }

def configFor (target : Bytes) : Config :=
  { targets := [target]
    port := []
    timeout := 0
    concurrency := 0 }

theorem noDnsAnomaly_iff_plainZone :
    ((newEngine (configFor (lit "example.com"))).run (.ofZone plainZone)).NoDnsAnomaly ↔
      ∀ target ∈ (newEngine (configFor (lit "example.com"))).cfg.targets,
        ¬ plainZone.OnlyIPv6 target :=
  noDnsAnomaly_iff _ (Environment.ofZone_sees plainZone)

/-- One host with an AAAA record and nothing else. -/
def ipv6Zone : Zone :=
  { a := fun _ => []
    aaaa := fun host => if host = lit "ipv6.example.com" then [lit "2001:db8::1"] else [] }

theorem ipv6Zone_anomaly :
    ¬ ∀ (cfg : Config) (env : Environment) (zone : Zone), env.Sees zone →
      ((newEngine cfg).run env).NoDnsAnomaly := by
  intro h
  have hreport := h (configFor (lit "ipv6.example.com")) _ _ (Environment.ofZone_sees ipv6Zone)
  rw [noDnsAnomaly_iff_dnsLoop, dnsLoop_passes_iff (Environment.ofZone_sees ipv6Zone)] at hreport
  have honly : ipv6Zone.OnlyIPv6 (lit "ipv6.example.com") := by
    simp [Zone.OnlyIPv6, ipv6Zone]
  exact hreport _ (by simp [newEngine, configFor]) honly

end Diagnostic
end Orchestrator
end FlyDpi
