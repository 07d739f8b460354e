import FlyDpi.Orchestrator.DnsAgreement

/-!
# DnsAttribution — which target a DNS verdict belongs to

The DNS loop folds the two lookups of every target into one flag for the stage, and the loop over
the probe results expands that flag again for every target with an address.  What a target's own
lookups said is kept for `DNSOK` only.
-/

namespace FlyDpi
namespace Orchestrator
namespace Diagnostic

open Lib

namespace Environment

variable (env : Environment) (i : Nat) (target : Bytes)

/-- The system lookup of the `i`-th target returned an address. -/
def systemFound : Bool :=
  match env.system i target with
  | .ok ips => decide (ips ≠ [])
  | .error _ => false

def dohFound : Bool :=
  (lookupAnyDoH (env.doh i) target).isOk

/-- Exactly one of the two lookups of the `i`-th target succeeded. -/
def disagrees : Bool :=
  (env.system i target).isOk != env.dohFound i target

end Environment

/-! ## The DNS loop -/

theorem dnsLoop_concat (env : Environment) (targets : List Bytes) (target : Bytes) :
    dnsLoop env (targets ++ [target]) =
      (dnsLoop env targets).step env (target, targets.length) := by
  simp [dnsLoop, List.zipIdx_append]

theorem lookup_dnsMap_of_not_mem {env : Environment} {targets : List Bytes} {target : Bytes}
    (h : target ∉ targets) : (dnsLoop env targets).dnsMap.lookup target = none := by
  induction targets using List.reverseRecOn with
  | nil =>
      rfl
  | append_singleton targets last ih =>
      rw [List.mem_append, List.mem_singleton, not_or] at h
      rw [dnsLoop_concat, DnsState.step]
      cases env.system targets.length last with
      | ok ips =>
          simp only [AList.lookup_insert_ne h.2]
          exact ih h.1
      | error err =>
          exact ih h.1

/-- A target that occurs once keeps what its own system lookup returned. -/
theorem lookup_dnsMap {env : Environment} {targets : List Bytes} (hnodup : targets.Nodup)
    {i : Nat} {target : Bytes} (hi : targets[i]? = some target) :
    (dnsLoop env targets).dnsMap.lookup target = (env.system i target).toOption := by
  induction targets using List.reverseRecOn with
  | nil =>
      simp at hi
  | append_singleton targets last ih =>
      have hlast : last ∉ targets := by
        have hdisjoint := List.disjoint_of_nodup_append hnodup
        exact fun hmem => hdisjoint hmem (List.mem_singleton_self last)
      rw [dnsLoop_concat, DnsState.step]
      rcases Nat.lt_trichotomy i targets.length with hlt | heq | hgt
      · -- an earlier target is not the last one
        rw [List.getElem?_append_left hlt] at hi
        have hne : target ≠ last := by
          rintro rfl
          exact hlast (List.mem_of_getElem? hi)
        have hold := ih (List.Nodup.of_append_left hnodup) hi
        cases env.system targets.length last with
        | ok ips =>
            simp only [AList.lookup_insert_ne hne]
            exact hold
        | error err =>
            exact hold
      · subst heq
        rw [List.getElem?_concat_length] at hi
        cases hi
        cases env.system targets.length target with
        | ok ips =>
            exact AList.lookup_insert _
        | error err =>
            exact lookup_dnsMap_of_not_mem hlast
      · rw [List.getElem?_eq_none (by simp; omega)] at hi
        cases hi

/-- `DNSOK` of a target is the answer of its own system lookup. -/
theorem lookup_dnsMap_ne_nil {env : Environment} {targets : List Bytes} (hnodup : targets.Nodup)
    {i : Nat} {target : Bytes} (hi : targets[i]? = some target) :
    decide (((dnsLoop env targets).dnsMap.lookup target).getD [] ≠ []) =
      env.systemFound i target := by
  rw [lookup_dnsMap hnodup hi, Environment.systemFound]
  cases env.system i target with
  | ok ips =>
      rfl
  | error err =>
      rfl

/-- The stage fails when the lookups of some target disagree. -/
theorem dnsStageFailed_iff {env : Environment} {targets : List Bytes} :
    (dnsLoop env targets).dnsStageFailed = true ↔
      ∃ i target, targets[i]? = some target ∧ env.disagrees i target = true := by
  rw [dnsStageFailed_dnsLoop, List.any_eq_true]
  constructor
  · rintro ⟨⟨target, i⟩, hmem, hdisagree⟩
    exact ⟨i, target, List.mem_zipIdx_iff_getElem?.1 hmem, hdisagree⟩
  · rintro ⟨i, target, hi, hdisagree⟩
    exact ⟨(target, i), List.mem_zipIdx_iff_getElem?.2 hi, hdisagree⟩

/-! ## The loop over the probe results -/

/-- The DNS part of a target's result. -/
structure DnsVerdict where
  target : Bytes
  dnsOK : Bool
  dnsMismatch : Bool

def TargetResult.dns (tr : TargetResult) : DnsVerdict :=
  { target := tr.target
    dnsOK := tr.dnsOK
    dnsMismatch := tr.dnsMismatch }

/-- The verdict that the loop writes for a target: the flag of the stage, where there is an
address. -/
def DnsState.verdict (dns : DnsState) (target : Bytes) : DnsVerdict :=
  { target := target
    dnsOK := decide ((dns.dnsMap.lookup target).getD [] ≠ [])
    dnsMismatch := dns.dnsStageFailed && decide ((dns.dnsMap.lookup target).getD [] ≠ []) }

theorem target_runOne (net : Probe.Network) (cfg : Probe.Config) (target : Bytes) :
    (Probe.runOne net cfg target).target = target := by
  unfold Probe.runOne
  split
  · rfl
  · dsimp only
    split <;> rfl

/-- The probes come back in the order of the targets. -/
theorem targets_probe (e : Engine) (env : Environment) :
    (e.probe env).map Probe.Result.target = e.cfg.targets := by
  refine List.ext_getElem? fun i => ?_
  rw [List.getElem?_map, Engine.getElem?_probe, Option.map_map]
  have hcomp : Probe.Result.target ∘ Probe.runOne (env.nets i) e.probeConfig = id :=
    funext fun target => target_runOne _ _ target
  rw [hcomp, Option.map_id]
  rfl

theorem verdicts_run (e : Engine) (env : Environment) :
    (e.run env).probeResults.map TargetResult.dns =
      e.cfg.targets.map (dnsLoop env e.cfg.targets).verdict := by
  have hmap : ((e.probe env).map fun r => (dnsLoop env e.cfg.targets).verdict r.target) =
      e.cfg.targets.map (dnsLoop env e.cfg.targets).verdict := by
    generalize dnsLoop env e.cfg.targets = dns
    rw [← targets_probe e env, List.map_map]
    rfl
  rw [← hmap]
  change (e.tally env (dnsLoop env e.cfg.targets)).probeResults.map TargetResult.dns = _
  rw [Engine.tally_eq, List.map_map]
  rfl

/-- The result of the `i`-th target. -/
theorem exists_result (e : Engine) (env : Environment) (hnodup : e.cfg.targets.Nodup) {i : Nat}
    {target : Bytes} (hi : e.cfg.targets[i]? = some target) :
    ∃ result, (e.run env).probeResults[i]? = some result ∧ result.target = target ∧
      result.dnsOK = env.systemFound i target ∧
      result.dnsMismatch =
        ((dnsLoop env e.cfg.targets).dnsStageFailed && env.systemFound i target) := by
  have hverdict : ((e.run env).probeResults[i]?).map TargetResult.dns =
      some ((dnsLoop env e.cfg.targets).verdict target) := by
    rw [← List.getElem?_map, verdicts_run, List.getElem?_map, hi]
    rfl
  rcases Option.map_eq_some_iff.1 hverdict with ⟨result, hresult, hdns⟩
  have hok := @lookup_dnsMap_ne_nil env _ hnodup _ _ hi
  refine ⟨result, hresult, congrArg DnsVerdict.target hdns, ?_, ?_⟩
  · rw [← hok]
    exact congrArg DnsVerdict.dnsOK hdns
  · rw [← hok]
    exact congrArg DnsVerdict.dnsMismatch hdns

/-! ## Attribution -/

/-- `DNSMismatch` of every target says whether exactly one of its own lookups succeeded. -/
def MismatchAttributed (e : Engine) (env : Environment) : Prop :=
  ∀ i target, e.cfg.targets[i]? = some target →
    ∃ result, (e.run env).probeResults[i]? = some result ∧ result.target = target ∧
      (result.dnsMismatch = true ↔ env.disagrees i target = true)

/-- Having an address and a disagreement coincide, unless DoH found something. -/
theorem systemFound_iff_disagrees {env : Environment} {i : Nat} {target : Bytes} :
    (env.systemFound i target = true ↔ env.disagrees i target = true) ↔
      (env.dohFound i target = true ↔ env.system i target = .ok []) := by
  unfold Environment.systemFound Environment.disagrees
  cases hsystem : env.system i target with
  | error err =>
      cases env.dohFound i target <;> simp [Except.isOk, Except.toBool]
  | ok ips =>
      cases ips with
      | nil =>
          cases env.dohFound i target <;> simp [Except.isOk, Except.toBool]
      | cons ip ips =>
          cases env.dohFound i target <;> simp [Except.isOk, Except.toBool]

/-- The flag of the stage, carried by every target with an address, has to be the target's own. -/
theorem mismatchAttributed_iff_flag {e : Engine} {env : Environment}
    (hnodup : e.cfg.targets.Nodup) :
    MismatchAttributed e env ↔
      ∀ i target, e.cfg.targets[i]? = some target →
        (((dnsLoop env e.cfg.targets).dnsStageFailed && env.systemFound i target) = true ↔
          env.disagrees i target = true) := by
  constructor
  · intro h i target hi
    rcases h i target hi with ⟨result, hresult, _, hmismatch⟩
    rcases exists_result e env hnodup hi with ⟨result', hresult', _, _, heq⟩
    rw [hresult] at hresult'
    cases hresult'
    rw [← heq]
    exact hmismatch
  · intro h i target hi
    rcases exists_result e env hnodup hi with ⟨result, hresult, htarget, _, heq⟩
    refine ⟨result, hresult, htarget, ?_⟩
    rw [heq]
    exact h i target hi

theorem mismatchAttributed_iff {e : Engine} {env : Environment} (hnodup : e.cfg.targets.Nodup) :
    MismatchAttributed e env ↔
      (∀ i target, e.cfg.targets[i]? = some target → env.disagrees i target = false) ∨
      ∀ i target, e.cfg.targets[i]? = some target →
        (env.dohFound i target = true ↔ env.system i target = .ok []) := by
  rw [mismatchAttributed_iff_flag hnodup]
  have hstage := @dnsStageFailed_iff env e.cfg.targets
  cases hfailed : (dnsLoop env e.cfg.targets).dnsStageFailed with
  | false =>
      -- no target disagrees, and no flag is set
      have hagree : ∀ i target, e.cfg.targets[i]? = some target →
          env.disagrees i target = false := by
        intro i target hi
        by_contra hne
        have htrue := hstage.2 ⟨i, target, hi, Bool.eq_true_of_not_eq_false hne⟩
        rw [hfailed] at htrue
        cases htrue
      constructor
      · intro _
        exact Or.inl hagree
      · intro _ i target hi
        simp [hagree i target hi]
  | true =>
      -- every target with an address carries the flag
      rcases hstage.1 hfailed with ⟨j, bad, hj, hbad⟩
      simp only [Bool.true_and, systemFound_iff_disagrees]
      constructor
      · intro h
        exact Or.inr h
      · rintro (hagree | h)
        · rw [hagree j bad hj] at hbad
          cases hbad
        · exact h

/-! ## Independence of the other targets -/

/-- The lookups of the `i`-th target are answered alike. -/
structure Environment.SameLookups (env env' : Environment) (i : Nat) (target : Bytes) : Prop where
  system : env'.system i target = env.system i target
  doh : env'.doh i = env.doh i

/-- The DNS fields of the `i`-th target are the same whatever the lookups of the others return. -/
def DnsFieldsIndependent (e : Engine) (env : Environment) (i : Nat) (target : Bytes) : Prop :=
  ∀ env', env.SameLookups env' i target → ∀ result result',
    (e.run env).probeResults[i]? = some result → (e.run env').probeResults[i]? = some result' →
      result'.dnsOK = result.dnsOK ∧ result'.dnsMismatch = result.dnsMismatch

namespace Environment

/-- The lookups of all targets but the `i`-th are replaced: DoH fails, and the system lookup succeeds
or fails as well. -/
def replaceOthers (env : Environment) (i : Nat) (succeed : Bool) : Environment :=
  { env with
    system := fun k host =>
      if k = i then env.system i host
      else if succeed then .ok [[127, 0, 0, 1]]
      else .error []
    doh := fun k request => if k = i then env.doh i request else .error [] }

variable {env : Environment} {i k : Nat} {succeed : Bool} {target : Bytes}

theorem sameLookups_replaceOthers : env.SameLookups (env.replaceOthers i succeed) i target where
  system := if_pos rfl
  doh := funext fun _ => if_pos rfl

theorem SameLookups.dohFound_eq {env' : Environment} (h : env.SameLookups env' i target) :
    env'.dohFound i target = env.dohFound i target := by
  rw [dohFound, dohFound, h.doh]

theorem SameLookups.systemFound_eq {env' : Environment} (h : env.SameLookups env' i target) :
    env'.systemFound i target = env.systemFound i target := by
  rw [systemFound, systemFound, h.system]

theorem SameLookups.disagrees_eq {env' : Environment} (h : env.SameLookups env' i target) :
    env'.disagrees i target = env.disagrees i target := by
  rw [disagrees, disagrees, h.dohFound_eq, h.system]

theorem dohFound_of_error (h : env.doh k = fun _ => .error []) :
    env.dohFound k target = false := by
  rw [dohFound, h]
  rfl

theorem disagrees_replaceOthers (hk : k ≠ i) :
    (env.replaceOthers i succeed).disagrees k target = succeed := by
  have hdoh : (env.replaceOthers i succeed).dohFound k target = false :=
    dohFound_of_error (funext fun _ => if_neg hk)
  rw [disagrees, hdoh, replaceOthers]
  cases succeed with
  | false =>
      simp [hk, Except.isOk, Except.toBool]
  | true =>
      simp [hk, Except.isOk, Except.toBool]

/-- A target with an address that DoH did not find makes the stage fail by itself. -/
theorem disagrees_of_systemFound (h : env.systemFound i target = true) :
    env.disagrees i target = !env.dohFound i target := by
  unfold systemFound at h
  unfold disagrees
  cases hsystem : env.system i target with
  | error err =>
      rw [hsystem] at h
      cases h
  | ok ips =>
      cases env.dohFound i target <;> rfl

end Environment

/-- Where no other target disagrees, the stage fails exactly when the target itself does. -/
theorem dnsStageFailed_eq_own {env : Environment} {targets : List Bytes} {i : Nat} {target : Bytes}
    (hi : targets[i]? = some target)
    (hothers : ∀ j other, targets[j]? = some other → j ≠ i → env.disagrees j other = false) :
    (dnsLoop env targets).dnsStageFailed = env.disagrees i target := by
  rw [Bool.eq_iff_iff, dnsStageFailed_iff]
  constructor
  · rintro ⟨j, other, hj, hother⟩
    by_cases hji : j = i
    · subst hji
      rw [hi] at hj
      cases hj
      exact hother
    · rw [hothers j other hj hji] at hother
      cases hother
  · intro hown
    exact ⟨i, target, hi, hown⟩

/-- Only the flag of the stage can carry something over from another target. -/
theorem dnsFieldsIndependent_iff_flag {e : Engine} {env : Environment}
    (hnodup : e.cfg.targets.Nodup) {i : Nat} {target : Bytes}
    (hi : e.cfg.targets[i]? = some target) :
    DnsFieldsIndependent e env i target ↔
      (env.systemFound i target = true → ∀ env', env.SameLookups env' i target →
        (dnsLoop env' e.cfg.targets).dnsStageFailed =
          (dnsLoop env e.cfg.targets).dnsStageFailed) := by
  rcases exists_result e env hnodup hi with ⟨result, hresult, _, hok, hmismatch⟩
  constructor
  · intro h hfound env' hsame
    rcases exists_result e env' hnodup hi with ⟨result', hresult', _, _, hmismatch'⟩
    have heq := (h env' hsame result result' hresult hresult').2
    rw [hmismatch, hmismatch', hsame.systemFound_eq, hfound] at heq
    simpa using heq
  · intro h env' hsame result₁ result₁' hresult₁ hresult₁'
    rcases exists_result e env' hnodup hi with ⟨result', hresult', _, hok', hmismatch'⟩
    rw [hresult] at hresult₁
    rw [hresult'] at hresult₁'
    cases hresult₁
    cases hresult₁'
    rw [hok, hok', hmismatch, hmismatch', hsame.systemFound_eq]
    cases hfound : env.systemFound i target with
    | false =>
        simp
    | true =>
        simp [h hfound env' hsame]

theorem dnsFieldsIndependent_iff {e : Engine} {env : Environment} (hnodup : e.cfg.targets.Nodup)
    {i : Nat} {target : Bytes} (hi : e.cfg.targets[i]? = some target) :
    DnsFieldsIndependent e env i target ↔
      e.cfg.targets.length = 1 ∨ env.systemFound i target = false ∨
        env.dohFound i target = false := by
  rw [dnsFieldsIndependent_iff_flag hnodup hi]
  constructor
  · intro h
    by_contra hnot
    simp only [not_or, Bool.not_eq_false] at hnot
    rcases hnot with ⟨hmany, hfound, hdoh⟩
    -- another target, whose lookups can be made to disagree or to agree
    have hlt : i < e.cfg.targets.length := (List.getElem?_eq_some_iff.1 hi).1
    obtain ⟨k, hk, hne⟩ : ∃ k, k < e.cfg.targets.length ∧ k ≠ i := by
      by_cases hzero : i = 0
      · exact ⟨1, by omega, by omega⟩
      · exact ⟨0, by omega, by omega⟩
    have hfails : (dnsLoop (env.replaceOthers i true) e.cfg.targets).dnsStageFailed = true :=
      dnsStageFailed_iff.2 ⟨k, _, List.getElem?_eq_getElem hk,
        Environment.disagrees_replaceOthers hne⟩
    have hpasses : (dnsLoop (env.replaceOthers i false) e.cfg.targets).dnsStageFailed = false := by
      rw [dnsStageFailed_eq_own hi fun _ _ _ hne => Environment.disagrees_replaceOthers hne,
        Environment.sameLookups_replaceOthers.disagrees_eq,
        Environment.disagrees_of_systemFound hfound, hdoh]
      rfl
    have hfailed := h hfound (env.replaceOthers i true) Environment.sameLookups_replaceOthers
    have hpassed := h hfound (env.replaceOthers i false) Environment.sameLookups_replaceOthers
    rw [hfails] at hfailed
    rw [hpasses, ← hfailed] at hpassed
    cases hpassed
  · rintro (hone | hnone | hdoh) hfound env' hsame
    · -- there is no other target
      have hnone : ∀ j other, e.cfg.targets[j]? = some other → j = i := by
        intro j other hj
        have hj' := (List.getElem?_eq_some_iff.1 hj).1
        have hi' := (List.getElem?_eq_some_iff.1 hi).1
        omega
      rw [dnsStageFailed_eq_own hi fun j other hj hne => absurd (hnone j other hj) hne,
        dnsStageFailed_eq_own hi fun j other hj hne => absurd (hnone j other hj) hne,
        hsame.disagrees_eq]
    · rw [hnone] at hfound
      cases hfound
    · -- the target makes the stage fail by itself
      have hown : env.disagrees i target = true := by
        rw [Environment.disagrees_of_systemFound hfound, hdoh]
        rfl
      have hfails : (dnsLoop env e.cfg.targets).dnsStageFailed = true :=
        dnsStageFailed_iff.2 ⟨i, target, hi, hown⟩
      have hfails' : (dnsLoop env' e.cfg.targets).dnsStageFailed = true :=
        dnsStageFailed_iff.2 ⟨i, target, hi, hsame.disagrees_eq.trans hown⟩
      rw [hfails, hfails']

/-- The mismatch flags are attributed exactly when no target's lookups disagree, or DoH finds
nothing for any target (but where the system lookup succeeds without an address); the DNS fields of
a target depend on the others exactly when it has others, an address, and an answer from DoH. -/
theorem dnsMismatch_attributed_iff (e : Engine) (env : Environment)
    (hnodup : e.cfg.targets.Nodup) :
    (MismatchAttributed e env ↔
      (∀ i target, e.cfg.targets[i]? = some target → env.disagrees i target = false) ∨
      ∀ i target, e.cfg.targets[i]? = some target →
        (env.dohFound i target = true ↔ env.system i target = .ok [])) ∧
    ∀ i target, e.cfg.targets[i]? = some target →
      (DnsFieldsIndependent e env i target ↔
        e.cfg.targets.length = 1 ∨ env.systemFound i target = false ∨
          env.dohFound i target = false) :=
  ⟨mismatchAttributed_iff hnodup, fun _ _ hi => dnsFieldsIndependent_iff hnodup hi⟩

/-- Two targets, in this order. -/
def twoTargets : Engine :=
  newEngine
    { targets := [lit "example.com", lit "t.me"]
      port := []
      timeout := 0
      concurrency := 0 }

/-- Both resolvers know the first target, only the system resolver knows the second. -/
def secondBlocked : Environment :=
  { system := fun _ _ => .ok [[93, 184, 216, 34]]
    doh := fun i _ =>
      if i = 0 then
        .ok
          { statusCode := 200
            body := .ok [{ type := 1, data := lit "93.184.216.34" }] }
      else
        .error (lit "no route to host")
    nets := fun _ =>
      { dial := fun _ _ => .error (lit "connection refused")
        handshake := fun _ _ => none }
    started := .zero
    finished := .zero }

theorem dohFound_secondBlocked : secondBlocked.dohFound 0 (lit "example.com") = true := by
  decide

theorem dnsMismatch_attributed_iff_secondBlocked :
    DnsFieldsIndependent twoTargets secondBlocked 1 (lit "t.me") :=
  ((dnsMismatch_attributed_iff twoTargets secondBlocked (by decide)).2 1 (lit "t.me") rfl).2
    (Or.inr (Or.inr rfl))

/-- The lookups of the first target agree, and it is reported as a mismatch because of the second. -/
theorem secondBlocked_misattributed :
    ¬ MismatchAttributed twoTargets secondBlocked ∧
    ¬ DnsFieldsIndependent twoTargets secondBlocked 0 (lit "example.com") := by
  have hnodup : twoTargets.cfg.targets.Nodup := by
    decide
  constructor
  · rw [mismatchAttributed_iff hnodup]
    rintro (hagree | hdoh)
    · exact absurd (hagree 1 (lit "t.me") rfl) (by decide)
    · have hsystem := (hdoh 0 (lit "example.com") rfl).1 dohFound_secondBlocked
      simp [secondBlocked] at hsystem
  · rw [dnsFieldsIndependent_iff hnodup rfl, dohFound_secondBlocked]
    decide

end Diagnostic
end Orchestrator
end FlyDpi
