import Mathlib.Algebra.Order.Ring.Cast
import Mathlib.Algebra.Order.Ring.Rat
import Mathlib.Tactic.GCongr
import Mathlib.Tactic.NormNum
import FlyDpi.Lib.Ranking
import FlyDpi.Orchestrator.GoStd

/-!
# Selector — the order in which strategies are proposed

The model of `selector.go`.  Weights and factors are the rational numbers that their literals
denote.  The counts of an observation add to the value of one candidate each, up to a cap, and the
names of the candidates break the ties.
-/

namespace FlyDpi
namespace Orchestrator
namespace Strategy

open Lib

structure Candidate where
  id : Bytes
  description : String
  risk : String
  weight : ℚ
  deriving DecidableEq

structure Observation where
  tcpFailures : Int
  tlsErrors : Int
  rsts : Int
  timeouts : Int
  dnsAvailabilityMismatch : Int
  ipv4Success : Int
  ipv6Success : Int
  quicSeen : Int

structure Score where
  candidate : Candidate
  value : ℚ
  reason : String

def candidates : List Candidate :=
  [{ id := lit "baseline"
     description := "Повторить базовую TCP/TLS проверку"
     risk := "low"
     weight := 1.0 },
   { id := lit "address_family_matrix"
     description := "Сравнить IPv4 и IPv6"
     risk := "low"
     weight := 0.95 },
   { id := lit "reset_timeout_correlation"
     description := "Сопоставить reset/timeout с WFP telemetry"
     risk := "low"
     weight := 0.9 },
   { id := lit "tls_matrix"
     description := "Повторить TLS-проверку по нескольким целям"
     risk := "low"
     weight := 0.9 },
   { id := lit "quic_observation"
     description := "Проверить наличие QUIC long-header traffic"
     risk := "low"
     weight := 0.8 }]

/-- The round of the loop for one candidate. -/
def score (o : Observation) (c : Candidate) : Score :=
  if c.id = lit "address_family_matrix" then
    if o.ipv4Success ≠ o.ipv6Success then
      { candidate := c
        value := c.weight + 1.5
        reason := "IPv4/IPv6 дают разные результаты" }
    else
      { candidate := c
        value := c.weight
        reason := "проверка симметрии address family" }
  else if c.id = lit "reset_timeout_correlation" then
    { candidate := c
      value := c.weight + min ((o.rsts : ℚ) * 0.8) 2.0 + min ((o.timeouts : ℚ) * 0.5) 1.5
      reason :=
        if o.rsts > 0 ∨ o.timeouts > 0 then "обнаружены transport failure symptoms"
        else "базовый контрольный сценарий" }
  else if c.id = lit "tls_matrix" then
    { candidate := c
      value := c.weight + min ((o.tlsErrors : ℚ) * 0.7) 2.0
      reason :=
        if o.tlsErrors > 0 then "TLS ошибки требуют повторного сравнения"
        else "базовый контрольный сценарий" }
  else if c.id = lit "quic_observation" then
    { candidate := c
      value := c.weight + min ((o.quicSeen : ℚ) * 0.4) 1.5
      reason :=
        if o.quicSeen > 0 then "наблюдался QUIC traffic"
        else "базовый контрольный сценарий" }
  else
    { candidate := c
      value := c.weight
      reason := "базовый контрольный сценарий" }

/-- The comparator of the sort. -/
def less (a b : Score) : Bool :=
  if a.value = b.value then decide (a.candidate.id < b.candidate.id)
  else decide (a.value > b.value)

def rank (o : Observation) : List Score :=
  sliceStable less (candidates.map (score o))

/-! ## One ranking -/

/-- The order of the ranking: the higher value first, and equal values by their names. -/
def Score.Before : Score → Score → Prop :=
  Ranking.Before Score.value fun s => s.candidate.id

/-- The candidates in the order of their ranking. -/
def order (o : Observation) : List Candidate :=
  (rank o).map Score.candidate

theorem less_iff (a b : Score) : less a b = true ↔ a.Before b := by
  unfold less Score.Before Ranking.Before
  by_cases h : a.value = b.value
  · simp [h]
  · simp [h]

@[simp] theorem candidate_score (o : Observation) (c : Candidate) : (score o c).candidate = c := by
  unfold score
  split_ifs <;> rfl

theorem candidates_ids_nodup : (candidates.map Candidate.id).Nodup := by
  decide +kernel

theorem rank_perm (o : Observation) : (rank o).Perm (candidates.map (score o)) :=
  List.mergeSort_perm _ _

theorem order_perm (o : Observation) : (order o).Perm candidates := by
  have hperm := (rank_perm o).map Score.candidate
  have hscores : (candidates.map (score o)).map Score.candidate = candidates := by
    rw [List.map_map]
    exact List.map_id'' (candidate_score o) candidates
  rw [hscores] at hperm
  exact hperm

theorem rank_pairwise (o : Observation) : (rank o).Pairwise Score.Before := by
  refine Ranking.pairwise_mergeSort less_iff ?_
  rw [List.map_map]
  have hids : ((fun s : Score => s.candidate.id) ∘ score o) = Candidate.id := by
    funext c
    simp
  rw [hids]
  exact candidates_ids_nodup

/-- The candidates are ranked by the values that the observation gives them. -/
theorem order_pairwise (o : Observation) :
    (order o).Pairwise (Ranking.Before (fun c => (score o c).value) Candidate.id) := by
  rw [order, List.pairwise_map]
  refine (rank_pairwise o).imp_of_mem fun {a b} ha hb hbefore => ?_
  have hscore : ∀ s ∈ rank o, score o s.candidate = s := by
    intro s hs
    rcases List.mem_map.1 ((rank_perm o).subset hs) with ⟨c, _, rfl⟩
    rw [candidate_score]
  rw [Ranking.Before, hscore a ha, hscore b hb]
  exact hbefore

/-! ## Two rankings -/

/-- The observations differ only by larger counts, all of which speak for one candidate. -/
inductive Raised (o : Observation) : Observation → Bytes → Prop
  | transport {rsts timeouts : Int} :
      o.rsts ≤ rsts → o.timeouts ≤ timeouts →
      Raised o
        { o with
          rsts := rsts
          timeouts := timeouts }
        (lit "reset_timeout_correlation")
  | tls {tlsErrors : Int} :
      o.tlsErrors ≤ tlsErrors → Raised o { o with tlsErrors := tlsErrors } (lit "tls_matrix")
  | quic {quicSeen : Int} :
      o.quicSeen ≤ quicSeen → Raised o { o with quicSeen := quicSeen } (lit "quic_observation")

namespace Raised

variable {o o' : Observation} {id : Bytes} {c : Candidate}

/-- The counts of one candidate do not enter the values of the others. -/
theorem value_eq (h : Raised o o' id) (hc : c.id ≠ id) :
    (score o' c).value = (score o c).value := by
  cases h with
  | transport _ _ =>
      simp only [score, if_neg hc]
  | tls _ =>
      simp only [score, if_neg hc]
  | quic _ =>
      simp only [score, if_neg hc]

/-- A larger count adds no less, capped or not. -/
theorem capped_le {m n : Int} (h : m ≤ n) {factor : ℚ} (hfactor : 0 ≤ factor) (cap : ℚ) :
    min ((m : ℚ) * factor) cap ≤ min ((n : ℚ) * factor) cap :=
  min_le_min_right cap (mul_le_mul_of_nonneg_right (Int.cast_le.2 h) hfactor)

theorem value_le (h : Raised o o' id) (hc : c.id = id) :
    (score o c).value ≤ (score o' c).value := by
  cases h with
  | transport hrsts htimeouts =>
      have hother : c.id ≠ lit "address_family_matrix" := by
        rw [hc]
        decide +kernel
      simp only [score, if_neg hother, if_pos hc]
      exact add_le_add (add_le_add le_rfl (capped_le hrsts (by norm_num) _))
        (capped_le htimeouts (by norm_num) _)
  | tls htls =>
      have hothers : c.id ≠ lit "address_family_matrix" ∧
          c.id ≠ lit "reset_timeout_correlation" := by
        rw [hc]
        decide +kernel
      simp only [score, if_neg hothers.1, if_neg hothers.2, if_pos hc]
      exact add_le_add le_rfl (capped_le htls (by norm_num) _)
  | quic hquic =>
      have hothers : c.id ≠ lit "address_family_matrix" ∧
          c.id ≠ lit "reset_timeout_correlation" ∧ c.id ≠ lit "tls_matrix" := by
        rw [hc]
        decide +kernel
      simp only [score, if_neg hothers.1, if_neg hothers.2.1, if_neg hothers.2.2, if_pos hc]
      exact add_le_add le_rfl (capped_le hquic (by norm_num) _)

theorem raises (h : Raised o o' id) (hmem : c ∈ candidates) (hc : c.id = id) :
    Ranking.Raises (order o) (fun a => (score o a).value) (fun a => (score o' a).value) c where
  others := by
    intro a ha hne
    refine h.value_eq fun hid => hne ?_
    -- no two candidates have the same name
    exact List.inj_on_of_nodup_map candidates_ids_nodup ((order_perm o).subset ha) hmem
      (hid.trans hc.symm)
  raised := h.value_le hc

end Raised

/-- The ranking is strictly ordered, and larger counts for a candidate let it only move up. -/
theorem rank_monotone (o : Observation) :
    ((rank o).map Score.candidate).Perm candidates ∧ (rank o).Pairwise Score.Before ∧
    ∀ o' id c, Raised o o' id → c ∈ candidates → c.id = id →
      (order o').idxOf c ≤ (order o).idxOf c ∧
        (order o').filter (· ≠ c) = (order o).filter (· ≠ c) := by
  refine ⟨order_perm o, rank_pairwise o, fun o' id c h hmem hc => ?_⟩
  have hperm : (order o').Perm (order o) := (order_perm o').trans (order_perm o).symm
  have hraises := h.raises hmem hc
  refine ⟨?_, ?_⟩
  · exact hraises.idxOf_le (order_pairwise o) (order_pairwise o') hperm
      ((order_perm o).mem_iff.2 hmem)
  · exact hraises.filter_eq (order_pairwise o) (order_pairwise o') hperm

/-- Nothing was seen yet. -/
def quiet : Observation :=
  { tcpFailures := 0
    tlsErrors := 0
    rsts := 0
    timeouts := 0
    dnsAvailabilityMismatch := 0
    ipv4Success := 0
    ipv6Success := 0
    quicSeen := 0 }

/-- Resets and timeouts on an otherwise quiet network, and their candidate. -/
theorem rank_monotone_quiet :
    (order { quiet with rsts := 2, timeouts := 2 }).idxOf (candidates.get ⟨2, by decide⟩) ≤
      (order quiet).idxOf (candidates.get ⟨2, by decide⟩) ∧
    (order { quiet with rsts := 2, timeouts := 2 }).filter (· ≠ candidates.get ⟨2, by decide⟩) =
      (order quiet).filter (· ≠ candidates.get ⟨2, by decide⟩) :=
  (rank_monotone quiet).2.2 _ _ _ (Raised.transport (by decide) (by decide))
    (List.get_mem _ _) rfl

end Strategy
end Orchestrator
end FlyDpi
