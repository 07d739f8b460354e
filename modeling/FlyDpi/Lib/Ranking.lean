import Mathlib.Order.Defs.LinearOrder
import Mathlib.Data.List.Sort

/-!
# Ranking — lists in the order of falling values

Elements are ranked by a value, and by a name where the values are equal.

* `pairwise_mergeSort` — sorting ranks a list whose elements have different names.
* `idxOf_eq_countP` — the position of an element is the number of elements before it.
* `Raises` — one element gets a higher value.  It moves up or stays (`Raises.idxOf_le`), and the
  others keep their order (`Raises.filter_eq`).
-/

namespace Lib
namespace Ranking

variable {α κ ι : Type} [LinearOrder κ] [LT ι]

/-- With a higher value, or with the same value and the smaller name. -/
def Before (value : α → κ) (name : α → ι) (a b : α) : Prop :=
  value b < value a ∨ (value a = value b ∧ name a < name b)

section Order

variable {value : α → κ} {name : α → ι} {a b c : α}

theorem Before.asymm [Std.Asymm (α := ι) (· < ·)] (h : Before value name a b) :
    ¬ Before value name b a := by
  rintro (hvalue | ⟨hvalue, hname⟩)
  · rcases h with h | ⟨h, _⟩
    · exact lt_asymm h hvalue
    · exact absurd h hvalue.ne
  · rcases h with h | ⟨_, h⟩
    · exact absurd hvalue h.ne
    · exact Std.Asymm.asymm _ _ h hname

variable [Std.Trichotomous (α := ι) (· < ·)]

theorem before_or_before (h : name a ≠ name b) : Before value name a b ∨ Before value name b a := by
  rcases lt_trichotomy (value a) (value b) with hlt | heq | hlt
  · exact Or.inr (Or.inl hlt)
  · by_cases hab : name a < name b
    · exact Or.inl (Or.inr ⟨heq, hab⟩)
    · by_cases hba : name b < name a
      · exact Or.inr (Or.inr ⟨heq.symm, hba⟩)
      · exact absurd (Std.Trichotomous.trichotomous _ _ hab hba) h
  · exact Or.inl (Or.inl hlt)

variable [Trans (α := ι) (· < ·) (· < ·) (· < ·)]

theorem not_name_lt_trans {x y z : ι} (hxy : ¬ y < x) (hyz : ¬ z < y) : ¬ z < x := by
  intro hzx
  by_cases h : x < y
  · exact hyz (Trans.trans hzx h)
  · rw [Std.Trichotomous.trichotomous _ _ h hxy] at hzx
    exact hyz hzx

theorem not_before_trans (hab : ¬ Before value name b a) (hbc : ¬ Before value name c b) :
    ¬ Before value name c a := by
  simp only [Before, not_or, not_and, not_lt] at hab hbc ⊢
  refine ⟨hbc.1.trans hab.1, fun hca => ?_⟩
  -- the values of all three are the same
  have hba : value b = value a := hab.1.antisymm (hca ▸ hbc.1)
  have hcb : value c = value b := hca.trans hba.symm
  exact not_name_lt_trans (hab.2 hba) (hbc.2 hcb)

/-- Sorting by what is before leaves every element before those behind it. -/
theorem pairwise_mergeSort [Std.Asymm (α := ι) (· < ·)] {less : α → α → Bool}
    (hless : ∀ a b, less a b = true ↔ Before value name a b) {l : List α}
    (hnames : (l.map name).Nodup) :
    (l.mergeSort fun a b => !less b a).Pairwise (Before value name) := by
  have hle : ∀ a b, (!less b a) = true ↔ ¬ Before value name b a := by
    intro a b
    rw [Bool.not_eq_true', ← Bool.not_eq_true, hless]
  have hsorted : (l.mergeSort fun a b => !less b a).Pairwise
      fun a b => ¬ Before value name b a := by
    refine (List.pairwise_mergeSort ?_ ?_ l).imp fun {a b} h => (hle a b).1 h
    · intro a b c hab hbc
      exact (hle a c).2 (not_before_trans ((hle a b).1 hab) ((hle b c).1 hbc))
    · intro a b
      by_cases h : Before value name b a
      · simp [(hle b a).2 h.asymm]
      · simp [(hle a b).2 h]
  -- no two elements have the same name, so one of them is before the other
  have hdiffer : (l.mergeSort fun a b => !less b a).Pairwise fun a b => name a ≠ name b := by
    rw [← List.pairwise_map]
    exact (((List.mergeSort_perm l _).map name).nodup_iff).2 hnames
  exact List.Pairwise.imp₂ (fun a b hnot hne => (before_or_before hne).resolve_right hnot)
    hsorted hdiffer

end Order

/-! ## Positions -/

section Position

variable [DecidableEq α] {r : α → α → Prop} [DecidableRel r]

/-- The position of an element is the number of elements before it. -/
theorem idxOf_eq_countP (hasymm : ∀ a b, r a b → ¬ r b a) {l : List α} (hl : l.Pairwise r) {x : α}
    (hx : x ∈ l) : l.idxOf x = l.countP fun a => decide (r a x) := by
  induction l with
  | nil =>
      cases hx
  | cons a l ih =>
      rw [List.pairwise_cons] at hl
      by_cases ha : a = x
      · subst ha
        have hself : ¬ r a a := fun h => hasymm a a h h
        have hbehind : l.countP (fun b => decide (r b a)) = 0 := by
          rw [List.countP_eq_zero]
          intro b hb
          simpa using hasymm a b (hl.1 b hb)
        rw [List.idxOf_cons_self, List.countP_cons_of_neg (by simpa using hself), hbehind]
      · have hmem : x ∈ l := (List.mem_cons.1 hx).resolve_left (Ne.symm ha)
        rw [List.idxOf_cons_ne _ ha, List.countP_cons_of_pos (by simpa using hl.1 x hmem),
          ih hl.2 hmem]

end Position

/-! ## A higher value for one element -/

/-- Within a list the values differ at `x` only, where the second is not lower. -/
structure Raises (l : List α) (value value' : α → κ) (x : α) : Prop where
  others : ∀ a ∈ l, a ≠ x → value' a = value a
  raised : value x ≤ value' x

namespace Raises

variable {value value' : α → κ} {name : α → ι} {x : α} {l l' : List α}

theorem before_iff (h : Raises l value value' x) {a b : α} (ha : a ∈ l) (hb : b ∈ l) (hax : a ≠ x)
    (hbx : b ≠ x) : Before value' name a b ↔ Before value name a b := by
  rw [Before, Before, h.others a ha hax, h.others b hb hbx]

/-- What is before `x` with the higher value was before it. -/
theorem before_of_before (h : Raises l value value' x) {a : α} (ha : a ∈ l) (hax : a ≠ x)
    (hbefore : Before value' name a x) : Before value name a x := by
  rw [Before, h.others a ha hax] at hbefore
  rcases hbefore with hlt | ⟨heq, hname⟩
  · exact Or.inl (h.raised.trans_lt hlt)
  · rcases h.raised.lt_or_eq with hlt | hsame
    · exact Or.inl (heq ▸ hlt)
    · exact Or.inr ⟨heq.trans hsame.symm, hname⟩

variable [DecidableEq α] [Std.Asymm (α := ι) (· < ·)]

/-- The element stands no later. -/
theorem idxOf_le (h : Raises l value value' x) (hl : l.Pairwise (Before value name))
    (hl' : l'.Pairwise (Before value' name)) (hperm : l'.Perm l) (hx : x ∈ l) :
    l'.idxOf x ≤ l.idxOf x := by
  classical
  rw [idxOf_eq_countP (fun _ _ hab => hab.asymm) hl hx,
    idxOf_eq_countP (fun _ _ hab => hab.asymm) hl' (hperm.mem_iff.2 hx), hperm.countP_eq]
  refine List.countP_mono_left fun a ha hbefore => ?_
  simp only [decide_eq_true_eq] at hbefore ⊢
  by_cases hax : a = x
  · subst hax
    exact absurd hbefore hbefore.asymm
  · exact h.before_of_before ha hax hbefore

/-- The other elements keep their order. -/
theorem filter_eq (h : Raises l value value' x) (hl : l.Pairwise (Before value name))
    (hl' : l'.Pairwise (Before value' name)) (hperm : l'.Perm l) :
    l'.filter (· ≠ x) = l.filter (· ≠ x) := by
  have hold : (l'.filter (· ≠ x)).Pairwise (Before value name) := by
    refine (hl'.filter _).imp_of_mem fun {a b} ha hb hbefore => ?_
    rw [List.mem_filter, decide_eq_true_eq] at ha hb
    exact (h.before_iff (hperm.subset ha.1) (hperm.subset hb.1) ha.2 hb.2).1 hbefore
  exact List.Perm.eq_of_pairwise (fun a b _ _ hab hba => absurd hba hab.asymm) hold
    (hl.filter _) (hperm.filter _)

end Raises

end Ranking
end Lib
