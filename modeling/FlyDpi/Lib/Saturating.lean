import Mathlib.Algebra.GroupWithZero.Nat

/-!
# Saturating — counters that stop at their maximum

Saturating and checked addition on 64-bit words, described by their values as natural numbers.
-/

namespace Lib

/-- `a.saturating_add(b)` on `u64`. -/
def saturatingAdd (a b : UInt64) : UInt64 :=
  if a.toNat + b.toNat < 2 ^ 64 then a + b else UInt64.ofNat (2 ^ 64 - 1)

/-- `a.saturating_sub(b)` on `u64`. -/
def saturatingSub (a b : UInt64) : UInt64 :=
  if b ≤ a then a - b else 0

/-- `a.checked_add(b)` on `u64`. -/
def checkedAdd (a b : UInt64) : Option UInt64 :=
  if a.toNat + b.toNat < 2 ^ 64 then some (a + b) else none

/-- The checked sum has the value of the sum, and there is none exactly when that does not fit. -/
theorem checkedAdd_cases (a b : UInt64) :
    (∃ c, checkedAdd a b = some c ∧ c.toNat = a.toNat + b.toNat) ∨
      (checkedAdd a b = none ∧ 2 ^ 64 ≤ a.toNat + b.toNat) := by
  unfold checkedAdd
  split
  · left
    refine ⟨a + b, rfl, ?_⟩
    rw [UInt64.toNat_add]
    omega
  · right
    exact ⟨rfl, by omega⟩

theorem toNat_saturatingAdd (a b : UInt64) :
    (saturatingAdd a b).toNat = min (a.toNat + b.toNat) (2 ^ 64 - 1) := by
  unfold saturatingAdd
  split
  · rw [UInt64.toNat_add]
    omega
  · simp
    omega

/-- Below the maximum a saturating increment is an increment. -/
theorem toNat_saturatingAdd_one {a : UInt64} (h : a.toNat < 2 ^ 64 - 1) :
    (saturatingAdd a 1).toNat = a.toNat + 1 := by
  rw [toNat_saturatingAdd]
  simp
  omega

/-- A saturating total over a list is the total, cut off at the maximum. -/
theorem toNat_foldl_saturatingAdd {E : Type} (w : E → UInt64) (es : List E) (a : UInt64) :
    (es.foldl (fun total e => saturatingAdd total (w e)) a).toNat =
      min (a.toNat + (es.map fun e => (w e).toNat).sum) (2 ^ 64 - 1) := by
  induction es generalizing a with
  | nil =>
      have hlt : a.toNat < 2 ^ 64 := a.toNat_lt
      simp
      omega
  | cons e es ih =>
      rw [List.foldl_cons, ih, toNat_saturatingAdd, List.map_cons, List.sum_cons]
      omega

end Lib
