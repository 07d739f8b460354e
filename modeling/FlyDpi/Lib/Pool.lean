import Mathlib.Data.List.Basic

/-!
# Pool — a list of processes of which one steps at a time

* `get_set`, `get_concat` — a process of the next pool is the one that stepped, the one that joined
  or one that was there before.
* `total_set`, `weight_set_lt` — what a step of one process does to a sum over all of them.
* `flatMap_set` — what it adds to a log to which every process contributes its part.
-/

namespace Lib
namespace Pool

variable {α : Type} {xs : List α} {i j : Nat} {x y z : α} {f g : α → Nat}

theorem get_set (h : (xs.set i y)[j]? = some z) : (j = i ∧ z = y) ∨ (i ≠ j ∧ xs[j]? = some z) := by
  by_cases hij : i = j
  · subst hij
    have hlt : i < (xs.set i y).length := (List.getElem?_eq_some_iff.1 h).1
    rw [List.length_set] at hlt
    rw [List.getElem?_set_self hlt] at h
    exact Or.inl ⟨rfl, (Option.some.inj h).symm⟩
  · rw [List.getElem?_set_ne hij] at h
    exact Or.inr ⟨hij, h⟩

theorem get_concat (h : (xs ++ [y])[j]? = some z) : xs[j]? = some z ∨ (j = xs.length ∧ z = y) := by
  by_cases hlt : j < xs.length
  · rw [List.getElem?_append_left hlt] at h
    exact Or.inl h
  · rw [List.getElem?_append_right (Nat.not_lt.1 hlt)] at h
    have hindex : j - xs.length < 1 := (List.getElem?_eq_some_iff.1 h).1
    refine Or.inr ⟨?_, List.mem_singleton.1 (List.mem_of_getElem? h)⟩
    omega

theorem lt_of_get (h : xs[i]? = some x) : i < xs.length :=
  (List.getElem?_eq_some_iff.1 h).1

/-! ## Sums -/

def total (f : α → Nat) : List α → Nat
  | [] => 0
  | x :: xs => f x + total f xs

theorem total_concat (f : α → Nat) (xs : List α) (y : α) :
    total f (xs ++ [y]) = total f xs + f y := by
  induction xs with
  | nil =>
      simp [total]
  | cons x xs ih =>
      rw [List.cons_append, total, total, ih, Nat.add_assoc]

theorem total_set (h : xs[i]? = some x) (y : α) :
    total f (xs.set i y) + f x = total f xs + f y := by
  induction xs generalizing i with
  | nil =>
      cases h
  | cons head tail ih =>
      cases i with
      | zero =>
          cases h
          simp only [total, List.set_cons_zero]
          omega
      | succ i =>
          have htail := ih h
          simp only [total, List.set_cons_succ] at htail ⊢
          omega

theorem le_total (h : xs[i]? = some x) : f x ≤ total f xs := by
  induction xs generalizing i with
  | nil =>
      cases h
  | cons head tail ih =>
      cases i with
      | zero =>
          cases h
          exact Nat.le_add_right _ _
      | succ i =>
          exact Nat.le_add_left_of_le (ih h)

theorem total_congr (h : ∀ x ∈ xs, g x = f x) : total g xs = total f xs := by
  induction xs with
  | nil =>
      rfl
  | cons head tail ih =>
      rw [total, total, h head List.mem_cons_self, ih fun x hx => h x (List.mem_cons_of_mem _ hx)]

/-- The process that steps lowers its share, and no other changes. -/
theorem total_set_lt (h : xs[i]? = some x) (hlt : g y < f x)
    (hothers : ∀ j z, i ≠ j → xs[j]? = some z → g z = f z) : total g (xs.set i y) < total f xs := by
  induction xs generalizing i with
  | nil =>
      cases h
  | cons head tail ih =>
      cases i with
      | zero =>
          cases h
          have htail : total g tail = total f tail := by
            refine total_congr fun z hz => ?_
            rcases List.mem_iff_getElem?.1 hz with ⟨j, hj⟩
            exact hothers (j + 1) z (Nat.succ_ne_zero j).symm hj
          simp only [total, List.set_cons_zero] at htail ⊢
          omega
      | succ i =>
          have hhead : g head = f head := hothers 0 head (Nat.succ_ne_zero i) rfl
          have htail := ih h fun j z hne hj =>
            hothers (j + 1) z (fun heq => hne (Nat.succ.inj heq)) hj
          simp only [total, List.set_cons_succ] at htail ⊢
          omega

/-- The sum where the share of a process depends on its place. -/
def weight (f : Nat → α → Nat) (xs : List α) : Nat :=
  total (fun p => f p.2 p.1) xs.zipIdx

theorem zipIdx_set (xs : List α) (i : Nat) (y : α) :
    (xs.set i y).zipIdx = xs.zipIdx.set i (y, i) := by
  refine List.ext_getElem? fun j => ?_
  simp only [List.getElem?_zipIdx, List.getElem?_set, List.length_zipIdx]
  split_ifs with hij hlt
  · simp [hij]
  · rfl
  · rfl

theorem weight_set_lt {f g : Nat → α → Nat} (h : xs[i]? = some x) (hlt : g i y < f i x)
    (hothers : ∀ j z, i ≠ j → xs[j]? = some z → g j z = f j z) :
    weight g (xs.set i y) < weight f xs := by
  have hx : xs.zipIdx[i]? = some (x, i) := by
    rw [List.getElem?_zipIdx, h, Nat.zero_add]
    rfl
  rw [weight, weight, zipIdx_set]
  refine total_set_lt hx hlt fun j z hne hz => ?_
  rw [List.getElem?_zipIdx, Option.map_eq_some_iff] at hz
  rcases hz with ⟨z', hz', rfl⟩
  rw [Nat.zero_add]
  exact hothers j z' hne hz'

/-! ## Logs -/

/-- Up to the order, the log of all processes grows by what the process that steps adds to its own. -/
theorem flatMap_set {β : Type} {f : α → List β} {new : List β} (h : xs[i]? = some x)
    (hy : f y = f x ++ new) : ((xs.set i y).flatMap f).Perm (xs.flatMap f ++ new) := by
  induction xs generalizing i with
  | nil =>
      cases h
  | cons head tail ih =>
      cases i with
      | zero =>
          cases h
          rw [List.set_cons_zero, List.flatMap_cons, List.flatMap_cons, hy, List.append_assoc,
            List.append_assoc]
          exact List.perm_append_comm.append_left _
      | succ i =>
          rw [List.set_cons_succ, List.flatMap_cons, List.flatMap_cons, List.append_assoc]
          exact (ih h).append_left _

end Pool
end Lib
