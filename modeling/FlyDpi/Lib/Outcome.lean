import Mathlib.Init

/-!
# Outcome — computations that return, fail or panic

A call in a language with checked indexing ends in one of three ways: it returns a value, it
returns an error value of its own, or a bounds check aborts it.  `Outcome ε α` keeps the three
apart.  The module gives

* the monad structure and its inversion rules (`bind_eq_ok_iff`, `bind_ne_panic_iff`);
* the checked operations `index`, `slice` and `checkedSub`;
* `reject c e`, the early return “if `c` holds, return the error `e`”.
-/

namespace Lib

universe u

inductive Outcome (ε : Type) (α : Type u) : Type u where
  | ok (a : α)
  | err (e : ε)
  | panic
  deriving DecidableEq, Repr

namespace Outcome

variable {ε : Type} {α β : Type u}

/-! ## Monad structure -/

def bind (x : Outcome ε α) (f : α → Outcome ε β) : Outcome ε β :=
  match x with
  | ok a => f a
  | err e => err e
  | panic => panic

instance : Monad (Outcome ε) where
  pure := ok
  bind := bind

@[simp] theorem pure_eq_ok (a : α) : (pure a : Outcome ε α) = ok a := rfl

@[simp] theorem ok_bind (a : α) (f : α → Outcome ε β) : (ok a >>= f) = f a := rfl

@[simp] theorem err_bind (e : ε) (f : α → Outcome ε β) : (err e >>= f) = err e := rfl

@[simp] theorem panic_bind (f : α → Outcome ε β) : ((panic : Outcome ε α) >>= f) = panic := rfl

instance : LawfulMonad (Outcome ε) :=
  LawfulMonad.mk' (Outcome ε)
    (by
      intro α x
      cases x <;> rfl)
    (by
      intro α β a f
      rfl)
    (by
      intro α β γ x f g
      cases x <;> rfl)

/-! ## Inversion -/

theorem bind_eq_ok_iff {x : Outcome ε α} {f : α → Outcome ε β} {b : β} :
    (x >>= f) = ok b ↔ ∃ a, x = ok a ∧ f a = ok b := by
  cases x with
  | ok a =>
      simp
  | err e =>
      simp
  | panic =>
      simp

theorem bind_ne_panic_iff {x : Outcome ε α} {f : α → Outcome ε β} :
    (x >>= f) ≠ panic ↔ x ≠ panic ∧ ∀ a, x = ok a → f a ≠ panic := by
  cases x with
  | ok a =>
      simp
  | err e =>
      simp
  | panic =>
      simp

/-- What holds at first and is kept by every call that returns holds after a run that returns. -/
theorem foldlM_induction {σ : Type u} {γ : Type} {f : σ → γ → Outcome ε σ} {I : σ → Prop}
    (hstep : ∀ s x s', I s → f s x = ok s' → I s') {xs : List γ} {s s' : σ} (hs : I s)
    (h : xs.foldlM f s = ok s') : I s' := by
  induction xs generalizing s with
  | nil =>
      cases h
      exact hs
  | cons x xs ih =>
      rw [List.foldlM_cons, bind_eq_ok_iff] at h
      rcases h with ⟨t, ht, h⟩
      exact ih (hstep s x t hs ht) h

/-! ## Early return of an error -/

/-- `if c { return Err(e) }`. -/
def reject (c : Prop) [Decidable c] (e : ε) : Outcome ε PUnit :=
  if c then err e else ok ⟨⟩

@[simp] theorem reject_eq_ok_iff {c : Prop} [Decidable c] {e : ε} {a : PUnit} :
    reject c e = ok a ↔ ¬ c := by
  unfold reject
  split <;> simp_all

@[simp] theorem reject_ne_panic {c : Prop} [Decidable c] {e : ε} : reject c e ≠ panic := by
  unfold reject
  split <;> simp

theorem reject_of_not {c : Prop} [Decidable c] {e : ε} (h : ¬ c) : reject c e = ok ⟨⟩ :=
  reject_eq_ok_iff.2 h

theorem reject_of {c : Prop} [Decidable c] {e : ε} (h : c) : reject c e = err e := by
  simp [reject, h]

/-! ## Checked operations -/

section Checked

variable {γ : Type}

/-- `xs[i]`, which panics outside the bounds. -/
def index (xs : List γ) (i : Nat) : Outcome ε γ :=
  match xs[i]? with
  | some a => ok a
  | none => panic

/-- `&xs[a..b]`, which panics unless `a ≤ b ≤ xs.len()`. -/
def slice (xs : List γ) (a b : Nat) : Outcome ε (List γ) :=
  if a ≤ b ∧ b ≤ xs.length then ok ((xs.take b).drop a) else panic

/-- `a - b` on an unsigned type, which panics on underflow. -/
def checkedSub (a b : Nat) : Outcome ε Nat :=
  if b ≤ a then ok (a - b) else panic

@[simp] theorem index_eq_ok_iff {xs : List γ} {i : Nat} {a : γ} :
    (index xs i : Outcome ε γ) = ok a ↔ xs[i]? = some a := by
  unfold index
  cases xs[i]? <;> simp

@[simp] theorem index_ne_panic_iff {xs : List γ} {i : Nat} :
    (index xs i : Outcome ε γ) ≠ panic ↔ i < xs.length := by
  unfold index
  cases h : xs[i]? with
  | none =>
      simpa using h
  | some a =>
      have : i < xs.length := (List.getElem?_eq_some_iff.1 h).1
      simpa using this

@[simp] theorem slice_eq_ok_iff {xs ys : List γ} {a b : Nat} :
    (slice xs a b : Outcome ε (List γ)) = ok ys ↔
      a ≤ b ∧ b ≤ xs.length ∧ (xs.take b).drop a = ys := by
  unfold slice
  by_cases h : a ≤ b ∧ b ≤ xs.length
  · rw [if_pos h, ok.injEq]
    simp [h.1, h.2]
  · rw [if_neg h]
    simp only [reduceCtorEq, false_iff]
    rintro ⟨hab, hb, _⟩
    exact h ⟨hab, hb⟩

@[simp] theorem checkedSub_eq_ok_iff {a b c : Nat} :
    (checkedSub a b : Outcome ε Nat) = ok c ↔ b ≤ a ∧ a - b = c := by
  unfold checkedSub
  split
  · simp_all
  · simp only [reduceCtorEq, false_iff, not_and]
    omega

/-- Slicing `n` elements behind a prefix. -/
theorem slice_append_take (pre rest : List γ) {n : Nat} (h : n ≤ rest.length) :
    (slice (pre ++ rest) pre.length (pre.length + n) : Outcome ε (List γ)) =
      ok (rest.take n) := by
  rw [slice_eq_ok_iff]
  refine ⟨Nat.le_add_right _ _, ?_, ?_⟩
  · rw [List.length_append]
    exact Nat.add_le_add_left h _
  · rw [List.take_length_add_append, List.drop_left]

/-- Slicing a concatenation at its two seams returns the middle part. -/
theorem slice_append_append (xs ys zs : List γ) :
    (slice (xs ++ (ys ++ zs)) xs.length (xs.length + ys.length) : Outcome ε (List γ)) =
      ok ys := by
  have hle : ys.length ≤ (ys ++ zs).length := by simp
  rw [slice_append_take xs (ys ++ zs) hle, List.take_left]

/-! ## No-panic rules

One rule per primitive, to be chained along a `do` block: each discharges the bound of its read and
passes on what the read returned. -/

variable {δ : Type} {e : ε} {c : Prop} [Decidable c]

theorem reject_bind_ne_panic {f : PUnit → Outcome ε δ} (hf : ¬ c → f ⟨⟩ ≠ panic) :
    (reject c e >>= f) ≠ panic := by
  refine bind_ne_panic_iff.2 ⟨reject_ne_panic, ?_⟩
  intro _ h
  exact hf (reject_eq_ok_iff.1 h)

theorem index_bind_ne_panic {xs : List γ} {i : Nat} {f : γ → Outcome ε δ} (hi : i < xs.length)
    (hf : ∀ a, xs[i]? = some a → f a ≠ panic) : (index xs i >>= f) ≠ panic := by
  refine bind_ne_panic_iff.2 ⟨index_ne_panic_iff.2 hi, ?_⟩
  intro a h
  exact hf a (index_eq_ok_iff.1 h)

theorem slice_bind_ne_panic {xs : List γ} {a b : Nat} {f : List γ → Outcome ε δ} (hab : a ≤ b)
    (hb : b ≤ xs.length) (hf : f ((xs.take b).drop a) ≠ panic) : (slice xs a b >>= f) ≠ panic := by
  rw [slice_eq_ok_iff.2 ⟨hab, hb, rfl⟩, ok_bind]
  exact hf

theorem checkedSub_bind_ne_panic {a b : Nat} {f : Nat → Outcome ε δ} (h : b ≤ a)
    (hf : f (a - b) ≠ panic) : (checkedSub a b >>= f) ≠ panic := by
  rw [checkedSub_eq_ok_iff.2 ⟨h, rfl⟩, ok_bind]
  exact hf

end Checked

end Outcome

end Lib
