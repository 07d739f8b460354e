import Mathlib.Data.List.Induction

/-!
# DropOldest — bounded queues that evict their oldest element

A bounded queue that discards from the front when it is full, with the bookkeeping such queues
are specified by.  `Accounts inp out q lost` says of a queue with contents `q` that

* `order` — what was delivered, followed by what is held, is a subsequence of the input: nothing
  is duplicated and nothing overtakes;
* `balance` — every input element is delivered, held or counted as lost.

Each queue operation has one rule for `Accounts`; `exists_sublist_map_of_sublist_filterMap` composes
two stages with a filter between them.
-/

namespace Lib

namespace DropOldest

variable {α β : Type}

/-- Append `a`, evicting the oldest element when `cap` are held. -/
def push (cap : Nat) (q : List α) (a : α) : List α :=
  (if cap ≤ q.length then q.tail else q) ++ [a]

/-- Number of elements `push` evicts. -/
def evicted (cap : Nat) (q : List α) : Nat :=
  if cap ≤ q.length then 1 else 0

/-! ## Bound -/

theorem length_push_le {cap : Nat} {q : List α} (a : α) (hcap : 0 < cap) (hq : q.length ≤ cap) :
    (push cap q a).length ≤ cap := by
  unfold push
  split
  · simp
    omega
  · simp
    omega

/-- Nothing but the new element comes in. -/
theorem mem_push {cap : Nat} {q : List α} {a b : α} (h : b ∈ push cap q a) : b ∈ q ∨ b = a := by
  unfold push at h
  split at h
  · rcases List.mem_append.1 h with hq | ha
    · exact Or.inl (List.mem_of_mem_tail hq)
    · exact Or.inr (List.mem_singleton.1 ha)
  · rcases List.mem_append.1 h with hq | ha
    · exact Or.inl hq
    · exact Or.inr (List.mem_singleton.1 ha)

/-! ## Images -/

theorem map_push (f : α → β) (cap : Nat) (q : List α) (a : α) :
    (push cap q a).map f = push cap (q.map f) (f a) := by
  unfold push
  rw [List.length_map]
  split <;> simp

theorem evicted_map (f : α → β) (cap : Nat) (q : List α) :
    evicted cap (q.map f) = evicted cap q := by
  simp [evicted]

/-! ## Accounting -/

structure Accounts (inp out q : List α) (lost : Nat) : Prop where
  order : (out ++ q).Sublist inp
  balance : inp.length = out.length + q.length + lost

namespace Accounts

variable {inp out q : List α} {lost : Nat}

theorem empty : Accounts ([] : List α) [] [] 0 :=
  ⟨List.Sublist.refl _, rfl⟩

theorem push (h : Accounts inp out q lost) {cap : Nat} (hcap : 0 < cap) (a : α) :
    Accounts (inp ++ [a]) out (push cap q a) (lost + evicted cap q) := by
  have hbal := h.balance
  unfold DropOldest.push evicted
  by_cases hfull : cap ≤ q.length
  · -- the evicted element leaves the subsequence and enters the count
    refine ⟨?_, ?_⟩
    · have htail : (out ++ q.tail).Sublist inp :=
        ((List.Sublist.refl out).append (List.tail_sublist q)).trans h.order
      simpa [hfull, List.append_assoc] using htail.append (List.Sublist.refl [a])
    · simp [hfull]
      omega
  · refine ⟨?_, ?_⟩
    · simpa [hfull, List.append_assoc] using h.order.append (List.Sublist.refl [a])
    · simp [hfull]
      omega

/-- Delivering the `n` oldest elements in order. -/
theorem take (h : Accounts inp out q lost) (n : Nat) :
    Accounts inp (out ++ q.take n) (q.drop n) lost := by
  refine ⟨?_, ?_⟩
  · simpa [List.append_assoc] using h.order
  · have hbal := h.balance
    have hlen : (q.take n).length + (q.drop n).length = q.length := by
      rw [← List.length_append, List.take_append_drop]
    simp only [List.length_append]
    omega

/-- What is thrown away counts as lost. -/
theorem clear (h : Accounts inp out q lost) : Accounts inp out [] (lost + q.length) := by
  refine ⟨?_, ?_⟩
  · rw [List.append_nil]
    exact (List.sublist_append_left out q).trans h.order
  · have hbal := h.balance
    simp
    omega

theorem delivered (h : Accounts inp out q lost) : out.Sublist inp :=
  (List.sublist_append_left out q).trans h.order

end Accounts

/-! ## Runs -/

inductive Op (α : Type)
  | push (a : α)
  | take (n : Nat)
  | clear

/-- A queue with its history: what came in, what was taken out, how many elements `clear` threw
away and how many were evicted. -/
structure Log (α : Type) where
  inp : List α
  out : List α
  q : List α
  cleared : Nat
  lost : Nat

namespace Log

def empty : Log α :=
  { inp := []
    out := []
    q := []
    cleared := 0
    lost := 0 }

def step (cap : Nat) (l : Log α) : Op α → Log α
  | .push a =>
      { l with
        inp := l.inp ++ [a]
        q := DropOldest.push cap l.q a
        lost := l.lost + evicted cap l.q }
  | .take n =>
      { l with
        out := l.out ++ l.q.take n
        q := l.q.drop n }
  | .clear =>
      { l with
        q := []
        cleared := l.cleared + l.q.length }

def run (cap : Nat) (ops : List (Op α)) : Log α :=
  ops.foldl (step cap) empty

/-- The queue holds the newest elements that came in, at most `cap` of them, and all others are
accounted for. -/
structure Sound (cap : Nat) (l : Log α) : Prop where
  bound : l.q.length ≤ cap
  recent : l.q <:+ l.inp
  accounts : Accounts l.inp l.out l.q (l.lost + l.cleared)

theorem push_suffix {cap : Nat} {q inp : List α} (h : q <:+ inp) (a : α) :
    DropOldest.push cap q a <:+ inp ++ [a] := by
  have hsuffix : (if cap ≤ q.length then q.tail else q) <:+ inp := by
    split
    · exact (List.tail_suffix q).trans h
    · exact h
  rcases hsuffix with ⟨pre, hpre⟩
  refine ⟨pre, ?_⟩
  rw [DropOldest.push, ← List.append_assoc, hpre]

theorem Sound.step {cap : Nat} (hcap : 0 < cap) {l : Log α} (h : Sound cap l) (op : Op α) :
    Sound cap (l.step cap op) := by
  cases op with
  | push a =>
      refine ⟨length_push_le a hcap h.bound, push_suffix h.recent a, ?_⟩
      have haccounts := h.accounts.push hcap a
      have hlost : l.lost + l.cleared + evicted cap l.q = l.lost + evicted cap l.q + l.cleared :=
        Nat.add_right_comm _ _ _
      rw [hlost] at haccounts
      exact haccounts
  | take n =>
      refine ⟨?_, (List.drop_suffix n l.q).trans h.recent, h.accounts.take n⟩
      exact Nat.le_trans (List.drop_sublist n l.q).length_le h.bound
  | clear =>
      refine ⟨Nat.zero_le _, List.nil_suffix, ?_⟩
      have haccounts := h.accounts.clear
      rw [Nat.add_assoc] at haccounts
      exact haccounts

theorem sound_run {cap : Nat} (hcap : 0 < cap) (ops : List (Op α)) : Sound cap (run cap ops) := by
  induction ops using List.reverseRecOn with
  | nil =>
      exact ⟨Nat.zero_le _, List.suffix_refl _, Accounts.empty⟩
  | append_singleton ops op ih =>
      rw [run, List.foldl_append]
      exact ih.step hcap op

end Log

/-! ## Composition through a partial function -/

theorem map_filter_isSome (f : α → Option β) (xs : List α) :
    (xs.filter fun x => (f x).isSome).map f = (xs.filterMap f).map some := by
  induction xs with
  | nil =>
      rfl
  | cons x xs ih =>
      cases hx : f x with
      | none =>
          simp [hx, ih]
      | some y =>
          simp [hx, ih]

/-- A subsequence of `xs.filterMap f` comes from a subsequence of `xs` that `f` keeps whole. -/
theorem exists_sublist_map_of_sublist_filterMap {f : α → Option β} {ys : List β} {xs : List α}
    (h : ys.Sublist (xs.filterMap f)) :
    ∃ zs : List α, zs.Sublist xs ∧ zs.map f = ys.map some := by
  -- lift to a subsequence of `xs`, then drop what `f` rejects
  rcases List.sublist_filterMap_iff.1 h with ⟨ws, hws, rfl⟩
  exact ⟨ws.filter fun x => (f x).isSome, List.filter_sublist.trans hws, map_filter_isSome f ws⟩

end DropOldest

end Lib
