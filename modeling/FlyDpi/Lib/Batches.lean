import Mathlib.Data.List.Infix

/-!
# Batches — one stream taken by several readers, a batch at a time

Readers take elements from the front of a shared stream.  One reader at a time has a batch open, and
what it takes goes into that batch.

* `taken` — everything taken so far is the finished batches one after the other, then the open one.
* `owned` — the finished batches of one reader, in their order.
-/

namespace Lib

variable {κ α : Type}

structure Batches (κ α : Type) where
  finished : List (κ × List α)
  current : Option (κ × List α)

namespace Batches

def new : Batches κ α :=
  { finished := []
    current := none }

def opened (b : Batches κ α) (reader : κ) : Batches κ α :=
  { b with current := some (reader, []) }

def took (b : Batches κ α) (x : α) : Batches κ α :=
  { b with current := b.current.map fun batch => (batch.1, batch.2 ++ [x]) }

def closed (b : Batches κ α) : Batches κ α :=
  { finished := b.finished ++ b.current.toList
    current := none }

def taken (b : Batches κ α) : List α :=
  b.finished.flatMap Prod.snd ++ (b.current.map Prod.snd).getD []

def owned [DecidableEq κ] (b : Batches κ α) (reader : κ) : List (List α) :=
  (b.finished.filter fun batch => batch.1 = reader).map Prod.snd

section Operations

variable {b : Batches κ α} {reader : κ} {out : List α}

theorem taken_opened (h : b.current = none) (reader : κ) : (b.opened reader).taken = b.taken := by
  simp [taken, opened, h]

theorem taken_took (h : b.current = some (reader, out)) (x : α) :
    (b.took x).taken = b.taken ++ [x] := by
  simp [taken, took, h]

theorem taken_closed (b : Batches κ α) : b.closed.taken = b.taken := by
  cases h : b.current with
  | none =>
      simp [taken, closed, h]
  | some batch =>
      simp [taken, closed, h]

variable [DecidableEq κ]

theorem owned_closed_self (h : b.current = some (reader, out)) :
    b.closed.owned reader = b.owned reader ++ [out] := by
  simp [owned, closed, h]

theorem owned_closed_of_ne (h : b.current = some (reader, out)) {other : κ} (hne : reader ≠ other) :
    b.closed.owned other = b.owned other := by
  simp [owned, closed, h, hne]

/-- A batch is a block of the stream: nothing was taken by others between its elements. -/
theorem infix_of_mem_owned {batch : List α} (h : batch ∈ b.owned reader) : batch <:+: b.taken := by
  rcases List.mem_map.1 h with ⟨entry, hentry, rfl⟩
  rcases List.append_of_mem (List.mem_of_mem_filter hentry) with ⟨before, after, hsplit⟩
  refine ⟨before.flatMap Prod.snd,
    after.flatMap Prod.snd ++ (b.current.map Prod.snd).getD [], ?_⟩
  simp [taken, hsplit]

theorem mem_taken_of_mem_owned {batch : List α} (h : batch ∈ b.owned reader) {x : α}
    (hx : x ∈ batch) : x ∈ b.taken :=
  (infix_of_mem_owned h).subset hx

end Operations

end Batches
end Lib
