import FlyDpi.Lib.Bytes

/-!
# Cursor — what stands at an offset

`At bs pos xs` says that the sequence `xs` stands in `bs` at offset `pos`.  Splitting rules take a
layout apart field by field, and each checked read has a rule that turns such a fact into its
result.  A decoder is verified against an encoder by taking the encoding apart with the splitting
rules and then rewriting the reads.
-/

namespace Lib

variable {α : Type}

def At (bs : List α) (pos : Nat) (xs : List α) : Prop :=
  ∃ pre post, bs = pre ++ (xs ++ post) ∧ pre.length = pos

namespace At

variable {bs xs ys : List α} {pos : Nat} {x : α}

theorem of_append (xs ys : List α) : At (xs ++ ys) 0 xs :=
  ⟨[], ys, by simp, rfl⟩

theorem self (xs : List α) : At xs 0 xs :=
  ⟨[], [], by simp, rfl⟩

theorem le_length (h : At bs pos xs) : pos + xs.length ≤ bs.length := by
  rcases h with ⟨pre, post, rfl, rfl⟩
  simp

theorem append_iff : At bs pos (xs ++ ys) ↔ At bs pos xs ∧ At bs (pos + xs.length) ys := by
  constructor
  · rintro ⟨pre, post, rfl, rfl⟩
    exact ⟨⟨pre, ys ++ post, by simp, rfl⟩, ⟨pre ++ xs, post, by simp, by simp⟩⟩
  · rintro ⟨⟨pre, post, rfl, rfl⟩, ⟨pre', post', heq, hlen⟩⟩
    -- dropping the common prefix leaves what follows `xs`, in both descriptions
    have hpost : post = ys ++ post' := by
      have hdrop := congrArg (List.drop (pre.length + xs.length)) heq
      rw [← hlen, List.drop_left, hlen, ← List.append_assoc, ← List.length_append,
        List.drop_left] at hdrop
      exact hdrop
    exact ⟨pre, post', by rw [hpost]; simp, rfl⟩

theorem singleton_iff : At bs pos [x] ↔ bs[pos]? = some x := by
  constructor
  · rintro ⟨pre, post, rfl, rfl⟩
    simp
  · intro h
    rcases List.getElem?_eq_some_iff.1 h with ⟨hlt, hx⟩
    refine ⟨bs.take pos, bs.drop (pos + 1), ?_, by simp; omega⟩
    rw [List.singleton_append, ← hx, List.getElem_cons_drop, List.take_append_drop]

theorem cons_iff : At bs pos (x :: xs) ↔ bs[pos]? = some x ∧ At bs (pos + 1) xs := by
  rw [← List.singleton_append, append_iff, singleton_iff]
  simp

theorem nil_iff : At bs pos [] ↔ pos ≤ bs.length := by
  constructor
  · intro h
    exact h.le_length
  · intro h
    exact ⟨bs.take pos, bs.drop pos, by simp, by simp; omega⟩

/-- Any window inside the bounds stands where it was cut. -/
theorem window {n : Nat} (h : pos + n ≤ bs.length) : At bs pos ((bs.drop pos).take n) := by
  refine ⟨bs.take pos, (bs.drop pos).drop n, ?_, by simp; omega⟩
  rw [List.take_append_drop, List.take_append_drop]

theorem eq_window (h : At bs pos xs) : (bs.drop pos).take xs.length = xs := by
  rcases h with ⟨pre, post, rfl, rfl⟩
  simp

/-- Two sequences of one length that stand at one offset are the same. -/
theorem eq_of_length_eq (hx : At bs pos xs) (hy : At bs pos ys) (hlen : xs.length = ys.length) :
    xs = ys := by
  rw [← hx.eq_window, hlen, hy.eq_window]

theorem zero_iff : At bs 0 xs ↔ ∃ trailing, bs = xs ++ trailing := by
  constructor
  · rintro ⟨pre, post, rfl, hpre⟩
    rw [List.eq_nil_of_length_eq_zero hpre]
    exact ⟨post, rfl⟩
  · rintro ⟨trailing, rfl⟩
    exact At.of_append xs trailing

/-- A slice stands where it was cut, and is as long as its bounds say. -/
theorem of_slice {a b : Nat} (hab : a ≤ b) (hb : b ≤ bs.length)
    (h : (bs.take b).drop a = xs) : At bs a xs ∧ xs.length = b - a := by
  have hcut : (bs.drop a).take (b - a) = xs := by
    rw [← List.drop_take]
    exact h
  rw [← hcut]
  refine ⟨window (by omega), ?_⟩
  rw [List.length_take, List.length_drop]
  omega

/-! ## Reads -/

open Outcome

variable {ε : Type}

theorem slice_eq (h : At bs pos xs) :
    (slice bs pos (pos + xs.length) : Outcome ε (List α)) = ok xs := by
  rcases h with ⟨pre, post, rfl, rfl⟩
  exact slice_append_append pre xs post

end At

open Outcome Bytes in
/-- `u16::from_be_bytes([bytes[i], bytes[i + 1]])`. -/
def readU16Be {ε : Type} (bytes : Bytes) (i : Nat) : Outcome ε UInt16 := do
  let hi ← index bytes i
  let lo ← index bytes (i + 1)
  return u16FromBeBytes hi lo

section ReadU16

open Outcome Bytes

variable {ε : Type} {bytes : Bytes} {i : Nat} {v : UInt16}

theorem readU16Be_eq_ok_iff :
    (readU16Be bytes i : Outcome ε UInt16) = ok v ↔ At bytes i (u16ToBeBytes v) := by
  simp only [readU16Be, bind_eq_ok_iff, index_eq_ok_iff, pure_eq_ok, ok.injEq]
  constructor
  · rintro ⟨hi, h1, lo, h2, rfl⟩
    rw [u16ToBeBytes_fromBeBytes, At.cons_iff, At.singleton_iff]
    exact ⟨h1, h2⟩
  · intro h
    rw [u16ToBeBytes_eq, At.cons_iff, At.singleton_iff] at h
    exact ⟨_, h.1, _, h.2, u16FromBeBytes_toBytes v⟩

theorem exists_readU16Be (hi : i + 2 ≤ bytes.length) :
    ∃ v, (readU16Be bytes i : Outcome ε UInt16) = ok v := by
  have h1 : bytes[i]? = some bytes[i] := List.getElem?_eq_some_iff.2 ⟨by omega, rfl⟩
  have h2 : bytes[i + 1]? = some bytes[i + 1] := List.getElem?_eq_some_iff.2 ⟨by omega, rfl⟩
  refine ⟨u16FromBeBytes bytes[i] bytes[i + 1], ?_⟩
  unfold readU16Be
  rw [index_eq_ok_iff.2 h1, ok_bind, index_eq_ok_iff.2 h2, ok_bind]
  rfl

theorem readU16Be_bind_ne_panic {δ : Type} {f : UInt16 → Outcome ε δ} (hi : i + 2 ≤ bytes.length)
    (hf : ∀ v, At bytes i (u16ToBeBytes v) → f v ≠ panic) : (readU16Be bytes i >>= f) ≠ panic := by
  refine bind_ne_panic_iff.2 ⟨?_, ?_⟩
  · refine index_bind_ne_panic (by omega) fun hi _ => ?_
    refine index_bind_ne_panic (by omega) fun lo _ => ?_
    simp
  · intro v h
    exact hf v (readU16Be_eq_ok_iff.1 h)

end ReadU16

end Lib
