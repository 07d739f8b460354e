import Mathlib.Data.List.Sort
import FlyDpi.Lib.Runs

/-!
# Scan — reading a store entry by entry

A scan takes the keys of a store at one moment and reads their entries one after the other, while the
store goes on changing.

* `whole_congr` — what a scan at one moment returns depends on the readable entries only, when the
  keys come in their order.
* `atomic` — when a single entry changes, a scan returns what it would have returned at one moment.
-/

namespace Lib

inductive Scan (K B : Type)
  | idle
  | reading (rest : List K) (out : List B)
  | returned (out : List B)

namespace Scan

variable {σ K B : Type}

/-- What a scan returns that is made at one moment. -/
def whole (keys : σ → List K) (read : σ → K → Option B) (s : σ) : List B :=
  (keys s).filterMap (read s)

/-- A system and one scan of its state. -/
inductive Step (System : σ → σ → Prop) (keys : σ → List K) (read : σ → K → Option B) :
    σ × Scan K B → σ × Scan K B → Prop
  | system {s s' : σ} {c : Scan K B} (h : System s s') : Step System keys read (s, c) (s', c)
  | start {s : σ} : Step System keys read (s, idle) (s, reading (keys s) [])
  | next {s : σ} {k : K} {rest : List K} {out : List B} :
      Step System keys read (s, reading (k :: rest) out)
        (s, reading rest (out ++ (read s k).toList))
  | finish {s : σ} {out : List B} :
      Step System keys read (s, reading [] out) (s, returned out)

/-! ## Keys in their order -/

section Order

variable {le : K → K → Prop}

/-- Two ordered lists with the same elements are the same list. -/
theorem eq_of_ordered (hanti : ∀ a b, le a b → le b a → a = b) {l l' : List K}
    (hl : l.Pairwise le) (hl' : l'.Pairwise le) (hn : l.Nodup) (hn' : l'.Nodup)
    (h : ∀ k, k ∈ l ↔ k ∈ l') : l = l' := by
  have hperm : l.Perm l' := (List.perm_ext_iff_of_nodup hn hn').2 h
  exact hperm.eq_of_pairwise (fun a b _ _ => hanti a b) hl hl'

theorem filterMap_filter_isSome (f : K → Option B) (l : List K) :
    (l.filter fun k => (f k).isSome).filterMap f = l.filterMap f := by
  rw [List.filterMap_filter]
  apply List.filterMap_congr
  intro k _
  cases f k <;> rfl

theorem whole_congr (hanti : ∀ a b, le a b → le b a → a = b) {keys : σ → List K}
    (hkeys : ∀ s, (keys s).Pairwise le) (hnodup : ∀ s, (keys s).Nodup)
    {read : σ → K → Option B} {s s' : σ}
    (h : ∀ k b, (k ∈ keys s ∧ read s k = some b) ↔ (k ∈ keys s' ∧ read s' k = some b)) :
    whole keys read s = whole keys read s' := by
  have hreadable : (keys s).filter (fun k => (read s k).isSome) =
      (keys s').filter (fun k => (read s' k).isSome) := by
    refine eq_of_ordered hanti ((hkeys s).filter _) ((hkeys s').filter _) ((hnodup s).filter _)
      ((hnodup s').filter _) ?_
    intro k
    simp only [List.mem_filter, Option.isSome_iff_exists, ← exists_and_left, h k]
  have hread : ∀ k ∈ (keys s').filter (fun k => (read s' k).isSome), read s k = read s' k := by
    intro k hk
    rcases List.mem_filter.1 hk with ⟨hmem, hsome⟩
    rcases Option.isSome_iff_exists.1 hsome with ⟨b, hb⟩
    rw [hb, ((h k b).2 ⟨hmem, hb⟩).2]
  calc
    whole keys read s = ((keys s).filter fun k => (read s k).isSome).filterMap (read s) :=
          (filterMap_filter_isSome _ _).symm
    _ = ((keys s').filter fun k => (read s' k).isSome).filterMap (read s') := by
          rw [hreadable]
          exact List.filterMap_congr hread
    _ = whole keys read s' := filterMap_filter_isSome _ _

end Order

/-! ## One entry changes -/

section Atomic

variable {System : σ → σ → Prop} {keys : σ → List K} {read : σ → K → Option B} {t : K}

open Relation

/-- The scan so far is a scan made in an earlier state `v`; it is the present one as long as the
entry that changes has not been read. -/
def Inv (System : σ → σ → Prop) (keys : σ → List K) (read : σ → K → Option B) (t : K) (start : σ)
    (w : σ × Scan K B) : Prop :=
  ReflTransGen System start w.1 ∧
    match w.2 with
    | idle => True
    | reading rest out =>
        ∃ v seen, ReflTransGen System start v ∧ ReflTransGen System v w.1 ∧
          keys v = seen ++ rest ∧ out = seen.filterMap (read v) ∧ (t ∈ rest → v = w.1)
    | returned out =>
        ∃ v, ReflTransGen System start v ∧ ReflTransGen System v w.1 ∧ out = whole keys read v

theorem read_of_run (hothers : ∀ s s', System s s' → ∀ k, k ≠ t → read s' k = read s k) {s s' : σ}
    (h : ReflTransGen System s s') {k : K} (hk : k ≠ t) : read s' k = read s k :=
  Runs.invariant (I := fun s' => read s' k = read s k)
    (fun v v' hv hstep => (hothers v v' hstep k hk).trans hv) rfl h

theorem inv_step (hnodup : ∀ s, (keys s).Nodup)
    (hothers : ∀ s s', System s s' → ∀ k, k ≠ t → read s' k = read s k)
    (hkeys : ∀ s s', System s s' → t ∈ keys s → keys s' = keys s) {start : σ}
    {w w' : σ × Scan K B} (h : Inv System keys read t start w) (hstep : Step System keys read w w') :
    Inv System keys read t start w' := by
  rcases h with ⟨hrun, h⟩
  cases hstep with
  | @system s s' c hsystem =>
      refine ⟨hrun.tail hsystem, ?_⟩
      cases c with
      | idle =>
          trivial
      | returned out =>
          rcases h with ⟨v, hv, hvs, hout⟩
          exact ⟨v, hv, hvs.tail hsystem, hout⟩
      | reading rest out =>
          rcases h with ⟨v, seen, hv, hvs, hsplit, hout, hsame⟩
          by_cases ht : t ∈ rest
          · -- the scan moves on to the new state: what it has read is the same there
            have hvs' : v = s := hsame ht
            subst hvs'
            have hmem : t ∈ keys v := by
              rw [hsplit]
              exact List.mem_append_right _ ht
            have hseen : ∀ k ∈ seen, k ≠ t := by
              intro k hk heq
              have hdisjoint := List.nodup_append.1 (hsplit ▸ hnodup v)
              exact hdisjoint.2.2 k hk t ht heq
            refine ⟨s', seen, hv.tail hsystem, .refl, ?_, ?_, fun _ => rfl⟩
            · rw [hkeys v s' hsystem hmem, hsplit]
            · rw [hout]
              apply List.filterMap_congr
              intro k hk
              exact (hothers v s' hsystem k (hseen k hk)).symm
          · exact ⟨v, seen, hv, hvs.tail hsystem, hsplit, hout, fun h => absurd h ht⟩
  | start =>
      exact ⟨hrun, _, [], hrun, .refl, rfl, rfl, fun _ => rfl⟩
  | @next s k rest out =>
      rcases h with ⟨v, seen, hv, hvs, hsplit, hout, hsame⟩
      have hread : read s k = read v k := by
        by_cases hk : k = t
        · rw [hsame (by simp [hk])]
        · exact read_of_run hothers hvs hk
      refine ⟨hrun, v, seen ++ [k], hv, hvs, ?_, ?_, ?_⟩
      · rw [hsplit, List.append_assoc, List.singleton_append]
      · rw [hout, hread, List.filterMap_append]
        cases hk : read v k <;> simp [hk]
      · intro ht
        exact hsame (List.mem_cons_of_mem _ ht)
  | finish =>
      rcases h with ⟨v, seen, hv, hvs, hsplit, hout, _⟩
      refine ⟨hrun, v, hv, hvs, ?_⟩
      rw [hout, whole, hsplit, List.append_nil]

/-- When only the entry of `t` changes, and its key stays once it is there, a scan returns what a scan
made in one state of the run returns. -/
theorem atomic (hnodup : ∀ s, (keys s).Nodup)
    (hothers : ∀ s s', System s s' → ∀ k, k ≠ t → read s' k = read s k)
    (hkeys : ∀ s s', System s s' → t ∈ keys s → keys s' = keys s) {start s : σ} {out : List B}
    (h : ReflTransGen (Step System keys read) (start, idle) (s, returned out)) :
    ∃ v, ReflTransGen System start v ∧ ReflTransGen System v s ∧ out = whole keys read v :=
  (Runs.invariant (I := Inv System keys read t start)
    (fun _ _ hw hstep => inv_step hnodup hothers hkeys hw hstep) ⟨.refl, trivial⟩ h).2

/-- The system of a run with a scan is in a state of its own runs. -/
theorem system_run {start : σ} {w : σ × Scan K B}
    (h : ReflTransGen (Step System keys read) (start, idle) w) : ReflTransGen System start w.1 := by
  refine Runs.invariant (I := fun w => ReflTransGen System start w.1) ?_ .refl h
  intro w w' hw hstep
  cases hstep with
  | system hsystem =>
      exact hw.tail hsystem
  | start =>
      exact hw
  | next =>
      exact hw
  | finish =>
      exact hw

end Atomic

end Scan
end Lib
