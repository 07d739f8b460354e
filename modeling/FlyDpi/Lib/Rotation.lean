import Mathlib.Data.List.DropRight
import FlyDpi.Lib.Table

/-!
# Rotation — tables that evict their oldest entries

A table is listed by a sequence when the two have the same entries.  New entries go to the end of the
sequence and eviction takes entries off its front, so a table that is kept below a limit holds the
last entries that were put into it.  Sorting by an age that grows along the sequence recovers it.
-/

namespace Lib

namespace Table

variable {K V : Type}

/-- The entries of a table as pairs. -/
def pairs (t : Table K V) : List (K × V) :=
  t.entries.map fun e => (e.1, e.2)

/-- The entries of the table are those of the sequence, in some order. -/
def Lists (t : Table K V) (xs : List (K × V)) : Prop :=
  t.pairs.Perm xs

theorem map_fst_pairs (t : Table K V) : t.pairs.map Prod.fst = t.keys := by
  simp [pairs, AList.keys, List.keys]

theorem lists_empty : Lists (∅ : Table K V) [] :=
  List.Perm.refl _

namespace Lists

variable {t : Table K V} {xs : List (K × V)} {k : K} {v : V}

theorem keys_perm (h : t.Lists xs) : t.keys.Perm (xs.map Prod.fst) := by
  rw [← map_fst_pairs]
  exact h.map Prod.fst

theorem nodup (h : t.Lists xs) : (xs.map Prod.fst).Nodup :=
  h.keys_perm.nodup t.keys_nodup

theorem size_eq (h : t.Lists xs) : t.size = xs.length := by
  have hlength := h.length_eq
  rwa [pairs, List.length_map] at hlength

theorem notMem (h : t.Lists xs) (hk : k ∉ xs.map Prod.fst) : k ∉ t := by
  intro hmem
  exact hk (h.keys_perm.subset (AList.mem_keys.1 hmem))

variable [DecidableEq K]

theorem lookup_eq_some_iff (h : t.Lists xs) : t.lookup k = some v ↔ (k, v) ∈ xs := by
  rw [Table.lookup_eq_some_iff, ← h.mem_iff, pairs, List.mem_map]
  constructor
  · intro he
    exact ⟨_, he, rfl⟩
  · rintro ⟨e, he, heq⟩
    cases heq
    exact he

/-- An entry under a new key comes last. -/
theorem insert (h : t.Lists xs) (hk : k ∉ xs.map Prod.fst) :
    Lists (AList.insert k v t) (xs ++ [(k, v)]) := by
  have hentries : pairs (AList.insert k v t) = (k, v) :: t.pairs := by
    rw [pairs, AList.entries_insert_of_notMem (h.notMem hk), List.map_cons]
    rfl
  rw [Lists, hentries]
  exact (List.Perm.cons _ h).trans (List.perm_append_singleton _ _).symm

theorem erase_head (h : t.Lists ((k, v) :: xs)) : Lists (AList.erase k t) xs := by
  have hmem : k ∈ t := by
    rw [← AList.lookup_isSome, h.lookup_eq_some_iff.2 (List.mem_cons_self ..)]
    rfl
  rcases List.exists_of_kerase (AList.mem_keys.1 hmem) with ⟨b, l₁, l₂, _, hentries, herase⟩
  have hb : t.lookup k = some b := by
    rw [Table.lookup_eq_some_iff, hentries]
    simp
  have hv : b = v := by
    rw [h.lookup_eq_some_iff.2 (List.mem_cons_self ..), Option.some.injEq] at hb
    exact hb.symm
  subst hv
  -- the entry is moved to the front and cancelled there
  have herased : pairs (AList.erase k t) = (l₁ ++ l₂).map fun e => (e.1, e.2) :=
    congrArg (List.map _) herase
  have hfront : ((k, b) :: pairs (AList.erase k t)).Perm ((k, b) :: xs) := by
    refine List.Perm.trans ?_ h
    rw [herased, pairs, hentries, List.map_append, List.map_append, List.map_cons]
    exact List.perm_middle.symm
  exact List.Perm.cons_inv hfront

end Lists

/-! ## Eviction -/

variable [DecidableEq K]

/-- Erase keys from the front of the list as long as it is longer than `limit`. -/
def evict (limit : Nat) (t : Table K V) : List K → Table K V
  | [] => t
  | k :: ks => if limit < ks.length + 1 then evict limit (AList.erase k t) ks else t

theorem evict_of_length_le {limit : Nat} {ks : List K} (h : ks.length ≤ limit) (t : Table K V) :
    evict limit t ks = t := by
  cases ks with
  | nil =>
      rfl
  | cons k ks =>
      rw [evict, if_neg]
      rw [List.length_cons] at h
      omega

/-- Evicting in the order of the sequence leaves its end. -/
theorem Lists.evict {t : Table K V} {xs : List (K × V)} (h : t.Lists xs) (limit : Nat) :
    Lists (evict limit t (xs.map Prod.fst)) (xs.rtake limit) := by
  induction xs generalizing t with
  | nil =>
      rwa [List.rtake_nil]
  | cons x xs ih =>
      rw [List.map_cons, Table.evict, List.length_map]
      split
      · rename_i hlong
        have hend : (x :: xs).rtake limit = xs.rtake limit := by
          have hsub : xs.length + 1 - limit = xs.length - limit + 1 := by
            omega
          rw [List.rtake, List.rtake, List.length_cons, hsub, List.drop_succ_cons]
        rw [hend]
        exact ih h.erase_head
      · rename_i hshort
        have hall : (x :: xs).rtake limit = x :: xs := by
          rw [List.rtake, List.length_cons, Nat.sub_eq_zero_of_le (by omega), List.drop_zero]
        rwa [hall]

end Table

/-! ## The end of a growing list -/

/-- Keeping the end of a list while it grows keeps the end of the whole. -/
theorem rtake_rtake_concat {α : Type} {limit : Nat} (hlimit : 0 < limit) (xs : List α) (x : α) :
    (xs.rtake limit ++ [x]).rtake limit = (xs ++ [x]).rtake limit := by
  rcases Nat.exists_eq_succ_of_ne_zero (Nat.ne_of_gt hlimit) with ⟨n, rfl⟩
  rw [List.rtake_concat_succ, List.rtake_concat_succ]
  congr 1
  rw [List.rtake, List.rtake, List.rtake, List.length_drop, List.drop_drop]
  congr 1
  omega

theorem mem_rtake_concat {α : Type} {limit : Nat} (hlimit : 0 < limit) (xs : List α) (x : α) :
    x ∈ (xs ++ [x]).rtake limit := by
  rcases Nat.exists_eq_succ_of_ne_zero (Nat.ne_of_gt hlimit) with ⟨n, rfl⟩
  rw [List.rtake_concat_succ]
  exact List.mem_append_right _ (List.mem_singleton.2 rfl)

/-! ## Sorting by age -/

/-- Sorting recovers a sequence in which every element is strictly before those behind it. -/
theorem mergeSort_eq_of_perm {α : Type} {le : α → α → Bool}
    (htrans : ∀ a b c, le a b = true → le b c = true → le a c = true)
    (htotal : ∀ a b, (le a b || le b a) = true) {l xs : List α} (hperm : l.Perm xs)
    (hxs : xs.Pairwise fun a b => le a b = true ∧ le b a = false) : l.mergeSort le = xs := by
  have hsort : (l.mergeSort le).Perm xs := (List.mergeSort_perm l le).trans hperm
  -- no two elements of the sequence are equally old
  have hstrict : ∀ ⦃a⦄, a ∈ xs → ∀ ⦃b⦄, b ∈ xs → le a b = true ∧ le b a = true → a = b := by
    refine List.Pairwise.forall_of_forall_of_flip (fun _ _ _ => rfl) (hxs.imp ?_) (hxs.imp ?_)
    · intro a b h hab
      rw [h.2] at hab
      cases hab.2
    · intro a b h hba
      rw [h.2] at hba
      cases hba.1
  have hantisymm : ∀ a b, a ∈ l.mergeSort le → b ∈ xs → le a b = true → le b a = true → a = b := by
    intro a b ha hb hab hba
    exact hstrict (hsort.subset ha) hb ⟨hab, hba⟩
  exact List.Perm.eq_of_pairwise hantisymm (List.pairwise_mergeSort htrans htotal l)
    (hxs.imp And.left) hsort

end Lib
