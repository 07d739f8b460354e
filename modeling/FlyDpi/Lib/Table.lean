import Mathlib.Algebra.GroupWithZero.Nat
import Mathlib.Data.List.AList
import Mathlib.Data.Finset.Card

/-!
# Table — finite maps with an update and a retain operation

`Table K V` is Mathlib's `AList` at a constant value type: an association list that carries the
distinctness of its keys.  Two operations of hash-map APIs are missing there and are added:

* `upsert` — look the entry of a key up (or start it) and replace it by a function of what was found;
* `retain` — keep the entries that satisfy a predicate.

The point lemmas say what `lookup` returns after each; the counting lemmas say how `size` and the
set of keys move.
-/

namespace Lib

abbrev Table (K V : Type) := AList (fun _ : K => V)

namespace Table

variable {K V : Type}

/-- Number of entries. -/
def size (t : Table K V) : Nat :=
  t.entries.length

/-- Keep the entries that satisfy `p`. -/
def retain (t : Table K V) (p : K → V → Bool) : Table K V :=
  ⟨t.entries.filter fun e => p e.1 e.2, t.nodupKeys.sublist List.filter_sublist⟩

@[simp] theorem size_empty : size (∅ : Table K V) = 0 := rfl

variable [DecidableEq K]

/-- The set of keys that have an entry. -/
def keySet (t : Table K V) : Finset K :=
  t.keys.toFinset

/-- Replace the entry of `k` by `f` of the entry that was there. -/
def upsert (t : Table K V) (k : K) (f : Option V → V) : Table K V :=
  t.insert k (f (t.lookup k))

/-! ## Point lemmas -/

@[simp] theorem lookup_upsert_self (t : Table K V) (k : K) (f : Option V → V) :
    (t.upsert k f).lookup k = some (f (t.lookup k)) := by
  simp [upsert]

theorem lookup_upsert_ne {t : Table K V} {k k' : K} {f : Option V → V} (h : k' ≠ k) :
    (t.upsert k f).lookup k' = t.lookup k' := by
  simp [upsert, AList.lookup_insert_ne h]

theorem lookup_eq_some_iff {t : Table K V} {k : K} {v : V} :
    t.lookup k = some v ↔ (⟨k, v⟩ : Sigma fun _ : K => V) ∈ t.entries :=
  AList.mem_lookup_iff

/-- `retain` filters what `lookup` returns. -/
theorem lookup_retain (t : Table K V) (p : K → V → Bool) (k : K) :
    (t.retain p).lookup k = (t.lookup k).filter (p k) := by
  apply Option.ext
  intro v
  simp only [Option.filter_eq_some_iff, lookup_eq_some_iff]
  simp [retain]

/-! ## Key sets -/

theorem size_eq_card (t : Table K V) : t.size = t.keySet.card := by
  rw [keySet, List.toFinset_card_of_nodup t.keys_nodup]
  simp [size, AList.keys, List.keys]

@[simp] theorem keySet_empty : keySet (∅ : Table K V) = ∅ := rfl

theorem keySet_upsert (t : Table K V) (k : K) (f : Option V → V) :
    (t.upsert k f).keySet = insert k t.keySet := by
  ext k'
  have hmem : k' ∈ t.upsert k f ↔ k' = k ∨ k' ∈ t := AList.mem_insert t
  simpa [keySet, AList.mem_keys] using hmem

theorem mem_keySet {t : Table K V} {k : K} : k ∈ t.keySet ↔ (t.lookup k).isSome := by
  rw [AList.lookup_isSome]
  simp [keySet, AList.mem_keys]

/-- Two tables with entries for the same keys have the same number of them. -/
theorem size_congr {V' : Type} {t : Table K V} {t' : Table K V'}
    (h : ∀ k, (t.lookup k).isSome ↔ (t'.lookup k).isSome) : t.size = t'.size := by
  rw [size_eq_card, size_eq_card]
  congr 1
  ext k
  rw [mem_keySet, mem_keySet, h k]

theorem keySet_retain_subset (t : Table K V) (p : K → V → Bool) :
    (t.retain p).keySet ⊆ t.keySet := by
  intro k hk
  rw [mem_keySet, lookup_retain] at hk
  rw [mem_keySet]
  exact Option.isSome_of_isSome_filter _ _ hk

/-- What `retain` takes off the size is the number of keys it removed. -/
theorem size_sub_size_retain (t : Table K V) (p : K → V → Bool) :
    t.size - (t.retain p).size = (t.keySet \ (t.retain p).keySet).card := by
  rw [size_eq_card, size_eq_card, Finset.card_sdiff_of_subset (keySet_retain_subset t p)]

/-! ## Totals -/

/-- The sum of a weight over the entries. -/
def total (t : Table K V) (w : V → Nat) : Nat :=
  (t.entries.map fun e => w e.2).sum

theorem entries_erase (t : Table K V) (k : K) :
    AList.entries (t.erase k) = t.entries.kerase k :=
  rfl

/-- The entry of a key, if there is one, is split off the total. -/
theorem total_eq_erase (t : Table K V) (k : K) (w : V → Nat) :
    t.total w = ((t.lookup k).map w).getD 0 + total (t.erase k) w := by
  cases hk : t.lookup k with
  | none =>
      have hnot : k ∉ t.entries.keys := AList.lookup_eq_none.1 hk
      simp [total, entries_erase, List.kerase_of_notMem_keys hnot]
  | some v =>
      have hmem : k ∈ t := AList.lookup_isSome.1 (by rw [hk]; rfl)
      rcases List.exists_of_kerase (AList.mem_keys.1 hmem) with ⟨b, l₁, l₂, _, hentries, herase⟩
      have hb : t.lookup k = some b := by
        rw [lookup_eq_some_iff, hentries]
        simp
      have hv : b = v := Option.some.inj (hb.symm.trans hk)
      subst hv
      rw [hentries] at herase
      simp only [total, entries_erase, hentries, herase, Option.map_some, Option.getD_some,
        List.map_append, List.map_cons, List.sum_append, List.sum_cons]
      omega

/-- An update moves the total by what it moves the entry. -/
theorem total_upsert (t : Table K V) (k : K) (f : Option V → V) (w : V → Nat) :
    (t.upsert k f).total w + ((t.lookup k).map w).getD 0 = t.total w + w (f (t.lookup k)) := by
  have hnew : (t.upsert k f).total w = w (f (t.lookup k)) + total (t.erase k) w := by
    simp [total, upsert, AList.insert, List.kinsert, entries_erase]
  rw [hnew, total_eq_erase t k w]
  omega

/-! ## Two tables side by side -/

variable {V' : Type}

/-- The two tables have entries for the same keys, and `R` holds between the entries of a key. -/
def Related (R : V → V' → Prop) (t : Table K V) (t' : Table K V') : Prop :=
  ∀ k, Option.Rel R (t.lookup k) (t'.lookup k)

namespace Related

variable {R : V → V' → Prop} {t : Table K V} {t' : Table K V'}

theorem empty : Related R (∅ : Table K V) ∅ := by
  intro k
  simp only [AList.lookup_empty]
  exact Option.Rel.none

theorem lookup_cases (h : Related R t t') (k : K) :
    (t.lookup k = none ∧ t'.lookup k = none) ∨
      ∃ v v', t.lookup k = some v ∧ t'.lookup k = some v' ∧ R v v' := by
  have hk := h k
  generalize t.lookup k = o, t'.lookup k = o' at hk ⊢
  cases hk with
  | none =>
      left
      exact ⟨rfl, rfl⟩
  | @some v v' hR =>
      right
      exact ⟨v, v', rfl, rfl, hR⟩

theorem upsert (h : Related R t t') (k : K) {f : Option V → V} {f' : Option V' → V'}
    (hf : ∀ v v', Option.Rel R v v' → R (f v) (f' v')) :
    Related R (t.upsert k f) (t'.upsert k f') := by
  intro k'
  by_cases hk : k' = k
  · subst hk
    rw [lookup_upsert_self, lookup_upsert_self]
    exact Option.Rel.some (hf _ _ (h k'))
  · rw [lookup_upsert_ne hk, lookup_upsert_ne hk]
    exact h k'

theorem retain (h : Related R t t') {p : K → V → Bool} {p' : K → V' → Bool}
    (hp : ∀ k v v', R v v' → p k v = p' k v') : Related R (t.retain p) (t'.retain p') := by
  intro k
  rw [lookup_retain, lookup_retain]
  rcases h.lookup_cases k with ⟨hv, hv'⟩ | ⟨v, v', hv, hv', hR⟩
  · rw [hv, hv']
    exact Option.Rel.none
  · -- the entries are kept or dropped together
    have hsame : p k v = p' k v' := hp k v v' hR
    rw [hv, hv']
    cases hkeep : p' k v' with
    | true =>
        simp only [Option.filter, hsame, hkeep, if_true]
        exact Option.Rel.some hR
    | false =>
        simp only [Option.filter, hsame, hkeep]
        exact Option.Rel.none

theorem isSome_iff (h : Related R t t') (k : K) :
    (t.lookup k).isSome ↔ (t'.lookup k).isSome := by
  rcases h.lookup_cases k with ⟨hv, hv'⟩ | ⟨v, v', hv, hv', _⟩
  · simp [hv, hv']
  · simp [hv, hv']

theorem size_eq (h : Related R t t') : t.size = t'.size :=
  size_congr h.isSome_iff

theorem entries (h : Related R t t') {k : K} {v : V} {v' : V'} (hv : t.lookup k = some v)
    (hv' : t'.lookup k = some v') : R v v' := by
  have hk := h k
  rw [hv, hv'] at hk
  cases hk
  assumption

end Related

end Table

end Lib
