import FlyDpi.Lib.Rotation

/-!
# LastWrite — stores that keep the last value written under a key

Values are written under a key computed from them, and readers ask for the last value of a class.
The key is a function of the class, so two classes may share one.  The main result says when a
store keyed this way retains the last value of every class: exactly when no two classes that were
written share a key.
-/

namespace Lib
namespace LastWrite

variable {A K L V : Type}

section Last

variable [DecidableEq L] (cls : A → L)

/-- The last element of a class. -/
def lastWith (l : L) (xs : List A) : Option A :=
  (xs.filter fun a => decide (cls a = l)).getLast?

variable {cls} {l : L} {xs : List A} {a : A}

theorem lastWith_concat (x : A) :
    lastWith cls l (xs ++ [x]) = if cls x = l then some x else lastWith cls l xs := by
  unfold lastWith
  by_cases h : cls x = l <;> simp [h]

theorem cls_of_lastWith (h : lastWith cls l xs = some a) : a ∈ xs ∧ cls a = l := by
  have hmem := List.mem_of_getLast? h
  simpa using hmem

variable (cls) in
theorem exists_lastWith (h : a ∈ xs) : ∃ b, lastWith cls (cls a) xs = some b := by
  have hne : xs.filter (fun b => decide (cls b = cls a)) ≠ [] := by
    refine List.ne_nil_of_mem (a := a) ?_
    simpa using h
  exact ⟨_, List.getLast?_eq_some_getLast hne⟩

end Last

/-! ## The table of last writes -/

section Writes

variable [DecidableEq K] (key : A → K) (val : A → V)

def writeAll (xs : List A) : Table K V :=
  xs.foldl (fun t a => t.insert (key a) (val a)) ∅

theorem writeAll_concat (xs : List A) (x : A) :
    writeAll key val (xs ++ [x]) = (writeAll key val xs).insert (key x) (val x) := by
  simp [writeAll]

theorem lookup_writeAll (k : K) (xs : List A) :
    (writeAll key val xs).lookup k = (lastWith key k xs).map val := by
  induction xs using List.reverseRecOn with
  | nil =>
      rfl
  | append_singleton xs x ih =>
      rw [writeAll_concat, lastWith_concat]
      by_cases h : key x = k
      · subst h
        simp
      · rw [AList.lookup_insert_ne (Ne.symm h), ih, if_neg h]

/-- As many keys have a value as were written. -/
theorem keySet_writeAll (xs : List A) :
    (writeAll key val xs).keySet = (xs.map key).toFinset := by
  induction xs using List.reverseRecOn with
  | nil =>
      rfl
  | append_singleton xs x ih =>
      have hinsert : Table.keySet ((writeAll key val xs).insert (key x) (val x)) =
          insert (key x) (writeAll key val xs).keySet :=
        Table.keySet_upsert _ _ fun _ => val x
      rw [writeAll_concat, hinsert, ih]
      ext k
      simp

theorem size_writeAll_le (xs : List A) : (writeAll key val xs).size ≤ xs.length := by
  rw [Table.size_eq_card, keySet_writeAll]
  exact (List.toFinset_card_le _).trans_eq (List.length_map _)

/-- A table with an entry for every write was written under different keys. -/
theorem nodup_of_length_le_size {xs : List A} (h : xs.length ≤ (writeAll key val xs).size) :
    (xs.map key).Nodup := by
  rw [Table.size_eq_card, keySet_writeAll, ← List.length_map key] at h
  exact Multiset.toFinset_card_eq_card_iff_nodup.1 (Nat.le_antisymm (List.toFinset_card_le _) h)

/-- Writes under different keys are all there. -/
theorem lists_writeAll {xs : List A} (h : (xs.map key).Nodup) :
    (writeAll key val xs).Lists (xs.map fun a => (key a, val a)) := by
  induction xs using List.reverseRecOn with
  | nil =>
      exact Table.lists_empty
  | append_singleton xs x ih =>
      rw [List.map_append] at h
      rw [writeAll_concat, List.map_append]
      refine (ih h.of_append_left).insert ?_
      rw [List.map_map]
      intro hmem
      exact List.disjoint_of_nodup_append h hmem (List.mem_singleton.2 rfl)

end Writes

/-! ## Which classes survive -/

/-- Writing under `key` retains the last value of every class exactly when the classes that were
written have different keys. -/
theorem survives_iff [DecidableEq K] [DecidableEq L] {key : A → K} {cls : A → L} {val : A → V}
    (hkey : ∀ a b, cls a = cls b → key a = key b) {xs : List A}
    (hval : ∀ a ∈ xs, ∀ b ∈ xs, val a = val b → cls a = cls b) :
    (∀ a, lastWith cls (cls a) xs = some a → (writeAll key val xs).lookup (key a) = some (val a)) ↔
      ∀ a ∈ xs, ∀ b ∈ xs, key a = key b → cls a = cls b := by
  constructor
  · intro h a ha b hb hab
    -- whatever was written last under the common key is in the class of `a` and in that of `b`
    have hclass : ∀ c ∈ xs, key c = key a → ∀ z, lastWith key (key a) xs = some z →
        cls z = cls c := by
      intro c hc hca z hz
      rcases exists_lastWith cls hc with ⟨last, hlast⟩
      have hmem : last ∈ xs := (cls_of_lastWith hlast).1
      have hcls : cls last = cls c := (cls_of_lastWith hlast).2
      rw [← hcls] at hlast
      have hlookup := h last hlast
      rw [lookup_writeAll, hkey last c hcls, hca, hz, Option.map_some, Option.some.injEq] at hlookup
      exact (hval z (cls_of_lastWith hz).1 last hmem hlookup).trans hcls
    rcases exists_lastWith key ha with ⟨z, hz⟩
    exact (hclass a ha rfl z hz).symm.trans (hclass b hb hab.symm z hz)
  · -- with no shared keys, filtering by key and by class is the same
    intro h a hlast
    have ha : a ∈ xs := (cls_of_lastWith hlast).1
    have hfilter : xs.filter (fun b => decide (key b = key a)) =
        xs.filter (fun b => decide (cls b = cls a)) := by
      refine List.filter_congr fun b hb => ?_
      exact decide_eq_decide.2 ⟨h b hb a ha, hkey b a⟩
    have hlastKey : lastWith key (key a) xs = some a := by
      rw [lastWith, hfilter]
      exact hlast
    rw [lookup_writeAll, hlastKey, Option.map_some]

end LastWrite
end Lib
