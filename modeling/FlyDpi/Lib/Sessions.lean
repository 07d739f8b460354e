import FlyDpi.Lib.Table

/-!
# Sessions — tables whose entries summarize their own events

A session table is driven by two kinds of step: `touch k e` updates the entry of `k` with the event
`e` (and starts one if there is none), `sweep r` removes the entries that a predicate rejects.

The abstract state of a key is its *life*: the list of its events since it was last removed.  The
main result is that the entry of a key is the fold of its life, and that it has an entry exactly
when its life is not empty.  A property of entries is then a property of folds over lists.
-/

namespace Lib
namespace Sessions

variable {K E R V : Type}

inductive Op (K E R : Type)
  | touch (k : K) (e : E)
  | sweep (r : R)

/-! ## Lives -/

section Life

variable [DecidableEq K] (keeps : R → List E → Bool) (k : K)

def lifeStep (life : List E) : Op K E R → List E
  | .touch k' e => if k' = k then life ++ [e] else life
  | .sweep r => if keeps r life then life else []

/-- The events of `k` since its last removal, oldest first. -/
def life (ops : List (Op K E R)) : List E :=
  ops.foldl (lifeStep keeps k) []

theorem life_concat (ops : List (Op K E R)) (op : Op K E R) :
    life keeps k (ops ++ [op]) = lifeStep keeps k (life keeps k ops) op := by
  simp [life]

/-- What every event of the key satisfies holds all over its life. -/
theorem forall_mem_life {P : E → Prop} {ops : List (Op K E R)}
    (h : ∀ e, Op.touch k e ∈ ops → P e) : ∀ e ∈ life keeps k ops, P e := by
  induction ops using List.reverseRecOn with
  | nil =>
      simp [life]
  | append_singleton ops op ih =>
      have hold : ∀ e ∈ life keeps k ops, P e := by
        refine ih fun e he => h e ?_
        exact List.mem_append_left _ he
      rw [life_concat]
      cases op with
      | touch k' e =>
          -- only an event of the key itself is added
          simp only [lifeStep]
          split
          · rename_i heq
            subst heq
            have hnew : P e := h e (by simp)
            simpa [or_imp, forall_and] using ⟨hold, hnew⟩
          · exact hold
      | sweep r =>
          simp only [lifeStep]
          split
          · exact hold
          · simp

/-- While a key keeps its entry, its life only grows. -/
theorem life_prefix {ops more : List (Op K E R)}
    (h : ∀ pre, pre <+: more → life keeps k (ops ++ pre) ≠ []) :
    life keeps k ops <+: life keeps k (ops ++ more) := by
  induction more using List.reverseRecOn with
  | nil =>
      simp
  | append_singleton more op ih =>
      have hprev : life keeps k ops <+: life keeps k (ops ++ more) := by
        refine ih fun pre hpre => h pre ?_
        exact hpre.trans (List.prefix_append more [op])
      have hlast : life keeps k (ops ++ (more ++ [op])) ≠ [] := h _ (List.prefix_refl _)
      rw [← List.append_assoc, life_concat] at hlast ⊢
      refine hprev.trans ?_
      cases op with
      | touch k' e =>
          simp only [lifeStep]
          split
          · exact List.prefix_append _ _
          · exact List.prefix_refl _
      | sweep r =>
          simp only [lifeStep] at hlast ⊢
          split
          · exact List.prefix_refl _
          · -- a sweep that removed the key would have left an empty life
            rename_i hdrop
            rw [if_neg hdrop] at hlast
            exact absurd rfl hlast

end Life

/-! ## Entries -/

section Entries

variable (upd : Option V → E → V)

/-- The entry that a list of events builds, starting from no entry. -/
def replay (es : List E) : Option V :=
  es.foldl (fun v e => some (upd v e)) none

@[simp] theorem replay_nil : replay upd [] = none := rfl

theorem replay_concat (es : List E) (e : E) :
    replay upd (es ++ [e]) = some (upd (replay upd es) e) := by
  simp [replay]

theorem replay_eq_none_iff {es : List E} : replay upd es = none ↔ es = [] := by
  induction es using List.reverseRecOn with
  | nil =>
      simp
  | append_singleton es e _ =>
      simp [replay_concat]

theorem replay_isSome {es : List E} : (replay upd es).isSome ↔ es ≠ [] := by
  rw [Option.isSome_iff_ne_none, ne_eq, replay_eq_none_iff]

/-- A property of folds is proved event by event. -/
theorem replay_induction {P : List E → V → Prop}
    (first : ∀ e, P [e] (upd none e))
    (next : ∀ es e v, es ≠ [] → P es v → P (es ++ [e]) (upd (some v) e)) :
    ∀ {es : List E} {v : V}, replay upd es = some v → P es v := by
  intro es
  -- from the newest event backwards, as `replay_concat` peels a fold
  induction es using List.reverseRecOn with
  | nil =>
      simp
  | append_singleton es e ih =>
      intro v h
      rw [replay_concat, Option.some.injEq] at h
      subst h
      cases hes : replay upd es with
      | none =>
          rcases (replay_eq_none_iff upd).1 hes with rfl
          exact first e
      | some v =>
          have hne : es ≠ [] := by
            rintro rfl
            simp at hes
          exact next es e v hne (ih hes)

/-! ### Shapes of fields

What a fold keeps of its events, field by field: whether some event had a property, and the
latest or the earliest value that an event offered. -/

variable {upd} {α : Type} {es : List E} {v : V}

theorem replay_sticky {get : V → Bool} {P : E → Prop} (first : ∀ e, get (upd none e) ↔ P e)
    (next : ∀ v e, get (upd (some v) e) ↔ get v ∨ P e) (h : replay upd es = some v) :
    get v ↔ ∃ e ∈ es, P e := by
  refine replay_induction upd (P := fun es v => get v ↔ ∃ e ∈ es, P e) ?_ ?_ h
  · intro e
    simpa using first e
  · intro es e v _ ih
    rw [next, ih]
    simp [or_and_right, exists_or]

theorem replay_latest {get : V → Option α} {f : E → Option α}
    (first : ∀ e, get (upd none e) = f e)
    (next : ∀ v e, get (upd (some v) e) = (f e).or (get v)) (h : replay upd es = some v) :
    get v = (es.filterMap f).getLast? := by
  refine replay_induction upd (P := fun es v => get v = (es.filterMap f).getLast?) ?_ ?_ h
  · intro e
    rw [first]
    cases hf : f e <;> simp [hf]
  · intro es e v _ ih
    rw [next, ih, List.filterMap_append]
    cases hf : f e <;> simp [hf]

theorem replay_earliest {get : V → Option α} {f : E → Option α}
    (first : ∀ e, get (upd none e) = f e)
    (next : ∀ v e, get (upd (some v) e) = (get v).or (f e)) (h : replay upd es = some v) :
    get v = (es.filterMap f).head? := by
  refine replay_induction upd (P := fun es v => get v = (es.filterMap f).head?) ?_ ?_ h
  · intro e
    rw [first]
    cases hf : f e <;> simp [hf]
  · intro es e v _ ih
    rw [next, ih, List.filterMap_append, List.head?_append]
    cases hf : f e <;> simp [hf]

/-- A field that every event overwrites. -/
theorem replay_getLast {get : V → α} {f : E → α} (first : ∀ e, get (upd none e) = f e)
    (next : ∀ v e, get (upd (some v) e) = f e) (h : replay upd es = some v) :
    es.getLast?.map f = some (get v) := by
  refine replay_induction upd (P := fun es v => es.getLast?.map f = some (get v)) ?_ ?_ h
  · intro e
    simp [first]
  · intro es e v _ _
    simp [next]

/-- A field that only the first event writes. -/
theorem replay_head {get : V → α} {f : E → α} (first : ∀ e, get (upd none e) = f e)
    (next : ∀ v e, get (upd (some v) e) = get v) (h : replay upd es = some v) :
    es.head?.map f = some (get v) := by
  refine replay_induction upd (P := fun es v => es.head?.map f = some (get v)) ?_ ?_ h
  · intro e
    simp [first]
  · intro es e v hne ih
    rw [next, List.head?_append_of_ne_nil es hne, ih]

/-- A field that only depends on its own earlier value is the fold of that dependence. -/
theorem replay_foldl {get : V → α} {g : α → E → α} {a : α} (first : ∀ e, get (upd none e) = g a e)
    (next : ∀ v e, get (upd (some v) e) = g (get v) e) (h : replay upd es = some v) :
    get v = es.foldl g a := by
  refine replay_induction upd (P := fun es v => get v = es.foldl g a) ?_ ?_ h
  · intro e
    exact first e
  · intro es e v _ ih
    rw [next, ih, List.foldl_append]
    rfl

/-- A field that no event changes once it is set. -/
theorem replay_kept {get : V → Option α}
    (next : ∀ v e, (get v).isSome → get (upd (some v) e) = get v) (h : replay upd es = some v)
    (hset : (get v).isSome) (more : List E) :
    ∃ v', replay upd (es ++ more) = some v' ∧ get v' = get v := by
  induction more using List.reverseRecOn with
  | nil =>
      exact ⟨v, by rw [List.append_nil, h], rfl⟩
  | append_singleton more e ih =>
      rcases ih with ⟨v', hv', hget⟩
      refine ⟨upd (some v') e, ?_, ?_⟩
      · rw [← List.append_assoc, replay_concat, hv']
      · rw [next v' e (by rw [hget]; exact hset), hget]

end Entries

/-! ## The table -/

section Table

variable [DecidableEq K] (upd : Option V → E → V) (keep : R → V → Bool)

def step (t : Table K V) : Op K E R → Table K V
  | .touch k e => t.upsert k (upd · e)
  | .sweep r => t.retain fun _ v => keep r v

def run (ops : List (Op K E R)) : Table K V :=
  ops.foldl (step upd keep) ∅

/-- The sweep predicate on entries is the one on lives. -/
def Agrees (keeps : R → List E → Bool) : Prop :=
  ∀ r es v, replay upd es = some v → keep r v = keeps r es

variable {upd keep} {keeps : R → List E → Bool}

theorem lookup_step (hkeep : Agrees upd keep keeps) {t : Table K V} {k : K} {es : List E}
    (h : t.lookup k = replay upd es) (op : Op K E R) :
    (step upd keep t op).lookup k = replay upd (lifeStep keeps k es op) := by
  cases op with
  | touch k' e =>
      simp only [step, lifeStep]
      split
      · rename_i heq
        subst heq
        rw [Table.lookup_upsert_self, h, replay_concat]
      · rename_i hne
        rw [Table.lookup_upsert_ne (Ne.symm hne), h]
  | sweep r =>
      simp only [step, lifeStep]
      rw [Table.lookup_retain, h]
      cases hes : replay upd es with
      | none =>
          rcases (replay_eq_none_iff upd).1 hes with rfl
          simp
      | some v =>
          -- the entry and the life are dropped together
          have hagree : keep r v = keeps r es := hkeep r es v hes
          cases hk : keeps r es with
          | true =>
              simp [Option.filter, hagree, hk, hes]
          | false =>
              simp [Option.filter, hagree, hk]

/-- The entry of a key is the fold of its life. -/
theorem lookup_run (hkeep : Agrees upd keep keeps) (ops : List (Op K E R)) (k : K) :
    (run upd keep ops).lookup k = replay upd (life keeps k ops) := by
  -- the two folds run side by side from any related start
  have hgen : ∀ (t : Table K V) (es : List E), t.lookup k = replay upd es →
      (ops.foldl (step upd keep) t).lookup k = replay upd (ops.foldl (lifeStep keeps k) es) := by
    induction ops with
    | nil =>
        intro t es h
        exact h
    | cons op ops ih =>
        intro t es h
        exact ih _ _ (lookup_step hkeep h op)
  exact hgen ∅ [] (by simp)

end Table

end Sessions
end Lib
