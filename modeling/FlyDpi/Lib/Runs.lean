import Mathlib.Algebra.GroupWithZero.Nat
import Mathlib.Logic.Relation
import Mathlib.Order.WellFounded

/-!
# Runs — reachable states and maximal runs of a step relation

A maximal run goes on as long as some step is possible.  It is an infinite sequence of states: a run
that ends repeats its last state, which then has no step.  A driven run may also end, or pause, in a
state in which steps are possible, as long as none of them is due.

* `invariant` — what holds at first and is kept by every step holds in every reachable state.
* `Maximal.reaches` — when every step of an invariant decreases a measure, a maximal run ends, and
  it ends in what the invariant allows of a stuck state.
* `Driven.settles` — when every step of a driven run decreases a measure, the run comes to rest in a
  state in which nothing is due.
* `Trace.amortized` — what the steps of a labelled run gain is paid out of a potential.
-/

namespace Lib
namespace Runs

variable {σ : Type} {Step : σ → σ → Prop}

theorem invariant {I : σ → Prop} (hstep : ∀ s s', I s → Step s s' → I s') {start s : σ}
    (hstart : I start) (h : Relation.ReflTransGen Step start s) : I s := by
  induction h with
  | refl =>
      exact hstart
  | tail _ hnext ih =>
      exact hstep _ _ ih hnext

def Stuck (Step : σ → σ → Prop) (s : σ) : Prop := ∀ s', ¬ Step s s'

/-- A run that takes a step whenever it can. -/
def Maximal (Step : σ → σ → Prop) (r : Nat → σ) : Prop :=
  ∀ i, Step (r i) (r (i + 1)) ∨ (Stuck Step (r i) ∧ r (i + 1) = r i)

theorem Maximal.tail {r : Nat → σ} (hr : Maximal Step r) : Maximal Step fun i => r (i + 1) :=
  fun i => hr (i + 1)

theorem Maximal.reaches {I D : σ → Prop} {μ : σ → Nat}
    (hstep : ∀ s s', I s → Step s s' → I s')
    (hμ : ∀ s s', I s → Step s s' → μ s' < μ s)
    (hstuck : ∀ s, I s → Stuck Step s → D s) {r : Nat → σ} (hr : Maximal Step r)
    (hstart : I (r 0)) : ∃ i, D (r i) := by
  -- induction on the measure of the first state; the rest of the run starts below it
  induction hn : μ (r 0) using Nat.strongRecOn generalizing r with
  | _ n ih =>
      rcases hr 0 with hnext | ⟨hend, _⟩
      · have hless : μ (r 1) < n := by
          rw [← hn]
          exact hμ _ _ hstart hnext
        rcases ih _ hless hr.tail (hstep _ _ hstart hnext) rfl with ⟨i, hi⟩
        exact ⟨i + 1, hi⟩
      · exact ⟨0, hstuck _ hstart hend⟩

/-- Every state starts a maximal run. -/
theorem exists_maximal (Step : σ → σ → Prop) (s : σ) : ∃ r, Maximal Step r ∧ r 0 = s := by
  have hnext : ∀ s, ∃ s', Step s s' ∨ (Stuck Step s ∧ s' = s) := by
    intro s
    by_cases h : ∃ s', Step s s'
    · exact h.imp fun _ => Or.inl
    · exact ⟨s, Or.inr ⟨fun s' hs' => h ⟨s', hs'⟩, rfl⟩⟩
  rcases Classical.axiomOfChoice hnext with ⟨next, hnext⟩
  exact ⟨fun i => Nat.rec s (fun _ => next) i, fun i => hnext _, rfl⟩

/-! ## Driven runs -/

/-- A run that takes a step at least whenever one is due. -/
def Driven (Step : σ → σ → Prop) (Due : σ → Prop) (r : Nat → σ) : Prop :=
  ∀ i, Step (r i) (r (i + 1)) ∨ (¬ Due (r i) ∧ r (i + 1) = r i)

section Driven

variable {Due : σ → Prop} {r : Nat → σ}

theorem Maximal.driven (hr : Maximal Step r) (hdue : ∀ s, Due s → ∃ s', Step s s') :
    Driven Step Due r := by
  intro i
  rcases hr i with hnext | ⟨hend, hsame⟩
  · exact Or.inl hnext
  · refine Or.inr ⟨fun h => ?_, hsame⟩
    rcases hdue _ h with ⟨s', hs'⟩
    exact hend s' hs'

theorem Driven.invariant {I : σ → Prop} (hr : Driven Step Due r)
    (hstep : ∀ s s', I s → Step s s' → I s') (hstart : I (r 0)) (i : Nat) : I (r i) := by
  induction i with
  | zero =>
      exact hstart
  | succ i ih =>
      rcases hr i with hnext | ⟨_, hsame⟩
      · exact hstep _ _ ih hnext
      · rw [hsame]
        exact ih

theorem Driven.settles {β : Type} {lt : β → β → Prop} (hwf : WellFounded lt) {μ : σ → β}
    (hr : Driven Step Due r) (hμ : ∀ i, Step (r i) (r (i + 1)) → lt (μ (r (i + 1))) (μ (r i))) :
    ∃ i, ¬ Due (r i) ∧ ∀ j, i ≤ j → r j = r i := by
  -- from a state with the least measure on no step is taken
  rcases hwf.has_min (Set.range fun i => μ (r i)) ⟨_, 0, rfl⟩ with ⟨_, ⟨i, rfl⟩, hleast⟩
  have hrest : ∀ j, i ≤ j → r j = r i := by
    intro j hj
    induction j, hj using Nat.le_induction with
    | base =>
        rfl
    | succ j _ ih =>
        rcases hr j with hnext | ⟨_, hsame⟩
        · have hless := hμ j hnext
          rw [ih] at hless
          exact absurd hless (hleast _ ⟨j + 1, rfl⟩)
        · exact hsame.trans ih
  refine ⟨i, ?_, hrest⟩
  rcases hr i with hnext | ⟨hnot, _⟩
  · have hless := hμ i hnext
    exact absurd hless (hleast _ ⟨i + 1, rfl⟩)
  · exact hnot

end Driven

/-! ## Labelled runs -/

/-- A run, with the label of each of its steps. -/
inductive Trace {σ α : Type} (LStep : σ → α → σ → Prop) : σ → List α → σ → Prop
  | nil (s : σ) : Trace LStep s [] s
  | cons {s s' s'' : σ} {a : α} {as : List α} :
      LStep s a s' → Trace LStep s' as s'' → Trace LStep s (a :: as) s''

section Labelled

variable {α : Type} {LStep : σ → α → σ → Prop} {s s' s'' : σ} {as as' : List α}

theorem Trace.append (h : Trace LStep s as s') (h' : Trace LStep s' as' s'') :
    Trace LStep s (as ++ as') s'' := by
  induction h with
  | nil s =>
      exact h'
  | cons hstep _ ih =>
      exact Trace.cons hstep (ih h')

/-- When every step pays what it gains, `g`, out of the potential `f` and its own cost, `c`, so does
a run. -/
theorem Trace.amortized {I : σ → Prop} {f : σ → Nat} {g c : α → Nat}
    (hstep : ∀ s a s', I s → LStep s a s' → I s' ∧ f s' + g a ≤ f s + c a)
    (h : Trace LStep s as s') (hs : I s) : f s' + (as.map g).sum ≤ f s + (as.map c).sum := by
  induction h with
  | nil s =>
      exact Nat.le_refl _
  | @cons s s' s'' a as hfirst _ ih =>
      rcases hstep s a s' hs hfirst with ⟨hs', hpaid⟩
      have hrest := ih hs'
      simp only [List.map_cons, List.sum_cons]
      calc
        f s'' + (g a + (as.map g).sum) = (f s'' + (as.map g).sum) + g a := by
              ac_rfl
        _ ≤ (f s' + (as.map c).sum) + g a := Nat.add_le_add_right hrest _
        _ = (f s' + g a) + (as.map c).sum := by
              ac_rfl
        _ ≤ (f s + c a) + (as.map c).sum := Nat.add_le_add_right hpaid _
        _ = f s + (c a + (as.map c).sum) := Nat.add_assoc _ _ _

end Labelled

end Runs
end Lib
