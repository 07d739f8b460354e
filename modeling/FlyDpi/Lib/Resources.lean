import Mathlib.Data.Multiset.Range

/-!
# Resources — programs that acquire and release resources

A program acquires resources, uses them, releases them and asks its environment.  Running it keeps a
ledger: the resources that are held, those that were released, and what was asked with its answer.
Using or releasing what is not held is *misuse*.

* `Prog.sound_run` — whatever a program does, every resource ever acquired is held or was released,
  and no resource was released twice.
* `Triple` — from a ledger that holds `pre` besides a frame, a program runs without misuse and ends
  with what its postcondition allows besides the same frame.  There is one rule for each operation,
  and rules for sequences, for frames and for folds.
* `Closes` — a program gives up all it is given, but for what the calls that failed leave behind.
-/

namespace Lib
namespace Resources

structure Resource (κ : Type) where
  kind : κ
  handle : Nat
  deriving DecidableEq

/-- Programs over resources of the kinds `κ` that ask for `γ` and are answered by `ε`. -/
inductive Prog (κ γ ε α : Type)
  | pure (a : α)
  | acquire (kind : κ) (next : Resource κ → Prog κ γ ε α)
  | use (r : Resource κ) (next : Prog κ γ ε α)
  | release (r : Resource κ) (next : Prog κ γ ε α)
  | ask (call : γ) (next : ε → Prog κ γ ε α)

namespace Prog

variable {κ γ ε α β : Type}

def bind : Prog κ γ ε α → (α → Prog κ γ ε β) → Prog κ γ ε β
  | pure a, f => f a
  | acquire kind next, f => acquire kind fun r => (next r).bind f
  | use r next, f => use r (next.bind f)
  | release r next, f => release r (next.bind f)
  | ask call next, f => ask call fun e => (next e).bind f

instance : Monad (Prog κ γ ε) where
  pure := pure
  bind := bind

end Prog

section Operations

variable {κ γ ε : Type}

def acquire (kind : κ) : Prog κ γ ε (Resource κ) :=
  .acquire kind .pure

def use (r : Resource κ) : Prog κ γ ε Unit :=
  .use r (.pure ())

def release (r : Resource κ) : Prog κ γ ε Unit :=
  .release r (.pure ())

def ask (call : γ) : Prog κ γ ε ε :=
  .ask call .pure

end Operations

/-! ## Running a program -/

/-- Handles below `next` have been given out. -/
structure Ledger (κ γ ε : Type) where
  next : Nat
  held : Multiset (Resource κ)
  released : Multiset (Resource κ)
  calls : List (γ × ε)
  misused : Bool

/-- What answers a call, given all that was asked before. -/
abbrev Env (γ ε : Type) :=
  List (γ × ε) → γ → ε

variable {κ γ ε α β σ : Type}

namespace Ledger

def empty : Ledger κ γ ε :=
  { next := 0
    held := 0
    released := 0
    calls := []
    misused := false }

def acquire (l : Ledger κ γ ε) (kind : κ) : Ledger κ γ ε :=
  { l with
    next := l.next + 1
    held := ⟨kind, l.next⟩ ::ₘ l.held }

def asked (l : Ledger κ γ ε) (call : γ) (answer : ε) : Ledger κ γ ε :=
  { l with calls := l.calls ++ [(call, answer)] }

/-- The handles that were given out are those of what is held and what was released, each once. -/
def Sound (l : Ledger κ γ ε) : Prop :=
  (l.held + l.released).map Resource.handle = Multiset.range l.next

theorem empty_sound : (empty : Ledger κ γ ε).Sound :=
  rfl

theorem Sound.nodup {l : Ledger κ γ ε} (h : l.Sound) : (l.held + l.released).Nodup := by
  refine Multiset.Nodup.of_map Resource.handle ?_
  rw [h]
  exact Multiset.nodup_range _

theorem Sound.acquire {l : Ledger κ γ ε} (h : l.Sound) (kind : κ) : (l.acquire kind).Sound := by
  change (⟨kind, l.next⟩ ::ₘ l.held + l.released).map Resource.handle = Multiset.range (l.next + 1)
  rw [Multiset.cons_add, Multiset.map_cons, Multiset.range_succ]
  exact congrArg (l.next ::ₘ ·) h

variable [DecidableEq κ]

def use (l : Ledger κ γ ε) (r : Resource κ) : Ledger κ γ ε :=
  if r ∈ l.held then l else { l with misused := true }

def release (l : Ledger κ γ ε) (r : Resource κ) : Ledger κ γ ε :=
  if r ∈ l.held then
    { l with
      held := l.held.erase r
      released := r ::ₘ l.released }
  else
    { l with misused := true }

theorem Sound.use {l : Ledger κ γ ε} (h : l.Sound) (r : Resource κ) : (l.use r).Sound := by
  unfold Ledger.use
  split
  · exact h
  · exact h

theorem Sound.release {l : Ledger κ γ ε} (h : l.Sound) (r : Resource κ) : (l.release r).Sound := by
  unfold Ledger.release
  split
  · rename_i hr
    change (l.held.erase r + (r ::ₘ l.released)).map Resource.handle = Multiset.range l.next
    rw [Multiset.add_cons, ← Multiset.cons_add, Multiset.cons_erase hr]
    exact h
  · exact h

end Ledger

namespace Prog

variable [DecidableEq κ]

def run (env : Env γ ε) : Prog κ γ ε α → Ledger κ γ ε → α × Ledger κ γ ε
  | pure a, l => (a, l)
  | acquire kind next, l => (next ⟨kind, l.next⟩).run env (l.acquire kind)
  | use r next, l => next.run env (l.use r)
  | release r next, l => next.run env (l.release r)
  | ask call next, l => (next (env l.calls call)).run env (l.asked call (env l.calls call))

theorem run_bind (env : Env γ ε) (p : Prog κ γ ε α) (f : α → Prog κ γ ε β) (l : Ledger κ γ ε) :
    (p >>= f).run env l = (f (p.run env l).1).run env (p.run env l).2 := by
  change (p.bind f).run env l = _
  induction p generalizing l with
  | pure a =>
      rfl
  | acquire kind next ih =>
      exact ih _ _
  | use r next ih =>
      exact ih _
  | release r next ih =>
      exact ih _
  | ask call next ih =>
      exact ih _ _

/-- No program loses a resource or releases one twice. -/
theorem sound_run (env : Env γ ε) (p : Prog κ γ ε α) {l : Ledger κ γ ε} (h : l.Sound) :
    (p.run env l).2.Sound := by
  induction p generalizing l with
  | pure a =>
      exact h
  | acquire kind next ih =>
      exact ih _ (h.acquire kind)
  | use r next ih =>
      exact ih (h.use r)
  | release r next ih =>
      exact ih (h.release r)
  | ask call next ih =>
      exact ih _ h

end Prog

/-! ## Triples -/

/-- What a program may end with: its result, what it owns, and what it asked. -/
abbrev Post (κ γ ε α : Type) :=
  α → Multiset (Resource κ) → List (γ × ε) → Prop

def Triple [DecidableEq κ] (env : Env γ ε) (pre : Multiset (Resource κ)) (p : Prog κ γ ε α)
    (post : Post κ γ ε α) : Prop :=
  ∀ (frame : Multiset (Resource κ)) (l : Ledger κ γ ε), l.held = pre + frame → l.misused = false →
    ∃ owned made, post (p.run env l).1 owned made ∧ (p.run env l).2.held = owned + frame ∧
      (p.run env l).2.calls = l.calls ++ made ∧ (p.run env l).2.misused = false

namespace Triple

variable [DecidableEq κ] {env : Env γ ε} {pre : Multiset (Resource κ)} {p : Prog κ γ ε α}
  {post post' : Post κ γ ε α} {r : Resource κ}

theorem pure {a : α} (h : post a pre []) : Triple env pre (Pure.pure a) post := by
  intro frame l hheld hmisused
  exact ⟨pre, [], h, hheld, (List.append_nil _).symm, hmisused⟩

theorem consequence (h : Triple env pre p post)
    (himp : ∀ a owned made, post a owned made → post' a owned made) : Triple env pre p post' := by
  intro frame l hheld hmisused
  rcases h frame l hheld hmisused with ⟨owned, made, hpost, hrest⟩
  exact ⟨owned, made, himp _ _ _ hpost, hrest⟩

theorem pure_bind {a : α} {f : α → Prog κ γ ε β} {post'' : Post κ γ ε β}
    (h : Triple env pre (f a) post'') : Triple env pre (Pure.pure a >>= f) post'' :=
  h

/-- A sequence: the second program starts with what the first one ends with. -/
theorem bind {f : α → Prog κ γ ε β} {post'' : Post κ γ ε β} (h : Triple env pre p post)
    (hf : ∀ a owned made, post a owned made →
      Triple env owned (f a) fun b owned' made' => post'' b owned' (made ++ made')) :
    Triple env pre (p >>= f) post'' := by
  intro frame l hheld hmisused
  rcases h frame l hheld hmisused with ⟨owned, made, hpost, hheld', hcalls, hmisused'⟩
  rcases hf _ _ _ hpost frame _ hheld' hmisused' with
    ⟨owned', made', hpost', hheld'', hcalls', hmisused''⟩
  rw [Prog.run_bind]
  refine ⟨owned', made ++ made', hpost', hheld'', ?_, hmisused''⟩
  rw [hcalls', hcalls, List.append_assoc]

/-- What a program does not need stays as it is. -/
theorem frame (h : Triple env pre p post) (extra : Multiset (Resource κ)) :
    Triple env (pre + extra) p fun a owned made =>
      ∃ rest, post a rest made ∧ owned = rest + extra := by
  intro frame l hheld hmisused
  rw [Multiset.add_assoc] at hheld
  rcases h _ l hheld hmisused with ⟨owned, made, hpost, hheld', hrest⟩
  refine ⟨owned + extra, made, ⟨owned, hpost, rfl⟩, ?_, hrest⟩
  rw [hheld', Multiset.add_assoc]

theorem frame_zero (h : Triple env 0 p post) (extra : Multiset (Resource κ)) :
    Triple env extra p fun a owned made => ∃ rest, post a rest made ∧ owned = rest + extra := by
  have hframe := h.frame extra
  rwa [Multiset.zero_add] at hframe

theorem acquire {kind : κ} {f : Resource κ → Prog κ γ ε α}
    (h : ∀ r, r.kind = kind → Triple env (r ::ₘ pre) (f r) post) :
    Triple env pre (Resources.acquire kind >>= f) post := by
  intro frame l hheld hmisused
  have hheld' : (l.acquire kind).held = (⟨kind, l.next⟩ ::ₘ pre) + frame := by
    rw [Multiset.cons_add, ← hheld]
    rfl
  exact h ⟨kind, l.next⟩ rfl frame (l.acquire kind) hheld' hmisused

theorem use {f : Unit → Prog κ γ ε α} (hr : r ∈ pre) (h : Triple env pre (f ()) post) :
    Triple env pre (Resources.use r >>= f) post := by
  intro frame l hheld hmisused
  have hmem : r ∈ l.held := by
    rw [hheld]
    exact Multiset.mem_add.2 (Or.inl hr)
  have huse : l.use r = l := if_pos hmem
  change ∃ owned made, post ((f ()).run env (l.use r)).1 owned made ∧
    ((f ()).run env (l.use r)).2.held = owned + frame ∧
    ((f ()).run env (l.use r)).2.calls = l.calls ++ made ∧
    ((f ()).run env (l.use r)).2.misused = false
  rw [huse]
  exact h frame l hheld hmisused

theorem release {f : Unit → Prog κ γ ε α} (h : Triple env pre (f ()) post) :
    Triple env (r ::ₘ pre) (Resources.release r >>= f) post := by
  intro frame l hheld hmisused
  rw [Multiset.cons_add] at hheld
  have hmem : r ∈ l.held := by
    rw [hheld]
    exact Multiset.mem_cons_self _ _
  have hrelease : l.release r =
      { l with
        held := l.held.erase r
        released := r ::ₘ l.released } :=
    if_pos hmem
  have hheld' : (l.release r).held = pre + frame := by
    rw [hrelease, hheld]
    exact Multiset.erase_cons_head _ _
  have hcalls : (l.release r).calls = l.calls := by
    rw [hrelease]
  have hmisused' : (l.release r).misused = false := by
    rw [hrelease]
    exact hmisused
  rcases h frame (l.release r) hheld' hmisused' with ⟨owned, made, hpost, hrest⟩
  rw [hcalls] at hrest
  exact ⟨owned, made, hpost, hrest⟩

theorem release_last {post : Post κ γ ε Unit} (h : post () pre []) :
    Triple env (r ::ₘ pre) (Resources.release r) post := by
  change Triple env (r ::ₘ pre) (Resources.release r >>= Pure.pure) post
  exact release (pure h)

theorem ask {call : γ} {f : ε → Prog κ γ ε α}
    (h : ∀ e, Triple env pre (f e) fun a owned made => post a owned ((call, e) :: made)) :
    Triple env pre (Resources.ask call >>= f) post := by
  intro frame l hheld hmisused
  rcases h (env l.calls call) frame (l.asked call (env l.calls call)) hheld hmisused with
    ⟨owned, made, hpost, hheld', hcalls, hmisused'⟩
  refine ⟨owned, (call, env l.calls call) :: made, hpost, hheld', ?_, hmisused'⟩
  have happend : (l.asked call (env l.calls call)).calls ++ made =
      l.calls ++ (call, env l.calls call) :: made :=
    List.append_assoc _ _ _
  rw [← happend]
  exact hcalls

/-- A fold whose body keeps an invariant of what has been processed, the state, what it owns and all
that was asked. -/
theorem foldlM {I : List β → σ → Multiset (Resource κ) → List (γ × ε) → Prop}
    {f : σ → β → Prog κ γ ε σ}
    (hf : ∀ done s b owned made, I done s owned made →
      Triple env owned (f s b) fun s' owned' made' => I (done ++ [b]) s' owned' (made ++ made'))
    (bs : List β) {done : List β} {s : σ} {made : List (γ × ε)} (hs : I done s pre made) :
    Triple env pre (bs.foldlM f s) fun s' owned' made' =>
      I (done ++ bs) s' owned' (made ++ made') := by
  induction bs generalizing done s pre made with
  | nil =>
      refine pure ?_
      rwa [List.append_nil, List.append_nil]
  | cons b bs ih =>
      rw [List.foldlM_cons]
      refine bind (hf done s b pre made hs) fun s' owned' made' hs' => ?_
      refine (ih hs').consequence fun s'' owned'' made'' hs'' => ?_
      rwa [List.append_assoc, List.append_assoc] at hs''

/-- A run from the empty ledger: what was acquired is owned at the end or was released once. -/
theorem run_empty (h : Triple env 0 p post) :
    ∃ owned made, post (p.run env .empty).1 owned made ∧
      (p.run env .empty).2.held = owned ∧ (p.run env .empty).2.calls = made ∧
      (p.run env .empty).2.misused = false ∧ (p.run env .empty).2.Sound := by
  rcases h 0 .empty rfl rfl with ⟨owned, made, hpost, hheld, hcalls, hmisused⟩
  rw [Multiset.add_zero] at hheld
  exact ⟨owned, made, hpost, hheld, hcalls, hmisused, p.sound_run env Ledger.empty_sound⟩

end Triple

/-! ## Releases that may fail -/

section Closing

/-- A call that ends a resource, answered by zero; when it fails, the resource is left. -/
def closeWith [OfNat ε 0] [DecidableEq ε] (call : γ) (r : Resource κ) : Prog κ γ ε Unit := do
  use r
  let rc ← ask call
  if rc = 0 then
    release r

variable [DecidableEq κ]

/-- What is left of what the program is given is what its calls leave, `left`. -/
def Closes (left : γ × ε → Option κ) (env : Env γ ε) (pre : Multiset (Resource κ))
    (p : Prog κ γ ε α) : Prop :=
  Triple env pre p fun _ owned made => owned.map Resource.kind = ↑(made.filterMap left)

namespace Closes

variable {left : γ × ε → Option κ} {env : Env γ ε} {pre pre' : Multiset (Resource κ)}
  {p : Prog κ γ ε α} {r : Resource κ}

theorem pure (a : α) : Closes left env 0 (Pure.pure a) :=
  Triple.pure rfl

theorem release (r : Resource κ) : Closes left env {r} (Resources.release r) :=
  Triple.release_last rfl

theorem use {f : Unit → Prog κ γ ε α} (hr : r ∈ pre) (h : Closes left env pre (f ())) :
    Closes left env pre (Resources.use r >>= f) :=
  Triple.use hr h

/-- Each program of a sequence gives up its own part. -/
theorem bind {f : α → Prog κ γ ε β} (h : Closes left env pre p)
    (hf : ∀ a, Closes left env pre' (f a)) : Closes left env (pre + pre') (p >>= f) := by
  refine Triple.bind (h.frame pre') fun a owned made hleft => ?_
  rcases hleft with ⟨rest, hrest, rfl⟩
  rw [Multiset.add_comm]
  refine ((hf a).frame rest).consequence fun b owned' made' hleft' => ?_
  rcases hleft' with ⟨rest', hrest', rfl⟩
  rw [Multiset.map_add, hrest, hrest', List.filterMap_append, ← Multiset.coe_add, Multiset.add_comm]

theorem closeWith [OfNat ε 0] [DecidableEq ε] {call : γ} (hdone : left (call, 0) = none)
    (hfails : ∀ rc, rc ≠ 0 → left (call, rc) = some r.kind) :
    Closes left env {r} (Resources.closeWith call r) := by
  refine Triple.use (Multiset.mem_singleton_self r) (Triple.ask fun rc => ?_)
  split
  · rename_i hrc
    subst hrc
    refine Triple.release_last ?_
    simp [hdone]
  · rename_i hrc
    refine Triple.pure ?_
    simp [hfails rc hrc]

end Closes

end Closing

end Resources
end Lib
