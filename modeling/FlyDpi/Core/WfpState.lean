import Mathlib.Data.Finset.Card
import Mathlib.Data.List.Range
import FlyDpi.Lib.Saturating

/-!
# WfpState — the filters that the process owns

The model of `wfp.rs`: a flag, a set of owned filter ids and the counter that the ids are taken
from.  A *session* is what happened since the last `reset`: the ids that were handed out and the ids
that were removed.
-/

namespace FlyDpi
namespace Core

open Lib

structure FilterId where
  value : UInt64
  deriving DecidableEq

/-- The `BTreeSet` of the source is only inserted into, removed from, cleared and counted. -/
structure WfpState where
  initialized : Bool
  filters : Finset FilterId
  nextId : UInt64

namespace WfpState

def default : WfpState :=
  { initialized := false
    filters := ∅
    nextId := 0 }

/-- `initialize`, whose name is a keyword here. -/
def initializeState (s : WfpState) : Except String Unit × WfpState :=
  if s.initialized then (.ok (), s)
  else (.ok (), { s with initialized := true, nextId := 1 })

def registerOwnedFilter (s : WfpState) : Except String FilterId × WfpState :=
  if !s.initialized then (.error "WFP_NOT_INITIALIZED", s)
  else
    let id : FilterId := { value := s.nextId }
    -- the counter is assigned only after the checked addition has succeeded
    match checkedAdd s.nextId 1 with
    | none => (.error "FILTER_ID_EXHAUSTED", s)
    | some nextId => (.ok id, { s with nextId := nextId, filters := insert id s.filters })

def removeOwnedFilter (s : WfpState) (id : FilterId) : Bool × WfpState :=
  (decide (id ∈ s.filters), { s with filters := s.filters.erase id })

def ownedFilterCount (s : WfpState) : Nat :=
  s.filters.card

def reset (_s : WfpState) : Except String Unit × WfpState :=
  (.ok (), { initialized := false, filters := ∅, nextId := 0 })

/-! ## What each call does -/

variable {s : WfpState}

theorem initializeState_of_initialized (h : s.initialized = true) : s.initializeState = (.ok (), s) := by
  simp [initializeState, h]

theorem initializeState_of_not_initialized (h : s.initialized = false) :
    s.initializeState = (.ok (), { s with initialized := true, nextId := 1 }) := by
  simp [initializeState, h]

@[simp] theorem initialized_initializeState (s : WfpState) : s.initializeState.2.initialized = true := by
  unfold initializeState
  split
  · assumption
  · rfl

theorem registerOwnedFilter_of_not_initialized (h : s.initialized = false) :
    s.registerOwnedFilter = (.error "WFP_NOT_INITIALIZED", s) := by
  simp [registerOwnedFilter, h]

/-- A registration in an initialized state hands out the counter, unless its successor does not fit. -/
theorem registerOwnedFilter_of_initialized (h : s.initialized = true) :
    (∃ next : UInt64, next.toNat = s.nextId.toNat + 1 ∧
      s.registerOwnedFilter = (.ok ⟨s.nextId⟩,
        { s with nextId := next, filters := insert ⟨s.nextId⟩ s.filters })) ∨
    (s.nextId.toNat = 2 ^ 64 - 1 ∧
      s.registerOwnedFilter = (.error "FILTER_ID_EXHAUSTED", s)) := by
  unfold registerOwnedFilter
  rcases checkedAdd_cases s.nextId 1 with ⟨next, hadd, hnext⟩ | ⟨hadd, hbound⟩
  · left
    refine ⟨next, ?_, ?_⟩
    · simpa using hnext
    · simp [h, hadd]
  · right
    refine ⟨?_, ?_⟩
    · have hlt : s.nextId.toNat < 2 ^ 64 := s.nextId.toNat_lt
      simp at hbound
      omega
    · simp [h, hadd]

theorem removeOwnedFilter_of_not_mem {id : FilterId} (h : id ∉ s.filters) :
    s.removeOwnedFilter id = (false, s) := by
  simp [removeOwnedFilter, h]

/-- A registration that fails leaves the state as it was. -/
theorem registerOwnedFilter_error {message : String}
    (h : s.registerOwnedFilter.1 = .error message) : s.registerOwnedFilter.2 = s := by
  cases hinit : s.initialized with
  | false =>
      rw [registerOwnedFilter_of_not_initialized hinit]
  | true =>
      rcases registerOwnedFilter_of_initialized hinit with ⟨next, _, hreg⟩ | ⟨_, hreg⟩
      · rw [hreg] at h
        cases h
      · rw [hreg]

end WfpState

/-! ## Runs and sessions -/

inductive WfpOp
  | initializeState
  | registerOwnedFilter
  | removeOwnedFilter (id : FilterId)
  | reset

inductive WfpReply
  | done (result : Except String Unit)
  | registered (result : Except String FilterId)
  | removed (found : Bool)

/-- The id that a successful registration returned. -/
def WfpReply.filterId? : WfpReply → Option FilterId
  | .registered (.ok id) => some id
  | _ => none

namespace WfpState

def apply (s : WfpState) : WfpOp → WfpReply × WfpState
  | .initializeState => (.done s.initializeState.1, s.initializeState.2)
  | .registerOwnedFilter => (.registered s.registerOwnedFilter.1, s.registerOwnedFilter.2)
  | .removeOwnedFilter id => (.removed (s.removeOwnedFilter id).1, (s.removeOwnedFilter id).2)
  | .reset => (.done s.reset.1, s.reset.2)

def runFrom (s : WfpState) (ops : List WfpOp) : WfpState :=
  ops.foldl (fun s op => (s.apply op).2) s

def run (ops : List WfpOp) : WfpState :=
  default.runFrom ops

/-- The ids that the registrations among `ops` return, in order. -/
def returned (s : WfpState) : List WfpOp → List FilterId
  | [] => []
  | op :: ops => (s.apply op).1.filterId?.toList ++ (s.apply op).2.returned ops

theorem runFrom_concat (s : WfpState) (ops : List WfpOp) (op : WfpOp) :
    s.runFrom (ops ++ [op]) = ((s.runFrom ops).apply op).2 := by
  simp [runFrom]

theorem run_concat (ops : List WfpOp) (op : WfpOp) : run (ops ++ [op]) = ((run ops).apply op).2 :=
  runFrom_concat default ops op

theorem run_append (before rest : List WfpOp) :
    run (before ++ rest) = (run before).runFrom rest := by
  simp [run, runFrom]

theorem returned_concat (s : WfpState) (ops : List WfpOp) (op : WfpOp) :
    s.returned (ops ++ [op]) =
      s.returned ops ++ ((s.runFrom ops).apply op).1.filterId?.toList := by
  induction ops generalizing s with
  | nil =>
      simp [returned, runFrom]
  | cons first ops ih =>
      rw [List.cons_append, returned, ih, returned, List.append_assoc]
      rfl

theorem mem_returned_append {s : WfpState} {ops : List WfpOp} {id : FilterId}
    (h : id ∈ s.returned ops) (rest : List WfpOp) : id ∈ s.returned (ops ++ rest) := by
  induction rest using List.reverseRecOn with
  | nil =>
      rwa [List.append_nil]
  | append_singleton rest op ih =>
      rw [← List.append_assoc, returned_concat]
      exact List.mem_append_left _ ih

end WfpState

/-- What happened since the last reset: the ids that registrations returned and the ids that were
removed, both oldest first. -/
structure WfpSession where
  issued : List FilterId
  removed : List FilterId

namespace WfpSession

def start : WfpSession :=
  { issued := []
    removed := [] }

def record (session : WfpSession) : WfpOp → WfpReply → WfpSession
  | .registerOwnedFilter, .registered (.ok id) => { session with issued := session.issued ++ [id] }
  | .removeOwnedFilter id, .removed true => { session with removed := session.removed ++ [id] }
  | .reset, _ => start
  | _, _ => session

/-- One call on the state, recorded in the session. -/
def observe (x : WfpState × WfpSession) (op : WfpOp) : WfpState × WfpSession :=
  ((x.1.apply op).2, x.2.record op (x.1.apply op).1)

/-- The session that is open after the run of `ops`. -/
def after (ops : List WfpOp) : WfpSession :=
  (ops.foldl observe (WfpState.default, start)).2

end WfpSession

end Core
end FlyDpi
