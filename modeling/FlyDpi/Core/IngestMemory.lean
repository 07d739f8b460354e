import FlyDpi.Core.Pipeline

/-!
# IngestMemory — how much the ingest path remembers

The worker feeds every snapshot it pops into its datapath and never removes a flow: neither
`expire_idle` nor `clear` is among its steps.  The table therefore holds one flow for each distinct
key among the accepted snapshots, and it is bounded exactly when these keys are.
-/

namespace FlyDpi
namespace Core

open Lib Lib.Bytes Native

/-- The datapath after the worker has fed a sequence of snapshots, each with the time it was fed. -/
def ingest (dp : Datapath) (run : List (WfpEventSnapshot × Instant)) : Datapath :=
  run.foldl (fun dp fed => (feedSnapshot dp fed.1 fed.2).2) dp

/-- The flow keys of the accepted snapshots. -/
def acceptedKeys (run : List (WfpEventSnapshot × Instant)) : Finset FlowKey :=
  ((run.filter fun fed => decide (Accepted fed.1)).map fun fed =>
    (acceptedPacket fed.1).flow).toFinset

theorem keySet_feedSnapshot (dp : Datapath) (snapshot : WfpEventSnapshot) (now : Instant) :
    (feedSnapshot dp snapshot now).2.flows.keySet =
      if Accepted snapshot then insert (acceptedPacket snapshot).flow dp.flows.keySet
      else dp.flows.keySet := by
  by_cases h : Accepted snapshot
  · rw [feedSnapshot_of_accepted h, if_pos h]
    exact Datapath.keySet_onPacket dp (acceptedPacket snapshot) now
  · rw [feedSnapshot_of_not_accepted h, if_neg h]

theorem keySet_ingest (dp : Datapath) (run : List (WfpEventSnapshot × Instant)) :
    (ingest dp run).flows.keySet = dp.flows.keySet ∪ acceptedKeys run := by
  induction run generalizing dp with
  | nil =>
      simp [ingest, acceptedKeys]
  | cons fed run ih =>
      have hrun : ingest dp (fed :: run) = ingest (feedSnapshot dp fed.1 fed.2).2 run := rfl
      rw [hrun, ih, keySet_feedSnapshot]
      by_cases h : Accepted fed.1
      · simp [acceptedKeys, h]
      · simp [acceptedKeys, h]

theorem acceptedKeys_mono {pre run : List (WfpEventSnapshot × Instant)} (h : pre <+: run) :
    acceptedKeys pre ⊆ acceptedKeys run := by
  intro key hkey
  simp only [acceptedKeys, List.mem_toFinset, List.mem_map] at hkey ⊢
  rcases hkey with ⟨fed, hfed, rfl⟩
  exact ⟨fed, (h.sublist.filter _).subset hfed, rfl⟩

/-- The table has one flow for each distinct accepted key. -/
theorem flowCount_ingest (run : List (WfpEventSnapshot × Instant)) :
    (ingest .new run).flowCount = (acceptedKeys run).card := by
  calc
    (ingest .new run).flowCount = (ingest .new run).flows.keySet.card :=
      Datapath.flowCount_eq_card _
    _ = (Datapath.new.flows.keySet ∪ acceptedKeys run).card := by
          rw [keySet_ingest]
    _ = (acceptedKeys run).card := by
          simp [Datapath.new]

/-- The flow table stays within a bound all along a run exactly when the distinct keys of the
snapshots accepted in that run do. -/
theorem flowCount_bounded_iff (run : List (WfpEventSnapshot × Instant)) (bound : Nat) :
    (∀ pre, pre <+: run → (ingest .new pre).flowCount ≤ bound) ↔
      (acceptedKeys run).card ≤ bound := by
  constructor
  · intro h
    rw [← flowCount_ingest]
    exact h run (List.prefix_refl run)
  · intro h pre hpre
    calc
      (ingest .new pre).flowCount = (acceptedKeys pre).card := flowCount_ingest pre
      _ ≤ (acceptedKeys run).card := Finset.card_le_card (acceptedKeys_mono hpre)
      _ ≤ bound := h

/-! ## The worker's datapath -/

namespace World

/-- The snapshot popped and not yet fed. -/
def unfed (w : World) : List WfpEventSnapshot :=
  match w.worker.pc with
  | .feeding _ snapshot => [snapshot]
  | _ => []

/-- The datapath is what the worker fed it, and it fed it every snapshot it popped. -/
structure FeedInv (w : World) : Prop where
  healthy : w.shared.datapath.poisoned = false
  datapath : w.shared.datapath.value = ingest .new w.fed
  popped : w.popped = w.fed.map (·.1) ++ w.unfed

theorem start_feedInv : FeedInv start :=
  ⟨rfl, rfl, rfl⟩

theorem fedBy_of_not_feeding {w : World} (h : ∀ drained s, w.worker.pc ≠ .feeding drained s)
    (now : Instant) : w.fedBy now = [] := by
  unfold fedBy
  split
  · exact absurd ‹_› (h _ _)
  · rfl

theorem unfed_of_not_feeding {w : World} (h : ∀ drained s, w.worker.pc ≠ .feeding drained s) :
    w.unfed = [] := by
  unfold unfed
  split
  · exact absurd ‹_› (h _ _)
  · rfl

theorem FeedInv.worker {w : World} (h : FeedInv w) {now : Instant} {worker : IngestWorker}
    {shared : Shared} (hstep : w.worker.step now w.shared = some (worker, shared)) :
    FeedInv
      { w with
        shared := shared
        worker := worker
        popped := w.popped ++ w.poppedBy
        fed := w.fed ++ w.fedBy now } := by
  have hpopped := h.popped
  rcases IngestWorker.step_cases hstep with ⟨drained, hpc, hpop⟩ |
    ⟨drained, snapshot, hpc, hfeed⟩ | ⟨drained, snapshot, event, hpc, hpush⟩ | ⟨hrests, rfl⟩
  · -- a pop moves one snapshot from the queue to the worker's hand
    rw [unfed_of_not_feeding (by simp [hpc]), List.append_nil] at hpopped
    rw [fedBy_of_not_feeding (by simp [hpc]), List.append_nil]
    cases hqueue : w.shared.observer.queue with
    | nil =>
        simp only [IngestWorker.popStep, WfpObserverBridge.pop_nil hqueue] at hpop
        rcases hpop with ⟨rfl, rfl⟩
        exact ⟨h.healthy, h.datapath, by simpa [unfed, poppedBy, hpc, hqueue] using hpopped⟩
    | cons snapshot queue =>
        simp only [IngestWorker.popStep, WfpObserverBridge.pop_cons hqueue] at hpop
        rcases hpop with ⟨rfl, rfl⟩
        exact ⟨h.healthy, h.datapath, by simpa [unfed, poppedBy, hpc, hqueue] using hpopped⟩
  · -- the one step that touches the datapath
    have hlock : w.shared.datapath.lock = some w.shared.datapath.value := by
      simp [Mutex.lock, h.healthy]
    have hunfed : w.unfed = [snapshot] := by
      simp [unfed, hpc]
    have hfedBy : w.fedBy now = [(snapshot, now)] := by
      simp [fedBy, hpc]
    have hdp : ingest .new (w.fed ++ [(snapshot, now)]) =
        (feedSnapshot w.shared.datapath.value snapshot now).2 := by
      simp [ingest, h.datapath]
    rw [hunfed] at hpopped
    rw [poppedBy_of_not_popping (by simp [hpc]), List.append_nil, hfedBy]
    simp only [IngestWorker.feedStep, hlock] at hfeed
    cases hfed : feedSnapshot w.shared.datapath.value snapshot now with
    | mk event dp =>
        rw [hfed] at hfeed hdp
        cases event <;> rcases hfeed with ⟨rfl, rfl⟩ <;>
          exact ⟨h.healthy, hdp.symm, by simpa [unfed] using hpopped⟩
  · -- a push touches the ring only
    rw [unfed_of_not_feeding (by simp [hpc]), List.append_nil] at hpopped
    rw [poppedBy_of_not_popping (by simp [hpc]), fedBy_of_not_feeding (by simp [hpc]),
      List.append_nil, List.append_nil]
    simp only [IngestWorker.pushStep] at hpush
    split at hpush <;> rcases hpush with ⟨rfl, rfl⟩ <;>
      exact ⟨h.healthy, h.datapath, by simpa [unfed] using hpopped⟩
  · rw [unfed_of_not_feeding hrests.notFeeding, List.append_nil] at hpopped
    rw [poppedBy_of_not_popping hrests.notPopping, fedBy_of_not_feeding hrests.notFeeding,
      List.append_nil, List.append_nil]
    refine ⟨h.healthy, h.datapath, ?_⟩
    rw [unfed_of_not_feeding hrests.notFeeding', List.append_nil]
    exact hpopped

theorem FeedInv.step {w w' : World} (h : FeedInv w) {action : Action} (hstep : Step w action w') :
    FeedInv w' := by
  cases hstep with
  | worker hworker =>
      exact h.worker hworker
  -- nobody else touches the datapath or its histories
  | callback event _ =>
      exact ⟨h.healthy, h.datapath, h.popped⟩
  | countEvent _ _ =>
      exact ⟨h.healthy, h.datapath, h.popped⟩
  | poll _ =>
      exact ⟨h.healthy, h.datapath, h.popped⟩
  | drain _ =>
      exact ⟨h.healthy, h.datapath, h.popped⟩
  | stop =>
      exact ⟨h.healthy, h.datapath, h.popped⟩

/-- In every interleaving the worker's datapath is what `ingest` makes of the snapshots fed. -/
theorem interleaved_feedInv {w : World} (h : Interleaved w) : FeedInv w := by
  refine Runs.invariant ?_ start_feedInv h
  intro w w' hinv hnext
  rcases hnext with ⟨_, hstep⟩
  exact hinv.step hstep

/-- The worker's flow table has one flow for each distinct accepted key it was ever fed. -/
theorem flowCount_interleaved {w : World} (h : Interleaved w) :
    w.shared.datapath.value.flowCount = (acceptedKeys w.fed).card := by
  rw [(interleaved_feedInv h).datapath, flowCount_ingest]

end World

/-! ## A flood of remote addresses -/

/-- A UDP snapshot whose remote address spells `i`. -/
def floodSnapshot (i : Nat) : WfpEventSnapshot :=
  { FlyDpiEventSnapshot.zero with
    ipVersion := 6
    protocol := 17
    remotePort := 443
    remoteAddr := zeroPadded (leBytes 16 i) }

def flood (n : Nat) : List (WfpEventSnapshot × Instant) :=
  (List.range n).map fun i => (floodSnapshot i, 0)

theorem toList_zeroPadded {bs : Bytes} (h : bs.length = 16) : (zeroPadded bs).toList = bs := by
  apply List.ext_getElem
  · simp [h]
  · intro i hi _
    have hi' : i < bs.length := by
      simpa [h] using hi
    simp [zeroPadded, hi']

theorem floodSnapshot_flow_inj {i j : Nat} (hi : i < 256 ^ 16) (hj : j < 256 ^ 16)
    (h : (acceptedPacket (floodSnapshot i)).flow = (acceptedPacket (floodSnapshot j)).flow) :
    i = j := by
  have hip := congrArg FlowKey.remoteIp h
  have haddr : zeroPadded (leBytes 16 i) = zeroPadded (leBytes 16 j) := hip
  have hbytes : leBytes 16 i = leBytes 16 j := by
    rw [← toList_zeroPadded (length_leBytes 16 i), haddr, toList_zeroPadded (length_leBytes 16 j)]
  calc
    i = i % 256 ^ 16 := (Nat.mod_eq_of_lt hi).symm
    _ = leNat (leBytes 16 i) := (leNat_leBytes 16 i).symm
    _ = leNat (leBytes 16 j) := by rw [hbytes]
    _ = j % 256 ^ 16 := leNat_leBytes 16 j
    _ = j := Nat.mod_eq_of_lt hj

theorem card_acceptedKeys_flood {n : Nat} (hn : n ≤ 256 ^ 16) : (acceptedKeys (flood n)).card = n := by
  have haccepted : ∀ i, Accepted (floodSnapshot i) := fun i =>
    { version := Or.inr rfl
      protocol := Or.inr rfl
      ports := fun h => absurd h.1 (by decide : (443 : UInt16) ≠ 0) }
  -- every snapshot of the flood is accepted, and no two share an address
  have hkeys : (flood n).filter (fun fed => decide (Accepted fed.1)) = flood n := by
    refine List.filter_eq_self.2 fun fed hfed => ?_
    rcases List.mem_map.1 hfed with ⟨i, _, rfl⟩
    simpa using haccepted i
  have hnodup : ((flood n).map fun fed => (acceptedPacket fed.1).flow).Nodup := by
    rw [flood, List.map_map]
    refine List.Nodup.map_on ?_ List.nodup_range
    intro i hi j hj heq
    rw [List.mem_range] at hi hj
    exact floodSnapshot_flow_inj (hi.trans_le hn) (hj.trans_le hn) heq
  rw [acceptedKeys, hkeys, List.toFinset_card_of_nodup hnodup]
  simp [flood]

/-- No bound up to `2 ^ 32` holds for every run. -/
theorem flowCount_unbounded :
    ¬ ∃ bound, bound ≤ 2 ^ 32 ∧ ∀ (run pre : List (WfpEventSnapshot × Instant)), pre <+: run →
      (ingest .new pre).flowCount ≤ bound := by
  rintro ⟨bound, hbound, h⟩
  have hflood := h (flood (2 ^ 32 + 1)) _ (List.prefix_refl _)
  rw [flowCount_ingest, card_acceptedKeys_flood (by norm_num)] at hflood
  omega

end Core
end FlyDpi
