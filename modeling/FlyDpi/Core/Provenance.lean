import FlyDpi.Core.BridgeContract
import FlyDpi.Core.IngestMemory
import FlyDpi.Core.StopLatency

/-!
# Provenance — what reaches a consumer comes from a record

A property of all snapshots that the callback builds is a property of every snapshot behind an event
of the ring, behind a record that was handed out and behind a flow of the table, in every
interleaving and also when counters saturate.

Two consequences for whole runs.  Every record handed out is an observation of a TCP or UDP packet
without process, latency or error code.  And while the records carry the version numbers of the
Windows SDK, nothing is handed out at all.
-/

namespace FlyDpi
namespace Core
namespace World

open Lib Native

/-! ## Everything stems from a snapshot of the callback -/

/-- Where the snapshots of a run may be found, all of them satisfying `S`. -/
structure StemsFrom (S : WfpEventSnapshot → Prop) (w : World) : Prop where
  datapathHealthy : w.shared.datapath.poisoned = false
  eventsHealthy : w.shared.events.poisoned = false
  queue : ∀ s ∈ w.observer.queue, S s
  feeding : ∀ drained s, w.worker.pc = .feeding drained s → S s
  pushing : ∀ drained s e, w.worker.pc = .pushing drained s e → ∃ s', S s' ∧ normalize s' = some e
  ring : ∀ e ∈ w.ring.events, ∃ s, S s ∧ normalize s = some e
  delivered : ∀ d ∈ w.delivered, ∃ s, S s ∧ delivers s = some d
  fed : ∀ f ∈ w.fed, S f.1
  normalized : (∀ s, S s → normalize s = none) → w.stats.eventsNormalized = 0

section Preservation

variable {S : WfpEventSnapshot → Prop} {w : World}

theorem start_stemsFrom : StemsFrom S start where
  datapathHealthy := rfl
  eventsHealthy := rfl
  queue := by
    intro s hs
    cases hs
  feeding := by
    intro drained s hpc
    cases hpc
  pushing := by
    intro drained s e hpc
    cases hpc
  ring := by
    intro e he
    cases he
  delivered := by
    intro d hd
    cases hd
  fed := by
    intro f hf
    cases hf
  normalized := fun _ => rfl

theorem StemsFrom.callback (h : StemsFrom S w) {event : FwpmNetEvent2}
    (hS : S (buildSnapshot event)) :
    StemsFrom S
      { w with
        shared := { w.shared with observer := w.shared.observer.enqueue (buildSnapshot event) }
        uncounted := w.uncounted + 1
        callbacks := w.callbacks ++ [event] } :=
  { h with
    queue := by
      intro s hs
      change s ∈ (w.observer.enqueue (buildSnapshot event)).queue at hs
      rw [FlyDpiWfpObserver.queue_enqueue] at hs
      rcases DropOldest.mem_push hs with hold | rfl
      · exact h.queue s hold
      · exact hS }

/-- Handing out the oldest events of the ring. -/
theorem StemsFrom.drained (h : StemsFrom S w) (max : Nat) :
    StemsFrom S
      { w with
        shared := { w.shared with
          events := { w.shared.events with value := (w.ring.drain max).2 } }
        delivered := w.delivered ++ (w.ring.drain max).1.map .ofEvent } :=
  { h with
    ring := by
      intro e he
      change e ∈ (w.ring.drain max).2.events at he
      rw [EventRing.events_drain] at he
      exact h.ring e (List.mem_of_mem_drop he)
    delivered := by
      intro d hd
      rcases List.mem_append.1 hd with hold | hnew
      · exact h.delivered d hold
      · rw [EventRing.fst_drain] at hnew
        rcases List.mem_map.1 hnew with ⟨e, he, rfl⟩
        rcases h.ring e (List.mem_of_mem_take he) with ⟨s, hs, hnormalize⟩
        exact ⟨s, hs, by simp [delivers, hnormalize]⟩ }

/-- The access that is neither a pop nor a feed nor a push. -/
theorem StemsFrom.rests (h : StemsFrom S w) {worker : IngestWorker} (hrests : w.worker.Rests worker) :
    StemsFrom S { w with worker := worker } :=
  { h with
    feeding := fun drained s hpc => absurd hpc (hrests.notFeeding' drained s)
    pushing := fun drained s e hpc => absurd hpc (hrests.notPushing' drained s e)
    normalized := by
      intro hnone
      change worker.stats.eventsNormalized = 0
      rw [hrests.stats]
      exact h.normalized hnone }

theorem StemsFrom.popStep (h : StemsFrom S w) (drained : UInt32) :
    StemsFrom S
      { w with
        shared := (w.worker.popStep drained w.shared).2
        worker := (w.worker.popStep drained w.shared).1 } := by
  cases hqueue : w.shared.observer.queue with
  | nil =>
      simp only [IngestWorker.popStep, WfpObserverBridge.pop_nil hqueue]
      exact
        { h with
          feeding := by
            intro drained' s hpc'
            cases hpc'
          pushing := by
            intro drained' s e hpc'
            cases hpc' }
  | cons snapshot queue =>
      have hS : S snapshot := h.queue snapshot (by simp [World.observer, hqueue])
      simp only [IngestWorker.popStep, WfpObserverBridge.pop_cons hqueue]
      exact
        { h with
          queue := by
            intro s hs
            exact h.queue s (by simp [World.observer, hqueue, show s ∈ queue from hs])
          feeding := by
            intro drained' s hpc
            cases hpc
            exact hS
          pushing := by
            intro drained' s e hpc'
            cases hpc' }

theorem StemsFrom.feedStep (h : StemsFrom S w) {drained : UInt32} {snapshot : WfpEventSnapshot}
    (hpc : w.worker.pc = .feeding drained snapshot) (now : Instant) :
    StemsFrom S
      { w with
        shared := (w.worker.feedStep drained snapshot now w.shared).2
        worker := (w.worker.feedStep drained snapshot now w.shared).1
        fed := w.fed ++ [(snapshot, now)] } := by
  have hS : S snapshot := h.feeding drained snapshot hpc
  have hlock : w.shared.datapath.lock = some w.shared.datapath.value := by
    simp [Mutex.lock, h.datapathHealthy]
  have hfed : ∀ f ∈ w.fed ++ [(snapshot, now)], S f.1 := by
    intro f hf
    rcases List.mem_append.1 hf with hold | hnew
    · exact h.fed f hold
    · rw [List.mem_singleton.1 hnew]
      exact hS
  have hnormalize := fst_feedSnapshot w.shared.datapath.value snapshot now
  cases hfeed : feedSnapshot w.shared.datapath.value snapshot now with
  | mk event dp =>
      rw [hfeed] at hnormalize
      change event = normalize snapshot at hnormalize
      cases event with
      | some event =>
          simp only [IngestWorker.feedStep, hlock, hfeed]
          exact
            { h with
              feeding := by
                intro drained' s hpc'
                cases hpc'
              pushing := by
                intro drained' s e hpc'
                cases hpc'
                exact ⟨snapshot, hS, hnormalize.symm⟩
              fed := hfed
              normalized := by
                intro hnone
                rw [hnone snapshot hS] at hnormalize
                cases hnormalize }
      | none =>
          simp only [IngestWorker.feedStep, hlock, hfeed]
          exact
            { h with
              feeding := by
                intro drained' s hpc'
                cases hpc'
              pushing := by
                intro drained' s e hpc'
                cases hpc'
              fed := hfed }

theorem StemsFrom.pushStep (h : StemsFrom S w) {drained : UInt32} {snapshot : WfpEventSnapshot}
    {event : NetworkEvent} (hpc : w.worker.pc = .pushing drained snapshot event) :
    StemsFrom S
      { w with
        shared := (w.worker.pushStep drained event w.shared).2
        worker := (w.worker.pushStep drained event w.shared).1 } := by
  have hlock : w.shared.events.lock = some w.shared.events.value := by
    simp [Mutex.lock, h.eventsHealthy]
  simp only [IngestWorker.pushStep, hlock]
  exact
    { h with
      feeding := by
        intro drained' s hpc'
        cases hpc'
      pushing := by
        intro drained' s e hpc'
        cases hpc'
      ring := by
        intro e he
        change e ∈ (w.ring.push event).events at he
        rw [EventRing.events_push] at he
        rcases DropOldest.mem_push he with hold | rfl
        · exact h.ring e hold
        · exact h.pushing drained snapshot e hpc }

theorem StemsFrom.worker (h : StemsFrom S w) {now : Instant} {worker : IngestWorker}
    {shared : Shared} (hstep : w.worker.step now w.shared = some (worker, shared)) :
    StemsFrom S
      { w with
        shared := shared
        worker := worker
        popped := w.popped ++ w.poppedBy
        fed := w.fed ++ w.fedBy now } := by
  rcases IngestWorker.step_cases hstep with ⟨drained, hpc, hpop⟩ |
    ⟨drained, snapshot, hpc, hfeed⟩ | ⟨drained, snapshot, event, hpc, hpush⟩ | ⟨hrests, rfl⟩
  · have hpopped := h.popStep drained
    rw [hpop] at hpopped
    rw [fedBy_of_not_feeding (by simp [hpc]), List.append_nil]
    exact { hpopped with }
  · have hfed := h.feedStep hpc now
    rw [hfeed] at hfed
    have hfedBy : w.fedBy now = [(snapshot, now)] := by
      simp [fedBy, hpc]
    rw [hfedBy]
    exact { hfed with }
  · have hpushed := h.pushStep hpc
    rw [hpush] at hpushed
    rw [fedBy_of_not_feeding (by simp [hpc]), List.append_nil]
    exact { hpushed with }
  · rw [fedBy_of_not_feeding hrests.notFeeding, List.append_nil]
    exact { h.rests hrests with }

/-- Every action; a callback brings in the snapshot of its record. -/
theorem StemsFrom.step {w' : World} {action : Action} (h : StemsFrom S w)
    (hstep : Step w action w') (hS : ∀ record ∈ w'.callbacks, S (buildSnapshot record)) :
    StemsFrom S w' := by
  cases hstep with
  | callback event _ =>
      exact h.callback (hS event (List.mem_append_right _ List.mem_cons_self))
  | countEvent _ _ =>
      exact { h with }
  | worker hworker =>
      exact h.worker hworker
  | poll hpoll =>
      rcases flydpiRuntimePoll_spec h.eventsHealthy hpoll with ⟨hwritten, rfl⟩
      rw [hwritten]
      exact h.drained 1
  | drain hdrain =>
      rcases flydpiRuntimeDrain_spec h.eventsHealthy hdrain with ⟨rfl, rfl⟩
      exact h.drained _
  | stop =>
      exact { h with }

theorem callbacks_subset {w' : World} {action : Action} (hstep : Step w action w') :
    w.callbacks ⊆ w'.callbacks := by
  cases hstep with
  | callback event _ =>
      exact List.subset_append_left _ _
  | _ =>
      exact List.Subset.refl _

/-- In every interleaving whose records all have snapshots in `S`. -/
theorem interleaved_stemsFrom (h : Interleaved w)
    (hS : ∀ record ∈ w.callbacks, S (buildSnapshot record)) : StemsFrom S w := by
  -- the records of an earlier world are among those of a later one
  have hinv : (∀ record ∈ w.callbacks, S (buildSnapshot record)) → StemsFrom S w := by
    refine Runs.invariant
      (I := fun w => (∀ record ∈ w.callbacks, S (buildSnapshot record)) → StemsFrom S w) ?_
      (fun _ => start_stemsFrom) h
    intro w w' hw hnext hS'
    rcases hnext with ⟨action, hstep⟩
    exact (hw fun record hrecord => hS' record (callbacks_subset hstep hrecord)).step hstep hS'
  exact hinv hS

end Preservation

/-! ## What a consumer can see -/

/-- A record that tells of a packet and of nothing else. -/
structure ObservationOnly (record : FlyDpiRuntimeEvent) : Prop where
  kind : record.kind = 1
  protocol : record.protocol = 6 ∨ record.protocol = 17
  processId : record.processId = 0
  latencyMs : record.latencyMs = 0
  errorCode : record.errorCode = 0

theorem observationOnly_of_delivers {s : WfpEventSnapshot} {record : FlyDpiRuntimeEvent}
    (hresult : s.resultCode = 0) (h : delivers s = some record) : ObservationOnly record := by
  rcases Option.map_eq_some_iff.1 h with ⟨event, hevent, rfl⟩
  have haccepted : Accepted s := by
    rw [← normalize_isSome_iff, hevent]
    rfl
  have hclass : classifySnapshot s ≠ .invalid := by
    simp [classifySnapshot_of_accepted haccepted]
  rw [normalize, if_pos haccepted, snapshotToEvent, if_neg hclass] at hevent
  cases hevent
  refine
    { kind := rfl
      protocol := ?_
      processId := rfl
      latencyMs := rfl
      errorCode := ?_ }
  · -- only the names of the two transport protocols are left
    rcases haccepted.protocol with hp | hp
    · left
      simp [FlyDpiRuntimeEvent.ofEvent, protocolCode, hp]
    · right
      simp [FlyDpiRuntimeEvent.ofEvent, protocolCode, hp]
  · simp [FlyDpiRuntimeEvent.ofEvent, hresult]

/-- In every interleaving, what consumers receive and what the ring still holds are observations. -/
theorem delivered_observationOnly {w : World} (h : Interleaved w) :
    (∀ record ∈ w.delivered, ObservationOnly record) ∧
      ∀ event ∈ w.ring.events, ObservationOnly (.ofEvent event) := by
  -- the callback leaves the result code at zero
  have hstems : StemsFrom (fun s => s.resultCode = 0) w :=
    interleaved_stemsFrom h fun record _ => rfl
  constructor
  · intro record hrecord
    rcases hstems.delivered record hrecord with ⟨s, hs, hdelivers⟩
    exact observationOnly_of_delivers hs hdelivers
  · intro event hevent
    rcases hstems.ring event hevent with ⟨s, hs, hnormalize⟩
    exact observationOnly_of_delivers hs (by simp [delivers, hnormalize])

/-- A record with the raw version 4 comes through all the way. -/
theorem acceptedRecord_delivered :
    ∃ w, Interleaved w ∧ w.delivered.length = 1 ∧ ∀ record ∈ w.delivered, ObservationOnly record := by
  have hrun : ∃ w, Interleaved w ∧ w.delivered.length = 1 := by
    refine ⟨_, (((((Relation.ReflTransGen.single
      ⟨.callback acceptedRecord, .callback acceptedRecord nofun⟩).tail
      ⟨.worker 0, .worker rfl⟩).tail ⟨.worker 0, .worker rfl⟩).tail ⟨.worker 0, .worker rfl⟩).tail
      ⟨.worker 0, .worker rfl⟩).tail ⟨.poll, .poll rfl⟩, rfl⟩
  rcases hrun with ⟨w, hw, hlength⟩
  exact ⟨w, hw, hlength, (delivered_observationOnly hw).1⟩

theorem acceptedKeys_of_none {fed : List (WfpEventSnapshot × Instant)}
    (h : ∀ f ∈ fed, ¬ Accepted f.1) : acceptedKeys fed = ∅ := by
  have hfilter : fed.filter (fun f => decide (Accepted f.1)) = [] := by
    simpa [List.filter_eq_nil_iff] using h
  rw [acceptedKeys, hfilter]
  rfl

/-- While every record has one of the two version numbers of the Windows SDK, no event is normalized,
stored or handed out, and no flow is tracked. -/
theorem silent_under_sdk_versions {w : World} (h : Interleaved w)
    (hversions : ∀ record ∈ w.callbacks,
      record.header.ipVersion = FWP_IP_VERSION_V4 ∨ record.header.ipVersion = FWP_IP_VERSION_V6) :
    w.delivered = [] ∧ w.ring.events = [] ∧ w.shared.datapath.value.flowCount = 0 ∧
      w.stats.eventsNormalized = 0 := by
  have hstems : StemsFrom (fun s => ¬ Accepted s) w := by
    refine interleaved_stemsFrom h fun record hrecord haccepted => ?_
    have hraw : record.header.ipVersion = 4 ∨ record.header.ipVersion = 6 := haccepted.version
    rcases hversions record hrecord with hv | hv <;> rw [hv] at hraw <;> revert hraw <;> decide
  have hnone : ∀ s, ¬ Accepted s → normalize s = none := fun s hs => if_neg hs
  refine ⟨?_, ?_, ?_, hstems.normalized hnone⟩
  · refine List.eq_nil_iff_forall_not_mem.2 fun record hrecord => ?_
    rcases hstems.delivered record hrecord with ⟨s, hs, hdelivers⟩
    rw [delivers, hnone s hs] at hdelivers
    cases hdelivers
  · refine List.eq_nil_iff_forall_not_mem.2 fun event hevent => ?_
    rcases hstems.ring event hevent with ⟨s, hs, hnormalize⟩
    rw [hnone s hs] at hnormalize
    cases hnormalize
  · have hkeys : acceptedKeys w.fed = ∅ := acceptedKeys_of_none hstems.fed
    rw [flowCount_interleaved h, hkeys, Finset.card_empty]

/-- The callback has queued a record of a TCP connection to 1.1.1.1:443. -/
def recordQueued : World :=
  { start with
    shared := { start.shared with
      observer := start.shared.observer.enqueue (buildSnapshot ipv4Record) }
    uncounted := 1
    callbacks := [ipv4Record] }

/-- The worker has popped it and fed it to the datapath. -/
def recordFed : World :=
  { recordQueued with
    shared := { recordQueued.shared with observer := { recordQueued.observer with queue := [] } }
    worker :=
      { IngestWorker.start with
        pc := .popping 1
        stats := { IngestWorker.start.stats with snapshotsSeen := 1, snapshotsRejected := 1 } }
    popped := [buildSnapshot ipv4Record]
    fed := [(buildSnapshot ipv4Record, 0)] }

theorem interleaved_recordFed : Interleaved recordFed := by
  have hqueued : Next start recordQueued := ⟨.callback ipv4Record, .callback ipv4Record nofun⟩
  have hrefused :
      feedSnapshot .new (buildSnapshot ipv4Record) 0 = (none, .new) :=
    feedSnapshot_of_not_accepted (by decide) .new 0
  refine Relation.ReflTransGen.tail (Relation.ReflTransGen.tail (Relation.ReflTransGen.tail
    (Relation.ReflTransGen.single hqueued) ⟨.worker 0, .worker rfl⟩) ⟨.worker 0, .worker rfl⟩)
    ⟨.worker 0, ?_⟩
  refine Step.worker ?_
  change some (IngestWorker.feedStep _ 1 (buildSnapshot ipv4Record) 0 _) = _
  have hlock : recordQueued.shared.datapath.lock = some .new := rfl
  simp only [IngestWorker.feedStep, hlock, hrefused]
  rfl

theorem recordFed_silent :
    recordFed.delivered = [] ∧ recordFed.ring.events = [] ∧
      recordFed.shared.datapath.value.flowCount = 0 ∧ recordFed.stats.eventsNormalized = 0 :=
  silent_under_sdk_versions interleaved_recordFed fun _ hrecord =>
    Or.inl (congrArg (·.header.ipVersion) (List.mem_singleton.1 hrecord))

end World
end Core
end FlyDpi
