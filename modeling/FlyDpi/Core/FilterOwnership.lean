import FlyDpi.Core.WfpState

/-!
# FilterOwnership — what a `WfpState` owns after any run of calls

The state is described by the session that is open (`Tracks`): the ids of a session are the first
positive numbers, the counter stands behind the last of them, and the owned ids are those that were
returned and not removed.  Ownership within a session and the reuse of ids across sessions both
follow from that description.
-/

namespace FlyDpi
namespace Core

/-! ## The first ids of a session -/

def firstIds (n : Nat) : List FilterId :=
  (List.range n).map fun i => { value := UInt64.ofNat (i + 1) }

theorem firstIds_succ (n : Nat) :
    firstIds (n + 1) = firstIds n ++ [{ value := UInt64.ofNat (n + 1) }] := by
  simp [firstIds, List.range_succ]

theorem toNat_firstId {i n : Nat} (hi : i < n) (hn : n < 2 ^ 64) :
    (UInt64.ofNat (i + 1)).toNat = i + 1 := by
  rw [UInt64.toNat_ofNat']
  omega

theorem mem_firstIds {n : Nat} (hn : n < 2 ^ 64) {id : FilterId} :
    id ∈ firstIds n ↔ 1 ≤ id.value.toNat ∧ id.value.toNat ≤ n := by
  unfold firstIds
  rw [List.mem_map]
  constructor
  · rintro ⟨i, hi, rfl⟩
    rw [List.mem_range] at hi
    rw [toNat_firstId hi hn]
    omega
  · rintro ⟨hpos, hle⟩
    refine ⟨id.value.toNat - 1, List.mem_range.2 (by omega), ?_⟩
    rw [Nat.sub_add_cancel hpos, UInt64.ofNat_toNat]

theorem nodup_firstIds {n : Nat} (hn : n < 2 ^ 64) : (firstIds n).Nodup := by
  refine List.Nodup.map_on ?_ List.nodup_range
  intro i hi j hj hij
  rw [List.mem_range] at hi hj
  have hvalue : (UInt64.ofNat (i + 1)).toNat = (UInt64.ofNat (j + 1)).toNat :=
    congrArg (fun id : FilterId => id.value.toNat) hij
  rw [toNat_firstId hi hn, toNat_firstId hj hn] at hvalue
  omega

/-! ## The invariant -/

/-- The state is the one that its session leads to. -/
structure WfpSession.Tracks (session : WfpSession) (s : WfpState) : Prop where
  issued : session.issued = firstIds session.issued.length
  nextId : s.nextId.toNat = if s.initialized then session.issued.length + 1 else 0
  idle : s.initialized = false → session.issued = [] ∧ s.filters = ∅
  owned : ∀ id, id ∈ s.filters ↔ id ∈ session.issued ∧ id ∉ session.removed
  known : ∀ id ∈ session.removed, id ∈ session.issued
  count : s.filters.card + session.removed.length = session.issued.length

namespace WfpSession
namespace Tracks

variable {session : WfpSession} {s : WfpState}

theorem start : Tracks WfpSession.start WfpState.default where
  issued := rfl
  nextId := rfl
  idle := fun _ => ⟨rfl, rfl⟩
  owned := by
    intro id
    simp [WfpState.default, WfpSession.start]
  known := by
    intro id hid
    simp [WfpSession.start] at hid
  count := rfl

theorem length_lt (h : Tracks session s) : session.issued.length < 2 ^ 64 - 1 := by
  cases hinit : s.initialized with
  | false =>
      rw [(h.idle hinit).1]
      decide
  | true =>
      have hnext := h.nextId
      have hlt : s.nextId.toNat < 2 ^ 64 := s.nextId.toNat_lt
      rw [hinit, if_pos rfl] at hnext
      omega

theorem mem_issued (h : Tracks session s) {id : FilterId} :
    id ∈ session.issued ↔ 1 ≤ id.value.toNat ∧ id.value.toNat ≤ session.issued.length := by
  have hlt := h.length_lt
  rw [h.issued, mem_firstIds (by omega)]
  simp [firstIds]

theorem nodup_issued (h : Tracks session s) : session.issued.Nodup := by
  have hlt := h.length_lt
  rw [h.issued]
  exact nodup_firstIds (by omega)

/-- What a registration returns stands right behind the ids of the session. -/
theorem nextId_of_initialized (h : Tracks session s) (hinit : s.initialized = true) :
    s.nextId.toNat = session.issued.length + 1 := by
  simpa [hinit] using h.nextId

/-- The counter itself has not been handed out. -/
theorem nextId_not_mem (h : Tracks session s) (hinit : s.initialized = true) :
    ({ value := s.nextId } : FilterId) ∉ session.issued := by
  intro hmem
  have hle := (h.mem_issued.1 hmem).2
  rw [h.nextId_of_initialized hinit] at hle
  omega

/-! ## One call -/

theorem initializeState (h : Tracks session s) : Tracks session s.initializeState.2 := by
  cases hinit : s.initialized with
  | true =>
      rw [WfpState.initializeState_of_initialized hinit]
      exact h
  | false =>
      rcases h.idle hinit with ⟨hissued, hfilters⟩
      rw [WfpState.initializeState_of_not_initialized hinit]
      exact
        { h with
          nextId := by
            rw [hissued]
            rfl
          idle := by
            intro hfalse
            cases hfalse }

theorem registered (h : Tracks session s) (hinit : s.initialized = true) {next : UInt64}
    (hnext : next.toNat = s.nextId.toNat + 1) :
    Tracks { session with issued := session.issued ++ [{ value := s.nextId }] }
      { s with nextId := next, filters := insert { value := s.nextId } s.filters } := by
  have hid : s.nextId = UInt64.ofNat (session.issued.length + 1) := by
    rw [← h.nextId_of_initialized hinit, UInt64.ofNat_toNat]
  have hnew := h.nextId_not_mem hinit
  refine
    { issued := ?_
      nextId := ?_
      idle := ?_
      owned := ?_
      known := ?_
      count := ?_ }
  · rw [List.length_append, List.length_singleton, firstIds_succ, ← h.issued, ← hid]
  · simp only [hinit, if_true, List.length_append, List.length_singleton]
    rw [hnext, h.nextId_of_initialized hinit]
  · intro hfalse
    rw [hinit] at hfalse
    cases hfalse
  · intro id
    rw [Finset.mem_insert, h.owned, List.mem_append, List.mem_singleton]
    constructor
    · rintro (rfl | ⟨hissued, hkept⟩)
      · -- nothing is removed before it is handed out
        exact ⟨Or.inr rfl, fun hgone => hnew (h.known _ hgone)⟩
      · exact ⟨Or.inl hissued, hkept⟩
    · rintro ⟨hissued | rfl, hkept⟩
      · exact Or.inr ⟨hissued, hkept⟩
      · exact Or.inl rfl
  · intro id hgone
    exact List.mem_append_left _ (h.known id hgone)
  · have hcount := h.count
    have hfilters : ({ value := s.nextId } : FilterId) ∉ s.filters := by
      rw [h.owned]
      exact fun hmem => hnew hmem.1
    rw [Finset.card_insert_of_notMem hfilters, List.length_append]
    simp only [List.length_singleton]
    omega

theorem removed (h : Tracks session s) {id : FilterId} (hid : id ∈ s.filters) :
    Tracks { session with removed := session.removed ++ [id] }
      { s with filters := s.filters.erase id } :=
  { h with
    idle := by
      intro hfalse
      rw [(h.idle hfalse).2] at hid
      simp at hid
    owned := by
      intro id'
      rw [Finset.mem_erase, h.owned, List.mem_append, List.mem_singleton]
      tauto
    known := by
      intro id' hgone
      rcases List.mem_append.1 hgone with hold | hnow
      · exact h.known id' hold
      · rw [List.mem_singleton.1 hnow]
        exact ((h.owned id).1 hid).1
    count := by
      have hcount := h.count
      have hpos : 0 < s.filters.card := Finset.card_pos.2 ⟨id, hid⟩
      rw [Finset.card_erase_of_mem hid, List.length_append]
      simp only [List.length_singleton]
      omega }

/-- One call, with the session that records it. -/
theorem apply (h : Tracks session s) (op : WfpOp) :
    Tracks (session.record op (s.apply op).1) (s.apply op).2 := by
  cases op with
  | initializeState =>
      exact h.initializeState
  | registerOwnedFilter =>
      cases hinit : s.initialized with
      | false =>
          simp only [WfpState.apply, WfpState.registerOwnedFilter_of_not_initialized hinit]
          exact h
      | true =>
          rcases WfpState.registerOwnedFilter_of_initialized hinit with
            ⟨next, hnext, hreg⟩ | ⟨_, hreg⟩
          · simp only [WfpState.apply, hreg]
            exact h.registered hinit hnext
          · simp only [WfpState.apply, hreg]
            exact h
  | removeOwnedFilter id =>
      by_cases hid : id ∈ s.filters
      · simp only [WfpState.apply, WfpState.removeOwnedFilter, hid, decide_true]
        exact h.removed hid
      · simp only [WfpState.apply, WfpState.removeOwnedFilter_of_not_mem hid]
        exact h
  | reset =>
      exact start

end Tracks
end WfpSession

/-! ## Runs -/

namespace WfpSession

theorem fst_trace (ops : List WfpOp) :
    (ops.foldl observe (WfpState.default, start)).1 = WfpState.run ops := by
  induction ops using List.reverseRecOn with
  | nil =>
      rfl
  | append_singleton ops op ih =>
      rw [List.foldl_concat, observe, ih, WfpState.run_concat]

theorem after_concat (ops : List WfpOp) (op : WfpOp) :
    after (ops ++ [op]) = (after ops).record op ((WfpState.run ops).apply op).1 := by
  unfold after
  rw [List.foldl_concat, observe, fst_trace]

theorem tracks_run (ops : List WfpOp) : Tracks (after ops) (WfpState.run ops) := by
  induction ops using List.reverseRecOn with
  | nil =>
      exact Tracks.start
  | append_singleton ops op ih =>
      rw [after_concat, WfpState.run_concat]
      exact ih.apply op

end WfpSession

/-! ## Ownership within a session -/

/-- What holds between a state and the session that led to it, and what the next call does. -/
structure ExactOwnership (s : WfpState) (session : WfpSession) : Prop where
  bounds : ∀ id ∈ s.filters, 1 ≤ id.value ∧ id.value < s.nextId
  idle : s.initialized = false → s.filters = ∅
  distinct : session.issued.Nodup
  count : (s.ownedFilterCount : Int) = session.issued.length - session.removed.length
  /-- What is owned was returned in this session and has not been removed. -/
  owned : ∀ id, id ∈ s.filters ↔ id ∈ session.issued ∧ id ∉ session.removed
  found : ∀ id, (s.removeOwnedFilter id).1 = true ↔ id ∈ s.filters
  erased : ∀ id, id ∉ (s.removeOwnedFilter id).2.filters
  others : ∀ id id', id' ≠ id → (id' ∈ (s.removeOwnedFilter id).2.filters ↔ id' ∈ s.filters)
  repeated : s.initialized = true → s.initializeState = (.ok (), s)
  uninitialized : s.initialized = false →
    s.registerOwnedFilter = (.error "WFP_NOT_INITIALIZED", s)
  exhausted : s.initialized = true → s.nextId.toNat = 2 ^ 64 - 1 →
    s.registerOwnedFilter = (.error "FILTER_ID_EXHAUSTED", s)
  failed : ∀ message, s.registerOwnedFilter.1 = .error message → s.registerOwnedFilter.2 = s

namespace WfpSession.Tracks

variable {session : WfpSession} {s : WfpState}

theorem bounds (h : Tracks session s) {id : FilterId} (hid : id ∈ s.filters) :
    1 ≤ id.value ∧ id.value < s.nextId := by
  have hrange := h.mem_issued.1 ((h.owned id).1 hid).1
  cases hinit : s.initialized with
  | false =>
      rw [(h.idle hinit).2] at hid
      simp at hid
  | true =>
      rw [UInt64.le_iff_toNat_le, UInt64.lt_iff_toNat_lt, h.nextId_of_initialized hinit]
      exact ⟨hrange.1, Nat.lt_succ_of_le hrange.2⟩

theorem exactOwnership (h : Tracks session s) : ExactOwnership s session where
  bounds := fun id hid => h.bounds hid
  idle := fun hinit => (h.idle hinit).2
  distinct := h.nodup_issued
  count := by
    have hcount := h.count
    rw [WfpState.ownedFilterCount]
    omega
  owned := h.owned
  found := by
    intro id
    simp [WfpState.removeOwnedFilter]
  erased := by
    intro id
    simp [WfpState.removeOwnedFilter]
  others := by
    intro id id' hne
    simp [WfpState.removeOwnedFilter, hne]
  repeated := WfpState.initializeState_of_initialized
  uninitialized := WfpState.registerOwnedFilter_of_not_initialized
  exhausted := by
    intro hinit hmax
    rcases WfpState.registerOwnedFilter_of_initialized hinit with ⟨next, hnext, _⟩ | ⟨_, hreg⟩
    · have hlt : next.toNat < 2 ^ 64 := next.toNat_lt
      omega
    · exact hreg
  failed := fun _ herror => WfpState.registerOwnedFilter_error herror

end WfpSession.Tracks

/-- After every run of calls the state owns exactly what its session says. -/
theorem wfpState_exactOwnership (ops : List WfpOp) :
    ExactOwnership (WfpState.run ops) (WfpSession.after ops) :=
  (WfpSession.tracks_run ops).exactOwnership

/-! ## Ids across resets -/

namespace WfpSession

theorem mem_issued_record {session : WfpSession} {op : WfpOp} {reply : WfpReply} {id : FilterId}
    (h : id ∈ (session.record op reply).issued) :
    id ∈ session.issued ∨ reply.filterId? = some id := by
  unfold record at h
  split at h
  · rename_i id'
    rcases List.mem_append.1 h with hold | hnew
    · exact Or.inl hold
    · right
      rw [List.mem_singleton.1 hnew]
      rfl
  · exact Or.inl h
  · simp [start] at h
  · exact Or.inl h

/-- Only a registration answers with an id. -/
theorem mem_issued_record_of_filterId? {session : WfpSession} {s : WfpState} {op : WfpOp}
    {id : FilterId} (h : (s.apply op).1.filterId? = some id) :
    id ∈ (session.record op (s.apply op).1).issued := by
  cases op with
  | registerOwnedFilter =>
      rw [WfpState.apply] at h ⊢
      cases hreg : s.registerOwnedFilter.1 with
      | error message =>
          rw [hreg] at h
          cases h
      | ok id' =>
          rw [hreg] at h
          cases h
          simp [record]
  | _ =>
      cases h

/-- An id of the open session was returned in the second part of the run, unless the session was
opened in the first part and had returned it there. -/
theorem mem_issued_append {before rest : List WfpOp} {id : FilterId}
    (h : id ∈ (after (before ++ rest)).issued) :
    id ∈ (after before).issued ∨ id ∈ (WfpState.run before).returned rest := by
  induction rest using List.reverseRecOn with
  | nil =>
      left
      simpa using h
  | append_singleton rest op ih =>
      rw [← List.append_assoc, after_concat, WfpState.run_append] at h
      rw [WfpState.returned_concat, List.mem_append, Option.mem_toList]
      rcases mem_issued_record h with hold | hnew
      · rcases ih hold with hbefore | hrest
        · exact Or.inl hbefore
        · exact Or.inr (Or.inl hrest)
      · exact Or.inr (Or.inr hnew)

/-- Every id that is returned is one of the session that is open at that moment. -/
theorem exists_issued_of_mem_returned {before rest : List WfpOp} {id : FilterId}
    (h : id ∈ (WfpState.run before).returned rest) :
    ∃ p, p <+: rest ∧ id ∈ (after (before ++ p)).issued := by
  induction rest using List.reverseRecOn with
  | nil =>
      simp [WfpState.returned] at h
  | append_singleton rest op ih =>
      rw [WfpState.returned_concat, List.mem_append, Option.mem_toList] at h
      rcases h with hold | hnew
      · rcases ih hold with ⟨p, hp, hid⟩
        exact ⟨p, hp.trans (List.prefix_append rest [op]), hid⟩
      · refine ⟨rest ++ [op], List.prefix_refl _, ?_⟩
        rw [← List.append_assoc, after_concat, WfpState.run_append]
        exact mem_issued_record_of_filterId? hnew

theorem issued_reset (before : List WfpOp) : (after (before ++ [.reset])).issued = [] := by
  rw [after_concat]
  rfl

theorem mem_issued_after (ops : List WfpOp) {id : FilterId} :
    id ∈ (after ops).issued ↔
      1 ≤ id.value.toNat ∧ id.value.toNat ≤ (after ops).issued.length :=
  (tracks_run ops).mem_issued

/-- After a reset an id is returned exactly when some session has handed out that many ids. -/
theorem mem_returned_reset {before rest : List WfpOp} {id : FilterId} :
    id ∈ (WfpState.run (before ++ [.reset])).returned rest ↔
      1 ≤ id.value.toNat ∧
        ∃ p, p <+: rest ∧ id.value.toNat ≤ (after (before ++ [.reset] ++ p)).issued.length := by
  constructor
  · intro h
    rcases exists_issued_of_mem_returned h with ⟨p, hp, hid⟩
    rw [mem_issued_after] at hid
    exact ⟨hid.1, p, hp, hid.2⟩
  · rintro ⟨hpos, p, ⟨q, rfl⟩, hle⟩
    have hid := (mem_issued_after _).2 ⟨hpos, hle⟩
    rcases mem_issued_append hid with hbefore | hreturned
    · rw [issued_reset] at hbefore
      cases hbefore
    · exact WfpState.mem_returned_append hreturned q

theorem one_le_of_mem_returned {ops : List WfpOp} {id : FilterId}
    (h : id ∈ WfpState.default.returned ops) : 1 ≤ id.value.toNat := by
  rcases @exists_issued_of_mem_returned [] ops id h with ⟨p, _, hid⟩
  exact ((mem_issued_after _).1 hid).1

end WfpSession

/-- The counter starts again at 1 with every session: an id from before a reset is returned again
exactly when a later session hands out that many ids, and it removes nothing from a session that has
handed out fewer. -/
theorem staleFilter_reissued_iff (before rest : List WfpOp) {id : FilterId}
    (hid : id ∈ WfpState.default.returned before) :
    (id ∈ (WfpState.run (before ++ [.reset])).returned rest ↔
      ∃ p, p <+: rest ∧
        id.value.toNat ≤ (WfpSession.after (before ++ [.reset] ++ p)).issued.length) ∧
    ((WfpSession.after (before ++ [.reset] ++ rest)).issued.length < id.value.toNat →
      (WfpState.run (before ++ [.reset] ++ rest)).removeOwnedFilter id =
        (false, WfpState.run (before ++ [.reset] ++ rest))) := by
  have hpos := WfpSession.one_le_of_mem_returned hid
  constructor
  · rw [WfpSession.mem_returned_reset]
    exact and_iff_right hpos
  · intro hless
    have hunknown : id ∉ (WfpSession.after (before ++ [.reset] ++ rest)).issued := by
      rw [WfpSession.mem_issued_after]
      omega
    refine WfpState.removeOwnedFilter_of_not_mem fun hmem => hunknown ?_
    exact (((WfpSession.tracks_run _).owned id).1 hmem).1

/-- The third id of a first session is stale while the second session has handed out two. -/
theorem staleFilter_reissued_iff_third :
    (WfpState.run ([.initializeState, .registerOwnedFilter, .registerOwnedFilter,
        .registerOwnedFilter] ++ [.reset] ++
        [.initializeState, .registerOwnedFilter, .registerOwnedFilter])).removeOwnedFilter ⟨3⟩ =
      (false, WfpState.run ([.initializeState, .registerOwnedFilter, .registerOwnedFilter,
        .registerOwnedFilter] ++ [.reset] ++
        [.initializeState, .registerOwnedFilter, .registerOwnedFilter])) :=
  (staleFilter_reissued_iff [.initializeState, .registerOwnedFilter, .registerOwnedFilter,
    .registerOwnedFilter] [.initializeState, .registerOwnedFilter, .registerOwnedFilter]
    (by decide)).2 (by decide)

/-- A stale id is returned again, and then it removes the filter of the new session. -/
theorem staleFilter_removes :
    ⟨1⟩ ∈ WfpState.default.returned [.initializeState, .registerOwnedFilter] ∧
    ⟨1⟩ ∈ (WfpState.run [.initializeState, .registerOwnedFilter, .reset]).returned
      [.initializeState, .registerOwnedFilter] ∧
    ((WfpState.run [.initializeState, .registerOwnedFilter, .reset, .initializeState,
      .registerOwnedFilter]).removeOwnedFilter ⟨1⟩).1 = true ∧
    ⟨1⟩ ∈ (WfpState.run [.initializeState, .registerOwnedFilter, .reset, .initializeState,
      .registerOwnedFilter]).filters ∧
    ⟨1⟩ ∉ ((WfpState.run [.initializeState, .registerOwnedFilter, .reset, .initializeState,
      .registerOwnedFilter]).removeOwnedFilter ⟨1⟩).2.filters := by
  decide

end Core
end FlyDpi
