import FlyDpi.Lib.LastWrite
import FlyDpi.Orchestrator.HistoryStore

/-!
# HistoryIds — entries that get their ID from the clock

`Add` names an entry without an ID after the reading of the clocks at its timestamp.  The file of an
earlier entry with the same reading is replaced, so the entries that are listed after a run within
the limit are all of those added exactly when their readings differ.
-/

namespace FlyDpi
namespace Orchestrator
namespace History

open Lib Lib.Outcome

/-- `encoding/json` reads back what it wrote for `e`, with the newline that `Add` appends. -/
def RoundTrips (codec : Codec) (e : Entry) : Prop :=
  ∀ data, codec.marshalIndent e = ok data → codec.unmarshal (data ++ [0x0a]) = some e

/-- `encoding/json` reads back some entry with the ID of `e`; its texts may have lost what is no
UTF-8, its timestamp the seconds of the offset. -/
def RestoresId (codec : Codec) (e : Entry) : Prop :=
  ∀ data, codec.marshalIndent e = ok data →
    ∃ e', codec.unmarshal (data ++ [0x0a]) = some e' ∧ e'.id = e.id

variable {codec : Codec} {store : Store} {adds : List AddCall} {dir : Option HistoryDir}

/-! ## Runs within the limit -/

/-- The files that calls have written, the last one under every name. -/
def filesOf (codec : Codec) (adds : List AddCall) : HistoryDir :=
  LastWrite.writeAll AddCall.fileName (fun a => (a.written codec).2) adds

theorem length_jsonFiles_le (dir : HistoryDir) : (jsonFiles dir).length ≤ dir.size := by
  refine (List.length_filter_le _ _).trans_eq ?_
  rw [readDir, List.length_mergeSort, Table.pairs, List.length_map]
  rfl

/-- Nothing is evicted below the limit. -/
theorem rotated_filesOf {a : AddCall} (hlen : (adds ++ [a]).length ≤ store.limit) :
    rotated codec store (filesOf codec adds) a = filesOf codec (adds ++ [a]) := by
  have hinsert : (filesOf codec adds).insert a.fileName (a.written codec).2 =
      filesOf codec (adds ++ [a]) :=
    (LastWrite.writeAll_concat AddCall.fileName (fun a => (a.written codec).2) adds a).symm
  have hfew : ((byModTime (jsonFiles (filesOf codec (adds ++ [a])))).map Prod.fst).length ≤
      store.limit := by
    rw [List.length_map, byModTime, List.length_mergeSort]
    exact (length_jsonFiles_le _).trans ((LastWrite.size_writeAll_le _ _ _).trans hlen)
  simp only [rotated, hinsert]
  exact Table.evict_of_length_le hfew _

theorem addAll_eq_ok (hrun : addAll codec store (some ∅) adds = ok dir)
    (hlen : adds.length ≤ store.limit) :
    (∀ a ∈ adds, ∃ data, codec.marshalIndent a.prepared = ok data) ∧
      dir = some (filesOf codec adds) := by
  induction adds using List.reverseRecOn generalizing dir with
  | nil =>
      cases hrun
      simp [filesOf, LastWrite.writeAll]
  | append_singleton adds a ih =>
      rw [addAll_concat, bind_eq_ok_iff] at hrun
      rcases hrun with ⟨mid, hrun, hadd⟩
      have hshort : adds.length ≤ store.limit := by
        rw [List.length_append] at hlen
        omega
      rcases ih hrun hshort with ⟨hjson, rfl⟩
      rcases add_eq_ok_iff.1 hadd with ⟨hdata, _, rfl⟩
      refine ⟨?_, ?_⟩
      · intro b hb
        rcases List.mem_append.1 hb with hb | hb
        · exact hjson b hb
        · rw [List.mem_singleton.1 hb]
          exact hdata
      · rw [Option.getD_some, rotated_filesOf hlen]

/-! ## Names and readings -/

/-- Calls with neither an ID nor the zero time. -/
structure Unnamed (adds : List AddCall) : Prop where
  id : ∀ a ∈ adds, a.entry.id = []
  timestamp : ∀ a ∈ adds, a.entry.timestamp.instant.isZero = false

/-- What the clocks showed at the timestamp of a call. -/
def AddCall.reading (a : AddCall) : Int × Nat :=
  a.entry.timestamp.reading

theorem Unnamed.prepared_id (h : Unnamed adds) {a : AddCall} (ha : a ∈ adds) :
    a.prepared.id = a.entry.timestamp.formatStamp := by
  simp [AddCall.prepared, prepared, h.id a ha, h.timestamp a ha]

theorem Unnamed.fileName_eq_iff (h : Unnamed adds) {a b : AddCall} (ha : a ∈ adds)
    (hb : b ∈ adds) : a.fileName = b.fileName ↔ a.reading = b.reading := by
  rw [AddCall.fileName, AddCall.fileName, fileName_inj, h.prepared_id ha, h.prepared_id hb]
  exact ZonedTime.formatStamp_inj

theorem Unnamed.nodup_iff (h : Unnamed adds) :
    (adds.map AddCall.fileName).Nodup ↔ (adds.map AddCall.reading).Nodup := by
  rw [List.Nodup, List.Nodup, List.pairwise_map, List.pairwise_map]
  refine List.Pairwise.iff_of_mem ?_
  intro a b ha hb
  exact not_congr (h.fileName_eq_iff ha hb)

/-! ## What is listed -/

theorem length_list_le (codec : Codec) (store : Store) (dir : HistoryDir) :
    (list codec store (some dir)).length ≤ dir.size := by
  rw [list, List.length_take, (newestFirst_perm _).length_eq]
  exact (Nat.min_le_right _ _).trans
    ((List.length_filterMap_le _ _).trans (length_jsonFiles_le dir))

/-- When every entry is listed, every entry has a file. -/
theorem nodup_of_subperm
    (h : (adds.map AddCall.prepared).Subperm (list codec store (some (filesOf codec adds)))) :
    (adds.map AddCall.fileName).Nodup := by
  refine LastWrite.nodup_of_length_le_size AddCall.fileName (fun a => (a.written codec).2) ?_
  have hlength := h.length_le
  rw [List.length_map] at hlength
  exact hlength.trans (length_list_le codec store _)

theorem list_filesOf (hfiles : (adds.map AddCall.fileName).Nodup)
    (hlen : adds.length ≤ store.limit) :
    (list codec store (some (filesOf codec adds))).Perm
      (adds.filterMap (AddCall.readBack codec)) :=
  list_perm (LastWrite.lists_writeAll _ _ hfiles) hlen

/-- An entry that is listed survived its JSON: no other file holds its ID. -/
theorem roundTrips_of_mem_list
    (hdata : ∀ a ∈ adds, ∃ data, codec.marshalIndent a.prepared = ok data)
    (hjson : ∀ a ∈ adds, RestoresId codec a.prepared)
    (hfiles : (adds.map AddCall.fileName).Nodup) {a : AddCall} (ha : a ∈ adds)
    (hmem : a.prepared ∈ adds.filterMap (AddCall.readBack codec)) : RoundTrips codec a.prepared := by
  rcases List.mem_filterMap.1 hmem with ⟨b, hb, hread⟩
  rcases hdata b hb with ⟨data, hmarshal⟩
  simp only [AddCall.readBack, AddCall.content, hmarshal] at hread
  -- the file it was read from is its own
  have hsame : b = a := by
    rcases hjson b hb data hmarshal with ⟨e', he', hid⟩
    rw [hread, Option.some.injEq] at he'
    refine List.inj_on_of_nodup_map hfiles hb ha ?_
    rw [AddCall.fileName, AddCall.fileName, ← hid, ← he']
  subst hsame
  intro data' hmarshal'
  rw [hmarshal, ok.injEq] at hmarshal'
  rw [← hmarshal']
  exact hread

theorem readBack_of_roundTrips {a : AddCall}
    (hdata : ∃ data, codec.marshalIndent a.prepared = ok data)
    (hjson : RoundTrips codec a.prepared) : a.readBack codec = some a.prepared := by
  rcases hdata with ⟨data, hmarshal⟩
  simp only [AddCall.readBack, AddCall.content, hmarshal]
  exact hjson data hmarshal

/-- After successful calls within the limit, for entries without an ID, every entry is listed exactly
when the clocks showed something different at every timestamp and the JSON of every entry is read
back as the entry. -/
theorem history_lossless_iff (hunnamed : Unnamed adds) (limit : Int)
    (hrun : addAll codec (newStore limit) (some ∅) adds = ok dir)
    (hlen : adds.length ≤ (newStore limit).limit)
    (hjson : ∀ a ∈ adds, RestoresId codec a.prepared) :
    (adds.map AddCall.prepared).Subperm (list codec (newStore limit) dir) ↔
      (adds.map AddCall.reading).Nodup ∧ ∀ a ∈ adds, RoundTrips codec a.prepared := by
  rcases addAll_eq_ok hrun hlen with ⟨hdata, rfl⟩
  rw [← hunnamed.nodup_iff]
  constructor
  · intro h
    have hfiles := nodup_of_subperm h
    refine ⟨hfiles, ?_⟩
    intro a ha
    have hlisted : a.prepared ∈ list codec (newStore limit) (some (filesOf codec adds)) :=
      h.subset (List.mem_map_of_mem ha)
    exact roundTrips_of_mem_list hdata hjson hfiles ha
      ((list_filesOf hfiles hlen).subset hlisted)
  · rintro ⟨hfiles, htrip⟩
    rw [← filterMap_readBack fun a ha => readBack_of_roundTrips (hdata a ha) (htrip a ha)]
    exact (list_filesOf hfiles hlen).symm.subperm

/-! ## The night that summer time ends -/

/-- The ID that a report gets at half past two. -/
def nightId : Bytes :=
  lit "20241027-023000.000000000"

/-- Adding a report that has no ID. -/
def unnamedCall (winter : Bool) : AddCall :=
  reportCall 0 ([], winter)

theorem prepared_unnamedCall (winter : Bool) :
    (unnamedCall winter).prepared = report (nightId, winter) := by
  revert winter
  decide

theorem mem_reports (winter : Bool) : (nightId, winter) ∈ reports := by
  revert winter
  decide

theorem unnamed_unnamedCalls (night : List Bool) : Unnamed (night.map unnamedCall) := by
  constructor
  · intro a ha
    rcases List.mem_map.1 ha with ⟨winter, _, rfl⟩
    rfl
  · intro a ha
    rcases List.mem_map.1 ha with ⟨winter, _, rfl⟩
    cases winter with
    | false =>
        decide
    | true =>
        decide

theorem roundTrips_unnamedCall (winter : Bool) :
    RoundTrips reportCodec (unnamedCall winter).prepared := by
  intro data hdata
  rw [prepared_unnamedCall, marshalIndent_report (mem_reports winter)] at hdata
  cases hdata
  rw [prepared_unnamedCall]
  exact unmarshal_reportJson (mem_reports winter)

/-- Calls succeed whose entries have a JSON and whose IDs are names. -/
theorem exists_addAll (hadds : ∀ a ∈ adds,
    (∃ data, codec.marshalIndent a.prepared = ok data) ∧ IsPlain a.prepared.id)
    (dir : Option HistoryDir) : ∃ dir', addAll codec store dir adds = ok dir' := by
  induction adds generalizing dir with
  | nil =>
      exact ⟨dir, rfl⟩
  | cons a adds ih =>
      rcases List.forall_mem_cons.1 hadds with ⟨⟨hdata, hplain⟩, hrest⟩
      have hadd : add codec store dir a.entry a.now a.modTime =
          ok (some (rotated codec store (dir.getD ∅) a)) := by
        rw [add_eq_ok_iff]
        exact ⟨hdata, hplain, rfl⟩
      rcases ih hrest (some (rotated codec store (dir.getD ∅) a)) with ⟨dir', hrun⟩
      refine ⟨dir', ?_⟩
      rw [addAll, List.foldlM_cons, hadd, ok_bind]
      exact hrun

theorem exists_addAll_unnamedCalls (store : Store) (night : List Bool) (dir : Option HistoryDir) :
    ∃ dir', addAll reportCodec store dir (night.map unnamedCall) = ok dir' := by
  refine exists_addAll (fun a ha => ?_) dir
  rcases List.mem_map.1 ha with ⟨winter, _, rfl⟩
  have hplain : IsPlain nightId := by
    decide +kernel
  rw [prepared_unnamedCall]
  exact ⟨⟨_, marshalIndent_report (mem_reports winter)⟩, hplain⟩

/-- A report at noon, with the ID that `Add` gives it. -/
def noonReport : Entry :=
  { id := lit "20241027-120000.000000000"
    timestamp :=
      { instant := Time.unix 1730026800 0
        offset := 3600
        nsec_lt := by decide }
    severity := lit "warning"
    title := []
    summary := [] }

def noonJson : Bytes :=
  lit "\x7b\n  \"id\": \"20241027-120000.000000000\",\n" ++
    lit "  \"timestamp\": \"2024-10-27T12:00:00+01:00\",\n  \"severity\": \"warning\",\n" ++
    lit "  \"title\": \"\",\n  \"summary\": \"\"\n\x7d"

/-- `encoding/json` on this report, too. -/
def noonCodec : Codec :=
  { marshalIndent := fun e => if e = noonReport then ok noonJson else reportCodec.marshalIndent e
    unmarshal := fun data =>
      if data = noonJson ++ [0x0a] then some noonReport else reportCodec.unmarshal data }

theorem marshalIndent_noonCodec (e : Entry) : noonCodec.marshalIndent e =
    if e = noonReport then ok noonJson else reportCodec.marshalIndent e := rfl

theorem unmarshal_noonCodec (data : Bytes) : noonCodec.unmarshal data =
    if data = noonJson ++ [0x0a] then some noonReport else reportCodec.unmarshal data := rfl

/-- A report at half past two and one at noon, both without an ID. -/
def nightAndNoon : List AddCall :=
  [unnamedCall true,
    { entry := { noonReport with id := [] }
      now := noonReport.timestamp
      modTime := Time.unix 1730026800 0 }]

theorem nightAndNoon_json : ∀ a ∈ nightAndNoon,
    ((∃ data, noonCodec.marshalIndent a.prepared = ok data) ∧ IsPlain a.prepared.id) ∧
      RestoresId noonCodec a.prepared := by
  intro a ha
  simp only [nightAndNoon, List.mem_cons, List.not_mem_nil, or_false] at ha
  rcases ha with rfl | rfl
  · have hmarshal : noonCodec.marshalIndent (unnamedCall true).prepared =
        ok (reportJson (nightId, true)) := by
      rw [marshalIndent_noonCodec, if_neg (by decide +kernel), prepared_unnamedCall,
        marshalIndent_report (mem_reports true)]
    refine ⟨⟨⟨_, hmarshal⟩, by decide +kernel⟩, fun data hdata => ?_⟩
    rw [hmarshal] at hdata
    cases hdata
    refine ⟨report (nightId, true), ?_, by rw [prepared_unnamedCall]⟩
    rw [unmarshal_noonCodec, if_neg (by decide +kernel), unmarshal_reportJson (mem_reports true)]
  · have hprepared : (AddCall.mk { noonReport with id := [] } noonReport.timestamp
        (Time.unix 1730026800 0)).prepared = noonReport := by
      decide +kernel
    have hmarshal : noonCodec.marshalIndent noonReport = ok noonJson := by
      rw [marshalIndent_noonCodec, if_pos rfl]
    rw [hprepared]
    refine ⟨⟨⟨_, hmarshal⟩, by decide +kernel⟩, fun data hdata => ?_⟩
    rw [hmarshal] at hdata
    cases hdata
    exact ⟨noonReport, by rw [unmarshal_noonCodec, if_pos rfl], rfl⟩

theorem history_lossless_report :
    ∃ dir, addAll noonCodec (newStore 100) (some ∅) nightAndNoon = ok dir ∧
      ((nightAndNoon.map AddCall.prepared).Subperm (list noonCodec (newStore 100) dir) ↔
        (nightAndNoon.map AddCall.reading).Nodup ∧
          ∀ a ∈ nightAndNoon, RoundTrips noonCodec a.prepared) ∧
      (nightAndNoon.map AddCall.reading).Nodup := by
  have hadds : ∃ dir, addAll noonCodec (newStore 100) (some ∅) nightAndNoon = ok dir :=
    exists_addAll (fun a ha => (nightAndNoon_json a ha).1) (some ∅)
  rcases hadds with ⟨dir, hrun⟩
  have hunnamed : Unnamed nightAndNoon := ⟨by decide, by decide⟩
  refine ⟨dir, hrun, ?_, by decide +kernel⟩
  exact history_lossless_iff hunnamed 100 hrun (by decide) fun a ha => (nightAndNoon_json a ha).2

/-- Of two reports an hour apart, before and after the clocks are turned back, only one is left. -/
theorem history_entry_overwritten :
    ¬ ∀ (codec : Codec) (adds : List AddCall) (limit : Int) (dir : Option HistoryDir),
      Unnamed adds → addAll codec (newStore limit) (some ∅) adds = ok dir →
      adds.length < (newStore limit).limit → (∀ a ∈ adds, RoundTrips codec a.prepared) →
      (adds.map AddCall.prepared).Subperm (list codec (newStore limit) dir) := by
  intro h
  rcases exists_addAll_unnamedCalls (newStore 100) [false, true] (some ∅) with ⟨dir, hrun⟩
  have hjson : ∀ a ∈ [false, true].map unnamedCall, RoundTrips reportCodec a.prepared := by
    intro a ha
    rcases List.mem_map.1 ha with ⟨winter, _, rfl⟩
    exact roundTrips_unnamedCall winter
  have hlisted := h reportCodec _ 100 dir (unnamed_unnamedCalls _) hrun (by decide) hjson
  rcases addAll_eq_ok hrun (by decide) with ⟨_, rfl⟩
  have hreadings := (unnamed_unnamedCalls [false, true]).nodup_iff.1 (nodup_of_subperm hlisted)
  exact absurd hreadings (by decide)

end History
end Orchestrator
end FlyDpi
