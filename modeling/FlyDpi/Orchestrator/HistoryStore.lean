import FlyDpi.Lib.Outcome
import FlyDpi.Lib.Rotation
import FlyDpi.Orchestrator.GoTime

/-!
# HistoryStore — diagnoses as a rotating directory of files

The model of `history/store.go`.  A directory maps file names to contents and modification times;
`encoding/json` is a parameter.
-/

namespace FlyDpi
namespace Orchestrator
namespace History

open Lib Lib.Outcome

structure Entry where
  id : Bytes
  timestamp : ZonedTime
  severity : Bytes
  title : Bytes
  summary : Bytes
  deriving DecidableEq

/-- `json.MarshalIndent(e, "", "  ")` and `json.Unmarshal`. -/
structure Codec where
  marshalIndent : Entry → Outcome String Bytes
  unmarshal : Bytes → Option Entry

structure StoredFile where
  content : Bytes
  modTime : Time

/-- A directory of regular files. -/
abbrev HistoryDir := Table Bytes StoredFile

structure Store where
  limit : Nat
  limit_pos : 0 < limit

def newStore (limit : Int) : Store :=
  if h : limit ≤ 0 then
    { limit := 100
      limit_pos := by decide }
  else
    { limit := limit.toNat
      limit_pos := by omega }

/-- The entry that `Add` writes; `now` is what `time.Now()` returns. -/
def prepared (e : Entry) (now : ZonedTime) : Entry :=
  let e := if e.timestamp.instant.isZero then { e with timestamp := now.utc } else e
  if e.id = [] then { e with id := e.timestamp.formatStamp } else e

def fileName (id : Bytes) : Bytes :=
  id ++ lit ".json"

/-- Names without a separator, which `filepath.Join` puts into the directory. -/
def IsPlain (id : Bytes) : Prop :=
  ∀ c ∈ id, c ≠ 0x2f ∧ c ≠ 0x5c ∧ c ≠ 0

instance (id : Bytes) : Decidable (IsPlain id) :=
  inferInstanceAs (Decidable (∀ c ∈ id, c ≠ 0x2f ∧ c ≠ 0x5c ∧ c ≠ 0))

/-- `os.ReadDir`: the entries of a directory in the order of their names. -/
def readDir (dir : HistoryDir) : List (Bytes × StoredFile) :=
  dir.pairs.mergeSort fun a b => decide (a.1 ≤ b.1)

def jsonFiles (dir : HistoryDir) : List (Bytes × StoredFile) :=
  (readDir dir).filter fun f => decide (ext f.1 = lit ".json")

/-- `sort.Slice` by modification time; files of one time may come in any order. -/
def byModTime (files : List (Bytes × StoredFile)) : List (Bytes × StoredFile) :=
  files.mergeSort fun a b => !b.2.modTime.before a.2.modTime

/-- `sort.Slice` by `Timestamp.After`. -/
def newestFirst (entries : List Entry) : List Entry :=
  entries.mergeSort fun a b => !a.timestamp.instant.before b.timestamp.instant

variable (codec : Codec) (store : Store)

/-- `Add` on a directory that may not exist yet; `modTime` is the modification time that the new file
gets. -/
def add (dir : Option HistoryDir) (e : Entry) (now : ZonedTime) (modTime : Time) :
    Outcome String (Option HistoryDir) := do
  let e := prepared e now
  -- `MkdirAll`
  let dir := dir.getD ∅
  let data ← codec.marshalIndent e
  -- `WriteFile` replaces a file of that name; a separator would lead out of the directory
  reject (¬ IsPlain e.id) "no file of the directory"
  let dir := dir.insert (fileName e.id) { content := data ++ [0x0a], modTime := modTime }
  let files := byModTime (jsonFiles dir)
  return some (Table.evict store.limit dir (files.map Prod.fst))

def list (dir : Option HistoryDir) : List Entry :=
  match dir with
  -- a directory that does not exist has no entries
  | none => []
  | some dir =>
      -- a file that does not decode is skipped without an error
      let out := (jsonFiles dir).filterMap fun f => codec.unmarshal f.2.content
      (newestFirst out).take store.limit

/-- A call of `Add`, with what it reads from the clock and the file system. -/
structure AddCall where
  entry : Entry
  now : ZonedTime
  modTime : Time

namespace AddCall

/-- The entry that the call writes. -/
def prepared (a : AddCall) : Entry :=
  History.prepared a.entry a.now

def fileName (a : AddCall) : Bytes :=
  History.fileName a.prepared.id

/-- What a successful call writes. -/
def content (a : AddCall) : Bytes :=
  match codec.marshalIndent a.prepared with
  | ok data => data ++ [0x0a]
  | _ => []

/-- The file that a successful call leaves. -/
def written (a : AddCall) : Bytes × StoredFile :=
  (a.fileName, { content := a.content codec, modTime := a.modTime })

/-- What `List` makes of it. -/
def readBack (a : AddCall) : Option Entry :=
  codec.unmarshal (a.content codec)

end AddCall

def addAll (dir : Option HistoryDir) (adds : List AddCall) : Outcome String (Option HistoryDir) :=
  adds.foldlM (fun dir a => add codec store dir a.entry a.now a.modTime) dir

/-! ## Names and files -/

theorem ext_fileName (id : Bytes) : ext (fileName id) = lit ".json" :=
  ext_append_json id

theorem fileName_inj {id id' : Bytes} : fileName id = fileName id' ↔ id = id' := by
  simp [fileName]

theorem prepared_id {e : Entry} (now : ZonedTime) (h : e.id ≠ []) : (prepared e now).id = e.id := by
  unfold prepared
  dsimp only
  split
  · rfl
  · rfl

/-- Every file of a directory that lists files of calls is considered. -/
theorem jsonFiles_perm {codec : Codec} {dir : HistoryDir} {adds : List AddCall}
    (h : dir.Lists (adds.map (AddCall.written codec))) :
    (jsonFiles dir).Perm (adds.map (AddCall.written codec)) := by
  have hread : (readDir dir).Perm (adds.map (AddCall.written codec)) :=
    (List.mergeSort_perm _ _).trans h
  have hall : ∀ f ∈ readDir dir, decide (ext f.1 = lit ".json") = true := by
    intro f hf
    rcases List.mem_map.1 (hread.subset hf) with ⟨a, _, rfl⟩
    exact decide_eq_true (ext_fileName _)
  rw [jsonFiles, List.filter_eq_self.2 hall]
  exact hread

theorem byModTime_eq {files xs : List (Bytes × StoredFile)} (h : files.Perm xs)
    (hxs : xs.Pairwise fun a b => a.2.modTime.before b.2.modTime = true) : byModTime files = xs := by
  refine mergeSort_eq_of_perm ?_ ?_ h (hxs.imp ?_)
  · intro a b c
    exact Time.not_before_trans
  · intro a b
    exact Time.not_before_total _ _
  · intro a b hab
    simp [Time.before_asymm hab, hab]

theorem newestFirst_perm (entries : List Entry) : (newestFirst entries).Perm entries :=
  List.mergeSort_perm _ _

theorem newestFirst_pairwise (entries : List Entry) :
    (newestFirst entries).Pairwise fun e e' =>
      e.timestamp.instant.before e'.timestamp.instant = false := by
  have hsorted : (newestFirst entries).Pairwise fun e e' =>
      (!e.timestamp.instant.before e'.timestamp.instant) = true := by
    refine List.pairwise_mergeSort ?_ ?_ entries
    · intro a b c hab hbc
      exact Time.not_before_trans hbc hab
    · intro a b
      exact Time.not_before_total _ _
  refine hsorted.imp ?_
  intro e e' h
  simpa using h

/-! ## Listing -/

/-- `List` returns what the files of a directory within the limit hold. -/
theorem list_perm {codec : Codec} {store : Store} {dir : HistoryDir} {adds : List AddCall}
    (h : dir.Lists (adds.map (AddCall.written codec))) (hlen : adds.length ≤ store.limit) :
    (list codec store (some dir)).Perm (adds.filterMap (AddCall.readBack codec)) := by
  have hread : ((jsonFiles dir).filterMap fun f => codec.unmarshal f.2.content).Perm
      (adds.filterMap (AddCall.readBack codec)) := by
    refine ((jsonFiles_perm h).filterMap _).trans ?_
    rw [List.filterMap_map]
    rfl
  have hshort : (newestFirst ((jsonFiles dir).filterMap fun f =>
      codec.unmarshal f.2.content)).length ≤ store.limit := by
    rw [(newestFirst_perm _).length_eq, hread.length_eq]
    exact (List.length_filterMap_le _ _).trans hlen
  rw [list, List.take_of_length_le hshort]
  exact (newestFirst_perm _).trans hread

/-- Entries that survive their JSON are listed as they were added. -/
theorem filterMap_readBack {codec : Codec} {adds : List AddCall}
    (h : ∀ a ∈ adds, a.readBack codec = some a.prepared) :
    adds.filterMap (AddCall.readBack codec) = adds.map AddCall.prepared := by
  rw [← List.filterMap_eq_map]
  exact List.filterMap_congr h

theorem list_pairwise (codec : Codec) (store : Store) (dir : Option HistoryDir) :
    (list codec store dir).Pairwise fun e e' =>
      e.timestamp.instant.before e'.timestamp.instant = false := by
  cases dir with
  | none =>
      exact List.Pairwise.nil
  | some dir =>
      exact (newestFirst_pairwise _).sublist (List.take_sublist _ _)

/-! ## What a call does -/

/-- The directory after a successful call. -/
def rotated (dir : HistoryDir) (a : AddCall) : HistoryDir :=
  let dir := dir.insert a.fileName (a.written codec).2
  Table.evict store.limit dir ((byModTime (jsonFiles dir)).map Prod.fst)

theorem add_eq_ok_iff {codec : Codec} {store : Store} {dir dir' : Option HistoryDir} {a : AddCall} :
    add codec store dir a.entry a.now a.modTime = ok dir' ↔
      (∃ data, codec.marshalIndent a.prepared = ok data) ∧ IsPlain a.prepared.id ∧
        dir' = some (rotated codec store (dir.getD ∅) a) := by
  simp only [add, bind_eq_ok_iff, reject_eq_ok_iff, not_not, pure_eq_ok, ok.injEq]
  constructor
  · rintro ⟨data, hdata, _, hplain, rfl⟩
    refine ⟨⟨data, hdata⟩, hplain, ?_⟩
    have hcontent : a.content codec = data ++ [0x0a] := by
      simp only [AddCall.content, AddCall.prepared, hdata]
    simp only [rotated, AddCall.written, hcontent]
    rfl
  · rintro ⟨⟨data, hdata⟩, hplain, rfl⟩
    have hcontent : a.content codec = data ++ [0x0a] := by
      simp only [AddCall.content, hdata]
    refine ⟨data, hdata, ⟨⟩, hplain, ?_⟩
    simp only [rotated, AddCall.written, hcontent]
    rfl

theorem addAll_concat (codec : Codec) (store : Store) (dir : Option HistoryDir)
    (adds : List AddCall) (a : AddCall) :
    addAll codec store dir (adds ++ [a]) =
      addAll codec store dir adds >>= fun dir =>
        add codec store dir a.entry a.now a.modTime := by
  simp only [addAll, List.foldlM_append, List.foldlM_cons, List.foldlM_nil, bind_pure]

/-! ## Calls in order -/

/-- Calls with different plain names as IDs, whose files get later and later modification times and
whose entries survive their JSON. -/
structure Orderly (codec : Codec) (adds : List AddCall) : Prop where
  named : ∀ a ∈ adds, a.entry.id ≠ [] ∧ IsPlain a.entry.id
  distinct : (adds.map fun a => a.entry.id).Nodup
  aging : adds.Pairwise fun a b => a.modTime.before b.modTime = true
  json : ∀ a ∈ adds, ∃ data, codec.marshalIndent a.prepared = ok data ∧
    codec.unmarshal (data ++ [0x0a]) = some a.prepared

namespace Orderly

variable {codec : Codec} {store : Store} {adds adds' : List AddCall} {a : AddCall}

theorem sublist (h : Orderly codec adds) (hsub : adds'.Sublist adds) : Orderly codec adds' where
  named := by
    intro a ha
    exact h.named a (hsub.subset ha)
  distinct := h.distinct.sublist (hsub.map _)
  aging := h.aging.sublist hsub
  json := by
    intro a ha
    exact h.json a (hsub.subset ha)

theorem prepared_id (h : Orderly codec adds) (ha : a ∈ adds) : a.prepared.id = a.entry.id :=
  History.prepared_id a.now (h.named a ha).1

theorem readBack (h : Orderly codec adds) (ha : a ∈ adds) :
    a.readBack codec = some a.prepared := by
  rcases h.json a ha with ⟨data, hdata, hread⟩
  simp only [AddCall.readBack, AddCall.content, hdata]
  exact hread

/-- The file of the last call is a new one. -/
theorem fileName_notMem (h : Orderly codec (adds ++ [a])) :
    a.fileName ∉ (adds.map (AddCall.written codec)).map Prod.fst := by
  intro hmem
  rw [List.map_map] at hmem
  rcases List.mem_map.1 hmem with ⟨b, hb, hname⟩
  have hid : b.entry.id = a.entry.id := by
    rw [← h.prepared_id (List.mem_append_left _ hb), ← h.prepared_id (List.mem_append_right _ (by simp))]
    exact fileName_inj.1 hname
  have hdistinct := h.distinct
  rw [List.map_append] at hdistinct
  exact List.disjoint_of_nodup_append hdistinct (List.mem_map_of_mem hb) (by simp [hid])

/-- The step: a call appends its file and evicts the oldest beyond the limit. -/
theorem rotated (h : Orderly codec (adds ++ [a])) {dir : HistoryDir}
    (hdir : dir.Lists (adds.map (AddCall.written codec))) :
    (rotated codec store dir a).Lists
      (((adds ++ [a]).rtake store.limit).map (AddCall.written codec)) := by
  have hinsert : Table.Lists (AList.insert a.fileName (a.written codec).2 dir)
      ((adds ++ [a]).map (AddCall.written codec)) := by
    rw [List.map_append]
    exact hdir.insert h.fileName_notMem
  have haging : ((adds ++ [a]).map (AddCall.written codec)).Pairwise fun f g =>
      f.2.modTime.before g.2.modTime = true :=
    List.pairwise_map.2 h.aging
  have hsorted := byModTime_eq (jsonFiles_perm hinsert) haging
  have hevict := hinsert.evict store.limit
  rw [List.rtake, ← List.map_drop, List.length_map] at hevict
  simp only [History.rotated, hsorted]
  exact hevict

/-- The run: the directory holds the files of the last calls. -/
theorem addAll (h : Orderly codec adds) (store : Store) :
    ∃ dir, addAll codec store (some ∅) adds = ok (some dir) ∧
      dir.Lists ((adds.rtake store.limit).map (AddCall.written codec)) := by
  induction adds using List.reverseRecOn with
  | nil =>
      refine ⟨∅, rfl, ?_⟩
      rw [List.rtake_nil]
      exact Table.lists_empty
  | append_singleton adds a ih =>
      rcases ih (h.sublist (List.sublist_append_left _ _)) with ⟨dir, hrun, hdir⟩
      have hmem : a ∈ adds ++ [a] := by
        simp
      have hkept : Orderly codec (adds.rtake store.limit ++ [a]) :=
        h.sublist ((List.drop_sublist _ _).append_right _)
      rcases h.json a hmem with ⟨data, hdata, _⟩
      have hplain : IsPlain a.prepared.id := by
        rw [h.prepared_id hmem]
        exact (h.named a hmem).2
      refine ⟨History.rotated codec store dir a, ?_, ?_⟩
      · rw [addAll_concat, hrun, ok_bind]
        exact add_eq_ok_iff.2 ⟨⟨data, hdata⟩, hplain, rfl⟩
      · rw [← rtake_rtake_concat store.limit_pos]
        exact hkept.rotated hdir

end Orderly

/-- After every call of a sequence in order, the directory holds the files of the last calls up to
the limit, the one just added among them, and `List` returns their entries, newest first. -/
theorem history_keepsNewest {codec : Codec} {adds : List AddCall} (h : Orderly codec adds)
    (limit : Int) {pre : List AddCall} (hpre : pre <+: adds) :
    ∃ dir, addAll codec (newStore limit) (some ∅) pre = ok (some dir) ∧
      dir.Lists ((pre.rtake (newStore limit).limit).map (AddCall.written codec)) ∧
      dir.size = min pre.length (newStore limit).limit ∧
      (∀ a, pre.getLast? = some a → dir.lookup a.fileName = some (a.written codec).2) ∧
      (list codec (newStore limit) (some dir)).Perm
        ((pre.rtake (newStore limit).limit).map AddCall.prepared) ∧
      (list codec (newStore limit) (some dir)).Pairwise fun e e' =>
        e.timestamp.instant.before e'.timestamp.instant = false := by
  have hpreOrderly := h.sublist hpre.sublist
  have hlength : (pre.rtake (newStore limit).limit).length =
      min pre.length (newStore limit).limit := by
    rw [List.rtake, List.length_drop]
    omega
  rcases hpreOrderly.addAll (newStore limit) with ⟨dir, hrun, hdir⟩
  have hkept : Orderly codec (pre.rtake (newStore limit).limit) :=
    hpreOrderly.sublist (List.drop_sublist _ _)
  refine ⟨dir, hrun, hdir, ?_, ?_, ?_, list_pairwise _ _ _⟩
  · rw [hdir.size_eq, List.length_map, hlength]
  · intro a ha
    refine hdir.lookup_eq_some_iff.2 (List.mem_map_of_mem (f := AddCall.written codec) ?_)
    -- the limit is positive, so the last call is among the last ones
    rcases List.getLast?_eq_some_iff.1 ha with ⟨init, rfl⟩
    exact mem_rtake_concat (newStore limit).limit_pos init a
  · rw [← filterMap_readBack fun a ha => hkept.readBack ha]
    refine list_perm hdir ?_
    rw [hlength]
    exact Nat.min_le_right _ _

/-! ## Two reports on the night that summer time ends -/

/-- 02:30 in Central Europe, an hour before the clocks are turned back and after. -/
def halfPastTwo (winter : Bool) : ZonedTime :=
  if winter then
    { instant := Time.unix 1729992600 0
      offset := 3600
      nsec_lt := by decide }
  else
    { instant := Time.unix 1729989000 0
      offset := 7200
      nsec_lt := by decide }

/-- A report without findings, given its ID. -/
def report (s : Bytes × Bool) : Entry :=
  { id := s.1
    timestamp := halfPastTwo s.2
    severity := lit "ok"
    title := lit "Сеть работает нормально"
    summary := [] }

/-- What `json.MarshalIndent` writes for it when no byte of the ID needs escaping. -/
def reportJson (s : Bytes × Bool) : Bytes :=
  lit "\x7b\n  \"id\": \"" ++ s.1 ++ lit "\",\n  \"timestamp\": \"2024-10-27T02:30:00+0" ++
    (if s.2 then lit "1" else lit "2") ++
    lit ":00\",\n  \"severity\": \"ok\",\n  \"title\": \"Сеть работает нормально\",\n" ++
    lit "  \"summary\": \"\"\n\x7d"

def reports : List (Bytes × Bool) :=
  [lit "20241027-023000.000000000", lit "first", lit "second"].flatMap fun id =>
    [(id, false), (id, true)]

/-- `encoding/json` on these reports. -/
def reportCodec : Codec :=
  { marshalIndent := fun e =>
      match reports.find? fun s => decide (report s = e) with
      | some s => ok (reportJson s)
      | none => err "unsupported value"
    unmarshal := fun data =>
      (reports.find? fun s => decide (reportJson s ++ [0x0a] = data)).map report }

theorem halfPastTwo_inj {w w' : Bool} (h : halfPastTwo w = halfPastTwo w') : w = w' := by
  revert w w'
  decide

theorem report_inj {s s' : Bytes × Bool} (h : report s = report s') : s = s' := by
  rcases Entry.mk.inj h with ⟨hid, htime, _⟩
  exact Prod.ext hid (halfPastTwo_inj htime)

theorem reportJson_inj {s s' : Bytes × Bool} (h : reportJson s = reportJson s') : s = s' := by
  rcases s with ⟨id, w⟩
  rcases s' with ⟨id', w'⟩
  simp only [reportJson, List.append_cancel_right_eq] at h
  -- the digit of the zone is the last byte left
  have hdigit : (if w then lit "1" else lit "2").length = (if w' then lit "1" else lit "2").length := by
    cases w <;> cases w' <;> rfl
  rcases List.append_inj' h hdigit with ⟨hid, hzone⟩
  simp only [List.append_cancel_right_eq, List.append_cancel_left_eq] at hid
  have hbit : ∀ w w' : Bool, (if w then lit "1" else lit "2") = (if w' then lit "1" else lit "2") →
      w = w' := by
    decide
  exact Prod.ext hid (hbit w w' hzone)

/-- Searching for the value of an injective function finds its argument. -/
theorem find?_of_inj {α β : Type} [DecidableEq β] {f : α → β} (hf : ∀ a b, f a = f b → a = b)
    {xs : List α} {a : α} (ha : a ∈ xs) : xs.find? (fun x => decide (f x = f a)) = some a := by
  have hfound : (xs.find? fun x => decide (f x = f a)).isSome := by
    rw [List.find?_isSome]
    exact ⟨a, ha, decide_eq_true rfl⟩
  rcases Option.isSome_iff_exists.1 hfound with ⟨b, hb⟩
  have heq : f b = f a := by
    simpa using List.find?_some hb
  rw [hb, hf b a heq]

theorem marshalIndent_report {s : Bytes × Bool} (hs : s ∈ reports) :
    reportCodec.marshalIndent (report s) = ok (reportJson s) := by
  simp only [reportCodec, find?_of_inj (fun _ _ => report_inj) hs]

theorem unmarshal_reportJson {s : Bytes × Bool} (hs : s ∈ reports) :
    reportCodec.unmarshal (reportJson s ++ [0x0a]) = some (report s) := by
  have hinj : ∀ a b, reportJson a ++ [(0x0a : UInt8)] = reportJson b ++ [0x0a] → a = b := by
    intro a b h
    exact reportJson_inj (List.append_cancel_right h)
  simp only [reportCodec, find?_of_inj hinj hs]
  rfl

/-- The call that adds a report under its ID. -/
def reportCall (modTime : Nat) (s : Bytes × Bool) : AddCall :=
  { entry := report s
    now := halfPastTwo true
    modTime := Time.unix 1729992600 modTime }

/-- A report before the change and one after it. -/
def reportCalls : List AddCall :=
  [reportCall 0 (lit "first", false), reportCall 1 (lit "second", true)]

theorem reportCalls_orderly : Orderly reportCodec reportCalls := by
  constructor
  · decide +kernel
  · decide +kernel
  · decide +kernel
  · intro a ha
    simp only [reportCalls, List.mem_cons, List.not_mem_nil, or_false] at ha
    rcases ha with rfl | rfl
    · exact ⟨_, marshalIndent_report (s := (lit "first", false)) (by decide),
        unmarshal_reportJson (by decide)⟩
    · exact ⟨_, marshalIndent_report (s := (lit "second", true)) (by decide),
        unmarshal_reportJson (by decide)⟩

/-- With room for one entry, the second report replaces the first. -/
theorem history_keepsNewest_second :
    ∃ dir, addAll reportCodec (newStore 1) (some ∅) reportCalls = ok (some dir) ∧ dir.size = 1 ∧
      (list reportCodec (newStore 1) (some dir)).Perm [report (lit "second", true)] := by
  rcases history_keepsNewest reportCalls_orderly 1 (List.prefix_refl _) with
    ⟨dir, hrun, _, hsize, _, hlist, _⟩
  exact ⟨dir, hrun, hsize, hlist⟩

end History
end Orchestrator
end FlyDpi
