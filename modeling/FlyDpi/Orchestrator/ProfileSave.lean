import FlyDpi.Lib.Scan
import FlyDpi.Orchestrator.ProfileStore

/-!
# ProfileSave — a save step by step, next to a listing

`Save` and `List` of `store.go` as the file-system operations they make.  `os.WriteFile` empties the
file before it writes, and `List` skips a file that does not decode.
-/

namespace FlyDpi
namespace Orchestrator
namespace ProfileStore

open Lib Lib.Outcome Relation

/-! ## Save -/

/-- What `Save` does next. -/
inductive SavePhase
  | checkName
  | mkdirAll
  | marshal
  | openFile (text : Bytes)
  | write (rest : Bytes)
  /-- The error `Save` has returned, if any. -/
  | returned (error : Option String)

structure Saving where
  dir : Option Dir
  phase : SavePhase
  /-- What the file of the profile holds since it was opened. -/
  written : Option Bytes

namespace Saving

def start (dir : Option Dir) : Saving :=
  { dir := dir
    phase := .checkName
    written := none }

/-- The file of the profile replaced. -/
def put (s : Saving) (name data : Bytes) : Option Dir :=
  some ((s.dir.getD ∅).insert name data)

/-- One operation of `Save`, or its failure; `e` is what the operating system reports. -/
inductive Step (codec : JsonCodec) (p : Profile) (now : Time) : Saving → Saving → Prop
  | nameMissing {s : Saving} (hphase : s.phase = .checkName) (hname : trimSpace p.name = []) :
      Step codec p now s { s with phase := .returned (some "profile name required") }
  | checkName {s : Saving} (hphase : s.phase = .checkName) (hname : trimSpace p.name ≠ []) :
      Step codec p now s { s with phase := .mkdirAll }
  | mkdirAllFails {s : Saving} (e : String) (hphase : s.phase = .mkdirAll) :
      Step codec p now s { s with phase := .returned (some e) }
  | mkdirAll {s : Saving} (hphase : s.phase = .mkdirAll) :
      Step codec p now s
        { s with
          dir := some (s.dir.getD ∅)
          phase := .marshal }
  | marshalFails {s : Saving} {e : String} (hphase : s.phase = .marshal)
      (hdata : codec.marshalIndent (stored p now) = err e) :
      Step codec p now s { s with phase := .returned (some e) }
  | marshal {s : Saving} {data : Bytes} (hphase : s.phase = .marshal)
      (hdata : codec.marshalIndent (stored p now) = ok data) :
      Step codec p now s { s with phase := .openFile (data ++ [0x0a]) }
  | openFails {s : Saving} {text : Bytes} (e : String) (hphase : s.phase = .openFile text) :
      Step codec p now s { s with phase := .returned (some e) }
  -- `O_WRONLY|O_CREATE|O_TRUNC`
  | openFile {s : Saving} {text : Bytes} (hphase : s.phase = .openFile text) :
      Step codec p now s
        { s with
          dir := s.put (fileName p.name) []
          phase := .write text
          written := some [] }
  -- any part of the text may reach the file at once
  | write {s : Saving} {written chunk rest : Bytes} (hphase : s.phase = .write (chunk ++ rest))
      (hwritten : s.written = some written) :
      Step codec p now s
        { s with
          dir := s.put (fileName p.name) (written ++ chunk)
          phase := .write rest
          written := some (written ++ chunk) }
  -- of `Write`, or of `Close` when everything is written
  | writeFails {s : Saving} {rest : Bytes} (e : String) (hphase : s.phase = .write rest) :
      Step codec p now s { s with phase := .returned (some e) }
  | close {s : Saving} (hphase : s.phase = .write []) :
      Step codec p now s { s with phase := .returned none }

end Saving

/-! ## List -/

/-- The names `ReadDir` returns that end in `.json`. -/
def profileNames (dir : Option Dir) : List Bytes :=
  match dir with
  | none => []
  | some dir => ((readDir dir).filter fun e => decide (ext e.1 = lit ".json")).map (·.1)

/-- `ReadFile`. -/
def contents (dir : Option Dir) (name : Bytes) : Option Bytes :=
  dir.bind (·.lookup name)

/-- What one file contributes to the list. -/
def readProfile (codec : JsonCodec) (dir : Option Dir) (name : Bytes) : Option Profile :=
  (contents dir name).bind codec.unmarshal

def sortByName (profiles : List Profile) : List Profile :=
  profiles.mergeSort fun a b => decide (a.name ≤ b.name)

/-- `Save` on one connection and `List`, which reads file by file, on another. -/
def ListStep (codec : JsonCodec) (p : Profile) (now : Time) :
    Saving × Scan Bytes Profile → Saving × Scan Bytes Profile → Prop :=
  Scan.Step (Saving.Step codec p now) (fun s => profileNames s.dir) fun s => readProfile codec s.dir

variable {codec : JsonCodec} {p : Profile} {now : Time} {dir : Option Dir}

theorem mem_readDir {t : Dir} {e : Bytes × Bytes} :
    e ∈ readDir t ↔ t.lookup e.1 = some e.2 := by
  simp only [readDir, List.mem_mergeSort, List.mem_map, Table.lookup_eq_some_iff]
  constructor
  · rintro ⟨e', he', rfl⟩
    exact he'
  · intro he
    exact ⟨_, he, rfl⟩

theorem mem_profileNames {name : Bytes} :
    name ∈ profileNames dir ↔
      (contents dir name).isSome ∧ ext name = lit ".json" := by
  cases dir with
  | none =>
      simp [profileNames, contents]
  | some t =>
      simp [profileNames, contents, mem_readDir, Option.isSome_iff_exists, and_comm]

theorem profileNames_ordered (dir : Option Dir) : (profileNames dir).Pairwise (· ≤ ·) := by
  cases dir with
  | none =>
      exact List.Pairwise.nil
  | some t =>
      have hsorted : (readDir t).Pairwise fun a b => decide (a.1 ≤ b.1) = true := by
        apply List.pairwise_mergeSort
        · intro a b c hab hbc
          simp only [decide_eq_true_eq] at *
          exact List.le_trans hab hbc
        · intro a b
          simpa using List.le_total a.1 b.1
      refine List.pairwise_map.2 ((hsorted.filter _).imp ?_)
      intro a b hab
      exact of_decide_eq_true hab

theorem profileNames_nodup (dir : Option Dir) : (profileNames dir).Nodup := by
  cases dir with
  | none =>
      exact List.nodup_nil
  | some t =>
      have hkeys : ((t.entries.map fun e => (e.1, e.2)).map (·.1)).Nodup := by
        rw [List.map_map]
        exact t.keys_nodup
      have hperm : ((readDir t).map (·.1)).Perm ((t.entries.map fun e => (e.1, e.2)).map (·.1)) :=
        (List.mergeSort_perm _ _).map _
      exact (hperm.nodup_iff.2 hkeys).sublist (List.filter_sublist.map _)

/-- `List` is a scan made at one moment, sorted. -/
theorem list_eq_whole (codec : JsonCodec) (dir : Option Dir) :
    list codec dir = sortByName (Scan.whole profileNames (readProfile codec) dir) := by
  cases dir with
  | none =>
      simp [list, sortByName, Scan.whole, profileNames]
  | some t =>
      simp only [list, sortByName, Scan.whole, profileNames, List.filterMap_map]
      congr 1
      apply List.filterMap_congr
      intro e he
      have hlookup := mem_readDir.1 (List.mem_of_mem_filter he)
      simp [readProfile, contents, hlookup]

/-- The list depends on what the files decode to, and on nothing else. -/
theorem list_congr {dir dir' : Option Dir}
    (h : ∀ name, readProfile codec dir name = readProfile codec dir' name) :
    list codec dir = list codec dir' := by
  have hnamed : ∀ {d : Option Dir} {name : Bytes} {q : Profile},
      (name ∈ profileNames d ∧ readProfile codec d name = some q) ↔
        (ext name = lit ".json" ∧ readProfile codec d name = some q) := by
    intro d name q
    rw [mem_profileNames]
    constructor
    · rintro ⟨⟨_, hext⟩, hread⟩
      exact ⟨hext, hread⟩
    · rintro ⟨hext, hread⟩
      rcases Option.bind_eq_some_iff.1 hread with ⟨data, hdata, _⟩
      exact ⟨⟨by rw [hdata]; rfl, hext⟩, hread⟩
  rw [list_eq_whole, list_eq_whole]
  congr 1
  refine Scan.whole_congr (fun _ _ => List.le_antisymm) profileNames_ordered profileNames_nodup ?_
  intro name q
  rw [hnamed, hnamed, h]

/-! ## The file of the profile -/

@[simp] theorem contents_getD (dir : Option Dir) (name : Bytes) :
    contents (some (dir.getD ∅)) name = contents dir name := by
  cases dir <;> simp [contents]

theorem contents_insert_self (t : Dir) (name data : Bytes) :
    contents (some (t.insert name data)) name = some data := by
  simp [contents]

theorem contents_insert_ne {t : Dir} {name name' data : Bytes} (h : name' ≠ name) :
    contents (some (t.insert name data)) name' = contents (some t) name' := by
  simp [contents, AList.lookup_insert_ne h]

theorem contents_erase_ne {t : Dir} {name name' : Bytes} (h : name' ≠ name) :
    contents (some (t.erase name)) name' = contents (some t) name' := by
  simp [contents, AList.lookup_erase_ne h]

/-- The directory without the file of the profile. -/
def withoutFile (dir : Option Dir) (p : Profile) : Option Dir :=
  some ((dir.getD ∅).erase (fileName p.name))

/-- A file that does not decode might as well not be there. -/
theorem list_insert_of_unmarshal_none {t : Dir} {name data : Bytes}
    (h : codec.unmarshal data = none) :
    list codec (some (t.insert name data)) = list codec (some (t.erase name)) := by
  apply list_congr
  intro name'
  by_cases hname : name' = name
  · subst hname
    simp [readProfile, contents, h]
  · rw [readProfile, readProfile, contents_insert_ne hname, contents_erase_ne hname]

theorem list_insert_congr {t : Dir} {name data data' : Bytes}
    (h : codec.unmarshal data = codec.unmarshal data') :
    list codec (some (t.insert name data)) = list codec (some (t.insert name data')) := by
  apply list_congr
  intro name'
  by_cases hname : name' = name
  · subst hname
    simp [readProfile, contents, h]
  · rw [readProfile, readProfile, contents_insert_ne hname, contents_insert_ne hname]

theorem list_getD (codec : JsonCodec) (dir : Option Dir) :
    list codec (some (dir.getD ∅)) = list codec dir := by
  apply list_congr
  intro name
  rw [readProfile, contents_getD, readProfile]

/-! ## What a step does to the directory -/

namespace Saving

/-- A step leaves the directory, creates it, or replaces the file of the profile. -/
theorem Step.dir_cases {s s' : Saving} (h : Step codec p now s s') :
    s'.dir = s.dir ∨ s'.dir = some (s.dir.getD ∅) ∨
      ∃ data, s'.dir = s.put (fileName p.name) data := by
  cases h with
  | mkdirAll =>
      exact .inr (.inl rfl)
  | openFile =>
      exact .inr (.inr ⟨_, rfl⟩)
  | write =>
      exact .inr (.inr ⟨_, rfl⟩)
  | _ =>
      exact .inl rfl

theorem Step.contents_ne {s s' : Saving} (h : Step codec p now s s') {name : Bytes}
    (hname : name ≠ fileName p.name) : contents s'.dir name = contents s.dir name := by
  rcases h.dir_cases with hdir | hdir | ⟨data, hdir⟩
  · rw [hdir]
  · rw [hdir, contents_getD]
  · rw [hdir, put, contents_insert_ne hname, contents_getD]

/-- No step removes a file. -/
theorem Step.contents_isSome {s s' : Saving} (h : Step codec p now s s')
    (hfile : (contents s.dir (fileName p.name)).isSome) :
    (contents s'.dir (fileName p.name)).isSome := by
  rcases h.dir_cases with hdir | hdir | ⟨data, hdir⟩
  · rwa [hdir]
  · rwa [hdir, contents_getD]
  · rw [hdir, put, contents_insert_self]
    rfl

/-- Once the file is there, the names of the directory stay. -/
theorem Step.profileNames_eq {s s' : Saving} (h : Step codec p now s s')
    (hfile : fileName p.name ∈ profileNames s.dir) : profileNames s'.dir = profileNames s.dir := by
  refine Scan.eq_of_ordered (fun _ _ => List.le_antisymm) (profileNames_ordered _)
    (profileNames_ordered _) (profileNames_nodup _) (profileNames_nodup _) ?_
  intro name
  rw [mem_profileNames, mem_profileNames]
  by_cases hname : name = fileName p.name
  · subst hname
    have hbefore := (mem_profileNames.1 hfile).1
    have hafter := h.contents_isSome hbefore
    simp [hbefore, hafter]
  · rw [h.contents_ne hname]

end Saving

/-! ## The states of a save -/

/-- `text` is what `Save` writes to the file. -/
def Writes (codec : JsonCodec) (p : Profile) (now : Time) (text : Bytes) : Prop :=
  trimSpace p.name ≠ [] ∧
    ∃ data, codec.marshalIndent (stored p now) = ok data ∧ text = data ++ [0x0a]

theorem Writes.save_eq {text : Bytes} (h : Writes codec p now text) (dir : Option Dir) :
    save codec dir p now = ok (some ((dir.getD ∅).insert (fileName p.name) text)) := by
  rcases h with ⟨hname, data, hdata, rfl⟩
  simp [save, reject, hname, hdata]

namespace Saving

/-- The file has been opened: it holds a prefix of the text. -/
def Opened (codec : JsonCodec) (p : Profile) (now : Time) (dir : Option Dir) (s : Saving)
    (written rest : Bytes) : Prop :=
  Writes codec p now (written ++ rest) ∧ s.written = some written ∧
    s.dir = some ((dir.getD ∅).insert (fileName p.name) written)

/-- What holds in every state of a `Save` on the directory `dir`. -/
def Inv (codec : JsonCodec) (p : Profile) (now : Time) (dir : Option Dir) (s : Saving) : Prop :=
  match s.phase with
  | .checkName => s.written = none ∧ s.dir = dir
  | .mkdirAll => trimSpace p.name ≠ [] ∧ s.written = none ∧ s.dir = dir
  | .marshal => trimSpace p.name ≠ [] ∧ s.written = none ∧ s.dir = some (dir.getD ∅)
  | .openFile text => Writes codec p now text ∧ s.written = none ∧ s.dir = some (dir.getD ∅)
  | .write rest => ∃ written, s.Opened codec p now dir written rest
  | .returned none => ∃ written, s.Opened codec p now dir written []
  | .returned (some _) =>
      s.written = none ∧ (s.dir = dir ∨ s.dir = some (dir.getD ∅)) ∨
        ∃ written rest, s.Opened codec p now dir written rest

theorem inv_step {s s' : Saving} (h : s.Inv codec p now dir) (hstep : Step codec p now s s') :
    s'.Inv codec p now dir := by
  cases hstep with
  | nameMissing hphase hname =>
      simp only [Inv, hphase] at h
      exact .inl ⟨h.1, .inl h.2⟩
  | checkName hphase hname =>
      simp only [Inv, hphase] at h
      exact ⟨hname, h⟩
  | mkdirAllFails e hphase =>
      simp only [Inv, hphase] at h
      exact .inl ⟨h.2.1, .inl h.2.2⟩
  | mkdirAll hphase =>
      simp only [Inv, hphase] at h
      refine ⟨h.1, h.2.1, ?_⟩
      simp [h.2.2]
  | marshalFails hphase hdata =>
      simp only [Inv, hphase] at h
      exact .inl ⟨h.2.1, .inr h.2.2⟩
  | marshal hphase hdata =>
      simp only [Inv, hphase] at h
      exact ⟨⟨h.1, _, hdata, rfl⟩, h.2⟩
  | openFails e hphase =>
      simp only [Inv, hphase] at h
      exact .inl ⟨h.2.1, .inr h.2.2⟩
  | openFile hphase =>
      simp only [Inv, hphase] at h
      refine ⟨[], h.1, rfl, ?_⟩
      simp [put, h.2.2]
  | @write written chunk rest hphase hwritten =>
      simp only [Inv, hphase] at h
      rcases h with ⟨written', htext, hwritten', hdir⟩
      have hsame : written' = written := Option.some.inj (hwritten'.symm.trans hwritten)
      subst hsame
      refine ⟨written' ++ chunk, ?_, rfl, ?_⟩
      · rwa [List.append_assoc]
      · -- the file is replaced a second time
        simp [put, hdir]
  | writeFails e hphase =>
      simp only [Inv, hphase] at h
      rcases h with ⟨written, hopened⟩
      exact .inr ⟨written, _, hopened⟩
  | close hphase =>
      simp only [Inv, hphase] at h
      exact h

theorem inv_of_run {s : Saving} (h : ReflTransGen (Step codec p now) (start dir) s) :
    s.Inv codec p now dir :=
  Runs.invariant (I := fun s => s.Inv codec p now dir) (fun _ _ => inv_step) ⟨rfl, rfl⟩ h

end Saving

namespace Saving

/-- The state in which the file has been opened and nothing is written yet. -/
def emptied (dir : Option Dir) (p : Profile) (text : Bytes) : Saving :=
  { dir := some ((dir.getD ∅).insert (fileName p.name) [])
    phase := .write text
    written := some [] }

theorem run_emptied {text : Bytes} (h : Writes codec p now text) (dir : Option Dir) :
    ReflTransGen (Step codec p now) (start dir) (emptied dir p text) := by
  rcases h with ⟨hname, data, hdata, rfl⟩
  have hopen : ReflTransGen (Step codec p now) (start dir)
      { dir := some (dir.getD ∅), phase := .openFile (data ++ [0x0a]), written := none } :=
    (((ReflTransGen.refl.tail (.checkName rfl hname)).tail (.mkdirAll rfl)).tail
      (.marshal rfl hdata))
  exact hopen.tail (.openFile rfl)

theorem write_whole (text : Bytes) :
    Step codec p now (emptied dir p text)
      { dir := some ((dir.getD ∅).insert (fileName p.name) text)
        phase := .write []
        written := some text } := by
  have hphase : (emptied dir p text).phase = .write (text ++ []) := by
    simp [emptied]
  have hstep : Step codec p now (emptied dir p text) _ := .write hphase rfl
  simpa [put, emptied] using hstep

/-- `save` is a `Save` in which no operation fails. -/
theorem save_iff_run {dir' : Option Dir} :
    save codec dir p now = ok dir' ↔
      ∃ s, ReflTransGen (Step codec p now) (start dir) s ∧ s.phase = .returned none ∧
        s.dir = dir' := by
  constructor
  · intro h
    rcases save_eq_ok h with ⟨data, hdata, rfl⟩
    have hname : trimSpace p.name ≠ [] := by
      intro hname
      simp [save, reject, hname] at h
    have hrun := run_emptied ⟨hname, data, hdata, rfl⟩ dir
    exact ⟨_, (hrun.tail (write_whole _)).tail (.close rfl), rfl, rfl⟩
  · rintro ⟨s, hrun, hphase, rfl⟩
    have hinv := inv_of_run hrun
    simp only [Inv, hphase] at hinv
    rcases hinv with ⟨w, htext, _, hdir⟩
    rw [List.append_nil] at htext
    rw [hdir, htext.save_eq dir]

end Saving

/-! ## What a list shows -/

/-- What is relied on of `encoding/json`: a newline after a value is white space, and the text of an
object is cut short by every proper prefix of it. -/
structure Texts (codec : JsonCodec) : Prop where
  newline : ∀ {q : Profile} {data : Bytes}, codec.marshalIndent q = ok data →
    codec.unmarshal (data ++ [0x0a]) = codec.unmarshal data
  torn : ∀ {q : Profile} {data w : Bytes}, codec.marshalIndent q = ok data → w <+: data →
    w ≠ data → codec.unmarshal w = none

/-- The directory and the list in a state `s` of a `Save` on the directory `dir`. -/
structure Shows (codec : JsonCodec) (p : Profile) (now : Time) (dir : Option Dir) (s : Saving) :
    Prop where
  others : ∀ name, name ≠ fileName p.name → contents s.dir name = contents dir name
  unopened : s.written = none → list codec s.dir = list codec dir
  opened : ∀ w, s.written = some w →
    ∃ data dir', codec.marshalIndent (stored p now) = ok data ∧ w <+: data ++ [0x0a] ∧
      save codec dir p now = ok dir' ∧
      list codec s.dir = if data <+: w then list codec dir' else list codec (withoutFile dir p)
  saved : s.phase = .returned none → save codec dir p now = ok s.dir

namespace Saving

theorem contents_of_run {s : Saving} (h : ReflTransGen (Step codec p now) (start dir) s)
    {name : Bytes} (hname : name ≠ fileName p.name) : contents s.dir name = contents dir name :=
  Runs.invariant (I := fun s => contents s.dir name = contents dir name)
    (fun _ _ hs hstep => (hstep.contents_ne hname).trans hs) rfl h

/-- The file has not been opened, and the directory is as it was or has just been created; or the
file holds a prefix of the text. -/
theorem Inv.unopened_or_opened {s : Saving} (h : s.Inv codec p now dir) :
    s.written = none ∧ (s.dir = dir ∨ s.dir = some (dir.getD ∅)) ∨
      ∃ w rest, s.Opened codec p now dir w rest := by
  unfold Inv at h
  cases hphase : s.phase with
  | checkName =>
      rw [hphase] at h
      exact .inl ⟨h.1, .inl h.2⟩
  | mkdirAll =>
      rw [hphase] at h
      exact .inl ⟨h.2.1, .inl h.2.2⟩
  | marshal =>
      rw [hphase] at h
      exact .inl ⟨h.2.1, .inr h.2.2⟩
  | openFile text =>
      rw [hphase] at h
      exact .inl ⟨h.2.1, .inr h.2.2⟩
  | write rest =>
      rw [hphase] at h
      rcases h with ⟨w, hopened⟩
      exact .inr ⟨w, rest, hopened⟩
  | returned error =>
      rw [hphase] at h
      cases error with
      | none =>
          rcases h with ⟨w, hopened⟩
          exact .inr ⟨w, [], hopened⟩
      | some e =>
          exact h

/-- The list with a prefix of the text in the file. -/
theorem list_opened (hcodec : Texts codec) {data w rest : Bytes} {t : Dir} {name : Bytes}
    (hdata : codec.marshalIndent (stored p now) = ok data) (hw : w ++ rest = data ++ [0x0a]) :
    list codec (some (t.insert name w)) =
      if data <+: w then list codec (some (t.insert name (data ++ [0x0a])))
      else list codec (some (t.erase name)) := by
  have hprefix : w = data ++ [0x0a] ∨ w <+: data := List.prefix_concat_iff.1 ⟨rest, hw⟩
  by_cases hwhole : data <+: w
  · rw [if_pos hwhole]
    apply list_insert_congr
    rcases hprefix with rfl | hshort
    · rfl
    · -- the text is there, without the newline
      rw [hshort.eq_of_length_le hwhole.length_le, hcodec.newline hdata]
  · rw [if_neg hwhole]
    apply list_insert_of_unmarshal_none
    rcases hprefix with rfl | hshort
    · exact absurd (List.prefix_append _ _) hwhole
    · refine hcodec.torn hdata hshort ?_
      rintro rfl
      exact hwhole (List.prefix_refl _)

theorem shows_of_run (hcodec : Texts codec) {s : Saving}
    (h : ReflTransGen (Step codec p now) (start dir) s) : Shows codec p now dir s := by
  refine
    { others := fun name hname => contents_of_run h hname
      unopened := ?_
      opened := ?_
      saved := ?_ }
  · intro hnone
    rcases (inv_of_run h).unopened_or_opened with ⟨_, hdir | hdir⟩ | ⟨w, rest, _, hwritten, _⟩
    · rw [hdir]
    · rw [hdir, list_getD]
    · rw [hnone] at hwritten
      cases hwritten
  · intro w hwritten
    rcases (inv_of_run h).unopened_or_opened with ⟨hnone, _⟩ | ⟨w', rest, htext, hwritten', hdir⟩
    · rw [hnone] at hwritten
      cases hwritten
    · rw [hwritten', Option.some.injEq] at hwritten
      subst hwritten
      rcases htext with ⟨hname, data, hdata, hw⟩
      refine ⟨data, _, hdata, ⟨rest, hw⟩, Writes.save_eq ⟨hname, data, hdata, rfl⟩ dir, ?_⟩
      rw [hdir]
      exact list_opened hcodec hdata hw
  · intro hphase
    exact save_iff_run.2 ⟨s, h, hphase, rfl⟩

end Saving

/-- In every state of a `Save`, and after every failure of it, the files of other profiles are as
they were.  `List` returns what it returned before until the file is opened, what it returns after
the `Save` once the whole text is in the file, and in between what it returns without the file.  A
`List` that reads file by file meanwhile returns what one of these states shows. -/
theorem list_during_save (hcodec : Texts codec) {w : Saving × Scan Bytes Profile}
    (h : ReflTransGen (ListStep codec p now) (Saving.start dir, .idle) w) :
    Shows codec p now dir w.1 ∧
      ∀ out, w.2 = .returned out →
        ∃ s, ReflTransGen (Saving.Step codec p now) (Saving.start dir) s ∧
          ReflTransGen (Saving.Step codec p now) s w.1 ∧ Shows codec p now dir s ∧
          sortByName out = list codec s.dir := by
  refine ⟨Saving.shows_of_run hcodec (Scan.system_run h), ?_⟩
  intro out hout
  rcases w with ⟨s', c⟩
  subst hout
  have hothers : ∀ s s', Saving.Step codec p now s s' → ∀ name, name ≠ fileName p.name →
      readProfile codec s'.dir name = readProfile codec s.dir name := by
    intro s s' hstep name hname
    rw [readProfile, hstep.contents_ne hname, readProfile]
  have hnames : ∀ s s', Saving.Step codec p now s s' → fileName p.name ∈ profileNames s.dir →
      profileNames s'.dir = profileNames s.dir := by
    intro s s' hstep
    exact hstep.profileNames_eq
  rcases Scan.atomic (fun s : Saving => profileNames_nodup s.dir) hothers hnames h with
    ⟨s, hs, hs', rfl⟩
  exact ⟨s, hs, hs', Saving.shows_of_run hcodec hs, (list_eq_whole codec s.dir).symm⟩

/-! ## A save that fails half-way -/

def home : Profile :=
  plain (lit "home")

/-- `encoding/json` on the profile `home`. -/
def homeCodec : JsonCodec :=
  { marshalIndent := fun p => if p = home then ok (plainJson home.name) else err "unsupported value"
    unmarshal := fun data =>
      if data = plainJson home.name ∨ data = plainJson home.name ++ [0x0a] then some home else none }

/-- The directory with the file of `home`. -/
def homeDir : Option Dir :=
  some ((∅ : Dir).insert (fileName home.name) (plainJson home.name ++ [0x0a]))

theorem texts_homeCodec : Texts homeCodec := by
  have hmarshal : ∀ {q : Profile} {data : Bytes}, homeCodec.marshalIndent q = ok data →
      data = plainJson home.name := by
    intro q data hdata
    by_cases hq : q = home
    · simpa [homeCodec, hq, eq_comm] using hdata
    · simp [homeCodec, hq] at hdata
  constructor
  · intro q data hdata
    rw [hmarshal hdata]
    simp [homeCodec]
  · intro q data w hdata hprefix hne
    rw [hmarshal hdata] at hprefix hne
    have hshort : w ≠ plainJson home.name ++ [0x0a] := by
      rintro rfl
      simpa using hprefix.length_le
    simp [homeCodec, hne, hshort]

theorem stored_home : stored home Time.zero = home := by
  decide

theorem writes_home : Writes homeCodec home Time.zero (plainJson home.name ++ [0x0a]) := by
  refine ⟨by decide, plainJson home.name, ?_, rfl⟩
  rw [stored_home]
  simp [homeCodec]

/-- `home` is saved again: its file has been emptied. -/
def homeEmptied : Saving :=
  Saving.emptied homeDir home (plainJson home.name ++ [0x0a])

def homeFailed : Saving :=
  { homeEmptied with phase := .returned (some "write: no space left on device") }

theorem run_homeEmptied :
    ReflTransGen (Saving.Step homeCodec home Time.zero) (Saving.start homeDir) homeEmptied :=
  Saving.run_emptied writes_home homeDir

theorem run_homeFailed :
    ReflTransGen (Saving.Step homeCodec home Time.zero) (Saving.start homeDir) homeFailed :=
  run_homeEmptied.tail (.writeFails _ rfl)

theorem home_mem_list : home ∈ list homeCodec homeDir := by
  refine mem_list_iff.2 ⟨fileName home.name, plainJson home.name ++ [0x0a], ?_, ext_fileName _, ?_⟩
  · exact AList.lookup_insert _
  · simp [homeCodec]

/-- The emptied file is the only one. -/
theorem contents_homeEmptied (name : Bytes) :
    contents homeEmptied.dir name = if name = fileName home.name then some [] else none := by
  split
  next hname =>
    rw [hname]
    exact contents_insert_self _ _ _
  next hname =>
    calc
      contents homeEmptied.dir name = contents homeDir name := by
            rw [← contents_getD homeDir]
            exact contents_insert_ne hname
      _ = contents (some ∅) name := contents_insert_ne hname
      _ = none := rfl

theorem readProfile_homeEmptied (name : Bytes) :
    readProfile homeCodec homeEmptied.dir name = none := by
  rw [readProfile, contents_homeEmptied]
  split
  · have hname : home.name ≠ [] := by
      decide
    simp [homeCodec, plainJson, hname]
  · rfl

theorem home_not_mem_list : home ∉ list homeCodec homeEmptied.dir := by
  intro hmem
  rcases mem_list_iff.1 hmem with ⟨name, data, hdata, _, hread⟩
  have hsome : readProfile homeCodec homeEmptied.dir name = some home :=
    Option.bind_eq_some_iff.2 ⟨data, hdata, hread⟩
  rw [readProfile_homeEmptied] at hsome
  cases hsome

theorem profileNames_homeEmptied : profileNames homeEmptied.dir = [fileName home.name] := by
  refine Scan.eq_of_ordered (fun _ _ => List.le_antisymm) (profileNames_ordered _)
    (List.pairwise_singleton _ _) (profileNames_nodup _) (List.nodup_singleton _) ?_
  intro name
  rw [mem_profileNames, contents_homeEmptied, List.mem_singleton]
  by_cases hname : name = fileName home.name
  · simp [hname, ext_fileName]
  · simp [hname]

theorem run_list_homeFailed :
    ReflTransGen (ListStep homeCodec home Time.zero) (Saving.start homeDir, .idle)
      (homeFailed, .returned []) := by
  have hsave : ReflTransGen (ListStep homeCodec home Time.zero) (Saving.start homeDir, .idle)
      (homeFailed, .idle) :=
    run_homeFailed.lift (fun s => (s, Scan.idle)) fun _ _ h => .system h
  have hstart : ListStep homeCodec home Time.zero (homeFailed, .idle)
      (homeFailed, .reading [fileName home.name] []) := by
    rw [← profileNames_homeEmptied]
    exact .start
  have hnext : ListStep homeCodec home Time.zero (homeFailed, .reading [fileName home.name] [])
      (homeFailed, .reading [] []) := by
    have hstep : ListStep homeCodec home Time.zero (homeFailed, .reading [fileName home.name] []) _ :=
      .next
    have hread : readProfile homeCodec homeFailed.dir (fileName home.name) = none :=
      readProfile_homeEmptied _
    simpa [hread] using hstep
  exact ((hsave.tail hstart).tail hnext).tail .finish

theorem list_during_save_home :
    Texts homeCodec ∧
      ReflTransGen (ListStep homeCodec home Time.zero) (Saving.start homeDir, .idle)
        (homeFailed, .returned []) ∧
      Shows homeCodec home Time.zero homeDir homeFailed ∧
      ∃ s, ReflTransGen (Saving.Step homeCodec home Time.zero) (Saving.start homeDir) s ∧
        ReflTransGen (Saving.Step homeCodec home Time.zero) s homeFailed ∧
        Shows homeCodec home Time.zero homeDir s ∧ sortByName [] = list homeCodec s.dir := by
  have hboth := list_during_save texts_homeCodec run_list_homeFailed
  exact ⟨texts_homeCodec, run_list_homeFailed, hboth.1, hboth.2 [] rfl⟩

/-- After the failed save, and already while the file is empty, the profile that was stored is not
listed, and neither is the one that was to be. -/
theorem stored_profile_lost :
    (¬ ∀ (codec : JsonCodec) (p : Profile) (now : Time) (dir : Option Dir) (s : Saving),
      Texts codec → ReflTransGen (Saving.Step codec p now) (Saving.start dir) s →
      (∃ e, s.phase = .returned (some e)) → list codec s.dir = list codec dir) ∧
    ¬ ∀ (codec : JsonCodec) (p : Profile) (now : Time) (dir : Option Dir) (s : Saving),
      Texts codec → ReflTransGen (Saving.Step codec p now) (Saving.start dir) s →
      ∀ q, readProfile codec dir (fileName p.name) = some q →
        q ∈ list codec s.dir ∨ stored p now ∈ list codec s.dir := by
  constructor
  · intro h
    have hsame := h homeCodec home Time.zero homeDir homeFailed texts_homeCodec run_homeFailed
      ⟨_, rfl⟩
    have hmem := home_mem_list
    rw [← hsame] at hmem
    exact home_not_mem_list hmem
  · intro h
    have hread : readProfile homeCodec homeDir (fileName home.name) = some home := by
      rw [readProfile, homeDir, contents_insert_self]
      simp [homeCodec]
    have hlisted := h homeCodec home Time.zero homeDir homeEmptied texts_homeCodec run_homeEmptied
      home hread
    rw [stored_home] at hlisted
    rcases hlisted with hmem | hmem <;> exact home_not_mem_list hmem

end ProfileStore
end Orchestrator
end FlyDpi
