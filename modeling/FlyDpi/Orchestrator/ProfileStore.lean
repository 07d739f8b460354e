import FlyDpi.Lib.LastWrite
import FlyDpi.Lib.Outcome
import FlyDpi.Orchestrator.GoStd

/-!
# ProfileStore — profiles as files

The model of `store.go`.  A directory maps file names to contents; `encoding/json` is a parameter.
-/

namespace FlyDpi
namespace Orchestrator

open Lib Lib.Outcome

structure Profile where
  schemaVersion : Int
  name : Bytes
  preferredAction : Bytes
  mode : Bytes
  timeoutMs : Int
  targets : Option (List Bytes)
  lastSeverity : Bytes
  updatedAt : Time
  deriving DecidableEq

/-- `json.MarshalIndent(p, "", "  ")` and `json.Unmarshal`. -/
structure JsonCodec where
  marshalIndent : Profile → Outcome String Bytes
  unmarshal : Bytes → Option Profile

/-- A directory of regular files. -/
abbrev Dir := Table Bytes Bytes

/-- The runes `sanitize` writes unchanged. -/
def isSafe (r : Nat) : Bool :=
  decide ((0x61 ≤ r ∧ r ≤ 0x7a) ∨ (0x41 ≤ r ∧ r ≤ 0x5a) ∨ (0x30 ≤ r ∧ r ≤ 0x39) ∨ r = 0x2d ∨
    r = 0x5f)

def sanitize (name : Bytes) : Bytes :=
  let b := (runes (trimSpace name)).map fun r =>
    -- every other rune, however long its encoding, becomes one underscore
    if isSafe r.value then UInt8.ofNat r.value else 0x5f
  if b = [] then lit "profile" else b

def fileName (name : Bytes) : Bytes :=
  sanitize name ++ lit ".json"

/-- The profile `Save` writes: schema version and time are filled in. -/
def stored (p : Profile) (now : Time) : Profile :=
  let p := if p.schemaVersion = 0 then { p with schemaVersion := 1 } else p
  if p.updatedAt.isZero then { p with updatedAt := now } else p

namespace ProfileStore

variable (codec : JsonCodec)

/-- `Save` on a directory that may not exist yet; `now` is what `time.Now().UTC()` returns. -/
def save (dir : Option Dir) (p : Profile) (now : Time) : Outcome String (Option Dir) := do
  reject (trimSpace p.name = []) "profile name required"
  -- `MkdirAll`
  let dir := dir.getD ∅
  let data ← codec.marshalIndent (stored p now)
  -- a file of that name is replaced
  return some (dir.insert (fileName p.name) (data ++ [0x0a]))

/-- `os.ReadDir`: the entries of a directory in the order of their names. -/
def readDir (dir : Dir) : List (Bytes × Bytes) :=
  (dir.entries.map fun e => (e.1, e.2)).mergeSort fun a b => decide (a.1 ≤ b.1)

/-- The profiles of the files named `*.json` that hold one, sorted by name. -/
def list (dir : Option Dir) : List Profile :=
  match dir with
  -- a directory that does not exist has no profiles
  | none => []
  | some dir =>
      -- a file that does not decode is skipped without an error
      let entries := (readDir dir).filter fun e => decide (ext e.1 = lit ".json")
      (entries.filterMap fun e => codec.unmarshal e.2).mergeSort fun a b => decide (a.name ≤ b.name)

/-- A history of saves, each with the time it was made. -/
def saveAll (dir : Option Dir) (saves : List (Profile × Time)) : Outcome String (Option Dir) :=
  saves.foldlM (fun dir s => save codec dir s.1 s.2) dir

/-! ## What a history of saves leaves behind -/

/-- `encoding/json` reads back what it wrote for `p`, with the newline that `Save` appends. -/
def RoundTrips (p : Profile) : Prop :=
  ∀ data, codec.marshalIndent p = ok data → codec.unmarshal (data ++ [0x0a]) = some p

variable {codec}

theorem save_eq_ok {dir dir' : Option Dir} {p : Profile} {now : Time}
    (h : save codec dir p now = ok dir') :
    ∃ data, codec.marshalIndent (stored p now) = ok data ∧
      dir' = some ((dir.getD ∅).insert (fileName p.name) (data ++ [0x0a])) := by
  simp only [save, bind_eq_ok_iff] at h
  rcases h with ⟨_, _, data, hdata, h⟩
  cases h
  exact ⟨data, hdata, rfl⟩

/-- A profile is listed when some file of the directory holds it. -/
theorem mem_list_iff {dir : Dir} {p : Profile} :
    p ∈ list codec (some dir) ↔
      ∃ name data, dir.lookup name = some data ∧ ext name = lit ".json" ∧
        codec.unmarshal data = some p := by
  simp only [list, readDir, List.mem_mergeSort, List.mem_filterMap, List.mem_filter, List.mem_map,
    Table.lookup_eq_some_iff, decide_eq_true_eq]
  constructor
  · rintro ⟨_, ⟨⟨e, he, rfl⟩, hext⟩, hread⟩
    exact ⟨e.1, e.2, he, hext, hread⟩
  · rintro ⟨name, data, he, hext, hread⟩
    exact ⟨(name, data), ⟨⟨⟨name, data⟩, he, rfl⟩, hext⟩, hread⟩

theorem ext_fileName (name : Bytes) : ext (fileName name) = lit ".json" :=
  ext_append_json _

theorem name_stored (p : Profile) (now : Time) : (stored p now).name = p.name := by
  unfold stored
  dsimp only
  split <;> split <;> rfl

/-- The name a profile is saved under. -/
def savedName (s : Profile × Time) : Bytes :=
  trimSpace s.1.name

/-- The file a save writes. -/
def savedFile (s : Profile × Time) : Bytes :=
  fileName s.1.name

/-- What a save writes. -/
def content (codec : JsonCodec) (s : Profile × Time) : Bytes :=
  match codec.marshalIndent (stored s.1 s.2) with
  | ok data => data ++ [0x0a]
  | _ => []

theorem savedFile_of_savedName {a b : Profile × Time} (h : savedName a = savedName b) :
    savedFile a = savedFile b := by
  simp only [savedFile, fileName, sanitize]
  rw [show trimSpace a.1.name = trimSpace b.1.name from h]

/-- A history of successful saves leaves the last content of every file it wrote. -/
theorem saveAll_eq_ok {saves : List (Profile × Time)} {dir : Dir} {dir' : Option Dir}
    (h : saveAll codec (some dir) saves = ok dir') :
    (∀ s ∈ saves, ∃ data, codec.marshalIndent (stored s.1 s.2) = ok data) ∧
      dir' = some (saves.foldl (fun t s => t.insert (savedFile s) (content codec s)) dir) := by
  induction saves generalizing dir with
  | nil =>
      cases h
      simp
  | cons s saves ih =>
      simp only [saveAll, List.foldlM_cons, bind_eq_ok_iff] at h
      rcases h with ⟨mid, hs, h⟩
      rcases save_eq_ok hs with ⟨data, hdata, rfl⟩
      have hcontent : content codec s = data ++ [0x0a] := by
        simp [content, hdata]
      rcases ih h with ⟨hrest, rfl⟩
      refine ⟨?_, ?_⟩
      · intro s' hs'
        rcases List.mem_cons.1 hs' with rfl | hs'
        · exact ⟨data, hdata⟩
        · exact hrest s' hs'
      · rw [List.foldl_cons, hcontent]
        rfl

section Runs

variable {saves : List (Profile × Time)} {dir : Option Dir}

theorem unmarshal_content (hrun : saveAll codec (some ∅) saves = ok dir)
    (hjson : ∀ s ∈ saves, RoundTrips codec (stored s.1 s.2)) {s : Profile × Time}
    (hs : s ∈ saves) : codec.unmarshal (content codec s) = some (stored s.1 s.2) := by
  rcases (saveAll_eq_ok hrun).1 s hs with ⟨data, hdata⟩
  rw [content, hdata]
  exact hjson s hs data hdata

theorem savedName_of_stored {a b : Profile × Time} (h : stored a.1 a.2 = stored b.1 b.2) :
    savedName a = savedName b := by
  have hname : a.1.name = b.1.name := by
    calc
      a.1.name = (stored a.1 a.2).name := (name_stored a.1 a.2).symm
      _ = (stored b.1 b.2).name := by
            rw [h]
      _ = b.1.name := name_stored b.1 b.2
  rw [savedName, savedName, hname]

/-- A saved profile is listed when its file holds what saving it wrote. -/
theorem stored_mem_list_iff (hrun : saveAll codec (some ∅) saves = ok dir)
    (hjson : ∀ s ∈ saves, RoundTrips codec (stored s.1 s.2)) {s : Profile × Time}
    (hs : s ∈ saves) :
    stored s.1 s.2 ∈ list codec dir ↔
      (LastWrite.writeAll savedFile (content codec) saves).lookup (savedFile s) =
        some (content codec s) := by
  rw [(saveAll_eq_ok hrun).2, mem_list_iff]
  constructor
  · rintro ⟨name, data, hlookup, _, hread⟩
    change (LastWrite.writeAll savedFile (content codec) saves).lookup name = some data at hlookup
    have hlast := hlookup
    rw [LastWrite.lookup_writeAll] at hlast
    -- the file was written last by some save `z`, which stored the same profile
    rcases Option.map_eq_some_iff.1 hlast with ⟨z, hz, rfl⟩
    rcases LastWrite.cls_of_lastWith hz with ⟨hzmem, rfl⟩
    rw [unmarshal_content hrun hjson hzmem, Option.some.injEq] at hread
    have hcontent : content codec z = content codec s := by
      simp only [content, hread]
    rw [← savedFile_of_savedName (savedName_of_stored hread), hlookup, hcontent]
  · intro hlookup
    exact ⟨savedFile s, content codec s, hlookup, ext_fileName _, unmarshal_content hrun hjson hs⟩

/-- After a history of successful saves into an empty directory, the last profile saved under every
trimmed name is listed exactly when no two names of the history that differ after trimming are
folded into one file name. -/
theorem last_profiles_listed_iff (hrun : saveAll codec (some ∅) saves = ok dir)
    (hjson : ∀ s ∈ saves, RoundTrips codec (stored s.1 s.2)) :
    (∀ s, LastWrite.lastWith savedName (savedName s) saves = some s →
        stored s.1 s.2 ∈ list codec dir) ↔
      ∀ a ∈ saves, ∀ b ∈ saves, sanitize a.1.name = sanitize b.1.name →
        trimSpace a.1.name = trimSpace b.1.name := by
  -- a name can be read off the content, so equal contents are saves of one name
  have hval : ∀ a ∈ saves, ∀ b ∈ saves, content codec a = content codec b →
      savedName a = savedName b := by
    intro a ha b hb h
    have hread := unmarshal_content hrun hjson ha
    rw [h, unmarshal_content hrun hjson hb, Option.some.injEq] at hread
    exact (savedName_of_stored hread).symm
  have hsurvives := LastWrite.survives_iff
    (fun a b => savedFile_of_savedName (a := a) (b := b)) hval
  have hfile : ∀ a b : Profile × Time, savedFile a = savedFile b ↔
      sanitize a.1.name = sanitize b.1.name := by
    intro a b
    simp [savedFile, fileName]
  simp only [hfile] at hsurvives
  refine Iff.trans (forall_congr' fun s => imp_congr_right fun hlast => ?_) hsurvives
  exact stored_mem_list_iff hrun hjson (LastWrite.cls_of_lastWith hlast).1

end Runs

/-! ## Two names that fold into one file -/

/-- A profile with nothing but a name and a time. -/
def plain (name : Bytes) : Profile :=
  { schemaVersion := 1
    name := name
    preferredAction := []
    mode := []
    timeoutMs := 0
    targets := none
    lastSeverity := []
    updatedAt := Time.unix 1704067200 0 }

/-- What `json.MarshalIndent` writes for `plain name` when no byte of the name needs escaping. -/
def plainJson (name : Bytes) : Bytes :=
  lit "\x7b\n  \"schema_version\": 1,\n  \"name\": \"" ++ name ++
    lit "\",\n  \"preferred_action\": \"\",\n  \"mode\": \"\",\n  \"timeout_ms\": 0,\n" ++
    lit "  \"targets\": null,\n  \"last_severity\": \"\",\n" ++
    lit "  \"updated_at\": \"2024-01-01T00:00:00Z\"\n\x7d"

def sampleNames : List Bytes :=
  [lit "a b", lit "a_b", lit "home"]

/-- `encoding/json` on the plain profiles of the sample names. -/
def sampleCodec : JsonCodec :=
  { marshalIndent := fun p =>
      if p ∈ sampleNames.map plain then ok (plainJson p.name) else err "unsupported value"
    unmarshal := fun data =>
      (sampleNames.find? fun name => decide (plainJson name ++ [0x0a] = data)).map plain }

def sampleSaves (names : List Bytes) : List (Profile × Time) :=
  names.map fun name => (plain name, Time.zero)

theorem plainJson_inj {a b : Bytes} : plainJson a = plainJson b ↔ a = b := by
  simp [plainJson]

theorem unmarshal_plainJson {name : Bytes} (h : name ∈ sampleNames) :
    sampleCodec.unmarshal (plainJson name ++ [0x0a]) = some (plain name) := by
  have hfind : sampleNames.find? (fun n => decide (plainJson n ++ [0x0a] = plainJson name ++ [0x0a])) =
      some name := by
    simp only [List.append_cancel_right_eq, plainJson_inj]
    simp only [sampleNames, List.mem_cons, List.not_mem_nil, or_false] at h
    rcases h with rfl | rfl | rfl <;> decide
  simp only [sampleCodec, hfind]
  rfl

theorem sampleSaves_roundTrip {names : List Bytes} (h : ∀ name ∈ names, name ∈ sampleNames) :
    ∀ s ∈ sampleSaves names, RoundTrips sampleCodec (stored s.1 s.2) := by
  intro s hs data hdata
  rcases List.mem_map.1 hs with ⟨name, hname, rfl⟩
  have hmem : plain name ∈ sampleNames.map plain := List.mem_map_of_mem (h name hname)
  change (if plain name ∈ sampleNames.map plain then ok (plainJson name) else _) = ok data at hdata
  rw [if_pos hmem] at hdata
  cases hdata
  exact unmarshal_plainJson (h name hname)

theorem last_profiles_listed_home :
    ∃ dir, saveAll sampleCodec (some ∅) (sampleSaves [lit "a b", lit "home"]) = ok dir ∧
      ((∀ s, LastWrite.lastWith savedName (savedName s) (sampleSaves [lit "a b", lit "home"]) = some s →
        stored s.1 s.2 ∈ list sampleCodec dir) ↔
      ∀ a ∈ sampleSaves [lit "a b", lit "home"], ∀ b ∈ sampleSaves [lit "a b", lit "home"],
        sanitize a.1.name = sanitize b.1.name → trimSpace a.1.name = trimSpace b.1.name) :=
  ⟨_, rfl, last_profiles_listed_iff rfl (sampleSaves_roundTrip (by decide))⟩

/-- Saving `a_b` after `a b` leaves only one of them. -/
theorem saved_profile_lost :
    ¬ ∀ (codec : JsonCodec) (saves : List (Profile × Time)) (dir : Option Dir),
      saveAll codec (some ∅) saves = ok dir →
      (∀ s ∈ saves, RoundTrips codec (stored s.1 s.2)) →
      ∀ s, LastWrite.lastWith savedName (savedName s) saves = some s →
        stored s.1 s.2 ∈ list codec dir := by
  intro h
  have hjson : ∀ s ∈ sampleSaves [lit "a b", lit "a_b"],
      RoundTrips sampleCodec (stored s.1 s.2) :=
    sampleSaves_roundTrip (by decide)
  have hlisted := h sampleCodec _ _ rfl hjson (plain (lit "a b"), Time.zero) (by decide)
  rw [stored_mem_list_iff rfl hjson (by simp [sampleSaves]), LastWrite.lookup_writeAll] at hlisted
  have hlast : LastWrite.lastWith savedFile (savedFile (plain (lit "a b"), Time.zero))
      (sampleSaves [lit "a b", lit "a_b"]) = some (plain (lit "a_b"), Time.zero) := by
    decide
  rw [hlast, Option.map_some, Option.some.injEq] at hlisted
  -- the common file holds the profile saved last
  have hsame : plainJson (lit "a_b") = plainJson (lit "a b") := List.append_cancel_right hlisted
  exact absurd (plainJson_inj.1 hsame) (by decide)

end ProfileStore

end Orchestrator
end FlyDpi
