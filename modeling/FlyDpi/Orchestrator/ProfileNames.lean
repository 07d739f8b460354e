import FlyDpi.Lib.Path
import FlyDpi.Orchestrator.GoRunes
import FlyDpi.Orchestrator.ProfileSave

/-!
# ProfileNames — where a profile can be stored

The name of a profile comes from a client.  `sanitize` turns it into letters, digits, `-` and `_`,
so the path that `Save` opens is a direct child of the directory of the store, and `List` finds it.
-/

namespace FlyDpi
namespace Orchestrator

open Lib Lib.Outcome

/-! ## Safe names -/

/-- A name that `sanitize` has nothing to do with: not empty, and of safe bytes only. -/
def SafeName (name : Bytes) : Prop := name ≠ [] ∧ ∀ c ∈ name, isSafe c.toNat = true

theorem lt_of_isSafe {r : Nat} (h : isSafe r = true) : r < 0x80 := by
  simp only [isSafe, decide_eq_true_eq] at h
  omega

theorem not_isSpace_of_isSafe {r : Nat} (h : isSafe r = true) : isSpace r = false := by
  simp only [isSafe, decide_eq_true_eq] at h
  simp only [isSpace, decide_eq_false_iff_not]
  omega

theorem toNat_ofNat_of_isSafe {r : Nat} (h : isSafe r = true) : (UInt8.ofNat r).toNat = r := by
  have hlt := lt_of_isSafe h
  rw [UInt8.toNat_ofNat']
  omega

/-- The byte that `sanitize` writes for a rune. -/
theorem isSafe_written (r : Rune) :
    isSafe (if isSafe r.value then UInt8.ofNat r.value else 0x5f).toNat = true := by
  split
  · rename_i h
    rw [toNat_ofNat_of_isSafe h]
    exact h
  · decide

theorem safeName_sanitize (name : Bytes) : SafeName (sanitize name) := by
  unfold sanitize
  dsimp only
  split
  · refine ⟨by decide, ?_⟩
    decide +kernel
  · rename_i hne
    refine ⟨hne, fun c hc => ?_⟩
    rcases List.mem_map.1 hc with ⟨r, _, rfl⟩
    exact isSafe_written r

namespace SafeName

variable {name : Bytes} (h : SafeName name)

include h

theorem runes_eq : runes name = name.map asciiRune :=
  runes_ascii fun c hc => UInt8.lt_iff_toNat_lt.2 (lt_of_isSafe (h.2 c hc))

/-- There is nothing to trim. -/
theorem trimSpace_eq : trimSpace name = name := by
  have hspace : ∀ r ∈ name.map asciiRune, isSpace r.value = false := by
    intro r hr
    rcases List.mem_map.1 hr with ⟨c, hc, rfl⟩
    exact not_isSpace_of_isSafe (h.2 c hc)
  have hfront : (name.map asciiRune).dropWhile (fun r => isSpace r.value) = name.map asciiRune := by
    rw [List.dropWhile_eq_self_iff]
    intro hpos
    rw [hspace _ (List.getElem_mem hpos)]
    decide
  have hback : (name.map asciiRune).rdropWhile (fun r => isSpace r.value) = name.map asciiRune := by
    rw [List.rdropWhile_eq_self_iff]
    intro hne
    rw [hspace _ (List.getLast_mem hne)]
    decide
  rw [trimSpace, h.runes_eq, hfront, hback, List.flatMap_map]
  exact List.flatMap_singleton' name

theorem sanitize_eq : sanitize name = name := by
  have hbytes : (name.map asciiRune).map
      (fun r => if isSafe r.value then UInt8.ofNat r.value else 0x5f) = name := by
    rw [List.map_map]
    refine (List.map_congr_left fun c hc => ?_).trans (List.map_id _)
    change (if isSafe c.toNat then UInt8.ofNat c.toNat else 0x5f) = c
    rw [if_pos (h.2 c hc), UInt8.ofNat_toNat]
  unfold sanitize
  rw [h.trimSpace_eq, h.runes_eq, hbytes]
  exact if_neg h.1

end SafeName

theorem sanitize_sanitize (name : Bytes) : sanitize (sanitize name) = sanitize name :=
  (safeName_sanitize name).sanitize_eq

/-! ## The file of a profile -/

/-- `os.IsPathSeparator`, which on Windows takes both slashes. -/
def isPathSeparator (c : UInt8) : Bool :=
  c == 0x2f || c == 0x5c

/-- `filepath.Join(dir, name)` for a directory as `filepath.Clean` leaves it. -/
def joinPath (dir : Path UInt8) (name : Bytes) : Path UInt8 :=
  dir.join 0x2e isPathSeparator name

/-- A path that leaves the directory. -/
example : joinPath ⟨[], true, [lit "profiles"]⟩ (lit "../x.json") = ⟨[], true, [lit "x.json"]⟩ := by
  decide

theorem joinPath_fileName (dir : Path UInt8) (name : Bytes) :
    joinPath dir (fileName name) = dir.child (fileName name) := by
  have hsafe := safeName_sanitize name
  have hlit : lit ".json" = [0x2e, 0x6a, 0x73, 0x6f, 0x6e] := by
    decide
  have hlength : 6 ≤ (fileName name).length := by
    have hpos := List.length_pos_iff.2 hsafe.1
    rw [fileName, List.length_append, hlit]
    simp only [List.length_cons, List.length_nil]
    omega
  have hsep : ∀ c ∈ fileName name, isPathSeparator c = false := by
    intro c hc
    rcases List.mem_append.1 hc with hname | hext
    · have hc := hsafe.2 c hname
      rw [← Bool.not_eq_true]
      intro h
      simp only [isPathSeparator, Bool.or_eq_true, beq_iff_eq] at h
      rcases h with rfl | rfl
      · exact absurd hc (by decide)
      · exact absurd hc (by decide)
    · exact (show ∀ c ∈ lit ".json", isPathSeparator c = false by decide +kernel) c hext
  -- it is too long for a dot or two
  refine Path.join_eq_child hsep ?_ ?_ ?_
  · intro h
    simp [h] at hlength
  · intro h
    simp [h] at hlength
  · intro h
    simp [h] at hlength

namespace ProfileStore

variable {codec : JsonCodec}

/-- Where a successful save leaves its profile: in a direct child of the directory, with a safe base
name, that `List` reads. -/
structure Confined (codec : JsonCodec) (dir dir' : Option Dir) (p : Profile) (now : Time)
    (data : Bytes) : Prop where
  json : codec.marshalIndent (stored p now) = ok data
  written : dir' = some ((dir.getD ∅).insert (fileName p.name) (data ++ [0x0a]))
  base : ∃ base, SafeName base ∧ fileName p.name = base ++ lit ".json"
  child : ∀ store : Path UInt8, joinPath store (fileName p.name) = store.child (fileName p.name)
  listed : fileName p.name ∈ profileNames dir'
  read : ∀ q, codec.unmarshal (data ++ [0x0a]) = some q → q ∈ list codec dir'
  saved : RoundTrips codec (stored p now) → stored p now ∈ list codec dir'

theorem confined_of_save {dir dir' : Option Dir} {p : Profile} {now : Time}
    (h : save codec dir p now = ok dir') : ∃ data, Confined codec dir dir' p now data := by
  rcases save_eq_ok h with ⟨data, hdata, rfl⟩
  have hread : ∀ q, codec.unmarshal (data ++ [0x0a]) = some q →
      q ∈ list codec (some ((dir.getD ∅).insert (fileName p.name) (data ++ [0x0a]))) := fun q hq =>
    mem_list_iff.2 ⟨fileName p.name, _, AList.lookup_insert _, ext_fileName _, hq⟩
  refine ⟨data,
    { json := hdata
      written := rfl
      base := ⟨sanitize p.name, safeName_sanitize p.name, rfl⟩
      child := fun store => joinPath_fileName store p.name
      listed := ?_
      read := hread
      saved := fun htrip => hread _ (htrip data hdata) }⟩
  refine mem_profileNames.2 ⟨?_, ext_fileName p.name⟩
  rw [contents_insert_self]
  rfl

/-- A save that is not refused writes one file, a direct child of the directory with a safe name, and
`List` reads it; `sanitize` keeps what is safe already. -/
theorem save_confined {dir dir' : Option Dir} {p : Profile} {now : Time}
    (h : save codec dir p now = ok dir') :
    (∃ data, Confined codec dir dir' p now data) ∧
    (∀ s, Relation.ReflTransGen (Saving.Step codec p now) (Saving.start dir) s →
      ∀ name, name ≠ fileName p.name → contents s.dir name = contents dir name) ∧
    (∀ name, sanitize (sanitize name) = sanitize name) ∧
    ∀ name, SafeName name → sanitize name = name :=
  ⟨confined_of_save h, fun _ hrun _ hname => Saving.contents_of_run hrun hname, sanitize_sanitize,
    fun _ hsafe => hsafe.sanitize_eq⟩

/-- A profile that is named like a file outside the directory. -/
def strayProfile : Profile :=
  plain (lit "../a")

example : fileName strayProfile.name = lit "___a.json" := by
  decide

/-- `encoding/json` on that profile. -/
def strayCodec : JsonCodec :=
  { marshalIndent := fun p =>
      if p = strayProfile then ok (plainJson p.name) else err "unsupported value"
    unmarshal := fun data =>
      if data = plainJson strayProfile.name ++ [0x0a] then some strayProfile else none }

theorem save_confined_stray :
    ∃ dir', save strayCodec none strayProfile Time.zero = ok dir' ∧
      (∃ data, Confined strayCodec none dir' strayProfile Time.zero data) ∧
      (∀ s, Relation.ReflTransGen (Saving.Step strayCodec strayProfile Time.zero)
          (Saving.start none) s →
        ∀ name, name ≠ fileName strayProfile.name → contents s.dir name = contents none name) ∧
      (∀ name, sanitize (sanitize name) = sanitize name) ∧
      ∀ name, SafeName name → sanitize name = name :=
  ⟨_, rfl, save_confined rfl⟩

end ProfileStore

end Orchestrator
end FlyDpi
