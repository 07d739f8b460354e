import FlyDpi.Orchestrator.GoStd

/-!
# GoRunes — decoding a string piece by piece

An ASCII byte is always a rune of its own: no encoding that starts before it reaches across it, also
where the string is not valid UTF-8.  The runes of a string can be computed on both sides of it.
-/

namespace FlyDpi
namespace Orchestrator

open Lib

/-- A byte below `0x80` as a rune. -/
def asciiRune (c : UInt8) : Rune :=
  { value := c.toNat
    bytes := [c] }

theorem decodeRune_ascii {c : UInt8} (hc : c < 0x80) (rest : Bytes) :
    decodeRune c rest = asciiRune c :=
  if_pos hc

/-- A rune takes no more bytes than there are. -/
theorem length_bytes_decodeRune_le (b : UInt8) (rest : Bytes) :
    (decodeRune b rest).bytes.length ≤ rest.length + 1 := by
  unfold decodeRune
  split
  · simp
  · split
    · simp [invalidRune]
    · dsimp only
      split
      · simp only [List.length_cons, List.length_take]
        omega
      · simp [invalidRune]

/-- What follows an ASCII byte does not matter for the rune before it. -/
theorem decodeRune_append_ascii (b : UInt8) (rest t : Bytes) {c : UInt8} (hc : c < 0x80) :
    decodeRune b (rest ++ c :: t) = decodeRune b rest := by
  unfold decodeRune
  split
  · rfl
  · split
    · rfl
    · rename_i size lo hi _
      dsimp only
      by_cases hle : size - 1 ≤ rest.length
      · rw [List.take_append_of_le_length hle]
      · -- the encoding is cut off at the end of `rest`, and broken by the ASCII byte
        rw [Nat.not_le] at hle
        have hmem : c ∈ (rest ++ c :: t).take (size - 1) := by
          rw [List.take_append, List.mem_append]
          right
          obtain ⟨k, hk⟩ : ∃ k, size - 1 - rest.length = k + 1 :=
            ⟨size - 1 - rest.length - 1, by omega⟩
          rw [hk, List.take_succ_cons]
          exact List.mem_cons_self
        have hshort : ¬ (rest.take (size - 1)).length = size - 1 := by
          rw [List.length_take]
          omega
        have hbroken : ¬ ((rest ++ c :: t).take (size - 1)).all (inRange 0x80 0xbf) = true := by
          intro hall
          have hrange := List.all_eq_true.1 hall c hmem
          simp only [inRange, decide_eq_true_eq] at hrange
          exact absurd hc (UInt8.not_lt.2 hrange.1)
        rw [if_neg fun h => hbroken h.2.2, if_neg fun h => hshort h.1]

theorem runesFrom_append_ascii {c : UInt8} (hc : c < 0x80) (t : Bytes) {s : Bytes} {skip : Nat}
    (hskip : skip ≤ s.length) :
    runesFrom skip (s ++ c :: t) = runesFrom skip s ++ asciiRune c :: runes t := by
  induction s generalizing skip with
  | nil =>
      have hzero : skip = 0 := by
        simpa using hskip
      subst hzero
      have hfirst : runesFrom 0 (c :: t) =
          decodeRune c t :: runesFrom ((decodeRune c t).bytes.length - 1) t :=
        rfl
      rw [List.nil_append, hfirst, decodeRune_ascii hc]
      rfl
  | cons b s ih =>
      cases skip with
      | succ skip =>
          exact ih (by simpa using hskip)
      | zero =>
          have hle := length_bytes_decodeRune_le b s
          rw [List.cons_append, runesFrom, runesFrom, decodeRune_append_ascii b s t hc,
            List.cons_append, ih (by omega)]

theorem runes_append_ascii (s t : Bytes) {c : UInt8} (hc : c < 0x80) :
    runes (s ++ c :: t) = runes s ++ asciiRune c :: runes t :=
  runesFrom_append_ascii hc t (Nat.zero_le _)

/-- A string of ASCII bytes only. -/
theorem runes_ascii {s : Bytes} (h : ∀ c ∈ s, c < 0x80) : runes s = s.map asciiRune := by
  induction s with
  | nil =>
      rfl
  | cons c s ih =>
      have hc := h c List.mem_cons_self
      calc
        runes (c :: s) = runes [] ++ asciiRune c :: runes s := runes_append_ascii [] s hc
        _ = (c :: s).map asciiRune := by
              rw [ih fun c' hc' => h c' (List.mem_cons_of_mem _ hc')]
              rfl

end Orchestrator
end FlyDpi
