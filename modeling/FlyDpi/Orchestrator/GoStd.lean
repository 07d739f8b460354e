import Mathlib.Data.List.DropRight
import FlyDpi.Lib.Bytes

/-!
# GoStd — the parts of the Go standard library the orchestrator relies on

Instants of `time.Time` as seconds and nanoseconds relative to the Unix epoch; strings as byte
sequences, with the runes that `range` yields and the white space that `strings.TrimSpace` removes;
the extension of a file name; stable sorting.
-/

namespace FlyDpi
namespace Orchestrator

open Lib Lib.Bytes

/-! ## time -/

/-- An instant of `time.Time`: seconds since the Unix epoch and nanoseconds within the second. -/
structure Time where
  sec : Int
  nsec : Nat
  deriving DecidableEq, Repr

namespace Time

/-- `time.Time{}`: January 1 of year 1, 00:00:00 UTC. -/
def zero : Time :=
  { sec := -62135596800
    nsec := 0 }

/-- `time.Unix(sec, nsec).UTC()` for nanoseconds within one second. -/
def unix (sec : Int) (nsec : Nat) : Time :=
  { sec := sec
    nsec := nsec }

def isZero (t : Time) : Bool :=
  decide (t = zero)

end Time

/-! ## strings -/

/-- A rune of a string and the bytes it was decoded from. -/
structure Rune where
  value : Nat
  bytes : Bytes
  deriving DecidableEq, Repr

/-- The size of the encoding that a leading byte announces, and the range of its second byte. -/
def leading (b : UInt8) : Option (Nat × UInt8 × UInt8) :=
  -- continuation bytes, and the two that could only start an overlong form
  if b < 0xc2 then none
  else if b < 0xe0 then some (2, 0x80, 0xbf)
  -- the narrower ranges exclude overlong forms, surrogates and what exceeds the last code point
  else if b = 0xe0 then some (3, 0xa0, 0xbf)
  else if b = 0xed then some (3, 0x80, 0x9f)
  else if b < 0xf0 then some (3, 0x80, 0xbf)
  else if b = 0xf0 then some (4, 0x90, 0xbf)
  else if b < 0xf4 then some (4, 0x80, 0xbf)
  else if b = 0xf4 then some (4, 0x80, 0x8f)
  else none

def inRange (lo hi b : UInt8) : Bool :=
  decide (lo ≤ b ∧ b ≤ hi)

/-- `utf8.RuneError` for one byte that starts no valid encoding. -/
def invalidRune (b : UInt8) : Rune :=
  { value := 0xfffd
    bytes := [b] }

/-- `utf8.DecodeRuneInString` of the string `b :: rest`. -/
def decodeRune (b : UInt8) (rest : Bytes) : Rune :=
  if b < 0x80 then
    { value := b.toNat
      bytes := [b] }
  else
    match leading b with
    | none => invalidRune b
    | some (size, lo, hi) =>
        let tail := rest.take (size - 1)
        if tail.length = size - 1 ∧ (tail.head?.all (inRange lo hi)) ∧
            tail.all (inRange 0x80 0xbf) then
          -- six bits of each continuation byte behind the bits of the leading one
          { value := tail.foldl (fun v c => v * 64 + c.toNat % 64) (b.toNat % 2 ^ (7 - size))
            bytes := b :: tail }
        -- a broken encoding costs its first byte only
        else
          invalidRune b

/-- Runes of a string of which the first `skip` bytes belong to the rune before. -/
def runesFrom : Nat → Bytes → List Rune
  | _, [] => []
  | skip + 1, _ :: rest => runesFrom skip rest
  | 0, b :: rest =>
      let rune := decodeRune b rest
      rune :: runesFrom (rune.bytes.length - 1) rest

/-- `for _, r := range s`. -/
def runes (s : Bytes) : List Rune :=
  runesFrom 0 s

/-- `unicode.IsSpace`. -/
def isSpace (r : Nat) : Bool :=
  decide (r = 0x20 ∨ (0x09 ≤ r ∧ r ≤ 0x0d) ∨ r = 0x85 ∨ r = 0xa0 ∨ r = 0x1680 ∨
    (0x2000 ≤ r ∧ r ≤ 0x200a) ∨ r = 0x2028 ∨ r = 0x2029 ∨ r = 0x202f ∨ r = 0x205f ∨ r = 0x3000)

/-- `strings.TrimSpace`. -/
def trimSpace (s : Bytes) : Bytes :=
  (((runes s).dropWhile fun r => isSpace r.value).rdropWhile fun r => isSpace r.value).flatMap
    Rune.bytes

/-- A string literal as bytes. -/
def lit (s : String) : Bytes :=
  s.toUTF8.data.toList

/-! ## path/filepath -/

/-- `filepath.Ext`: from the last dot of the last path element on. -/
def ext (path : Bytes) : Bytes :=
  -- backwards to the first dot or separator
  let (tail, before) := path.reverse.span fun c => c ≠ 0x2e && c ≠ 0x2f && c ≠ 0x5c
  if before.head? = some 0x2e then 0x2e :: tail.reverse else []

theorem ext_append_json (name : Bytes) : ext (name ++ lit ".json") = lit ".json" := by
  have hlit : lit ".json" = [0x2e, 0x6a, 0x73, 0x6f, 0x6e] := by
    decide
  simp [ext, hlit, List.span, List.span.loop]

/-! ## sort -/

/-- `sort.SliceStable`: elements of which neither is less than the other keep their order. -/
def sliceStable {α : Type} (less : α → α → Bool) (xs : List α) : List α :=
  xs.mergeSort fun a b => !less b a

end Orchestrator
end FlyDpi
