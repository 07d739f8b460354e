import FlyDpi.Orchestrator.GoStd

/-!
# GoNet — addresses of Go's `net` package

`JoinHostPort`, and `ParseIP` with the grammar it accepts: four decimal fields, or groups of up to
four hexadecimal digits with at most one `::` and possibly a dotted quad at the end.  The result is
the 16-byte form; `none` stands for the `nil` of the source.
-/

namespace FlyDpi
namespace Orchestrator

open Lib

/-- `net.JoinHostPort`: a host with a colon is put into brackets. -/
def joinHostPort (host port : Bytes) : Bytes :=
  if 0x3a ∈ host then lit "[" ++ host ++ lit "]:" ++ port else host ++ lit ":" ++ port

/-! ## IPv4 -/

def isDigit (c : UInt8) : Bool :=
  decide (0x30 ≤ c ∧ c ≤ 0x39)

def decimalValue (digits : Bytes) : Nat :=
  digits.foldl (fun v c => v * 10 + (c.toNat - 0x30)) 0

/-- A decimal field: no leading zero, at most 255. -/
def parseOctet (field : Bytes) : Option UInt8 :=
  if field ≠ [] ∧ field.all isDigit ∧ (field.length = 1 ∨ field.head? ≠ some 0x30) ∧
      decimalValue field ≤ 255 then
    some (UInt8.ofNat (decimalValue field))
  else
    none

def parseIPv4 (s : Bytes) : Option Bytes :=
  match s.splitOn 0x2e with
  | [a, b, c, d] => do
      let a ← parseOctet a
      let b ← parseOctet b
      let c ← parseOctet c
      let d ← parseOctet d
      return [a, b, c, d]
  | _ => none

/-! ## IPv6 -/

def hexValue (c : UInt8) : Option Nat :=
  if 0x30 ≤ c ∧ c ≤ 0x39 then some (c.toNat - 0x30)
  else if 0x61 ≤ c ∧ c ≤ 0x66 then some (c.toNat - 0x61 + 10)
  else if 0x41 ≤ c ∧ c ≤ 0x46 then some (c.toNat - 0x41 + 10)
  else none

/-- One to four hexadecimal digits, as two bytes. -/
def parseGroup (group : Bytes) : Option Bytes := do
  let digits ← group.mapM hexValue
  if 1 ≤ digits.length ∧ digits.length ≤ 4 then
    let value := digits.foldl (fun v d => v * 16 + d) 0
    return [UInt8.ofNat (value / 256), UInt8.ofNat (value % 256)]
  else
    none

/-- Groups between colons; the last one may be a dotted quad where `quad` allows it. -/
def parseGroups (quad : Bool) : List Bytes → Option Bytes
  | [] => some []
  | [last] => if quad ∧ 0x2e ∈ last then parseIPv4 last else parseGroup last
  | group :: rest => do
      let bytes ← parseGroup group
      let tail ← parseGroups quad rest
      return bytes ++ tail

/-- The parts before and behind the first `::`. -/
def cutEllipsis : Bytes → Option (Bytes × Bytes)
  | 0x3a :: 0x3a :: rest => some ([], rest)
  | c :: rest => (cutEllipsis rest).map fun (left, right) => (c :: left, right)
  | [] => none

/-- One side of an ellipsis, which may be empty. -/
def parseSide (quad : Bool) (side : Bytes) : Option Bytes :=
  if side = [] then some [] else parseGroups quad (side.splitOn 0x3a)

/-- A zone (`%eth0`) makes `netip.ParseAddr` succeed and `ParseIP` refuse; a percent sign is in no
group, so it is refused here as well. -/
def parseIPv6 (s : Bytes) : Option Bytes :=
  match cutEllipsis s with
  | none => do
      let bytes ← parseGroups true (s.splitOn 0x3a)
      if bytes.length = 16 then some bytes else none
  | some (left, right) => do
      let left ← parseSide false left
      let right ← parseSide true right
      let gap := 16 - (left.length + right.length)
      -- the ellipsis stands for at least one group
      if left.length + right.length < 16 then some (left ++ List.replicate gap 0 ++ right) else none

/-- `net.ParseIP`: the first separator decides the family. -/
def parseIP (s : Bytes) : Option Bytes :=
  match s.find? fun c => c == 0x2e || c == 0x3a || c == 0x25 with
  | some 0x2e => do
      let quad ← parseIPv4 s
      return List.replicate 10 0 ++ [0xff, 0xff] ++ quad
  | some 0x3a => parseIPv6 s
  | _ => none

/-! ## Dotted decimal text -/

/-- The decimal text of a byte. -/
def decimal (b : UInt8) : Bytes :=
  (Nat.toDigits 10 b.toNat).map fun c => UInt8.ofNat c.toNat

def dottedDecimal (a b c d : UInt8) : Bytes :=
  decimal a ++ 0x2e :: (decimal b ++ 0x2e :: (decimal c ++ 0x2e :: decimal d))

theorem parseOctet_decimal (b : UInt8) : parseOctet (decimal b) = some b := by
  have hall : ∀ n < 256, parseOctet (decimal (UInt8.ofNat n)) = some (UInt8.ofNat n) := by
    decide +kernel
  have hb := hall b.toNat b.toNat_lt
  rwa [UInt8.ofNat_toNat] at hb

theorem isDigit_of_mem_decimal {b c : UInt8} (h : c ∈ decimal b) : isDigit c := by
  have hall : (decimal b).all isDigit := by
    have hsome := parseOctet_decimal b
    unfold parseOctet at hsome
    split at hsome
    · rename_i hfield
      exact hfield.2.1
    · cases hsome
  exact List.all_eq_true.1 hall c h

theorem not_mem_decimal {b sep : UInt8} (h : isDigit sep = false) : sep ∉ decimal b := by
  intro hmem
  rw [isDigit_of_mem_decimal hmem] at h
  cases h

theorem parseIPv4_dottedDecimal (a b c d : UInt8) :
    parseIPv4 (dottedDecimal a b c d) = some [a, b, c, d] := by
  have hdot : ∀ e, (0x2e : UInt8) ∉ decimal e := fun e => not_mem_decimal (by decide)
  have hsplit : (dottedDecimal a b c d).splitOn 0x2e =
      [decimal a, decimal b, decimal c, decimal d] := by
    unfold dottedDecimal
    rw [List.splitOn_append_cons_self_of_not_mem (hdot a),
      List.splitOn_append_cons_self_of_not_mem (hdot b),
      List.splitOn_append_cons_self_of_not_mem (hdot c), List.splitOn_eq_singleton (hdot d)]
  simp [parseIPv4, hsplit, parseOctet_decimal]

/-- `ParseIP` reads every dotted decimal address. -/
theorem parseIP_dottedDecimal (a b c d : UInt8) :
    parseIP (dottedDecimal a b c d) = some (List.replicate 10 0 ++ [0xff, 0xff, a, b, c, d]) := by
  have hfirst : (dottedDecimal a b c d).find? (fun c => c == 0x2e || c == 0x3a || c == 0x25) =
      some 0x2e := by
    have hnone : (decimal a).find? (fun c => c == 0x2e || c == 0x3a || c == 0x25) = none := by
      refine List.find?_eq_none.2 ?_
      intro c hc hsep
      have hdigit := isDigit_of_mem_decimal hc
      simp only [Bool.or_eq_true, beq_iff_eq] at hsep
      rcases hsep with (rfl | rfl) | rfl <;> exact absurd hdigit (by decide)
    rw [dottedDecimal, List.find?_append, hnone]
    rfl
  rw [parseIP, hfirst]
  simp [parseIPv4_dottedDecimal]

end Orchestrator
end FlyDpi
