import Mathlib.Data.Nat.Digits.Lemmas
import FlyDpi.Lib.Bytes

/-!
# Decimal — numbers as decimal text

`zeroPadded width n` writes a natural number with at least `width` digits and `appendInt width x` an
integer, with a sign in front of the digits when it is negative.  Both can be read back.
-/

namespace Lib
namespace Decimal

open Bytes

/-- The digits of `n`, most significant first, with leading zeros up to the width. -/
def zeroPadded (width n : Nat) : Bytes :=
  (Nat.digitsAppend 10 width n).reverse.map fun d => 0x30 + UInt8.ofNat d

def appendInt (width : Nat) (x : Int) : Bytes :=
  if x < 0 then 0x2d :: zeroPadded width x.natAbs else zeroPadded width x.natAbs

/-! ## Reading back -/

/-- The number that a text of digits denotes. -/
def value (text : Bytes) : Nat :=
  Nat.ofDigits 10 (text.reverse.map fun c => (c - 0x30).toNat)

theorem toNat_digit {d : Nat} (h : d < 10) : ((0x30 + UInt8.ofNat d) - 0x30 : UInt8).toNat = d := by
  rw [UInt8.add_comm, UInt8.add_sub_cancel, UInt8.toNat_ofNat']
  omega

theorem value_zeroPadded (width n : Nat) : value (zeroPadded width n) = n := by
  have hdigits : ((Nat.digitsAppend 10 width n).map fun d =>
      ((0x30 + UInt8.ofNat d) - 0x30 : UInt8).toNat) = Nat.digitsAppend 10 width n := by
    refine (List.map_congr_left ?_).trans (List.map_id _)
    intro d hd
    exact toNat_digit (Nat.lt_of_mem_digitsAppend (by decide) width d hd)
  calc
    value (zeroPadded width n) = Nat.ofDigits 10 (Nat.digitsAppend 10 width n) := by
          rw [value, zeroPadded, ← List.map_reverse, List.reverse_reverse, List.map_map]
          exact congrArg _ hdigits
    _ = n := by
          rw [Nat.digitsAppend, Nat.ofDigits_append_replicate_zero, Nat.ofDigits_digits]

theorem zeroPadded_inj {width m n : Nat} : zeroPadded width m = zeroPadded width n ↔ m = n := by
  constructor
  · intro h
    rw [← value_zeroPadded width m, h, value_zeroPadded]
  · rintro rfl
    rfl

theorem length_zeroPadded {width n : Nat} (h : n < 10 ^ width) :
    (zeroPadded width n).length = width := by
  rw [zeroPadded, List.length_map, List.length_reverse, Nat.length_digitsAppend (by decide) width h]

theorem minus_notMem_zeroPadded (width n : Nat) : (0x2d : UInt8) ∉ zeroPadded width n := by
  intro h
  rcases List.mem_map.1 h with ⟨d, hd, heq⟩
  have hlt : d < 10 := Nat.lt_of_mem_digitsAppend (by decide) width d (List.mem_reverse.1 hd)
  have hdigit := toNat_digit hlt
  rw [heq] at hdigit
  have hminus : ((0x2d : UInt8) - 0x30).toNat = 253 := by
    decide
  omega

theorem appendInt_inj {width : Nat} {x y : Int} : appendInt width x = appendInt width y ↔ x = y := by
  constructor
  · intro h
    -- only the text of a negative number has a sign
    have hsign : ∀ n m : Nat, 0x2d :: zeroPadded width n ≠ zeroPadded width m := by
      intro n m hnm
      exact minus_notMem_zeroPadded width m (hnm ▸ List.mem_cons_self ..)
    unfold appendInt at h
    split at h <;> split at h
    · have habs := zeroPadded_inj.1 (List.cons.inj h).2
      omega
    · exact absurd h (hsign _ _)
    · exact absurd h.symm (hsign _ _)
    · have habs := zeroPadded_inj.1 h
      omega
  · rintro rfl
    rfl

end Decimal
end Lib
