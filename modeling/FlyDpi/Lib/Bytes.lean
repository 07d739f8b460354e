import Mathlib.Data.Nat.Digits.Lemmas
import Mathlib.Data.Nat.Bitwise
import FlyDpi.Lib.Outcome

/-!
# Bytes — fixed-width integers as byte sequences

Little- and big-endian encodings of natural numbers at an arbitrary width, and the fixed-width
readers and writers built from them.  `leNat` is `Nat.ofDigits` at base 256, so the bounds and the
uniqueness of the encoding come from the theory of digits.
-/

namespace Lib

abbrev Bytes := List UInt8

namespace Bytes

/-! ## Values of byte sequences -/

/-- The number whose little-endian digits are `bs`. -/
def leNat (bs : Bytes) : Nat :=
  Nat.ofDigits 256 (bs.map UInt8.toNat)

/-- The number whose big-endian digits are `bs`. -/
def beNat (bs : Bytes) : Nat :=
  leNat bs.reverse

/-- The `w` low bytes of `n`, least significant first. -/
def leBytes : Nat → Nat → Bytes
  | 0, _ => []
  | w + 1, n => UInt8.ofNat n :: leBytes w (n / 256)

/-- The `w` low bytes of `n`, most significant first. -/
def beBytes (w n : Nat) : Bytes :=
  (leBytes w n).reverse

@[simp] theorem leNat_nil : leNat [] = 0 := rfl

@[simp] theorem leNat_cons (b : UInt8) (bs : Bytes) :
    leNat (b :: bs) = b.toNat + 256 * leNat bs := by
  simp [leNat, Nat.ofDigits_cons]

@[simp] theorem length_leBytes (w n : Nat) : (leBytes w n).length = w := by
  induction w generalizing n with
  | zero =>
      rfl
  | succ w ih =>
      simp [leBytes, ih]

@[simp] theorem length_beBytes (w n : Nat) : (beBytes w n).length = w := by
  simp [beBytes]

theorem leNat_lt (bs : Bytes) : leNat bs < 256 ^ bs.length := by
  have hdigits : ∀ d ∈ bs.map UInt8.toNat, d < 256 := by
    intro d hd
    rcases List.mem_map.1 hd with ⟨b, _, rfl⟩
    exact b.toNat_lt
  simpa [leNat] using Nat.ofDigits_lt_base_pow_length (by decide : 1 < 256) hdigits

theorem beNat_lt (bs : Bytes) : beNat bs < 256 ^ bs.length := by
  simpa [beNat] using leNat_lt bs.reverse

/-- Reading back the `w` low bytes keeps `n` modulo `256 ^ w`. -/
theorem leNat_leBytes (w n : Nat) : leNat (leBytes w n) = n % 256 ^ w := by
  induction w generalizing n with
  | zero =>
      simp [leBytes, Nat.mod_one]
  | succ w ih =>
      -- the low byte and the low bytes of the quotient
      have hsplit : n % 256 ^ (w + 1) = n % 256 + 256 * (n / 256 % 256 ^ w) := by
        rw [Nat.pow_succ', Nat.mod_mul]
      calc
        leNat (leBytes (w + 1) n)
            = n % 256 + 256 * leNat (leBytes w (n / 256)) := by
                simp [leBytes]
        _ = n % 256 + 256 * (n / 256 % 256 ^ w) := by
              rw [ih]
        _ = n % 256 ^ (w + 1) := hsplit.symm

theorem beNat_beBytes (w n : Nat) : beNat (beBytes w n) = n % 256 ^ w := by
  simp [beNat, beBytes, leNat_leBytes]

theorem leBytes_leNat (bs : Bytes) : leBytes bs.length (leNat bs) = bs := by
  induction bs with
  | nil =>
      rfl
  | cons b bs ih =>
      have hb : b.toNat < 256 := b.toNat_lt
      -- the head is the remainder, the tail encodes the quotient
      have hdiv : (b.toNat + 256 * leNat bs) / 256 = leNat bs := by omega
      have hhead : UInt8.ofNat (b.toNat + 256 * leNat bs) = b := by
        apply UInt8.toNat_inj.1
        simp
      simp [leBytes, hdiv, hhead, ih]

theorem beBytes_beNat (bs : Bytes) : beBytes bs.length (beNat bs) = bs := by
  have h := leBytes_leNat bs.reverse
  rw [List.length_reverse] at h
  calc
    beBytes bs.length (beNat bs) = (leBytes bs.length (leNat bs.reverse)).reverse := rfl
    _ = bs.reverse.reverse := by
          rw [h]
    _ = bs := List.reverse_reverse bs

/-! ## Fixed-width integers -/

def u16FromBeBytes (a b : UInt8) : UInt16 :=
  UInt16.ofNat (beNat [a, b])

def u32FromBeBytes (a b c d : UInt8) : UInt32 :=
  UInt32.ofNat (beNat [a, b, c, d])

def u16ToBeBytes (v : UInt16) : Bytes :=
  beBytes 2 v.toNat

def u32ToBeBytes (v : UInt32) : Bytes :=
  beBytes 4 v.toNat

def u16ToLeBytes (v : UInt16) : Bytes :=
  leBytes 2 v.toNat

def u32ToLeBytes (v : UInt32) : Bytes :=
  leBytes 4 v.toNat

def u64ToLeBytes (v : UInt64) : Bytes :=
  leBytes 8 v.toNat

@[simp] theorem length_u16ToBeBytes (v : UInt16) : (u16ToBeBytes v).length = 2 :=
  length_beBytes 2 _

@[simp] theorem length_u32ToBeBytes (v : UInt32) : (u32ToBeBytes v).length = 4 :=
  length_beBytes 4 _

@[simp] theorem length_u16ToLeBytes (v : UInt16) : (u16ToLeBytes v).length = 2 :=
  length_leBytes 2 _

@[simp] theorem length_u32ToLeBytes (v : UInt32) : (u32ToLeBytes v).length = 4 :=
  length_leBytes 4 _

@[simp] theorem length_u64ToLeBytes (v : UInt64) : (u64ToLeBytes v).length = 8 :=
  length_leBytes 8 _

/-! ### Reading little-endian words -/

/-- A byte sequence reads as `n` exactly when it is the encoding of `n`. -/
theorem leNat_eq_iff {bs : Bytes} {n : Nat} (hn : n < 256 ^ bs.length) :
    leNat bs = n ↔ bs = leBytes bs.length n := by
  constructor
  · rintro rfl
    exact (leBytes_leNat bs).symm
  · intro h
    rw [h, leNat_leBytes, Nat.mod_eq_of_lt hn]

theorem u16OfLe_eq_iff {bs : Bytes} {v : UInt16} (h : bs.length = 2) :
    UInt16.ofNat (leNat bs) = v ↔ bs = u16ToLeBytes v := by
  have hlt : leNat bs < 2 ^ 16 := by
    simpa [h] using leNat_lt bs
  rw [← UInt16.toNat_inj, UInt16.toNat_ofNat_of_lt' hlt, leNat_eq_iff (by rw [h]; exact v.toNat_lt),
    h, u16ToLeBytes]

theorem u32OfLe_eq_iff {bs : Bytes} {v : UInt32} (h : bs.length = 4) :
    UInt32.ofNat (leNat bs) = v ↔ bs = u32ToLeBytes v := by
  have hlt : leNat bs < 2 ^ 32 := by
    simpa [h] using leNat_lt bs
  rw [← UInt32.toNat_inj, UInt32.toNat_ofNat_of_lt' hlt, leNat_eq_iff (by rw [h]; exact v.toNat_lt),
    h, u32ToLeBytes]

theorem u64OfLe_u64ToLeBytes (v : UInt64) : UInt64.ofNat (leNat (u64ToLeBytes v)) = v := by
  apply UInt64.toNat_inj.1
  have hv : v.toNat < 2 ^ 64 := v.toNat_lt
  have hread : leNat (u64ToLeBytes v) = v.toNat := by
    calc
      leNat (u64ToLeBytes v) = v.toNat % 256 ^ 8 := leNat_leBytes 8 v.toNat
      _ = v.toNat := Nat.mod_eq_of_lt hv
  rw [hread]
  exact UInt64.toNat_ofNat_of_lt' hv

theorem toNat_u16FromBeBytes (a b : UInt8) :
    (u16FromBeBytes a b).toNat = beNat [a, b] := by
  have h : beNat [a, b] < 2 ^ 16 := by simpa using beNat_lt [a, b]
  simpa [u16FromBeBytes] using h

theorem beNat_pair (a b : UInt8) : beNat [a, b] = a.toNat * 256 + b.toNat := by
  simp [beNat]
  omega

theorem toNat_u16FromBeBytes_add (a b : UInt8) :
    (u16FromBeBytes a b).toNat = a.toNat * 256 + b.toNat := by
  rw [toNat_u16FromBeBytes, beNat_pair]

/-- The two bytes of a `u16` are its quotient and remainder by 256. -/
theorem u16ToBeBytes_eq (v : UInt16) :
    u16ToBeBytes v = [UInt8.ofNat (v.toNat / 256), UInt8.ofNat v.toNat] := by
  simp [u16ToBeBytes, beBytes, leBytes]

theorem u16FromBeBytes_toBytes (v : UInt16) :
    u16FromBeBytes (UInt8.ofNat (v.toNat / 256)) (UInt8.ofNat v.toNat) = v := by
  apply UInt16.toNat_inj.1
  have hv : v.toNat < 65536 := v.toNat_lt
  rw [toNat_u16FromBeBytes_add]
  simp
  omega

theorem u16ToBeBytes_inj {v w : UInt16} (h : u16ToBeBytes v = u16ToBeBytes w) : v = w := by
  rw [u16ToBeBytes_eq, u16ToBeBytes_eq] at h
  rw [← u16FromBeBytes_toBytes v, ← u16FromBeBytes_toBytes w]
  simp only [List.cons.injEq] at h
  rw [h.1, h.2.1]

theorem u16ToBeBytes_fromBeBytes (a b : UInt8) :
    u16ToBeBytes (u16FromBeBytes a b) = [a, b] := by
  rw [u16ToBeBytes, toNat_u16FromBeBytes]
  exact beBytes_beNat [a, b]

theorem u32FromBeBytes_eq_iff {a b c d : UInt8} {v : UInt32} :
    u32FromBeBytes a b c d = v ↔ [a, b, c, d] = u32ToBeBytes v := by
  have hlt : beNat [a, b, c, d] < 2 ^ 32 := by
    simpa using beNat_lt [a, b, c, d]
  rw [u32FromBeBytes, ← UInt32.toNat_inj, UInt32.toNat_ofNat_of_lt' hlt]
  constructor
  · intro h
    rw [u32ToBeBytes, ← h]
    exact (beBytes_beNat [a, b, c, d]).symm
  · intro h
    rw [h, u32ToBeBytes, beNat_beBytes]
    exact Nat.mod_eq_of_lt v.toNat_lt

/-! ## Bits of a byte -/

/-- The top bit. -/
theorem and_0x80_eq_zero_iff (b : UInt8) : b &&& 0x80 = 0 ↔ b.toNat < 128 := by
  have hb : b.toNat < 256 := b.toNat_lt
  have hand : (b &&& 0x80).toNat = b.toNat / 128 % 2 * 128 := by
    have htwo := Nat.and_two_pow b.toNat 7
    rw [Nat.testBit_eq_decide_div_mod_eq] at htwo
    rw [UInt8.toNat_and]
    refine htwo.trans ?_
    rcases Nat.mod_two_eq_zero_or_one (b.toNat / 128) with h | h
    · simp [h]
    · simp [h]
  rw [← UInt8.toNat_inj, hand]
  change b.toNat / 128 % 2 * 128 = 0 ↔ _
  omega

theorem and_0x03 (b : UInt8) : b &&& 0x03 = UInt8.ofNat (b.toNat % 4) := by
  have h := Nat.and_two_pow_sub_one_eq_mod b.toNat 2
  apply UInt8.toNat_inj.1
  rw [UInt8.toNat_and, UInt8.toNat_ofNat']
  refine h.trans ?_
  omega

/-! ## Half bytes -/

theorem toNat_shiftRight_four (b : UInt8) : (b >>> 4).toNat = b.toNat / 16 := by
  simp [UInt8.toNat_shiftRight, Nat.shiftRight_eq_div_pow]

theorem toNat_and_fifteen (b : UInt8) : (b &&& 0x0f).toNat = b.toNat % 16 := by
  have h := Nat.and_two_pow_sub_one_eq_mod b.toNat 4
  simpa [UInt8.toNat_and] using h

/-- The byte with high half `hi` and low half `lo`. -/
def nibbles (hi lo : Nat) : UInt8 :=
  UInt8.ofNat (hi * 16 + lo)

theorem toNat_nibbles {hi lo : Nat} (hhi : hi < 16) (hlo : lo < 16) :
    (nibbles hi lo).toNat = hi * 16 + lo := by
  simp [nibbles]
  omega

theorem nibbles_toNat (b : UInt8) : nibbles (b.toNat / 16) (b.toNat % 16) = b := by
  apply UInt8.toNat_inj.1
  have hb : b.toNat < 256 := b.toNat_lt
  rw [toNat_nibbles (by omega) (by omega)]
  omega

end Bytes

end Lib
