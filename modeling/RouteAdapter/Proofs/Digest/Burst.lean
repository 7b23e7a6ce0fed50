import Mathlib.Data.Nat.Bitwise
import RouteAdapter.Digest.Crc32

/-!
# Bursts and the checksum

The shift of the register is linear in exclusive or, and a register below `2 ^ 31` has not been
through the feedback: it is half of the one before it. So the difference of two registers that
later meet was small, and it grows by a byte for each byte of input that is needed to remove it.

* `crcShift_xor`, `toNat_of_crcShift_lt`: one shift;
* `difference_lt`: what two runs that meet differed by when they began;
* `crc32_window`: two windows of at most four bytes between the same bytes have different checksums.
-/

namespace RouteAdapter.Digest

/-! ## Shifts -/

theorem low_bit_eq_zero (c : UInt32) : c &&& 1 = 0 ↔ c.toNat % 2 = 0 := by
  rw [← UInt32.toNat_inj, UInt32.toNat_and]
  exact Nat.and_one_is_mod c.toNat ▸ Iff.rfl

theorem crcShift_even {c : UInt32} (even : c.toNat % 2 = 0) : crcShift c = c >>> 1 :=
  if_pos ((low_bit_eq_zero c).mpr even)

theorem crcShift_odd {c : UInt32} (odd : c.toNat % 2 = 1) :
    crcShift c = (c >>> 1) ^^^ 0xEDB88320 :=
  if_neg fun zero => by
    have even := (low_bit_eq_zero c).mp zero
    omega

theorem toNat_half (c : UInt32) : (c >>> 1).toNat = c.toNat / 2 := by
  rw [UInt32.toNat_shiftRight]
  exact Nat.shiftRight_one c.toNat

theorem crcShift_xor (a b : UInt32) : crcShift (a ^^^ b) = crcShift a ^^^ crcShift b := by
  have parity : (a ^^^ b).toNat % 2 = (a.toNat + b.toNat) % 2 := by
    rw [UInt32.toNat_xor, Nat.xor_mod_two_eq]
  obtain evenA | oddA := Nat.mod_two_eq_zero_or_one a.toNat <;>
    obtain evenB | oddB := Nat.mod_two_eq_zero_or_one b.toNat
  · rw [crcShift_even (by omega), crcShift_even evenA, crcShift_even evenB, UInt32.shiftRight_xor]
  · rw [crcShift_odd (by omega), crcShift_even evenA, crcShift_odd oddB, UInt32.shiftRight_xor,
      UInt32.xor_assoc]
  · rw [crcShift_odd (by omega), crcShift_odd oddA, crcShift_even evenB, UInt32.shiftRight_xor]
    ac_rfl
  · -- The two feedbacks cancel.
    have cancel (p q k : UInt32) : p ^^^ q = (p ^^^ k) ^^^ (q ^^^ k) := by
      rw [UInt32.xor_comm q k, ← UInt32.xor_assoc, UInt32.xor_assoc p k k, UInt32.xor_self,
        UInt32.xor_zero]
    rw [crcShift_even (by omega), crcShift_odd oddA, crcShift_odd oddB, UInt32.shiftRight_xor]
    exact cancel _ _ _

/-- The polynomial has the highest bit set, and a shift has cleared it. -/
theorem le_crcShift_odd {c : UInt32} (odd : c.toNat % 2 = 1) : 2 ^ 31 ≤ (crcShift c).toNat := by
  have halved : (c >>> 1).toNat < 2 ^ 31 := by
    have bound := c.toNat_lt
    rw [toNat_half]
    omega
  apply Nat.ge_two_pow_of_testBit
  rw [crcShift_odd odd, UInt32.toNat_xor, Nat.testBit_xor, Nat.testBit_lt_two_pow halved]
  rfl

theorem toNat_of_crcShift_lt {c : UInt32} (small : (crcShift c).toNat < 2 ^ 31) :
    c.toNat = 2 * (crcShift c).toNat := by
  obtain even | odd := Nat.mod_two_eq_zero_or_one c.toNat
  · rw [crcShift_even even, toNat_half]
    omega
  · exact absurd (le_crcShift_odd odd) (Nat.not_le.mpr small)

theorem shifts_xor (n : Nat) (a b : UInt32) :
    Nat.repeat crcShift n (a ^^^ b) = Nat.repeat crcShift n a ^^^ Nat.repeat crcShift n b := by
  induction n with
  | zero => rfl
  | succ n ih => simp only [Nat.repeat, ih, crcShift_xor]

theorem toNat_of_shifts_lt {n : Nat} (few : n ≤ 32) {c : UInt32}
    (small : (Nat.repeat crcShift n c).toNat < 2 ^ (32 - n)) :
    c.toNat = 2 ^ n * (Nat.repeat crcShift n c).toNat := by
  induction n with
  | zero => exact (Nat.one_mul _).symm
  | succ n ih =>
      have room : 2 ^ (32 - n) = 2 * 2 ^ (32 - (n + 1)) := by
        rw [← Nat.pow_succ']
        congr 1
        omega
      have below : 2 ^ (32 - (n + 1)) ≤ 2 ^ 31 := Nat.pow_le_pow_right (by omega) (by omega)
      have last : (Nat.repeat crcShift n c).toNat = 2 * (Nat.repeat crcShift (n + 1) c).toNat :=
        toNat_of_crcShift_lt (Nat.lt_of_lt_of_le small below)
      rw [ih (by omega) (by omega), last, Nat.pow_succ, Nat.mul_assoc]

/-! ## Bytes -/

theorem crcByte_xor (c c' : UInt32) (b b' : UInt8) :
    crcByte c b ^^^ crcByte c' b' =
      Nat.repeat crcShift 8 ((c ^^^ c') ^^^ (b ^^^ b').toUInt32) := by
  rw [crcByte, crcByte, ← shifts_xor, UInt8.toUInt32_xor]
  congr 1
  ac_rfl

theorem toNat_of_crcByte_lt {c c' : UInt32} {b b' : UInt8}
    (small : (crcByte c b ^^^ crcByte c' b').toNat < 2 ^ 24) :
    ((c ^^^ c') ^^^ (b ^^^ b').toUInt32).toNat = 2 ^ 8 * (crcByte c b ^^^ crcByte c' b').toNat := by
  rw [crcByte_xor] at small ⊢
  exact toNat_of_shifts_lt (by omega) small

theorem crcByte_injective {c c' : UInt32} {b : UInt8} (same : crcByte c b = crcByte c' b) :
    c = c' := by
  have met : crcByte c b ^^^ crcByte c' b = 0 := UInt32.xor_eq_zero_iff.mpr same
  have small : (crcByte c b ^^^ crcByte c' b).toNat < 2 ^ 24 := by
    rw [met]
    decide
  have back := toNat_of_crcByte_lt small
  rw [met, UInt8.xor_self] at back
  have zero : (c ^^^ c') ^^^ 0 = 0 := UInt32.toNat_inj.mp back
  rwa [UInt32.xor_zero, UInt32.xor_eq_zero_iff] at zero

/-! ## Runs -/

theorem foldl_crcByte_injective {bytes : List UInt8} {c c' : UInt32}
    (same : bytes.foldl crcByte c = bytes.foldl crcByte c') : c = c' := by
  induction bytes generalizing c c' with
  | nil => exact same
  | cons b bytes ih => exact crcByte_injective (ih same)

/-- Each byte of input removes at most a byte of the difference. -/
theorem difference_lt {window window' : List UInt8} (length : window.length = window'.length)
    (short : window.length ≤ 4) {c c' : UInt32}
    (meet : window.foldl crcByte c = window'.foldl crcByte c') :
    (c ^^^ c').toNat < 2 ^ (8 * window.length) := by
  induction window generalizing window' c c' with
  | nil =>
      cases List.length_eq_zero_iff.mp length.symm
      cases meet
      rw [UInt32.xor_self]
      decide
  | cons b window ih =>
      obtain _ | ⟨b', window'⟩ := window'
      · cases length
      simp only [List.length_cons, Nat.add_right_cancel_iff] at length short ⊢
      have after : (crcByte c b ^^^ crcByte c' b').toNat < 2 ^ (8 * window.length) :=
        ih length (by omega) meet
      have room : 2 ^ (8 * window.length) ≤ 2 ^ 24 := Nat.pow_le_pow_right (by omega) (by omega)
      have before := toNat_of_crcByte_lt (Nat.lt_of_lt_of_le after room)
      have split : c ^^^ c' = ((c ^^^ c') ^^^ (b ^^^ b').toUInt32) ^^^ (b ^^^ b').toUInt32 := by
        rw [UInt32.xor_assoc, UInt32.xor_self, UInt32.xor_zero]
      have next : 2 ^ (8 * (window.length + 1)) = 2 ^ 8 * 2 ^ (8 * window.length) := by
        rw [← Nat.pow_add]
        congr 1
        omega
      rw [split, UInt32.toNat_xor]
      apply Nat.xor_lt_two_pow
      · rw [before, next]
        omega
      · have byte := (b ^^^ b').toNat_lt
        have positive := Nat.two_pow_pos (8 * window.length)
        rw [UInt8.toNat_toUInt32, next]
        omega

theorem window_eq_of_foldl_eq {window window' : List UInt8}
    (length : window.length = window'.length) (short : window.length ≤ 4) {c : UInt32}
    (meet : window.foldl crcByte c = window'.foldl crcByte c) : window = window' := by
  induction window generalizing window' c with
  | nil => exact (List.length_eq_zero_iff.mp length.symm).symm
  | cons b window ih =>
      obtain _ | ⟨b', window'⟩ := window'
      · cases length
      simp only [List.length_cons, Nat.add_right_cancel_iff] at length short
      have after := difference_lt length (by omega) meet
      have room : 2 ^ (8 * window.length) ≤ 2 ^ 24 := Nat.pow_le_pow_right (by omega) (by omega)
      have before := toNat_of_crcByte_lt (Nat.lt_of_lt_of_le after room)
      -- The difference of two bytes is below 256 and a multiple of 256.
      rw [UInt32.xor_self, UInt32.zero_xor, UInt8.toNat_toUInt32] at before
      have byte := (b ^^^ b').toNat_lt
      have none : (b ^^^ b').toNat = 0 := by omega
      obtain rfl : b = b' := UInt8.xor_eq_zero_iff.mp (UInt8.toNat_inj.mp none)
      rw [ih length (by omega) meet]

theorem crc32_window {front window window' back : List UInt8}
    (length : window.length = window'.length) (short : window.length ≤ 4)
    (same : crc32 (front ++ window ++ back) = crc32 (front ++ window' ++ back)) :
    window = window' := by
  have registers := (UInt32.xor_left_inj _).mp same
  simp only [List.foldl_append] at registers
  exact window_eq_of_foldl_eq length short (foldl_crcByte_injective registers)

end RouteAdapter.Digest
