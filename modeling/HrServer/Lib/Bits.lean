/-
HrServer.Lib.Bits — the bits of a byte string, first byte and high bit
first, which is the order of a network address.
-/
import HrServer.Lib.Numerals

namespace HrServer.Lib

/-- Bit `i` of a byte string. -/
def bit (bytes : List UInt8) (i : Nat) : Bool := (bytes.getD (i / 8) 0).toNat.testBit (7 - i % 8)

theorem testBit_toLe {k j b : Nat} (n : Nat) (hj : j < k) (hb : b < 8) :
    ((toLe k n).getD j 0).toNat.testBit b = n.testBit (8 * j + b) := by
  induction k generalizing n j with
  | zero => omega
  | succ k ih =>
    rw [toLe]
    cases j with
    | zero =>
      have hlow : (UInt8.ofNat (n % 256)).toNat = n % 2 ^ 8 := by
        rw [UInt8.toNat_ofNat']
        omega
      rw [List.getD_cons_zero, hlow, Nat.testBit_mod_two_pow]
      simp [hb]
    | succ j =>
      rw [List.getD_cons_succ, ih (n / 256) (by omega), show 256 = 2 ^ 8 by rfl,
        Nat.testBit_div_two_pow]
      congr 1
      omega

/-- The bits of a little-endian image: the bytes in order, the bits of each from the top. -/
theorem bit_toLe {k i : Nat} (n : Nat) (hi : i < 8 * k) :
    bit (toLe k n) i = n.testBit (8 * (i / 8) + (7 - i % 8)) :=
  testBit_toLe n (by omega) (by omega)

/-- The bits of a big-endian image are those of the integer, from the top. -/
theorem bit_reverse_toLe {k i : Nat} (n : Nat) (hi : i < 8 * k) :
    bit (toLe k n).reverse i = n.testBit (8 * k - 1 - i) := by
  have hlen : i / 8 < (toLe k n).length := by
    rw [length_toLe]
    omega
  have hget : (toLe k n).reverse.getD (i / 8) 0 = (toLe k n).getD (k - 1 - i / 8) 0 := by
    rw [List.getD_eq_getElem?_getD, List.getElem?_reverse hlen, length_toLe,
      List.getD_eq_getElem?_getD]
  rw [bit, hget, testBit_toLe n (by omega) (by omega)]
  congr 1
  omega

/-- Two integers of `k` bytes with the same bits are equal. -/
theorem eq_zero_of_bits {k n : Nat} (hn : n < 256 ^ k) (h : ∀ i < 8 * k, bit (toLe k n) i = false) :
    n = 0 := by
  refine Nat.eq_of_testBit_eq fun j => ?_
  rw [Nat.zero_testBit]
  by_cases hj : j < 8 * k
  · have hbit := h (8 * (j / 8) + (7 - j % 8)) (by omega)
    rw [bit_toLe n (by omega)] at hbit
    rw [← hbit]
    congr 1
    omega
  · have hpow : n < 2 ^ j := by
      have h256 : 256 ^ k = 2 ^ (8 * k) := by rw [Nat.pow_mul]
      exact Nat.lt_of_lt_of_le (h256 ▸ hn) (Nat.pow_le_pow_right (by decide) (by omega))
    exact Nat.testBit_lt_two_pow hpow

end HrServer.Lib
