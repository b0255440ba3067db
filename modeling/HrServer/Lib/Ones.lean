/-
HrServer.Lib.Ones — how many bits of an integer are one.

`n &&& (n - 1)` is `n` without its lowest one bit (`ones_and_pred`). An
integer of `k` bytes has as many one bits as its bytes have together
(`ones_toLe`), so that their order does not matter (`onesOf_reverse`).
Counted from the first byte and from the top of each (`onesOf_eq_count`),
the first `n` bits being ones means `n` of them.
-/
import HrServer.Lib.Bits
import Mathlib.Data.Nat.Count

namespace HrServer.Lib

/-- The number of ones among the lowest `w` bits. -/
def ones (w n : Nat) : Nat := Nat.count (fun i => n.testBit i = true) w

theorem count_congr {p q : Nat → Prop} [DecidablePred p] [DecidablePred q] {w : Nat}
    (h : ∀ i < w, p i ↔ q i) : Nat.count p w = Nat.count q w := by
  refine Nat.le_antisymm ?_ ?_
  · exact Nat.count_mono_left fun i hi => (h i hi).mp
  · exact Nat.count_mono_left fun i hi => (h i hi).mpr

/-- Counted downwards. -/
theorem count_reflect (p : Nat → Prop) [DecidablePred p] (w : Nat) :
    Nat.count (fun i => p (w - i)) (w + 1) = Nat.count p (w + 1) := by
  induction w with
  | zero => simp [Nat.count_succ]
  | succ w ih =>
    rw [Nat.count_succ', Nat.count_succ p (w + 1), ← ih, Nat.sub_zero]
    simp only [Nat.add_sub_add_right]

theorem ones_le (w n : Nat) : ones w n ≤ w := Nat.count_le _

theorem ones_succ (w n : Nat) : ones (w + 1) n = ones w (n / 2) + n % 2 := by
  have hlow : (if n.testBit 0 = true then 1 else 0) = n % 2 := by
    simp only [Nat.testBit_zero, decide_eq_true_eq]
    split <;> omega
  rw [ones, Nat.count_succ', hlow, ones]
  simp only [Nat.testBit_succ]

theorem ones_add (a b n : Nat) : ones (a + b) n = ones a n + ones b (n / 2 ^ a) := by
  rw [ones, Nat.count_add, ones, ones]
  simp only [Nat.testBit_div_two_pow, Nat.add_comm a]

theorem ones_mod (w n : Nat) : ones w (n % 2 ^ w) = ones w n := by
  refine count_congr fun i hi => ?_
  rw [Nat.testBit_mod_two_pow, decide_eq_true hi, Bool.true_and]

/-- Clearing the lowest one bit takes one away. The borrow of the subtraction goes through the
zeros below that bit, one to an induction step. -/
theorem ones_and_pred {w n : Nat} (hpos : 0 < n) (hn : n < 2 ^ w) :
    ones w (n &&& (n - 1)) + 1 = ones w n := by
  induction w generalizing n with
  | zero => omega
  | succ w ih =>
    rw [ones_succ, ones_succ, Nat.and_div_two]
    have hmod : (n &&& (n - 1)) % 2 = 0 := by
      have hand := @Nat.and_mod_two_pow n (n - 1) 1
      rw [Nat.pow_one] at hand
      rcases Nat.mod_two_eq_zero_or_one n with h0 | h1
      · rw [hand, h0, Nat.zero_and]
      · have hpred : (n - 1) % 2 = 0 := by omega
        rw [hand, hpred, Nat.and_zero]
    rw [hmod]
    rcases Nat.mod_two_eq_zero_or_one n with h0 | h1
    · have hhalf : (n - 1) / 2 = n / 2 - 1 := by omega
      rw [hhalf, h0]
      exact ih (by omega) (by omega)
    · have hhalf : (n - 1) / 2 = n / 2 := by omega
      rw [hhalf, Nat.and_self, h1]

/-! ## Bytes -/

/-- The number of ones in the bytes. -/
def onesOf (bytes : List UInt8) : Nat := (bytes.map fun b => ones 8 b.toNat).sum

theorem onesOf_cons (b : UInt8) (bytes : List UInt8) :
    onesOf (b :: bytes) = ones 8 b.toNat + onesOf bytes := by
  rw [onesOf, List.map_cons, List.sum_cons, onesOf]

theorem onesOf_reverse (bytes : List UInt8) : onesOf bytes.reverse = onesOf bytes := by
  rw [onesOf, List.map_reverse, List.sum_reverse, onesOf]

theorem ones_toLe (k n : Nat) : ones (8 * k) n = onesOf (toLe k n) := by
  induction k generalizing n with
  | zero => rfl
  | succ k ih =>
    have hbyte : (UInt8.ofNat (n % 256)).toNat = n % 2 ^ 8 := by
      rw [UInt8.toNat_ofNat']
      omega
    rw [Nat.mul_succ, Nat.add_comm, ones_add, ih, toLe, onesOf_cons, hbyte, ones_mod]
    rfl

theorem onesOf_eq_count (bytes : List UInt8) :
    onesOf bytes = Nat.count (fun i => bit bytes i = true) (8 * bytes.length) := by
  induction bytes with
  | nil => rfl
  | cons b bytes ih =>
    have hfirst : Nat.count (fun i => bit (b :: bytes) i = true) 8 = ones 8 b.toNat := by
      rw [ones, ← count_reflect (fun i => b.toNat.testBit i = true) 7]
      refine count_congr fun i hi => ?_
      rw [bit, Nat.div_eq_of_lt hi, Nat.mod_eq_of_lt hi, List.getD_cons_zero]
    have hrest : ∀ i, bit (b :: bytes) (8 + i) = bit bytes i := by
      intro i
      rw [bit, Nat.add_div_left i (by decide), Nat.add_mod_left, List.getD_cons_succ, bit]
    rw [List.length_cons, Nat.mul_succ, Nat.add_comm, Nat.count_add, hfirst]
    simp only [hrest]
    rw [← ih, onesOf_cons]

/-- The first `n` bits are ones, the others zeros. -/
def FirstOnes (n : Nat) (bytes : List UInt8) : Prop :=
  n ≤ 8 * bytes.length ∧ ∀ i < 8 * bytes.length, bit bytes i = decide (i < n)

theorem FirstOnes.onesOf_eq {n : Nat} {bytes : List UInt8} (h : FirstOnes n bytes) :
    onesOf bytes = n := by
  obtain ⟨rest, hrest⟩ := Nat.exists_eq_add_of_le h.1
  have hcount : onesOf bytes = Nat.count (fun i => i < n) (n + rest) := by
    rw [onesOf_eq_count, ← hrest]
    exact count_congr fun i hi => by rw [h.2 i hi, decide_eq_true_eq]
  have hno : Nat.count (fun i => n + i < n) rest = 0 :=
    Nat.count_of_forall_not fun i _ => by omega
  rw [hcount, Nat.count_add, Nat.count_of_forall fun i hi => hi, hno, Nat.add_zero]

end HrServer.Lib
