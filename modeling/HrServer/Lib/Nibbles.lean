/-
HrServer.Lib.Nibbles — a byte as its two halves.

Encoders write the halves of a byte one after the other, decoders put them
together again. `forall_byte` reduces a statement about all bytes to the
256 cases, `forall_nibble` one about halves to the 16, for `decide`.
-/
import Mathlib.Data.List.Basic

namespace HrServer.Lib.Nibbles

theorem forall_byte {P : UInt8 → Prop} (h : ∀ n : Fin 256, P (UInt8.ofNat n)) (c : UInt8) :
    P c := by
  simpa using h ⟨c.toNat, c.toNat_lt⟩

theorem forall_nibble {P : UInt8 → Prop} (h : ∀ n : Fin 16, P (UInt8.ofNat n)) {c : UInt8}
    (hc : c.toNat < 16) : P c := by
  simpa using h ⟨c.toNat, hc⟩

theorem high_lt (c : UInt8) : (c >>> 4).toNat < 16 := by
  have hc := c.toNat_lt
  simp only [UInt8.toNat_shiftRight, Nat.shiftRight_eq_div_pow]
  simp
  omega

theorem low_lt (c : UInt8) : (c &&& 0xf).toNat < 16 := by
  simp only [UInt8.toNat_and]
  exact Nat.lt_of_le_of_lt Nat.and_le_right (by decide)

/-- A byte is its two halves. -/
theorem high_or_low (c : UInt8) : (c >>> 4) <<< 4 ||| (c &&& 0xf) = c :=
  forall_byte (P := fun c => (c >>> 4) <<< 4 ||| (c &&& 0xf) = c) (by decide +kernel) c

/-- The halves of a byte that was put together. -/
theorem halves_of_or {hi lo : UInt8} (hhi : hi.toNat < 16) (hlo : lo.toNat < 16) :
    (hi <<< 4 ||| lo) >>> 4 = hi ∧ (hi <<< 4 ||| lo) &&& 0xf = lo := by
  have hall : ∀ n m : Fin 16,
      (UInt8.ofNat n <<< 4 ||| UInt8.ofNat m) >>> 4 = UInt8.ofNat n
        ∧ (UInt8.ofNat n <<< 4 ||| UInt8.ofNat m) &&& 0xf = UInt8.ofNat m := by
    decide +kernel
  simpa using hall ⟨hi.toNat, hhi⟩ ⟨lo.toNat, hlo⟩

end HrServer.Lib.Nibbles
