/-
HrServer.ByteArray.Zigzag — the signed arithmetic of the zigzag encoders of
`sylar/bytearray.cc`.

`HrServer.ByteArray.Codec` lets signed arithmetic wrap around, and the codes
come out right. In C++ only the product and the difference behind the
conversion to an unsigned type may wrap: the negation of a negative value
and the double of a value from 0 on are computed in the signed type. The
encoders here check these two; where they are defined they give the same
codes (`encodeZigzag_eq`). The negation is undefined for the minimum, and
the double for the upper half of the values from 0 on.
-/
import HrServer.ByteArray.CodecTheorems
import HrServer.Lib.Checked

namespace HrServer

open Lib Lib.Checked

namespace ByteArray.Strict

/-! ## The encoders -/

/-- The code of a value of a signed type of `w` bits. -/
def encodeZigzag (w : Nat) (v : Int) : Except Checked.Fault (BitVec w) :=
  if v < 0 then do
    signed w (-v)
    return BitVec.ofInt w (-v) * 2 - 1
  else do
    signed w (v * 2)
    return BitVec.ofInt w (v * 2)

/-- `EncodeZigzag32`. -/
def encodeZigzag32 (v : Int32) : Except Checked.Fault UInt32 :=
  (encodeZigzag 32 v.toInt).map UInt32.ofBitVec

/-- `EncodeZigzag64`. -/
def encodeZigzag64 (v : Int64) : Except Checked.Fault UInt64 :=
  (encodeZigzag 64 v.toInt).map UInt64.ofBitVec

/-- `writeInt32`: the code is computed before anything is written. -/
def writeInt32 (fresh : Nat → Nat → UInt8) (value : Int32) : Except Checked.Fault (Op Unit) :=
  (encodeZigzag32 value).map (writeUint32 fresh)

/-- `writeInt64`. -/
def writeInt64 (fresh : Nat → Nat → UInt8) (value : Int64) : Except Checked.Fault (Op Unit) :=
  (encodeZigzag64 value).map (writeUint64 fresh)

/-! ## Where they are defined -/

/-- The values with a defined code: not the minimum, and below a half of the maximum. -/
def Encodable (w : Nat) (v : Int) : Prop := -2 ^ (w - 1) < v ∧ v < 2 ^ (w - 2)

/-- The code, where it is defined, is the one of the arithmetic that wraps around. -/
theorem encodeZigzag_eq {w : Nat} (hw : 2 ≤ w) {x : BitVec w} (h : Encodable w x.toInt) :
    encodeZigzag w x.toInt = .ok (zigzag x) := by
  have hhalf : (2 : Int) ^ (w - 1) = 2 * 2 ^ (w - 2) := by
    rw [← Int.pow_succ']
    congr 1
    omega
  obtain ⟨hlow, hhigh⟩ := h
  rw [encodeZigzag, zigzag, BitVec.msb_eq_toInt]
  by_cases hneg : x.toInt < 0
  · have hfits : Fits w (-x.toInt) := ⟨by omega, by omega⟩
    rw [if_pos hneg, signed_bind hfits, if_pos (by simpa using hneg), BitVec.ofInt_neg,
      BitVec.ofInt_toInt]
    rfl
  · have hfits : Fits w (x.toInt * 2) := ⟨by omega, by omega⟩
    rw [if_neg hneg, signed_bind hfits, if_neg (by simpa using hneg), BitVec.ofInt_mul,
      BitVec.ofInt_toInt]
    rfl

/-- One operation decides in each branch. -/
theorem encodeZigzag_defined_iff {w : Nat} (hw : 2 ≤ w) {v : Int} (hv : Fits w v) :
    Defined (encodeZigzag w v) ↔ Encodable w v := by
  have hhalf : (2 : Int) ^ (w - 1) = 2 * 2 ^ (w - 2) := by
    rw [← Int.pow_succ']
    congr 1
    omega
  obtain ⟨hlow, hhigh⟩ := hv
  unfold encodeZigzag
  split
  · rw [defined_bind_pure_iff, defined_signed_iff, Fits, Encodable]
    omega
  · rw [defined_bind_pure_iff, defined_signed_iff, Fits, Encodable]
    omega

/-! ## The members -/

/-- Every signed result that `EncodeZigzag32(v)` computes is in range, and `writeInt32(v)` does
what it does with arithmetic that wraps around. -/
structure Defined32 (v : Int32) : Prop where
  encode : Defined (encodeZigzag32 v)
  write : ∀ fresh, writeInt32 fresh v = .ok (ByteArray.writeInt32 fresh v)

/-- The same for `EncodeZigzag64(v)` and `writeInt64(v)`. -/
structure Defined64 (v : Int64) : Prop where
  encode : Defined (encodeZigzag64 v)
  write : ∀ fresh, writeInt64 fresh v = .ok (ByteArray.writeInt64 fresh v)

theorem encodable_of_defined32 {v : Int32} (h : Defined32 v) : Encodable 32 v.toInt := by
  have hfits : Fits 32 v.toInt := ⟨v.le_toInt, v.toInt_lt⟩
  exact (encodeZigzag_defined_iff (by decide) hfits).mp h.encode.of_map

theorem encodable_of_defined64 {v : Int64} (h : Defined64 v) : Encodable 64 v.toInt := by
  have hfits : Fits 64 v.toInt := ⟨v.le_toInt, v.toInt_lt⟩
  exact (encodeZigzag_defined_iff (by decide) hfits).mp h.encode.of_map

theorem defined32_of_encodable {v : Int32} (h : Encodable 32 v.toInt) : Defined32 v := by
  have hcode : encodeZigzag32 v = .ok (ByteArray.encodeZigzag32 v) := by
    rw [encodeZigzag32_eq]
    exact map_of_ok (encodeZigzag_eq (x := v.toBitVec) (by decide) h) UInt32.ofBitVec
  exact ⟨⟨_, hcode⟩, fun fresh => map_of_ok hcode (writeUint32 fresh)⟩

theorem defined64_of_encodable {v : Int64} (h : Encodable 64 v.toInt) : Defined64 v := by
  have hcode : encodeZigzag64 v = .ok (ByteArray.encodeZigzag64 v) := by
    rw [encodeZigzag64_eq]
    exact map_of_ok (encodeZigzag_eq (x := v.toBitVec) (by decide) h) UInt64.ofBitVec
  exact ⟨⟨_, hcode⟩, fun fresh => map_of_ok hcode (writeUint64 fresh)⟩

/-- The encoders compute in range for the values that are not the minimum and lie below a half
of the range from 0 on. -/
theorem zigzag_defined_iff (v : Int32) (u : Int64) :
    (Defined32 v ↔ -2147483648 < v.toInt ∧ v.toInt < 1073741824) ∧
      (Defined64 u ↔ -9223372036854775808 < u.toInt ∧ u.toInt < 4611686018427387904) :=
  ⟨⟨encodable_of_defined32, defined32_of_encodable⟩,
    ⟨encodable_of_defined64, defined64_of_encodable⟩⟩

/-- The double of 2^30 is not an `int`, and the minimum has no negation. -/
theorem zigzag_overflows : ¬ Defined32 1073741824 ∧ ¬ Defined32 (-2147483648)
    ∧ ¬ Defined64 4611686018427387904 ∧ ¬ Defined64 (-9223372036854775808) :=
  ⟨fun h => absurd (encodable_of_defined32 h).2 (by decide),
    fun h => absurd (encodable_of_defined32 h).1 (by decide),
    fun h => absurd (encodable_of_defined64 h).2 (by decide),
    fun h => absurd (encodable_of_defined64 h).1 (by decide)⟩

end ByteArray.Strict

end HrServer
