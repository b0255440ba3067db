/-
HrServer.ByteArray.CodecTheorems — the typed writers and readers as
encoders and decoders of byte strings.

`At ba cs` is an array whose unread data is `cs`. Each reader takes `At`
from the encoding of a value followed by `cs` to `cs`, and returns the
value; each writer appends the encoding. What an array looks like that
was only ever appended to is said in `HrServer.ByteArray.RoundTrip`.

The one exception is the payload of an empty string: `read` dereferences
`m_cur` before it looks at the length, so it needs a block under the cursor
although it reads nothing.
-/
import HrServer.Lib.Program
import HrServer.ByteArray.CoreTheorems
import HrServer.ByteArray.Codec

namespace HrServer

open Lib

namespace ByteArray

/-! ## Reading at the cursor -/

/-- A well-formed array whose unread data is `cs`. -/
def At (ba : ByteArray) (cs : List UInt8) : Prop :=
  Inv ba ∧ slice ba.bytes ba.position ba.getReadSize = cs

theorem At.length {ba : ByteArray} {cs : List UInt8} (h : At ba cs) :
    cs.length = ba.getReadSize := by
  have h1 := h.1.position_le
  have h2 := h.1.size_le
  rw [← h.2, length_slice]
  rw [h.1.length_bytes]
  unfold getReadSize
  omega

/-- Taking a prefix of the unread data, with a block under the cursor. -/
theorem At.read {ba : ByteArray} {bs rest : List UInt8} (h : At ba (bs ++ rest))
    (hp : ba.position < ba.capacity) :
    ByteArray.read bs.length ba = .ok bs (ba.advanced bs.length)
      ∧ At (ba.advanced bs.length) rest := by
  have hlen := h.length
  rw [List.length_append] at hlen
  have hfit : bs.length ≤ ba.getReadSize := by omega
  have hdata := h.2
  have hbs : slice ba.bytes ba.position bs.length = bs := by
    have := congrArg (List.take bs.length) hdata
    rwa [List.take_left', slice, List.take_take, Nat.min_eq_left hfit] at this
    rfl
  have hrest : slice ba.bytes (ba.position + bs.length) (ba.getReadSize - bs.length) = rest := by
    have := congrArg (List.drop bs.length) hdata
    rwa [List.drop_left', slice, List.drop_take, List.drop_drop] at this
    rfl
  refine ⟨by rw [read_eq h.1 hfit hp, hbs], h.1.advanced hfit, ?_⟩
  rw [← hrest]
  congr 1
  simp only [advanced, getReadSize]
  omega

/-- At least one byte of unread data means a block under the cursor. -/
theorem At.position_lt {ba : ByteArray} {cs : List UInt8} (h : At ba cs) (hne : cs ≠ []) :
    ba.position < ba.capacity := by
  have hlen := h.length
  have := List.length_pos_iff.mpr hne
  have := h.1.size_le
  unfold getReadSize at hlen
  omega

theorem advanced_advanced (ba : ByteArray) (m n : Nat) :
    (ba.advanced m).advanced n = ba.advanced (m + n) := by
  simp only [advanced, Nat.add_assoc]

@[simp] theorem advanced_endian (ba : ByteArray) (n : Nat) : (ba.advanced n).endian = ba.endian :=
  rfl

/-! ## Fixed-width integers -/

/-- The bytes of a `k`-byte integer in the order `e`. -/
def fixedBytes (e : Endian) (k n : Nat) : List UInt8 :=
  if e = byteOrder then toLe k n else (toLe k n).reverse

@[simp] theorem length_fixedBytes (e : Endian) (k n : Nat) : (fixedBytes e k n).length = k := by
  unfold fixedBytes
  split <;> simp

theorem writeFixed_eq (fresh : Nat → Nat → UInt8) (k n : Nat) (ba : ByteArray) :
    writeFixed fresh k n ba = write fresh (fixedBytes ba.endian k n) ba := by
  change write fresh (toLe k (if ba.endian ≠ byteOrder then byteSwap k n else n)) ba = _
  unfold fixedBytes
  by_cases he : ba.endian = byteOrder
  · rw [if_neg (not_not_intro he), if_pos he]
  · rw [if_pos he, if_neg he, toLe_byteSwap]

theorem readFixed_at {ba : ByteArray} {k n : Nat} {rest : List UInt8} (hk : 0 < k)
    (hn : n < 256 ^ k) (h : At ba (fixedBytes ba.endian k n ++ rest)) :
    readFixed k ba = .ok n (ba.advanced k) ∧ At (ba.advanced k) rest := by
  have hne : fixedBytes ba.endian k n ++ rest ≠ [] := by
    intro h0
    have := congrArg List.length h0
    simp at this
    omega
  obtain ⟨hr, hat⟩ := h.read (h.position_lt hne)
  rw [length_fixedBytes] at hr hat
  refine ⟨?_, hat⟩
  rw [readFixed, bind_ok hr]
  have hval : (if (ba.advanced k).endian = byteOrder then ofLe (fixedBytes ba.endian k n)
      else byteSwap k (ofLe (fixedBytes ba.endian k n))) = n := by
    unfold fixedBytes
    by_cases he : ba.endian = byteOrder
    · simp only [advanced_endian, if_pos he, ofLe_toLe k n hn]
    · simp only [advanced_endian, if_neg he]
      have := byteSwap_ofLe (toLe k n).reverse
      rw [List.length_reverse, length_toLe, List.reverse_reverse] at this
      rw [this, ofLe_toLe k n hn]
  change EStateM.Result.ok _ _ = _
  rw [hval]

theorem readFuint8_at {ba : ByteArray} {b : UInt8} {rest : List UInt8}
    (h : At ba (b :: rest)) :
    readFuint8 ba = .ok b (ba.advanced 1) ∧ At (ba.advanced 1) rest := by
  have hread := @At.read ba [b] rest h (h.position_lt (List.cons_ne_nil _ _))
  rw [List.length_singleton] at hread
  have hb : UInt8.ofNat (ofLe [b]) = b := by simp [ofLe]
  refine ⟨?_, hread.2⟩
  rw [readFuint8, bind_ok hread.1, hb]
  rfl

/-! ## Varints -/

/-- One group of seven bits laid above a value that ends below it. -/
theorem or_shiftLeft {result i g bits : Nat} (hr : result < 2 ^ i) (hg : g * 2 ^ i < 2 ^ bits) :
    result ||| (g <<< i) % 2 ^ bits = result + g * 2 ^ i := by
  rw [Nat.shiftLeft_eq, Nat.mod_eq_of_lt hg, Nat.or_comm, Nat.mul_comm g,
    ← Nat.two_pow_add_eq_or_of_lt hr, Nat.add_comm]

/-- The reading loop, started in the middle of a code: it adds what is left of
the value above the bits already read. -/
theorem readVarintLoop_at {bits room n : Nat} {bs rest : List UInt8} (passes i result : Nat)
    {ba : ByteArray} (hcode : varint room n = some bs) (hpasses : room ≤ passes) (hi : i < bits)
    (hr : result < 2 ^ i) (hfit : n * 2 ^ i < 2 ^ bits) (h : At ba (bs ++ rest)) :
    readVarintLoop bits passes i result ba = .ok (result + n * 2 ^ i) (ba.advanced bs.length)
      ∧ At (ba.advanced bs.length) rest := by
  induction room generalizing n bs passes i result ba with
  | zero => simp [varint] at hcode
  | succ room ih =>
    obtain ⟨passes, rfl⟩ : ∃ p, passes = p + 1 := ⟨passes - 1, by omega⟩
    unfold varint at hcode
    unfold readVarintLoop
    rw [if_pos hi]
    by_cases hn : n ≥ 0x80
    · -- a byte with the top bit set, and the code of `n / 128` behind it
      rw [if_pos hn] at hcode
      obtain ⟨tail, htail, rfl⟩ := Option.map_eq_some_iff.mp hcode
      obtain ⟨hb, hat⟩ := readFuint8_at h
      have hbyte : (UInt8.ofNat ((n &&& 0x7F) ||| 0x80)).toNat = n % 128 + 128 := by
        rw [or_0x80, UInt8.toNat_ofNat']; omega
      have hand : (n % 128 + 128) &&& 0x7F = n % 128 := by
        rw [Nat.and_two_pow_sub_one_eq_mod _ 7]; omega
      have hpow : 2 ^ (i + 7) = 128 * 2 ^ i := by rw [Nat.pow_add, Nat.mul_comm]
      have hsplit : n = n % 128 + 128 * (n / 128) := (Nat.mod_add_div n 128).symm
      have hsum : n * 2 ^ i = n % 128 * 2 ^ i + n / 128 * 2 ^ (i + 7) := by
        rw [hpow, ← Nat.mul_assoc, Nat.mul_comm (n / 128) 128, ← Nat.add_mul, ← hsplit]
      have hlow : n % 128 * 2 ^ i < 2 ^ bits := by omega
      have hlow' : n % 128 * 2 ^ i ≤ 127 * 2 ^ i := Nat.mul_le_mul_right _ (by omega)
      have hi' : i + 7 < bits := by
        apply (Nat.pow_lt_pow_iff_right (by decide : 1 < 2)).mp
        have : 128 * 2 ^ i ≤ n * 2 ^ i := Nat.mul_le_mul_right _ hn
        omega
      have hor := or_shiftLeft hr hlow
      rw [shiftRight_seven] at htail
      obtain ⟨hloop, hat'⟩ := ih passes (i + 7) (result + n % 128 * 2 ^ i) htail (by omega) hi'
        (by rw [hpow]; omega) (by omega) hat
      rw [advanced_advanced] at hloop hat'
      have hlen : (UInt8.ofNat ((n &&& 0x7F) ||| 0x80) :: tail).length = 1 + tail.length := by
        rw [List.length_cons, Nat.add_comm]
      refine ⟨?_, by rw [hlen]; exact hat'⟩
      rw [bind_ok hb]
      simp only [hbyte, hand, if_neg (show ¬ n % 128 + 128 < 0x80 by omega), hor, hloop, hlen]
      rw [Nat.add_assoc, ← hsum]
    · -- the last byte
      rw [if_neg hn] at hcode
      cases hcode
      obtain ⟨hb, hat⟩ := readFuint8_at h
      have hbyte : (UInt8.ofNat n).toNat = n := by rw [UInt8.toNat_ofNat']; omega
      refine ⟨?_, hat⟩
      rw [bind_ok hb]
      simp only [hbyte, if_pos (show n < 0x80 by omega), or_shiftLeft hr hfit]
      rfl

theorem readVarint_at {bits room n : Nat} {bs rest : List UInt8} {ba : ByteArray}
    (hcode : varint room n = some bs) (hroom : room ≤ bits) (hpos : 0 < bits)
    (hn : n < 2 ^ bits) (h : At ba (bs ++ rest)) :
    readVarint bits ba = .ok n (ba.advanced bs.length) ∧ At (ba.advanced bs.length) rest := by
  have := readVarintLoop_at bits 0 0 hcode hroom hpos (by simp) (by simpa using hn) h
  simpa [readVarint] using this

/-- The code that `writeUint32` and `writeUint64` store into `tmp[room]`. -/
def varintBytes (room n : Nat) : List UInt8 := (varint room n).getD []

theorem varint_eq {room n : Nat} (h : n < 128 ^ (room + 1)) :
    varint (room + 1) n = some (varintBytes (room + 1) n) ∧ varintBytes (room + 1) n ≠ [] := by
  obtain ⟨bs, hbs, hne⟩ := varint_isSome room n h
  rw [varintBytes, hbs]
  exact ⟨rfl, hne⟩

theorem writeVarint_eq (fresh : Nat → Nat → UInt8) {room n : Nat} (h : n < 128 ^ (room + 1))
    (ba : ByteArray) :
    writeVarint fresh (room + 1) n ba = write fresh (varintBytes (room + 1) n) ba := by
  rw [writeVarint, (varint_eq h).1]

/-! ## Zigzag -/

/-- The code of an `int32_t` is the zigzag of its bits. -/
theorem encodeZigzag32_eq (v : Int32) : encodeZigzag32 v = UInt32.ofBitVec (zigzag v.toBitVec) := by
  have hlt : (v < 0) ↔ v.toBitVec.msb = true := by
    rw [Int32.lt_iff_toBitVec_slt, BitVec.msb_eq_toInt]
    simp [BitVec.slt]
  unfold encodeZigzag32 zigzag
  by_cases hv : v < 0
  · rw [if_pos hv, if_pos (hlt.mp hv)]
    rfl
  · rw [if_neg hv, if_neg (fun hm => hv (hlt.mpr hm))]
    rfl

/-- The code of an `int64_t` is the zigzag of its bits. -/
theorem encodeZigzag64_eq (v : Int64) : encodeZigzag64 v = UInt64.ofBitVec (zigzag v.toBitVec) := by
  have hlt : (v < 0) ↔ v.toBitVec.msb = true := by
    rw [Int64.lt_iff_toBitVec_slt, BitVec.msb_eq_toInt]
    simp [BitVec.slt]
  unfold encodeZigzag64 zigzag
  by_cases hv : v < 0
  · rw [if_pos hv, if_pos (hlt.mp hv)]
    rfl
  · rw [if_neg hv, if_neg (fun hm => hv (hlt.mpr hm))]
    rfl

theorem decodeZigzag32_encode (v : Int32) : decodeZigzag32 (encodeZigzag32 v) = v := by
  have h := unzigzag_zigzag (by decide : 1 < 32) v.toBitVec
  rw [encodeZigzag32_eq]
  exact Int32.toBitVec_inj.mp h

theorem decodeZigzag64_encode (v : Int64) : decodeZigzag64 (encodeZigzag64 v) = v := by
  have h := unzigzag_zigzag (by decide : 1 < 64) v.toBitVec
  rw [encodeZigzag64_eq]
  exact Int64.toBitVec_inj.mp h

end ByteArray

end HrServer
