/-
HrServer.ByteArray.Varint — the varint and zigzag functions of
`sylar/bytearray.cc`, value by value.

The encoder is driven by the value, the decoder by a shift counter that
ends beyond the word. `Exact` puts the two side by side for one value: the
writer appends one byte string, in its shortest form and within its local
buffer; the reader takes that string off whatever follows it; and a value
written anywhere is read back from there. `varint_exact` says so for every
value of the four types, the signed minimum included.
-/
import HrServer.ByteArray.RoundTrip

namespace HrServer

open Lib

namespace ByteArray

/-- After a write at the cursor and `setPosition` back to it, the unread data starts
with the bytes written. -/
theorem Written.rewind {ba ba' : ByteArray} {bs : List UInt8} (h : Inv ba)
    (spec : Written ba bs ba') :
    ∃ rest, setPosition ba.position ba' = .ok () (ba'.positioned ba.position)
      ∧ At (ba'.positioned ba.position) (bs ++ rest) := by
  have hcap : ba.position ≤ ba'.capacity := by
    have := h.position_le_capacity
    rw [spec.capacity_eq]
    omega
  obtain ⟨junk, -, hbytes⟩ := spec.bytes_eq
  have hpos : ba.position ≤ (ba.bytes ++ junk).length := by
    have := h.position_le_capacity
    rw [List.length_append, h.length_bytes]
    omega
  have hsize : (ba'.positioned ba.position).getReadSize
      = bs.length + (max ba.size (ba.position + bs.length) - ba.position - bs.length) := by
    simp only [positioned, getReadSize, spec.size_eq]
    omega
  have hdata : slice ba'.bytes ba.position (ba'.positioned ba.position).getReadSize
      = bs ++ slice ba'.bytes (ba.position + bs.length)
          (max ba.size (ba.position + bs.length) - ba.position - bs.length) := by
    have hwindow : slice ba'.bytes ba.position bs.length = bs := by
      rw [hbytes, slice_splice_self hpos]
    rw [hsize, slice_add, hwindow]
  exact ⟨_, setPosition_eq spec.inv hcap, spec.inv.positioned hcap, hdata⟩

/-- The writer `w` and the reader `r` of one value, over a local buffer of `room` bytes. -/
structure Exact {α : Type} (room : Nat) (w : (Nat → Nat → UInt8) → Op Unit) (r : Op α) (v : α)
    (bs : List UInt8) : Prop where
  length_pos : 1 ≤ bs.length
  length_le : bs.length ≤ room
  canonical : Canonical bs
  emits : ∀ fresh ba, w fresh ba = write fresh bs ba
  reads : ∀ ba rest, At ba (bs ++ rest) → r ba = .ok v (ba.advanced bs.length)
  reads_back : ∀ fresh ba, Inv ba → ∃ ba1 ba2, w fresh ba = .ok () ba1
    ∧ ba1.position = ba.position + bs.length ∧ setPosition ba.position ba1 = .ok () ba2
    ∧ r ba2 = .ok v (ba2.advanced bs.length)

/-- What is to be shown of one pair: what it writes, and that this is read. -/
theorem Exact.of_code {α : Type} {room n : Nat} {w : (Nat → Nat → UInt8) → Op Unit} {r : Op α}
    {v : α} (hn : n < 128 ^ (room + 1))
    (hw : ∀ fresh, w fresh = writeVarint fresh (room + 1) n)
    (hr : ∀ ba rest, At ba (varintBytes (room + 1) n ++ rest) →
      r ba = .ok v (ba.advanced (varintBytes (room + 1) n).length)) :
    Exact (room + 1) w r v (varintBytes (room + 1) n) := by
  obtain ⟨hcode, hne⟩ := varint_eq hn
  have hemits : ∀ fresh ba, w fresh ba = write fresh (varintBytes (room + 1) n) ba := by
    intro fresh ba
    rw [hw, writeVarint_eq fresh hn]
  refine
    { length_pos := List.length_pos_iff.mpr hne
      length_le := varint_length_le hcode
      canonical := (varint_canonical hcode).1
      emits := hemits
      reads := hr
      reads_back := ?_ }
  intro fresh ba h
  obtain ⟨ba1, hwrite, spec⟩ := write_spec fresh h (varintBytes (room + 1) n)
  obtain ⟨rest, hset, hat⟩ := spec.rewind h
  exact ⟨ba1, _, (hemits fresh ba).trans hwrite, spec.position_eq, hset, hr _ rest hat⟩

theorem exact_uint32 (v : UInt32) :
    Exact 5 (fun fresh => writeUint32 fresh v) readUint32 v (varintBytes 5 v.toNat) := by
  have hv := v.toNat_lt
  refine Exact.of_code (by omega) (fun _ => rfl) ?_
  intro ba rest h
  rw [(readUint32_at hv h).1, UInt32.ofNat_toNat]

theorem exact_uint64 (v : UInt64) :
    Exact 10 (fun fresh => writeUint64 fresh v) readUint64 v (varintBytes 10 v.toNat) := by
  have hv := v.toNat_lt
  refine Exact.of_code (by omega) (fun _ => rfl) ?_
  intro ba rest h
  rw [(readUint64_at hv h).1, UInt64.ofNat_toNat]

theorem exact_int32 (v : Int32) :
    Exact 5 (fun fresh => writeInt32 fresh v) readInt32 v
      (varintBytes 5 (encodeZigzag32 v).toNat) := by
  refine Exact.of_code (by have := (encodeZigzag32 v).toNat_lt; omega) (fun _ => rfl) ?_
  intro ba rest h
  have hread := (exact_uint32 (encodeZigzag32 v)).reads ba rest h
  rw [readInt32, bind_ok hread, decodeZigzag32_encode]
  rfl

theorem exact_int64 (v : Int64) :
    Exact 10 (fun fresh => writeInt64 fresh v) readInt64 v
      (varintBytes 10 (encodeZigzag64 v).toNat) := by
  refine Exact.of_code (by have := (encodeZigzag64 v).toNat_lt; omega) (fun _ => rfl) ?_
  intro ba rest h
  have hread := (exact_uint64 (encodeZigzag64 v)).reads ba rest h
  rw [readInt64, bind_ok hread, decodeZigzag64_encode]
  rfl

/-- Varint and zigzag coding is exact for every value. -/
theorem varint_exact :
    (∀ v : UInt32, ∃ bs, Exact 5 (fun fresh => writeUint32 fresh v) readUint32 v bs)
      ∧ (∀ v : UInt64, ∃ bs, Exact 10 (fun fresh => writeUint64 fresh v) readUint64 v bs)
      ∧ (∀ v : Int32, ∃ bs, Exact 5 (fun fresh => writeInt32 fresh v) readInt32 v bs)
      ∧ (∀ v : Int64, ∃ bs, Exact 10 (fun fresh => writeInt64 fresh v) readInt64 v bs) :=
  ⟨fun v => ⟨_, exact_uint32 v⟩, fun v => ⟨_, exact_uint64 v⟩, fun v => ⟨_, exact_int32 v⟩,
    fun v => ⟨_, exact_int64 v⟩⟩

/-- The two ends of the signed range take all five bytes. -/
example : varintBytes 5 (encodeZigzag32 (-2147483648)).toNat = [0xFF, 0xFF, 0xFF, 0xFF, 0x0F] := by
  decide

end ByteArray

end HrServer
