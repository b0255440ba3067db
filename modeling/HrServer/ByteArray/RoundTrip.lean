/-
HrServer.ByteArray.RoundTrip — writing a list of typed values and reading
it back.

A `Value` is a value tagged with the writer it goes through, a `Kind` the
tag alone. `roundTrip` is the program that is run: choose a byte
order, write every value, go back to position 0, read with the matching
readers.

`roundTrips_iff` says exactly when it gives the list back. It does unless
the list ends in an empty string and the total encoding fills whole
blocks: then the payload of that string is read with `m_cur` null, and the
reader crashes (`roundTrip_empty_string_crashes`).
-/
import HrServer.ByteArray.CodecTheorems

namespace HrServer

open Lib

namespace ByteArray

/-- A value and the writer it is written with. Floats are bit patterns. -/
inductive Value where
  | fint8 (v : Int8)
  | fuint8 (v : UInt8)
  | fint16 (v : Int16)
  | fuint16 (v : UInt16)
  | fint32 (v : Int32)
  | fuint32 (v : UInt32)
  | fint64 (v : Int64)
  | fuint64 (v : UInt64)
  | int32 (v : Int32)
  | uint32 (v : UInt32)
  | int64 (v : Int64)
  | uint64 (v : UInt64)
  | float (v : UInt32)
  | double (v : UInt64)
  | stringF16 (s : List UInt8)
  | stringF32 (s : List UInt8)
  | stringF64 (s : List UInt8)
  | stringVint (s : List UInt8)
  deriving DecidableEq

/-- The reader a value is read with. -/
inductive Kind where
  | fint8 | fuint8 | fint16 | fuint16 | fint32 | fuint32 | fint64 | fuint64
  | int32 | uint32 | int64 | uint64 | float | double
  | stringF16 | stringF32 | stringF64 | stringVint

namespace Value

def kind : Value → Kind
  | fint8 _ => .fint8
  | fuint8 _ => .fuint8
  | fint16 _ => .fint16
  | fuint16 _ => .fuint16
  | fint32 _ => .fint32
  | fuint32 _ => .fuint32
  | fint64 _ => .fint64
  | fuint64 _ => .fuint64
  | int32 _ => .int32
  | uint32 _ => .uint32
  | int64 _ => .int64
  | uint64 _ => .uint64
  | float _ => .float
  | double _ => .double
  | stringF16 _ => .stringF16
  | stringF32 _ => .stringF32
  | stringF64 _ => .stringF64
  | stringVint _ => .stringVint

/-- The lengths the writers can record. `std::string::size` is a `size_t`, so a
string handed to the last two is shorter than `2 ^ 64`. -/
def Fits : Value → Prop
  | stringF16 s => s.length < 2 ^ 16
  | stringF32 s => s.length < 2 ^ 32
  | stringF64 s => s.length < 2 ^ 64
  | stringVint s => s.length < 2 ^ 64
  | _ => True

/-- The empty string, written by any of the string writers. -/
def isEmptyString : Value → Bool
  | stringF16 s => s.isEmpty
  | stringF32 s => s.isEmpty
  | stringF64 s => s.isEmpty
  | stringVint s => s.isEmpty
  | _ => false

/-- The bytes before the payload: the number itself, or the length of a string. -/
def header (e : Endian) : Value → List UInt8
  | fint8 v => [v.toUInt8]
  | fuint8 v => [v]
  | fint16 v => fixedBytes e 2 v.toUInt16.toNat
  | fuint16 v => fixedBytes e 2 v.toNat
  | fint32 v => fixedBytes e 4 v.toUInt32.toNat
  | fuint32 v => fixedBytes e 4 v.toNat
  | fint64 v => fixedBytes e 8 v.toUInt64.toNat
  | fuint64 v => fixedBytes e 8 v.toNat
  | int32 v => varintBytes 5 (encodeZigzag32 v).toNat
  | uint32 v => varintBytes 5 v.toNat
  | int64 v => varintBytes 10 (encodeZigzag64 v).toNat
  | uint64 v => varintBytes 10 v.toNat
  | float v => fixedBytes e 4 v.toNat
  | double v => fixedBytes e 8 v.toNat
  | stringF16 s => fixedBytes e 2 s.length
  | stringF32 s => fixedBytes e 4 s.length
  | stringF64 s => fixedBytes e 8 s.length
  | stringVint s => varintBytes 10 s.length

/-- The bytes of a string. -/
def payload : Value → List UInt8
  | stringF16 s => s
  | stringF32 s => s
  | stringF64 s => s
  | stringVint s => s
  | _ => []

/-- The bytes the value's writer appends. -/
def encode (e : Endian) (v : Value) : List UInt8 := v.header e ++ v.payload

end Value

/-- The bytes of a list of values. -/
def encodeAll (e : Endian) (vs : List Value) : List UInt8 := vs.flatMap (Value.encode e)

/-! ## The program -/

def writeValue (fresh : Nat → Nat → UInt8) : Value → Op Unit
  | .fint8 v => writeFint8 fresh v
  | .fuint8 v => writeFuint8 fresh v
  | .fint16 v => writeFint16 fresh v
  | .fuint16 v => writeFuint16 fresh v
  | .fint32 v => writeFint32 fresh v
  | .fuint32 v => writeFuint32 fresh v
  | .fint64 v => writeFint64 fresh v
  | .fuint64 v => writeFuint64 fresh v
  | .int32 v => writeInt32 fresh v
  | .uint32 v => writeUint32 fresh v
  | .int64 v => writeInt64 fresh v
  | .uint64 v => writeUint64 fresh v
  | .float v => writeFloat fresh v
  | .double v => writeDouble fresh v
  | .stringF16 s => writeStringF16 fresh s
  | .stringF32 s => writeStringF32 fresh s
  | .stringF64 s => writeStringF64 fresh s
  | .stringVint s => writeStringVint fresh s

def readValue : Kind → Op Value
  | .fint8 => do return .fint8 (← readFint8)
  | .fuint8 => do return .fuint8 (← readFuint8)
  | .fint16 => do return .fint16 (← readFint16)
  | .fuint16 => do return .fuint16 (← readFuint16)
  | .fint32 => do return .fint32 (← readFint32)
  | .fuint32 => do return .fuint32 (← readFuint32)
  | .fint64 => do return .fint64 (← readFint64)
  | .fuint64 => do return .fuint64 (← readFuint64)
  | .int32 => do return .int32 (← readInt32)
  | .uint32 => do return .uint32 (← readUint32)
  | .int64 => do return .int64 (← readInt64)
  | .uint64 => do return .uint64 (← readUint64)
  | .float => do return .float (← readFloat)
  | .double => do return .double (← readDouble)
  | .stringF16 => do return .stringF16 (← readStringF16)
  | .stringF32 => do return .stringF32 (← readStringF32)
  | .stringF64 => do return .stringF64 (← readStringF64)
  | .stringVint => do return .stringVint (← readStringVint)

def writeAll (fresh : Nat → Nat → UInt8) : List Value → Op Unit
  | [] => return
  | v :: vs => do
    writeValue fresh v
    writeAll fresh vs

def readAll : List Kind → Op (List Value)
  | [] => return []
  | k :: ks => do
    let v ← readValue k
    let vs ← readAll ks
    return v :: vs

/-- Write the list, go back to the start, read it. -/
def roundTrip (fresh : Nat → Nat → UInt8) (littleEndian : Bool) (vs : List Value) :
    Op (List Value) := do
  setIsLittleEndian littleEndian
  writeAll fresh vs
  setPosition 0
  readAll (vs.map Value.kind)

/-- On a fresh array with blocks of size `B` the program returns the same list
without a fault, and ends with the position at the size. -/
def RoundTrips (fresh : Nat → Nat → UInt8) (B : Nat) (littleEndian : Bool) (vs : List Value) :
    Prop :=
  ∃ ba, roundTrip fresh littleEndian vs (new fresh B) = .ok vs ba ∧ ba.position = ba.size

/-! ## Writing -/

/-- An array that was only appended to: the data is `content`, the cursor stands
behind it, and every block but the first was needed. -/
structure Filled (B : Nat) (e : Endian) (ba : ByteArray) (content : List UInt8) : Prop where
  inv : Inv ba
  baseSize_eq : ba.baseSize = B
  endian_eq : ba.endian = e
  position_eq : ba.position = content.length
  size_eq : ba.size = content.length
  data : ba.bytes.take content.length = content
  tight : ba.capacity < content.length + B ∨ ba.capacity = B

section writing

variable (fresh : Nat → Nat → UInt8) {B : Nat} {e : Endian} {ba : ByteArray}
  {content : List UInt8}

theorem Filled.write (h : Filled B e ba content) (bs : List UInt8) :
    ∃ ba', write fresh bs ba = .ok () ba' ∧ Filled B e ba' (content ++ bs) := by
  obtain ⟨ba', hw, spec⟩ := write_spec fresh h.inv bs
  obtain ⟨junk, hjunk, hbytes⟩ := spec.bytes_eq
  have hcap := h.inv.length_bytes
  have hle : content.length ≤ ba.capacity := by rw [← h.size_eq]; exact h.inv.size_le
  refine ⟨ba', hw,
    { inv := spec.inv
      baseSize_eq := spec.baseSize_eq.trans h.baseSize_eq
      endian_eq := spec.endian_eq.trans h.endian_eq
      position_eq := by rw [spec.position_eq, h.position_eq, List.length_append]
      size_eq := by
        rw [spec.size_eq, h.position_eq, h.size_eq, List.length_append]
        omega
      data := ?_
      tight := ?_ }⟩
  · -- the new data is the old data followed by `bs`
    have hold : (ba.bytes ++ junk).take content.length = content := by
      rw [List.take_append_of_le_length (by omega), h.data]
    rw [hbytes, h.position_eq, splice, hold, List.take_left']
    rfl
  · have hlt := ceilDiv_mul_lt h.inv.baseSize_pos (bs.length - ba.getCapacity)
    rw [spec.capacity_eq, List.length_append]
    by_cases hfit : bs.length ≤ ba.getCapacity
    · have hg := h.inv.growth_eq_zero hfit
      rcases h.tight with ht | ht
      · left; omega
      · right; omega
    · left
      have hgc : ba.getCapacity = ba.capacity - content.length := by
        rw [getCapacity, h.position_eq]
      rw [growth, h.baseSize_eq] at *
      omega

theorem Filled.writeFixed (h : Filled B e ba content) (k n : Nat) :
    ∃ ba', writeFixed fresh k n ba = .ok () ba' ∧ Filled B e ba' (content ++ fixedBytes e k n) := by
  rw [writeFixed_eq, h.endian_eq]
  exact h.write fresh _

theorem Filled.writeVarint (h : Filled B e ba content) {room n : Nat}
    (hn : n < 128 ^ (room + 1)) :
    ∃ ba', writeVarint fresh (room + 1) n ba = .ok () ba'
      ∧ Filled B e ba' (content ++ varintBytes (room + 1) n) := by
  rw [writeVarint_eq fresh hn]
  exact h.write fresh _

/-- A string writer: the length, then the bytes. -/
theorem Filled.writeString {m : Op Unit} {hd : List UInt8} (s : List UInt8)
    (hm : ∃ ba', m ba = .ok () ba' ∧ Filled B e ba' (content ++ hd)) :
    ∃ ba', (m >>= fun _ => ByteArray.write fresh s) ba = .ok () ba'
      ∧ Filled B e ba' (content ++ (hd ++ s)) := by
  obtain ⟨ba1, h1, hf1⟩ := hm
  obtain ⟨ba2, h2, hf2⟩ := hf1.write fresh s
  exact ⟨ba2, by rw [bind_ok h1]; exact h2, by rw [← List.append_assoc]; exact hf2⟩

/-- Every writer appends the encoding of its value. -/
theorem Filled.writeValue (h : Filled B e ba content) (v : Value) (hv : v.Fits) :
    ∃ ba', writeValue fresh v ba = .ok () ba' ∧ Filled B e ba' (content ++ v.encode e) := by
  have number : ∀ {m : Op Unit} {hd : List UInt8},
      (∃ ba', m ba = .ok () ba' ∧ Filled B e ba' (content ++ hd)) →
      ∃ ba', m ba = .ok () ba' ∧ Filled B e ba' (content ++ (hd ++ [])) := by
    intro m hd hm
    rwa [List.append_nil]
  cases v with
  | fint8 v => exact number (h.write fresh [v.toUInt8])
  | fuint8 v => exact number (h.write fresh [v])
  | fint16 v => exact number (h.writeFixed fresh 2 _)
  | fuint16 v => exact number (h.writeFixed fresh 2 _)
  | fint32 v => exact number (h.writeFixed fresh 4 _)
  | fuint32 v => exact number (h.writeFixed fresh 4 _)
  | fint64 v => exact number (h.writeFixed fresh 8 _)
  | fuint64 v => exact number (h.writeFixed fresh 8 _)
  | int32 v =>
    have := (encodeZigzag32 v).toNat_lt
    exact number (h.writeVarint fresh (by omega))
  | uint32 v =>
    have := v.toNat_lt
    exact number (h.writeVarint fresh (by omega))
  | int64 v =>
    have := (encodeZigzag64 v).toNat_lt
    exact number (h.writeVarint fresh (by omega))
  | uint64 v =>
    have := v.toNat_lt
    exact number (h.writeVarint fresh (by omega))
  | float v => exact number (h.writeFixed fresh 4 _)
  | double v => exact number (h.writeFixed fresh 8 _)
  | stringF16 s =>
    have hlen : (UInt16.ofNat s.length).toNat = s.length := UInt16.toNat_ofNat_of_lt' hv
    refine Filled.writeString fresh s ?_
    rw [writeFuint16, hlen]
    exact h.writeFixed fresh 2 _
  | stringF32 s =>
    have hlen : (UInt32.ofNat s.length).toNat = s.length := UInt32.toNat_ofNat_of_lt' hv
    refine Filled.writeString fresh s ?_
    rw [writeFuint32, hlen]
    exact h.writeFixed fresh 4 _
  | stringF64 s =>
    have hlen : (UInt64.ofNat s.length).toNat = s.length := UInt64.toNat_ofNat_of_lt' hv
    refine Filled.writeString fresh s ?_
    rw [writeFuint64, hlen]
    exact h.writeFixed fresh 8 _
  | stringVint s =>
    have hlen : (UInt64.ofNat s.length).toNat = s.length := UInt64.toNat_ofNat_of_lt' hv
    refine Filled.writeString fresh s ?_
    rw [writeUint64, hlen]
    exact h.writeVarint fresh (by simp only [Value.Fits] at hv; omega)

/-- The writing phase. -/
theorem Filled.writeAll (h : Filled B e ba content) (vs : List Value) (hvs : ∀ v ∈ vs, v.Fits) :
    ∃ ba', writeAll fresh vs ba = .ok () ba' ∧ Filled B e ba' (content ++ encodeAll e vs) := by
  induction vs generalizing ba content with
  | nil => exact ⟨ba, rfl, by simpa [encodeAll] using h⟩
  | cons v vs ih =>
    obtain ⟨ba1, h1, hf1⟩ := h.writeValue fresh v (hvs v List.mem_cons_self)
    obtain ⟨ba2, h2, hf2⟩ := ih hf1 fun w hw => hvs w (List.mem_cons_of_mem v hw)
    refine ⟨ba2, by rw [ByteArray.writeAll, bind_ok h1]; exact h2, ?_⟩
    rw [encodeAll, List.flatMap_cons, ← List.append_assoc]
    exact hf2

end writing

/-! ## Reading -/

section reading

variable {ba : ByteArray} {rest : List UInt8}

theorem readFuint16_at {n : Nat} (hn : n < 2 ^ 16) (h : At ba (fixedBytes ba.endian 2 n ++ rest)) :
    readFuint16 ba = .ok (UInt16.ofNat n) (ba.advanced (fixedBytes ba.endian 2 n).length)
      ∧ At (ba.advanced (fixedBytes ba.endian 2 n).length) rest := by
  obtain ⟨hr, hat⟩ := readFixed_at (by decide) (by omega) h
  rw [length_fixedBytes]
  exact ⟨bind_ok hr, hat⟩

theorem readFuint32_at {n : Nat} (hn : n < 2 ^ 32) (h : At ba (fixedBytes ba.endian 4 n ++ rest)) :
    readFuint32 ba = .ok (UInt32.ofNat n) (ba.advanced (fixedBytes ba.endian 4 n).length)
      ∧ At (ba.advanced (fixedBytes ba.endian 4 n).length) rest := by
  obtain ⟨hr, hat⟩ := readFixed_at (by decide) (by omega) h
  rw [length_fixedBytes]
  exact ⟨bind_ok hr, hat⟩

theorem readFuint64_at {n : Nat} (hn : n < 2 ^ 64) (h : At ba (fixedBytes ba.endian 8 n ++ rest)) :
    readFuint64 ba = .ok (UInt64.ofNat n) (ba.advanced (fixedBytes ba.endian 8 n).length)
      ∧ At (ba.advanced (fixedBytes ba.endian 8 n).length) rest := by
  obtain ⟨hr, hat⟩ := readFixed_at (by decide) (by omega) h
  rw [length_fixedBytes]
  exact ⟨bind_ok hr, hat⟩

theorem readUint32_at {n : Nat} (hn : n < 2 ^ 32) (h : At ba (varintBytes 5 n ++ rest)) :
    readUint32 ba = .ok (UInt32.ofNat n) (ba.advanced (varintBytes 5 n).length)
      ∧ At (ba.advanced (varintBytes 5 n).length) rest := by
  obtain ⟨hr, hat⟩ := readVarint_at (varint_eq (by omega)).1 (by decide : 5 ≤ 32) (by decide) hn h
  exact ⟨bind_ok hr, hat⟩

theorem readUint64_at {n : Nat} (hn : n < 2 ^ 64) (h : At ba (varintBytes 10 n ++ rest)) :
    readUint64 ba = .ok (UInt64.ofNat n) (ba.advanced (varintBytes 10 n).length)
      ∧ At (ba.advanced (varintBytes 10 n).length) rest := by
  obtain ⟨hr, hat⟩ := readVarint_at (varint_eq (by omega)).1 (by decide : 10 ≤ 64) (by decide) hn h
  exact ⟨bind_ok hr, hat⟩

/-- A reader followed by a conversion. -/
theorem read_convert {α β : Type} {m : Op α} {a : α} {k : Nat} {f : α → β} {b : β} (hb : f a = b)
    (h : m ba = .ok a (ba.advanced k) ∧ At (ba.advanced k) rest) :
    (m >>= fun a => pure (f a)) ba = .ok b (ba.advanced k) ∧ At (ba.advanced k) rest :=
  ⟨by rw [← hb]; exact bind_ok h.1, h.2⟩

/-- A string reader: the length, then the bytes, with a block under the cursor
when the bytes are read. -/
theorem read_string {β : Type} {m : Op β} {b : β} {len : β → Nat} {hd s : List UInt8}
    (hm : m ba = .ok b (ba.advanced hd.length) ∧ At (ba.advanced hd.length) (s ++ rest))
    (hlen : len b = s.length) (hp : s ≠ [] ∨ ba.position + hd.length < ba.capacity) :
    (m >>= fun b => ByteArray.read (len b)) ba = .ok s (ba.advanced (hd ++ s).length)
      ∧ At (ba.advanced (hd ++ s).length) rest := by
  have hpos : (ba.advanced hd.length).position < (ba.advanced hd.length).capacity := by
    rcases hp with hs | hlt
    · exact hm.2.position_lt (by simp [hs])
    · exact hlt
  obtain ⟨hr, hat⟩ := hm.2.read hpos
  rw [advanced_advanced, ← List.length_append] at hr hat
  exact ⟨by rw [bind_ok hm.1, hlen]; exact hr, hat⟩

/-- Every reader takes the encoding of its value and returns the value. -/
theorem readValue_at (v : Value) (hv : v.Fits) (h : At ba (v.encode ba.endian ++ rest))
    (hp : v.isEmptyString = false ∨ ba.position + (v.encode ba.endian).length < ba.capacity) :
    readValue v.kind ba = .ok v (ba.advanced (v.encode ba.endian).length)
      ∧ At (ba.advanced (v.encode ba.endian).length) rest := by
  have nonempty : ∀ {hd s : List UInt8},
      (s.isEmpty = false ∨ ba.position + (hd ++ s).length < ba.capacity) →
      s ≠ [] ∨ ba.position + hd.length < ba.capacity := by
    intro hd s hor
    rcases hor with hs | hlt
    · exact .inl (by simpa using hs)
    · rw [List.length_append] at hlt
      exact .inr (by omega)
  cases v <;>
    simp only [Value.encode, Value.header, Value.payload, List.append_nil, List.append_assoc,
      List.singleton_append, List.length_singleton] at h hp ⊢
  case fint8 v => exact read_convert rfl (read_convert rfl (readFuint8_at h))
  case fuint8 v => exact read_convert rfl (readFuint8_at h)
  case fint16 v =>
    exact read_convert rfl (read_convert (by simp) (readFuint16_at v.toUInt16.toNat_lt h))
  case fuint16 v => exact read_convert (by simp) (readFuint16_at v.toNat_lt h)
  case fint32 v =>
    exact read_convert rfl (read_convert (by simp) (readFuint32_at v.toUInt32.toNat_lt h))
  case fuint32 v => exact read_convert (by simp) (readFuint32_at v.toNat_lt h)
  case fint64 v =>
    exact read_convert rfl (read_convert (by simp) (readFuint64_at v.toUInt64.toNat_lt h))
  case fuint64 v => exact read_convert (by simp) (readFuint64_at v.toNat_lt h)
  case int32 v =>
    exact read_convert rfl (read_convert (by rw [UInt32.ofNat_toNat, decodeZigzag32_encode])
      (readUint32_at (encodeZigzag32 v).toNat_lt h))
  case uint32 v => exact read_convert (by simp) (readUint32_at v.toNat_lt h)
  case int64 v =>
    exact read_convert rfl (read_convert (by rw [UInt64.ofNat_toNat, decodeZigzag64_encode])
      (readUint64_at (encodeZigzag64 v).toNat_lt h))
  case uint64 v => exact read_convert (by simp) (readUint64_at v.toNat_lt h)
  case float v => exact read_convert (by simp) (readFuint32_at v.toNat_lt h)
  case double v => exact read_convert (by simp) (readFuint64_at v.toNat_lt h)
  case stringF16 s =>
    exact read_convert rfl
      (read_string (readFuint16_at hv h) (UInt16.toNat_ofNat_of_lt' hv) (nonempty hp))
  case stringF32 s =>
    exact read_convert rfl
      (read_string (readFuint32_at hv h) (UInt32.toNat_ofNat_of_lt' hv) (nonempty hp))
  case stringF64 s =>
    exact read_convert rfl
      (read_string (readFuint64_at hv h) (UInt64.toNat_ofNat_of_lt' hv) (nonempty hp))
  case stringVint s =>
    exact read_convert rfl
      (read_string (readUint64_at hv h) (UInt64.toNat_ofNat_of_lt' hv) (nonempty hp))

/-- The string readers when nothing is left of the last block. -/
theorem read_string_crash {β : Type} {m : Op β} {b : β} {len : β → Nat} {hd : List UInt8}
    (hm : m ba = .ok b (ba.advanced hd.length) ∧ At (ba.advanced hd.length) rest)
    (hlen : len b = 0) (hp : ba.position + hd.length = ba.capacity) :
    (m >>= fun b => ByteArray.read (len b)) ba = .error .segv (ba.advanced hd.length) := by
  rw [bind_ok hm.1, hlen]
  exact read_zero_at_end hm.2.1 hp

/-- An empty string whose length ends the last block: its reader goes on to read
no bytes through the null node. -/
theorem readValue_crash (v : Value) (hv : v.isEmptyString = true)
    (h : At ba (v.encode ba.endian ++ rest))
    (hp : ba.position + (v.encode ba.endian).length = ba.capacity) :
    ∃ ba', readValue v.kind ba = .error .segv ba' := by
  cases v <;> simp only [Value.isEmptyString, reduceCtorEq, List.isEmpty_iff] at hv <;> subst hv <;>
    simp only [Value.encode, Value.header, Value.payload, List.append_nil, List.length_nil] at h hp
  case stringF16 =>
    exact ⟨_, bind_error (read_string_crash (readFuint16_at (by decide) h) rfl hp)⟩
  case stringF32 =>
    exact ⟨_, bind_error (read_string_crash (readFuint32_at (by decide) h) rfl hp)⟩
  case stringF64 =>
    exact ⟨_, bind_error (read_string_crash (readFuint64_at (by decide) h) rfl hp)⟩
  case stringVint =>
    exact ⟨_, bind_error (read_string_crash (readUint64_at (by decide) h) rfl hp)⟩

end reading

/-! ## Reading a list -/

/-- The list ends in an empty string. -/
def EndsEmpty (vs : List Value) : Prop := ∃ v, vs.getLast? = some v ∧ v.isEmptyString = true

theorem Value.encode_pos (e : Endian) (v : Value) (hv : v.Fits) : 0 < (v.encode e).length := by
  have varint_pos : ∀ {room n : Nat}, n < 128 ^ (room + 1) →
      0 < (varintBytes (room + 1) n).length :=
    fun hn => List.length_pos_iff.mpr (varint_eq hn).2
  rw [Value.encode, List.length_append]
  apply Nat.add_pos_left
  cases v <;> simp only [Value.header, length_fixedBytes, List.length_singleton] <;>
    try decide
  case int32 v => exact varint_pos (by have := (encodeZigzag32 v).toNat_lt; omega)
  case uint32 v => exact varint_pos (by have := v.toNat_lt; omega)
  case int64 v => exact varint_pos (by have := (encodeZigzag64 v).toNat_lt; omega)
  case uint64 v => exact varint_pos (by have := v.toNat_lt; omega)
  case stringVint s => exact varint_pos (by simp only [Value.Fits] at hv; omega)

theorem encodeAll_cons (e : Endian) (v : Value) (vs : List Value) :
    encodeAll e (v :: vs) = v.encode e ++ encodeAll e vs := rfl

theorem encodeAll_pos (e : Endian) {vs : List Value} (hvs : ∀ v ∈ vs, v.Fits) (hne : vs ≠ []) :
    0 < (encodeAll e vs).length := by
  cases vs with
  | nil => exact absurd rfl hne
  | cons v vs =>
    have := v.encode_pos e (hvs v List.mem_cons_self)
    rw [encodeAll_cons, List.length_append]
    omega

/-- A value with another one behind it is read whatever it is. -/
theorem readValue_inner {ba : ByteArray} {rest : List UInt8} {v : Value} (hv : v.Fits)
    (h : At ba (v.encode ba.endian ++ rest)) (hne : 0 < rest.length) :
    readValue v.kind ba = .ok v (ba.advanced (v.encode ba.endian).length)
      ∧ At (ba.advanced (v.encode ba.endian).length) rest := by
  refine readValue_at v hv h (.inr ?_)
  have hlen := h.length
  have hsize := h.1.size_le
  rw [List.length_append, getReadSize] at hlen
  omega

theorem readAll_cons {ba : ByteArray} {rest : List UInt8} {v : Value} {ks : List Kind}
    (h : readValue v.kind ba = .ok v (ba.advanced (v.encode ba.endian).length)
      ∧ At (ba.advanced (v.encode ba.endian).length) rest) :
    readAll (v.kind :: ks) ba
      = (readAll ks >>= fun vs => pure (v :: vs)) (ba.advanced (v.encode ba.endian).length) := by
  rw [readAll, bind_ok h.1]

/-- The reading phase, when it is not the last block that ends in an empty string. -/
theorem readAll_at {vs : List Value} (hvs : ∀ v ∈ vs, v.Fits) {ba : ByteArray}
    (h : At ba (encodeAll ba.endian vs))
    (hp : EndsEmpty vs → ba.position + (encodeAll ba.endian vs).length < ba.capacity) :
    readAll (vs.map Value.kind) ba = .ok vs (ba.advanced (encodeAll ba.endian vs).length) := by
  induction vs generalizing ba with
  | nil => exact congrArg (EStateM.Result.ok []) h.1.advanced_zero.symm
  | cons v vs ih =>
    have hv := hvs v List.mem_cons_self
    have hvs' : ∀ w ∈ vs, w.Fits := fun w hw => hvs w (List.mem_cons_of_mem v hw)
    rw [encodeAll_cons] at h hp ⊢
    rw [List.length_append] at hp ⊢
    have hread : readValue v.kind ba = .ok v (ba.advanced (v.encode ba.endian).length)
        ∧ At (ba.advanced (v.encode ba.endian).length) (encodeAll ba.endian vs) := by
      cases vs with
      | nil =>
        refine readValue_at v hv h ?_
        by_cases he : v.isEmptyString = true
        · exact .inr (hp ⟨v, rfl, he⟩)
        · exact .inl (by simpa using he)
      | cons w ws => exact readValue_inner hv h (encodeAll_pos _ hvs' (List.cons_ne_nil w ws))
    have hp' : EndsEmpty vs → (ba.advanced (v.encode ba.endian).length).position
        + (encodeAll ba.endian vs).length < ba.capacity := by
      rintro ⟨w, hw, he⟩
      have hlt := hp ⟨w, by rw [List.getLast?_cons, hw]; rfl, he⟩
      rw [← Nat.add_assoc] at hlt
      exact hlt
    rw [List.map_cons, readAll_cons hread, bind_ok (ih hvs' hread.2 hp'), advanced_advanced]
    rfl

/-- The reading phase, when it is. -/
theorem readAll_crash {vs : List Value} (hvs : ∀ v ∈ vs, v.Fits) {ba : ByteArray}
    (h : At ba (encodeAll ba.endian vs)) (hend : EndsEmpty vs)
    (hp : ba.position + (encodeAll ba.endian vs).length = ba.capacity) :
    ∃ ba', readAll (vs.map Value.kind) ba = .error .segv ba' := by
  induction vs generalizing ba with
  | nil =>
    obtain ⟨v, hv, -⟩ := hend
    cases hv
  | cons v vs ih =>
    have hv := hvs v List.mem_cons_self
    have hvs' : ∀ w ∈ vs, w.Fits := fun w hw => hvs w (List.mem_cons_of_mem v hw)
    obtain ⟨w, hw, he⟩ := hend
    rw [encodeAll_cons] at h hp
    rw [List.length_append] at hp
    cases vs with
    | nil =>
      cases hw
      obtain ⟨ba', hr⟩ := readValue_crash v he h hp
      exact ⟨ba', by rw [List.map_cons, readAll, bind_error hr]⟩
    | cons u us =>
      have hread := readValue_inner hv h (encodeAll_pos _ hvs' (List.cons_ne_nil u us))
      rw [List.getLast?_cons_cons] at hw
      obtain ⟨ba', hr⟩ := ih hvs' hread.2 ⟨w, hw, he⟩ ((Nat.add_assoc _ _ _).trans hp)
      exact ⟨ba', by rw [List.map_cons, readAll_cons hread, bind_error hr]⟩

/-! ## The round trip -/

theorem filled_new (fresh : Nat → Nat → UInt8) {B : Nat} (hB : 0 < B) (e : Endian) :
    Filled B e { new fresh B with endian := e } [] where
  inv := { inv_new fresh hB with }
  baseSize_eq := rfl
  endian_eq := rfl
  position_eq := rfl
  size_eq := rfl
  data := rfl
  tight := .inr rfl

/-- The data ends with the last block exactly when it fills whole blocks. -/
theorem Filled.full_iff {B : Nat} {e : Endian} {ba : ByteArray} {content : List UInt8}
    (h : Filled B e ba content) (hpos : 0 < content.length) :
    content.length = ba.capacity ↔ B ∣ content.length := by
  have hcap := h.inv.capacity_eq
  rw [h.baseSize_eq] at hcap
  constructor
  · intro heq
    exact ⟨ba.root.length, by rw [heq, hcap, Nat.mul_comm]⟩
  · rintro ⟨k, hk⟩
    have hle : content.length ≤ ba.capacity := h.size_eq ▸ h.inv.size_le
    have hkpos : 1 ≤ k := by
      rcases Nat.eq_zero_or_pos k with rfl | h'
      · omega
      · exact h'
    have hroot : ba.root.length ≤ k := by
      rcases h.tight with ht | ht
      · rw [hcap, hk, Nat.mul_comm, ← Nat.mul_succ] at ht
        exact Nat.lt_succ_iff.mp (Nat.lt_of_mul_lt_mul_left ht)
      · have hB := h.baseSize_eq ▸ h.inv.baseSize_pos
        have : ba.root.length * B = 1 * B := by omega
        have := Nat.eq_of_mul_eq_mul_right hB this
        omega
    have : ba.root.length * B ≤ k * B := Nat.mul_le_mul_right B hroot
    rw [Nat.mul_comm k] at this
    omega

/-- After the writing phase and `setPosition(0)` the unread data is the encoding. -/
theorem Filled.rewind {B : Nat} {e : Endian} {ba : ByteArray} {content : List UInt8}
    (h : Filled B e ba content) : At (ba.positioned 0) content := by
  have hsize : (ba.positioned 0).getReadSize = content.length := by
    simp [positioned, getReadSize, h.size_eq]
  refine ⟨h.inv.positioned (Nat.zero_le _), ?_⟩
  rw [hsize, slice]
  exact h.data

/-- The byte order chosen by `setIsLittleEndian`. -/
def endianOf (littleEndian : Bool) : Endian := if littleEndian then .little else .big

/-- The values come back, and the position ends at the size, unless the list ends in
an empty string and the bytes of the whole list fill whole blocks. -/
theorem roundTrips_iff (fresh : Nat → Nat → UInt8) (B : Nat) (hB : 0 < B) (littleEndian : Bool)
    (vs : List Value) (hvs : ∀ v ∈ vs, v.Fits) :
    RoundTrips fresh B littleEndian vs ↔
      ¬ (EndsEmpty vs ∧ B ∣ (encodeAll (endianOf littleEndian) vs).length) := by
  have hset : setIsLittleEndian littleEndian (new fresh B)
      = .ok () { new fresh B with endian := endianOf littleEndian } := rfl
  obtain ⟨ba, hw, hf⟩ := (filled_new fresh hB (endianOf littleEndian)).writeAll fresh vs hvs
  rw [List.nil_append] at hf
  have hprog : roundTrip fresh littleEndian vs (new fresh B)
      = readAll (vs.map Value.kind) (ba.positioned 0) := by
    rw [roundTrip, bind_ok hset, bind_ok hw, bind_ok (setPosition_eq hf.inv (Nat.zero_le _))]
  have hend : (ba.positioned 0).endian = endianOf littleEndian := hf.endian_eq
  have hat := hf.rewind
  rw [← hend] at hat ⊢
  have hzero : (ba.positioned 0).position = 0 := rfl
  have hcap : (ba.positioned 0).capacity = ba.capacity := rfl
  have hle : (encodeAll (endianOf littleEndian) vs).length ≤ ba.capacity :=
    hf.size_eq ▸ hf.inv.size_le
  have hfull : EndsEmpty vs → ((encodeAll (endianOf littleEndian) vs).length = ba.capacity
      ↔ B ∣ (encodeAll (endianOf littleEndian) vs).length) := by
    rintro ⟨v, hv, -⟩
    exact hf.full_iff (encodeAll_pos _ hvs (fun h0 => by rw [h0] at hv; cases hv))
  rw [← hend] at hle hfull
  constructor
  · rintro ⟨ba', hr, -⟩ ⟨hempty, hdvd⟩
    obtain ⟨ba'', hc⟩ := readAll_crash hvs hat hempty
      (by rw [hzero, Nat.zero_add, hcap, (hfull hempty).mpr hdvd])
    rw [hprog, hc] at hr
    cases hr
  · intro hnot
    have hr := readAll_at hvs hat (by
      intro hempty
      rw [hzero, Nat.zero_add, hcap]
      exact Nat.lt_of_le_of_ne hle (fun heq => hnot ⟨hempty, (hfull hempty).mp heq⟩))
    refine ⟨_, hprog.trans hr, ?_⟩
    have hsize : (ba.positioned 0).size = ba.size := Nat.max_eq_left (Nat.zero_le _)
    rw [hend]
    simp only [advanced, hzero, Nat.zero_add, hsize, hf.size_eq]

/-- A byte and a string of two bytes over blocks of size 3, in the big-endian order. -/
theorem roundTrips_iff_byte_string :
    RoundTrips (fun _ _ => 0) 3 false [.fuint8 7, .stringF16 [1, 2]] :=
  (roundTrips_iff (fun _ _ => 0) 3 (by decide) false [.fuint8 7, .stringF16 [1, 2]]
    (by simp [Value.Fits])).mpr (by simp [EndsEmpty, Value.isEmptyString])

/-- One empty string over blocks of size 2: its length fills the only block, and
reading its payload dereferences the null node. -/
theorem roundTrip_empty_string_crashes :
    (∀ v ∈ [Value.stringF16 []], v.Fits)
      ∧ (∃ ba, roundTrip (fun _ _ => 0) true [.stringF16 []] (new (fun _ _ => 0) 2)
          = .error .segv ba)
      ∧ ¬ RoundTrips (fun _ _ => 0) 2 true [.stringF16 []] := by
  have hcrash : ∃ ba, roundTrip (fun _ _ => 0) true [.stringF16 []] (new (fun _ _ => 0) 2)
      = .error .segv ba := ⟨_, rfl⟩
  refine ⟨by simp [Value.Fits], hcrash, ?_⟩
  rintro ⟨ba, hok, -⟩
  obtain ⟨ba', herr⟩ := hcrash
  rw [herr] at hok
  cases hok

end ByteArray

end HrServer
