/-
HrServer.ByteArray.FailedRead — what a typed reader of
`sylar/bytearray.cc` leaves behind when the data is not all there.

A varint and a string are read by several raw reads, and each of them has
moved the cursor before the next one can throw. The string readers also
size their buffer, with a length that nothing has checked, before they
read into it: what `std::string::resize` throws for a length is an
argument here, `none` for success. With a buffer that is always granted
they are the readers of `HrServer.ByteArray.Codec` (`readTyped_eq`).

`failsCleanly_iff`: a reader throws exactly on incomplete data and without
a trace, if and only if the data is complete or already the first raw
read fails. An incomplete code of which at least one raw read was served
has lost its beginning, and a varint of which all bytes of its width want
another one is taken without a complaint.
-/
import HrServer.ByteArray.Stream
import HrServer.ByteArray.Varint

namespace HrServer

open Lib

/-- What `std::string::resize` throws. -/
inductive ResizeFault where
  | lengthError
  | badAlloc
  deriving DecidableEq

/-- How a typed reader can fail. -/
inductive ReadFault where
  | raised (f : Fault)
  | resize (f : ResizeFault)
  deriving DecidableEq

namespace ByteArray

abbrev Reader (α : Type) := EStateM ReadFault ByteArray α

variable {α β : Type}

/-- A member function as part of a reader. -/
def reader (m : Op α) : Reader α := fun ba =>
  match m ba with
  | .ok a ba' => .ok a ba'
  | .error f ba' => .error (.raised f) ba'

/-- The end of every string reader: `buff.resize(len); read(&buff[0], len)`. -/
def readBuffer (resize : Nat → Option ResizeFault) (len : Op Nat) : Reader (List UInt8) := do
  let n ← reader len
  match resize n with
  | some f => throw (.resize f)
  | none => reader (read n)

/-- The typed readers, with the buffers of the string readers. -/
def readTyped (resize : Nat → Option ResizeFault) : Kind → Reader Value
  | .stringF16 => do
    return .stringF16 (← readBuffer resize do return (← readFuint16).toNat)
  | .stringF32 => do
    return .stringF32 (← readBuffer resize do return (← readFuint32).toNat)
  | .stringF64 => do
    return .stringF64 (← readBuffer resize do return (← readFuint64).toNat)
  | .stringVint => do
    return .stringVint (← readBuffer resize do return (← readUint64).toNat)
  | k => reader (readValue k)

theorem reader_bind (m : Op α) (k : α → Op β) :
    reader (m >>= k) = reader m >>= fun a => reader (k a) := by
  funext ba
  cases hm : m ba with
  | ok a ba' =>
    have hr : reader m ba = .ok a ba' := by rw [reader, hm]
    rw [bind_ok hr, reader, bind_ok hm]
    rfl
  | error f ba' =>
    have hr : reader m ba = .error (.raised f) ba' := by rw [reader, hm]
    rw [bind_error hr, reader, bind_error hm]

/-- A string reader whose buffer is granted. -/
theorem readBuffer_eq {resize : Nat → Option ResizeFault} (hresize : ∀ n, resize n = none)
    (m : Op α) (len : α → Nat) (v : List UInt8 → Value) :
    (readBuffer resize (do return len (← m)) >>= fun s => pure (v s))
      = reader (do return v (← (do let n ← m; read (len n)))) := by
  have hpure : ∀ {γ : Type} (a : γ), reader (pure a : Op γ) = pure a := fun a => rfl
  simp only [readBuffer, hresize, reader_bind, hpure, bind_assoc, pure_bind]

theorem readTyped_eq {resize : Nat → Option ResizeFault} (hresize : ∀ n, resize n = none)
    (k : Kind) : readTyped resize k = reader (readValue k) := by
  cases k
  case stringF16 => exact readBuffer_eq hresize readFuint16 UInt16.toNat Value.stringF16
  case stringF32 => exact readBuffer_eq hresize readFuint32 UInt32.toNat Value.stringF32
  case stringF64 => exact readBuffer_eq hresize readFuint64 UInt64.toNat Value.stringF64
  case stringVint => exact readBuffer_eq hresize readUint64 UInt64.toNat Value.stringVint
  all_goals rfl

/-! ## Complete data -/

/-- The readable bytes. -/
def unread (ba : ByteArray) : List UInt8 := slice ba.bytes ba.position ba.getReadSize

/-- The forms of an encoding. `bits` is the width of a varint, `room` the number of bytes
it takes at most. -/
inductive Shape where
  | fixed (width : Nat)
  | varint (bits room : Nat)
  | fixedString (width : Nat)
  | varintString (bits room : Nat)

def Kind.shape : Kind → Shape
  | .fint8 => .fixed 1
  | .fuint8 => .fixed 1
  | .fint16 => .fixed 2
  | .fuint16 => .fixed 2
  | .fint32 => .fixed 4
  | .fuint32 => .fixed 4
  | .fint64 => .fixed 8
  | .fuint64 => .fixed 8
  | .int32 => .varint 32 5
  | .uint32 => .varint 32 5
  | .int64 => .varint 64 10
  | .uint64 => .varint 64 10
  | .float => .fixed 4
  | .double => .fixed 8
  | .stringF16 => .fixedString 2
  | .stringF32 => .fixedString 4
  | .stringF64 => .fixedString 8
  | .stringVint => .varintString 64 10

/-- The number in a field of fixed width. -/
def fixedValue (e : Endian) (bs : List UInt8) : Nat :=
  ofLe (if e = byteOrder then bs else bs.reverse)

/-- The bytes start with a complete encoding, the payload of a string included. -/
def Complete (e : Endian) : Shape → List UInt8 → Prop
  | .fixed width, bs => width ≤ bs.length
  | .varint _ room, bs => ∃ code rest, bs = code ++ rest ∧ code.length ≤ room ∧ Terminated code
  | .fixedString width, bs =>
    width ≤ bs.length ∧ fixedValue e (bs.take width) ≤ bs.length - width
  | .varintString bits room, bs =>
    ∃ code rest, bs = code ++ rest ∧ code.length ≤ room ∧ Terminated code
      ∧ base128 code % 2 ^ bits ≤ rest.length

/-- The number of bytes that the first raw read asks for. -/
def Shape.first : Shape → Nat
  | .fixed width => width
  | .varint _ _ => 1
  | .fixedString width => width
  | .varintString _ _ => 1

/-! ## Throwing -/

/-- `m` throws `std::out_of_range` and leaves `ba'`. -/
def Throws (m : Reader α) (ba ba' : ByteArray) : Prop :=
  ∃ what, m ba = .error (.raised (.outOfRange what)) ba'

/-- The same for a member function. -/
def RawThrows (m : Op α) (ba ba' : ByteArray) : Prop :=
  ∃ what, m ba = .error (.outOfRange what) ba'

/-- The reader throws exactly when the data is not complete, and then leaves the array as
it was. -/
def FailsCleanly (m : Reader α) (complete : Prop) (ba : ByteArray) : Prop :=
  ((∃ ba', Throws m ba ba') ↔ ¬ complete)
    ∧ ∀ ba', Throws m ba ba' → ba'.position = ba.position ∧ ba'.size = ba.size
        ∧ ba'.cur = ba.cur ∧ ba'.contents = ba.contents

theorem throws_reader {m : Op α} {ba ba' : ByteArray} :
    Throws (reader m) ba ba' ↔ RawThrows m ba ba' := by
  unfold Throws RawThrows reader
  cases hm : m ba <;> simp

theorem throws_map {m : Reader α} {f : α → β} {ba ba' : ByteArray} :
    Throws (m >>= fun a => pure (f a)) ba ba' ↔ Throws m ba ba' :=
  exists_congr fun _ => bind_error_iff fun a s => ⟨f a, s, rfl⟩

theorem rawThrows_bind {m : Op α} {k : α → Op β} (hk : ∀ a s, ∃ b s', k a s = .ok b s')
    {ba ba' : ByteArray} : RawThrows (m >>= k) ba ba' ↔ RawThrows m ba ba' :=
  exists_congr fun _ => bind_error_iff hk

theorem rawThrows_map {m : Op α} {f : α → β} {ba ba' : ByteArray} :
    RawThrows (m >>= fun a => pure (f a)) ba ba' ↔ RawThrows m ba ba' :=
  rawThrows_bind fun a s => ⟨f a, s, rfl⟩

/-- What is known of a reader: from which states it throws, and with what left. -/
structure Fails (T : ByteArray → Prop) (complete : Prop) (first : Nat) (ba : ByteArray) :
    Prop where
  returns : complete → ∀ ba', ¬ T ba'
  short : ba.unread.length < first → ¬ complete ∧ ∀ ba', T ba' ↔ ba' = ba
  moved : ¬ complete → first ≤ ba.unread.length → ∀ ba', T ba' → ba.position < ba'.position

theorem Fails.cleanly_iff {m : Reader α} {complete : Prop} {first : Nat} {ba : ByteArray}
    (h : Fails (Throws m ba) complete first ba) :
    FailsCleanly m complete ba ↔ complete ∨ ba.unread.length < first := by
  constructor
  · rintro ⟨hiff, hsame⟩
    by_contra hnot
    push Not at hnot
    obtain ⟨ba', hthrow⟩ := hiff.mpr hnot.1
    have hlt := h.moved hnot.1 hnot.2 ba' hthrow
    have heq := (hsame ba' hthrow).1
    omega
  · rintro (hcomplete | hshort)
    · have hnone := h.returns hcomplete
      refine ⟨iff_of_false ?_ (not_not_intro hcomplete), fun ba' ht => absurd ht (hnone ba')⟩
      rintro ⟨ba', ht⟩
      exact hnone ba' ht
    · obtain ⟨hnot, hthrow⟩ := h.short hshort
      refine ⟨iff_of_true ⟨ba, (hthrow ba).mpr rfl⟩ hnot, ?_⟩
      intro ba' ht
      rw [(hthrow ba').mp ht]
      exact ⟨rfl, rfl, rfl, rfl⟩

theorem Fails.congr {T T' : ByteArray → Prop} {complete : Prop} {first : Nat} {ba : ByteArray}
    (h : Fails T complete first ba) (hT : ∀ ba', T' ba' ↔ T ba') :
    Fails T' complete first ba where
  returns hc ba' ht := h.returns hc ba' ((hT ba').mp ht)
  short hs := ⟨(h.short hs).1, fun ba' => (hT ba').trans ((h.short hs).2 ba')⟩
  moved hc hl ba' ht := h.moved hc hl ba' ((hT ba').mp ht)

/-! ## Raw reads -/

section raw

variable {ba : ByteArray}

theorem Inv.at_unread (h : Inv ba) : At ba ba.unread := ⟨h, rfl⟩

theorem rawThrows_read (h : Inv ba) {n : Nat} {ba' : ByteArray} :
    RawThrows (read n) ba ba' ↔ ba.getReadSize < n ∧ ba' = ba := by
  by_cases hn : ba.getReadSize < n
  · simp [RawThrows, read_short hn, hn, eq_comm]
  · by_cases hp : ba.position < ba.capacity
    · simp [RawThrows, read_eq h (Nat.not_lt.mp hn) hp, hn]
    · have hend : ba.position = ba.capacity := Nat.le_antisymm h.position_le_capacity (by omega)
      have h0 : n = 0 := by
        have := h.size_le
        unfold getReadSize at hn
        omega
      subst h0
      simp [RawThrows, read_zero_at_end h hend]

/-- A reader that is one raw read of `width` bytes. -/
theorem Fails.fixed (h : Inv ba) {T : ByteArray → Prop} {width : Nat}
    (hT : ∀ ba', T ba' ↔ RawThrows (ByteArray.read width) ba ba') (e : Endian) :
    Fails T (Complete e (.fixed width) ba.unread) width ba := by
  have hlen := h.at_unread.length
  refine Fails.congr ?_ fun ba' => (hT ba').trans (rawThrows_read h)
  refine
    { returns := ?_
      short := ?_
      moved := fun hnot hle => absurd hle hnot }
  · rintro hc ba' ⟨hlt, -⟩
    exact absurd hlt (by unfold Complete at hc; omega)
  · intro hs
    refine ⟨Nat.not_le.mpr hs, fun ba' => ?_⟩
    rw [← hlen]
    exact and_iff_right hs

theorem rawThrows_readFixed {k : Nat} {ba' : ByteArray} :
    RawThrows (readFixed k) ba ba' ↔ RawThrows (ByteArray.read k) ba ba' :=
  rawThrows_bind fun _ s => ⟨_, s, rfl⟩

theorem rawThrows_readFuint8 {ba' : ByteArray} :
    RawThrows readFuint8 ba ba' ↔ RawThrows (ByteArray.read 1) ba ba' := rawThrows_map

/-- The field that a fixed-width reader takes, read as a number. -/
theorem fixedBytes_fixedValue (e : Endian) (bs : List UInt8) :
    fixedBytes e bs.length (fixedValue e bs) = bs := by
  unfold fixedBytes fixedValue
  split
  · exact toLe_ofLe bs
  · have := toLe_ofLe bs.reverse
    rw [List.length_reverse] at this
    rw [this, List.reverse_reverse]

theorem fixedValue_lt (e : Endian) (bs : List UInt8) : fixedValue e bs < 256 ^ bs.length := by
  unfold fixedValue
  split
  · exact ofLe_lt bs
  · have := ofLe_lt bs.reverse
    rwa [List.length_reverse] at this

end raw

/-! ## Varints -/

section varint

variable {ba : ByteArray} {bits : Nat}

/-- One group of seven bits laid above a value, cut to the word. -/
theorem or_shiftLeft_mod {result i g bits : Nat} (hr : result < 2 ^ i) (hi : i ≤ bits) :
    result ||| (g <<< i) % 2 ^ bits = (result + g * 2 ^ i) % 2 ^ bits := by
  have hpow : 2 ^ bits = 2 ^ (bits - i) * 2 ^ i := by rw [← Nat.pow_add, Nat.sub_add_cancel hi]
  have hcut : (g <<< i) % 2 ^ bits = g % 2 ^ (bits - i) * 2 ^ i := by
    rw [Nat.shiftLeft_eq, hpow, Nat.mul_mod_mul_right]
  have hmul : g % 2 ^ (bits - i) * 2 ^ i + 2 ^ i ≤ 2 ^ bits := by
    rw [hpow, ← Nat.succ_mul]
    exact Nat.mul_le_mul_right _ (Nat.mod_lt _ (Nat.two_pow_pos _))
  have hsum : (result + g * 2 ^ i) % 2 ^ bits = result + g % 2 ^ (bits - i) * 2 ^ i := by
    have hg : g * 2 ^ i % 2 ^ bits = g % 2 ^ (bits - i) * 2 ^ i := by
      rw [hpow, Nat.mul_mod_mul_right]
    rw [Nat.add_mod, hg, Nat.mod_eq_of_lt (a := result) (by omega), Nat.mod_eq_of_lt (by omega)]
  rw [hcut, hsum, Nat.or_comm, Nat.mul_comm, ← Nat.two_pow_add_eq_or_of_lt hr, Nat.add_comm]

/-- The reading loop passes over bytes that want another one. -/
theorem readVarintLoop_passes (bits : Nat) {code rest : List UInt8}
    (hcode : ∀ b ∈ code, 0x80 ≤ b.toNat) (passes i result : Nat)
    (hpasses : code.length ≤ passes) (hi : i + 7 * code.length < bits + 7)
    (h : At ba (code ++ rest)) :
    ∃ result', readVarintLoop bits passes i result ba
        = readVarintLoop bits (passes - code.length) (i + 7 * code.length) result'
            (ba.advanced code.length)
      ∧ At (ba.advanced code.length) rest
      ∧ (result < 2 ^ i → i + 7 * code.length < bits →
          result' = result + base128 code * 2 ^ i ∧ result' < 2 ^ (i + 7 * code.length)) := by
  induction code generalizing passes i result ba with
  | nil =>
    refine ⟨result, ?_, ?_, ?_⟩
    · simp [h.1.advanced_zero]
    · simpa [h.1.advanced_zero] using h
    · intro hr _
      exact ⟨by simp [base128], by simpa using hr⟩
  | cons b code ih =>
    obtain ⟨passes, rfl⟩ : ∃ p, passes = p + 1 := ⟨passes - 1, by simp at hpasses; omega⟩
    rw [List.length_cons] at hpasses hi
    have hb := hcode b List.mem_cons_self
    have hblt := b.toNat_lt
    obtain ⟨hread, hat⟩ := readFuint8_at h
    obtain ⟨result', hloop, hat', hvalue⟩ := ih (fun c hc => hcode c (List.mem_cons_of_mem b hc))
      passes (i + 7) (result ||| ((b.toNat &&& 0x7F) <<< i) % 2 ^ bits) (by omega) (by omega) hat
    have hlen : 1 + code.length = (b :: code).length := by rw [List.length_cons, Nat.add_comm]
    have hpass : i + 7 + 7 * code.length = i + 7 * (b :: code).length := by
      rw [List.length_cons]
      omega
    rw [advanced_advanced, hlen] at hloop hat'
    refine ⟨result', ?_, hat', ?_⟩
    · rw [readVarintLoop, if_pos (by omega), bind_ok hread, if_neg (by omega), hloop, hpass,
        List.length_cons, Nat.add_sub_add_right]
    · intro hr hfit
      have hand : b.toNat &&& 0x7F = b.toNat % 128 := Nat.and_two_pow_sub_one_eq_mod _ 7
      have hpow : 2 ^ (i + 7) = 128 * 2 ^ i := by rw [Nat.pow_add, Nat.mul_comm]
      have hlow : b.toNat % 128 * 2 ^ i ≤ 127 * 2 ^ i := Nat.mul_le_mul_right _ (by omega)
      have hword : 2 ^ (i + 7) ≤ 2 ^ bits := Nat.pow_le_pow_right (by decide) (by
        rw [List.length_cons] at hfit
        omega)
      have hor : result ||| ((b.toNat &&& 0x7F) <<< i) % 2 ^ bits
          = result + b.toNat % 128 * 2 ^ i := by
        rw [or_shiftLeft_mod hr (by omega), hand, Nat.mod_eq_of_lt (by omega)]
      obtain ⟨hres, hlt⟩ := hvalue (by rw [hor]; omega) (by omega)
      refine ⟨?_, by rw [← hpass]; exact hlt⟩
      rw [hres, hor, hpow, base128, Nat.add_mul, Nat.add_assoc, ← Nat.mul_assoc,
        Nat.mul_comm (base128 code) 128]

/-- `room` groups of seven bits are just enough for a word of `bits` bits. -/
structure Width (bits room : Nat) : Prop where
  room_pos : 0 < room
  lt_bits : 7 * (room - 1) < bits
  bits_le : bits ≤ 7 * room

variable {room : Nat}

/-- A complete code is read whatever follows it, and gives its number, cut to the word. -/
theorem readVarint_terminated (hw : Width bits room) {code rest : List UInt8}
    (hlen : code.length ≤ room) (hcode : Terminated code) (h : At ba (code ++ rest)) :
    readVarint bits ba = .ok (base128 code % 2 ^ bits) (ba.advanced code.length)
      ∧ At (ba.advanced code.length) rest := by
  have h1 := hw.lt_bits
  obtain ⟨init, last, rfl, hinit, hlast⟩ := hcode
  rw [List.length_append, List.length_singleton] at hlen
  rw [List.append_assoc] at h
  obtain ⟨result, hloop, hat, hvalue⟩ :=
    readVarintLoop_passes bits hinit bits 0 0 (by omega) (by omega) h
  obtain ⟨hres, hlt⟩ := hvalue (by decide) (by omega)
  obtain ⟨hread, hat'⟩ := readFuint8_at hat
  rw [Nat.zero_add] at hloop hres hlt
  rw [Nat.pow_zero, Nat.mul_one] at hres
  rw [advanced_advanced] at hread hat'
  have hvalue' := base128_concat init last
  rw [Nat.mod_eq_of_lt hlast] at hvalue'
  rw [List.length_append, List.length_singleton]
  refine ⟨?_, hat'⟩
  obtain ⟨passes, hpasses⟩ : ∃ p, bits - init.length = p + 1 := ⟨bits - init.length - 1, by omega⟩
  rw [readVarint, hloop, hpasses, readVarintLoop, if_pos (by omega), bind_ok hread, if_pos hlast,
    or_shiftLeft_mod hlt (by omega), hres, ← hvalue']
  rfl

/-- After `room` bytes the loop ends, even if the last one wants another. -/
theorem readVarint_overlong (hw : Width bits room) {code rest : List UInt8}
    (hlen : code.length = room) (hcode : ∀ b ∈ code, 0x80 ≤ b.toNat) (h : At ba (code ++ rest)) :
    ∃ n, readVarint bits ba = .ok n (ba.advanced room) ∧ At (ba.advanced room) rest := by
  have h0 := hw.room_pos
  have h1 := hw.lt_bits
  have h2 := hw.bits_le
  obtain ⟨result, hloop, hat, -⟩ :=
    readVarintLoop_passes bits hcode bits 0 0 (by omega) (by omega) h
  rw [hlen] at hloop hat
  refine ⟨result, ?_, hat⟩
  rw [readVarint, hloop]
  cases bits - room with
  | zero => rfl
  | succ passes =>
    rw [readVarintLoop, if_neg (by omega)]
    rfl

/-- Data that ends inside a code is used up before the loop throws. -/
theorem readVarint_short (hw : Width bits room) {code : List UInt8}
    (hlen : code.length < room) (hcode : ∀ b ∈ code, 0x80 ≤ b.toNat) (h : At ba code) :
    readVarint bits ba = .error (.outOfRange "not enough len") (ba.advanced code.length) := by
  have h1 := hw.lt_bits
  rw [← List.append_nil code] at h
  obtain ⟨result, hloop, hat, -⟩ :=
    readVarintLoop_passes bits hcode bits 0 0 (by omega) (by omega) h
  have hend := hat.length
  have hread : readFuint8 (ba.advanced code.length)
      = .error (.outOfRange "not enough len") (ba.advanced code.length) :=
    bind_error (read_short (by rw [← hend]; decide))
  obtain ⟨passes, hpasses⟩ : ∃ p, bits - code.length = p + 1 := ⟨bits - code.length - 1, by omega⟩
  rw [readVarint, hloop, hpasses, readVarintLoop, if_pos (by omega), bind_error hread]

/-- What is left of the array when the number was read. -/
theorem readVarint_moved (hw : Width bits room) (h : Inv ba) {n : Nat} {ba' : ByteArray}
    (hok : readVarint bits ba = .ok n ba') : ba.position < ba'.position ∧ Inv ba' := by
  have h0 := hw.room_pos
  rcases terminated_or room ba.unread with ⟨code, rest, heq, hlen, hcode⟩
    | ⟨code, rest, heq, hlen, hcode⟩ | ⟨hlen, hcode⟩
  · obtain ⟨hread, hat⟩ := readVarint_terminated hw hlen hcode (heq ▸ h.at_unread)
    rw [hread] at hok
    cases hok
    obtain ⟨init, last, rfl, -⟩ := hcode
    exact ⟨by simp [advanced], hat.1⟩
  · obtain ⟨n', hread, hat⟩ := readVarint_overlong hw hlen hcode (heq ▸ h.at_unread)
    rw [hread] at hok
    cases hok
    exact ⟨by simp [advanced, h0], hat.1⟩
  · rw [readVarint_short hw hlen hcode h.at_unread] at hok
    cases hok

theorem Fails.varint (h : Inv ba) (hw : Width bits room) {T : ByteArray → Prop}
    (hT : ∀ ba', T ba' ↔ RawThrows (readVarint bits) ba ba') (e : Endian) :
    Fails T (Complete e (.varint bits room) ba.unread) 1 ba := by
  have h0 := hw.room_pos
  refine Fails.congr ?_ hT
  refine
    { returns := ?_
      short := ?_
      moved := ?_ }
  · rintro ⟨code, rest, heq, hlen, hcode⟩ ba' ⟨what, herr⟩
    rw [(readVarint_terminated hw hlen hcode (heq ▸ h.at_unread)).1] at herr
    cases herr
  · intro hs
    have hnil : ba.unread = [] := List.length_eq_zero_iff.mp (by omega)
    have hshort := @readVarint_short ba _ _ hw ba.unread (by omega) (by simp [hnil]) h.at_unread
    rw [hnil, List.length_nil, h.advanced_zero] at hshort
    refine ⟨?_, fun ba' => by simp [RawThrows, hshort, eq_comm]⟩
    rintro ⟨code, rest, heq, -, init, last, rfl, -⟩
    simp [hnil] at heq
  · rintro hnot hlen ba' ⟨what, herr⟩
    rcases terminated_or room ba.unread with
      hterm | ⟨code, rest, heq, hroom, hcode⟩ | ⟨hroom, hcode⟩
    · exact absurd hterm hnot
    · obtain ⟨n, hread, -⟩ := readVarint_overlong hw hroom hcode (heq ▸ h.at_unread)
      rw [hread] at herr
      cases herr
    · rw [readVarint_short hw hroom hcode h.at_unread] at herr
      cases herr
      exact Nat.lt_add_of_pos_right hlen

end varint

/-! ## Strings -/

section strings

variable {ba : ByteArray}

/-- A string reader throws where its length reader does, and where the payload is short. -/
theorem throws_readBuffer {resize : Nat → Option ResizeFault} {len : Op Nat}
    (hinv : ∀ n s, len ba = .ok n s → Inv s) {ba' : ByteArray} :
    Throws (readBuffer resize len) ba ba' ↔ RawThrows len ba ba'
      ∨ ∃ n, len ba = .ok n ba' ∧ resize n = none ∧ ba'.getReadSize < n := by
  cases hlen : len ba with
  | error f s =>
    have hr : reader len ba = .error (.raised f) s := by rw [reader, hlen]
    simp [Throws, RawThrows, readBuffer, bind_error hr, hlen]
  | ok n s =>
    have hr : reader len ba = .ok n s := by rw [reader, hlen]
    have hraw : ¬ RawThrows len ba ba' := by simp [RawThrows, hlen]
    have hbuf : readBuffer resize len ba
        = (match resize n with
          | some f => throw (ReadFault.resize f)
          | none => reader (ByteArray.read n) : Reader (List UInt8)) s := bind_ok hr
    rw [Throws, hbuf]
    cases hres : resize n with
    | some f =>
      have hthrow : (throw (ReadFault.resize f) : Reader (List UInt8)) s
          = .error (.resize f) s := rfl
      simp [hthrow, hraw, hres]
    | none =>
      have hread := throws_reader.trans (@rawThrows_read s (hinv n s hlen) n ba')
      rw [Throws] at hread
      simp only [hread, hraw, false_or]
      constructor
      · rintro ⟨hlt, rfl⟩
        exact ⟨n, rfl, hres, hlt⟩
      · rintro ⟨m, hm, -, hlt⟩
        cases hm
        exact ⟨hlt, rfl⟩

/-- A string reader over a length reader whose failures are known. -/
theorem Fails.buffer {resize : Nat → Option ResizeFault} {len : Op Nat} {lengthComplete : Prop}
    {complete : Prop} {first : Nat} (hl : Fails (RawThrows len ba) lengthComplete first ba)
    (hok : ∀ n s, len ba = .ok n s → ba.position < s.position ∧ Inv s)
    (hc : complete → ∃ n s, len ba = .ok n s ∧ n ≤ s.getReadSize)
    (hlength : complete → lengthComplete) :
    Fails (Throws (readBuffer resize len) ba) complete first ba := by
  refine Fails.congr ?_ fun ba' => throws_readBuffer fun n s h => (hok n s h).2
  refine
    { returns := ?_
      short := ?_
      moved := ?_ }
  · rintro hcomplete ba' (hraw | ⟨n, hn, -, hlt⟩)
    · exact hl.returns (hlength hcomplete) ba' hraw
    · obtain ⟨m, s, hm, hle⟩ := hc hcomplete
      rw [hm] at hn
      cases hn
      omega
  · intro hs
    obtain ⟨hnot, hthrow⟩ := hl.short hs
    refine ⟨fun hcomplete => hnot (hlength hcomplete), fun ba' => ?_⟩
    rw [hthrow]
    refine or_iff_left ?_
    rintro ⟨n, hn, -⟩
    obtain ⟨what, herr⟩ := (hthrow ba).mpr rfl
    rw [herr] at hn
    cases hn
  · rintro - hlen ba' (hraw | ⟨n, hn, -, -⟩)
    · exact hl.moved (fun hcomplete => hl.returns hcomplete ba' hraw) hlen ba' hraw
    · exact (hok n ba' hn).1

/-- A string behind a length of fixed width. -/
theorem Fails.fixedString (h : Inv ba) {resize : Nat → Option ResizeFault} {len : Op Nat}
    {width : Nat} (hwidth : 0 < width)
    (hT : ∀ ba', RawThrows len ba ba' ↔ RawThrows (ByteArray.read width) ba ba')
    (hlen : ∀ n rest, n < 256 ^ width → At ba (fixedBytes ba.endian width n ++ rest) →
      len ba = .ok n (ba.advanced width) ∧ At (ba.advanced width) rest) :
    Fails (Throws (readBuffer resize len) ba) (Complete ba.endian (.fixedString width) ba.unread)
      width ba := by
  have hunread := h.at_unread.length
  -- the field is there, or the raw read throws
  have hfield : width ≤ ba.unread.length →
      len ba = .ok (fixedValue ba.endian (ba.unread.take width)) (ba.advanced width)
        ∧ At (ba.advanced width) (ba.unread.drop width) := by
    intro hle
    have htake : (ba.unread.take width).length = width := by rw [List.length_take]; omega
    have hvalue := fixedValue_lt ba.endian (ba.unread.take width)
    have hbytes := fixedBytes_fixedValue ba.endian (ba.unread.take width)
    rw [htake] at hvalue hbytes
    refine hlen _ _ hvalue ?_
    rw [hbytes, List.take_append_drop]
    exact h.at_unread
  have hmoved : ∀ n s, len ba = .ok n s → ba.position < s.position ∧ Inv s := by
    intro n s hok
    by_cases hle : width ≤ ba.unread.length
    · obtain ⟨hread, hat⟩ := hfield hle
      rw [hread] at hok
      cases hok
      exact ⟨by simp [advanced, hwidth], hat.1⟩
    · obtain ⟨what, herr⟩ := (hT ba).mpr ((rawThrows_read h).mpr ⟨by omega, rfl⟩)
      rw [herr] at hok
      cases hok
  refine Fails.buffer (Fails.fixed h hT ba.endian) hmoved ?_ And.left
  rintro ⟨hle, hpayload⟩
  obtain ⟨hread, hat⟩ := hfield hle
  refine ⟨_, _, hread, ?_⟩
  rw [← hat.length, List.length_drop]
  exact hpayload

/-- A string behind one of the fixed-width integers. -/
theorem Fails.sizedString (h : Inv ba) {resize : Nat → Option ResizeFault} {width : Nat}
    {ofNat : Nat → α} {toNat : α → Nat} (hwidth : 0 < width)
    (hvalue : ∀ n, n < 256 ^ width → toNat (ofNat n) = n) :
    Fails (Throws (readBuffer resize do
        return toNat (← (do return ofNat (← readFixed width) : Op α))) ba)
      (Complete ba.endian (.fixedString width) ba.unread) width ba := by
  refine .fixedString h hwidth
    (fun _ => rawThrows_map.trans <| rawThrows_map.trans rawThrows_readFixed) ?_
  intro n rest hn hat
  obtain ⟨hread, hat'⟩ := readFixed_at hwidth hn hat
  refine ⟨?_, hat'⟩
  rw [bind_assoc, bind_ok hread, pure_bind, hvalue n hn]
  rfl

/-- A string behind a varint. -/
theorem Fails.varintString (h : Inv ba) {resize : Nat → Option ResizeFault} {bits room : Nat}
    (hw : Width bits room) (e : Endian) :
    Fails (Throws (readBuffer resize do return (← readVarint bits) % 2 ^ bits) ba)
      (Complete e (.varintString bits room) ba.unread) 1 ba := by
  have hmoved : ∀ n s, (do return (← readVarint bits) % 2 ^ bits : Op Nat) ba = .ok n s →
      ba.position < s.position ∧ Inv s := by
    intro n s hok
    cases hread : readVarint bits ba with
    | ok m s' =>
      rw [bind_ok hread] at hok
      cases hok
      exact readVarint_moved hw h hread
    | error f s' =>
      rw [bind_error hread] at hok
      cases hok
  refine Fails.buffer (Fails.varint h hw (fun _ => rawThrows_map) e) hmoved ?_ ?_
  · rintro ⟨code, rest, heq, hle, hcode, hpayload⟩
    obtain ⟨hread, hat⟩ := readVarint_terminated hw hle hcode (heq ▸ h.at_unread)
    refine ⟨_, _, bind_ok hread, ?_⟩
    rw [← hat.length, Nat.mod_mod]
    exact hpayload
  · rintro ⟨code, rest, heq, hle, hcode, -⟩
    exact ⟨code, rest, heq, hle, hcode⟩

end strings

/-! ## Every reader -/

section readers

variable {ba : ByteArray}

theorem width32 : Width 32 5 := ⟨by decide, by decide, by decide⟩

theorem width64 : Width 64 10 := ⟨by decide, by decide, by decide⟩

theorem readTyped_fails (h : Inv ba) (resize : Nat → Option ResizeFault) (k : Kind) :
    Fails (Throws (readTyped resize k) ba) (Complete ba.endian k.shape ba.unread) k.shape.first
      ba := by
  have hstring : ∀ {m : Reader (List UInt8)} {f : List UInt8 → Value} {c : Prop} {first : Nat},
      Fails (Throws m ba) c first ba → Fails (Throws (m >>= fun s => pure (f s)) ba) c first ba :=
    fun hm => hm.congr fun _ => throws_map
  cases k
  case fint8 =>
    exact .fixed h (fun _ => throws_reader.trans <| rawThrows_map.trans <| rawThrows_map.trans
      rawThrows_readFuint8) _
  case fuint8 =>
    exact .fixed h (fun _ => throws_reader.trans <| rawThrows_map.trans rawThrows_readFuint8) _
  case fint16 | fint32 | fint64 =>
    exact .fixed h (fun _ => throws_reader.trans <| rawThrows_map.trans <| rawThrows_map.trans <|
      rawThrows_map.trans rawThrows_readFixed) _
  case fuint16 | fuint32 | fuint64 | float | double =>
    exact .fixed h (fun _ => throws_reader.trans <| rawThrows_map.trans <| rawThrows_map.trans
      rawThrows_readFixed) _
  case int32 =>
    exact .varint h width32 (fun _ => throws_reader.trans <| rawThrows_map.trans <|
      rawThrows_map.trans rawThrows_map) _
  case uint32 =>
    exact .varint h width32 (fun _ => throws_reader.trans <| rawThrows_map.trans rawThrows_map) _
  case int64 =>
    exact .varint h width64 (fun _ => throws_reader.trans <| rawThrows_map.trans <|
      rawThrows_map.trans rawThrows_map) _
  case uint64 =>
    exact .varint h width64 (fun _ => throws_reader.trans <| rawThrows_map.trans rawThrows_map) _
  case stringF16 =>
    exact hstring (.sizedString h (by decide) fun n => UInt16.toNat_ofNat_of_lt')
  case stringF32 =>
    exact hstring (.sizedString h (by decide) fun n => UInt32.toNat_ofNat_of_lt')
  case stringF64 =>
    exact hstring (.sizedString h (by decide) fun n => UInt64.toNat_ofNat_of_lt')
  case stringVint =>
    have hlen : (do return (← readUint64).toNat : Op Nat)
        = do return (← readVarint 64) % 2 ^ 64 := by
      simp only [readUint64, bind_assoc, pure_bind, UInt64.toNat_ofNat']
    have hbuffer := @Fails.varintString ba h resize _ _ width64 ba.endian
    rw [← hlen] at hbuffer
    exact hstring hbuffer

/-- A typed reader throws exactly on incomplete data and leaves no trace when it does, if
and only if the data is complete or the first raw read fails. -/
theorem failsCleanly_iff (h : Inv ba) (resize : Nat → Option ResizeFault) (k : Kind) :
    FailsCleanly (readTyped resize k) (Complete ba.endian k.shape ba.unread) ba
      ↔ Complete ba.endian k.shape ba.unread ∨ ba.unread.length < k.shape.first :=
  (readTyped_fails h resize k).cleanly_iff

end readers

/-- An array of one block that was given three bytes and rewound. -/
def threeBytes : ByteArray :=
  match (do write (fun _ _ => 0) [5, 0, 7]; setPosition 0 : Op Unit) (new (fun _ _ => 0) 4) with
  | .ok _ ba => ba
  | .error _ ba => ba

theorem threeBytes_inv : Inv threeBytes where
  baseSize_pos := by decide
  root_pos := by decide
  blocks := by unfold Blocks; decide
  capacity_eq := by decide
  position_le := by decide
  size_le := by decide
  cur_eq := by decide

/-- Four bytes are asked for at once, and three are there. -/
theorem failsCleanly_iff_fuint32 :
    FailsCleanly (readTyped (fun _ => none) .fuint32)
      (Complete threeBytes.endian Kind.fuint32.shape threeBytes.unread) threeBytes :=
  (failsCleanly_iff threeBytes_inv (fun _ => none) .fuint32).mpr (.inr (by decide))

/-- The string at the cursor has five bytes, of which two are there: the reader throws
with the length already taken. -/
theorem readString_takes_length :
    ∃ ba, readTyped (fun _ => none) .stringVint threeBytes
        = .error (.raised (.outOfRange "not enough len")) ba
      ∧ threeBytes.position = 0 ∧ ba.position = 1
      ∧ ¬ FailsCleanly (readTyped (fun _ => none) .stringVint)
          (Complete threeBytes.endian Kind.stringVint.shape threeBytes.unread) threeBytes := by
  have hread : readTyped (fun _ => none) .stringVint threeBytes
      = .error (.raised (.outOfRange "not enough len")) (threeBytes.advanced 1) := rfl
  refine ⟨_, hread, rfl, rfl, ?_⟩
  rintro ⟨-, hsame⟩
  have hpos := (hsame _ ⟨_, hread⟩).1
  revert hpos
  decide

end ByteArray

end HrServer
