/-
HrServer.ByteArray.Invariant — the representation invariant over whole
runs of every member function.

`Preserves m` says that `m`, started on a well-formed array, leaves one
behind when it returns and also when it throws; a null dereference is left
out, since nothing runs after it. It is closed under sequencing, so the
typed readers and writers follow from the raw operations, and
`reachable_representation` from one call to any list of calls.
-/
import HrServer.Lib.Program
import HrServer.Lib.Run
import HrServer.ByteArray.CoreTheorems
import HrServer.ByteArray.Codec

namespace HrServer

open Lib

namespace ByteArray

variable {α β : Type}

/-- The array is well formed, with blocks of size `B`. -/
def WellFormed (B : Nat) (ba : ByteArray) : Prop := Inv ba ∧ ba.baseSize = B

/-- What a fault leaves: behind an exception the program goes on. -/
def Raised (B : Nat) : Fault → ByteArray → Prop
  | .outOfRange _, ba => WellFormed B ba
  | .segv, _ => True

/-- `m` keeps arrays well formed, whether it returns or throws. -/
def Preserves (m : Op α) : Prop :=
  ∀ B, Triple (WellFormed B) m (fun _ => WellFormed B) (Raised B)

/-! ## Sequencing -/

theorem Preserves.pure (a : α) : Preserves (pure a : Op α) := fun _ => Triple.pure fun _ => id

theorem Preserves.get : Preserves (get : Op ByteArray) := fun _ => Triple.get fun _ => id

theorem Preserves.throw (f : Fault) : Preserves (throw f : Op α) := by
  refine fun B => Triple.throw fun ba h => ?_
  cases f with
  | outOfRange what => exact h
  | segv => trivial

theorem Preserves.bind {m : Op α} {k : α → Op β} (hm : Preserves m) (hk : ∀ a, Preserves (k a)) :
    Preserves (m >>= k) := fun B => (hm B).bind fun a => hk a B

/-! ## The raw operations -/

section raw

variable (fresh : Nat → Nat → UInt8)

theorem preserves_write (bs : List UInt8) : Preserves (write fresh bs) := by
  rintro B ba ⟨h, rfl⟩
  obtain ⟨ba', hw, spec⟩ := write_spec fresh h bs
  rw [hw]
  exact ⟨spec.inv, spec.baseSize_eq⟩

/-- The case left out is the null dereference of an empty read at the end. -/
theorem preserves_read (n : Nat) : Preserves (read n) := by
  rintro B ba ⟨h, rfl⟩
  by_cases hn : n ≤ ba.getReadSize
  · by_cases hp : ba.position < ba.capacity
    · rw [read_eq h hn hp]
      exact ⟨h.advanced hn, rfl⟩
    · have hend : ba.position = ba.capacity := Nat.le_antisymm h.position_le_capacity (by omega)
      have h0 : n = 0 := by
        have := h.size_le
        unfold getReadSize at hn
        omega
      rw [h0, read_zero_at_end h hend]
      trivial
  · rw [read_short (Nat.lt_of_not_le hn)]
    exact ⟨h, rfl⟩

theorem preserves_setPosition (v : Nat) : Preserves (setPosition v) := by
  rintro B ba ⟨h, rfl⟩
  by_cases hv : v ≤ ba.capacity
  · rw [setPosition_eq h hv]
    exact ⟨h.positioned hv, rfl⟩
  · rw [setPosition_beyond (Nat.lt_of_not_le hv)]
    exact ⟨h, rfl⟩

theorem preserves_clear : Preserves clear := by
  rintro B ba ⟨h, rfl⟩
  rw [clear_eq]
  exact ⟨h.cleared, rfl⟩

theorem preserves_setIsLittleEndian (val : Bool) : Preserves (setIsLittleEndian val) := by
  rintro B ba ⟨h, rfl⟩
  exact ⟨{ h with }, rfl⟩

/-- The `const` buffer functions leave the array as it was. -/
theorem preserves_of_unchanged {m : Op α}
    (hm : ∀ ba, (∃ a, m ba = .ok a ba) ∨ (∃ s, m ba = .error .segv s)) : Preserves m := by
  intro B ba h
  rcases hm ba with ⟨a, ha⟩ | ⟨s, hs⟩
  · rw [ha]; exact h
  · rw [hs]; trivial

theorem preserves_getReadBuffers (len : Nat) : Preserves (getReadBuffers len) := by
  apply preserves_of_unchanged
  intro ba
  simp only [getReadBuffers]
  generalize (if len > ba.getReadSize then ba.getReadSize else len) = n
  split
  · exact .inl ⟨_, rfl⟩
  · split
    · exact .inr ⟨_, rfl⟩
    · split
      · exact .inr ⟨_, rfl⟩
      · exact .inl ⟨_, rfl⟩

theorem preserves_getReadBuffersAt (len position : Nat) :
    Preserves (getReadBuffersAt len position) := by
  apply preserves_of_unchanged
  intro ba
  simp only [getReadBuffersAt]
  generalize (if len > ba.getReadSize then ba.getReadSize else len) = n
  split
  · exact .inl ⟨_, rfl⟩
  · split
    · exact .inr ⟨_, rfl⟩
    · exact .inl ⟨_, rfl⟩

theorem preserves_getWriteBuffers (len : Nat) : Preserves (getWriteBuffers fresh len) := by
  rintro B ba ⟨h, rfl⟩
  obtain ⟨iovs, ba', hw, spec, -⟩ := getWriteBuffers_spec fresh h len
  rw [hw]
  exact ⟨spec.inv, spec.baseSize_eq⟩

/-! ## The typed operations -/

theorem preserves_writeFixed (k n : Nat) : Preserves (writeFixed fresh k n) :=
  Preserves.get.bind fun _ => preserves_write fresh _

theorem preserves_readFixed (k : Nat) : Preserves (readFixed k) :=
  (preserves_read k).bind fun _ => Preserves.get.bind fun _ => Preserves.pure _

theorem preserves_readFuint8 : Preserves readFuint8 :=
  (preserves_read 1).bind fun _ => Preserves.pure _

theorem preserves_writeVarint (room n : Nat) : Preserves (writeVarint fresh room n) := by
  unfold writeVarint
  cases varint room n with
  | some tmp => exact preserves_write fresh tmp
  | none => exact Preserves.throw .segv

theorem preserves_readVarintLoop (bits passes i result : Nat) :
    Preserves (readVarintLoop bits passes i result) := by
  induction passes generalizing i result with
  | zero => exact Preserves.pure result
  | succ passes ih =>
    unfold readVarintLoop
    split
    · refine preserves_readFuint8.bind fun b => ?_
      split
      · exact Preserves.pure _
      · exact ih _ _
    · exact Preserves.pure result

/-- A typed reader is a raw reader followed by a conversion. -/
theorem Preserves.convert {m : Op α} (hm : Preserves m) (f : α → β) :
    Preserves (m >>= fun a => Pure.pure (f a)) := hm.bind fun _ => Preserves.pure _

theorem preserves_readFuint16 : Preserves readFuint16 := (preserves_readFixed 2).convert _

theorem preserves_readFuint32 : Preserves readFuint32 := (preserves_readFixed 4).convert _

theorem preserves_readFuint64 : Preserves readFuint64 := (preserves_readFixed 8).convert _

theorem preserves_readUint32 : Preserves readUint32 :=
  (preserves_readVarintLoop 32 32 0 0).convert _

theorem preserves_readUint64 : Preserves readUint64 :=
  (preserves_readVarintLoop 64 64 0 0).convert _

end raw

/-! ## Runs -/

/-- A call of a member function with its arguments. -/
inductive Method where
  | write (bs : List UInt8)
  | read (n : Nat)
  | setPosition (v : Nat)
  | clear
  | setIsLittleEndian (val : Bool)
  | getReadBuffers (len : Nat)
  | getReadBuffersAt (len position : Nat)
  | getWriteBuffers (len : Nat)
  | writeFint8 (value : Int8)
  | writeFuint8 (value : UInt8)
  | writeFint16 (value : Int16)
  | writeFuint16 (value : UInt16)
  | writeFint32 (value : Int32)
  | writeFuint32 (value : UInt32)
  | writeFint64 (value : Int64)
  | writeFuint64 (value : UInt64)
  | writeInt32 (value : Int32)
  | writeUint32 (value : UInt32)
  | writeInt64 (value : Int64)
  | writeUint64 (value : UInt64)
  | writeFloat (value : UInt32)
  | writeDouble (value : UInt64)
  | writeStringF16 (value : List UInt8)
  | writeStringF32 (value : List UInt8)
  | writeStringF64 (value : List UInt8)
  | writeStringVint (value : List UInt8)
  | writeStringWithoutLength (value : List UInt8)
  | readFint8
  | readFuint8
  | readFint16
  | readFuint16
  | readFint32
  | readFuint32
  | readFint64
  | readFuint64
  | readInt32
  | readUint32
  | readInt64
  | readUint64
  | readFloat
  | readDouble
  | readStringF16
  | readStringF32
  | readStringF64
  | readStringVint

/-- Drop the value a member function returns. -/
def void (m : Op α) : Op Unit := m >>= fun _ => pure ()

/-- The call itself. -/
def Method.invoke (fresh : Nat → Nat → UInt8) : Method → Op Unit
  | write bs => ByteArray.write fresh bs
  | read n => void (ByteArray.read n)
  | setPosition v => ByteArray.setPosition v
  | clear => ByteArray.clear
  | setIsLittleEndian val => ByteArray.setIsLittleEndian val
  | getReadBuffers len => void (ByteArray.getReadBuffers len)
  | getReadBuffersAt len position => void (ByteArray.getReadBuffersAt len position)
  | getWriteBuffers len => void (ByteArray.getWriteBuffers fresh len)
  | writeFint8 value => ByteArray.writeFint8 fresh value
  | writeFuint8 value => ByteArray.writeFuint8 fresh value
  | writeFint16 value => ByteArray.writeFint16 fresh value
  | writeFuint16 value => ByteArray.writeFuint16 fresh value
  | writeFint32 value => ByteArray.writeFint32 fresh value
  | writeFuint32 value => ByteArray.writeFuint32 fresh value
  | writeFint64 value => ByteArray.writeFint64 fresh value
  | writeFuint64 value => ByteArray.writeFuint64 fresh value
  | writeInt32 value => ByteArray.writeInt32 fresh value
  | writeUint32 value => ByteArray.writeUint32 fresh value
  | writeInt64 value => ByteArray.writeInt64 fresh value
  | writeUint64 value => ByteArray.writeUint64 fresh value
  | writeFloat value => ByteArray.writeFloat fresh value
  | writeDouble value => ByteArray.writeDouble fresh value
  | writeStringF16 value => ByteArray.writeStringF16 fresh value
  | writeStringF32 value => ByteArray.writeStringF32 fresh value
  | writeStringF64 value => ByteArray.writeStringF64 fresh value
  | writeStringVint value => ByteArray.writeStringVint fresh value
  | writeStringWithoutLength value => ByteArray.writeStringWithoutLength fresh value
  | readFint8 => void ByteArray.readFint8
  | readFuint8 => void ByteArray.readFuint8
  | readFint16 => void ByteArray.readFint16
  | readFuint16 => void ByteArray.readFuint16
  | readFint32 => void ByteArray.readFint32
  | readFuint32 => void ByteArray.readFuint32
  | readFint64 => void ByteArray.readFint64
  | readFuint64 => void ByteArray.readFuint64
  | readInt32 => void ByteArray.readInt32
  | readUint32 => void ByteArray.readUint32
  | readInt64 => void ByteArray.readInt64
  | readUint64 => void ByteArray.readUint64
  | readFloat => void ByteArray.readFloat
  | readDouble => void ByteArray.readDouble
  | readStringF16 => void ByteArray.readStringF16
  | readStringF32 => void ByteArray.readStringF32
  | readStringF64 => void ByteArray.readStringF64
  | readStringVint => void ByteArray.readStringVint

theorem Preserves.void {m : Op α} (hm : Preserves m) : Preserves (ByteArray.void m) := hm.convert _

/-- Every member function keeps the array well formed. -/
theorem preserves_invoke (fresh : Nat → Nat → UInt8) (m : Method) :
    Preserves (m.invoke fresh) := by
  cases m with
  | write bs => exact preserves_write fresh bs
  | read n => exact (preserves_read n).void
  | setPosition v => exact preserves_setPosition v
  | clear => exact preserves_clear
  | setIsLittleEndian val => exact preserves_setIsLittleEndian val
  | getReadBuffers len => exact (preserves_getReadBuffers len).void
  | getReadBuffersAt len position => exact (preserves_getReadBuffersAt len position).void
  | getWriteBuffers len => exact (preserves_getWriteBuffers fresh len).void
  | writeFint8 value => exact preserves_write fresh [value.toUInt8]
  | writeFuint8 value => exact preserves_write fresh [value]
  | writeFint16 value => exact preserves_writeFixed fresh 2 _
  | writeFuint16 value => exact preserves_writeFixed fresh 2 _
  | writeFint32 value => exact preserves_writeFixed fresh 4 _
  | writeFuint32 value => exact preserves_writeFixed fresh 4 _
  | writeFint64 value => exact preserves_writeFixed fresh 8 _
  | writeFuint64 value => exact preserves_writeFixed fresh 8 _
  | writeInt32 value => exact preserves_writeVarint fresh 5 _
  | writeUint32 value => exact preserves_writeVarint fresh 5 _
  | writeInt64 value => exact preserves_writeVarint fresh 10 _
  | writeUint64 value => exact preserves_writeVarint fresh 10 _
  | writeFloat value => exact preserves_writeFixed fresh 4 _
  | writeDouble value => exact preserves_writeFixed fresh 8 _
  | writeStringF16 value =>
    exact (preserves_writeFixed fresh 2 _).bind fun _ => preserves_write fresh value
  | writeStringF32 value =>
    exact (preserves_writeFixed fresh 4 _).bind fun _ => preserves_write fresh value
  | writeStringF64 value =>
    exact (preserves_writeFixed fresh 8 _).bind fun _ => preserves_write fresh value
  | writeStringVint value =>
    exact (preserves_writeVarint fresh 10 _).bind fun _ => preserves_write fresh value
  | writeStringWithoutLength value => exact preserves_write fresh value
  | readFint8 => exact (preserves_readFuint8.convert _).void
  | readFuint8 => exact preserves_readFuint8.void
  | readFint16 => exact (preserves_readFuint16.convert _).void
  | readFuint16 => exact preserves_readFuint16.void
  | readFint32 => exact (preserves_readFuint32.convert _).void
  | readFuint32 => exact preserves_readFuint32.void
  | readFint64 => exact (preserves_readFuint64.convert _).void
  | readFuint64 => exact preserves_readFuint64.void
  | readInt32 => exact (preserves_readUint32.convert _).void
  | readUint32 => exact preserves_readUint32.void
  | readInt64 => exact (preserves_readUint64.convert _).void
  | readUint64 => exact preserves_readUint64.void
  | readFloat => exact preserves_readFuint32.void
  | readDouble => exact preserves_readFuint64.void
  | readStringF16 => exact (preserves_readFuint16.bind fun _ => preserves_read _).void
  | readStringF32 => exact (preserves_readFuint32.bind fun _ => preserves_read _).void
  | readStringF64 => exact (preserves_readFuint64.bind fun _ => preserves_read _).void
  | readStringVint => exact (preserves_readUint64.bind fun _ => preserves_read _).void

/-- One call: whether it threw and the array it left; `none` is a crash. -/
def callMethod (fresh : Nat → Nat → UInt8) (ba : ByteArray) (m : Method) :
    Option (Option Fault × ByteArray) :=
  match m.invoke fresh ba with
  | .ok _ ba' => some (none, ba')
  | .error (.outOfRange what) ba' => some (some (.outOfRange what), ba')
  | .error .segv _ => none

/-- A call that did not crash leaves the array well formed. -/
theorem Preserves.called {m : Op Unit} (hm : Preserves m) {B : Nat} {ba ba' : ByteArray}
    {f : Option Fault} (h : WellFormed B ba)
    (hc : (match m ba with
      | .ok _ ba' => some (none, ba')
      | .error (.outOfRange what) ba' => some (some (.outOfRange what), ba')
      | .error .segv _ => none) = some (f, ba')) : WellFormed B ba' := by
  have hp := hm B ba h
  split at hc
  · next hr => rw [hr] at hp; cases hc; exact hp
  · next hr => rw [hr] at hp; cases hc; exact hp
  · cases hc

theorem callMethod_wellFormed (fresh : Nat → Nat → UInt8) {B : Nat} {ba ba' : ByteArray}
    {m : Method} {f : Option Fault} (h : WellFormed B ba)
    (hc : callMethod fresh ba m = some (f, ba')) : WellFormed B ba' :=
  (preserves_invoke fresh m).called h hc

/-- **The representation invariant.** After every sequence of calls that did not
crash the chain has at least one node, all nodes have size `B`, the capacity
counts them, `position ≤ size ≤ capacity`, and `m_cur` is the node of the
position, null exactly at the end of the capacity. -/
theorem reachable_representation (fresh : Nat → Nat → UInt8) (B : Nat) (hB : 0 < B)
    (calls : List Method) (thrown : List (Option Fault)) (ba : ByteArray)
    (hrun : run (callMethod fresh) (new fresh B) calls = some (thrown, ba)) :
    1 ≤ ba.root.length ∧ (∀ n ∈ ba.root, n.size = B) ∧ ba.capacity = ba.root.length * B
      ∧ ba.position ≤ ba.size ∧ ba.size ≤ ba.capacity
      ∧ (ba.position < ba.capacity → ba.cur = some (ba.position / B))
      ∧ (ba.cur = none ↔ ba.position = ba.capacity) := by
  obtain ⟨h, rfl⟩ : WellFormed B ba :=
    run_invariant (fun _ _ _ _ hs hc => callMethod_wellFormed fresh hs hc) calls
      ⟨inv_new fresh hB, rfl⟩ hrun
  refine ⟨h.root_pos, h.blocks, h.capacity_eq, h.position_le, h.size_le, h.cur_of_lt, ?_⟩
  rw [h.cur_eq]
  constructor
  · intro hnone
    have hle := h.position_le_capacity
    by_contra hne
    rw [if_pos (by omega)] at hnone
    cases hnone
  · intro hend
    rw [if_neg (by omega)]

/-- A run with a throwing read in it, at block size 2. -/
theorem reachable_representation_two :
    ∃ thrown ba, run (callMethod fun _ _ => 0) (new (fun _ _ => 0) 2)
        [.writeUint32 300, .read 1, .setPosition 0, .readUint32] = some (thrown, ba)
      ∧ 1 ≤ ba.root.length ∧ (∀ n ∈ ba.root, n.size = 2) ∧ ba.capacity = ba.root.length * 2
      ∧ ba.position ≤ ba.size ∧ ba.size ≤ ba.capacity
      ∧ (ba.position < ba.capacity → ba.cur = some (ba.position / 2))
      ∧ (ba.cur = none ↔ ba.position = ba.capacity) := by
  have hgo : (run (callMethod fun _ _ => 0) (new (fun _ _ => 0) 2)
      [.writeUint32 300, .read 1, .setPosition 0, .readUint32]).isSome := by decide
  obtain ⟨⟨thrown, ba⟩, h⟩ := Option.isSome_iff_exists.mp hgo
  exact ⟨thrown, ba, h, reachable_representation (fun _ _ => 0) 2 (by decide) _ _ _ h⟩

end ByteArray

end HrServer
