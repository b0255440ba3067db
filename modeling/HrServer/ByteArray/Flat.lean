/-
HrServer.ByteArray.Flat — `ByteArray` as a flat byte buffer with a cursor.

The abstract machine knows nothing of nodes: it is a byte list `mem` whose
length is the capacity, a position and a data size. `FlatStep` says what a
call may do to it and what it reports. The content of fresh memory is left
open, so a call that grows the buffer appends any bytes of the right
number; everything else is determined.

`byteArray_refines_flat` is the refinement: from the constructor, every
sequence of calls on the node chain goes through without a null
dereference and reports what the flat machine reports.
-/
import HrServer.Lib.Run
import HrServer.ByteArray.CoreTheorems

namespace HrServer

open Lib

/-- The calls that move data or the cursor. A `read` asks for at least one byte. -/
inductive Call where
  | write (bs : List UInt8)
  | read (n : Nat) (pos : 1 ≤ n)
  | setPosition (v : Nat)
  | clear
  | getWriteBuffers (len : Nat)

/-- What a call reports to its caller. -/
inductive Out where
  | done
  | bytes (bs : List UInt8)
  | buffers (iovs : List Iovec) (len : Nat)
  | outOfRange (what : String)
  deriving DecidableEq

/-- The flat buffer. -/
structure Flat where
  mem : List UInt8
  pos : Nat
  size : Nat

namespace Flat

/-- The capacity is the length of the memory. -/
def capacity (f : Flat) : Nat := f.mem.length

/-- The bytes by which the buffer grows to take `n` more: whole nodes of size `B`. -/
def growth (B : Nat) (f : Flat) (n : Nat) : Nat :=
  ByteArray.ceilDiv (n - (f.capacity - f.pos)) B * B

/-- One call on the flat buffer. -/
inductive FlatStep (B : Nat) : Flat → Call → Out → Flat → Prop where
  | write (f : Flat) (bs junk : List UInt8) (grow : junk.length = f.growth B bs.length) :
      FlatStep B f (.write bs) .done
        { mem := splice (f.mem ++ junk) f.pos bs
          pos := f.pos + bs.length
          size := max f.size (f.pos + bs.length) }
  | readShort (f : Flat) (n : Nat) (pos : 1 ≤ n) (short : n > f.size - f.pos) :
      FlatStep B f (.read n pos) (.outOfRange "not enough len") f
  | read (f : Flat) (n : Nat) (pos : 1 ≤ n) (fits : n ≤ f.size - f.pos) :
      FlatStep B f (.read n pos) (.bytes (slice f.mem f.pos n)) { f with pos := f.pos + n }
  | setPositionBeyond (f : Flat) (v : Nat) (beyond : v > f.capacity) :
      FlatStep B f (.setPosition v) (.outOfRange "set_position out of range") f
  | setPosition (f : Flat) (v : Nat) (fits : v ≤ f.capacity) :
      FlatStep B f (.setPosition v) .done { f with pos := v, size := max f.size v }
  | clear (f : Flat) :
      FlatStep B f .clear .done { mem := f.mem.take B, pos := 0, size := 0 }
  | getWriteBuffers (f : Flat) (len : Nat) (junk : List UInt8) (iovs : List Iovec)
      (grow : junk.length = f.growth B len)
      (covers : ByteArray.Covers B f.pos iovs (f.pos + len)) :
      FlatStep B f (.getWriteBuffers len) (.buffers iovs len) { f with mem := f.mem ++ junk }

/-- The positions a call writes. -/
def Writes (f : Flat) : Call → Nat → Prop
  | .write bs, j => f.pos ≤ j ∧ j < f.pos + bs.length
  | _, _ => False

/-- A call leaves every byte outside the range it writes as it was. -/
def Frame (f : Flat) (c : Call) (f' : Flat) : Prop :=
  ∀ j, j < f.capacity → j < f'.capacity → ¬ f.Writes c j → f'.mem[j]? = f.mem[j]?

/-- A step with its frame condition. -/
def FramedStep (B : Nat) (f : Flat) (c : Call) (o : Out) (f' : Flat) : Prop :=
  FlatStep B f c o f' ∧ f.Frame c f'

/-- The grown memory reaches `n` bytes past the position. -/
theorem growth_covers {B : Nat} (hB : 0 < B) {f : Flat} (hpos : f.pos ≤ f.capacity) (n : Nat) :
    f.pos + n ≤ f.capacity + f.growth B n := by
  have := ByteArray.le_ceilDiv_mul hB (n - (f.capacity - f.pos))
  unfold growth
  omega

/-- Every step of the flat machine, from a position inside the memory, is framed. -/
theorem FlatStep.frame {B : Nat} (hB : 0 < B) {f f' : Flat} {c : Call} {o : Out}
    (h : FlatStep B f c o f') (hpos : f.pos ≤ f.capacity) : f.Frame c f' := by
  intro j hj hj' hw
  cases h with
  | write bs junk grow =>
    have hlen : f.pos + bs.length ≤ (f.mem ++ junk).length := by
      rw [List.length_append, grow]
      exact growth_covers hB hpos bs.length
    rw [getElem?_splice_outside hlen (by simp only [Writes] at hw; omega),
      List.getElem?_append_left hj]
  | readShort => rfl
  | read => rfl
  | setPositionBeyond => rfl
  | setPosition => rfl
  | clear =>
    have : j < B := by
      simp only [capacity, List.length_take] at hj'
      omega
    simp [this]
  | getWriteBuffers len junk iovs grow covers => rw [List.getElem?_append_left hj]

end Flat

namespace ByteArray

/-- The flat buffer a node chain stands for. -/
def toFlat (ba : ByteArray) : Flat := ⟨ba.bytes, ba.position, ba.size⟩

/-- Report the outcome of a member function; `none` is a null dereference. -/
def observe {α : Type} (report : α → Out) (m : Op α) (ba : ByteArray) :
    Option (Out × ByteArray) :=
  match m ba with
  | .ok a ba' => some (report a, ba')
  | .error (.outOfRange what) ba' => some (.outOfRange what, ba')
  | .error .segv _ => none

/-- One call on the node chain. -/
def perform (fresh : Nat → Nat → UInt8) (ba : ByteArray) : Call → Option (Out × ByteArray)
  | .write bs => observe (fun _ => .done) (write fresh bs) ba
  | .read n _ => observe .bytes (read n) ba
  | .setPosition v => observe (fun _ => .done) (setPosition v) ba
  | .clear => observe (fun _ => .done) clear ba
  | .getWriteBuffers len => observe (fun r => .buffers r.1 r.2) (getWriteBuffers fresh len) ba

/-- The simulation relation: a well-formed chain of blocks of size `B`, and its bytes. -/
def Represents (B : Nat) (ba : ByteArray) (f : Flat) : Prop :=
  Inv ba ∧ ba.baseSize = B ∧ f = ba.toFlat

theorem Inv.toFlat_capacity {ba : ByteArray} (h : Inv ba) : ba.toFlat.capacity = ba.capacity :=
  h.length_bytes

theorem Inv.toFlat_growth {ba : ByteArray} (h : Inv ba) (n : Nat) :
    ba.toFlat.growth ba.baseSize n = ba.growth n := by
  rw [Flat.growth, h.toFlat_capacity]
  rfl

open Flat in
/-- Each call goes through and does what the flat machine does. -/
theorem perform_simulates (fresh : Nat → Nat → UInt8) {ba : ByteArray} (h : Inv ba) (c : Call) :
    ∃ o ba', perform fresh ba c = some (o, ba') ∧ Inv ba' ∧ ba'.baseSize = ba.baseSize
      ∧ FlatStep ba.baseSize ba.toFlat c o ba'.toFlat := by
  cases c with
  | write bs =>
    obtain ⟨ba', hw, spec⟩ := write_spec fresh h bs
    obtain ⟨junk, hjunk, hbytes⟩ := spec.bytes_eq
    refine ⟨.done, ba', by simp only [perform, observe, hw], spec.inv, spec.baseSize_eq, ?_⟩
    have hflat : ba'.toFlat = ⟨splice (ba.bytes ++ junk) ba.position bs,
        ba.position + bs.length, max ba.size (ba.position + bs.length)⟩ := by
      rw [toFlat, hbytes, spec.position_eq, spec.size_eq]
    rw [hflat]
    exact FlatStep.write ba.toFlat bs junk (by rw [hjunk, h.toFlat_growth])
  | read n hn =>
    by_cases hfit : n ≤ ba.getReadSize
    · -- at least one byte is left, so the cursor is on a block
      have hlt : ba.position < ba.capacity := by
        have := h.size_le
        unfold getReadSize at hfit
        omega
      refine ⟨.bytes (slice ba.bytes ba.position n), ba.advanced n, ?_, h.advanced hfit, rfl,
        FlatStep.read ba.toFlat n hn hfit⟩
      simp only [perform, observe, read_eq h hfit hlt]
    · have hshort : ba.getReadSize < n := Nat.lt_of_not_le hfit
      exact ⟨.outOfRange "not enough len", ba, by simp only [perform, observe, read_short hshort],
        h, rfl, FlatStep.readShort ba.toFlat n hn hshort⟩
  | setPosition v =>
    by_cases hfit : v ≤ ba.capacity
    · exact ⟨.done, ba.positioned v, by simp only [perform, observe, setPosition_eq h hfit],
        h.positioned hfit, rfl,
        FlatStep.setPosition ba.toFlat v (by rw [h.toFlat_capacity]; exact hfit)⟩
    · have hbeyond : ba.capacity < v := Nat.lt_of_not_le hfit
      exact ⟨.outOfRange "set_position out of range", ba,
        by simp only [perform, observe, setPosition_beyond hbeyond], h, rfl,
        FlatStep.setPositionBeyond ba.toFlat v (by rw [h.toFlat_capacity]; exact hbeyond)⟩
  | clear =>
    refine ⟨.done, ba.cleared, by simp only [perform, observe, clear_eq], h.cleared, rfl, ?_⟩
    have hflat : ba.cleared.toFlat = ⟨ba.toFlat.mem.take ba.baseSize, 0, 0⟩ := by
      rw [toFlat, h.bytes_cleared]; rfl
    rw [hflat]
    exact FlatStep.clear ba.toFlat
  | getWriteBuffers len =>
    obtain ⟨iovs, ba', hw, spec, hcov⟩ := getWriteBuffers_spec fresh h len
    obtain ⟨junk, hjunk, hbytes⟩ := spec.bytes_eq
    refine ⟨.buffers iovs len, ba', by simp only [perform, observe, hw], spec.inv,
      spec.baseSize_eq, ?_⟩
    have hflat : ba'.toFlat = ⟨ba.bytes ++ junk, ba.position, ba.size⟩ := by
      rw [toFlat, hbytes, spec.position_eq, spec.size_eq]
    rw [hflat]
    exact FlatStep.getWriteBuffers ba.toFlat len junk iovs (by rw [hjunk, h.toFlat_growth]) hcov

/-- **`ByteArray` refines the flat buffer.** For every block size and every
sequence of calls on a fresh array, the node chain goes through (no call
dereferences a null node) and its reports and contents are those of a run of
the flat buffer, each step of which leaves the bytes outside the written range
as they were. -/
theorem byteArray_refines_flat (fresh : Nat → Nat → UInt8) (B : Nat) (hB : 0 < B)
    (calls : List Call) :
    ∃ outs ba, run (perform fresh) (new fresh B) calls = some (outs, ba)
      ∧ Trace (Flat.FramedStep B) (new fresh B).toFlat calls outs ba.toFlat := by
  have hstep : ∀ (ba : ByteArray) (f : Flat) (c : Call), Represents B ba f →
      ∃ o ba' f', perform fresh ba c = some (o, ba') ∧ Flat.FramedStep B f c o f'
        ∧ Represents B ba' f' := by
    rintro ba f c ⟨h, rfl, rfl⟩
    obtain ⟨o, ba', h1, h2, h3, h4⟩ := perform_simulates fresh h c
    have hpos : ba.toFlat.pos ≤ ba.toFlat.capacity := by
      rw [h.toFlat_capacity]; exact h.position_le_capacity
    exact ⟨o, ba', ba'.toFlat, h1, ⟨h4, h4.frame h.baseSize_pos hpos⟩, h2, h3, rfl⟩
  obtain ⟨outs, ba, f, h1, h2, -, -, rfl⟩ := run_simulates hstep calls
    (s := new fresh B) (t := (new fresh B).toFlat) ⟨inv_new fresh hB, rfl, rfl⟩
  exact ⟨outs, ba, h1, h2⟩

/-- The refinement at block size 2, over a write that fills two blocks and reads back. -/
theorem byteArray_refines_flat_two :
    0 < 2 ∧ ∃ outs ba,
      run (perform fun _ _ => 0) (new (fun _ _ => 0) 2)
          [.write [1, 2, 3, 4], .setPosition 1, .read 2 (by decide)] = some (outs, ba)
      ∧ Trace (Flat.FramedStep 2) (new (fun _ _ => 0) 2).toFlat
          [.write [1, 2, 3, 4], .setPosition 1, .read 2 (by decide)] outs ba.toFlat :=
  ⟨by decide, byteArray_refines_flat (fun _ _ => 0) 2 (by decide) _⟩

end ByteArray

end HrServer
