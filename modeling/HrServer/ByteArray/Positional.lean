/-
HrServer.ByteArray.Positional — the functions of `sylar/bytearray.cc` that
take a position of their own.

`read(buf, size, position)` and `getReadBuffers(buffers, len, position)` are
`const` and should not depend on the cursor, but both do. The first copies
from the block of `m_cur` on, at the offset that `position` has in its own
block, and its check `size > m_size - position` is done in `size_t`. The
second finds the right block and clamps the length with the size that is
left behind the cursor.

`readsAt_iff` and `buffersInside_iff` say exactly when each does what it is
for. `toString`, which reads at the cursor's own position, always does.
-/
import HrServer.ByteArray.Stream

namespace HrServer

open Lib

namespace ByteArray

/-! ## The functions -/

/-- `read(buf, size, position) const`. The difference wraps around below zero, and the
loop starts at `m_cur`. -/
def readAt (size position : UInt64) : Op (List UInt8) := fun ba =>
  if size > UInt64.ofNat ba.size - position then .error (.outOfRange "not enough len") ba
  else
    match ba.cur with
    | none => .error .segv ba
    | some c =>
      match readLoop (ba.root.drop c) (position.toNat % ba.baseSize) size.toNat position.toNat with
      | none => .error .segv ba
      | some (bs, _, _) => .ok bs ba

/-- `toString() const`. -/
def toString : Op (List UInt8) := fun ba =>
  if ba.getReadSize = 0 then .ok [] ba
  else readAt (UInt64.ofNat ba.getReadSize) (UInt64.ofNat ba.position) ba

/-! ## The chain from a block on -/

/-- A window that starts in the chain from block `c` on. -/
theorem slice_drop_blocks {B c : Nat} {nodes : List Node} (hb : Blocks B nodes)
    (hc : c ≤ nodes.length) (npos n : Nat) :
    slice (chainBytes (nodes.drop c)) npos n = slice (chainBytes nodes) (c * B + npos) n := by
  have hlen : (chainBytes (nodes.take c)).length = c * B := by
    rw [length_chainBytes (hb.take c), List.length_take, Nat.min_eq_left hc]
  rw [← hlen, ← slice_append_right, ← chainBytes_append, List.take_append_drop]

/-- The copy loop leaves the chain when the chain is too short. -/
theorem readLoop_none {B : Nat} (nodes : List Node) (npos n p : Nat) (hb : Blocks B nodes)
    (hnpos : npos < B) (hroom : nodes.length * B < npos + n) (hn : 0 < n) :
    readLoop nodes npos n p = none := by
  induction nodes generalizing npos n p with
  | nil => simp [readLoop, Nat.ne_of_gt hn]
  | cons cur next ih =>
    rw [List.length_cons, Nat.add_mul, Nat.one_mul] at hroom
    unfold readLoop
    simp only [hb.head]
    have hload : cur.load npos (B - npos) = some (slice cur.ptr npos (B - npos)) :=
      if_pos (by rw [hb.head]; omega)
    rw [if_neg (by omega), if_neg (by omega), hload,
      ih 0 (n - (B - npos)) (p + (B - npos)) hb.tail (by omega) (by omega) (by omega)]
    rfl

/-- The place the copy loop of `read(buf, size, position)` starts at. -/
def startAt (ba : ByteArray) (position : Nat) : Nat :=
  ba.position / ba.baseSize * ba.baseSize + position % ba.baseSize

section readAt

variable {ba : ByteArray}

theorem startAt_same_block {position : Nat}
    (h : position / ba.baseSize = ba.position / ba.baseSize) : ba.startAt position = position := by
  rw [startAt, ← h, Nat.div_add_mod']

/-- The comparison of `read(buf, size, position)` in terms of numbers. -/
theorem check_iff (hsize : ba.size < UInt64.size) (size position : UInt64) :
    size > UInt64.ofNat ba.size - position ↔
      if position.toNat ≤ ba.size then ba.size - position.toNat < size.toNat
      else ba.size + UInt64.size < position.toNat + size.toNat := by
  have hs : (UInt64.ofNat ba.size).toNat = ba.size := UInt64.toNat_ofNat_of_lt' hsize
  have h1 := size.toNat_lt
  have h2 := position.toNat_lt
  rw [gt_iff_lt, UInt64.lt_iff_toNat_lt, UInt64.toNat_sub, hs]
  simp only [UInt64.size] at hsize ⊢
  split <;> omega

/-- What the loop does once the check has passed. -/
theorem readAt_loop (h : Inv ba) (hp : ba.position < ba.capacity) {size position : UInt64}
    (hcheck : ¬ size > UInt64.ofNat ba.size - position) :
    readAt size position ba =
      if ba.startAt position.toNat + size.toNat ≤ ba.capacity then
        .ok (slice ba.bytes (ba.startAt position.toNat) size.toNat) ba
      else .error .segv ba := by
  have hB := h.baseSize_pos
  have hlt : ba.position / ba.baseSize < ba.root.length := by
    rw [Nat.div_lt_iff_lt_mul hB, ← h.capacity_eq]
    exact hp
  have hmod := Nat.mod_lt position.toNat hB
  have hrest : (ba.root.drop (ba.position / ba.baseSize)).length * ba.baseSize
      = ba.capacity - ba.position / ba.baseSize * ba.baseSize := by
    rw [List.length_drop, Nat.sub_mul, ← h.capacity_eq]
  have hbefore : ba.position / ba.baseSize * ba.baseSize + ba.baseSize ≤ ba.capacity := by
    rw [h.capacity_eq, ← Nat.succ_mul]
    exact Nat.mul_le_mul_right _ hlt
  simp only [readAt, if_neg hcheck, h.cur_of_lt hp]
  by_cases hfit : ba.startAt position.toNat + size.toNat ≤ ba.capacity
  · have hroom : position.toNat % ba.baseSize + size.toNat
        ≤ (ba.root.drop (ba.position / ba.baseSize)).length * ba.baseSize := by
      rw [startAt] at hfit
      omega
    rw [readLoop_spec _ _ _ _ (h.blocks.drop _) hmod hroom, if_pos hfit,
      slice_drop_blocks h.blocks (Nat.le_of_lt hlt)]
    rfl
  · have hroom : (ba.root.drop (ba.position / ba.baseSize)).length * ba.baseSize
        < position.toNat % ba.baseSize + size.toNat := by
      rw [startAt] at hfit
      omega
    rw [readLoop_none _ _ _ _ (h.blocks.drop _) hmod hroom (by omega), if_neg hfit]

/-- `toString` returns the readable bytes. -/
theorem toString_eq (h : Inv ba) (hcap : ba.capacity < UInt64.size) :
    toString ba = .ok (slice ba.bytes ba.position ba.getReadSize) ba := by
  have h1 := h.position_le
  have h2 := h.size_le
  unfold toString
  by_cases h0 : ba.getReadSize = 0
  · rw [if_pos h0, h0]
    simp [slice]
  · have hread : (UInt64.ofNat ba.getReadSize).toNat = ba.getReadSize :=
      UInt64.toNat_ofNat_of_lt' (by unfold getReadSize; omega)
    have hpos : (UInt64.ofNat ba.position).toNat = ba.position :=
      UInt64.toNat_ofNat_of_lt' (by omega)
    have hcheck : ¬ UInt64.ofNat ba.getReadSize
        > UInt64.ofNat ba.size - UInt64.ofNat ba.position := by
      rw [check_iff (by omega), hread, hpos, if_pos h1]
      unfold getReadSize
      omega
    have hlt : ba.position < ba.capacity := by
      unfold getReadSize at h0
      omega
    rw [if_neg h0, readAt_loop h hlt hcheck, hread, hpos, startAt_same_block rfl,
      if_pos (by unfold getReadSize; omega)]

/-! ## Reading at a position -/

/-- The read at `position` does what its name says. -/
def ReadsAt (ba : ByteArray) (size position : UInt64) : Prop :=
  if position.toNat ≤ ba.size ∧ size.toNat ≤ ba.size - position.toNat then
    readAt size position ba = .ok (slice ba.contents position.toNat size.toNat) ba
  else ∃ what, readAt size position ba = .error (.outOfRange what) ba

/-- When it does. Past the data, the request has to be so long that the wrapped
difference is below it; within it, the cursor has to stand on a block, and `position`
in the same one, unless the bytes of the two places happen to be the same. -/
def CursorServes (ba : ByteArray) (size position : UInt64) : Prop :=
  if ba.size < position.toNat then ba.size + UInt64.size < position.toNat + size.toNat
  else if ba.size - position.toNat < size.toNat then True
  else ba.position < ba.capacity
    ∧ (position.toNat / ba.baseSize = ba.position / ba.baseSize
      ∨ (ba.startAt position.toNat + size.toNat ≤ ba.capacity
        ∧ slice ba.bytes (ba.startAt position.toNat) size.toNat
          = slice ba.bytes position.toNat size.toNat))

theorem slice_contents {p n : Nat} (h : p + n ≤ ba.size) :
    slice ba.contents p n = slice ba.bytes p n := by
  rw [contents, slice, slice, List.drop_take, List.take_take, Nat.min_eq_left (by omega)]

/-- What `setPosition` and `read` deliver on a copy. -/
theorem setPosition_read (h : Inv ba) {p n : Nat} (hn : p + n ≤ ba.size) (hp : p < ba.capacity) :
    ∃ ba1 ba2, setPosition p ba = .ok () ba1 ∧ read n ba1 = .ok (slice ba.contents p n) ba2 := by
  have hread := read_eq (h.positioned (Nat.le_of_lt hp)) (n := n)
    (by simp only [positioned, getReadSize]; omega) hp
  rw [slice_contents hn]
  exact ⟨_, _, setPosition_eq h (Nat.le_of_lt hp), hread⟩

/-- A read that the data does not cover, at a position that it does cover. -/
theorem readAt_short (hsize : ba.size < UInt64.size) {size position : UInt64}
    (hpos : position.toNat ≤ ba.size) (hn : ba.size - position.toNat < size.toNat) :
    readAt size position ba = .error (.outOfRange "not enough len") ba :=
  if_pos ((check_iff hsize size position).mpr (by rw [if_pos hpos]; exact hn))

/-- A read that the data covers. -/
theorem readsAt_inside (h : Inv ba) (hsize : ba.size < UInt64.size) {size position : UInt64}
    (hpos : position.toNat ≤ ba.size) (hn : size.toNat ≤ ba.size - position.toNat) :
    readAt size position ba = .ok (slice ba.contents position.toNat size.toNat) ba
      ↔ ba.position < ba.capacity ∧ ba.startAt position.toNat + size.toNat ≤ ba.capacity
        ∧ slice ba.bytes (ba.startAt position.toNat) size.toNat
          = slice ba.bytes position.toNat size.toNat := by
  have hcheck : ¬ size > UInt64.ofNat ba.size - position := by
    rw [check_iff hsize, if_pos hpos]
    omega
  rw [slice_contents (by omega)]
  by_cases hp : ba.position < ba.capacity
  · rw [readAt_loop h hp hcheck]
    split
    · next hfit => simp [hp, hfit]
    · next hfit => simp [hfit]
  · have hcur : ba.cur = none := by rw [h.cur_eq, if_neg hp]
    simp [readAt, hcheck, hcur, hp]

/-- `read(buf, size, position)` does what its name says exactly when the cursor serves
the position; what it should deliver is what `setPosition` and `read` deliver. -/
theorem readsAt_iff (h : Inv ba) (hcap : ba.capacity < UInt64.size) (size position : UInt64) :
    (ReadsAt ba size position ↔ CursorServes ba size position)
      ∧ (position.toNat + size.toNat ≤ ba.size → position.toNat < ba.capacity →
          ∃ ba1 ba2, setPosition position.toNat ba = .ok () ba1
            ∧ read size.toNat ba1 = .ok (slice ba.contents position.toNat size.toNat) ba2) := by
  have hle := h.size_le
  have hsize : ba.size < UInt64.size := by omega
  refine ⟨?_, setPosition_read h⟩
  unfold ReadsAt CursorServes
  by_cases hpos : ba.size < position.toNat
  · rw [if_neg (by omega), if_pos hpos]
    have hcheck := check_iff hsize size position
    rw [if_neg (by omega)] at hcheck
    rw [← hcheck]
    constructor
    · rintro ⟨what, herr⟩
      by_contra hnot
      simp only [readAt, if_neg hnot] at herr
      split at herr
      · cases herr
      · split at herr <;> cases herr
    · intro hgt
      exact ⟨_, if_pos hgt⟩
  · rw [if_neg hpos]
    by_cases hn : ba.size - position.toNat < size.toNat
    · rw [if_neg (by omega), if_pos hn]
      exact iff_of_true ⟨_, readAt_short hsize (by omega) hn⟩ trivial
    · rw [if_pos (by omega), if_neg hn, readsAt_inside h hsize (by omega) (by omega)]
      constructor
      · rintro ⟨hp, hfit, heq⟩
        exact ⟨hp, .inr ⟨hfit, heq⟩⟩
      · rintro ⟨hp, hblock | hsame⟩
        · rw [startAt_same_block hblock]
          exact ⟨hp, by omega, rfl⟩
        · exact ⟨hp, hsame⟩

end readAt

/-- Six bytes over blocks of four, with the cursor back at the start. -/
def sixBytes : Op Unit := do
  write (fun _ _ => 0) [1, 2, 3, 4, 5, 6]
  setPosition 0

/-- The array that `sixBytes` leaves. -/
def sixBytesArray : ByteArray :=
  match sixBytes (new (fun _ _ => 0) 4) with
  | .ok _ ba => ba
  | .error _ ba => ba

theorem sixBytesArray_inv : Inv sixBytesArray where
  baseSize_pos := by decide
  root_pos := by decide
  blocks := by unfold Blocks; decide
  capacity_eq := by decide
  position_le := by decide
  size_le := by decide
  cur_eq := by decide

/-- A read in the block of the cursor. -/
theorem readsAt_iff_same_block : ReadsAt sixBytesArray 2 1 :=
  (readsAt_iff sixBytesArray_inv (by decide) 2 1).1.mpr (by unfold CursorServes; decide)

/-- The byte at 5 is read from the block of the cursor, as the one at 1. -/
theorem readAt_other_block :
    sixBytes (new (fun _ _ => 0) 4) = .ok () sixBytesArray
      ∧ readAt 1 5 sixBytesArray = .ok [2] sixBytesArray
      ∧ slice sixBytesArray.contents 5 1 = [6] ∧ ¬ ReadsAt sixBytesArray 1 5 := by
  have hread : readAt 1 5 sixBytesArray = .ok [2] sixBytesArray := rfl
  refine ⟨rfl, hread, rfl, ?_⟩
  intro h
  rw [ReadsAt, if_pos (by decide), hread] at h
  injection h with hbytes
  revert hbytes
  decide

/-! ## Buffers at a position -/

/-- The buffers of `getReadBuffers(buffers, len, position)` describe data from `position`
on, and nothing else. -/
def BuffersInside (ba : ByteArray) (len position : Nat) : Prop :=
  ∃ iovs r, getReadBuffersAt len position ba = .ok (iovs, r) ba
    ∧ Covers ba.baseSize position iovs (position + r)
    ∧ gather iovs r ba.root = some (slice ba.contents position r)
    ∧ position + r ≤ ba.size

section buffers

variable {ba : ByteArray} {position : Nat}

/-- What the function returns as the length, when it returns. -/
theorem getReadBuffersAt_length {len r : Nat} {iovs : List Iovec} {ba' : ByteArray}
    (h : getReadBuffersAt len position ba = .ok (iovs, r) ba') :
    r = min len ba.getReadSize := by
  have hlen : (if len > ba.getReadSize then ba.getReadSize else len) = min len ba.getReadSize := by
    split <;> omega
  simp only [getReadBuffersAt, hlen] at h
  split at h
  · cases h
    omega
  · split at h
    · cases h
    · cases h
      rfl

/-- The buffers of `r > 0` bytes from `position` on. -/
theorem iovLoop_at (h : Inv ba) {r : Nat} (hr : 0 < r) (hroom : position + r ≤ ba.capacity) :
    ∃ iovs, iovLoop (ba.root.drop (position / ba.baseSize)) (position / ba.baseSize)
        (position % ba.baseSize) r = some iovs
      ∧ Covers ba.baseSize position iovs (position + r) := by
  -- the cursor of a copy, moved to `position`
  have hcopy := h.positioned (v := position) (by omega)
  exact iovLoop_at_position hcopy hr hroom

/-- The buffers stay inside the data exactly when the position is not behind the cursor
or the length asked for fits behind it. -/
theorem buffersInside_iff (h : Inv ba) (len : Nat) (hpos : position ≤ ba.size) :
    BuffersInside ba len position ↔ position ≤ ba.position ∨ position + len ≤ ba.size := by
  have h1 := h.position_le
  have h2 := h.size_le
  have hfits : position + min len ba.getReadSize ≤ ba.size
      ↔ position ≤ ba.position ∨ position + len ≤ ba.size := by
    unfold getReadSize
    omega
  rw [← hfits]
  constructor
  · rintro ⟨iovs, r, hok, -, -, hle⟩
    rw [← getReadBuffersAt_length hok]
    exact hle
  · intro hle
    have hlen : (if len > ba.getReadSize then ba.getReadSize else len)
        = min len ba.getReadSize := by
      split <;> omega
    by_cases h0 : min len ba.getReadSize = 0
    · refine ⟨[], 0, ?_, rfl, by simp [gather, slice], hpos⟩
      simp [getReadBuffersAt, hlen, h0]
    · have hroom : position + min len ba.getReadSize ≤ ba.capacity := Nat.le_trans hle h2
      obtain ⟨iovs, hloop, hcov⟩ := iovLoop_at h (Nat.pos_of_ne_zero h0) hroom
      refine ⟨iovs, min len ba.getReadSize, ?_, hcov, ?_, hle⟩
      · simp only [getReadBuffersAt, hlen, if_neg h0, hloop]
      · rw [slice_contents hle]
        exact gather_spec h.blocks hcov (Nat.le_refl _) (by rw [← h.capacity_eq]; omega)

end buffers

/-- Four bytes from position 1 on, over two blocks. -/
theorem buffersInside_iff_two_blocks : BuffersInside sixBytesArray 4 1 :=
  (buffersInside_iff sixBytesArray_inv 4 (by decide)).mpr (by decide)

/-- With the cursor at 0, six bytes from position 5 on are three more than the chain has:
the loop dereferences the null node. Three bytes are in the chain, but two are no data. -/
theorem getReadBuffersAt_leaves_data :
    sixBytes (new (fun _ _ => 0) 4) = .ok () sixBytesArray
      ∧ getReadBuffersAt 6 5 sixBytesArray = .error .segv sixBytesArray
      ∧ ¬ BuffersInside sixBytesArray 6 5 ∧ ¬ BuffersInside sixBytesArray 3 5 := by
  have hcrash : getReadBuffersAt 6 5 sixBytesArray = .error .segv sixBytesArray := rfl
  have hthree : getReadBuffersAt 3 5 sixBytesArray = .ok ([⟨1, 1, 3⟩], 3) sixBytesArray := rfl
  refine ⟨rfl, hcrash, ?_, ?_⟩
  · rintro ⟨iovs, r, hok, -⟩
    rw [hcrash] at hok
    cases hok
  · rintro ⟨iovs, r, hok, -, -, hle⟩
    rw [hthree] at hok
    cases hok
    revert hle
    decide

end ByteArray

end HrServer
