/-
HrServer.ByteArray.CoreTheorems — what each member function of
`ByteArray` does to a well-formed node chain.

`Inv` is the representation invariant: equal blocks, a capacity that
counts them, a position inside the data and data inside the capacity, and
an `m_cur` that is the block of the position, or null at the very end.
Every operation is then described once, over the flat byte list `bytes`
of the chain, by an equation or by a `_spec` lemma; nothing outside this
module looks at the loops again.

The four loops are handled by induction over the nodes they walk:
`writeLoop_spec`, `readLoop_spec`, `seek_spec` and `iovLoop_spec`.
-/
import HrServer.ByteArray.Core

namespace HrServer

open Lib

namespace ByteArray

/-! ## Well-formed chains -/

/-- Every node of the chain has size `B`. -/
def Blocks (B : Nat) (nodes : List Node) : Prop := ∀ n ∈ nodes, n.size = B

/-- The bytes of a chain, block after block. -/
def chainBytes (nodes : List Node) : List UInt8 := nodes.flatMap Node.ptr

/-- The bytes of the whole chain. -/
def bytes (ba : ByteArray) : List UInt8 := chainBytes ba.root

@[simp] theorem chainBytes_cons (n : Node) (nodes : List Node) :
    chainBytes (n :: nodes) = n.ptr ++ chainBytes nodes := rfl

@[simp] theorem chainBytes_append (xs ys : List Node) :
    chainBytes (xs ++ ys) = chainBytes xs ++ chainBytes ys := List.flatMap_append

theorem Blocks.tail {B : Nat} {n : Node} {nodes : List Node} (h : Blocks B (n :: nodes)) :
    Blocks B nodes := fun m hm => h m (List.mem_cons_of_mem n hm)

theorem Blocks.head {B : Nat} {n : Node} {nodes : List Node} (h : Blocks B (n :: nodes)) :
    n.size = B := h n List.mem_cons_self

theorem Blocks.length_ptr {B : Nat} {n : Node} {nodes : List Node} (h : Blocks B nodes)
    (hn : n ∈ nodes) : n.ptr.length = B := n.length_ptr.trans (h n hn)

theorem Blocks.append {B : Nat} {xs ys : List Node} (hx : Blocks B xs) (hy : Blocks B ys) :
    Blocks B (xs ++ ys) := fun n hn => (List.mem_append.mp hn).elim (hx n) (hy n)

theorem Blocks.cons {B : Nat} {n : Node} {nodes : List Node} (hn : n.size = B)
    (h : Blocks B nodes) : Blocks B (n :: nodes) := by
  intro m hm
  rcases List.mem_cons.mp hm with rfl | hm
  · exact hn
  · exact h m hm

theorem Blocks.take {B : Nat} {nodes : List Node} (h : Blocks B nodes) (k : Nat) :
    Blocks B (nodes.take k) := fun n hn => h n (List.mem_of_mem_take hn)

theorem Blocks.drop {B : Nat} {nodes : List Node} (h : Blocks B nodes) (k : Nat) :
    Blocks B (nodes.drop k) := fun n hn => h n (List.mem_of_mem_drop hn)

/-- `k` blocks of size `B` hold `k * B` bytes. -/
theorem length_chainBytes {B : Nat} {nodes : List Node} (h : Blocks B nodes) :
    (chainBytes nodes).length = nodes.length * B := by
  induction nodes with
  | nil => simp [chainBytes]
  | cons n nodes ih =>
    rw [chainBytes_cons, List.length_append, ih h.tail, n.length_ptr, h.head,
      List.length_cons, Nat.add_mul, Nat.one_mul, Nat.add_comm]

/-- The representation invariant of `ByteArray`. -/
structure Inv (ba : ByteArray) : Prop where
  baseSize_pos : 0 < ba.baseSize
  root_pos : 1 ≤ ba.root.length
  blocks : Blocks ba.baseSize ba.root
  capacity_eq : ba.capacity = ba.root.length * ba.baseSize
  position_le : ba.position ≤ ba.size
  size_le : ba.size ≤ ba.capacity
  cur_eq : ba.cur =
    if ba.position < ba.capacity then some (ba.position / ba.baseSize) else none

theorem Inv.length_bytes {ba : ByteArray} (h : Inv ba) : ba.bytes.length = ba.capacity := by
  rw [bytes, length_chainBytes h.blocks, h.capacity_eq]

theorem Inv.position_le_capacity {ba : ByteArray} (h : Inv ba) : ba.position ≤ ba.capacity :=
  Nat.le_trans h.position_le h.size_le

/-- The link to the block of position `p` is null exactly at the end. -/
theorem link_div {B p : Nat} {nodes : List Node} (hB : 0 < B) :
    link nodes (p / B) = if p < nodes.length * B then some (p / B) else none := by
  simp only [link, Nat.div_lt_iff_lt_mul hB]

/-- Moving the cursor to `p`, with `m_cur` set to the block of `p`. -/
theorem Inv.move {ba : ByteArray} (h : Inv ba) {p s : Nat} (hp : p ≤ s) (hs : s ≤ ba.capacity) :
    Inv { ba with position := p, size := s, cur := link ba.root (p / ba.baseSize) } :=
  { h with
    position_le := hp
    size_le := hs
    cur_eq := by rw [link_div h.baseSize_pos, h.capacity_eq] }

/-- Below the end of the chain `m_cur` is the block of the position. -/
theorem Inv.cur_of_lt {ba : ByteArray} (h : Inv ba) (hp : ba.position < ba.capacity) :
    ba.cur = some (ba.position / ba.baseSize) := by
  rw [h.cur_eq, if_pos hp]

/-- The bytes before the block of the position. -/
theorem Inv.length_before {ba : ByteArray} (h : Inv ba) (hp : ba.position < ba.capacity) :
    (chainBytes (ba.root.take (ba.position / ba.baseSize))).length
      = ba.position / ba.baseSize * ba.baseSize := by
  have hlt : ba.position / ba.baseSize < ba.root.length := by
    rw [Nat.div_lt_iff_lt_mul h.baseSize_pos, ← h.capacity_eq]; exact hp
  rw [length_chainBytes (h.blocks.take _), List.length_take, Nat.min_eq_left (Nat.le_of_lt hlt)]

/-- Writing at the position is writing at an offset of its block. -/
theorem Inv.splice_at_position {ba : ByteArray} (h : Inv ba) (hp : ba.position < ba.capacity)
    (bs : List UInt8) :
    splice ba.bytes ba.position bs
      = chainBytes (ba.root.take (ba.position / ba.baseSize))
        ++ splice (chainBytes (ba.root.drop (ba.position / ba.baseSize)))
            (ba.position % ba.baseSize) bs := by
  rw [← splice_append_right, ← chainBytes_append, List.take_append_drop, h.length_before hp,
    Nat.div_add_mod', bytes]

/-- Reading at the position is reading at an offset of its block. -/
theorem Inv.slice_at_position {ba : ByteArray} (h : Inv ba) (hp : ba.position < ba.capacity)
    (n : Nat) :
    slice ba.bytes ba.position n
      = slice (chainBytes (ba.root.drop (ba.position / ba.baseSize)))
          (ba.position % ba.baseSize) n := by
  have hpos := Nat.div_add_mod' ba.position ba.baseSize
  conv => rhs; rw [← slice_append_right (chainBytes (ba.root.take (ba.position / ba.baseSize)))]
  rw [← chainBytes_append, List.take_append_drop, h.length_before hp, hpos, bytes]

/-- From the block of the position on there is room up to the capacity. -/
theorem Inv.room_after {ba : ByteArray} (h : Inv ba) {n : Nat}
    (hn : ba.position + n ≤ ba.capacity) :
    ba.position % ba.baseSize + n
      ≤ (ba.root.drop (ba.position / ba.baseSize)).length * ba.baseSize := by
  have hdm := Nat.div_add_mod' ba.position ba.baseSize
  have hcap := h.capacity_eq
  rw [List.length_drop, Nat.sub_mul]
  omega

/-- `m_cur` after a transfer of `n` bytes is the block of the new position. -/
theorem div_add_mod_div {B : Nat} (hB : 0 < B) (p n : Nat) :
    p / B + (p % B + n) / B = (p + n) / B := by
  conv => rhs; rw [← Nat.div_add_mod p B, Nat.add_assoc, Nat.mul_add_div hB]

/-! ## The constructor and `clear` -/

theorem inv_new (fresh : Nat → Nat → UInt8) {B : Nat} (hB : 0 < B) : Inv (new fresh B) where
  baseSize_pos := hB
  root_pos := Nat.le_refl 1
  blocks := Blocks.cons rfl (fun _ hn => absurd hn List.not_mem_nil)
  capacity_eq := (Nat.one_mul B).symm
  position_le := Nat.le_refl 0
  size_le := Nat.zero_le B
  cur_eq := by simp [new, hB]

/-- What `clear` leaves: the root block, with the cursor at its start. -/
def cleared (ba : ByteArray) : ByteArray :=
  { ba with position := 0, size := 0, capacity := ba.baseSize
            root := ba.root.take 1, cur := some 0 }

theorem clear_eq (ba : ByteArray) : clear ba = .ok () ba.cleared := rfl

theorem Inv.cleared {ba : ByteArray} (h : Inv ba) : Inv ba.cleared where
  baseSize_pos := h.baseSize_pos
  root_pos := by rw [ByteArray.cleared, List.length_take]; have := h.root_pos; omega
  blocks := h.blocks.take 1
  capacity_eq := by
    have := h.root_pos
    rw [ByteArray.cleared, List.length_take, Nat.min_eq_left this, Nat.one_mul]
  position_le := Nat.le_refl 0
  size_le := Nat.zero_le _
  cur_eq := by simp [ByteArray.cleared, h.baseSize_pos]

theorem Inv.bytes_cleared {ba : ByteArray} (h : Inv ba) :
    ba.cleared.bytes = ba.bytes.take ba.baseSize := by
  have hpos := h.root_pos
  cases hr : ba.root with
  | nil => rw [hr] at hpos; simp at hpos
  | cons n nodes =>
    have hn : n.ptr.length = ba.baseSize := by
      rw [n.length_ptr]; exact h.blocks n (by rw [hr]; exact List.mem_cons_self)
    simp only [bytes, ByteArray.cleared, hr, List.take_succ_cons, List.take_zero, chainBytes_cons]
    rw [← hn, List.take_left']
    · simp [chainBytes]
    · rfl

/-! ## `addCapacity` -/

theorem le_ceilDiv_mul {B : Nat} (hB : 0 < B) (n : Nat) : n ≤ ceilDiv n B * B := by
  have h1 := Nat.div_add_mod' (n + B - 1) B
  have h2 := Nat.mod_lt (n + B - 1) hB
  unfold ceilDiv
  omega

theorem ceilDiv_mul_lt {B : Nat} (hB : 0 < B) (n : Nat) : ceilDiv n B * B < n + B := by
  have h1 := Nat.div_add_mod' (n + B - 1) B
  unfold ceilDiv
  omega

/-- The bytes `addCapacity n` appends: whole blocks that cover what is missing. -/
def growth (ba : ByteArray) (n : Nat) : Nat :=
  ceilDiv (n - ba.getCapacity) ba.baseSize * ba.baseSize

/-- Nothing is appended when the room is there. -/
theorem Inv.growth_eq_zero {ba : ByteArray} (h : Inv ba) {n : Nat} (hfit : n ≤ ba.getCapacity) :
    ba.growth n = 0 := by
  have hlt : ba.baseSize - 1 < ba.baseSize := Nat.sub_lt h.baseSize_pos Nat.one_pos
  rw [growth, Nat.sub_eq_zero_of_le hfit, ceilDiv, Nat.zero_add, Nat.div_eq_of_lt hlt,
    Nat.zero_mul]

theorem blocks_new (B : Nat) (junk : Nat → Nat → UInt8) (count : Nat) :
    Blocks B ((List.range count).map fun i => Node.new B (junk i)) := by
  intro n hn
  obtain ⟨i, -, rfl⟩ := List.mem_map.mp hn
  rfl

/-- `ba'` is `ba` with room for `n` more bytes behind the cursor. -/
structure Grown (ba : ByteArray) (n : Nat) (ba' : ByteArray) : Prop where
  inv : Inv ba'
  baseSize_eq : ba'.baseSize = ba.baseSize
  endian_eq : ba'.endian = ba.endian
  position_eq : ba'.position = ba.position
  size_eq : ba'.size = ba.size
  capacity_eq : ba'.capacity = ba.capacity + ba.growth n
  room : ba.position + n ≤ ba'.capacity
  bytes_eq : ∃ junk, junk.length = ba.growth n ∧ ba'.bytes = ba.bytes ++ junk

theorem addCapacity_spec (fresh : Nat → Nat → UInt8) {ba : ByteArray} (h : Inv ba) (n : Nat) :
    Grown ba n (addCapacity fresh n ba) := by
  have hpos := h.position_le_capacity
  unfold addCapacity
  by_cases hfit : n ≤ ba.getCapacity
  · -- nothing is missing, with `n = 0` as a special case of it
    have hg : ba.growth n = 0 := h.growth_eq_zero hfit
    have hid : Grown ba n ba :=
      { inv := h, baseSize_eq := rfl, endian_eq := rfl, position_eq := rfl, size_eq := rfl
        capacity_eq := by rw [hg, Nat.add_zero]
        room := by unfold getCapacity at hfit; omega
        bytes_eq := ⟨[], by rw [hg]; rfl, (List.append_nil _).symm⟩ }
    split
    · exact hid
    · exact hid
  · have hn : n ≠ 0 := fun h0 => hfit (by rw [h0]; exact Nat.zero_le _)
    rw [if_neg hn, if_neg hfit]
    simp only
    set count := ceilDiv (n - ba.getCapacity) ba.baseSize with hcount
    set blocks := (List.range count).map
      fun i => Node.new ba.baseSize (fresh (ba.allocs + i)) with hblocks
    have hlen : blocks.length = count := by simp [hblocks]
    have hB : Blocks ba.baseSize blocks :=
      blocks_new ba.baseSize (fun i => fresh (ba.allocs + i)) count
    have hcov := le_ceilDiv_mul h.baseSize_pos (n - ba.getCapacity)
    have hcount_pos : 0 < count := by
      rcases Nat.eq_zero_or_pos count with h0 | h0
      · rw [← hcount, h0] at hcov; omega
      · exact h0
    have hmul : (ba.root ++ blocks).length * ba.baseSize = ba.capacity + count * ba.baseSize := by
      rw [List.length_append, hlen, Nat.add_mul, h.capacity_eq]
    have hroom : ba.position + n ≤ ba.capacity + count * ba.baseSize := by
      rw [← hcount] at hcov
      unfold getCapacity at hcov
      omega
    refine
      { inv :=
          { baseSize_pos := h.baseSize_pos
            root_pos := by rw [List.length_append]; have := h.root_pos; omega
            blocks := h.blocks.append hB
            capacity_eq := hmul.symm
            position_le := h.position_le
            size_le := Nat.le_trans h.size_le (Nat.le_add_right _ _)
            cur_eq := ?_ }
        baseSize_eq := rfl, endian_eq := rfl, position_eq := rfl, size_eq := rfl
        capacity_eq := rfl
        room := hroom
        bytes_eq := ⟨chainBytes blocks, by rw [length_chainBytes hB, hlen]; rfl,
          chainBytes_append _ _⟩ }
    have hlt : ba.position < ba.capacity + count * ba.baseSize := by omega
    simp only [if_pos hlt]
    by_cases hend : ba.getCapacity = 0
    · -- the cursor was at the end: the first new block is the block of the position
      have hp : ba.position = ba.root.length * ba.baseSize := by
        unfold getCapacity at hend
        rw [← h.capacity_eq]; omega
      rw [if_pos hend, link, if_pos (by rw [List.length_append, hlen]; omega), hp,
        Nat.mul_div_cancel _ h.baseSize_pos]
    · rw [if_neg hend, h.cur_of_lt (by unfold getCapacity at hend; omega)]

/-! ## `write` -/

theorem Node.store_size {n n' : Node} {npos : Nat} {bs : List UInt8}
    (h : n.store npos bs = some n') : n'.size = n.size := by
  unfold Node.store at h
  split at h
  · cases h
    rfl
  · cases h

theorem Node.store_eq (n : Node) (npos : Nat) (bs : List UInt8) (h : npos + bs.length ≤ n.size) :
    ∃ n', n.store npos bs = some n' ∧ n'.size = n.size ∧ n'.ptr = splice n.ptr npos bs := by
  refine ⟨_, dif_pos h, rfl, rfl⟩

/-- The copy loop lays the buffer over the bytes of the chain, and moves
`m_cur` on by the whole blocks it has filled. -/
theorem writeLoop_spec {B : Nat} (nodes : List Node) (npos : Nat) (buf : List UInt8) (p : Nat)
    (hb : Blocks B nodes) (hnpos : npos < B) (hbuf : 0 < buf.length)
    (hroom : npos + buf.length ≤ nodes.length * B) :
    ∃ nodes', writeLoop nodes npos buf p
        = some (nodes', (npos + buf.length) / B, p + buf.length)
      ∧ nodes'.length = nodes.length ∧ Blocks B nodes'
      ∧ chainBytes nodes' = splice (chainBytes nodes) npos buf := by
  induction nodes generalizing npos buf p with
  | nil => rw [List.length_nil, Nat.zero_mul] at hroom; omega
  | cons cur next ih =>
    have hcur : cur.size = B := hb.head
    have hptr : cur.ptr.length = B := by rw [cur.length_ptr, hcur]
    unfold writeLoop
    simp only [hcur]
    by_cases hfit : B - npos ≥ buf.length
    · -- the last block of the transfer
      obtain ⟨cur', hst, hsz, hbytes⟩ := Node.store_eq cur npos buf (by omega)
      have hmoved : (if B = npos + buf.length then 1 else 0) = (npos + buf.length) / B := by
        split
        · next heq => rw [← heq, Nat.div_self (by omega)]
        · next hne => rw [Nat.div_eq_of_lt (by omega)]
      refine ⟨cur' :: next, ?_, rfl, hb.tail.cons (by rw [hsz, hcur]), ?_⟩
      · simp [if_pos hfit, hst, hmoved]
      · rw [chainBytes_cons, chainBytes_cons, hbytes, splice_append_left (by omega)]
    · have hlt : B - npos < buf.length := by omega
      have htake : (buf.take (B - npos)).length = B - npos := by rw [List.length_take]; omega
      obtain ⟨cur', hst, hsz, hbytes⟩ := Node.store_eq cur npos (buf.take (B - npos))
        (by omega)
      have hroom' : 0 + (buf.drop (B - npos)).length ≤ next.length * B := by
        rw [List.length_cons, Nat.add_mul, Nat.one_mul] at hroom
        rw [List.length_drop]; omega
      obtain ⟨next', hloop, hlen, hb', hbytes'⟩ := ih 0 (buf.drop (B - npos)) (p + (B - npos))
        hb.tail (by omega) (by rw [List.length_drop]; omega) hroom'
      have hmoved : (0 + (buf.drop (B - npos)).length) / B + 1 = (npos + buf.length) / B := by
        have hsum : npos + buf.length = 0 + (buf.drop (B - npos)).length + B := by
          rw [List.length_drop]; omega
        rw [hsum, Nat.add_div_right _ (by omega)]
      have hpos : p + (B - npos) + (buf.drop (B - npos)).length = p + buf.length := by
        rw [List.length_drop]; omega
      refine ⟨cur' :: next', ?_, by simp [hlen], hb'.cons (by rw [hsz, hcur]), ?_⟩
      · simp only [if_neg hfit, hst, hloop, hmoved, hpos, Option.bind_eq_bind, Option.bind_some]
      · rw [chainBytes_cons, chainBytes_cons, hbytes, hbytes',
          splice_append_across (by omega) (by omega), hptr]

/-- What `write bs` leaves behind. -/
structure Written (ba : ByteArray) (bs : List UInt8) (ba' : ByteArray) : Prop where
  inv : Inv ba'
  baseSize_eq : ba'.baseSize = ba.baseSize
  endian_eq : ba'.endian = ba.endian
  position_eq : ba'.position = ba.position + bs.length
  size_eq : ba'.size = max ba.size (ba.position + bs.length)
  capacity_eq : ba'.capacity = ba.capacity + ba.growth bs.length
  bytes_eq : ∃ junk, junk.length = ba.growth bs.length
    ∧ ba'.bytes = splice (ba.bytes ++ junk) ba.position bs

theorem max_eq_ite (a b : Nat) : (if b > a then b else a) = max a b := by
  rw [Nat.max_def]
  split <;> split <;> omega

/-- A write never fails on a well-formed array. -/
theorem write_spec (fresh : Nat → Nat → UInt8) {ba : ByteArray} (h : Inv ba) (bs : List UInt8) :
    ∃ ba', write fresh bs ba = .ok () ba' ∧ Written ba bs ba' := by
  have hg := addCapacity_spec fresh h bs.length
  by_cases h0 : bs.length = 0
  · have hnil : bs = [] := List.length_eq_zero_iff.mp h0
    subst hnil
    have hgrow : ba.growth 0 = 0 := h.growth_eq_zero (Nat.zero_le _)
    exact ⟨ba, rfl, h, rfl, rfl, rfl, (Nat.max_eq_left h.position_le).symm, by simp [hgrow],
      [], by simp [hgrow], by simp⟩
  · obtain ⟨junk, hjunk, hbytes⟩ := hg.bytes_eq
    set g := addCapacity fresh bs.length ba with hgdef
    have hB := hg.inv.baseSize_pos
    have hroom : g.position + bs.length ≤ g.capacity := by rw [hg.position_eq]; exact hg.room
    have hlt : g.position < g.capacity := by omega
    have hcur := hg.inv.cur_of_lt hlt
    obtain ⟨nodes', hloop, hlen, hblocks, hmem⟩ :=
      writeLoop_spec (g.root.drop (g.position / g.baseSize)) (g.position % g.baseSize) bs
        g.position (hg.inv.blocks.drop _) (Nat.mod_lt _ hB) (by omega) (hg.inv.room_after hroom)
    have hsplit := List.take_append_drop (g.position / g.baseSize) g.root
    have hrootlen : (g.root.take (g.position / g.baseSize) ++ nodes').length = g.root.length := by
      rw [List.length_append, hlen, ← List.length_append, hsplit]
    have hnew : chainBytes (g.root.take (g.position / g.baseSize) ++ nodes')
        = splice g.bytes g.position bs := by
      rw [chainBytes_append, hmem, hg.inv.splice_at_position hlt]
    refine ⟨_, by simp only [write, if_neg h0, ← hgdef, hcur, hloop]; rfl, ?_⟩
    have hmove : g.position / g.baseSize + (g.position % g.baseSize + bs.length) / g.baseSize
        = (g.position + bs.length) / g.baseSize := div_add_mod_div hB _ _
    refine
      { inv :=
          { baseSize_pos := hB
            root_pos := by simp only [hrootlen]; exact hg.inv.root_pos
            blocks := (hg.inv.blocks.take _).append hblocks
            capacity_eq := by simp only [hrootlen]; exact hg.inv.capacity_eq
            position_le := by simp only [max_eq_ite]; exact Nat.le_max_right _ _
            size_le := by
              simp only [max_eq_ite]
              exact Nat.max_le.mpr ⟨hg.inv.size_le, hroom⟩
            cur_eq := by simp only [hmove, link_div hB, hrootlen, hg.inv.capacity_eq] }
        baseSize_eq := hg.baseSize_eq
        endian_eq := hg.endian_eq
        position_eq := by simp only [hg.position_eq]
        size_eq := by simp only [max_eq_ite, hg.position_eq, hg.size_eq]
        capacity_eq := hg.capacity_eq
        bytes_eq := ⟨junk, hjunk, by rw [← hbytes, ← hg.position_eq]; exact hnew⟩ }

/-! ## `read` -/

/-- The copy loop returns the bytes from `npos` on, and moves `m_cur` on by the
whole blocks it has passed. -/
theorem readLoop_spec {B : Nat} (nodes : List Node) (npos n p : Nat)
    (hb : Blocks B nodes) (hnpos : npos < B) (hroom : npos + n ≤ nodes.length * B) :
    readLoop nodes npos n p
      = some (slice (chainBytes nodes) npos n, (npos + n) / B, p + n) := by
  induction nodes generalizing npos n p with
  | nil =>
    rw [List.length_nil, Nat.zero_mul] at hroom
    have hn : n = 0 := by omega
    subst hn
    simp [readLoop, slice, Nat.div_eq_of_lt hnpos]
  | cons cur next ih =>
    have hcur : cur.size = B := hb.head
    have hptr : cur.ptr.length = B := by rw [cur.length_ptr, hcur]
    unfold readLoop
    simp only [hcur]
    by_cases h0 : n = 0
    · subst h0
      simp [slice, Nat.div_eq_of_lt hnpos]
    · rw [if_neg h0]
      by_cases hfit : B - npos ≥ n
      · have hld : cur.load npos n = some (slice cur.ptr npos n) :=
          if_pos (by omega)
        have hmoved : (if B = npos + n then 1 else 0) = (npos + n) / B := by
          split
          · next heq => rw [← heq, Nat.div_self (by omega)]
          · next hne => rw [Nat.div_eq_of_lt (by omega)]
        rw [if_pos hfit, hld, hmoved, chainBytes_cons, slice_append_left (by omega)]
        rfl
      · have hld : cur.load npos (B - npos) = some (slice cur.ptr npos (B - npos)) :=
          if_pos (by omega)
        have hroom' : 0 + (n - (B - npos)) ≤ next.length * B := by
          rw [List.length_cons, Nat.add_mul, Nat.one_mul] at hroom
          omega
        have hmoved : (0 + (n - (B - npos))) / B + 1 = (npos + n) / B := by
          have hsum : npos + n = 0 + (n - (B - npos)) + B := by omega
          rw [hsum, Nat.add_div_right _ (by omega)]
        have hpos : p + (B - npos) + (n - (B - npos)) = p + n := by omega
        rw [if_neg hfit, hld, ih 0 (n - (B - npos)) (p + (B - npos)) hb.tail (by omega) hroom']
        simp only [Option.bind_eq_bind, Option.bind_some, hmoved, hpos]
        rw [chainBytes_cons, slice_append_across (by omega) (by omega), hptr]

/-- The state after `n` bytes were taken at the cursor. -/
def advanced (ba : ByteArray) (n : Nat) : ByteArray :=
  { ba with position := ba.position + n
            cur := link ba.root ((ba.position + n) / ba.baseSize) }

theorem Inv.advanced {ba : ByteArray} (h : Inv ba) {n : Nat} (hn : n ≤ ba.getReadSize) :
    Inv (ba.advanced n) := by
  have := h.position_le
  exact h.move (by unfold getReadSize at hn; omega) h.size_le

theorem Inv.advanced_zero {ba : ByteArray} (h : Inv ba) : ba.advanced 0 = ba := by
  have hcur : ba.cur = link ba.root (ba.position / ba.baseSize) := by
    rw [h.cur_eq, link_div h.baseSize_pos, h.capacity_eq]
  rw [ByteArray.advanced, Nat.add_zero, ← hcur]

/-- A read that the data covers, with the cursor on a block. -/
theorem read_eq {ba : ByteArray} (h : Inv ba) {n : Nat} (hn : n ≤ ba.getReadSize)
    (hp : ba.position < ba.capacity) :
    read n ba = .ok (slice ba.bytes ba.position n) (ba.advanced n) := by
  have hroom : ba.position + n ≤ ba.capacity := by
    have h1 := h.position_le
    have h2 := h.size_le
    unfold getReadSize at hn
    omega
  have hloop := readLoop_spec (ba.root.drop (ba.position / ba.baseSize))
    (ba.position % ba.baseSize) n ba.position (h.blocks.drop _)
    (Nat.mod_lt _ h.baseSize_pos) (h.room_after hroom)
  simp only [read, if_neg (Nat.not_lt.mpr hn), h.cur_of_lt hp, hloop,
    div_add_mod_div h.baseSize_pos, ← h.slice_at_position hp]
  rfl

/-- A read of more than the data holds. -/
theorem read_short {ba : ByteArray} {n : Nat} (hn : ba.getReadSize < n) :
    read n ba = .error (.outOfRange "not enough len") ba := by
  simp [read, hn]

/-- A read of nothing at the very end of the chain dereferences the null node. -/
theorem read_zero_at_end {ba : ByteArray} (h : Inv ba) (hp : ba.position = ba.capacity) :
    read 0 ba = .error .segv ba := by
  have hcur : ba.cur = none := by rw [h.cur_eq, if_neg (by omega)]
  simp [read, hcur]

/-! ## `setPosition` -/

theorem seek_spec {B : Nat} (hB : 0 < B) (nodes : List Node) (v : Nat) (hb : Blocks B nodes)
    (hne : nodes ≠ []) (hv : v ≤ nodes.length * B) : seek nodes v = some (v / B) := by
  induction nodes generalizing v with
  | nil => exact absurd rfl hne
  | cons cur next ih =>
    rw [List.length_cons, Nat.add_mul, Nat.one_mul] at hv
    simp only [seek, hb.head]
    by_cases hgt : v > B
    · have hnext : next ≠ [] := by
        rintro rfl
        rw [List.length_nil, Nat.zero_mul] at hv
        omega
      have hdiv : (v - B) / B + 1 = v / B := by
        rw [← Nat.add_div_right _ hB, Nat.sub_add_cancel (Nat.le_of_lt hgt)]
      rw [if_pos hgt, ih (v - B) hb.tail hnext (by omega), Option.map_some, hdiv]
    · rw [if_neg hgt]
      split
      · next heq => rw [heq, Nat.div_self hB]
      · next hne => rw [Nat.div_eq_of_lt (by omega)]

/-- The state after a successful `setPosition v`. -/
def positioned (ba : ByteArray) (v : Nat) : ByteArray :=
  { ba with position := v, size := max ba.size v, cur := link ba.root (v / ba.baseSize) }

theorem setPosition_eq {ba : ByteArray} (h : Inv ba) {v : Nat} (hv : v ≤ ba.capacity) :
    setPosition v ba = .ok () (ba.positioned v) := by
  have hne : ba.root ≠ [] := by
    intro h0
    have := h.root_pos
    simp [h0] at this
  have hseek := seek_spec h.baseSize_pos ba.root v h.blocks hne (by rw [← h.capacity_eq]; exact hv)
  simp only [setPosition, if_neg (Nat.not_lt.mpr hv), hseek, max_eq_ite]
  rfl

theorem setPosition_beyond {ba : ByteArray} {v : Nat} (hv : ba.capacity < v) :
    setPosition v ba = .error (.outOfRange "set_position out of range") ba := by
  simp [setPosition, hv]

theorem Inv.positioned {ba : ByteArray} (h : Inv ba) {v : Nat} (hv : v ≤ ba.capacity) :
    Inv (ba.positioned v) :=
  h.move (Nat.le_max_right _ _) (Nat.max_le.mpr ⟨h.size_le, hv⟩)

/-! ## The buffer functions -/

/-- The `iovec`s describe, in order and without a gap, the positions from
`start` up to `stop` of a chain of blocks of size `B`. -/
def Covers (B : Nat) : Nat → List Iovec → Nat → Prop
  | start, [], stop => start = stop
  | start, v :: vs, stop =>
    v.node * B + v.offset = start ∧ v.offset + v.len ≤ B ∧ Covers B (start + v.len) vs stop

theorem iovLoop_spec {B : Nat} (nodes : List Node) (i npos len : Nat) (hb : Blocks B nodes)
    (hnpos : npos < B) (hlen : 0 < len) (hroom : npos + len ≤ nodes.length * B) :
    ∃ iovs, iovLoop nodes i npos len = some iovs
      ∧ Covers B (i * B + npos) iovs (i * B + npos + len) := by
  induction nodes generalizing i npos len with
  | nil => rw [List.length_nil, Nat.zero_mul] at hroom; omega
  | cons cur next ih =>
    unfold iovLoop
    simp only [hb.head]
    by_cases hfit : B - npos ≥ len
    · exact ⟨[⟨i, npos, len⟩], if_pos hfit, rfl, by simp only; omega, rfl⟩
    · have hroom' : 0 + (len - (B - npos)) ≤ next.length * B := by
        rw [List.length_cons, Nat.add_mul, Nat.one_mul] at hroom
        omega
      obtain ⟨iovs, hloop, hcov⟩ := ih (i + 1) 0 (len - (B - npos)) hb.tail (by omega) (by omega)
        hroom'
      have hstart : (i + 1) * B + 0 = i * B + npos + (B - npos) := by
        rw [Nat.add_mul, Nat.one_mul]; omega
      have hstop : i * B + npos + (B - npos) + (len - (B - npos)) = i * B + npos + len := by omega
      rw [hstart, hstop] at hcov
      exact ⟨⟨i, npos, B - npos⟩ :: iovs, by rw [if_neg hfit, hloop]; rfl, rfl,
        by simp only; omega, hcov⟩

/-- The `iovec`s of `len > 0` bytes at the cursor. -/
theorem iovLoop_at_position {ba : ByteArray} (h : Inv ba) {len : Nat} (hlen : 0 < len)
    (hroom : ba.position + len ≤ ba.capacity) :
    ∃ iovs, iovLoop (ba.root.drop (ba.position / ba.baseSize)) (ba.position / ba.baseSize)
        (ba.position % ba.baseSize) len = some iovs
      ∧ Covers ba.baseSize ba.position iovs (ba.position + len) := by
  have := iovLoop_spec (ba.root.drop (ba.position / ba.baseSize)) (ba.position / ba.baseSize)
    (ba.position % ba.baseSize) len (h.blocks.drop _) (Nat.mod_lt _ h.baseSize_pos) hlen
    (h.room_after hroom)
  rwa [Nat.div_add_mod'] at this

/-- `getWriteBuffers` never fails on a well-formed array: it makes room and
describes the `len` bytes behind the cursor. -/
theorem getWriteBuffers_spec (fresh : Nat → Nat → UInt8) {ba : ByteArray} (h : Inv ba)
    (len : Nat) :
    ∃ iovs ba', getWriteBuffers fresh len ba = .ok (iovs, len) ba' ∧ Grown ba len ba'
      ∧ Covers ba.baseSize ba.position iovs (ba.position + len) := by
  have hg := addCapacity_spec fresh h len
  by_cases h0 : len = 0
  · subst h0
    refine ⟨[], ba, rfl, ?_, rfl⟩
    simpa [addCapacity] using hg
  · have hroom :
        (addCapacity fresh len ba).position + len ≤ (addCapacity fresh len ba).capacity := by
      rw [hg.position_eq]; exact hg.room
    obtain ⟨iovs, hloop, hcov⟩ := iovLoop_at_position hg.inv (by omega) hroom
    rw [hg.baseSize_eq, hg.position_eq] at hcov
    refine ⟨iovs, addCapacity fresh len ba, ?_, hg, hcov⟩
    simp only [getWriteBuffers, if_neg h0, hg.inv.cur_of_lt (by omega), hloop]

end ByteArray

end HrServer
