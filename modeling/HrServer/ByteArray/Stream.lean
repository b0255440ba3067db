/-
HrServer.ByteArray.Stream — `SocketStream::read` and `write` of
`sylar/streams/socket_stream.cc` on a `ByteArray`.

The stream hands the blocks of the array to the kernel as `iovec`s and
moves the position afterwards; `ByteArray::write` and `read` copy through
the cursor. `stream_agrees` says that the two ways cannot be told apart:
from every array that calls of either kind have built, the bytes, the
position and the size come out the same, wherever in a block the transfer
ends.

What the kernel does is an argument: `recvmsg` delivers some bytes or
fails, `sendmsg` accepts a number of bytes or fails. It moves at most
`0x7ffff000` bytes in one call, so that `int rt` holds the number.
-/
import HrServer.Lib.Program
import HrServer.ByteArray.Invariant

namespace HrServer

open Lib

/-! ## The kernel's side -/

/-- `recvmsg` lays the bytes into the buffers, one after the other; what does not fit stays in
the kernel. Returns the number of bytes that were taken. -/
def scatter : List Iovec → List UInt8 → List Node → Option (List Node × Nat)
  | [], _, nodes => some (nodes, 0)
  | iov :: iovs, bs, nodes =>
    if bs.length = 0 then some (nodes, 0)
    else do
      let node ← nodes[iov.node]?
      let node' ← node.store iov.offset (bs.take iov.len)
      let (nodes', n) ← scatter iovs (bs.drop iov.len) (nodes.set iov.node node')
      some (nodes', (bs.take iov.len).length + n)

/-- `sendmsg` takes up to `n` bytes out of the buffers, one after the other. -/
def gather : List Iovec → Nat → List Node → Option (List UInt8)
  | [], _, _ => some []
  | iov :: iovs, n, nodes =>
    if n = 0 then some []
    else do
      let node ← nodes[iov.node]?
      let bs ← node.load iov.offset (min n iov.len)
      let rest ← gather iovs (n - iov.len) nodes
      some (bs ++ rest)

namespace ByteArray

variable (fresh : Nat → Nat → UInt8)

/-- `Socket::recv(buffers, length)` into the blocks of the array. `incoming` is what has come
for the socket; `none` is an error. -/
def recv (isConnected : Bool) (incoming : Option (List UInt8)) (iovs : List Iovec) : Op Int :=
  fun ba =>
    if isConnected then
      match incoming with
      | none => .ok (-1) ba
      | some bs =>
        match scatter iovs bs ba.root with
        | none => .error .segv ba
        | some (root, n) => .ok n { ba with root := root }
    else .ok (-1) ba

/-- `Socket::send(buffers, length)` out of the blocks of the array, with the bytes that leave.
`accepts` is the room the kernel has for them; `none` is an error. -/
def send (isConnected : Bool) (accepts : Option Nat) (iovs : List Iovec) :
    Op (Int × List UInt8) := fun ba =>
  if isConnected then
    match accepts with
    | none => .ok (-1, []) ba
    | some n =>
      match gather iovs n ba.root with
      | none => .error .segv ba
      | some bs => .ok (bs.length, bs) ba
  else .ok (-1, []) ba

/-! ## The stream -/

/-- `SocketStream::read(ba, length)`. -/
def streamRead (isConnected : Bool) (incoming : Option (List UInt8)) (length : Nat) : Op Int :=
  if isConnected then do
    let (iovs, _) ← getWriteBuffers fresh length
    let rt ← recv isConnected incoming iovs
    if rt > 0 then
      let ba ← get
      setPosition (ba.position + rt.toNat)
    pure rt
  else pure (-1)

/-- `SocketStream::write(ba, length)`, with the bytes that leave. -/
def streamWrite (isConnected : Bool) (accepts : Option Nat) (length : Nat) :
    Op (Int × List UInt8) :=
  if isConnected then do
    let (iovs, _) ← getReadBuffers length
    let (rt, sent) ← send isConnected accepts iovs
    if rt > 0 then
      let ba ← get
      setPosition (ba.position + rt.toNat)
    pure (rt, sent)
  else pure (-1, [])

/-- A use of the array: a call of one of its functions, or a transfer through a stream. -/
inductive Use where
  | method (m : Method)
  | streamRead (isConnected : Bool) (incoming : Option (List UInt8)) (length : Nat)
  | streamWrite (isConnected : Bool) (accepts : Option Nat) (length : Nat)

/-- The use itself. -/
def Use.invoke : Use → Op Unit
  | method m => m.invoke fresh
  | streamRead isConnected incoming length =>
    void (ByteArray.streamRead fresh isConnected incoming length)
  | streamWrite isConnected accepts length =>
    void (ByteArray.streamWrite isConnected accepts length)

/-- One use: whether it threw and the array it left; `none` is a crash. -/
def callUse (ba : ByteArray) (u : Use) : Option (Option Fault × ByteArray) :=
  match u.invoke fresh ba with
  | .ok _ ba' => some (none, ba')
  | .error (.outOfRange what) ba' => some (some (.outOfRange what), ba')
  | .error .segv _ => none

/-- The bytes of `[0, size)`. -/
def contents (ba : ByteArray) : List UInt8 := ba.bytes.take ba.size

/-! ## One buffer -/

theorem Blocks.set {B : Nat} {nodes : List Node} {node : Node} (h : Blocks B nodes) (i : Nat)
    (hsize : node.size = B) : Blocks B (nodes.set i node) := by
  intro m hm
  rcases List.mem_or_eq_of_mem_set hm with hold | rfl
  · exact h m hold
  · exact hsize

/-- The chain in front of a block, the block, and what is behind it. -/
theorem chainBytes_split {B : Nat} {nodes : List Node} {i : Nat} {node : Node}
    (hb : Blocks B nodes) (hnode : nodes[i]? = some node) :
    ∃ front back : List UInt8, front.length = i * B
      ∧ chainBytes nodes = front ++ (node.ptr ++ back)
      ∧ ∀ node', chainBytes (nodes.set i node') = front ++ (node'.ptr ++ back) := by
  induction nodes generalizing i with
  | nil => simp at hnode
  | cons n nodes ih =>
    cases i with
    | zero =>
      simp only [List.getElem?_cons_zero, Option.some.injEq] at hnode
      subst hnode
      refine ⟨[], chainBytes nodes, by simp, chainBytes_cons .., fun node' => ?_⟩
      rw [List.set_cons_zero, chainBytes_cons, List.nil_append]
    | succ i =>
      rw [List.getElem?_cons_succ] at hnode
      obtain ⟨front, back, hlen, hchain, hset⟩ := ih hb.tail hnode
      refine ⟨n.ptr ++ front, back, ?_, ?_, fun node' => ?_⟩
      · rw [List.length_append, hb.length_ptr List.mem_cons_self, hlen, Nat.succ_mul, Nat.add_comm]
      · rw [chainBytes_cons, hchain, List.append_assoc]
      · rw [List.set_cons_succ, chainBytes_cons, hset, List.append_assoc]

/-- Writing inside a block of the chain. -/
theorem chainBytes_set {B : Nat} {nodes : List Node} {i : Nat} {node node' : Node}
    (hb : Blocks B nodes) (hnode : nodes[i]? = some node) {offset : Nat} {bs : List UInt8}
    (hptr : node'.ptr = splice node.ptr offset bs) (hfit : offset + bs.length ≤ B) :
    chainBytes (nodes.set i node') = splice (chainBytes nodes) (i * B + offset) bs := by
  have hsize := hb.length_ptr (List.mem_of_getElem? hnode)
  obtain ⟨front, back, hlen, hchain, hset⟩ := chainBytes_split hb hnode
  rw [hset, hchain, ← hlen, splice_append_right, splice_append_left (by omega), hptr]

/-- Reading inside a block of the chain. -/
theorem slice_chainBytes {B : Nat} {nodes : List Node} {i : Nat} {node : Node}
    (hb : Blocks B nodes) (hnode : nodes[i]? = some node) {offset n : Nat}
    (hfit : offset + n ≤ B) :
    slice (chainBytes nodes) (i * B + offset) n = slice node.ptr offset n := by
  have hsize := hb.length_ptr (List.mem_of_getElem? hnode)
  obtain ⟨front, back, hlen, hchain, -⟩ := chainBytes_split hb hnode
  rw [hchain, ← hlen, slice_append_right, slice_append_left (by omega)]

/-- A buffer that has a byte inside the chain lies in one of its blocks. -/
theorem node_of_lt {B stop : Nat} {nodes : List Node} (i offset : Nat)
    (hlt : i * B + offset < stop) (hstop : stop ≤ nodes.length * B) :
    ∃ node, nodes[i]? = some node := by
  have hi : i < nodes.length := by
    apply Nat.lt_of_mul_lt_mul_right (a := B)
    omega
  exact ⟨nodes[i], List.getElem?_eq_getElem hi⟩

/-! ## All buffers of a transfer -/

theorem Covers.le {B start stop : Nat} {iovs : List Iovec} (h : Covers B start iovs stop) :
    start ≤ stop := by
  induction iovs generalizing start with
  | nil => exact Nat.le_of_eq h
  | cons v vs ih =>
    obtain ⟨-, -, hrest⟩ := h
    have := ih hrest
    omega

/-- The buffers are as long as what they cover. -/
theorem Covers.sum_len {B start stop : Nat} {iovs : List Iovec} (h : Covers B start iovs stop) :
    start + (iovs.map Iovec.len).sum = stop := by
  induction iovs generalizing start with
  | nil => exact h
  | cons v vs ih =>
    have := ih h.2.2
    rw [List.map_cons, List.sum_cons]
    omega

theorem scatter_blocks {B n : Nat} {iovs : List Iovec} {bs : List UInt8}
    {nodes nodes' : List Node} (hb : Blocks B nodes)
    (h : scatter iovs bs nodes = some (nodes', n)) :
    Blocks B nodes' ∧ nodes'.length = nodes.length := by
  induction iovs generalizing bs nodes n with
  | nil =>
    simp only [scatter, Option.some.injEq, Prod.mk.injEq] at h
    rw [← h.1]
    exact ⟨hb, rfl⟩
  | cons v vs ih =>
    simp only [scatter] at h
    split at h
    · simp only [Option.some.injEq, Prod.mk.injEq] at h
      rw [← h.1]
      exact ⟨hb, rfl⟩
    · simp only [Option.bind_eq_bind, Option.bind_eq_some_iff] at h
      obtain ⟨node, hnode, node', hstore, ⟨rest, k⟩, hrest, heq⟩ := h
      simp only [Option.some.injEq, Prod.mk.injEq] at heq
      obtain ⟨rfl, -⟩ := heq
      have hsize : node'.size = B := by
        rw [Node.store_size hstore, hb node (List.mem_of_getElem? hnode)]
      obtain ⟨h1, h2⟩ := ih (hb.set v.node hsize) hrest
      exact ⟨h1, by rw [h2, List.length_set]⟩

/-- Buffers that cover the window take the bytes as one write there would. -/
theorem scatter_spec {B start stop : Nat} {iovs : List Iovec} {bs : List UInt8}
    {nodes : List Node} (hb : Blocks B nodes) (hcov : Covers B start iovs stop)
    (hfit : start + bs.length ≤ stop) (hstop : stop ≤ nodes.length * B) :
    ∃ nodes', scatter iovs bs nodes = some (nodes', bs.length)
      ∧ chainBytes nodes' = splice (chainBytes nodes) start bs := by
  induction iovs generalizing bs nodes start with
  | nil =>
    have hstart : start = stop := hcov
    have hnil : bs = [] := List.length_eq_zero_iff.mp (by omega)
    subst hnil
    exact ⟨nodes, rfl, by simp⟩
  | cons v vs ih =>
    obtain ⟨hstart, hlen, hrest⟩ := hcov
    have hle := hrest.le
    by_cases h0 : bs.length = 0
    · have hnil : bs = [] := List.length_eq_zero_iff.mp h0
      subst hnil
      exact ⟨nodes, by simp [scatter], by simp⟩
    · obtain ⟨node, hnode⟩ := node_of_lt v.node v.offset (by omega) hstop
      have htake : v.offset + (bs.take v.len).length ≤ B := by
        rw [List.length_take]
        omega
      have hsize : node.size = B := hb node (List.mem_of_getElem? hnode)
      obtain ⟨node', hstore, hsize', hptr⟩ :=
        Node.store_eq node v.offset (bs.take v.len) (by omega)
      have hchain := chainBytes_set hb hnode hptr htake
      have hset : Blocks B (nodes.set v.node node') := hb.set v.node (by rw [hsize', hsize])
      have hfit' : start + v.len + (bs.drop v.len).length ≤ stop := by
        rw [List.length_drop]
        omega
      obtain ⟨nodes', hscatter, hbytes⟩ :=
        ih hset hrest hfit' (by rw [List.length_set]; exact hstop)
      refine ⟨nodes', ?_, ?_⟩
      · simp only [scatter, if_neg h0, hnode, hstore, hscatter, Option.bind_eq_bind,
          Option.bind_some, ← List.length_append, List.take_append_drop]
      · rw [hbytes, hchain, hstart]
        -- the buffer is filled, or it takes all that is left
        by_cases hfull : v.len ≤ bs.length
        · have hlen' : (bs.take v.len).length = v.len := by rw [List.length_take]; omega
          have hroom : start + (bs.take v.len).length ≤ (chainBytes nodes).length := by
            rw [length_chainBytes hb]
            omega
          have := splice_splice (b := bs.drop v.len) hroom
          rwa [hlen', List.take_append_drop] at this
        · rw [List.drop_eq_nil_of_le (by omega), splice_nil, List.take_of_length_le (by omega)]

/-- Buffers that cover the window give the bytes that one read there would. -/
theorem gather_spec {B start stop n : Nat} {iovs : List Iovec} {nodes : List Node}
    (hb : Blocks B nodes) (hcov : Covers B start iovs stop) (hfit : start + n ≤ stop)
    (hstop : stop ≤ nodes.length * B) :
    gather iovs n nodes = some (slice (chainBytes nodes) start n) := by
  induction iovs generalizing n start with
  | nil =>
    have hstart : start = stop := hcov
    have hn : n = 0 := by omega
    subst hn
    simp [gather, slice]
  | cons v vs ih =>
    obtain ⟨hstart, hlen, hrest⟩ := hcov
    have hle := hrest.le
    by_cases h0 : n = 0
    · subst h0
      simp [gather, slice]
    · obtain ⟨node, hnode⟩ := node_of_lt v.node v.offset (by omega) hstop
      have hsize : node.size = B := hb node (List.mem_of_getElem? hnode)
      have hload : node.load v.offset (min n v.len)
          = some (slice (chainBytes nodes) start (min n v.len)) := by
        rw [← hstart, slice_chainBytes hb hnode (by omega)]
        exact if_pos (by omega)
      have hgather : gather vs (n - v.len) nodes
          = some (slice (chainBytes nodes) (start + v.len) (n - v.len)) :=
        ih hrest (by omega)
      simp only [gather, if_neg h0, hnode, hload, hgather, Option.bind_eq_bind, Option.bind_some,
        Option.some.injEq]
      by_cases hfull : v.len ≤ n
      · rw [Nat.min_eq_right hfull, ← slice_add, Nat.add_sub_cancel' hfull]
      · rw [Nat.min_eq_left (by omega), Nat.sub_eq_zero_of_le (by omega)]
        simp [slice]

/-! ## Every use keeps the array well formed -/

/-- New contents for the same blocks. -/
theorem Inv.refilled {ba : ByteArray} (h : Inv ba) {root : List Node}
    (hb : Blocks ba.baseSize root) (hlen : root.length = ba.root.length) :
    Inv { ba with root := root } :=
  { h with
    root_pos := by simp only [hlen]; exact h.root_pos
    blocks := hb
    capacity_eq := by simp only [hlen]; exact h.capacity_eq }

theorem preserves_recv (isConnected : Bool) (incoming : Option (List UInt8))
    (iovs : List Iovec) : Preserves (recv isConnected incoming iovs) := by
  rintro B ba ⟨h, rfl⟩
  cases isConnected with
  | false => exact ⟨h, rfl⟩
  | true =>
    cases incoming with
    | none => exact ⟨h, rfl⟩
    | some bs =>
      cases hs : scatter iovs bs ba.root with
      | none => simp [recv, hs, Raised]
      | some r =>
        obtain ⟨root, n⟩ := r
        obtain ⟨hb, hlen⟩ := scatter_blocks h.blocks hs
        simpa [recv, hs] using ⟨h.refilled hb hlen, rfl⟩

theorem preserves_send (isConnected : Bool) (accepts : Option Nat) (iovs : List Iovec) :
    Preserves (send isConnected accepts iovs) := by
  apply preserves_of_unchanged
  intro ba
  cases isConnected with
  | false => exact .inl ⟨_, rfl⟩
  | true =>
    cases accepts with
    | none => exact .inl ⟨_, rfl⟩
    | some n =>
      cases hg : gather iovs n ba.root with
      | none => exact .inr ⟨ba, by simp [send, hg]⟩
      | some bs => exact .inl ⟨(bs.length, bs), by simp [send, hg]⟩

/-- Moving the position by what the kernel reported, and returning it. -/
theorem preserves_moveOn {α : Type} (rt : Int) (a : α) :
    Preserves (if rt > 0 then do
      let ba ← get
      setPosition (ba.position + rt.toNat)
      pure a
    else pure a) := by
  split
  · exact Preserves.get.bind fun ba => (preserves_setPosition _).bind fun _ => Preserves.pure a
  · exact Preserves.pure a

theorem preserves_streamRead (isConnected : Bool) (incoming : Option (List UInt8))
    (length : Nat) : Preserves (streamRead fresh isConnected incoming length) := by
  cases isConnected with
  | false => exact Preserves.pure _
  | true =>
    exact (preserves_getWriteBuffers fresh length).bind fun r =>
      (preserves_recv true incoming r.1).bind fun rt => preserves_moveOn rt rt

theorem preserves_streamWrite (isConnected : Bool) (accepts : Option Nat) (length : Nat) :
    Preserves (streamWrite isConnected accepts length) := by
  cases isConnected with
  | false => exact Preserves.pure _
  | true =>
    exact (preserves_getReadBuffers length).bind fun r =>
      (preserves_send true accepts r.1).bind fun r => preserves_moveOn r.1 r

theorem callUse_wellFormed {B : Nat} {ba ba' : ByteArray} {u : Use} {f : Option Fault}
    (h : WellFormed B ba) (hc : callUse fresh ba u = some (f, ba')) : WellFormed B ba' := by
  have hinvoke : Preserves (u.invoke fresh) := by
    cases u with
    | method m => exact preserves_invoke fresh m
    | streamRead isConnected incoming length =>
      exact (preserves_streamRead fresh isConnected incoming length).void
    | streamWrite isConnected accepts length =>
      exact (preserves_streamWrite isConnected accepts length).void
  exact hinvoke.called h hc

/-! ## The two ways agree -/

/-- `getReadBuffers` with something to read describes the bytes behind the cursor. -/
theorem getReadBuffers_spec {ba : ByteArray} (h : Inv ba) {len : Nat} (hlen : 0 < len)
    (hdata : 0 < ba.getReadSize) :
    ∃ iovs, getReadBuffers len ba = .ok (iovs, min len ba.getReadSize) ba
      ∧ Covers ba.baseSize ba.position iovs (ba.position + min len ba.getReadSize) := by
  have hsize := h.size_le
  have hmin : (if len > ba.getReadSize then ba.getReadSize else len) = min len ba.getReadSize := by
    rw [Nat.min_def]
    split <;> split <;> omega
  have hread : ba.position + min len ba.getReadSize ≤ ba.capacity := by
    unfold getReadSize at hdata ⊢
    omega
  obtain ⟨iovs, hloop, hcov⟩ := iovLoop_at_position h (by omega) hread
  refine ⟨iovs, ?_, hcov⟩
  simp only [getReadBuffers, hmin]
  rw [if_neg (by omega), h.cur_of_lt (by omega)]
  simp only [hloop]

/-- Where no byte was written past the old data, the grown memory does not show. -/
theorem take_splice_grown {m bs : List UInt8} {i size : Nat} (junk : List UInt8) (hi : i ≤ size)
    (hsize : size ≤ m.length) :
    (splice (m ++ junk) i bs).take (max size (i + bs.length))
      = m.take i ++ bs ++ slice m (i + bs.length) (size - (i + bs.length)) := by
  have hfront : ((m ++ junk).take i ++ bs).length = i + bs.length := by
    rw [List.length_append, List.length_take, List.length_append]
    omega
  have hmax : max size (i + bs.length)
      = ((m ++ junk).take i ++ bs).length + (size - (i + bs.length)) := by omega
  rw [splice, hmax, List.take_length_add_append, List.take_append_of_le_length (by omega)]
  congr 1
  by_cases hbig : i + bs.length ≤ size
  · rw [slice, List.drop_append_of_le_length (by omega),
      List.take_append_of_le_length (by rw [List.length_drop]; omega)]
  · rw [Nat.sub_eq_zero_of_le (by omega)]
    simp [slice]

/-- The data after `bs` was laid over it at the cursor. -/
def overlaid (ba : ByteArray) (bs : List UInt8) : List UInt8 :=
  ba.bytes.take ba.position ++ bs
    ++ slice ba.bytes (ba.position + bs.length) (ba.size - (ba.position + bs.length))

/-- What the copying way leaves in `[0, size)`. -/
theorem Written.contents_eq {ba ba' : ByteArray} {bs : List UInt8} (h : Inv ba)
    (hw : Written ba bs ba') : ba'.contents = ba.overlaid bs := by
  obtain ⟨junk, -, hbytes⟩ := hw.bytes_eq
  have hsize : ba.size ≤ ba.bytes.length := by rw [h.length_bytes]; exact h.size_le
  rw [contents, hbytes, hw.size_eq, take_splice_grown junk h.position_le hsize, overlaid]

/-- No bytes change nothing. -/
theorem overlaid_nil {ba : ByteArray} (h : Inv ba) : ba.overlaid [] = ba.contents := by
  have hle := h.position_le
  have hadd := List.take_add (l := ba.bytes) (i := ba.position) (j := ba.size - ba.position)
  rw [Nat.add_sub_cancel' hle] at hadd
  rw [overlaid, contents, hadd]
  simp [slice]

/-- Room alone does not show. -/
theorem Grown.contents_eq {ba g : ByteArray} {n : Nat} (hg : Grown ba n g) (h : Inv ba) :
    g.contents = ba.contents := by
  obtain ⟨junk, -, hbytes⟩ := hg.bytes_eq
  have hsize : ba.size ≤ ba.bytes.length := by
    rw [h.length_bytes]
    exact h.size_le
  rw [contents, hg.size_eq, hbytes, List.take_append_of_le_length hsize, contents]

/-- More bytes never need fewer blocks. -/
theorem growth_mono (ba : ByteArray) {m n : Nat} (h : m ≤ n) : ba.growth m ≤ ba.growth n := by
  have hceil : ceilDiv (m - ba.getCapacity) ba.baseSize
      ≤ ceilDiv (n - ba.getCapacity) ba.baseSize :=
    Nat.div_le_div_right (by omega)
  exact Nat.mul_le_mul_right _ hceil

/-- The zero-copy read: the buffers take the bytes, and the position moves behind them. -/
theorem streamRead_spec {ba : ByteArray} (h : Inv ba) {length : Nat} {bs : List UInt8}
    (hpos : 0 < bs.length) (hlen : bs.length ≤ length) :
    ∃ ba', streamRead fresh true (some bs) length ba = .ok bs.length ba'
      ∧ ba'.position = ba.position + bs.length
      ∧ ba'.size = max ba.size (ba.position + bs.length)
      ∧ ba'.contents = ba.overlaid bs
      ∧ ba'.capacity = ba.capacity + ba.growth length := by
  obtain ⟨iovs, g, hget, hg, hcov⟩ := getWriteBuffers_spec fresh h length
  obtain ⟨junk, -, hbytes⟩ := hg.bytes_eq
  have hroom := hg.room
  have hstop : ba.position + length ≤ g.root.length * ba.baseSize := by
    rw [← hg.baseSize_eq, ← hg.inv.capacity_eq]
    exact hroom
  have hblocks : Blocks ba.baseSize g.root := hg.baseSize_eq ▸ hg.inv.blocks
  have hfit : ba.position + bs.length ≤ ba.position + length := by omega
  obtain ⟨root, hscatter, hchain⟩ := scatter_spec hblocks hcov hfit hstop
  obtain ⟨hb, hrootlen⟩ := scatter_blocks hg.inv.blocks hscatter
  have hinv := hg.inv.refilled hb hrootlen
  have hrecv : recv true (some bs) iovs g = .ok bs.length { g with root := root } := by
    simp [recv, hscatter]
  have hset := setPosition_eq hinv (v := g.position + bs.length)
    (by simp only [hg.position_eq]; omega)
  refine ⟨ByteArray.positioned { g with root := root } (g.position + bs.length), ?_, ?_, ?_, ?_,
    hg.capacity_eq⟩
  · have hrt : (bs.length : Int) > 0 := by omega
    simp only [streamRead, if_true, bind_ok hget, bind_ok hrecv, if_pos hrt, Int.toNat_natCast]
    exact (bind_ok rfl).trans (bind_ok hset)
  · simp only [positioned, hg.position_eq]
  · simp only [positioned, hg.position_eq, hg.size_eq]
  · have hsize : ba.size ≤ ba.bytes.length := by rw [h.length_bytes]; exact h.size_le
    simp only [contents, positioned, bytes, hchain, hg.position_eq, hg.size_eq]
    rw [overlaid, ← take_splice_grown junk h.position_le hsize, ← hbytes, bytes]

/-- The zero-copy write: the bytes at the cursor leave, and the position moves behind them. -/
theorem streamWrite_spec {ba : ByteArray} (h : Inv ba) {length n : Nat} (hpos : 0 < n)
    (hdata : n ≤ ba.getReadSize) (hlen : n ≤ length) :
    ∃ ba', streamWrite true (some n) length ba
        = .ok ((n : Int), slice ba.bytes ba.position n) ba'
      ∧ ba'.position = ba.position + n ∧ ba'.size = ba.size := by
  obtain ⟨iovs, hget, hcov⟩ := getReadBuffers_spec h (by omega : 0 < length) (by omega)
  have hfit : ba.position + min length ba.getReadSize ≤ ba.capacity := by
    have := h.size_le
    unfold getReadSize
    have := h.position_le
    omega
  have hgather := gather_spec (n := n) h.blocks hcov (by omega)
    (by rw [← h.capacity_eq]; exact hfit)
  have hslice : (slice ba.bytes ba.position n).length = n :=
    length_slice (by rw [h.length_bytes]; omega)
  have hsend : send true (some n) iovs ba = .ok ((n : Int), slice ba.bytes ba.position n) ba := by
    simp only [send, if_true, hgather]
    rw [bytes] at hslice ⊢
    rw [hslice]
  refine ⟨ba.positioned (ba.position + n), ?_, rfl, ?_⟩
  · have hrt : (n : Int) > 0 := by omega
    simp only [streamWrite, if_true, bind_ok hget, bind_ok hsend, if_pos hrt, Int.toNat_natCast]
    exact (bind_ok rfl).trans (bind_ok (setPosition_eq h (by omega)))
  · have hmax : ba.position + n ≤ ba.size := by
      unfold getReadSize at hdata
      omega
    exact Nat.max_eq_left hmax

/-- **The zero-copy path agrees with the copying path.** From every array that any calls and
transfers have left, a stream read that receives `bs` leaves the position, the size and the
bytes of `[0, size)` that `write bs` leaves, and a stream write of which `n` bytes are accepted
sends the bytes that `read n` returns and leaves the position and the size it leaves. -/
theorem stream_agrees (B : Nat) (hB : 0 < B) (uses : List Use) (thrown : List (Option Fault))
    (ba : ByteArray) (hrun : run (callUse fresh) (new fresh B) uses = some (thrown, ba)) :
    (∀ (length : Nat) (bs : List UInt8), 0 < bs.length → bs.length ≤ length →
      ∃ ba₁ ba₂, streamRead fresh true (some bs) length ba = .ok bs.length ba₁
        ∧ write fresh bs ba = .ok () ba₂
        ∧ ba₁.position = ba₂.position ∧ ba₁.size = ba₂.size ∧ ba₁.contents = ba₂.contents
        ∧ ba₂.capacity ≤ ba₁.capacity)
    ∧ ∀ length n : Nat, 0 < n → n ≤ ba.getReadSize → n ≤ length →
      ∃ bs ba₁ ba₂, streamWrite true (some n) length ba = .ok ((n : Int), bs) ba₁
        ∧ read n ba = .ok bs ba₂
        ∧ ba₁.position = ba₂.position ∧ ba₁.size = ba₂.size := by
  obtain ⟨h, rfl⟩ : WellFormed B ba :=
    run_invariant (fun _ _ _ _ hs hc => callUse_wellFormed fresh hs hc) uses
      ⟨inv_new fresh hB, rfl⟩ hrun
  constructor
  · intro length bs hpos hlen
    obtain ⟨ba₁, hread, hp1, hs1, hc1, hcap1⟩ := streamRead_spec fresh h hpos hlen
    obtain ⟨ba₂, hwrite, hw⟩ := write_spec fresh h bs
    have hgrow := growth_mono ba hlen
    refine ⟨ba₁, ba₂, hread, hwrite, ?_, ?_, ?_, ?_⟩
    · rw [hp1, hw.position_eq]
    · rw [hs1, hw.size_eq]
    · rw [hc1, hw.contents_eq h]
    · rw [hcap1, hw.capacity_eq]
      omega
  · intro length n hpos hdata hlen
    obtain ⟨ba₁, hwrite, hp1, hs1⟩ := streamWrite_spec h hpos hdata hlen
    have hlt : ba.position < ba.capacity := by
      have := h.size_le
      unfold getReadSize at hdata
      omega
    exact ⟨_, ba₁, ba.advanced n, hwrite, read_eq h hdata hlt, hp1, hs1⟩

/-- Both ways from position 1 of four bytes in blocks of two: two bytes are received, which end
inside the second block, and two are sent. -/
theorem stream_agrees_across :
    ∃ thrown ba, run (callUse fun _ _ => 0) (new (fun _ _ => 0) 2)
        [.method (.write [1, 2, 3]), .streamRead true (some [4]) 5, .method (.setPosition 1)]
          = some (thrown, ba)
      ∧ (∃ ba₁ ba₂, streamRead (fun _ _ => 0) true (some [9, 8]) 6 ba = .ok 2 ba₁
        ∧ write (fun _ _ => 0) [9, 8] ba = .ok () ba₂
        ∧ ba₁.position = ba₂.position ∧ ba₁.size = ba₂.size ∧ ba₁.contents = ba₂.contents
        ∧ ba₂.capacity ≤ ba₁.capacity)
      ∧ ∃ bs ba₁ ba₂, streamWrite true (some 2) 3 ba = .ok (2, bs) ba₁
        ∧ read 2 ba = .ok bs ba₂ ∧ ba₁.position = ba₂.position ∧ ba₁.size = ba₂.size := by
  have hgo : (run (callUse fun _ _ => 0) (new (fun _ _ => 0) 2)
      [.method (.write [1, 2, 3]), .streamRead true (some [4]) 5, .method (.setPosition 1)]).map
      (fun r => decide (2 ≤ r.2.getReadSize)) = some true := by decide
  obtain ⟨⟨thrown, ba⟩, hrun, hdata⟩ := Option.map_eq_some_iff.mp hgo
  obtain ⟨hread, hwrite⟩ := stream_agrees (fun _ _ => 0) 2 (by decide) _ _ _ hrun
  exact ⟨thrown, ba, hrun, hread 6 [9, 8] (by decide) (by decide),
    hwrite 3 2 (by decide) (of_decide_eq_true hdata) (by decide)⟩

end ByteArray

end HrServer
