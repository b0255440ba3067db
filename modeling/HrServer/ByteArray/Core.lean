/-
HrServer.ByteArray.Core — the node chain of `sylar/bytearray.cc` and the
operations that move over it.

A `ByteArray` keeps its bytes in a singly linked chain of memory blocks
of equal size. The chain from `m_root` is the list `root`; a `Node*` into
it is the index of the node, and the null pointer is `none`. A member
function is a computation in `Op`: it returns a value, or throws
`std::out_of_range`, or dereferences a null node (`Fault.segv`), and the
state it leaves behind is kept in all three cases.

Each loop of the source is a recursion over the part of the chain from
the node it starts at, one call for one pass of the loop, so that the
empty list is the null `m_cur`.

Readings taken throughout:

* Allocation succeeds, and a fresh block holds arbitrary bytes: `fresh k j`
  is byte `j` of the `k`-th block the array ever allocates, `allocs` counts
  the blocks allocated so far.
* `size_t` is `Nat`; no position exceeds the memory that was allocated.
* `ceil(1.0 * size / m_baseSize)` is the exact ceiling.
-/
import HrServer.Lib.Splice

namespace HrServer

open Lib

/-- The byte orders of `endian.h`. -/
inductive Endian where
  | little
  | big
  deriving DecidableEq, Repr

/-- `ByteArray::Node`: a memory block and its size. The `next` pointer is the
node's place in the chain. -/
structure Node where
  ptr : List UInt8
  size : Nat
  length_ptr : ptr.length = size
  deriving DecidableEq

/-- `new Node(s)`, the block filled with whatever the allocator returned. -/
def Node.new (s : Nat) (junk : Nat → UInt8) : Node where
  ptr := (List.range s).map junk
  size := s
  length_ptr := by simp

/-- `memcpy(ptr + npos, bs, |bs|)`; `none` when it would leave the block. -/
def Node.store (n : Node) (npos : Nat) (bs : List UInt8) : Option Node :=
  if h : npos + bs.length ≤ n.size then
    some { ptr := splice n.ptr npos bs
           size := n.size
           length_ptr := by rw [length_splice (by rw [n.length_ptr]; exact h), n.length_ptr] }
  else none

/-- `memcpy(buf, ptr + npos, len)`; `none` when it would leave the block. -/
def Node.load (n : Node) (npos len : Nat) : Option (List UInt8) :=
  if npos + len ≤ n.size then some (slice n.ptr npos len) else none

/-- The data members of `ByteArray`. -/
structure ByteArray where
  baseSize : Nat
  position : Nat
  capacity : Nat
  size : Nat
  endian : Endian
  root : List Node
  cur : Option Nat
  allocs : Nat
  deriving DecidableEq

/-- How a member function can fail. -/
inductive Fault where
  | outOfRange (what : String)
  | segv
  deriving DecidableEq, Repr

/-- A member function of `ByteArray`. -/
abbrev Op (α : Type) := EStateM Fault ByteArray α

/-- A slice of one block: `iov_base` is byte `offset` of node `node`. -/
structure Iovec where
  node : Nat
  offset : Nat
  len : Nat
  deriving DecidableEq, Repr

namespace ByteArray

variable (fresh : Nat → Nat → UInt8)

/-- The constructor `ByteArray(base_size)`. -/
def new (baseSize : Nat) : ByteArray where
  baseSize := baseSize
  position := 0
  capacity := baseSize
  size := 0
  endian := .big
  root := [Node.new baseSize (fresh 0)]
  cur := some 0
  allocs := 1

/-- `setIsLittleEndian`. -/
def setIsLittleEndian (val : Bool) : Op Unit :=
  modify fun ba => { ba with endian := if val then .little else .big }

/-- `getReadSize`. -/
def getReadSize (ba : ByteArray) : Nat := ba.size - ba.position

/-- `getCapacity`: the room between the cursor and the end of the chain. -/
def getCapacity (ba : ByteArray) : Nat := ba.capacity - ba.position

/-- The `Node*` that is `i` links away from the root. -/
def link (nodes : List Node) (i : Nat) : Option Nat :=
  if i < nodes.length then some i else none

/-- `clear`: every node but the root is deleted. -/
def clear : Op Unit :=
  modify fun ba =>
    { ba with position := 0, size := 0, capacity := ba.baseSize
              root := ba.root.take 1, cur := some 0 }

/-- `ceil(1.0 * size / m_baseSize)`. -/
def ceilDiv (size baseSize : Nat) : Nat := (size + baseSize - 1) / baseSize

/-- `addCapacity`: append blocks until `size` more bytes fit behind the cursor. -/
def addCapacity (size : Nat) (ba : ByteArray) : ByteArray :=
  if size = 0 then ba
  else if ba.getCapacity ≥ size then ba
  else
    let count := ceilDiv (size - ba.getCapacity) ba.baseSize
    let blocks := (List.range count).map fun i => Node.new ba.baseSize (fresh (ba.allocs + i))
    { ba with
      root := ba.root ++ blocks
      capacity := ba.capacity + count * ba.baseSize
      allocs := ba.allocs + count
      -- `first` is the first appended node, and it stays null when none was appended
      cur := if ba.getCapacity = 0 then link (ba.root ++ blocks) ba.root.length else ba.cur }

/-- The copy loop of `write`. Returns the rewritten nodes, the number of links
`m_cur` moved on, and `m_position`. -/
def writeLoop : List Node → Nat → List UInt8 → Nat → Option (List Node × Nat × Nat)
  | [], _, _, _ => none
  | cur :: next, npos, buf, position =>
    let ncap := cur.size - npos
    if ncap ≥ buf.length then do
      let cur' ← cur.store npos buf
      some (cur' :: next, if cur.size = npos + buf.length then 1 else 0, position + buf.length)
    else do
      let cur' ← cur.store npos (buf.take ncap)
      let (next', moved, position') ← writeLoop next 0 (buf.drop ncap) (position + ncap)
      some (cur' :: next', moved + 1, position')

/-- `write(buf, size)`. -/
def write (buf : List UInt8) : Op Unit := fun ba =>
  if buf.length = 0 then .ok () ba
  else
    let ba := addCapacity fresh buf.length ba
    match ba.cur with
    | none => .error .segv ba
    | some c =>
      match writeLoop (ba.root.drop c) (ba.position % ba.baseSize) buf ba.position with
      | none => .error .segv ba
      | some (nodes, moved, position) =>
        let root := ba.root.take c ++ nodes
        .ok () { ba with
          root := root
          cur := link root (c + moved)
          position := position
          size := if position > ba.size then position else ba.size }

/-- The copy loop of `read`. Returns the bytes, the number of links `m_cur`
moved on, and `m_position`. -/
def readLoop : List Node → Nat → Nat → Nat → Option (List UInt8 × Nat × Nat)
  | [], _, size, position => if size = 0 then some ([], 0, position) else none
  | cur :: next, npos, size, position =>
    let ncap := cur.size - npos
    if size = 0 then some ([], 0, position)
    else if ncap ≥ size then do
      let bs ← cur.load npos size
      some (bs, if cur.size = npos + size then 1 else 0, position + size)
    else do
      let bs ← cur.load npos ncap
      let (rest, moved, position') ← readLoop next 0 (size - ncap) (position + ncap)
      some (bs ++ rest, moved + 1, position')

/-- `read(buf, size)`. The node under the cursor is dereferenced before the loop
looks at `size`. -/
def read (size : Nat) : Op (List UInt8) := fun ba =>
  if size > ba.getReadSize then .error (.outOfRange "not enough len") ba
  else
    match ba.cur with
    | none => .error .segv ba
    | some c =>
      match readLoop (ba.root.drop c) (ba.position % ba.baseSize) size ba.position with
      | none => .error .segv ba
      | some (bs, moved, position) =>
        .ok bs { ba with cur := link ba.root (c + moved), position := position }

/-- The walk of `setPosition` from the root; returns the number of links. -/
def seek : List Node → Nat → Option Nat
  | [], _ => none
  | cur :: next, v =>
    if v > cur.size then (seek next (v - cur.size)).map (· + 1)
    else if v = cur.size then some 1
    else some 0

/-- `setPosition(v)`. -/
def setPosition (v : Nat) : Op Unit := fun ba =>
  if v > ba.capacity then .error (.outOfRange "set_position out of range") ba
  else
    let ba := { ba with position := v, size := if v > ba.size then v else ba.size }
    match seek ba.root v with
    | none => .error .segv ba
    | some moved => .ok () { ba with cur := link ba.root moved }

/-- The loop that `getReadBuffers` and `getWriteBuffers` share: cut `len` bytes
into one `iovec` a node, from offset `npos` of node `i` on. -/
def iovLoop : List Node → Nat → Nat → Nat → Option (List Iovec)
  | [], _, _, _ => none
  | cur :: next, i, npos, len =>
    let ncap := cur.size - npos
    if ncap ≥ len then some [⟨i, npos, len⟩]
    else (iovLoop next (i + 1) 0 (len - ncap)).map (⟨i, npos, ncap⟩ :: ·)

/-- `getReadBuffers(buffers, len)`: the `iovec`s appended and the length returned. -/
def getReadBuffers (len : Nat) : Op (List Iovec × Nat) := fun ba =>
  let len := if len > ba.getReadSize then ba.getReadSize else len
  if len = 0 then .ok ([], 0) ba
  else
    match ba.cur with
    | none => .error .segv ba
    | some c =>
      match iovLoop (ba.root.drop c) c (ba.position % ba.baseSize) len with
      | none => .error .segv ba
      | some iovs => .ok (iovs, len) ba

/-- `getReadBuffers(buffers, len, position)`: the walk starts at the root. -/
def getReadBuffersAt (len position : Nat) : Op (List Iovec × Nat) := fun ba =>
  let len := if len > ba.getReadSize then ba.getReadSize else len
  if len = 0 then .ok ([], 0) ba
  else
    match iovLoop (ba.root.drop (position / ba.baseSize)) (position / ba.baseSize)
        (position % ba.baseSize) len with
    | none => .error .segv ba
    | some iovs => .ok (iovs, len) ba

/-- `getWriteBuffers(buffers, len)`. -/
def getWriteBuffers (len : Nat) : Op (List Iovec × Nat) := fun ba =>
  if len = 0 then .ok ([], 0) ba
  else
    let ba := addCapacity fresh len ba
    match ba.cur with
    | none => .error .segv ba
    | some c =>
      match iovLoop (ba.root.drop c) c (ba.position % ba.baseSize) len with
      | none => .error .segv ba
      | some iovs => .ok (iovs, len) ba

end ByteArray

end HrServer
