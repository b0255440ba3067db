/-
HrServer.ByteArray.File — `writeToFile` and `readFromFile` of
`sylar/bytearray.cc`.

`writeToFile` takes one chunk a block: the smaller of the block size and
what is left, less the offset in the block. That is the chunk up to the
end of the block when at least a block is left, and it is right from a
block boundary. Otherwise it is too short, the next pass goes on to the
next block all the same, and from then on the offset and the rest trade
places until the chain ends (`writeFileLoop_swap`).

The condition of `savesUnread_whole_blocks` is enough for every block size.
`int diff` keeps 32 bits of the offset, so the converse is about blocks of
at most `2 ^ 31` bytes: in larger ones the bytes at the wrong offset can be
the right ones by accident.

The streams open and keep what they are given. `read_size` and `pos` are
`int64_t`, far above any size of memory, and are integers here; they do
get negative chunk lengths.
-/
import HrServer.ByteArray.RoundTrip
import HrServer.ByteArray.Positional

namespace HrServer

open Lib

/-- A `std::ofstream`: the file and `badbit`. -/
structure Ofstream where
  data : List UInt8
  bad : Bool
  deriving DecidableEq

/-- `ofs.write(cur->ptr + diff, len)`. A negative count sets `badbit`; a count that
leaves the block is a memory fault. -/
def Ofstream.write (ofs : Ofstream) (cur : Node) (diff len : Int) : Option Ofstream :=
  if ofs.bad then some ofs
  else if len < 0 then some { ofs with bad := true }
  else if len = 0 then some ofs
  else if diff < 0 then none
  else (cur.load diff.toNat len.toNat).map fun bs => { ofs with data := ofs.data ++ bs }

/-- A chunk inside the block. -/
theorem Ofstream.write_eq {data : List UInt8} {cur : Node} {diff len : Nat} (hlen : 0 < len)
    (hfit : diff + len ≤ cur.size) :
    Ofstream.write ⟨data, false⟩ cur diff len
      = some ⟨data ++ slice cur.ptr diff len, false⟩ := by
  have hload : cur.load diff len = some (slice cur.ptr diff len) := if_pos hfit
  have h1 : ¬ (len : Int) < 0 := by omega
  have h2 : ¬ (len : Int) = 0 := by omega
  have h3 : ¬ (diff : Int) < 0 := by omega
  simp only [Ofstream.write, if_neg h1, if_neg h2, if_neg h3, Int.toNat_natCast, hload]
  rfl

namespace ByteArray

/-- `int diff = pos % m_baseSize`: 32 bits, signed. -/
def diffOf (B : Nat) (pos : Int) : Int := Int.bmod (pos % B) (2 ^ 32)

/-- The loop of `writeToFile`, over the blocks from `cur` on. -/
def writeFileLoop (B : Nat) : List Node → (pos readSize : Int) → Ofstream → Option Ofstream
  | [], _, readSize, ofs => if readSize > 0 then none else some ofs
  | cur :: next, pos, readSize, ofs =>
    if readSize > 0 then do
      let len := (if readSize > B then (B : Int) else readSize) - diffOf B pos
      let ofs ← ofs.write cur (diffOf B pos) len
      writeFileLoop B next (pos + len) (readSize - len) ofs
    else some ofs

/-- `writeToFile`. `opened` is whether the file could be opened; the result is the
stream, or `none` for `return false`. -/
def writeToFile (opened : Bool) : Op (Option Ofstream) := fun ba =>
  if opened then
    let nodes := match ba.cur with
      | none => []
      | some c => ba.root.drop c
    match writeFileLoop ba.baseSize nodes ba.position ba.getReadSize ⟨[], false⟩ with
    | none => .error .segv ba
    | some ofs => .ok (some ofs) ba
  else .ok none ba

/-- The loop of `readFromFile`: `read` sets `eofbit` when it cannot fill the buffer.
`passes` bounds the number of passes. -/
def readFileLoop (fresh : Nat → Nat → UInt8) (B : Nat) : (passes : Nat) → List UInt8 → Op Unit
  | 0, _ => return
  | passes + 1, file => do
    write fresh (file.take B)
    if file.length < B then return
    else readFileLoop fresh B passes (file.drop B)

/-- `readFromFile`; `none` is a file that cannot be opened. -/
def readFromFile (fresh : Nat → Nat → UInt8) : Option (List UInt8) → Op Bool
  | none => return false
  | some file => do
    readFileLoop fresh (← get).baseSize (file.length + 1) file
    return true

/-! ## Reading a file -/

/-- Each pass appends what it read. -/
theorem Filled.readFileLoop (fresh : Nat → Nat → UInt8) {B : Nat} (hB : 0 < B) {e : Endian}
    (passes : Nat) (file : List UInt8) (hpasses : file.length < passes) {ba : ByteArray}
    {content : List UInt8} (h : Filled B e ba content) :
    ∃ ba', ByteArray.readFileLoop fresh B passes file ba = .ok () ba'
      ∧ Filled B e ba' (content ++ file) := by
  induction passes generalizing file ba content with
  | zero => omega
  | succ passes ih =>
    obtain ⟨ba1, hw, hf⟩ := h.write fresh (file.take B)
    rw [ByteArray.readFileLoop, bind_ok hw]
    by_cases hlast : file.length < B
    · rw [if_pos hlast]
      rw [List.take_of_length_le (Nat.le_of_lt hlast)] at hf
      exact ⟨ba1, rfl, hf⟩
    · rw [if_neg hlast]
      obtain ⟨ba2, hr, hf2⟩ := ih (file.drop B) (by rw [List.length_drop]; omega) hf
      rw [List.append_assoc, List.take_append_drop] at hf2
      exact ⟨ba2, hr, hf2⟩

/-- A file read into a fresh array becomes its contents. -/
theorem readFromFile_new (fresh : Nat → Nat → UInt8) {B : Nat} (hB : 0 < B) (file : List UInt8) :
    ∃ ba, readFromFile fresh (some file) (new fresh B) = .ok true ba ∧ ba.contents = file := by
  obtain ⟨ba, hr, hf⟩ := (filled_new fresh hB .big).readFileLoop fresh hB (file.length + 1) file
    (Nat.lt_succ_self _)
  rw [List.nil_append] at hf
  refine ⟨ba, ?_, by rw [contents, hf.size_eq]; exact hf.data⟩
  have hget : (get : Op ByteArray) (new fresh B) = .ok (new fresh B) (new fresh B) := rfl
  rw [readFromFile, bind_ok hget]
  exact bind_ok hr

/-! ## The loop of `writeToFile` -/

/-- An offset below `2 ^ 31` survives the conversion. -/
theorem diffOf_eq {B : Nat} {pos : Int} {d : Nat} (hmod : pos % B = d) (hd : d < 2 ^ 31) :
    diffOf B pos = d := by
  rw [diffOf, hmod]
  exact Int.bmod_eq_of_le (by omega) (by omega)

theorem writeFileLoop_done {B : Nat} (nodes : List Node) (pos : Int) {readSize : Int}
    (h : readSize ≤ 0) (ofs : Ofstream) : writeFileLoop B nodes pos readSize ofs = some ofs := by
  cases nodes <;> exact if_neg (by omega)

/-- From a block boundary every chunk is a block or what is left. -/
theorem writeFileLoop_aligned {B : Nat} (nodes : List Node) (hb : Blocks B nodes) (hB : 0 < B)
    (data : List UInt8) {pos : Int} (hpos : pos % B = 0) {readSize : Nat}
    (hroom : readSize ≤ nodes.length * B) :
    writeFileLoop B nodes pos readSize ⟨data, false⟩
      = some ⟨data ++ slice (chainBytes nodes) 0 readSize, false⟩ := by
  induction nodes generalizing pos readSize data with
  | nil =>
    have h0 : readSize = 0 := by simpa using hroom
    subst h0
    simp [writeFileLoop, slice]
  | cons cur next ih =>
    rw [List.length_cons, Nat.add_mul, Nat.one_mul] at hroom
    have hptr : cur.ptr.length = B := hb.length_ptr List.mem_cons_self
    by_cases h0 : readSize = 0
    · subst h0
      simp [writeFileLoop, slice]
    · have hdiff : diffOf B pos = ((0 : Nat) : Int) := diffOf_eq hpos (by decide)
      have hlen : (if (readSize : Int) > B then (B : Int) else readSize) - diffOf B pos
          = ((min readSize B : Nat) : Int) := by
        rw [hdiff]
        split <;> omega
      have hwrite : Ofstream.write ⟨data, false⟩ cur (diffOf B pos) ((min readSize B : Nat) : Int)
          = some ⟨data ++ slice cur.ptr 0 (min readSize B), false⟩ := by
        rw [hdiff]
        exact Ofstream.write_eq (by omega) (by rw [hb.head]; omega)
      have hrest : (readSize : Int) - ((min readSize B : Nat) : Int)
          = ((readSize - min readSize B : Nat) : Int) := by omega
      rw [writeFileLoop, if_pos (by omega)]
      simp only [hlen, hwrite, hrest, Option.bind_eq_bind, Option.bind_some]
      by_cases hfit : readSize ≤ B
      · -- the last chunk
        rw [writeFileLoop_done next _ (by omega), Nat.min_eq_left hfit, chainBytes_cons,
          slice_append_left (by omega)]
      · have hmin : min readSize B = B := by omega
        have hpos' : (pos + (B : Int)) % B = 0 := by rw [Int.add_emod_right, hpos]
        rw [hmin, ih hb.tail _ hpos' (by omega), chainBytes_cons,
          slice_append_across (Nat.zero_le _) (by omega), List.append_assoc, hptr, Nat.sub_zero]

/-- From inside a block, with less than a block left, the loop runs to the end of the
chain: the offset and the rest trade places in every pass. -/
theorem writeFileLoop_swap {B : Nat} (hB : B ≤ 2 ^ 31) (nodes : List Node) {pos : Int}
    {d r : Nat} (hpos : pos % B = d) (hd : 0 < d ∧ d < B) (hr : 0 < r ∧ r < B) (ofs : Ofstream) :
    writeFileLoop B nodes pos r ofs = none := by
  induction nodes generalizing pos d r ofs with
  | nil =>
    rw [writeFileLoop, if_pos (by omega)]
  | cons cur next ih =>
    have hdiff : diffOf B pos = d := diffOf_eq hpos (by omega)
    have hlen : (if (r : Int) > B then (B : Int) else r) = r := if_neg (by omega)
    rw [writeFileLoop, if_pos (by omega)]
    simp only [hlen, hdiff, Option.bind_eq_bind]
    cases hwrite : ofs.write cur d ((r : Int) - d) with
    | none => rfl
    | some ofs' =>
      have hrest : (r : Int) - (r - d) = d := by omega
      have hpos' : (pos + ((r : Int) - d)) % B = r := by
        have hsum : pos + ((r : Int) - d) = (pos - pos % B) + r := by rw [hpos]; omega
        have hdvd : (B : Int) ∣ pos - pos % B := Int.dvd_self_sub_emod
        rw [hsum, Int.add_emod, Int.emod_eq_zero_of_dvd hdvd, Int.zero_add, Int.emod_emod_of_dvd _
          (Int.dvd_refl _), Int.emod_eq_of_lt (by omega) (by omega)]
      rw [Option.bind_some, hrest]
      exact ih hpos' hr hd ofs'

/-! ## Saving -/

/-- `writeToFile` writes the readable bytes, and a fresh array, whatever its blocks, gets
them back. -/
def SavesUnread (ba : ByteArray) : Prop :=
  ∃ file, writeToFile true ba = .ok (some ⟨file, false⟩) ba
    ∧ file = slice ba.contents ba.position ba.getReadSize
    ∧ ∀ fresh B, 0 < B →
        ∃ ba', readFromFile fresh (some file) (new fresh B) = .ok true ba' ∧ ba'.contents = file

/-- Nothing is to be written, or the offset of the cursor in its block is an `int`, and
it is zero or at least a block is to be written. -/
def WholeBlocks (ba : ByteArray) : Prop :=
  ba.getReadSize = 0 ∨ (ba.position % ba.baseSize < 2 ^ 31
    ∧ (ba.position % ba.baseSize = 0 ∨ ba.baseSize ≤ ba.getReadSize))

instance (ba : ByteArray) : Decidable (WholeBlocks ba) := by
  unfold WholeBlocks
  infer_instance

section saving

variable {ba : ByteArray}

theorem natCast_position_mod (ba : ByteArray) :
    (ba.position : Int) % (ba.baseSize : Int) = ((ba.position % ba.baseSize : Nat) : Int) :=
  (Int.natCast_emod _ _).symm

/-- The blocks from the cursor on, when there is something to read. -/
theorem root_at_cursor (h : Inv ba) (hread : 0 < ba.getReadSize) :
    ba.cur = some (ba.position / ba.baseSize)
      ∧ ∃ node next, ba.root.drop (ba.position / ba.baseSize) = node :: next := by
  have h2 := h.size_le
  have hlt : ba.position < ba.capacity := by
    unfold getReadSize at hread
    omega
  refine ⟨h.cur_of_lt hlt, ?_⟩
  have hdiv : ba.position / ba.baseSize < ba.root.length := by
    rw [Nat.div_lt_iff_lt_mul h.baseSize_pos, ← h.capacity_eq]
    exact hlt
  exact ⟨_, _, List.drop_eq_getElem_cons hdiv⟩

/-- The first chunk ends with the block, and the rest starts at a boundary. -/
theorem writeFileLoop_block {B : Nat} {node : Node} {next : List Node}
    (hb : Blocks B (node :: next)) {pos : Int} {d : Nat} (hpos : pos % B = d) (hd : d < B)
    (hint : d < 2 ^ 31) {readSize : Nat} (hread : B ≤ readSize)
    (hroom : d + readSize ≤ (next.length + 1) * B) :
    writeFileLoop B (node :: next) pos readSize ⟨[], false⟩
      = some ⟨slice (chainBytes (node :: next)) d readSize, false⟩ := by
  have hptr : node.ptr.length = B := hb.length_ptr List.mem_cons_self
  have hdiff := diffOf_eq hpos hint
  have hlen : (if (readSize : Int) > B then (B : Int) else readSize) - d
      = ((B - d : Nat) : Int) := by
    split <;> omega
  have hrest : (readSize : Int) - ((B - d : Nat) : Int) = ((readSize - (B - d) : Nat) : Int) := by
    omega
  have hpos' : (pos + ((B - d : Nat) : Int)) % B = 0 := by
    have hsum : pos + ((B - d : Nat) : Int) = (pos - pos % B) + B := by rw [hpos]; omega
    rw [hsum, Int.add_emod_right, Int.emod_eq_zero_of_dvd Int.dvd_self_sub_emod]
  have hwrite := @Ofstream.write_eq [] node d (B - d) (by omega)
    (by rw [hb.head]; omega)
  rw [Nat.add_mul, Nat.one_mul] at hroom
  rw [writeFileLoop, if_pos (by omega)]
  simp only [hdiff, hlen, hwrite, hrest, Option.bind_eq_bind, Option.bind_some]
  rw [writeFileLoop_aligned next hb.tail (by omega) _ hpos' (by omega), chainBytes_cons,
    slice_append_across (by omega) (by omega), hptr, List.nil_append]

/-- The whole loop, from the cursor on. -/
theorem writeToFile_eq (h : Inv ba) (hcond : WholeBlocks ba) :
    writeToFile true ba
      = .ok (some ⟨slice ba.contents ba.position ba.getReadSize, false⟩) ba := by
  have h1 := h.position_le
  have h2 := h.size_le
  have hB := h.baseSize_pos
  have hmod := Nat.mod_lt ba.position hB
  rw [slice_contents (by unfold getReadSize; omega)]
  by_cases h0 : ba.getReadSize = 0
  · simp only [writeToFile, if_true, h0, writeFileLoop_done _ _ (Int.le_refl _), Nat.cast_zero]
    simp [slice]
  · obtain ⟨hcur, node, next, hroot⟩ := root_at_cursor h (Nat.pos_of_ne_zero h0)
    have hlt : ba.position < ba.capacity := by
      unfold getReadSize at h0
      omega
    have hblocks := h.blocks.drop (ba.position / ba.baseSize)
    have hroom := h.room_after (n := ba.getReadSize) (by unfold getReadSize; omega)
    have hslice := h.slice_at_position hlt ba.getReadSize
    rw [hroot] at hblocks hroom hslice
    have hpos := natCast_position_mod ba
    obtain ⟨hint, halign | hfull⟩ := hcond.resolve_left h0
    · rw [halign] at hroom hslice hpos
      rw [Nat.zero_add] at hroom
      have hloop := writeFileLoop_aligned (node :: next) hblocks hB [] hpos hroom
      rw [List.nil_append, ← hslice] at hloop
      simp only [writeToFile, if_true, hcur, hroot, hloop]
    · have hloop := writeFileLoop_block hblocks hpos hmod hint hfull hroom
      rw [← hslice] at hloop
      simp only [writeToFile, if_true, hcur, hroot, hloop]

/-- In all other cases the loop leaves the chain. -/
theorem writeToFile_crash (h : Inv ba) (hB : ba.baseSize ≤ 2 ^ 31) (hcond : ¬ WholeBlocks ba) :
    writeToFile true ba = .error .segv ba := by
  have hmod := Nat.mod_lt ba.position h.baseSize_pos
  unfold WholeBlocks at hcond
  push Not at hcond
  obtain ⟨h0, hrest⟩ := hcond
  obtain ⟨hoff, hshort⟩ := hrest (by omega)
  obtain ⟨hcur, -⟩ := root_at_cursor h (Nat.pos_of_ne_zero h0)
  have hloop := writeFileLoop_swap hB (ba.root.drop (ba.position / ba.baseSize))
    (natCast_position_mod ba) ⟨Nat.pos_of_ne_zero hoff, hmod⟩ ⟨Nat.pos_of_ne_zero h0, hshort⟩
    ⟨[], false⟩
  simp only [writeToFile, if_true, hcur, hloop]

/-- Saving works when whole blocks are written from the cursor on, for every block size,
and only then for blocks of at most `2 ^ 31` bytes. -/
theorem savesUnread_whole_blocks (h : Inv ba) :
    (WholeBlocks ba → SavesUnread ba)
      ∧ (ba.baseSize ≤ 2 ^ 31 → (SavesUnread ba ↔ WholeBlocks ba)) := by
  have hsaves : WholeBlocks ba → SavesUnread ba := by
    intro hcond
    exact ⟨_, writeToFile_eq h hcond, rfl, fun fresh B hB => readFromFile_new fresh hB _⟩
  refine ⟨hsaves, fun hB => ⟨?_, hsaves⟩⟩
  rintro ⟨file, hok, -⟩
  by_contra hcond
  rw [writeToFile_crash h hB hcond] at hok
  cases hok

end saving

/-- Six bytes from the start of the first block. -/
theorem savesUnread_six_bytes : SavesUnread sixBytesArray :=
  (savesUnread_whole_blocks sixBytesArray_inv).1 (by decide)

/-- Two bytes in a block of four, with the cursor between them: the chunk is empty, and
the next pass dereferences the null node. -/
theorem writeToFile_inside_block :
    ∃ ba, (do write (fun _ _ => 0) [1, 2]; setPosition 1 : Op Unit) (new (fun _ _ => 0) 4)
        = .ok () ba
      ∧ writeToFile true ba = .error .segv ba ∧ ¬ SavesUnread ba := by
  refine ⟨_, rfl, rfl, ?_⟩
  rintro ⟨file, hok, -⟩
  cases hok

end ByteArray

end HrServer
