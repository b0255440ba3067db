/-
HrServer.Util.Hash — the hashes of `sylar/util/hash_util.cc`: each for a C
string and for a pointer with a length.

The two `murmur3_hash` have the same body behind a different length, and
read nothing outside it (`murmur_congr`), so they agree. The loop of
`quick_hash` with a length does not move its pointer and takes the first
character every time: it gives the hash of a string only where the other
characters make up for it (`drift`).
-/
import HrServer.Http.Request
import Mathlib.Algebra.Order.Ring.Nat

namespace HrServer.Util

open Http

namespace Hash

/-! ## The functions

Memory is the list of the bytes from a pointer on. Words are read on a
little-endian machine, and `char` is signed. -/

/-- `ROTL(x, r)`. -/
def rotl (x r : UInt32) : UInt32 := (x <<< r) ||| (x >>> (32 - r))

def fmix32 (h : UInt32) : UInt32 :=
  let h := h ^^^ (h >>> 16)
  let h := h * 0x85ebca6b
  let h := h ^^^ (h >>> 13)
  let h := h * 0xc2b2ae35
  h ^^^ (h >>> 16)

/-- The byte at `i`, widened. -/
def byteAt (mem : Bytes) (i : Nat) : UInt32 := (mem.getD i 0).toUInt32

/-- `ptr[i]`, the bytes being words. -/
def word (mem : Bytes) (i : Nat) : UInt32 :=
  byteAt mem (4 * i) ||| byteAt mem (4 * i + 1) <<< 8 ||| byteAt mem (4 * i + 2) <<< 16
    ||| byteAt mem (4 * i + 3) <<< 24

/-- What is done with each `s` before it goes into `h`. -/
def scramble (s : UInt32) : UInt32 := rotl (s * 0xcc9e2d51) 15 * 0x1b873593

/-- `h` behind a block. -/
def mixBlock (h s : UInt32) : UInt32 := rotl (h ^^^ scramble s) 13 * 5 + 0xe6546b64

/-- The loop over the blocks. -/
def blockLoop (mem : Bytes) (blk : Nat) (h : UInt32) : UInt32 :=
  (List.range blk).foldl (fun h i => mixBlock h (word mem i)) h

/-- The `switch` over `len & 3`: `s` behind the cases, which fall through. -/
def tailWord (mem : Bytes) (tail : Nat) : Nat → UInt32
  | 3 => byteAt mem (tail + 2) <<< 16 ||| byteAt mem (tail + 1) <<< 8 ||| byteAt mem tail
  | 2 => byteAt mem (tail + 1) <<< 8 ||| byteAt mem tail
  | _ => byteAt mem tail

/-- The body of both `murmur3_hash`, for a `len` that an `int` holds. -/
def murmurBody (mem : Bytes) (len : Nat) (seed : UInt32) : UInt32 :=
  let blk := len / 4
  let h := blockLoop mem blk seed
  let h := if len % 4 = 0 then h else h ^^^ scramble (tailWord mem (blk * 4) (len % 4))
  fmix32 (h ^^^ UInt32.ofNat len)

/-- `strlen(str)`. -/
def strlen (mem : Bytes) : Nat := (cStr mem).length

/-- `murmur3_hash(data, size, seed)`; `none` is the null pointer. -/
def murmur3HashData (data : Option Bytes) (size seed : UInt32) : UInt32 :=
  match data with
  | none => 0
  | some mem => murmurBody mem size.toNat seed

/-- `murmur3_hash(str, seed)`. -/
def murmur3HashStr (str : Option Bytes) (seed : UInt32) : UInt32 :=
  match str with
  | none => 0
  | some mem => murmurBody mem (strlen mem) seed

/-- `(uint64_t)a << 32 | b`. -/
def pair64 (a b : UInt32) : UInt64 := a.toUInt64 <<< 32 ||| b.toUInt64

/-- `murmur3_hash64(str, size, seed, seed2)`. -/
def murmur3Hash64Data (data : Option Bytes) (size seed seed2 : UInt32) : UInt64 :=
  pair64 (murmur3HashData data size seed) (murmur3HashData data size seed2)

/-- `murmur3_hash64(str, seed, seed2)`. -/
def murmur3Hash64Str (str : Option Bytes) (seed seed2 : UInt32) : UInt64 :=
  pair64 (murmur3HashStr str seed) (murmur3HashStr str seed2)

/-- A `char` in an `unsigned int` expression. -/
def charValue (c : UInt8) : UInt32 := c.toInt8.toInt32.toUInt32

/-- The loop of `quick_hash(str)`: until the zero byte. -/
def quickLoopStr (h : UInt32) : Bytes → UInt32
  | [] => h
  | c :: str => if c = 0 then h else quickLoopStr (31 * h + charValue c) str

/-- `quick_hash(str)`. -/
def quickHashStr (str : Bytes) : UInt32 := quickLoopStr 0 str

/-- The loop of `quick_hash(tmp, size)`: `str` stays where it is. -/
def quickLoopData (str : Bytes) (h : UInt32) : Nat → UInt32
  | 0 => h
  | n + 1 => quickLoopData str (31 * h + charValue (str.getD 0 0)) n

/-- `quick_hash(tmp, size)`. -/
def quickHashData (tmp : Bytes) (size : UInt32) : UInt32 := quickLoopData tmp 0 size.toNat

/-! ## The murmur hashes -/

/-- Two memories with the same first `len` bytes. -/
def Agree (len : Nat) (mem mem' : Bytes) : Prop := ∀ i < len, mem.getD i 0 = mem'.getD i 0

theorem Agree.byteAt {len : Nat} {mem mem' : Bytes} (h : Agree len mem mem') {i : Nat}
    (hi : i < len) : byteAt mem i = byteAt mem' i := by
  rw [Hash.byteAt, Hash.byteAt, h i hi]

theorem Agree.word {len : Nat} {mem mem' : Bytes} (h : Agree len mem mem') {i : Nat}
    (hi : 4 * i + 3 < len) : word mem i = word mem' i := by
  simp only [Hash.word, h.byteAt (show 4 * i < len by omega),
    h.byteAt (show 4 * i + 1 < len by omega), h.byteAt (show 4 * i + 2 < len by omega),
    h.byteAt hi]

theorem Agree.blockLoop {len : Nat} {mem mem' : Bytes} (h : Agree len mem mem')
    (seed : UInt32) : blockLoop mem (len / 4) seed = blockLoop mem' (len / 4) seed := by
  refine List.foldl_ext _ _ seed fun hash i hi => ?_
  rw [List.mem_range] at hi
  rw [h.word (by omega)]

theorem Agree.tailWord {len : Nat} {mem mem' : Bytes} (h : Agree len mem mem')
    (hlen : len % 4 ≠ 0) :
    tailWord mem (len / 4 * 4) (len % 4) = tailWord mem' (len / 4 * 4) (len % 4) := by
  have hsum : len / 4 * 4 + len % 4 = len := Nat.div_add_mod' len 4
  have hn : len % 4 < 4 := Nat.mod_lt _ (by decide)
  generalize len / 4 * 4 = tail at hsum ⊢
  generalize len % 4 = n at hsum hlen hn ⊢
  have hbyte {k : Nat} (hk : k < n) : Hash.byteAt mem (tail + k) = Hash.byteAt mem' (tail + k) :=
    h.byteAt (by omega)
  match n with
  | 1 => exact hbyte (k := 0) (by decide)
  | 2 => rw [Hash.tailWord, Hash.tailWord, hbyte (k := 1) (by decide), h.byteAt (by omega)]
  | 3 =>
    rw [Hash.tailWord, Hash.tailWord, hbyte (k := 2) (by decide), hbyte (k := 1) (by decide),
      h.byteAt (by omega)]

/-- The hash reads the first `len` bytes only. -/
theorem murmur_congr {len : Nat} {mem mem' : Bytes} (h : Agree len mem mem') (seed : UInt32) :
    murmurBody mem len seed = murmurBody mem' len seed := by
  simp only [murmurBody, h.blockLoop seed]
  split
  · rfl
  · next hlen => rw [h.tailWord hlen]

theorem agree_append (s rest rest' : Bytes) : Agree s.length (s ++ rest) (s ++ rest') := by
  intro i hi
  simp [List.getD_eq_getElem?_getD, List.getElem?_append_left hi]

theorem strlen_eq {s : Bytes} (h : 0 ∉ s) (rest : Bytes) :
    strlen (s ++ 0 :: rest) = s.length := by
  have htake : cStr (s ++ 0 :: rest) = s := by
    rw [cStr, List.takeWhile_append_of_pos]
    · simp
    · intro a ha
      simpa using fun e : a = 0 => h (e ▸ ha)
  rw [strlen, htake]

theorem toNat_ofNat {n : Nat} (h : n < 2 ^ 31) : (UInt32.ofNat n).toNat = n := by
  rw [UInt32.toNat_ofNat']
  exact Nat.mod_eq_of_lt (by omega)

theorem murmur3Hash_eq {s : Bytes} (hnul : 0 ∉ s) (hlen : s.length < 2 ^ 31)
    (rest rest' : Bytes) (seed : UInt32) :
    murmur3HashStr (some (s ++ 0 :: rest)) seed
      = murmur3HashData (some (s ++ rest')) (UInt32.ofNat s.length) seed := by
  simp only [murmur3HashStr, murmur3HashData, strlen_eq hnul, toNat_ofNat hlen]
  exact murmur_congr (agree_append s _ _) seed

/-! ## The quick hash -/

/-- The characters' differences from `first`, each with the weight of its place. -/
def drift (first : UInt8) : Bytes → UInt32
  | [] => 0
  | c :: s => 31 ^ s.length * (charValue c - charValue first) + drift first s

/-- With `k` for the difference of the two hashes so far. -/
theorem quickLoop_eq {s mem : Bytes} (hnul : 0 ∉ s) (rest : Bytes) (h k : UInt32) :
    quickLoopStr (h + k) (s ++ 0 :: rest)
      = quickLoopData mem h s.length + (31 ^ s.length * k + drift (mem.getD 0 0) s) := by
  induction s generalizing h k with
  | nil => simp [quickLoopStr, quickLoopData, drift]
  | cons c s ih =>
    rw [List.mem_cons, not_or] at hnul
    have hstep : 31 * (h + k) + charValue c = (31 * h + charValue (mem.getD 0 0))
        + (31 * k + (charValue c - charValue (mem.getD 0 0))) := by
      grind
    rw [List.cons_append, quickLoopStr, if_neg (Ne.symm hnul.1), hstep, ih hnul.2,
      List.length_cons, quickLoopData, drift]
    grind

theorem quickHash_eq_iff {s : Bytes} (hnul : 0 ∉ s) (hlen : s.length < 2 ^ 31)
    (rest rest' : Bytes) :
    quickHashStr (s ++ 0 :: rest) = quickHashData (s ++ rest') (UInt32.ofNat s.length)
      ↔ drift (s.getD 0 0) s = 0 := by
  have hfirst : drift ((s ++ rest').getD 0 0) s = drift (s.getD 0 0) s := by
    cases s <;> rfl
  have hloop := @quickLoop_eq s (s ++ rest') hnul rest 0 0
  rw [hfirst] at hloop
  rw [quickHashStr, quickHashData, toNat_ofNat hlen]
  simp only [UInt32.add_zero, UInt32.mul_zero, UInt32.zero_add] at hloop
  rw [hloop]
  constructor
  · intro h
    grind
  · intro h
    rw [h, UInt32.add_zero]

/-- The differences cancel out in a string of one character, repeated. -/
theorem drift_replicate (c : UInt8) (n : Nat) : drift c (List.replicate n c) = 0 := by
  induction n with
  | zero => rfl
  | succ n ih =>
    rw [List.replicate_succ, drift, ih, UInt32.sub_self, UInt32.mul_zero, UInt32.add_zero]

/-! ## The overloads against each other -/

/-- The hashes of `s` as a C string and by pointer and length, whatever stands behind it. -/
structure OverloadsAgree (s : Bytes) (seed seed2 : UInt32) : Prop where
  murmur : ∀ rest rest', murmur3HashStr (some (s ++ 0 :: rest)) seed
    = murmur3HashData (some (s ++ rest')) (UInt32.ofNat s.length) seed
  murmur64 : ∀ rest rest', murmur3Hash64Str (some (s ++ 0 :: rest)) seed seed2
    = murmur3Hash64Data (some (s ++ rest')) (UInt32.ofNat s.length) seed seed2
  quick : ∀ rest rest', quickHashStr (s ++ 0 :: rest)
    = quickHashData (s ++ rest') (UInt32.ofNat s.length)

/-- The overloads agree on the strings whose weighted differences from their first character
cancel out. -/
theorem overloads_agree_iff {s : Bytes} (hnul : 0 ∉ s) (hlen : s.length < 2 ^ 31)
    (seed seed2 : UInt32) : OverloadsAgree s seed seed2 ↔ drift (s.getD 0 0) s = 0 := by
  constructor
  · intro h
    exact (quickHash_eq_iff hnul hlen [] []).mp (h.quick [] [])
  · intro h
    exact
      { murmur := fun rest rest' => murmur3Hash_eq hnul hlen rest rest' seed
        murmur64 := fun rest rest' => by
          simp only [murmur3Hash64Str, murmur3Hash64Data, murmur3Hash_eq hnul hlen rest rest']
        quick := fun rest rest' => (quickHash_eq_iff hnul hlen rest rest').mpr h }

/-- The string "aaa". -/
theorem overloads_agree_aaa : OverloadsAgree [97, 97, 97] 0 1 :=
  (@overloads_agree_iff [97, 97, 97] (by decide) (by decide) 0 1).mpr (drift_replicate 97 3)

/-- "ab" has one hash as a C string and another one with its length. -/
theorem quick_hash_ab : ¬ OverloadsAgree [97, 98] 0 1 := by
  intro h
  exact absurd (h.quick [] []) (by decide)

end Hash

end HrServer.Util
