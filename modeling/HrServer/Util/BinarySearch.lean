/-
HrServer.Util.BinarySearch — `BinarySearch` of `sylar/util.h`.

`begin` and `end` are values of type `int`, which go to -1 and to the
length; the array is read at the middle of the two. In an ascending array
they keep what is known of the value (`Narrowed`), and the read is inside of
the array (`searchLoop_spec`). Sums of two indices fit in an `int` up to a
length of 2^30.
-/
import HrServer.Lib.Checked
import HrServer.Lib.SortedSearch
import Mathlib.Algebra.Order.Ring.Nat

namespace HrServer.Util

open Lib Lib.Checked Lib.SortedSearch

variable {T : Type} (lt : T → T → Bool)

/-- The loop, from the values `first` of `begin` and `last` of `end`; `lt` is the operator `<`. -/
def searchLoop (arr : List T) (v : T) (first last : Int) : Except Checked.Fault Int :=
  if _h : first ≤ last then do
    signed 32 (first + last)
    let x ← Checked.read arr ((first + last).tdiv 2)
    if lt v x then
      signed 32 ((first + last).tdiv 2 - 1)
      searchLoop arr v first ((first + last).tdiv 2 - 1)
    else if lt x v then
      signed 32 ((first + last).tdiv 2 + 1)
      searchLoop arr v ((first + last).tdiv 2 + 1) last
    else
      return (first + last).tdiv 2
  else do
    signed 32 (-first)
    signed 32 (-first - 1)
    return -first - 1
termination_by (last + 1 - first).toNat
decreasing_by
  all_goals
    have hm := middle_bounds _h
    omega

/-- `BinarySearch(arr, length, v)`; `arr` is the memory behind the pointer. -/
def binarySearch (arr : List T) (length : Int) (v : T) : Except Checked.Fault Int := do
  signed 32 (length - 1)
  searchLoop lt arr v 0 (length - 1)

section

variable {lt} {arr : List T} {v : T} {first last : Int}

/-- A turn reads the value in the middle, and moves a bound or returns. -/
theorem searchLoop_turn (hfirst : 0 ≤ first) (hle : first ≤ last) (hlast : last < arr.length)
    (hlen : arr.length ≤ 2 ^ 30) :
    ∃ (m : Nat) (x : T), first ≤ m ∧ m ≤ last ∧ arr[m]? = some x ∧
      searchLoop lt arr v first last
        = if lt v x = true then searchLoop lt arr v first (m - 1)
          else if lt x v = true then searchLoop lt arr v (m + 1) last else .ok m := by
  have hmid := middle_bounds hle
  obtain ⟨m, hm⟩ : ∃ m : Nat, (first + last).tdiv 2 = m :=
    Int.eq_ofNat_of_zero_le (by omega)
  rw [hm] at hmid
  obtain ⟨x, hget⟩ : ∃ x, arr[m]? = some x := ⟨_, List.getElem?_eq_getElem (by omega)⟩
  have hsum : Fits 32 (first + last) := fits_32.mpr (by omega)
  refine ⟨m, x, hmid.1, hmid.2, hget, ?_⟩
  rw [searchLoop, dif_pos hle, signed_bind hsum, hm, read_bind hget]
  split
  · rw [signed_bind (fits_32.mpr (by omega))]
  · split
    · rw [signed_bind (fits_32.mpr (by omega))]
    · rfl

/-- Behind the last turn `begin` is the place of the value. -/
theorem searchLoop_end (hfirst : 0 ≤ first) (hlt : last < first) (hle : first ≤ arr.length)
    (hlen : arr.length ≤ 2 ^ 30) :
    searchLoop lt arr v first last = .ok (-first - 1) := by
  have hneg : Fits 32 (-first) := fits_32.mpr (by omega)
  have hres : Fits 32 (-first - 1) := fits_32.mpr (by omega)
  rw [searchLoop, dif_neg (by omega), signed_bind hneg, signed_bind hres]
  rfl

end

/-- A result: the index of the value, or its place coded as a negative number. -/
inductive Located (arr : List T) (v : T) : Int → Prop
  | found (m : Nat) (h : arr[m]? = some v) : Located arr v m
  | absent (i : Nat) (h : InsertionPoint lt arr v i) : Located arr v (-(i + 1))

variable {lt}

theorem searchLoop_spec (h : StrictTotal lt) {arr : List T} (hasc : Ascending lt arr)
    (hlen : arr.length ≤ 2 ^ 30) {v : T} {first last : Int} (hn : Narrowed lt arr v first last)
    (hfirst : 0 ≤ first) (hle : first ≤ last + 1) (hlast : last < arr.length) :
    ∃ r, searchLoop lt arr v first last = .ok r ∧ Located lt arr v r := by
  induction hsize : (last + 1 - first).toNat using Nat.strongRecOn
    generalizing first last with
  | ind size ih =>
    by_cases hgo : first ≤ last
    · obtain ⟨m, x, hm1, hm2, hget, hturn⟩ := searchLoop_turn hfirst hgo hlast hlen
      rw [hturn]
      by_cases hvx : lt v x = true
      · rw [if_pos hvx]
        exact ih _ (by omega) (hn.before h hasc hget hvx) hfirst (by omega) (by omega) rfl
      · rw [if_neg hvx]
        by_cases hxv : lt x v = true
        · rw [if_pos hxv]
          exact ih _ (by omega) (hn.behind h hasc hget hxv) (by omega) (by omega) hlast rfl
        · rw [if_neg hxv]
          have heq : x = v := h.eq (by simpa using hxv) (by simpa using hvx)
          exact ⟨m, rfl, .found m (heq ▸ hget)⟩
    · obtain ⟨i, rfl⟩ : ∃ i : Nat, first = i := Int.eq_ofNat_of_zero_le hfirst
      have hcode : -(i : Int) - 1 = -(i + 1) := by omega
      rw [searchLoop_end hfirst (by omega) (by omega) hlen, hcode]
      exact ⟨_, rfl, .absent i (hn.insertionPoint (by omega) (by omega))⟩

/-- The index of the value where it occurs, and else `-(index + 1)` for its insertion point. -/
structure Finds (lt : T → T → Bool) (arr : List T) (v : T) (r : Int) : Prop where
  present : v ∈ arr → ∃ m : Nat, r = m ∧ arr[m]? = some v
  absent : v ∉ arr → ∃ i : Nat, r = -(i + 1) ∧ InsertionPoint lt arr v i

theorem Located.finds (h : StrictTotal lt) {arr : List T} {v : T} {r : Int}
    (hr : Located lt arr v r) : Finds lt arr v r := by
  cases hr with
  | found m hget =>
    exact ⟨fun _ => ⟨m, rfl, hget⟩, fun habs => absurd (List.mem_of_getElem? hget) habs⟩
  | absent i hi =>
    exact ⟨fun hmem => absurd hmem (hi.not_mem h.toStrict), fun _ => ⟨i, rfl, hi⟩⟩

/-- In an ascending array of at most 2^30 values the search returns without a fault, with the
index of the value or its insertion point. -/
theorem binarySearch_finds (h : StrictTotal lt) {arr : List T} (hasc : Ascending lt arr)
    (hlen : arr.length ≤ 2 ^ 30) (v : T) :
    ∃ r, binarySearch lt arr arr.length v = .ok r ∧ Finds lt arr v r := by
  have hlast : Fits 32 ((arr.length : Int) - 1) := fits_32.mpr (by omega)
  obtain ⟨r, hr, hloc⟩ := searchLoop_spec h hasc hlen (Narrowed.start arr v) (by omega) (by omega)
    (by omega)
  refine ⟨r, ?_, hloc.finds h⟩
  rw [binarySearch, signed_bind hlast, hr]

/-- The search for 4 in `{1, 3, 5}`. -/
theorem binarySearch_finds_four :
    ∃ r, binarySearch (fun a b : Nat => decide (a < b)) [1, 3, 5] 3 4 = .ok r ∧
      Finds (fun a b : Nat => decide (a < b)) [1, 3, 5] 4 r :=
  @binarySearch_finds Nat (fun a b => decide (a < b)) .of_linearOrder [1, 3, 5]
    (by unfold Ascending; decide) (by decide) 4

end HrServer.Util
