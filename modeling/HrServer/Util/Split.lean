/-
HrServer.Util.Split — the two `split` of `sylar/util/hash_util.cc`, and
`Join` of `sylar/util.h`.

The loop counts `max` down behind each piece and stops when it is at 1.
From a `max` of 2 or more that leaves `max - 1` cuts (`splitLoop_eq`); a
`max` of 1 goes to 0 first, so that the test never stops the loop.
-/
import HrServer.Lib.Cut
import HrServer.Http.Request

namespace HrServer.Util

open Lib Http

namespace Split

/-! ## The functions -/

/-- `str.find(delim, last)` and `str.find_first_of(delims, last)`, by what they look for. -/
def findFrom (p : UInt8 → Bool) (str : Bytes) (last : Nat) : Option Nat :=
  ((str.drop last).findIdx? p).map (· + last)

theorem findFrom_bounds {p : UInt8 → Bool} {str : Bytes} {last pos : Nat}
    (h : findFrom p str last = some pos) : last ≤ pos ∧ pos < str.length := by
  obtain ⟨i, hi, rfl⟩ := Option.map_eq_some_iff.mp h
  obtain ⟨hlt, -⟩ := List.findIdx?_eq_some_iff_getElem.mp hi
  rw [List.length_drop] at hlt
  omega

/-- The loop: `last` is where the next piece starts, and `pos` is searched from there. -/
def splitLoop (p : UInt8 → Bool) (str : Bytes) (last : Nat) (max : UInt64) : List Bytes :=
  match _h : findFrom p str last with
  | none => [str.drop last]
  | some pos =>
    (str.drop last).take (pos - last) ::
      if max - 1 = 1 then [str.drop (pos + 1)] else splitLoop p str (pos + 1) (max - 1)
termination_by str.length - last
decreasing_by
  have := findFrom_bounds _h
  omega

/-- Both overloads. -/
def splitBy (p : UInt8 → Bool) (str : Bytes) (max : UInt64) : List Bytes :=
  if str = [] then [] else splitLoop p str 0 max

/-- `split(str, delim, max)`. -/
def split (str : Bytes) (delim : UInt8) (max : UInt64) : List Bytes :=
  splitBy (· == delim) str max

/-- `split(str, delims, max)`; `delims` is a C string. -/
def splitOf (str delims : Bytes) (max : UInt64) : List Bytes :=
  splitBy (cStr delims).contains str max

/-- `Join(begin, end, tag)`. -/
def join (tag : Bytes) : List Bytes → Bytes
  | [] => []
  | x :: xs => x ++ (xs.flatMap (tag ++ ·))

/-! ## The loop as a cut -/

theorem splitLoop_none {p : UInt8 → Bool} {str : Bytes} {last : Nat} (max : UInt64)
    (h : (str.drop last).findIdx? p = none) : splitLoop p str last max = [str.drop last] := by
  have hfind : findFrom p str last = none := by rw [findFrom, h, Option.map_none]
  rw [splitLoop]
  split
  · rfl
  · next hpos => rw [hfind] at hpos; cases hpos

theorem splitLoop_some {p : UInt8 → Bool} {str : Bytes} {last i : Nat} (max : UInt64)
    (h : (str.drop last).findIdx? p = some i) :
    splitLoop p str last max = (str.drop last).take i ::
      if max - 1 = 1 then [(str.drop last).drop (i + 1)]
      else splitLoop p str (last + (i + 1)) (max - 1) := by
  have hfind : findFrom p str last = some (i + last) := by rw [findFrom, h, Option.map_some]
  have hnext : i + last + 1 = last + (i + 1) := by omega
  rw [splitLoop]
  split
  · next hpos => rw [hfind] at hpos; cases hpos
  · next pos hpos =>
    rw [hfind] at hpos
    cases hpos
    rw [Nat.add_sub_cancel, List.drop_drop, hnext]

theorem toNat_pred {n : Nat} {max : UInt64} (hmax : max.toNat = n + 1) : (max - 1).toNat = n := by
  rw [UInt64.toNat_sub_of_le _ _ (by rw [UInt64.le_iff_toNat_le, hmax]; simp), hmax]
  rfl

/-- From a `max` of `n + 2`, the loop has `n + 1` cuts. -/
theorem splitLoop_eq (p : UInt8 → Bool) (str : Bytes) (n last : Nat) {max : UInt64}
    (hmax : max.toNat = n + 2) : splitLoop p str last max = Cut.cut p (n + 1) (str.drop last) := by
  have hpred := toNat_pred hmax
  cases h : (str.drop last).findIdx? p with
  | none => rw [splitLoop_none max h, Cut.cut_of_none h]
  | some i =>
    rw [splitLoop_some max h, Cut.cut_of_some h]
    congr 1
    cases n with
    | zero =>
      have hone : max - 1 = 1 := UInt64.toNat_inj.mp hpred
      rw [if_pos hone]
      rfl
    | succ n =>
      have hone : max - 1 ≠ 1 := by
        intro e
        rw [e] at hpred
        simp at hpred
      rw [if_neg hone, splitLoop_eq p str n _ hpred, List.drop_drop]

theorem split_eq {str : Bytes} (hstr : str ≠ []) (delim : UInt8) {n : Nat} {max : UInt64}
    (hmax : max.toNat = n + 2) : split str delim max = Cut.cut (· == delim) (n + 1) str := by
  rw [split, splitBy, if_neg hstr, splitLoop_eq _ _ _ _ hmax, List.drop_zero]

/-- A string without the delimiter is one piece, whatever the limit. -/
theorem split_of_not_mem {str : Bytes} (hstr : str ≠ []) {delim : UInt8} (hc : delim ∉ str)
    (max : UInt64) : split str delim max = [str] := by
  have hnone : (str.drop 0).findIdx? (· == delim) = none := by
    simpa [List.findIdx?_eq_none_iff] using fun x hx (e : x = delim) => hc (e ▸ hx)
  rw [split, splitBy, if_neg hstr, splitLoop_none max hnone, List.drop_zero]

theorem splitLoop_ne_nil (p : UInt8 → Bool) (str : Bytes) (last : Nat) (max : UInt64) :
    splitLoop p str last max ≠ [] := by
  rw [splitLoop]
  split <;> simp

/-- A limit of 1 goes to 0 at the first delimiter, and the loop goes on. -/
theorem length_split_one {str : Bytes} {delim : UInt8} (hc : delim ∈ str) :
    2 ≤ (split str delim 1).length := by
  have hstr : str ≠ [] := List.ne_nil_of_mem hc
  cases h : (str.drop 0).findIdx? (· == delim) with
  | none =>
    rw [List.findIdx?_eq_none_iff] at h
    simpa using h delim hc
  | some i =>
    rw [split, splitBy, if_neg hstr, splitLoop_some 1 h, if_neg (by decide), List.length_cons]
    have hpos := List.length_pos_iff.mpr
      (splitLoop_ne_nil (· == delim) str (0 + (i + 1)) (1 - 1))
    omega

/-! ## Joining -/

theorem join_eq (tag : Bytes) (pieces : List Bytes) : join tag pieces = tag.intercalate pieces := by
  induction pieces with
  | nil => rfl
  | cons x xs ih =>
    cases xs with
    | nil => simp [join]
    | cons y ys =>
      rw [List.intercalate_cons_cons, ← ih]
      simp [join]

/-! ## What a splitter owes -/

/-- The limit holds and nothing is lost. -/
structure SplitsRight (str : Bytes) (delim : UInt8) (max : UInt64) : Prop where
  limit : (split str delim max).length ≤ max.toNat
  joined : join [delim] (split str delim max) = str
  before : ∀ x ∈ (split str delim max).dropLast, delim ∉ x
  last : (split str delim max).length < max.toNat →
    ∀ x ∈ (split str delim max).getLast?, delim ∉ x
  /-- The overload with a set of delimiters that is the one character. -/
  overload : ∀ delims, (∀ c, c ∈ cStr delims ↔ c = delim) →
    splitOf str delims max = split str delim max

theorem splitOf_eq {delims : Bytes} {delim : UInt8} (h : ∀ c, c ∈ cStr delims ↔ c = delim)
    (str : Bytes) (max : UInt64) : splitOf str delims max = split str delim max := by
  have hset : (cStr delims).contains = (· == delim) := by
    funext c
    rw [Bool.eq_iff_iff]
    simpa using h c
  rw [splitOf, split, hset]

theorem splitsRight_of_not_mem {str : Bytes} (hstr : str ≠ []) {delim : UInt8} {max : UInt64}
    (hmax : 1 ≤ max.toNat) (hc : delim ∉ str) : SplitsRight str delim max := by
  have hsplit := split_of_not_mem hstr hc max
  exact
    { limit := by rw [hsplit]; exact hmax
      joined := by rw [hsplit]; simp [join]
      before := by simp [hsplit]
      last := by simpa [hsplit] using fun _ => hc
      overload := fun _ h => splitOf_eq h str max }

theorem splitsRight_of_limit {str : Bytes} (hstr : str ≠ []) (delim : UInt8) {n : Nat}
    {max : UInt64} (hmax : max.toNat = n + 2) : SplitsRight str delim max := by
  have hsplit := split_eq hstr delim hmax
  have hfree {x : Bytes} (h : ∀ a ∈ x, (a == delim) = false) : delim ∉ x := by
    intro hmem
    simpa using h delim hmem
  exact
    { limit := by
        rw [hsplit, hmax]
        exact Cut.length_cut_le _ _ _
      joined := by rw [join_eq, hsplit, Cut.intercalate_cut]
      before := by
        rw [hsplit]
        exact fun x hx => hfree (Cut.cut_dropLast_free _ _ _ x hx)
      last := by
        rw [hsplit, hmax]
        exact fun hlt x hx => hfree (Cut.cut_free_of_length_lt hlt x (List.mem_of_getLast? hx))
      overload := fun _ h => splitOf_eq h str max }

/-- The two pieces are one too many. -/
theorem not_splitsRight_one {str : Bytes} {delim : UInt8} (hc : delim ∈ str) :
    ¬ SplitsRight str delim 1 := by
  intro h
  have hlimit := h.limit
  have htwo := length_split_one hc
  simp at hlimit
  omega

/-- The splitter is right for every limit but 1, which it does not respect as soon as the
delimiter occurs. -/
theorem split_right_iff {str : Bytes} (hstr : str ≠ []) (delim : UInt8) {max : UInt64}
    (hmax : 1 ≤ max) : SplitsRight str delim max ↔ max ≠ 1 ∨ delim ∉ str := by
  rw [UInt64.le_iff_toNat_le] at hmax
  constructor
  · intro h
    by_contra hcon
    rw [not_or, not_not, not_not] at hcon
    obtain ⟨rfl, hc⟩ := hcon
    exact not_splitsRight_one hc h
  · rintro (hne | hc)
    · obtain ⟨n, hn⟩ : ∃ n, max.toNat = n + 2 := by
        refine ⟨max.toNat - 2, ?_⟩
        have hone : max.toNat ≠ 1 := fun e => hne (UInt64.toNat_inj.mp e)
        have hle : 1 ≤ max.toNat := hmax
        omega
      exact splitsRight_of_limit hstr delim hn
    · exact splitsRight_of_not_mem hstr hmax hc

/-- `split("a,b", ',', 2)`. -/
theorem split_right_iff_two : SplitsRight [97, 44, 98] 44 2 :=
  (@split_right_iff [97, 44, 98] (by decide) 44 2 (by decide)).mpr (.inl (by decide))

/-- `split("a,b", ',', 1)` gives two pieces. -/
theorem split_one_exceeds : ¬ SplitsRight [97, 44, 98] 44 1 :=
  not_splitsRight_one (by decide)

end Split

end HrServer.Util
