/-
HrServer.Lib.Splice — overwriting and reading a window of a list.

`splice m i bs` is `m` with `bs` laid over the positions from `i` on, and
`slice m i n` the `n` elements from `i` on. The lemmas say how both act on
a list given in two parts, which is what an argument about a buffer cut
into blocks needs: a window inside one part, a window inside the other,
and a window that runs from the first part into the second.
-/
import Mathlib.Data.List.Basic

namespace HrServer.Lib

variable {α : Type*}

/-- `m` with `bs` written over the positions `i, i + 1, …`. -/
def splice (m : List α) (i : Nat) (bs : List α) : List α :=
  m.take i ++ bs ++ m.drop (i + bs.length)

/-- The `n` elements of `m` from position `i` on. -/
def slice (m : List α) (i n : Nat) : List α :=
  (m.drop i).take n

/-! ## Writing -/

theorem length_splice {m bs : List α} {i : Nat} (h : i + bs.length ≤ m.length) :
    (splice m i bs).length = m.length := by
  simp only [splice, List.length_append, List.length_take, List.length_drop]
  omega

@[simp] theorem splice_nil (m : List α) (i : Nat) : splice m i [] = m := by
  simp [splice]

/-- Positions outside the written window keep their element. -/
theorem getElem?_splice_outside {m bs : List α} {i j : Nat} (h : i + bs.length ≤ m.length)
    (hj : j < i ∨ i + bs.length ≤ j) : (splice m i bs)[j]? = m[j]? := by
  have hi : (m.take i).length = i := by rw [List.length_take]; omega
  rcases hj with hj | hj
  · rw [splice, List.append_assoc, List.getElem?_append_left (by omega), List.getElem?_take,
      if_pos hj]
  · rw [splice, List.getElem?_append_right (by rw [List.length_append, hi]; exact hj),
      List.length_append, hi, List.getElem?_drop]
    congr 1
    omega

/-- A window inside the first part. -/
theorem splice_append_left {a m bs : List α} {i : Nat} (h : i + bs.length ≤ a.length) :
    splice (a ++ m) i bs = splice a i bs ++ m := by
  simp only [splice, List.append_assoc]
  rw [List.take_append_of_le_length (by omega), List.drop_append_of_le_length h]

/-- A window inside the second part. -/
theorem splice_append_right {a m bs : List α} (i : Nat) :
    splice (a ++ m) (a.length + i) bs = a ++ splice m i bs := by
  simp only [splice, List.append_assoc]
  rw [List.take_length_add_append, Nat.add_assoc, List.drop_length_add_append,
    List.append_assoc]

/-- A window that starts in the first part and reaches the second. -/
theorem splice_append_across {a m bs : List α} {i : Nat} (hi : i ≤ a.length)
    (h : a.length - i ≤ bs.length) :
    splice (a ++ m) i bs
      = splice a i (bs.take (a.length - i)) ++ splice m 0 (bs.drop (a.length - i)) := by
  have htake : (bs.take (a.length - i)).length = a.length - i := by
    rw [List.length_take]; omega
  have hdrop : a.drop (i + (a.length - i)) = [] := List.drop_eq_nil_of_le (by omega)
  have hsum : i + bs.length = a.length + (bs.length - (a.length - i)) := by omega
  simp only [splice, htake, hdrop, List.take_zero, List.nil_append, List.append_nil,
    Nat.zero_add, List.length_drop]
  rw [List.take_append_of_le_length hi, hsum, List.drop_length_add_append]
  simp only [List.append_assoc]
  rw [← List.append_assoc (bs.take _), List.take_append_drop]

/-- A piece that fills the first part, or is the last one. -/
theorem splice_append_pair {a m b more : List α} (hle : b.length ≤ a.length)
    (hfull : more = [] ∨ b.length = a.length) :
    splice (a ++ m) 0 (b ++ more) = splice a 0 b ++ splice m 0 more := by
  rcases hfull with rfl | hfull
  · rw [List.append_nil, splice_append_left (by omega), splice_nil]
  · rw [splice_append_across (Nat.zero_le _) (by rw [List.length_append]; omega), Nat.sub_zero,
      ← hfull, List.take_left, List.drop_left]

/-- Two windows side by side are one window. -/
theorem splice_splice {m a b : List α} {i : Nat} (h : i + a.length ≤ m.length) :
    splice (splice m i a) (i + a.length) b = splice m i (a ++ b) := by
  have hfront : (m.take i ++ a).length = i + a.length := by
    rw [List.length_append, List.length_take]
    omega
  have hdrop : i + a.length + b.length = (m.take i ++ a).length + b.length := by rw [hfront]
  simp only [splice]
  rw [List.take_left' hfront, hdrop, List.drop_length_add_append, List.drop_drop,
    List.length_append, Nat.add_assoc]
  simp only [List.append_assoc]

/-! ## Reading -/

theorem length_slice {m : List α} {i n : Nat} (h : i + n ≤ m.length) :
    (slice m i n).length = n := by
  simp only [slice, List.length_take, List.length_drop]
  omega

theorem slice_append_left {a m : List α} {i n : Nat} (h : i + n ≤ a.length) :
    slice (a ++ m) i n = slice a i n := by
  simp only [slice]
  rw [List.drop_append_of_le_length (by omega),
    List.take_append_of_le_length (by rw [List.length_drop]; omega)]

theorem slice_append_right (a m : List α) (i n : Nat) :
    slice (a ++ m) (a.length + i) n = slice m i n := by
  rw [slice, List.drop_length_add_append, slice]

theorem slice_append_across {a m : List α} {i n : Nat} (hi : i ≤ a.length)
    (h : a.length - i ≤ n) :
    slice (a ++ m) i n = slice a i (a.length - i) ++ slice m 0 (n - (a.length - i)) := by
  have hlen : (a.drop i).length = a.length - i := List.length_drop
  simp only [slice, List.drop_zero]
  rw [List.drop_append_of_le_length hi, List.take_append, hlen,
    List.take_of_length_le (by omega), List.take_of_length_le (l := a.drop i) (by omega)]

theorem slice_add (m : List α) (i n k : Nat) :
    slice m i (n + k) = slice m i n ++ slice m (i + n) k := by
  simp only [slice]
  rw [List.take_add, List.drop_drop]

/-- The window just written. -/
theorem slice_splice_self {m bs : List α} {i : Nat} (h : i ≤ m.length) :
    slice (splice m i bs) i bs.length = bs := by
  have hi : (m.take i).length = i := by rw [List.length_take]; omega
  rw [slice, splice, List.append_assoc, List.drop_left' hi, List.take_left]

end HrServer.Lib
