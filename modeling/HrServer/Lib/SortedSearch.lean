/-
HrServer.Lib.SortedSearch — narrowing down where a value belongs in an
ascending list.

`Narrowed` is what a search by comparisons knows: before `first` all values
are less, and behind `last` all are greater. A comparison with one value
moves either bound (`Narrowed.before`, `Narrowed.behind`); when the bounds
have passed each other, `first` is the insertion point
(`Narrowed.insertionPoint`), and the value is not in the list
(`InsertionPoint.not_mem`).
-/
import HrServer.Lib.OrderedSet
import Mathlib.Order.Lattice

namespace HrServer.Lib.SortedSearch

open OrderedSet (Strict)

variable {α : Type} (lt : α → α → Bool)

/-- A comparison that is a strict total order. -/
structure StrictTotal : Prop extends Strict lt where
  total : ∀ x y, lt x y = true ∨ x = y ∨ lt y x = true

/-- No value is less than one before it. -/
def Ascending (s : List α) : Prop := s.Pairwise fun x y => lt y x = false

/-- The place of `v`: all before it are less, all from there on are greater. -/
structure InsertionPoint (s : List α) (v : α) (i : Nat) : Prop where
  le : i ≤ s.length
  less : ∀ x ∈ s.take i, lt x v = true
  greater : ∀ x ∈ s.drop i, lt v x = true

/-- All before `first` are less than `v`, all behind `last` are greater. -/
structure Narrowed (s : List α) (v : α) (first last : Int) : Prop where
  less : ∀ (k : Nat) x, s[k]? = some x → k < first → lt x v = true
  greater : ∀ (k : Nat) x, s[k]? = some x → last < k → lt v x = true

section

variable {lt} {s : List α} {v x y : α}

theorem StrictTotal.of_linearOrder [LinearOrder α] :
    StrictTotal fun a b : α => decide (a < b) where
  irrefl := by simp
  trans h h' := by
    rw [decide_eq_true_eq] at h h' ⊢
    exact lt_trans h h'
  total x y := by simpa using lt_trichotomy x y

theorem StrictTotal.eq (h : StrictTotal lt) (hxy : lt x y = false) (hyx : lt y x = false) :
    x = y := by
  rcases h.total x y with h1 | h1 | h1
  · rw [hxy] at h1
    cases h1
  · exact h1
  · rw [hyx] at h1
    cases h1

theorem StrictTotal.lt_of_lt_of_not (h : StrictTotal lt) (hvx : lt v x = true)
    (hyx : lt y x = false) : lt v y = true := by
  rcases h.total x y with h1 | rfl | h1
  · exact h.trans hvx h1
  · exact hvx
  · rw [hyx] at h1
    cases h1

theorem StrictTotal.lt_of_not_of_lt (h : StrictTotal lt) (hxy : lt x y = false)
    (hxv : lt x v = true) : lt y v = true := by
  rcases h.total x y with h1 | rfl | h1
  · rw [hxy] at h1
    cases h1
  · exact hxv
  · exact h.trans h1 hxv

theorem Ascending.not_lt (hs : Ascending lt s) {i j : Nat} (hij : i < j) (hi : s[i]? = some x)
    (hj : s[j]? = some y) : lt y x = false := by
  obtain ⟨hi', rfl⟩ := List.getElem?_eq_some_iff.mp hi
  obtain ⟨hj', rfl⟩ := List.getElem?_eq_some_iff.mp hj
  exact List.pairwise_iff_getElem.mp hs i j hi' hj' hij

/-! ## Narrowing -/

/-- At first nothing is known. -/
theorem Narrowed.start (s : List α) (v : α) : Narrowed lt s v 0 (s.length - 1) where
  less k x _ hk := by omega
  greater k x hx hk := by
    obtain ⟨hlt, -⟩ := List.getElem?_eq_some_iff.mp hx
    omega

variable {first last : Int} {m : Nat}

/-- The value at `m` is greater, and so are those behind it. -/
theorem Narrowed.before (hn : Narrowed lt s v first last) (h : StrictTotal lt)
    (hs : Ascending lt s) (hx : s[m]? = some x) (hvx : lt v x = true) :
    Narrowed lt s v first (m - 1) where
  less := hn.less
  greater k y hy hk := by
    rcases Nat.lt_or_eq_of_le (show m ≤ k by omega) with hmk | rfl
    · exact h.lt_of_lt_of_not hvx (hs.not_lt hmk hx hy)
    · rw [hx] at hy
      cases hy
      exact hvx

/-- The value at `m` is less, and so are those before it. -/
theorem Narrowed.behind (hn : Narrowed lt s v first last) (h : StrictTotal lt)
    (hs : Ascending lt s) (hx : s[m]? = some x) (hxv : lt x v = true) :
    Narrowed lt s v (m + 1) last where
  less k y hy hk := by
    rcases Nat.lt_or_eq_of_le (show k ≤ m by omega) with hkm | rfl
    · exact h.lt_of_not_of_lt (hs.not_lt hkm hy hx) hxv
    · rw [hx] at hy
      cases hy
      exact hxv
  greater := hn.greater

/-- With nothing left between the bounds, the insertion point is found. -/
theorem Narrowed.insertionPoint {i : Nat} (hn : Narrowed lt s v i last) (hlast : last < i)
    (hi : i ≤ s.length) : InsertionPoint lt s v i where
  le := hi
  less x hx := by
    obtain ⟨k, hk, rfl⟩ := List.mem_take_iff_getElem.mp hx
    have hget : s[k]? = some s[k] := List.getElem?_eq_getElem (by omega)
    exact hn.less k _ hget (by omega)
  greater x hx := by
    obtain ⟨k, hk, rfl⟩ := List.mem_drop_iff_getElem.mp hx
    have hget : s[i + k]? = some s[i + k] := List.getElem?_eq_getElem (by omega)
    exact hn.greater (i + k) _ hget (by omega)

theorem InsertionPoint.not_mem {i : Nat} (hp : InsertionPoint lt s v i) (h : Strict lt) :
    v ∉ s := by
  intro hmem
  rw [← List.take_append_drop i s, List.mem_append] at hmem
  have hself : lt v v = true := hmem.elim (hp.less v) (hp.greater v)
  rw [h.irrefl] at hself
  cases hself

end

end HrServer.Lib.SortedSearch
