/-
HrServer.Lib.OrderedSet — an ordered container as the sequence of its
elements.

The container is a list that its comparator `lt` keeps strictly sorted;
a position in the list is an iterator, the length of the list is the end
iterator. `lowerBound`, `find` and `insert` are the searches of a balanced
tree read off the sequence. They need the sequence to be sorted, and the
comparator to be a strict order, to mean what they should:

* `find_of_mem` — an element of the container is found, where it is;
* `insert_spec` — an element that is comparable with all others is
  inserted, and the container stays sorted.

With a strict weak order the container is a map: `lookup` is the element
equivalent to a given one. `lookup_insert`, `lookup_map` and
`lookup_filter` say what an insertion, a change and an erasure do to it,
and `ext_of_lookup` that it says everything about the container.
-/
import Mathlib.Data.List.Perm.Basic

namespace HrServer.Lib.OrderedSet

variable {α : Type*} (lt : α → α → Bool)

/-- The position of the first element that is not below `x`. -/
def lowerBound (x : α) (s : List α) : Nat := s.findIdx fun y => !lt y x

/-- The position of an element equivalent to `x`; `none` is the end iterator. -/
def find (x : α) (s : List α) : Option Nat :=
  match s[lowerBound lt x s]? with
  | some y => if lt x y then none else some (lowerBound lt x s)
  | none => none

/-- The container after an insertion, with the position of the element that is
there. Nothing is inserted beside an equivalent element. -/
def insert (x : α) (s : List α) : List α × Nat :=
  match find lt x s with
  | some i => (s, i)
  | none => (s.take (lowerBound lt x s) ++ x :: s.drop (lowerBound lt x s), lowerBound lt x s)

/-- A comparator that is a strict order. -/
structure Strict : Prop where
  irrefl : ∀ x, lt x x = false
  trans : ∀ {x y z}, lt x y = true → lt y z = true → lt x z = true

/-- The elements stand in the order of the comparator. -/
def Sorted (s : List α) : Prop := s.Pairwise fun x y => lt x y = true

section

variable {lt} {x : α} {s : List α}

theorem Strict.asymm (h : Strict lt) {x y : α} (hxy : lt x y = true) : lt y x = false := by
  cases hyx : lt y x with
  | false => rfl
  | true =>
    have := h.trans hxy hyx
    rw [h.irrefl] at this
    cases this

theorem Sorted.nodup (h : Strict lt) (hs : Sorted lt s) : s.Nodup := by
  refine List.Pairwise.imp ?_ hs
  intro a b hab heq
  rw [heq, h.irrefl] at hab
  cases hab

/-! ## Searching -/

/-- Everything before the lower bound is below `x`. -/
theorem lt_of_mem_take {y : α} (hy : y ∈ s.take (lowerBound lt x s)) : lt y x = true := by
  induction s with
  | nil => simp at hy
  | cons z s ih =>
    unfold lowerBound at hy ih
    rw [List.findIdx_cons] at hy
    cases hz : lt z x with
    | false => simp [hz] at hy
    | true =>
      simp only [hz, Bool.not_true, cond_false, List.take_succ_cons, List.mem_cons] at hy
      rcases hy with rfl | hy
      · exact hz
      · exact ih hy

/-- Nothing from the lower bound on is below `x`. -/
theorem not_lt_of_mem_drop (h : Strict lt) (hs : Sorted lt s) {y : α}
    (hy : y ∈ s.drop (lowerBound lt x s)) : lt y x = false := by
  induction s with
  | nil => simp at hy
  | cons z s ih =>
    unfold lowerBound at hy ih
    rw [List.findIdx_cons] at hy
    have hz' := List.pairwise_cons.mp hs
    cases hz : lt z x with
    | true =>
      simp only [hz, Bool.not_true, cond_false, List.drop_succ_cons] at hy
      exact ih hz'.2 hy
    | false =>
      simp only [hz, Bool.not_false, cond_true, List.drop_zero, List.mem_cons] at hy
      rcases hy with rfl | hy
      · exact hz
      · cases hyx : lt y x with
        | false => rfl
        | true =>
          have := h.trans (hz'.1 y hy) hyx
          rw [hz] at this
          cases this

/-- The lower bound of an element is its own position. -/
theorem lowerBound_of_mem [DecidableEq α] (h : Strict lt) (hs : Sorted lt s) (hx : x ∈ s) :
    lowerBound lt x s = s.idxOf x := by
  induction s with
  | nil => cases hx
  | cons z s ih =>
    have hz := List.pairwise_cons.mp hs
    unfold lowerBound
    rw [List.findIdx_cons]
    by_cases hzx : z = x
    · subst hzx
      simp [h.irrefl]
    · have hmem : x ∈ s := by
        rcases List.mem_cons.mp hx with rfl | hmem
        · exact absurd rfl hzx
        · exact hmem
      rw [hz.1 x hmem, List.idxOf_cons_ne s hzx, ← ih hz.2 hmem]
      rfl

/-- An element of the container is found. -/
theorem find_of_mem [DecidableEq α] (h : Strict lt) (hs : Sorted lt s) (hx : x ∈ s) :
    find lt x s = some (s.idxOf x) := by
  have hget : s[s.idxOf x]? = some x := by
    rw [List.getElem?_eq_getElem (List.idxOf_lt_length_of_mem hx), List.getElem_idxOf]
  rw [find, lowerBound_of_mem h hs hx, hget]
  simp [h.irrefl]

/-- An element that is comparable with every other one is not found. -/
theorem find_of_comparable (h : Strict lt) (hx : ∀ y ∈ s, lt x y = true ∨ lt y x = true)
    (hs : Sorted lt s) : find lt x s = none := by
  unfold find
  cases hget : s[lowerBound lt x s]? with
  | none => rfl
  | some y =>
    have hdrop : y ∈ s.drop (lowerBound lt x s) := by
      rw [List.mem_iff_getElem?]
      exact ⟨0, by rw [List.getElem?_drop, Nat.add_zero]; exact hget⟩
    have hyx := not_lt_of_mem_drop h hs hdrop
    rcases hx y (List.mem_of_mem_drop hdrop) with hxy | hyx'
    · simp [hxy]
    · rw [hyx] at hyx'
      cases hyx'

/-! ## Insertion -/

/-- The container after the insertion of a new element. -/
structure Inserted (lt : α → α → Bool) (x : α) (s s' : List α) (i : Nat) : Prop where
  sorted : Sorted lt s'
  perm : s'.Perm (x :: s)
  front : i = 0 ↔ ∀ y ∈ s, lt x y = true

theorem insert_spec (h : Strict lt) (hs : Sorted lt s)
    (hx : ∀ y ∈ s, lt x y = true ∨ lt y x = true) :
    Inserted lt x s (insert lt x s).1 (insert lt x s).2 := by
  have hnone := find_of_comparable h hx hs
  have habove : ∀ y ∈ s.drop (lowerBound lt x s), lt x y = true := by
    intro y hy
    have hyx := not_lt_of_mem_drop h hs hy
    rcases hx y (List.mem_of_mem_drop hy) with hxy | hyx'
    · exact hxy
    · rw [hyx] at hyx'
      cases hyx'
  have hsplit := List.take_append_drop (lowerBound lt x s) s
  rw [insert, hnone]
  refine ⟨?_, ?_, ?_⟩
  · have hs' : Sorted lt (s.take (lowerBound lt x s) ++ s.drop (lowerBound lt x s)) := by
      rwa [hsplit]
    obtain ⟨h1, h2, h3⟩ := List.pairwise_append.mp hs'
    refine List.pairwise_append.mpr ⟨h1, List.pairwise_cons.mpr ⟨habove, h2⟩, ?_⟩
    intro a ha b hb
    have hax := lt_of_mem_take ha
    rcases List.mem_cons.mp hb with rfl | hb
    · exact hax
    · exact h.trans hax (habove b hb)
  · show (s.take (lowerBound lt x s) ++ x :: s.drop (lowerBound lt x s)).Perm (x :: s)
    have := @List.perm_middle _ x (s.take (lowerBound lt x s)) (s.drop (lowerBound lt x s))
    rwa [hsplit] at this
  · show lowerBound lt x s = 0 ↔ _
    constructor
    · intro h0 y hy
      rw [h0] at habove
      exact habove y hy
    · intro hall
      cases s with
      | nil => rfl
      | cons z s =>
        have := h.asymm (hall z List.mem_cons_self)
        simp [lowerBound, List.findIdx_cons, this]

/-! ## Equivalent elements -/

variable (lt) in
/-- Neither element is below the other. -/
def equivalent (x y : α) : Bool := !lt x y && !lt y x

variable (lt) in
/-- A strict order whose equivalent elements are below, and above, the same ones. -/
structure StrictWeak : Prop extends Strict lt where
  split : ∀ {x z} (y), lt x z = true → lt x y = true ∨ lt y z = true

variable (lt) in
/-- The element of the container that is equivalent to `x`. -/
def lookup (x : α) (s : List α) : Option α := s.find? (equivalent lt x)

variable {y z : α} {t : List α}

theorem equivalent_iff : equivalent lt x y = true ↔ lt x y = false ∧ lt y x = false := by
  simp [equivalent]

theorem equivalent_comm (x y : α) : equivalent lt x y = equivalent lt y x := by
  simp [equivalent, Bool.and_comm]

theorem Strict.equivalent_self (h : Strict lt) (x : α) : equivalent lt x x = true := by
  simp [equivalent, h.irrefl]

theorem not_equivalent_of_lt (h : lt x y = true) : equivalent lt x y = false := by
  simp [equivalent, h]

theorem comparable_of_not_equivalent (h : equivalent lt x y = false) :
    lt x y = true ∨ lt y x = true := by
  cases hxy : lt x y with
  | true => exact .inl rfl
  | false => simpa [equivalent, hxy] using h

theorem StrictWeak.not_lt_trans (h : StrictWeak lt) (hxy : lt x y = false)
    (hyz : lt y z = false) : lt x z = false := by
  cases hxz : lt x z with
  | false => rfl
  | true =>
    rcases h.split y hxz with h1 | h1
    · rw [hxy] at h1
      cases h1
    · rw [hyz] at h1
      cases h1

theorem StrictWeak.equivalent_trans (h : StrictWeak lt) (hxy : equivalent lt x y = true)
    (hyz : equivalent lt y z = true) : equivalent lt x z = true := by
  rw [equivalent_iff] at *
  exact ⟨h.not_lt_trans hxy.1 hyz.1, h.not_lt_trans hyz.2 hxy.2⟩

/-- Equivalent elements are equivalent to the same ones. -/
theorem StrictWeak.equivalent_congr (h : StrictWeak lt) (hxy : equivalent lt x y = true) (z : α) :
    equivalent lt x z = equivalent lt y z := by
  rw [Bool.eq_iff_iff]
  constructor
  · exact h.equivalent_trans (by rwa [equivalent_comm])
  · exact h.equivalent_trans hxy

/-- Two elements of a container are not equivalent. -/
theorem Sorted.eq_of_equivalent (hs : Sorted lt s) (hy : y ∈ s) (hz : z ∈ s)
    (h : equivalent lt y z = true) : y = z := by
  induction s with
  | nil => cases hy
  | cons w s ih =>
    obtain ⟨hw, hs⟩ := List.pairwise_cons.mp hs
    rcases List.mem_cons.mp hy with rfl | hy'
    · rcases List.mem_cons.mp hz with rfl | hz'
      · rfl
      · rw [not_equivalent_of_lt (hw z hz')] at h
        cases h
    · rcases List.mem_cons.mp hz with rfl | hz'
      · rw [equivalent_comm, not_equivalent_of_lt (hw y hy')] at h
        cases h
      · exact ih hs hy' hz'

/-- The search finds the element that is equivalent to `x`. -/
theorem find_eq_findIdx? (h : Strict lt) (hs : Sorted lt s) :
    find lt x s = s.findIdx? (equivalent lt x) := by
  induction s with
  | nil => rfl
  | cons z s ih =>
    obtain ⟨hz, hs⟩ := List.pairwise_cons.mp hs
    rw [List.findIdx?_cons, ← ih hs]
    cases hzx : lt z x with
    | true =>
      rw [equivalent_comm, not_equivalent_of_lt hzx]
      simp only [find, lowerBound, List.findIdx_cons, hzx, Bool.not_true, cond_false,
        List.getElem?_cons_succ, Bool.false_eq_true, if_false]
      cases s[s.findIdx fun y => !lt y x]? with
      | none => rfl
      | some w => cases hxw : lt x w <;> simp [hxw]
    | false =>
      have hfirst : lowerBound lt x (z :: s) = 0 := by simp [lowerBound, List.findIdx_cons, hzx]
      cases hxz : lt x z with
      | false => simp [find, hfirst, equivalent, hzx, hxz]
      | true =>
        have hnone : find lt x s = none :=
          find_of_comparable h (fun y hy => .inl (h.trans hxz (hz y hy))) hs
        rw [hnone]
        simp [find, hfirst, equivalent, hxz]

theorem lookup_eq_some_iff (h : StrictWeak lt) (hs : Sorted lt s) :
    lookup lt x s = some y ↔ y ∈ s ∧ equivalent lt x y = true := by
  constructor
  · intro hfind
    exact ⟨List.mem_of_find?_eq_some hfind, List.find?_some hfind⟩
  · rintro ⟨hy, hxy⟩
    cases hfind : lookup lt x s with
    | none =>
      have := List.find?_eq_none.mp hfind y hy
      exact absurd hxy this
    | some z =>
      have hxz : equivalent lt x z = true := List.find?_some hfind
      rw [hs.eq_of_equivalent (List.mem_of_find?_eq_some hfind) hy]
      rw [← h.equivalent_congr hxz, hxy]

/-- A container is determined by its look-ups. -/
theorem ext_of_lookup (h : StrictWeak lt) (hs : Sorted lt s) (ht : Sorted lt t)
    (heq : ∀ x, lookup lt x s = lookup lt x t) : s = t := by
  have hmem : ∀ y, y ∈ s ↔ y ∈ t := by
    intro y
    have hself := h.equivalent_self y
    have hs' := lookup_eq_some_iff h hs (x := y) (y := y)
    have ht' := lookup_eq_some_iff h ht (x := y) (y := y)
    rw [heq y, ht'] at hs'
    simpa [hself] using hs'.symm
  have hperm : s.Perm t :=
    (List.perm_ext_iff_of_nodup (hs.nodup h.toStrict) (ht.nodup h.toStrict)).mpr hmem
  refine hperm.eq_of_pairwise ?_ hs ht
  intro a b _ _ hab hba
  rw [h.asymm hab] at hba
  cases hba

/-! ## The operations of a map -/

theorem find_eq_none_iff (h : Strict lt) (hs : Sorted lt s) :
    find lt x s = none ↔ ∀ y ∈ s, equivalent lt x y = false := by
  simp [find_eq_findIdx? h hs]

theorem sorted_insert (h : Strict lt) (hs : Sorted lt s) (x : α) : Sorted lt (insert lt x s).1 := by
  cases hfind : find lt x s with
  | some i => simpa [insert, hfind] using hs
  | none =>
    have hcmp := (find_eq_none_iff h hs).mp hfind
    exact (insert_spec h hs fun y hy => comparable_of_not_equivalent (hcmp y hy)).sorted

/-- An insertion changes nothing but the look-ups that failed. -/
theorem lookup_insert (h : StrictWeak lt) (hs : Sorted lt s) (x y : α) :
    lookup lt y (insert lt x s).1
      = (lookup lt y s).or (if equivalent lt y x then some x else none) := by
  cases hfind : find lt x s with
  | some i =>
    have hsame : (insert lt x s).1 = s := by simp [insert, hfind]
    obtain ⟨w, hw, hxw⟩ : ∃ w ∈ s, equivalent lt x w = true := by
      by_contra hnot
      have hnone := (find_eq_none_iff h.toStrict hs (x := x)).mpr (by simpa using hnot)
      rw [hfind] at hnone
      cases hnone
    rw [hsame]
    cases hyx : equivalent lt y x with
    | false => simp
    | true =>
      have hlookup := (lookup_eq_some_iff h hs).mpr ⟨hw, h.equivalent_trans hyx hxw⟩
      simp [hlookup]
  | none =>
    have hcmp := (find_eq_none_iff h.toStrict hs).mp hfind
    have hins := insert_spec h.toStrict hs fun y hy => comparable_of_not_equivalent (hcmp y hy)
    have hmem : ∀ w, w ∈ (insert lt x s).1 ↔ w = x ∨ w ∈ s := by
      intro w
      rw [hins.perm.mem_iff, List.mem_cons]
    cases hyx : equivalent lt y x with
    | true =>
      have hnone : lookup lt y s = none := by
        refine List.find?_eq_none.mpr fun w hw => ?_
        rw [h.equivalent_congr hyx, hcmp w hw]
        simp
      rw [hnone, (lookup_eq_some_iff h hins.sorted).mpr ⟨(hmem x).mpr (.inl rfl), hyx⟩]
      rfl
    | false =>
      simp only [Bool.false_eq_true, if_false, Option.or_none]
      ext w
      rw [lookup_eq_some_iff h hins.sorted, lookup_eq_some_iff h hs, hmem]
      constructor
      · rintro ⟨rfl | hw, hyw⟩
        · rw [hyx] at hyw
          cases hyw
        · exact ⟨hw, hyw⟩
      · rintro ⟨hw, hyw⟩
        exact ⟨.inr hw, hyw⟩

theorem find_cons_of_equivalent (h : Strict lt) (hs : Sorted lt (z :: s))
    (hz : equivalent lt x z = true) : find lt x (z :: s) = some 0 := by
  rw [find_eq_findIdx? h hs, List.findIdx?_cons, if_pos hz]

theorem find_cons_of_not (h : Strict lt) (hs : Sorted lt (z :: s))
    (hz : equivalent lt x z = false) :
    find lt x (z :: s) = (find lt x s).map (· + 1) := by
  rw [find_eq_findIdx? h hs, List.findIdx?_cons, hz,
    find_eq_findIdx? h (List.pairwise_cons.mp hs).2]
  rfl

/-- What stands behind an element is not equivalent to it. -/
theorem StrictWeak.not_equivalent_of_cons (h : StrictWeak lt) (hs : Sorted lt (z :: s))
    (hz : equivalent lt x z = true) (hy : y ∈ s) : equivalent lt x y = false := by
  rw [h.equivalent_congr hz]
  exact not_equivalent_of_lt ((List.pairwise_cons.mp hs).1 y hy)

/-- The element found is the one that is changed. -/
theorem modify_find (h : StrictWeak lt) (hs : Sorted lt s) {i : Nat} (hi : find lt x s = some i)
    (f : α → α) : s.modify i f = s.map fun y => if equivalent lt x y then f y else y := by
  induction s generalizing i with
  | nil => simp [find, lowerBound] at hi
  | cons z s ih =>
    cases hz : equivalent lt x z with
    | true =>
      rw [find_cons_of_equivalent h.toStrict hs hz, Option.some.injEq] at hi
      have hrest : s.map (fun y => if equivalent lt x y then f y else y) = s := by
        refine (List.map_congr_left fun y hy => ?_).trans (List.map_id s)
        simp [h.not_equivalent_of_cons hs hz hy]
      rw [← hi, List.map_cons, hrest, hz]
      rfl
    | false =>
      rw [find_cons_of_not h.toStrict hs hz] at hi
      obtain ⟨j, hj, rfl⟩ := Option.map_eq_some_iff.mp hi
      simp [hz, ih (List.pairwise_cons.mp hs).2 hj]

/-- The element found is the one that is erased. -/
theorem eraseIdx_find (h : StrictWeak lt) (hs : Sorted lt s) {i : Nat} (hi : find lt x s = some i) :
    s.eraseIdx i = s.filter fun y => !equivalent lt x y := by
  induction s generalizing i with
  | nil => simp [find, lowerBound] at hi
  | cons z s ih =>
    cases hz : equivalent lt x z with
    | true =>
      rw [find_cons_of_equivalent h.toStrict hs hz, Option.some.injEq] at hi
      have hrest : s.filter (fun y => !equivalent lt x y) = s := by
        refine List.filter_eq_self.mpr fun y hy => ?_
        simp [h.not_equivalent_of_cons hs hz hy]
      rw [← hi, List.filter_cons_of_neg (by simp [hz]), hrest]
      rfl
    | false =>
      rw [find_cons_of_not h.toStrict hs hz] at hi
      obtain ⟨j, hj, rfl⟩ := Option.map_eq_some_iff.mp hi
      rw [List.eraseIdx_cons_succ, List.filter_cons_of_pos (by simp [hz]),
        ih (List.pairwise_cons.mp hs).2 hj]

/-- Changing elements to equivalent ones keeps the order. -/
theorem sorted_map (h : StrictWeak lt) (hs : Sorted lt s) {f : α → α}
    (hf : ∀ y, equivalent lt (f y) y = true) : Sorted lt (s.map f) := by
  refine List.pairwise_map.mpr (hs.imp fun {a b} hab => ?_)
  rcases h.split (f b) hab with h1 | h1
  · rcases h.split (f a) h1 with h2 | h2
    · rw [(equivalent_iff.mp (hf a)).2] at h2
      cases h2
    · exact h2
  · rw [(equivalent_iff.mp (hf b)).1] at h1
    cases h1

theorem lookup_map (h : StrictWeak lt) {f : α → α} (hf : ∀ y, equivalent lt (f y) y = true) (x : α)
    (s : List α) : lookup lt x (s.map f) = (lookup lt x s).map f := by
  have hsame : equivalent lt x ∘ f = equivalent lt x := by
    funext y
    rw [Function.comp_apply, equivalent_comm, h.equivalent_congr (hf y), equivalent_comm]
  rw [lookup, List.find?_map, hsame]
  rfl

theorem lookup_filter (h : StrictWeak lt) (x y : α) (s : List α) :
    lookup lt y (s.filter fun z => !equivalent lt x z)
      = if equivalent lt x y then none else lookup lt y s := by
  rw [lookup, List.find?_filter]
  cases hxy : equivalent lt x y with
  | true =>
    refine List.find?_eq_none.mpr fun z _ => ?_
    rw [h.equivalent_congr hxy]
    cases equivalent lt y z <;> simp
  | false =>
    simp only [Bool.false_eq_true, if_false, lookup]
    congr 1
    funext z
    cases hyz : equivalent lt y z with
    | false => simp
    | true =>
      rw [equivalent_comm, ← h.equivalent_congr hyz, equivalent_comm, hxy]
      simp

end

end HrServer.Lib.OrderedSet
