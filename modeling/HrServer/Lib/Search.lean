/-
HrServer.Lib.Search — the first occurrence of a word in a text, and the
replacement of its occurrences from the left.

`Replaced` says what a replacement should be, by the first occurrence and
the text behind it, so that the inserted word is not searched again. It
gives one result for each text (`Replaced.unique`).
-/
import Mathlib.Data.List.Infix

namespace HrServer.Lib.Search

variable {α : Type}

/-! ## The first occurrence -/

/-- `word` stands behind `before` and does not start earlier. -/
def First (word before rest : List α) : Prop :=
  ∀ k < before.length, ¬ word <+: (before ++ (word ++ rest)).drop k

theorem First.of_cons {word before rest : List α} {a : α} (h : First word (a :: before) rest) :
    First word before rest := by
  intro k hk
  exact h (k + 1) (by simpa using hk)

theorem First.cons {word before rest : List α} {a : α} (h : First word before rest)
    (ha : ¬ word <+: a :: (before ++ (word ++ rest))) : First word (a :: before) rest := by
  intro k hk
  cases k with
  | zero => exact ha
  | succ k => exact h k (by simpa using hk)

variable [DecidableEq α]

/-- The index of the first occurrence of `word`. -/
def indexOf (word : List α) : List α → Option Nat
  | [] => if word = [] then some 0 else none
  | a :: text =>
    if word <+: a :: text then some 0 else (indexOf word text).map (· + 1)

theorem indexOf_eq_zero {word text : List α} (h : word <+: text) :
    indexOf word text = some 0 := by
  cases text with
  | nil => simp [indexOf, List.prefix_nil.mp h]
  | cons a text => simp [indexOf, h]

theorem indexOf_first {word before rest : List α} (h : First word before rest) :
    indexOf word (before ++ (word ++ rest)) = some before.length := by
  induction before with
  | nil => exact indexOf_eq_zero (List.prefix_append word rest)
  | cons a before ih =>
    have ha : ¬ word <+: a :: (before ++ (word ++ rest)) := h 0 (by simp)
    rw [List.cons_append, indexOf, if_neg ha, ih h.of_cons]
    rfl

theorem indexOf_none {word text : List α} (h : indexOf word text = none) : ¬ word <:+: text := by
  induction text with
  | nil =>
    intro hinfix
    rw [indexOf_eq_zero (by simp [List.infix_nil.mp hinfix])] at h
    cases h
  | cons a text ih =>
    by_cases ha : word <+: a :: text
    · rw [indexOf_eq_zero ha] at h
      cases h
    · rw [indexOf, if_neg ha, Option.map_eq_none_iff] at h
      rw [List.infix_cons_iff, not_or]
      exact ⟨ha, ih h⟩

theorem indexOf_some {word text : List α} {i : Nat} (h : indexOf word text = some i) :
    ∃ before rest, text = before ++ (word ++ rest) ∧ before.length = i
      ∧ First word before rest := by
  induction text generalizing i with
  | nil =>
    by_cases hw : word = []
    · rw [indexOf, if_pos hw] at h
      cases h
      exact ⟨[], [], by simp [hw], rfl, by simp [First]⟩
    · rw [indexOf, if_neg hw] at h
      cases h
  | cons a text ih =>
    by_cases ha : word <+: a :: text
    · rw [indexOf_eq_zero ha] at h
      cases h
      obtain ⟨rest, hrest⟩ := ha
      exact ⟨[], rest, hrest.symm, rfl, by simp [First]⟩
    · rw [indexOf, if_neg ha] at h
      obtain ⟨j, hj, rfl⟩ := Option.map_eq_some_iff.mp h
      obtain ⟨before, rest, rfl, rfl, hfirst⟩ := ih hj
      exact ⟨a :: before, rest, rfl, rfl, hfirst.cons ha⟩

/-! ## Replacing from the left -/

/-- The occurrences of `word`, from the left and without overlap, replaced by `new`. -/
inductive Replaced (word new : List α) : List α → List α → Prop
  | none {text : List α} (h : ¬ word <:+: text) : Replaced word new text text
  | next {before rest out : List α} (hfirst : First word before rest)
      (hrest : Replaced word new rest out) :
      Replaced word new (before ++ (word ++ rest)) (before ++ (new ++ out))

theorem Replaced.unique {word new text out out' : List α} (h : Replaced word new text out)
    (h' : Replaced word new text out') : out = out' := by
  induction h generalizing out' with
  | none hno =>
    cases h' with
    | none _ => rfl
    | next _ _ => exact (hno (List.infix_append' _ _ _)).elim
  | @next before rest out hfirst _ ih =>
    generalize htext : before ++ (word ++ rest) = text at h'
    cases h' with
    | none hno =>
      subst htext
      exact (hno (List.infix_append' _ _ _)).elim
    | @next before' rest' out' hfirst' hrest' =>
      have hidx := indexOf_first hfirst
      rw [htext, indexOf_first hfirst'] at hidx
      obtain ⟨rfl, hbehind⟩ := List.append_inj htext (Option.some.inj hidx).symm
      obtain rfl := List.append_cancel_left hbehind
      rw [ih hrest']

end HrServer.Lib.Search
