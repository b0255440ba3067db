/-
HrServer.Lib.Cut — cutting a list at its first separators.

`cut p n s` cuts at the first `n` values with `p` and leaves the rest in
one piece. The results say what a splitter with a limit owes: at most
`n + 1` pieces, separators only in the last one, none there if a cut was
left over, and for one separator the list again by joining.
-/
import Mathlib.Data.List.Basic

namespace HrServer.Lib.Cut

variable {α : Type}

/-- The pieces of `s` between the first `n` separators, and the rest. -/
def cut (p : α → Bool) : Nat → List α → List (List α)
  | 0, s => [s]
  | n + 1, s =>
    match s.findIdx? p with
    | none => [s]
    | some i => s.take i :: cut p n (s.drop (i + 1))

theorem cut_of_none {p : α → Bool} {s : List α} (h : s.findIdx? p = none) (n : Nat) :
    cut p n s = [s] := by
  cases n with
  | zero => rfl
  | succ n => simp [cut, h]

theorem cut_of_some {p : α → Bool} {s : List α} {i : Nat} (h : s.findIdx? p = some i) (n : Nat) :
    cut p (n + 1) s = s.take i :: cut p n (s.drop (i + 1)) := by
  simp [cut, h]

theorem cut_ne_nil (p : α → Bool) (n : Nat) (s : List α) : cut p n s ≠ [] := by
  cases n with
  | zero => simp [cut]
  | succ n =>
    cases h : s.findIdx? p with
    | none => simp [cut_of_none h]
    | some i => simp [cut_of_some h]

theorem length_cut_le (p : α → Bool) (n : Nat) (s : List α) : (cut p n s).length ≤ n + 1 := by
  induction n generalizing s with
  | zero => simp [cut]
  | succ n ih =>
    cases h : s.findIdx? p with
    | none => simp [cut_of_none h]
    | some i =>
      rw [cut_of_some h, List.length_cons]
      exact Nat.succ_le_succ (ih _)

/-- The piece before the first separator has none. -/
theorem take_free {p : α → Bool} {s : List α} {i : Nat} (h : s.findIdx? p = some i) {a : α}
    (ha : a ∈ s.take i) : p a = false := by
  obtain ⟨_, -, hbefore⟩ := List.findIdx?_eq_some_iff_getElem.mp h
  obtain ⟨j, hj, rfl⟩ := List.mem_take_iff_getElem.mp ha
  simpa using hbefore j (by omega)

/-- Every piece but the last is free of separators. -/
theorem cut_dropLast_free (p : α → Bool) (n : Nat) (s : List α) :
    ∀ x ∈ (cut p n s).dropLast, ∀ a ∈ x, p a = false := by
  induction n generalizing s with
  | zero => simp [cut]
  | succ n ih =>
    cases h : s.findIdx? p with
    | none => simp [cut_of_none h]
    | some i =>
      rw [cut_of_some h, List.dropLast_cons_of_ne_nil (cut_ne_nil p n _)]
      intro x hx
      rcases List.mem_cons.mp hx with rfl | hx
      · exact fun a => take_free h
      · exact ih _ x hx

/-- With a cut left over, the last piece is free of separators too. -/
theorem cut_free_of_length_lt {p : α → Bool} {n : Nat} {s : List α}
    (hlt : (cut p n s).length < n + 1) : ∀ x ∈ cut p n s, ∀ a ∈ x, p a = false := by
  induction n generalizing s with
  | zero => simp [cut] at hlt
  | succ n ih =>
    cases h : s.findIdx? p with
    | none => simpa [cut_of_none h] using h
    | some i =>
      rw [cut_of_some h] at hlt ⊢
      rw [List.length_cons] at hlt
      intro x hx
      rcases List.mem_cons.mp hx with rfl | hx
      · exact fun a => take_free h
      · exact ih (by omega) x hx

/-- Joining the pieces with the one separator gives the list again. -/
theorem intercalate_cut [DecidableEq α] (c : α) (n : Nat) (s : List α) :
    [c].intercalate (cut (· == c) n s) = s := by
  induction n generalizing s with
  | zero => simp [cut]
  | succ n ih =>
    cases h : s.findIdx? (· == c) with
    | none => simp [cut_of_none h]
    | some i =>
      obtain ⟨hlt, hi, -⟩ := List.findIdx?_eq_some_iff_getElem.mp h
      rw [cut_of_some h, List.intercalate_cons_of_ne_nil (cut_ne_nil _ n _), ih]
      have hc : s[i] = c := by simpa using hi
      calc s.take i ++ [c] ++ s.drop (i + 1)
          = s.take i ++ s[i] :: s.drop (i + 1) := by rw [hc, List.append_assoc]; rfl
        _ = s := by rw [← List.drop_eq_getElem_cons hlt, List.take_append_drop]

end HrServer.Lib.Cut
