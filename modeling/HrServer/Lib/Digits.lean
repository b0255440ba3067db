/-
HrServer.Lib.Digits — numbers as text.

`numeral b n` is what a stream prints for `n` in base `b`, lower-case and
without leading zeros; `readNumeral` reads one back and takes upper-case
digits too. The base is at most 16.
-/
import Mathlib.Data.Nat.Digits.Lemmas

namespace HrServer.Lib

/-- The character of a digit below 16. -/
def digitChar (d : Nat) : UInt8 := if d < 10 then UInt8.ofNat (48 + d) else UInt8.ofNat (87 + d)

/-- The digit of a character: `0` to `9`, `a` to `f` or `A` to `F`. -/
def charDigit (c : UInt8) : Option Nat :=
  if 48 ≤ c ∧ c ≤ 57 then some (c.toNat - 48)
  else if 97 ≤ c ∧ c ≤ 102 then some (c.toNat - 87)
  else if 65 ≤ c ∧ c ≤ 70 then some (c.toNat - 55)
  else none

/-- The text of `n` in base `b`. -/
def numeral (b n : Nat) : List UInt8 :=
  if n = 0 then [48] else (b.digits n).reverse.map digitChar

/-- The number a text stands for in base `b`: a list of digits, not empty. -/
def readNumeral (b : Nat) (text : List UInt8) : Option Nat :=
  if text = [] then none
  else do
    let ds ← text.mapM fun c => (charDigit c).filter (· < b)
    some (Nat.ofDigits b ds.reverse)

theorem charDigit_digitChar {d : Nat} (h : d < 16) : charDigit (digitChar d) = some d := by
  have hall : ∀ d : Fin 16, charDigit (digitChar d) = some d.val := by decide
  exact hall ⟨d, h⟩

section numeral

variable {b n : Nat}

theorem numeral_ne_nil : numeral b n ≠ [] := by
  rw [numeral]
  split
  · simp
  case isFalse h => simpa using Nat.digits_ne_nil_iff_ne_zero.mpr h

/-- Every character of a numeral is that of a digit of the base. -/
theorem mem_numeral (hb : 1 < b) {c : UInt8} (hc : c ∈ numeral b n) :
    ∃ d < b, c = digitChar d := by
  rw [numeral] at hc
  split at hc
  · exact ⟨0, by omega, List.mem_singleton.mp hc⟩
  · obtain ⟨d, hd, rfl⟩ := List.mem_map.mp hc
    exact ⟨d, Nat.digits_lt_base hb (List.mem_reverse.mp hd), rfl⟩

/-- A number below `b ^ k` needs at most `k` digits. -/
theorem length_numeral_le (hb : 1 < b) {k : Nat} (hk : 0 < k) (hn : n < b ^ k) :
    (numeral b n).length ≤ k := by
  rw [numeral]
  split
  · exact hk
  case isFalse h =>
    have hlen := (Nat.digits_length_le_iff hb n).mpr hn
    simpa using hlen

private theorem mapM_digits (hb : b ≤ 16) {ds : List Nat} (hds : ∀ d ∈ ds, d < b) :
    (ds.map digitChar).mapM (fun c => (charDigit c).filter (· < b)) = some ds := by
  induction ds with
  | nil => rfl
  | cons d ds ih =>
    rw [List.forall_mem_cons] at hds
    rw [List.map_cons, List.mapM_cons, ih hds.2,
      charDigit_digitChar (Nat.lt_of_lt_of_le hds.1 hb)]
    simp [Option.filter, hds.1]

/-- A numeral reads back. -/
theorem readNumeral_numeral (hb : 1 < b) (hb' : b ≤ 16) : readNumeral b (numeral b n) = some n := by
  rw [readNumeral, if_neg numeral_ne_nil, numeral]
  split
  case isTrue h =>
    subst h
    have hzero : ([48] : List UInt8) = [0].map digitChar := rfl
    rw [hzero, mapM_digits hb' (by simp; omega)]
    simp
  case isFalse h =>
    have hlt : ∀ d ∈ (b.digits n).reverse, d < b := fun d hd =>
      Nat.digits_lt_base hb (List.mem_reverse.mp hd)
    rw [mapM_digits hb' hlt]
    simp [Nat.ofDigits_digits]

end numeral

end HrServer.Lib
