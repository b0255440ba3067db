/-
HrServer.Util.JsonEscape — `JsonUtil::NeedEscape` and `JsonUtil::Escape` of
`sylar/util/json_util.cc`.

`Escape` goes over the text twice: the first pass computes the size of the
result, the second one writes it. Between the two the result is resized to
that size, which fills it with zero bytes, and the second pass appends
behind them.

Results:

* `escapeLoop_eq` — the second pass appends the escapes of the characters;
* `escape_eq` — a text with a character to escape gets the zero bytes in
  front of them;
* `escape_reversible_iff` — so the escapes are right for the texts with
  nothing to escape only.
-/
import HrServer.Lib.Escape

namespace HrServer.Util.JsonUtil

open Lib

/-! ## The functions -/

/-- The loop of `NeedEscape(v)`. -/
def needEscape : List UInt8 → Bool
  | [] => false
  | c :: v =>
    match c with
    | 12 | 9 | 13 | 10 | 8 | 34 | 92 => true
    | _ => needEscape v

/-- The first pass of `Escape`: `size`. -/
def sizeLoop (size : Nat) : List UInt8 → Nat
  | [] => size
  | c :: v =>
    match c with
    | 12 | 9 | 13 | 10 | 8 | 34 | 92 => sizeLoop (size + 2) v
    | _ => sizeLoop (size + 1) v

/-- The second pass of `Escape`: what is appended to `rt`. -/
def escapeLoop (rt : List UInt8) : List UInt8 → List UInt8
  | [] => rt
  | c :: v =>
    match c with
    | 12 => escapeLoop (rt ++ [92, 102]) v
    | 9 => escapeLoop (rt ++ [92, 116]) v
    | 13 => escapeLoop (rt ++ [92, 114]) v
    | 10 => escapeLoop (rt ++ [92, 110]) v
    | 8 => escapeLoop (rt ++ [92, 98]) v
    | 34 => escapeLoop (rt ++ [92, 34]) v
    | 92 => escapeLoop (rt ++ [92, 92]) v
    | c => escapeLoop (rt ++ [c]) v

/-- `Escape(v)`; `rt.resize(size)` fills with zero bytes. -/
def escape (v : List UInt8) : List UInt8 :=
  let size := sizeLoop 0 v
  if size = v.length then v else escapeLoop (List.replicate size 0) v

/-! ## The escapes -/

/-- The letter behind the backslash: `f t r n b " \`. -/
def letter (c : UInt8) : Option UInt8 :=
  match c with
  | 12 => some 102
  | 9 => some 116
  | 13 => some 114
  | 10 => some 110
  | 8 => some 98
  | 34 => some 34
  | 92 => some 92
  | _ => none

/-- The character that a letter stands for. -/
def value (c : UInt8) : Option UInt8 :=
  match c with
  | 102 => some 12
  | 116 => some 9
  | 114 => some 13
  | 110 => some 10
  | 98 => some 8
  | 34 => some 34
  | 92 => some 92
  | _ => none

theorem value_of_letter {a b : UInt8} (h : letter a = some b) : value b = some a := by
  unfold letter at h
  split at h <;> cases h <;> rfl

/-- The seven escapes, as a table. -/
def table : Escape.Table UInt8 where
  mark := 92
  letter := letter
  value := value
  value_of_letter := value_of_letter
  mark_escaped := by decide

theorem letter_eq_none_iff (c : UInt8) :
    letter c = none ↔ c ∉ [12, 9, 13, 10, 8, 34, 92] := by
  unfold letter
  split <;> simp_all

/-! ## The three passes classify alike -/

theorem needEscape_eq_false_iff (v : List UInt8) :
    needEscape v = false ↔ ∀ c ∈ v, table.letter c = none := by
  induction v with
  | nil => simp [needEscape]
  | cons c v ih =>
    have hc : needEscape (c :: v) = false ↔ letter c = none ∧ needEscape v = false := by
      simp only [needEscape, letter]
      split <;> simp
    rw [hc, ih, List.forall_mem_cons]
    rfl

theorem sizeLoop_eq (size : Nat) (v : List UInt8) :
    sizeLoop size v = size + (table.escape v).length := by
  induction v generalizing size with
  | nil => simp [sizeLoop]
  | cons c v ih =>
    have hc : sizeLoop size (c :: v) = sizeLoop (size + (table.escapeOne c).length) v := by
      simp only [sizeLoop, Escape.Table.escapeOne, table, letter]
      split <;> simp
    rw [hc, ih]
    simp [Escape.Table.escape]
    omega

/-- The second pass appends the escapes of the characters. -/
theorem escapeLoop_eq (rt v : List UInt8) : escapeLoop rt v = rt ++ table.escape v := by
  induction v generalizing rt with
  | nil => simp [escapeLoop]
  | cons c v ih =>
    have hc : escapeLoop rt (c :: v) = escapeLoop (rt ++ table.escapeOne c) v := by
      simp only [escapeLoop, Escape.Table.escapeOne, table, letter]
      split <;> simp
    rw [hc, ih]
    simp [Escape.Table.escape]

/-! ## The result of `Escape` -/

theorem size_eq_length_iff (v : List UInt8) :
    sizeLoop 0 v = v.length ↔ needEscape v = false := by
  rw [sizeLoop_eq, Escape.Table.length_escape, needEscape_eq_false_iff]
  simp

theorem escape_of_plain {v : List UInt8} (h : needEscape v = false) : escape v = v := by
  simp [escape, (size_eq_length_iff v).mpr h]

/-- A text with a character to escape gets `size` zero bytes in front of its escapes. -/
theorem escape_eq {v : List UInt8} (h : needEscape v = true) :
    escape v = List.replicate (sizeLoop 0 v) 0 ++ table.escape v := by
  have hsize : sizeLoop 0 v ≠ v.length := by
    rw [Ne, size_eq_length_iff, h]
    decide
  simp only [escape, if_neg hsize]
  exact escapeLoop_eq _ v

/-- Behind the zero bytes stands the text, escaped reversibly. -/
theorem unescape_drop_escape {v : List UInt8} (h : needEscape v = true) :
    table.unescape ((escape v).drop (sizeLoop 0 v)) = v := by
  rw [escape_eq h, List.drop_left' List.length_replicate]
  exact table.unescape_escape v

/-- `Escape` writes the escapes of the characters, in the size of the first pass, and
`NeedEscape` tells whether they differ from the text. -/
structure EscapesRight (v : List UInt8) : Prop where
  flatMap : escape v = v.flatMap table.escapeOne
  unescape : table.unescape (escape v) = v
  size : (escape v).length = sizeLoop 0 v
  needEscape : needEscape v = true ↔ escape v ≠ v

/-- The zero bytes are counted twice: once for `resize`, once for what is appended. -/
theorem not_escapesRight {v : List UInt8} (h : needEscape v = true) : ¬ EscapesRight v := by
  intro hright
  have hlen := congrArg List.length (escape_eq h)
  have hsize := hright.size
  have happ := sizeLoop_eq 0 v
  have hpos : sizeLoop 0 v ≠ 0 := by
    cases v with
    | nil => cases h
    | cons c v =>
      rw [sizeLoop_eq, Escape.Table.length_escape, List.length_cons]
      omega
  rw [List.length_append, List.length_replicate] at hlen
  omega

theorem escapesRight_of_plain {v : List UInt8} (h : needEscape v = false) : EscapesRight v := by
  have hesc := escape_of_plain h
  have hself : table.escape v = v := by
    rw [Escape.Table.escape_eq_self_iff, ← needEscape_eq_false_iff, h]
  exact
    { flatMap := hesc.trans hself.symm
      unescape := by
        rw [hesc]
        exact (congrArg table.unescape hself.symm).trans (table.unescape_escape v)
      size := by rw [hesc, (size_eq_length_iff v).mpr h]
      needEscape := by simp [h, hesc] }

/-- `Escape` is right for a text without form feed, tab, carriage return, newline, backspace,
quote and backslash, and for no other. -/
theorem escape_reversible_iff (v : List UInt8) :
    EscapesRight v ↔ ∀ c ∈ v, c ∉ [12, 9, 13, 10, 8, 34, 92] := by
  have hplain : (∀ c ∈ v, c ∉ [12, 9, 13, 10, 8, 34, 92]) ↔ needEscape v = false := by
    rw [needEscape_eq_false_iff]
    exact forall₂_congr fun c _ => (letter_eq_none_iff c).symm
  rw [hplain]
  constructor
  · intro h
    by_contra hneed
    rw [Bool.not_eq_false] at hneed
    exact not_escapesRight hneed h
  · exact escapesRight_of_plain

/-- A quote becomes two zero bytes, the backslash and the quote. -/
theorem escape_quote : escape [34] = [0, 0, 92, 34] ∧ ¬ EscapesRight [34] :=
  ⟨by decide, not_escapesRight rfl⟩

end HrServer.Util.JsonUtil
