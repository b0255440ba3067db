/-
HrServer.Lib.Escape — escaping by a mark and a letter.

A table says which values are escaped and with which letter. The escaped
text is read back because the table can be read backwards and the mark
itself is escaped: `unescape_escape`.
-/
import Mathlib.Data.List.Basic

namespace HrServer.Lib.Escape

/-- Values with a `letter` are written as the mark and the letter. -/
structure Table (α : Type) where
  mark : α
  letter : α → Option α
  value : α → Option α
  /-- The letters are told apart. -/
  value_of_letter : ∀ {a b}, letter a = some b → value b = some a
  /-- The mark does not stand for itself. -/
  mark_escaped : letter mark ≠ none

namespace Table

variable {α : Type} (t : Table α)

/-! ## Escaping -/

/-- One value escaped. -/
def escapeOne (a : α) : List α :=
  match t.letter a with
  | some b => [t.mark, b]
  | none => [a]

/-- Every value escaped. -/
def escape (text : List α) : List α := text.flatMap t.escapeOne

@[simp] theorem escape_nil : t.escape [] = [] := rfl

theorem escape_letter {a b : α} (h : t.letter a = some b) (text : List α) :
    t.escape (a :: text) = t.mark :: b :: t.escape text := by
  simp [escape, escapeOne, h]

theorem escape_plain {a : α} (h : t.letter a = none) (text : List α) :
    t.escape (a :: text) = a :: t.escape text := by
  simp [escape, escapeOne, h]

theorem length_escape (text : List α) :
    (t.escape text).length = text.length + text.countP fun a => (t.letter a).isSome := by
  induction text with
  | nil => rfl
  | cons a text ih =>
    rw [List.countP_cons, List.length_cons]
    cases h : t.letter a with
    | some b =>
      rw [t.escape_letter h, List.length_cons, List.length_cons, ih]
      simp
      omega
    | none =>
      rw [t.escape_plain h, List.length_cons, ih]
      simp
      omega

theorem escape_of_none {text : List α} (h : ∀ a ∈ text, t.letter a = none) :
    t.escape text = text := by
  induction text with
  | nil => rfl
  | cons a text ih =>
    rw [t.escape_plain (h a (by simp)), ih fun b hb => h b (by simp [hb])]

/-- Escaping changes a text as soon as one of its values is escaped. -/
theorem escape_eq_self_iff {text : List α} :
    t.escape text = text ↔ ∀ a ∈ text, t.letter a = none := by
  refine ⟨fun e => ?_, t.escape_of_none⟩
  have hcount : (text.countP fun a => (t.letter a).isSome) = 0 := by
    have hlen := t.length_escape text
    rw [e] at hlen
    omega
  simpa using hcount

/-! ## Reading back -/

variable [DecidableEq α]

/-- A mark with a letter is one value again, all else stays. -/
def unescape : List α → List α
  | [] => []
  | [a] => [a]
  | a :: b :: rest =>
    match if a = t.mark then t.value b else none with
    | some c => c :: unescape rest
    | none => a :: unescape (b :: rest)

theorem unescape_letter {a b : α} (h : t.letter a = some b) (rest : List α) :
    t.unescape (t.mark :: b :: rest) = a :: t.unescape rest := by
  simp [unescape, t.value_of_letter h]

theorem unescape_plain {a : α} (h : a ≠ t.mark) (rest : List α) :
    t.unescape (a :: rest) = a :: t.unescape rest := by
  cases rest with
  | nil => rfl
  | cons b rest => simp [unescape, h]

/-- Escaping is reversible. -/
theorem unescape_escape (text : List α) : t.unescape (t.escape text) = text := by
  induction text with
  | nil => rfl
  | cons a text ih =>
    cases h : t.letter a with
    | some b => rw [t.escape_letter h, t.unescape_letter h, ih]
    | none =>
      have hne : a ≠ t.mark := by
        intro e
        exact t.mark_escaped (e ▸ h)
      rw [t.escape_plain h, t.unescape_plain hne, ih]

end Table

end HrServer.Lib.Escape
