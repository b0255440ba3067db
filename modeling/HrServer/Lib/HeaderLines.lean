/-
HrServer.Lib.HeaderLines — a block of text lines, written and read.

Each line ends with CR LF, and an empty line ends the block. A reader that
goes over the bytes one by one finds the lines again as long as none of
them is empty or has a CR or LF in it: `read_render`. A line is a field
when a colon stands in it: the name before, the value behind.
-/
import Mathlib.Data.List.Basic

namespace HrServer.Lib.HeaderLines

/-! ## Lines -/

/-- The lines of a block as they are written. -/
def render (lines : List (List UInt8)) : List UInt8 :=
  lines.flatMap (· ++ [13, 10]) ++ [13, 10]

/-- The lines up to the empty one; `line` is what is read of the first. -/
def readFrom (line : List UInt8) : List UInt8 → List (List UInt8)
  | [] => []
  | c :: rest =>
    if c = 13 then readFrom line rest
    else if c = 10 then if line = [] then [] else line :: readFrom [] rest
    else readFrom (line ++ [c]) rest

def read (text : List UInt8) : List (List UInt8) := readFrom [] text

/-- Text that fits on a line. -/
def OneLine (line : List UInt8) : Prop := 13 ∉ line ∧ 10 ∉ line

instance (line : List UInt8) : Decidable (OneLine line) :=
  inferInstanceAs (Decidable (13 ∉ line ∧ 10 ∉ line))

theorem OneLine.append {a b : List UInt8} (ha : OneLine a) (hb : OneLine b) : OneLine (a ++ b) :=
  ⟨by simpa using ⟨ha.1, hb.1⟩, by simpa using ⟨ha.2, hb.2⟩⟩

theorem readFrom_oneLine {text : List UInt8} (h : OneLine text) (line rest : List UInt8) :
    readFrom line (text ++ rest) = readFrom (line ++ text) rest := by
  induction text generalizing line with
  | nil => simp
  | cons c text ih =>
    obtain ⟨hcr, hlf⟩ := h
    rw [List.mem_cons, not_or] at hcr hlf
    rw [List.cons_append, readFrom, if_neg (Ne.symm hcr.1), if_neg (Ne.symm hlf.1),
      ih ⟨hcr.2, hlf.2⟩, List.append_assoc, List.singleton_append]

theorem read_line {line : List UInt8} (h : OneLine line) (hne : line ≠ []) (rest : List UInt8) :
    read (line ++ [13, 10] ++ rest) = line :: read rest := by
  rw [read, List.append_assoc, readFrom_oneLine h]
  simp [readFrom, hne, read]

/-- The lines are found again, whatever stands behind the block. -/
theorem read_render {lines : List (List UInt8)} (h : ∀ line ∈ lines, OneLine line ∧ line ≠ [])
    (body : List UInt8) : read (render lines ++ body) = lines := by
  induction lines with
  | nil => simp [render, read, readFrom]
  | cons line lines ih =>
    have hline := h line (by simp)
    have hcons : render (line :: lines) ++ body
        = line ++ [13, 10] ++ (render lines ++ body) := by
      simp [render]
    rw [hcons, read_line hline.1 hline.2, ih fun l hl => h l (by simp [hl])]

/-! ## Fields -/

/-- The name of the field on a line. -/
def fieldName (line : List UInt8) : List UInt8 := line.takeWhile (· ≠ 58)

/-- The value of the field on a line, without the blanks in front of it. -/
def fieldValue (line : List UInt8) : List UInt8 :=
  ((line.dropWhile (· ≠ 58)).drop 1).dropWhile (· = 32)

/-- A line of a key and a value; a colon in the key ends the name. -/
def fieldLine (key value : List UInt8) : List UInt8 := key ++ [58, 32] ++ value

theorem fieldName_fieldLine (key value : List UInt8) :
    fieldName (fieldLine key value) = fieldName key := by
  induction key with
  | nil => simp [fieldName, fieldLine]
  | cons c key ih =>
    simp only [fieldName, fieldLine, List.cons_append, List.takeWhile_cons] at ih ⊢
    rw [ih]

theorem fieldName_of_not_mem {key : List UInt8} (h : 58 ∉ key) : fieldName key = key := by
  induction key with
  | nil => rfl
  | cons c key ih =>
    rw [List.mem_cons, not_or] at h
    have hkey : key.takeWhile (· ≠ 58) = key := ih h.2
    rw [fieldName, List.takeWhile_cons_of_pos (by simpa using Ne.symm h.1), hkey]

theorem fieldValue_fieldLine {key value : List UInt8} (hkey : 58 ∉ key)
    (hvalue : value.head? ≠ some 32) : fieldValue (fieldLine key value) = value := by
  have hdrop : (fieldLine key value).dropWhile (· ≠ 58) = 58 :: 32 :: value := by
    induction key with
    | nil => simp [fieldLine]
    | cons c key ih =>
      rw [List.mem_cons, not_or] at hkey
      have hc : c ≠ 58 := Ne.symm hkey.1
      simpa [fieldLine, hc] using ih hkey.2
  rw [fieldValue, hdrop]
  cases value with
  | nil => simp
  | cons c value =>
    have hc : c ≠ 32 := fun e => hvalue (by rw [e]; rfl)
    simp [hc]

theorem oneLine_fieldLine {key value : List UInt8} (hkey : OneLine key) (hvalue : OneLine value) :
    OneLine (fieldLine key value) :=
  (hkey.append (by decide)).append hvalue

theorem fieldLine_ne_nil (key value : List UInt8) : fieldLine key value ≠ [] := by
  simp [fieldLine]

end HrServer.Lib.HeaderLines
