/-
HrServer.Util.StringUtil — `StringUtil` of `sylar/util.cc`: URL encoding
and decoding, and trimming. Strings are lists of bytes.
-/
import Mathlib.Data.List.Basic

namespace HrServer.Util

/-- `str.find(c, pos)`. -/
def findFrom (str : List UInt8) (c : UInt8) (pos : Nat) : Option Nat :=
  ((str.drop pos).idxOf? c).map (· + pos)

/-- `str.substr(pos, n)`, for a `pos` inside the string. -/
def substr (str : List UInt8) (pos n : Nat) : List UInt8 := (str.drop pos).take n

theorem findFrom_bounds {str : List UInt8} {c : UInt8} {pos i : Nat}
    (h : findFrom str c pos = some i) : pos ≤ i ∧ i < str.length := by
  obtain ⟨j, hj, rfl⟩ := Option.map_eq_some_iff.mp h
  have hlt : j < (str.drop pos).length := by
    rw [List.idxOf?_eq_map_finIdxOf?_val] at hj
    obtain ⟨k, -, rfl⟩ := Option.map_eq_some_iff.mp hj
    exact k.isLt
  rw [List.length_drop] at hlt
  omega

/-- The character stands behind a text without it. -/
theorem findFrom_append {c : UInt8} {text : List UInt8} (h : c ∉ text) (before rest : List UInt8) :
    findFrom (before ++ (text ++ c :: rest)) c before.length
      = some (before.length + text.length) := by
  have hidx : (text ++ c :: rest).idxOf? c = some text.length := by
    induction text with
    | nil => simp [List.idxOf?_cons]
    | cons x text ih =>
      rw [List.mem_cons, not_or] at h
      simp [List.idxOf?_cons, Ne.symm h.1, ih h.2]
  simp [findFrom, hidx, Nat.add_comm]

theorem findFrom_eq_none {c : UInt8} {text : List UInt8} (h : c ∉ text) (before : List UInt8) :
    findFrom (before ++ text) c before.length = none := by
  simp [findFrom, List.idxOf?_eq_none_iff.mpr h]

@[simp] theorem substr_append (before text rest : List UInt8) :
    substr (before ++ (text ++ rest)) before.length text.length = text := by
  simp [substr]

namespace StringUtil

/-- `isxdigit` of the C locale. -/
def isxdigit (c : UInt8) : Bool :=
  (48 ≤ c && c ≤ 57) || (65 ≤ c && c ≤ 70) || (97 ≤ c && c ≤ 102)

/-- The table `xdigit_chars`. -/
def xdigitChars (c : UInt8) : UInt8 :=
  if 48 ≤ c ∧ c ≤ 57 then c - 48
  else if 65 ≤ c ∧ c ≤ 70 then c - 55
  else if 97 ≤ c ∧ c ≤ 102 then c - 87
  else 0

/-- The table `uri_chars`: `-`, `.`, the digits, `=`, the letters, `_` and `~`. -/
def uriChars (c : UInt8) : Bool :=
  c = 45 || c = 46 || (48 ≤ c && c ≤ 57) || c = 61 || (65 ≤ c && c ≤ 90) || c = 95
    || (97 ≤ c && c ≤ 122) || c = 126

/-- The string `hexdigits`, `0` to `9` and `A` to `F`, at an index below 16. -/
def hexdigits (n : UInt8) : UInt8 :=
  [48, 49, 50, 51, 52, 53, 54, 55, 56, 57, 65, 66, 67, 68, 69, 70].getD n.toNat 0

/-- The loop of `UrlEncode` at the last argument; `before` is the text up to there. The
copy `ss` is made at the first character that is encoded. -/
def urlEncodeLoop (spaceAsPlus : Bool) (before : List UInt8) (ss : Option (List UInt8)) :
    List UInt8 → Option (List UInt8)
  | [] => ss
  | c :: cs =>
    if uriChars c = false then
      let copy := ss.getD before
      if c = 32 ∧ spaceAsPlus = true then
        urlEncodeLoop spaceAsPlus (before ++ [c]) (some (copy ++ [43])) cs
      else
        urlEncodeLoop spaceAsPlus (before ++ [c])
          (some (copy ++ [37, hexdigits (c >>> 4), hexdigits (c &&& 0xf)])) cs
    else urlEncodeLoop spaceAsPlus (before ++ [c]) (ss.map (· ++ [c])) cs

/-- `UrlEncode(str, space_as_plus)`. -/
def urlEncode (str : List UInt8) (spaceAsPlus : Bool) : List UInt8 :=
  (urlEncodeLoop spaceAsPlus [] none str).getD str

/-- The loop of `UrlDecode` at the last argument; `before` is the text up to there. The
copy `ss` is made at the first character that is decoded. -/
def urlDecodeLoop (spaceAsPlus : Bool) (before : List UInt8) (ss : Option (List UInt8)) :
    List UInt8 → Option (List UInt8)
  | [] => ss
  | c :: cs =>
    if c = 43 ∧ spaceAsPlus = true then
      urlDecodeLoop spaceAsPlus (before ++ [c]) (some (ss.getD before ++ [32])) cs
    else
      match cs with
      | x :: y :: rest =>
        if c = 37 ∧ isxdigit x = true ∧ isxdigit y = true then
          urlDecodeLoop spaceAsPlus (before ++ [c, x, y])
            (some (ss.getD before ++ [xdigitChars x <<< 4 ||| xdigitChars y])) rest
        else urlDecodeLoop spaceAsPlus (before ++ [c]) (ss.map (· ++ [c])) (x :: y :: rest)
      | cs => urlDecodeLoop spaceAsPlus (before ++ [c]) (ss.map (· ++ [c])) cs

/-- `UrlDecode(str, space_as_plus)`. -/
def urlDecode (str : List UInt8) (spaceAsPlus : Bool) : List UInt8 :=
  (urlDecodeLoop spaceAsPlus [] none str).getD str

/-- `str.find_first_not_of(delimit)`. -/
def findFirstNotOf (str delimit : List UInt8) : Option Nat :=
  str.findIdx? fun c => !delimit.contains c

/-- `str.find_last_not_of(delimit)`. -/
def findLastNotOf (str delimit : List UInt8) : Option Nat :=
  (str.reverse.findIdx? fun c => !delimit.contains c).map (str.length - 1 - ·)

/-- The default delimiters: space, tab, carriage return and newline. -/
def blanks : List UInt8 := [32, 9, 13, 10]

/-- `Trim(str, delimit)`. With `npos` for the end, the rest of the string is taken. -/
def trim (str delimit : List UInt8) : List UInt8 :=
  match findFirstNotOf str delimit with
  | none => []
  | some first =>
    let last := (findLastNotOf str delimit).getD (str.length - 1)
    substr str first (last - first + 1)

/-- Trimming takes away delimiters only. -/
theorem mem_trim {c : UInt8} {delimit : List UInt8} (hc : c ∉ delimit) (str : List UInt8) :
    c ∈ trim str delimit ↔ c ∈ str := by
  constructor
  · intro h
    unfold trim at h
    split at h
    · cases h
    · exact List.mem_of_mem_drop (List.mem_of_mem_take h)
  · intro h
    obtain ⟨i, hi, rfl⟩ := List.mem_iff_getElem.mp h
    have hkeep : (!delimit.contains str[i]) = true := by simpa using hc
    unfold trim
    split
    · next hfirst =>
      rw [findFirstNotOf, List.findIdx?_eq_none_iff] at hfirst
      rw [hfirst _ (List.getElem_mem hi)] at hkeep
      cases hkeep
    · next first hfirst =>
      rw [findFirstNotOf, List.findIdx?_eq_some_iff_getElem] at hfirst
      obtain ⟨hlt, -, hbefore⟩ := hfirst
      have hle : first ≤ i := by
        by_contra hcon
        exact hbefore i (by omega) hkeep
      have hlast : i ≤ (findLastNotOf str delimit).getD (str.length - 1) := by
        cases hl : findLastNotOf str delimit with
        | none =>
          rw [Option.getD_none]
          omega
        | some last =>
          obtain ⟨j, hj, rfl⟩ := Option.map_eq_some_iff.mp hl
          obtain ⟨hjlt, -, hjbefore⟩ := List.findIdx?_eq_some_iff_getElem.mp hj
          rw [List.length_reverse] at hjlt
          have hji : j ≤ str.length - 1 - i := by
            by_contra hcon
            have hrev := hjbefore (str.length - 1 - i) (by omega)
            rw [List.getElem_reverse] at hrev
            have hidx : str.length - 1 - (str.length - 1 - i) = i := by omega
            simp only [hidx] at hrev
            exact hrev hkeep
          rw [Option.getD_some]
          omega
      refine List.mem_of_getElem? (i := i - first) ?_
      have hidx : first + (i - first) = i := by omega
      rw [substr, List.getElem?_take_of_lt (by omega), List.getElem?_drop, hidx]
      exact List.getElem?_eq_getElem hi

end StringUtil

end HrServer.Util
