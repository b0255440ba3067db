/-
HrServer.Util.Trim — `StringUtil::TrimLeft` and `StringUtil::TrimRight` of
`sylar/util.cc`, beside `Trim`.

`TrimRight` takes the index of the last character to keep for a length, so
that this character is cut off too (`trimRight_eq`). `TrimLeft` and `Trim`
are right for every string: they are `dropWhile` at one end and at both.
-/
import HrServer.Util.StringUtil
import Mathlib.Data.List.DropRight

namespace HrServer.Util.StringUtil

/-- `TrimLeft(str, delimit)`. -/
def trimLeft (str delimit : List UInt8) : List UInt8 :=
  match findFirstNotOf str delimit with
  | none => []
  | some first => str.drop first

/-- `TrimRight(str, delimit)`. -/
def trimRight (str delimit : List UInt8) : List UInt8 :=
  match findLastNotOf str delimit with
  | none => []
  | some last => substr str 0 last

/-! ## The three functions by the characters they drop -/

theorem findFirstNotOf_cons_mem {c : UInt8} {delimit : List UInt8} (h : c ∈ delimit)
    (str : List UInt8) :
    findFirstNotOf (c :: str) delimit = (findFirstNotOf str delimit).map (· + 1) := by
  simp [findFirstNotOf, List.findIdx?_cons, h]

theorem findFirstNotOf_cons_not_mem {c : UInt8} {delimit : List UInt8} (h : c ∉ delimit)
    (str : List UInt8) : findFirstNotOf (c :: str) delimit = some 0 := by
  simp [findFirstNotOf, List.findIdx?_cons, h]

theorem findFirstNotOf_eq_none_iff {str delimit : List UInt8} :
    findFirstNotOf str delimit = none ↔ ∀ c ∈ str, c ∈ delimit := by
  simp [findFirstNotOf, List.findIdx?_eq_none_iff]

theorem drop_of_findFirstNotOf {str delimit : List UInt8} {first : Nat}
    (h : findFirstNotOf str delimit = some first) :
    str.drop first = str.dropWhile delimit.contains := by
  induction str generalizing first with
  | nil => cases h
  | cons c str ih =>
    by_cases hc : c ∈ delimit
    · rw [findFirstNotOf_cons_mem hc] at h
      obtain ⟨n, hn, rfl⟩ := Option.map_eq_some_iff.mp h
      rw [List.drop_succ_cons, ih hn, List.dropWhile_cons_of_pos (by simpa using hc)]
    · rw [findFirstNotOf_cons_not_mem hc] at h
      cases h
      rw [List.dropWhile_cons_of_neg (by simpa using hc), List.drop_zero]

theorem dropWhile_of_none {str delimit : List UInt8} (h : findFirstNotOf str delimit = none) :
    str.dropWhile delimit.contains = [] := by
  rw [findFirstNotOf_eq_none_iff] at h
  simpa [List.dropWhile_eq_nil_iff] using h

/-- `find_last_not_of` is `find_first_not_of` on the string from its end. -/
theorem findLastNotOf_eq (str delimit : List UInt8) :
    findLastNotOf str delimit
      = (findFirstNotOf str.reverse delimit).map (str.length - 1 - ·) := rfl

theorem trimLeft_eq (str delimit : List UInt8) :
    trimLeft str delimit = str.dropWhile delimit.contains := by
  unfold trimLeft
  split
  · next h => exact (dropWhile_of_none h).symm
  · next h => exact drop_of_findFirstNotOf h

/-- The text up to the last character to keep. -/
theorem take_of_findLastNotOf {str delimit : List UInt8} {last : Nat}
    (h : findLastNotOf str delimit = some last) :
    last < str.length ∧ str.take (last + 1) = str.rdropWhile delimit.contains := by
  rw [findLastNotOf_eq] at h
  obtain ⟨first, hfirst, rfl⟩ := Option.map_eq_some_iff.mp h
  have hlt : first < str.length := by
    obtain ⟨hlt, -⟩ := List.findIdx?_eq_some_iff_getElem.mp hfirst
    simpa using hlt
  refine ⟨by omega, ?_⟩
  have hlen : str.length - 1 - first + 1 = str.length - first := by omega
  rw [List.rdropWhile, ← drop_of_findFirstNotOf hfirst, List.drop_reverse, List.reverse_reverse,
    hlen]

theorem rdropWhile_of_none {str delimit : List UInt8} (h : findLastNotOf str delimit = none) :
    str.rdropWhile delimit.contains = [] := by
  rw [findLastNotOf_eq, Option.map_eq_none_iff] at h
  rw [List.rdropWhile, dropWhile_of_none h, List.reverse_nil]

/-- The last character to keep is dropped with the delimiters behind it. -/
theorem trimRight_eq (str delimit : List UInt8) :
    trimRight str delimit = (str.rdropWhile delimit.contains).dropLast := by
  unfold trimRight
  split
  · next h => rw [rdropWhile_of_none h, List.dropLast_nil]
  · next last h =>
    obtain ⟨hlt, htake⟩ := take_of_findLastNotOf h
    rw [← htake, List.dropLast_eq_take, List.take_take, List.length_take]
    have hmin : min (min (last + 1) str.length - 1) (last + 1) = last := by omega
    rw [hmin]
    rfl

theorem findLastNotOf_append {str delimit : List UInt8} {last : Nat} (front : List UInt8)
    (h : findLastNotOf str delimit = some last) :
    findLastNotOf (front ++ str) delimit = some (front.length + last) := by
  have hlt := (take_of_findLastNotOf h).1
  rw [findLastNotOf_eq] at h ⊢
  obtain ⟨first, hfirst, rfl⟩ := Option.map_eq_some_iff.mp h
  have happ : findFirstNotOf (front ++ str).reverse delimit = some first := by
    rw [findFirstNotOf] at hfirst
    rw [findFirstNotOf, List.reverse_append, List.findIdx?_append, hfirst]
    rfl
  rw [happ, Option.map_some, List.length_append]
  congr 1
  have hfirstlt : first < str.length := by
    obtain ⟨hlt, -⟩ := List.findIdx?_eq_some_iff_getElem.mp hfirst
    simpa using hlt
  omega

/-- `Trim` drops the delimiters at both ends. -/
theorem trim_eq (str delimit : List UInt8) :
    trim str delimit = (str.dropWhile delimit.contains).rdropWhile delimit.contains := by
  unfold trim
  split
  · next h => rw [dropWhile_of_none h, List.rdropWhile_nil]
  · next first h =>
    have hdrop := drop_of_findFirstNotOf h
    rw [← hdrop]
    have hlt : first < str.length := by
      obtain ⟨hlt, -⟩ := List.findIdx?_eq_some_iff_getElem.mp h
      exact hlt
    cases hlast : findLastNotOf (str.drop first) delimit with
    | none =>
      rw [findLastNotOf_eq, Option.map_eq_none_iff, findFirstNotOf_eq_none_iff] at hlast
      obtain ⟨_, hkeep, -⟩ := List.findIdx?_eq_some_iff_getElem.mp h
      have hdropped : str[first] ∈ str.drop first := by
        rw [List.drop_eq_getElem_cons hlt]
        exact List.mem_cons_self
      simp [hlast _ (List.mem_reverse.mpr hdropped)] at hkeep
    | some last =>
      have hwhole := findLastNotOf_append (str.take first) hlast
      rw [List.take_append_drop, List.length_take, Nat.min_eq_left (by omega)] at hwhole
      have hlen : first + last - first + 1 = last + 1 := by omega
      rw [hwhole, Option.getD_some, substr, hlen]
      exact (take_of_findLastNotOf hlast).2

/-! ## Trimming as it should be -/

/-- `out` is the longest prefix of the string that does not end in a delimiter. -/
structure LongestPrefix (str delimit out : List UInt8) : Prop where
  isPrefix : out <+: str
  ends : ∀ c ∈ out.getLast?, c ∉ delimit
  longest : ∀ p, p <+: str → (∀ c ∈ p.getLast?, c ∉ delimit) → p.length ≤ out.length

/-- `out` is the longest suffix of the string that does not start with a delimiter. -/
structure LongestSuffix (str delimit out : List UInt8) : Prop where
  isSuffix : out <:+ str
  starts : ∀ c ∈ out.head?, c ∉ delimit
  longest : ∀ p, p <:+ str → (∀ c ∈ p.head?, c ∉ delimit) → p.length ≤ out.length

/-- What the three functions owe to each other and to the string. -/
structure Composes (str delimit : List UInt8) : Prop where
  left_right : trim str delimit = trimLeft (trimRight str delimit) delimit
  right_left : trim str delimit = trimRight (trimLeft str delimit) delimit
  trim_idem : trim (trim str delimit) delimit = trim str delimit
  left_idem : trimLeft (trimLeft str delimit) delimit = trimLeft str delimit
  right_idem : trimRight (trimRight str delimit) delimit = trimRight str delimit
  longestPrefix : LongestPrefix str delimit (trimRight str delimit)
  longestSuffix : LongestSuffix str delimit (trimLeft str delimit)

theorem trimLeft_trimLeft (str delimit : List UInt8) :
    trimLeft (trimLeft str delimit) delimit = trimLeft str delimit := by
  simp only [trimLeft_eq, List.dropWhile_idempotent]

/-- `TrimLeft` is right for every string. -/
theorem trimLeft_longest (str delimit : List UInt8) :
    LongestSuffix str delimit (trimLeft str delimit) := by
  rw [trimLeft_eq]
  refine ⟨List.dropWhile_suffix _, ?_, ?_⟩
  · intro c hc
    have := List.head?_dropWhile_not delimit.contains str
    rw [Option.mem_def.mp hc] at this
    simpa using this
  · rintro p ⟨before, rfl⟩ hstart
    induction before with
    | nil =>
      cases p with
      | nil => simp
      | cons c p => simp [hstart c rfl]
    | cons x before ih =>
      rw [List.cons_append, List.dropWhile_cons]
      split
      · exact ih
      · simp
        omega

theorem trim_trim (str delimit : List UInt8) :
    trim (trim str delimit) delimit = trim str delimit := by
  simp only [trim_eq]
  have hself : ((str.dropWhile delimit.contains).rdropWhile delimit.contains).dropWhile
      delimit.contains = (str.dropWhile delimit.contains).rdropWhile delimit.contains := by
    obtain ⟨behind, hbehind⟩ := List.rdropWhile_prefix delimit.contains
      (str.dropWhile delimit.contains)
    cases hm : (str.dropWhile delimit.contains).rdropWhile delimit.contains with
    | nil => rfl
    | cons c m =>
      have hhead := List.head?_dropWhile_not delimit.contains str
      rw [← hbehind, hm] at hhead
      exact List.dropWhile_cons_of_neg (by simpa using hhead)
  rw [hself, List.rdropWhile_idempotent]

/-- With nothing to keep, all three give the empty string. -/
theorem composes_of_forall_mem {str delimit : List UInt8} (h : ∀ c ∈ str, c ∈ delimit) :
    Composes str delimit := by
  have hempty (p : List UInt8) (hp : ∀ c ∈ p, c ∈ delimit)
      (hend : ∀ c ∈ p.getLast?, c ∉ delimit) : p = [] := by
    cases hl : p.getLast? with
    | none => simpa using hl
    | some c => exact absurd (hp c (List.mem_of_getLast? hl)) (hend c hl)
  have hleft : trimLeft str delimit = [] := by
    simp [trimLeft, findFirstNotOf_eq_none_iff.mpr h]
  have hright : trimRight str delimit = [] := by
    have hdrop : str.rdropWhile delimit.contains = [] := by
      simpa [List.rdropWhile_eq_nil_iff] using h
    simp [trimRight_eq, hdrop]
  have htrim : trim str delimit = [] := by
    simp [trim, findFirstNotOf_eq_none_iff.mpr h]
  exact
    { left_right := by rw [htrim, hright]; rfl
      right_left := by rw [htrim, hleft]; rfl
      trim_idem := trim_trim str delimit
      left_idem := trimLeft_trimLeft str delimit
      right_idem := by rw [hright]; rfl
      longestPrefix := by
        rw [hright]
        refine ⟨List.nil_prefix, by simp, fun p hp hend => ?_⟩
        rw [hempty p (fun c hc => h c (hp.subset hc)) hend]
      longestSuffix := trimLeft_longest str delimit }

/-- `TrimRight` misses the last character to keep. -/
theorem not_composes_of_kept {str delimit : List UInt8} {c : UInt8} (hc : c ∈ str)
    (hkeep : c ∉ delimit) : ¬ Composes str delimit := by
  intro h
  have hne : str.rdropWhile delimit.contains ≠ [] := by
    intro hnil
    rw [List.rdropWhile_eq_nil_iff] at hnil
    exact hkeep (by simpa using hnil c hc)
  have hlen := h.longestPrefix.longest _ (List.rdropWhile_prefix delimit.contains str) (by
    intro x hx
    rw [List.getLast?_eq_some_getLast hne] at hx
    cases hx
    simpa using List.rdropWhile_last_not delimit.contains str hne)
  have hpos := List.length_pos_iff.mpr hne
  rw [trimRight_eq, List.length_dropLast] at hlen
  omega

/-- The three functions compose for the strings that consist of delimiters, and for no other. -/
theorem trim_composes_iff (str delimit : List UInt8) :
    Composes str delimit ↔ ∀ c ∈ str, c ∈ delimit := by
  constructor
  · intro h c hc
    by_contra hkeep
    exact not_composes_of_kept hc hkeep h
  · exact composes_of_forall_mem

/-- `TrimRight("a", " \t\r\n")` is empty and `Trim` keeps the letter. -/
theorem trimRight_letter :
    trimRight [97] blanks = [] ∧ trim [97] blanks = [97] ∧ ¬ Composes [97] blanks :=
  ⟨by decide, by decide, not_composes_of_kept (c := 97) (by decide) (by decide)⟩

end HrServer.Util.StringUtil
