/-
HrServer.Util.Replace — the two `replace` of `sylar/util/hash_util.cc` that
put a string for a character or for a string.

The loop rewrites the string that it searches; the next search starts
behind the inserted text, so the part of the string from there on gets
shorter by the length of `find` at least (`replaceLoop_returns`). An empty
`find` takes nothing away and is found again at every start
(`replaceLoop_empty`).

The loop takes a fuel, which a call that returns does not use up.
-/
import HrServer.Lib.Search
import HrServer.Http.Request
import HrServer.Util.StringUtil

namespace HrServer.Util

open Lib Http

namespace Replace

/-! ## The functions -/

/-- `str.find(find, pos)` for a string `find`. -/
def findStr (find str : Bytes) (pos : Nat) : Option Nat :=
  if pos ≤ str.length then (Search.indexOf find (str.drop pos)).map (· + pos) else none

/-- The loop at `index`; `search` is `str.find(find, pos)` and `size` the size of `find`. -/
def replaceLoop (search : Bytes → Nat → Option Nat) (size : Nat) (replaceWith : Bytes) :
    Nat → Bytes → Option Nat → Option Bytes
  | _, str, none => some str
  | 0, _, some _ => none
  | fuel + 1, str, some index =>
    let str' := str.take index ++ replaceWith ++ str.drop (index + size)
    replaceLoop search size replaceWith fuel str' (search str' (index + replaceWith.length))

/-- `replace(str1, find, replaceWith)` for a string `find`. -/
def replaceStr (fuel : Nat) (str1 find replaceWith : Bytes) : Option Bytes :=
  replaceLoop (findStr find) find.length replaceWith fuel str1 (findStr find str1 0)

/-- `replace(str1, find, replaceWith)` for a character `find`. -/
def replaceChar (fuel : Nat) (str1 : Bytes) (find : UInt8) (replaceWith : Bytes) : Option Bytes :=
  replaceLoop (findFrom · find) 1 replaceWith fuel str1 (findFrom str1 find 0)

/-! ## The search -/

theorem findStr_append (find before text : Bytes) :
    findStr find (before ++ text) before.length
      = (Search.indexOf find text).map (· + before.length) := by
  simp [findStr]

/-- Searching for a character is searching for the string of that character. -/
theorem findFrom_eq_findStr (str : Bytes) (c : UInt8) (pos : Nat) :
    findFrom str c pos = findStr [c] str pos := by
  have hidx (text : Bytes) : text.idxOf? c = Search.indexOf [c] text := by
    induction text with
    | nil => simp [Search.indexOf]
    | cons a text ih =>
      rw [List.idxOf?_cons, Search.indexOf, ih]
      by_cases hc : a = c
      · simp [hc]
      · simp [hc, Ne.symm hc]
  rw [findFrom, findStr, hidx]
  split
  · rfl
  · next hpos => rw [List.drop_eq_nil_of_le (by omega)]; rfl

theorem replaceChar_eq (fuel : Nat) (str1 : Bytes) (c : UInt8) (replaceWith : Bytes) :
    replaceChar fuel str1 c replaceWith = replaceStr fuel str1 [c] replaceWith := by
  have hsearch : (findFrom · c) = findStr [c] := by
    funext str pos
    exact findFrom_eq_findStr str c pos
  rw [replaceChar, replaceStr, hsearch, findFrom_eq_findStr]
  rfl

/-! ## The loop -/

section

variable {find : Bytes} (replaceWith : Bytes)

@[simp] theorem replaceLoop_none (search : Bytes → Nat → Option Nat) (size fuel : Nat)
    (str : Bytes) : replaceLoop search size replaceWith fuel str none = some str := by
  cases fuel <;> rfl

/-- More fuel does not change what the loop returns. -/
theorem replaceLoop_mono {search : Bytes → Nat → Option Nat} {size fuel more : Nat}
    {str out : Bytes} {index : Option Nat}
    (h : replaceLoop search size replaceWith fuel str index = some out) (hle : fuel ≤ more) :
    replaceLoop search size replaceWith more str index = some out := by
  induction fuel generalizing more str index with
  | zero =>
    cases index with
    | none => simpa using h
    | some index => cases h
  | succ fuel ih =>
    cases index with
    | none => simpa using h
    | some index =>
      obtain ⟨n, rfl⟩ : ∃ n, more = n + 1 := ⟨more - 1, by omega⟩
      rw [replaceLoop] at h ⊢
      exact ih h (by omega)

/-- The text behind `done` is replaced, in at most one turn for each of its characters. -/
theorem replaceLoop_returns (hfind : find ≠ []) (done text : Bytes) :
    ∃ out, Search.Replaced find replaceWith text out ∧
      replaceLoop (findStr find) find.length replaceWith text.length (done ++ text)
        (findStr find (done ++ text) done.length) = some (done ++ out) := by
  induction hn : text.length using Nat.strong_induction_on generalizing done text with
  | _ n ih =>
    rw [findStr_append]
    cases hidx : Search.indexOf find text with
    | none => exact ⟨text, .none (Search.indexOf_none hidx), by simp⟩
    | some i =>
      obtain ⟨before, rest, rfl, rfl, hfirst⟩ := Search.indexOf_some hidx
      have hpos := List.length_pos_iff.mpr hfind
      rw [List.length_append, List.length_append] at hn
      obtain ⟨out, hout, hloop⟩ :=
        ih rest.length (by omega) (done ++ before ++ replaceWith) rest rfl
      refine ⟨before ++ (replaceWith ++ out), .next hfirst hout, ?_⟩
      obtain ⟨m, rfl⟩ : ∃ m, n = m + 1 := ⟨n - 1, by omega⟩
      have hlen : before.length + done.length = (done ++ before).length := by
        rw [List.length_append, Nat.add_comm]
      have hstr : done ++ (before ++ (find ++ rest)) = (done ++ before) ++ (find ++ rest) := by
        rw [List.append_assoc]
      have htake : (done ++ (before ++ (find ++ rest))).take (done ++ before).length
          = done ++ before := by
        rw [hstr, List.take_left]
      have hdrop : (done ++ (before ++ (find ++ rest))).drop ((done ++ before).length + find.length)
          = rest := by
        rw [hstr, ← List.drop_drop, List.drop_left, List.drop_left]
      have hnext : (done ++ before).length + replaceWith.length
          = (done ++ before ++ replaceWith).length := by
        exact List.length_append.symm
      rw [Option.map_some, hlen, replaceLoop, htake, hdrop, hnext,
        replaceLoop_mono replaceWith hloop (by omega)]
      simp only [List.append_assoc]

/-- An empty string is found behind the inserted text, over and over. -/
theorem replaceLoop_empty (fuel : Nat) {str : Bytes} {index : Nat} (hindex : index ≤ str.length) :
    replaceLoop (findStr []) 0 replaceWith fuel str (some index) = none := by
  induction fuel generalizing str index with
  | zero => rfl
  | succ fuel ih =>
    have hle : index + replaceWith.length
        ≤ (str.take index ++ replaceWith ++ str.drop (index + 0)).length := by
      rw [List.length_append, List.length_append, List.length_take]
      omega
    have hfound : findStr [] (str.take index ++ replaceWith ++ str.drop (index + 0))
        (index + replaceWith.length) = some (index + replaceWith.length) := by
      rw [findStr, if_pos hle, Search.indexOf_eq_zero List.nil_prefix, Option.map_some,
        Nat.zero_add]
    rw [replaceLoop, hfound]
    exact ih hle

end

/-! ## What a replacement owes -/

/-- The call returns `out`. -/
def Returns (str1 find replaceWith out : Bytes) : Prop :=
  ∃ fuel, replaceStr fuel str1 find replaceWith = some out

theorem Returns.unique {str1 find replaceWith out out' : Bytes}
    (h : Returns str1 find replaceWith out) (h' : Returns str1 find replaceWith out') :
    out = out' := by
  obtain ⟨fuel, hfuel⟩ := h
  obtain ⟨fuel', hfuel'⟩ := h'
  have hmax := replaceLoop_mono replaceWith hfuel (Nat.le_max_left fuel fuel')
  have hmax' := replaceLoop_mono replaceWith hfuel' (Nat.le_max_right fuel fuel')
  exact Option.some.inj (hmax.symm.trans hmax')

/-- The call returns, and for a `find` with a character it returns the replacement from the
left. -/
def ReplacesRight (str1 find replaceWith : Bytes) : Prop :=
  ∃ out, Returns str1 find replaceWith out ∧
    (find ≠ [] → ∀ out', Search.Replaced find replaceWith str1 out' ↔ out' = out)

theorem replacesRight_of_ne {find : Bytes} (hfind : find ≠ []) (str1 replaceWith : Bytes) :
    ReplacesRight str1 find replaceWith := by
  obtain ⟨out, hout, hloop⟩ := replaceLoop_returns replaceWith hfind [] str1
  refine ⟨out, ⟨str1.length, hloop⟩, fun _ out' => ⟨fun h => h.unique hout, ?_⟩⟩
  intro e
  exact e ▸ hout

theorem not_returns_empty (str1 replaceWith out : Bytes) : ¬ Returns str1 [] replaceWith out := by
  intro ⟨fuel, h⟩
  have hfound : findStr [] str1 0 = some 0 := by
    simp [findStr, Search.indexOf_eq_zero List.nil_prefix]
  rw [replaceStr, hfound] at h
  cases h.symm.trans (replaceLoop_empty replaceWith fuel (Nat.zero_le str1.length))

/-- The overload with a string is right for every `find` but the empty one, on which it does
not return; the overload with a character is right. -/
theorem replace_right_iff (str1 find replaceWith : Bytes) :
    (ReplacesRight str1 find replaceWith ↔ find ≠ []) ∧
      ∀ c, ∃ out, (∃ fuel, replaceChar fuel str1 c replaceWith = some out) ∧
        ∀ out', Search.Replaced [c] replaceWith str1 out' ↔ out' = out := by
  refine ⟨⟨?_, fun h => replacesRight_of_ne h str1 replaceWith⟩, ?_⟩
  · rintro ⟨out, h, -⟩ rfl
    exact not_returns_empty str1 replaceWith out h
  · intro c
    obtain ⟨out, h, hspec⟩ := replacesRight_of_ne (List.cons_ne_nil c []) str1 replaceWith
    simp only [replaceChar_eq]
    exact ⟨out, h, hspec (List.cons_ne_nil c [])⟩

/-- `replace("a", "", "b")` does not return. -/
theorem replace_empty_find : ¬ ReplacesRight [97] [] [98] := by
  intro ⟨out, h, _⟩
  exact not_returns_empty [97] [98] out h

end Replace

end HrServer.Util
