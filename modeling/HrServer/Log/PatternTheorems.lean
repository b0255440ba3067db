/-
HrServer.Log.PatternTheorems — what the loops of `LogFormatter::init` find.

`initLoop_eq` replaces the loops over indices by `parse`, which reads the
pattern from the left: with more fuel than the pattern has characters the
loops end, and they have found what `parse` finds. `init_render` is the
round trip: a list of items, written down as a pattern, is what `init`
makes of the pattern.
-/
import HrServer.Log.Pattern
import Mathlib.Data.List.TakeWhile

namespace HrServer.Log

open Http (Bytes ascii cStr)
open Util (substr)

/-! ## The pattern from left to right -/

/-- The characters that the inner loop passes over before a format begins. -/
def inName (c : UInt8) : Bool := isalpha c || c = 125

/-- The name, the format and the rest of the text behind a percent sign, or `none` when a
format is not closed. -/
def conversion (text : Bytes) : Option (Bytes × Bytes × Bytes) :=
  let name := text.takeWhile inName
  match text.dropWhile inName with
  | [] => some (name, [], [])
  | c :: rest =>
    if c = 123 then
      if 125 ∈ rest then
        some (name, rest.takeWhile (· ≠ 125), (rest.dropWhile (· ≠ 125)).tail)
      else none
    else some (name, [], c :: rest)

theorem conversion_length {text name fmt rest : Bytes}
    (h : conversion text = some (name, fmt, rest)) : rest.length ≤ text.length := by
  have hdrop := (List.dropWhile_suffix inName (l := text)).length_le
  rw [conversion] at h
  split at h
  · simp at h
    simp [h.2.2]
  case h_2 c r hr =>
    have hfmt := (List.dropWhile_suffix (· ≠ 125) (l := r)).length_le
    rw [hr, List.length_cons] at hdrop
    split_ifs at h
    · simp only [Option.some.injEq, Prod.mk.injEq] at h
      rw [← h.2.2, List.length_tail]
      omega
    · simp only [Option.some.injEq, Prod.mk.injEq] at h
      rw [← h.2.2, List.length_cons]
      omega

/-- The entries for a text, with the plain text before it, and whether it has an error. -/
def parse (text nstr : Bytes) : List Entry × Bool :=
  match text with
  | [] => (flush nstr, false)
  | c :: rest =>
    if c ≠ 37 then parse rest (nstr ++ [c])
    else if rest.head? = some 37 then parse rest (nstr ++ [37])
    else
      match _h : conversion rest with
      | some (name, fmt, behind) =>
        let (vec, error) := parse behind []
        (flush nstr ++ (name, fmt, 1) :: vec, error)
      | none =>
        let (vec, _) := parse rest nstr
        ((ascii "<<pattern_error>>", [], 0) :: vec, true)
termination_by text.length
decreasing_by
  · simp
  · simp
  · have := conversion_length _h
    simp
    omega
  · simp

section equations

variable {c : UInt8} {rest nstr : Bytes}

@[simp] theorem parse_nil (nstr : Bytes) : parse [] nstr = (flush nstr, false) := by rw [parse]

theorem parse_plain (h : c ≠ 37) : parse (c :: rest) nstr = parse rest (nstr ++ [c]) := by
  rw [parse, if_pos h]

theorem parse_percent (h : rest.head? = some 37) :
    parse (37 :: rest) nstr = parse rest (nstr ++ [37]) := by
  rw [parse, if_neg (by simp), if_pos h]

theorem parse_conversion (nstr : Bytes) {name fmt behind : Bytes} (hne : rest.head? ≠ some 37)
    (h : conversion rest = some (name, fmt, behind)) :
    parse (37 :: rest) nstr
      = (flush nstr ++ (name, fmt, 1) :: (parse behind []).1, (parse behind []).2) := by
  rw [parse, if_neg (by simp), if_neg hne]
  split
  case h_1 h' => rw [h] at h'; cases h'; rfl
  case h_2 h' => rw [h] at h'; cases h'

theorem parse_unclosed (hne : rest.head? ≠ some 37) (h : conversion rest = none) :
    parse (37 :: rest) nstr
      = ((ascii "<<pattern_error>>", [], 0) :: (parse rest nstr).1, true) := by
  rw [parse, if_neg (by simp), if_neg hne]
  split
  case h_1 h' => rw [h] at h'; cases h'
  case h_2 => rfl

/-- Plain text goes to the text before it. -/
theorem parse_append {text : Bytes} (h : 37 ∉ text) (rest nstr : Bytes) :
    parse (text ++ rest) nstr = parse rest (nstr ++ text) := by
  induction text generalizing nstr with
  | nil => simp
  | cons c text ih =>
    rw [List.mem_cons, not_or] at h
    rw [List.cons_append, parse_plain (Ne.symm h.1), ih h.2]
    simp

theorem parse_of_plain {text : Bytes} (h : 37 ∉ text) (nstr : Bytes) :
    parse text nstr = (flush (nstr ++ text), false) := by
  rw [← List.append_nil text, parse_append h, parse_nil, List.append_nil]

end equations

/-! ## Conversions -/

section conversion

variable {name fmt rest : Bytes}

/-- The characters a name ends before: not those of a name, and no opening brace. -/
def EndsName (rest : Bytes) : Prop := ∀ c ∈ rest.head?, inName c = false ∧ c ≠ 123

theorem takeWhile_name (rest : Bytes) (hname : ∀ c ∈ name, inName c)
    (hrest : ∀ c ∈ rest.head?, inName c = false) :
    (name ++ rest).takeWhile inName = name ∧ (name ++ rest).dropWhile inName = rest := by
  rw [List.takeWhile_append_of_pos hname, List.dropWhile_append_of_pos hname]
  cases rest with
  | nil => simp
  | cons c rest => simp [hrest c rfl]

theorem conversion_plain (hname : ∀ c ∈ name, inName c) (hrest : EndsName rest) :
    conversion (name ++ rest) = some (name, [], rest) := by
  obtain ⟨htake, hdrop⟩ := takeWhile_name rest hname fun c hc => (hrest c hc).1
  rw [conversion, htake, hdrop]
  cases rest with
  | nil => rfl
  | cons c rest => simp [(hrest c rfl).2]

theorem conversion_format (rest : Bytes) (hname : ∀ c ∈ name, inName c) (hfmt : 125 ∉ fmt) :
    conversion (name ++ 123 :: (fmt ++ 125 :: rest)) = some (name, fmt, rest) := by
  obtain ⟨htake, hdrop⟩ := takeWhile_name (123 :: (fmt ++ 125 :: rest)) hname
    (by simp [inName, isalpha])
  have hne : ∀ c ∈ fmt, (decide (c ≠ 125)) = true := fun c hc => by
    simpa using fun h : c = 125 => hfmt (h ▸ hc)
  have hfmt' : (fmt ++ 125 :: rest).takeWhile (· ≠ 125) = fmt := by
    rw [List.takeWhile_append_of_pos hne]
    simp
  have hrest' : (fmt ++ 125 :: rest).dropWhile (· ≠ 125) = 125 :: rest := by
    rw [List.dropWhile_append_of_pos hne]
    simp
  rw [conversion, htake, hdrop]
  simp only [↓reduceIte, hfmt', hrest']
  simp

theorem conversion_unclosed (hname : ∀ c ∈ name, inName c) (hrest : 125 ∉ rest) :
    conversion (name ++ 123 :: rest) = none := by
  obtain ⟨htake, hdrop⟩ := takeWhile_name (123 :: rest) hname (by simp [inName, isalpha])
  rw [conversion, htake, hdrop]
  simp [hrest]

/-- A text behind a percent sign has one of three forms. -/
theorem conversion_forms (text : Bytes) : ∃ name, (∀ c ∈ name, inName c) ∧
    ((∃ rest, text = name ++ rest ∧ EndsName rest)
      ∨ (∃ fmt rest, text = name ++ 123 :: (fmt ++ 125 :: rest) ∧ 125 ∉ fmt)
      ∨ ∃ rest, text = name ++ 123 :: rest ∧ 125 ∉ rest) := by
  have htext : text = text.takeWhile inName ++ text.dropWhile inName := by simp
  refine ⟨text.takeWhile inName, fun c hc => List.mem_takeWhile_imp hc, ?_⟩
  cases hdrop : text.dropWhile inName with
  | nil => exact Or.inl ⟨[], by rw [← hdrop, ← htext], by simp [EndsName]⟩
  | cons c rest =>
    have hc : inName c = false := by
      have h := List.head_dropWhile_not inName (by simp [hdrop] : text.dropWhile inName ≠ [])
      simpa [hdrop] using h
    rw [hdrop] at htext
    by_cases hbrace : c = 123
    · subst hbrace
      by_cases hclose : 125 ∈ rest
      · obtain ⟨fmt, behind, rfl, hfmt⟩ := List.eq_append_cons_of_mem hclose
        exact Or.inr (Or.inl ⟨fmt, behind, htext, hfmt⟩)
      · exact Or.inr (Or.inr ⟨rest, htext, hclose⟩)
    · exact Or.inl ⟨c :: rest, htext, by simp [EndsName, hc, hbrace]⟩

end conversion

/-! ## The inner loop -/

section scan

variable {pattern name fmt : Bytes} {i fuel : Nat} {s : Scan}

/-- At the end of the pattern the loop is left. -/
theorem scanLoop_end (hn : s.n = pattern.length) (hf : 0 < fuel) :
    scanLoop pattern i fuel s = some s := by
  obtain ⟨fuel, rfl⟩ := Nat.exists_eq_add_of_lt hf
  simp [scanLoop, hn]

theorem scanLoop_turn (front : Bytes) (c : UInt8) (rest : Bytes)
    (hpat : pattern = front ++ c :: rest) (hn : s.n = front.length) :
    scanLoop pattern i (fuel + 1) s
      = if (scanTurn pattern i s c).2 then some (scanTurn pattern i s c).1
        else scanLoop pattern i fuel (scanTurn pattern i s c).1 := by
  have hc : pattern[s.n]? = some c := by simp [hpat, hn]
  simp only [scanLoop, hc]

/-- A turn inside a format, or inside a name and before the last character. -/
theorem scanTurn_pass {c : UInt8} (hlast : s.n + 1 ≠ pattern.length ∨ s.str ≠ [])
    (hpass : (s.fmtStatus = 0 ∧ inName c) ∨ (s.fmtStatus = 1 ∧ c ≠ 125)) :
    scanTurn pattern i s c = ({ s with n := s.n + 1 }, false) := by
  have hkeep : ¬ (s.n + 1 = pattern.length ∧ s.str = []) := by tauto
  obtain ⟨hst, hc⟩ | ⟨hst, hc⟩ := hpass
  · have hbrace : c ≠ 123 := fun h => by subst h; simp [inName, isalpha] at hc
    have hclose : isalpha c = false → c = 125 := fun h => by simpa [inName, h] using hc
    simp [scanTurn, hst, hbrace, hkeep]
    exact hclose
  · simp [scanTurn, hst, hc, hkeep]

/-- The loop inside a format that is closed. -/
theorem scanLoop_format (front rest : Bytes) (hfmt : 125 ∉ fmt)
    (hpat : pattern = front ++ (fmt ++ 125 :: rest))
    (hn : s.n = front.length) (hst : s.fmtStatus = 1) (hf : fmt.length < fuel) :
    scanLoop pattern i fuel s = some { s with
      n := s.n + fmt.length + 1
      fmtStatus := 0
      fmt := substr pattern (s.fmtBegin + 1) (s.n + fmt.length - s.fmtBegin - 1) } := by
  induction fmt generalizing front s fuel with
  | nil =>
    obtain ⟨fuel, rfl⟩ := Nat.exists_eq_add_of_lt hf
    rw [scanLoop_turn front _ _ hpat hn]
    simp [scanTurn, hst]
  | cons c fmt ih =>
    obtain ⟨fuel, rfl⟩ := Nat.exists_eq_add_of_lt (Nat.lt_of_le_of_lt (Nat.zero_le _) hf)
    rw [List.mem_cons, not_or] at hfmt
    have hlast : s.n + 1 ≠ pattern.length := by simp [hpat, hn]
    rw [Nat.zero_add, scanLoop_turn front _ _ hpat hn,
      scanTurn_pass (Or.inl hlast) (Or.inr ⟨hst, Ne.symm hfmt.1⟩)]
    simp only [Bool.false_eq_true, ↓reduceIte]
    rw [ih (s := { s with n := s.n + 1 }) (front ++ [c]) hfmt.2 (by simp [hpat]) (by simp [hn])
      hst (by simp at hf; omega)]
    simp [Nat.add_assoc, Nat.add_comm 1]

/-- The loop inside a format that is not closed. -/
theorem scanLoop_unclosed (front rest : Bytes) (hrest : 125 ∉ rest)
    (hpat : pattern = front ++ rest) (hn : s.n = front.length) (hst : s.fmtStatus = 1)
    (hf : rest.length < fuel) :
    ∃ s', scanLoop pattern i fuel s = some s' ∧ s'.fmtStatus = 1 ∧ s'.fmt = s.fmt := by
  induction rest generalizing front s fuel with
  | nil => exact ⟨s, scanLoop_end (by simp [hpat, hn]) (by omega), hst, rfl⟩
  | cons c rest ih =>
    obtain ⟨fuel, rfl⟩ := Nat.exists_eq_add_of_lt (Nat.lt_of_le_of_lt (Nat.zero_le _) hf)
    rw [List.mem_cons, not_or] at hrest
    have hturn : ∃ str, scanTurn pattern i s c = ({ s with n := s.n + 1, str := str }, false) := by
      by_cases hlast : s.n + 1 = pattern.length ∧ s.str = []
      · exact ⟨pattern.drop (i + 1), by simp [scanTurn, hst, Ne.symm hrest.1, hlast]⟩
      · exact ⟨s.str, scanTurn_pass (by tauto) (Or.inr ⟨hst, Ne.symm hrest.1⟩)⟩
    obtain ⟨str, hturn⟩ := hturn
    rw [Nat.zero_add, scanLoop_turn front _ _ hpat hn, hturn]
    exact ih (front ++ [c]) hrest.2 (by simp [hpat]) (by simp [hn]) hst (by simp at hf; omega)

/-- The loop inside a name that something follows. -/
theorem scanLoop_name (front rest : Bytes) (hname : ∀ c ∈ name, inName c)
    (hpat : pattern = front ++ (name ++ rest)) (hrest : rest ≠ []) (hn : s.n = front.length)
    (hst : s.fmtStatus = 0) :
    scanLoop pattern i (name.length + fuel) s
      = scanLoop pattern i fuel { s with n := s.n + name.length } := by
  induction name generalizing front s with
  | nil => simp
  | cons c name ih =>
    rw [List.forall_mem_cons] at hname
    have hlast : s.n + 1 ≠ pattern.length := by
      have hpos := List.length_pos_of_ne_nil hrest
      rw [hpat, hn, List.length_append, List.length_append, List.length_cons]
      omega
    rw [List.length_cons, Nat.add_right_comm, scanLoop_turn front _ _ hpat hn,
      scanTurn_pass (Or.inl hlast) (Or.inl ⟨hst, hname.1⟩)]
    simp only [Bool.false_eq_true, ↓reduceIte]
    rw [ih (s := { s with n := s.n + 1 }) (front ++ [c]) hname.2 (by simp [hpat]) (by simp [hn])
      hst]
    simp [Nat.add_assoc, Nat.add_comm 1]

/-- The loop inside a name that ends the pattern. -/
theorem scanLoop_name_end (front : Bytes) (hname : ∀ c ∈ name, inName c)
    (hpat : pattern = front ++ name) (hne : name ≠ []) (hn : s.n = front.length)
    (hst : s.fmtStatus = 0) (hstr : s.str = []) (hf : name.length < fuel) :
    scanLoop pattern i fuel s
      = some { s with n := pattern.length, str := pattern.drop (i + 1) } := by
  obtain ⟨init, c, rfl⟩ := (List.eq_nil_or_concat' name).resolve_left hne
  simp only [List.mem_append, List.mem_singleton] at hname
  simp only [List.length_append, List.length_singleton] at hf
  obtain ⟨fuel, rfl⟩ := Nat.exists_eq_add_of_le (show init.length + 2 ≤ fuel by omega)
  have hturn : scanTurn pattern i { s with n := s.n + init.length } c
      = ({ s with n := pattern.length, str := pattern.drop (i + 1) }, false) := by
    have hc : inName c := hname c (Or.inr rfl)
    have hbrace : c ≠ 123 := fun h => by subst h; simp [inName, isalpha] at hc
    have hclose : ¬ (isalpha c = false ∧ c ≠ 125) := fun h => by simp [inName, h] at hc
    have hlast : s.n + init.length + 1 = pattern.length := by simp [hpat, hn]; omega
    simp [scanTurn, hst, hbrace, hclose, hlast, hstr]
  rw [Nat.add_assoc, scanLoop_name front [c] (fun c hc => hname c (Or.inl hc)) hpat (by simp) hn
      hst, Nat.add_comm 2,
    scanLoop_turn (front ++ init) c [] (by simp [hpat]) (by simp [hn]), hturn]
  simp only [Bool.false_eq_true, ↓reduceIte]
  exact scanLoop_end rfl (by omega)

/-- The loop up to the character behind a name. -/
theorem scanLoop_behind_name {before : Bytes} {c : UInt8} {rest : Bytes}
    (hname : ∀ c ∈ name, inName c) (hpat : pattern = before ++ 37 :: (name ++ c :: rest)) :
    scanLoop pattern before.length (name.length + (fuel + 1)) { n := before.length + 1 }
      = let turn := scanTurn pattern before.length { n := before.length + 1 + name.length } c
        if turn.2 then some turn.1 else scanLoop pattern before.length fuel turn.1 := by
  rw [scanLoop_name (before ++ [37]) (c :: rest) hname (by simp [hpat]) (by simp) (by simp) rfl,
    scanLoop_turn (before ++ 37 :: name) c rest (by simp [hpat]) (by simp; omega)]

/-- The text of a name in the pattern. -/
theorem substr_name (before rest : Bytes) :
    substr (before ++ 37 :: (name ++ rest)) (before.length + 1)
      (before.length + 1 + name.length - before.length - 1) = name := by
  have hlen : before.length + 1 + name.length - before.length - 1 = name.length := by omega
  have h := Util.substr_append (before ++ [37]) name rest
  simpa [hlen] using h

/-- Up to the opening brace of a format. -/
theorem scanLoop_brace {before rest : Bytes} (hname : ∀ c ∈ name, inName c)
    (hpat : pattern = before ++ 37 :: (name ++ 123 :: rest)) :
    scanLoop pattern before.length (name.length + (fuel + 1)) { n := before.length + 1 }
      = scanLoop pattern before.length fuel
          { n := before.length + 1 + name.length + 1, fmtStatus := 1
            fmtBegin := before.length + 1 + name.length, str := name } := by
  have hstr : substr pattern (before.length + 1)
      (before.length + 1 + name.length - before.length - 1) = name := by
    rw [hpat, substr_name]
  rw [scanLoop_behind_name hname hpat]
  simp [scanTurn, isalpha, hstr]

/-- What the inner loop has found, by what there is to find. -/
def Found (pattern : Bytes) (i : Nat) (s : Scan) : Option (Bytes × Bytes × Bytes) → Prop
  | some (name, fmt, rest) => s.fmtStatus = 0 ∧ s.str = name ∧ s.fmt = fmt ∧ i < s.n
      ∧ ∃ front, pattern = front ++ rest ∧ s.n = front.length
  | none => s.fmtStatus = 1 ∧ s.fmt = []

/-- The inner loop finds the conversion behind the percent sign. -/
theorem scanLoop_eq (before text : Bytes) (hf : text.length < fuel) :
    ∃ s, scanLoop (before ++ 37 :: text) before.length fuel { n := before.length + 1 } = some s
      ∧ Found (before ++ 37 :: text) before.length s (conversion text) := by
  obtain ⟨name, hname, ⟨rest, rfl, hend⟩ | ⟨fmt, rest, rfl, hfmt⟩ | ⟨rest, rfl, hrest⟩⟩ :=
    conversion_forms text
  · rw [conversion_plain hname hend]
    cases rest with
    | nil =>
      by_cases hempty : name = []
      · -- the percent sign ends the pattern
        subst hempty
        exact ⟨_, scanLoop_end (by simp) (by omega), rfl, rfl, rfl, by simp, before ++ [37],
          by simp, by simp⟩
      · -- the name ends the pattern
        refine ⟨_, scanLoop_name_end (before ++ [37]) hname (by simp) hempty (by simp) rfl rfl
          (by simpa using hf), rfl, by simp, rfl, by simp, before ++ 37 :: name, by simp, by simp⟩
    | cons c rest =>
      -- the name ends before another character
      have hc : (isalpha c = false ∧ c ≠ 125) ∧ c ≠ 123 := by
        simpa [EndsName, inName] using hend
      obtain ⟨fuel, rfl⟩ := Nat.exists_eq_add_of_le (show name.length + 1 ≤ fuel by
        simp at hf; omega)
      have hturn : scanTurn (before ++ 37 :: (name ++ c :: rest)) before.length
          { n := before.length + 1 + name.length } c
          = ({ n := before.length + 1 + name.length, str := name }, true) := by
        simp [scanTurn, hc, substr_name]
      rw [Nat.add_assoc, Nat.add_comm 1, scanLoop_behind_name hname rfl, hturn]
      refine ⟨_, rfl, rfl, rfl, rfl, by simp; omega, before ++ 37 :: name, by simp, ?_⟩
      simp
      omega
  · rw [conversion_format rest hname hfmt]
    obtain ⟨fuel, rfl⟩ := Nat.exists_eq_add_of_le (show name.length + fmt.length + 2 ≤ fuel by
      simp at hf; omega)
    rw [show name.length + fmt.length + 2 + fuel = name.length + (fmt.length + 1 + fuel + 1) by
        omega,
      scanLoop_brace hname rfl,
      scanLoop_format (before ++ 37 :: (name ++ [123])) rest hfmt (by simp) (by simp; omega) rfl
        (by omega)]
    have hfmt' : substr (before ++ 37 :: (name ++ 123 :: (fmt ++ 125 :: rest)))
        (before.length + 1 + name.length + 1) fmt.length = fmt := by
      have h := Util.substr_append (before ++ 37 :: (name ++ [123])) fmt (125 :: rest)
      simpa [Nat.add_assoc, Nat.add_comm 1] using h
    have hlen : before.length + 1 + name.length + 1 + fmt.length
        - (before.length + 1 + name.length) - 1 = fmt.length := by omega
    refine ⟨_, rfl, rfl, rfl, ?_, by simp; omega,
      before ++ 37 :: (name ++ 123 :: (fmt ++ [125])), by simp, ?_⟩
    · simp only [hlen, hfmt']
    · simp
      omega
  · rw [conversion_unclosed hname hrest]
    obtain ⟨fuel, rfl⟩ := Nat.exists_eq_add_of_le (show name.length + 1 ≤ fuel by
      simp at hf; omega)
    rw [Nat.add_assoc, Nat.add_comm 1, scanLoop_brace hname rfl]
    exact scanLoop_unclosed (before ++ 37 :: (name ++ [123])) rest hrest (by simp)
      (by simp; omega) rfl (by simp at hf; omega)

end scan

/-! ## The outer loop -/

/-- One turn at a conversion, for what the inner loop has found. -/
theorem push_found {pattern : Bytes} {p : Parse} {s : Scan} {name fmt rest : Bytes}
    (h : Found pattern p.i s (some (name, fmt, rest))) :
    ∃ front, pattern = front ++ rest ∧ (p.push s).i + 1 = front.length
      ∧ (p.push s).nstr = [] ∧ (p.push s).error = p.error
      ∧ (p.push s).vec = p.vec ++ flush p.nstr ++ [(name, fmt, 1)] := by
  obtain ⟨hst, rfl, rfl, hlt, front, hpat, hn⟩ := h
  refine ⟨front, hpat, ?_, by simp [Parse.push, hst], by simp [Parse.push, hst],
    by simp [Parse.push, hst]⟩
  simp [Parse.push, hst]
  omega

/-- The outer loop ends, and has found what `parse` finds. -/
theorem initLoop_eq (before text : Bytes) (p : Parse) (hi : p.i = before.length) {fuel : Nat}
    (hf : text.length < fuel) :
    ∃ q, initLoop (before ++ text) fuel p = some q
      ∧ q.vec ++ flush q.nstr = p.vec ++ (parse text p.nstr).1
      ∧ q.error = (p.error || (parse text p.nstr).2) := by
  induction fuel generalizing before text p with
  | zero => omega
  | succ fuel ih =>
    cases text with
    | nil => exact ⟨p, by simp [initLoop, hi], by simp, by simp⟩
    | cons c text =>
      have hc : (before ++ c :: text)[p.i]? = some c := by simp [hi]
      have hnext : (before ++ c :: text)[p.i + 1]? = text.head? := by
        rw [List.getElem?_append_right (by omega), hi, Nat.add_sub_cancel_left]
        simp [List.head?_eq_getElem?]
      have hlen : text.length < fuel := by simpa using hf
      -- how the loop goes on with the next character
      have hstep : ∀ p' : Parse, p'.i = p.i + 1 → ∃ q,
          initLoop (before ++ c :: text) fuel p' = some q
            ∧ q.vec ++ flush q.nstr = p'.vec ++ (parse text p'.nstr).1
            ∧ q.error = (p'.error || (parse text p'.nstr).2) := fun p' hp' => by
        have h := ih (before ++ [c]) text p' (by simp [hp', hi]) hlen
        rwa [List.append_assoc, List.singleton_append] at h
      rw [initLoop, hc]
      simp only [hnext]
      by_cases hplain : c ≠ 37
      · rw [if_pos hplain, parse_plain hplain]
        exact hstep { p with nstr := p.nstr ++ [c], i := p.i + 1 } rfl
      · rw [if_neg hplain]
        obtain rfl : c = 37 := not_not.mp hplain
        by_cases hpercent : text.head? = some 37
        · rw [if_pos hpercent, parse_percent hpercent]
          exact hstep { p with nstr := p.nstr ++ [37], i := p.i + 1 } rfl
        · rw [if_neg hpercent]
          obtain ⟨s, hs, hfound⟩ := scanLoop_eq before text (show text.length < fuel + 1 by omega)
          rw [hi, hs]
          cases hconv : conversion text with
          | some r =>
            obtain ⟨name, fmt, rest⟩ := r
            rw [hconv, ← hi] at hfound
            obtain ⟨front, hpat, hfront, hnstr, herror, hvec⟩ := push_found hfound
            have hrest := conversion_length hconv
            obtain ⟨q, hq, hqvec, hqerror⟩ := ih front rest
              { p.push s with i := (p.push s).i + 1 } hfront (by omega)
            rw [parse_conversion _ hpercent hconv]
            refine ⟨q, by rw [hpat]; exact hq, ?_, ?_⟩
            · rw [hqvec]
              simp [hnstr, hvec]
            · rw [hqerror]
              simp [hnstr, herror]
          | none =>
            rw [hconv] at hfound
            obtain ⟨hst, hfmt⟩ := hfound
            obtain ⟨q, hq, hqvec, hqerror⟩ := hstep { p.push s with i := (p.push s).i + 1 }
              (by simp [Parse.push, hst])
            rw [parse_unclosed hpercent hconv]
            refine ⟨q, hq, ?_, ?_⟩
            · rw [hqvec]
              simp [Parse.push, hst, hfmt]
            · rw [hqerror]
              simp [Parse.push, hst]

/-- With more fuel than characters `init` ends. -/
theorem init_eq (pattern : Bytes) {fuel : Nat} (hf : pattern.length < fuel) :
    LogFormatter.init pattern fuel
      = some (makeFormatter pattern (parse pattern []).1 (parse pattern []).2) := by
  obtain ⟨q, hq, hvec, herror⟩ := initLoop_eq [] pattern {} rfl hf
  rw [List.nil_append] at hq
  rw [LogFormatter.init, hq, Option.map_some, hvec, herror]
  simp

/-! ## Lists of items as patterns -/

/-- The conversion letters. -/
inductive Letter where
  | m | p | r | c | t | n | d | f | l | T | F | N
  deriving DecidableEq

namespace Letter

def char : Letter → UInt8
  | m => 109
  | p => 112
  | r => 114
  | c => 99
  | t => 116
  | n => 110
  | d => 100
  | f => 102
  | l => 108
  | T => 84
  | F => 70
  | N => 78

/-- The item of a letter, with its format. -/
def item (fmt : Bytes) : Letter → FormatItem
  | m => .message
  | p => .level
  | r => .elapse
  | c => .name
  | t => .threadId
  | n => .newLine
  | d => .newDateTime fmt
  | f => .filename
  | l => .line
  | T => .tab
  | F => .fiberId
  | N => .threadName

theorem inName_char (x : Letter) : inName x.char := by cases x <;> rfl

theorem char_ne_percent (x : Letter) : x.char ≠ 37 := by cases x <;> decide

end Letter

/-- An item of a pattern as it is written: plain text, or a letter with or without a format. -/
inductive Token where
  | literal (text : Bytes)
  | conversion (letter : Letter) (fmt : Option Bytes)

namespace Token

def text : Token → Bytes
  | literal text => text
  | conversion letter none => [37, letter.char]
  | conversion letter (some fmt) => 37 :: letter.char :: 123 :: (fmt ++ [125])

def item : Token → FormatItem
  | literal text => .string text
  | conversion letter fmt => letter.item (fmt.getD [])

/-- The entry that `init` makes. -/
def entry : Token → Entry
  | literal text => (text, [], 0)
  | conversion letter fmt => ([letter.char], fmt.getD [], 1)

def Valid : Token → Prop
  | literal text => text ≠ [] ∧ 37 ∉ text
  | conversion _ fmt => ∀ f ∈ fmt, 125 ∉ f

/-- The second token may stand right behind the first. -/
def Adjacent : Token → Token → Prop
  | literal _, literal _ => False
  | conversion _ none, literal text =>
    ∀ c ∈ text.head?, isalpha c = false ∧ c ≠ 123 ∧ c ≠ 125
  | _, _ => True

theorem makeItem_entry (t : Token) : makeItem t.entry = (t.item, false) := by
  cases t with
  | literal text => rfl
  | conversion letter fmt => cases letter <;> rfl

end Token

/-- The pattern of a list of tokens. -/
def render (ts : List Token) : Bytes := ts.flatMap Token.text

/-- Every token is valid and may stand where it does. -/
structure WellFormed (ts : List Token) : Prop where
  valid : ∀ t ∈ ts, t.Valid
  adjacent : ts.IsChain Token.Adjacent

section render

variable {t : Token} {ts : List Token}

@[simp] theorem render_cons (t : Token) (ts : List Token) :
    render (t :: ts) = t.text ++ render ts := rfl

theorem WellFormed.tail (h : WellFormed (t :: ts)) : WellFormed ts :=
  ⟨fun u hu => h.valid u (List.mem_cons_of_mem t hu), h.adjacent.tail⟩

/-- What is behind a conversion without a format ends its name. -/
theorem endsName_render {letter : Letter} (h : WellFormed (.conversion letter none :: ts)) :
    EndsName (render ts) := by
  cases ts with
  | nil => simp [EndsName, render]
  | cons u ts =>
    cases u with
    | conversion x fmt => cases fmt <;> simp [EndsName, Token.text, inName, isalpha]
    | literal text =>
      have hadj := (List.isChain_cons_cons.mp h.adjacent).1
      have hvalid := h.valid (.literal text) (by simp)
      cases text with
      | nil => exact absurd rfl hvalid.1
      | cons c text =>
        have hc := hadj c rfl
        simp [EndsName, Token.text, inName, hc]

/-- The pattern of a list of tokens is parsed to their entries. Plain text before it is an
entry of its own unless a literal comes first. -/
theorem parse_render (h : WellFormed ts) {nstr : Bytes}
    (hn : nstr = [] ∨ ∀ text, ts.head? ≠ some (.literal text)) :
    parse (render ts) nstr = (flush nstr ++ ts.map Token.entry, false) := by
  induction ts generalizing nstr with
  | nil => simp [render]
  | cons t ts ih =>
    rw [render_cons]
    cases t with
    | literal text =>
      obtain ⟨hne, hpercent⟩ := h.valid (.literal text) (by simp)
      have hnstr : nstr = [] := hn.resolve_right fun h => h text rfl
      have hnext : ∀ text', ts.head? ≠ some (.literal text') := fun text' hhead => by
        cases ts with
        | nil => cases hhead
        | cons u ts =>
          cases hhead
          exact (List.isChain_cons_cons.mp h.adjacent).1
      rw [Token.text, parse_append hpercent, ih h.tail (Or.inr hnext)]
      simp [hnstr, flush, hne, Token.entry]
    | conversion letter fmt =>
      have hname : ∀ c ∈ [letter.char], inName c := by simp [letter.inName_char]
      have hpercent : ∀ rest, (letter.char :: rest).head? ≠ some 37 := by
        simp [letter.char_ne_percent]
      cases fmt with
      | none =>
        have hconv := conversion_plain hname (endsName_render h)
        have hparse := parse_conversion nstr (hpercent _) hconv
        rw [ih h.tail (Or.inl rfl)] at hparse
        exact hparse
      | some fmt =>
        have hfmt : 125 ∉ fmt := h.valid (.conversion letter (some fmt)) (by simp) fmt rfl
        have hconv := conversion_format (render ts) hname hfmt
        have hparse := parse_conversion nstr (hpercent _) hconv
        rw [ih h.tail (Or.inl rfl)] at hparse
        simpa [Token.text, Token.entry, flush] using hparse

end render

/-- A list of items comes back from its pattern, and `init` ends on every pattern. -/
theorem init_render :
    (∀ ts : List Token, WellFormed ts → ∀ fuel, (render ts).length < fuel →
      LogFormatter.init (render ts) fuel
        = some { pattern := render ts, items := ts.map Token.item, error := false })
    ∧ ∀ pattern : Bytes, ∃ f, ∀ fuel, pattern.length < fuel →
      LogFormatter.init pattern fuel = some f := by
  refine ⟨fun ts h fuel hf => ?_, fun pattern => ⟨_, fun fuel hf => init_eq pattern hf⟩⟩
  rw [init_eq _ hf, parse_render h (Or.inl rfl)]
  simp [makeFormatter, flush, Function.comp_def, Token.makeItem_entry]

/-- `%d{%H:%M}%T[%p] %m%n` -/
def sampleTokens : List Token :=
  [.conversion .d (some (ascii "%H:%M")), .conversion .T none, .literal (ascii "["),
   .conversion .p none, .literal (ascii "] "), .conversion .m none, .conversion .n none]

theorem wellFormed_sample : WellFormed sampleTokens :=
  ⟨by simp [sampleTokens, Token.Valid, ascii],
    by simp [sampleTokens, Token.Adjacent, ascii, isalpha]⟩

theorem init_render_sample :
    LogFormatter.init (render sampleTokens) 22
      = some { pattern := render sampleTokens, items := sampleTokens.map Token.item
               error := false } :=
  init_render.1 sampleTokens wellFormed_sample 22 (by decide)

end HrServer.Log
