/-
HrServer.Log.Percent — a doubled percent sign in a pattern.

`init` appends one percent sign for `%%` and goes on at the second one,
which it takes for the start of a conversion or of another pair. So the
escape never works: `formats_doubled_iff` says that a text is printed
back from its escaped form exactly when it has no percent sign at all.

When the escaped text has no error, the last conversion that `init` finds
in it shows the difference: the character before the plain text behind it
is the letter or the closing brace in the text, and never in the output
for an event whose strings are empty.
-/
import HrServer.Http.Query
import HrServer.Log.PatternTheorems

namespace HrServer.Log

open Http (Bytes ascii cStr)

/-- The formatter of the pattern has no error and prints `text` for every event. -/
def Formats (strftime : Strftime) (pattern text : Bytes) : Prop :=
  ∃ f, (∀ fuel, pattern.length < fuel → LogFormatter.init pattern fuel = some f)
    ∧ f.error = false
    ∧ ∀ level event, f.format strftime level event = some text

/-! ## Conversions in an escaped text -/

theorem doubled_append (a b : Bytes) : doubled (a ++ b) = doubled a ++ doubled b := by
  simp [doubled]

theorem doubled_eq_self {text : Bytes} (h : 37 ∉ text) : doubled text = text := by
  induction text with
  | nil => rfl
  | cons c text ih =>
    rw [List.mem_cons, not_or] at h
    rw [doubled_cons, if_neg (Ne.symm h.1), ih h.2, List.singleton_append]

theorem head?_doubled (text : Bytes) : (doubled text).head? = text.head? := by
  cases text with
  | nil => rfl
  | cons c text =>
    rw [doubled_cons]
    split_ifs with h <;> simp [h]

theorem mem_doubled {c : UInt8} {text : Bytes} : c ∈ doubled text ↔ c ∈ text := by
  induction text with
  | nil => rfl
  | cons d text ih =>
    rw [doubled_cons]
    split_ifs with h <;> simp [h, ih]

/-- What is found behind a percent sign is the escaped form of what stands in the text. -/
theorem conversion_doubled (text : Bytes) : conversion (doubled text) = none
    ∨ ∃ name fmt rest, conversion (doubled text) = some (name, doubled fmt, doubled rest)
      ∧ 125 ∉ fmt
      ∧ (text = name ++ rest ∧ fmt = [] ∨ text = name ++ 123 :: (fmt ++ 125 :: rest)) := by
  obtain ⟨name, hname, hforms⟩ := conversion_forms text
  have hplain : doubled name = name :=
    doubled_eq_self fun h => by simpa [inName, isalpha] using hname 37 h
  obtain ⟨rest, rfl, hend⟩ | ⟨fmt, rest, rfl, hfmt⟩ | ⟨rest, rfl, hrest⟩ := hforms
  · have hend' : EndsName (doubled rest) := by rwa [EndsName, head?_doubled]
    refine Or.inr ⟨name, [], rest, ?_, by simp, Or.inl ⟨rfl, rfl⟩⟩
    rw [doubled_append, hplain, conversion_plain hname hend']
    rfl
  · refine Or.inr ⟨name, fmt, rest, ?_, hfmt, Or.inr rfl⟩
    have h := conversion_format (doubled rest) hname (mem_doubled.not.mpr hfmt)
    simpa [doubled_append, doubled_cons, hplain] using h
  · refine Or.inl ?_
    have h := conversion_unclosed hname (mem_doubled.not.mpr hrest)
    simpa [doubled_append, doubled_cons, hplain] using h

/-- A conversion that sets no error is one of the letters. -/
theorem makeItem_letter {name fmt : Bytes} (h : (makeItem (name, fmt, 1)).2 = false) :
    ∃ letter : Letter, name = [letter.char] ∧ (makeItem (name, fmt, 1)).1 = letter.item fmt := by
  have hitem : ∀ entry ∈ formatItems,
      ∃ letter : Letter, entry.1 = [letter.char] ∧ entry.2 fmt = letter.item fmt := by
    simp only [formatItems, List.forall_mem_cons]
    exact ⟨⟨.m, rfl, rfl⟩, ⟨.p, rfl, rfl⟩, ⟨.r, rfl, rfl⟩, ⟨.c, rfl, rfl⟩, ⟨.t, rfl, rfl⟩,
      ⟨.n, rfl, rfl⟩, ⟨.d, rfl, rfl⟩, ⟨.f, rfl, rfl⟩, ⟨.l, rfl, rfl⟩, ⟨.T, rfl, rfl⟩,
      ⟨.F, rfl, rfl⟩, ⟨.N, rfl, rfl⟩, by simp⟩
  rw [makeItem, if_neg (by simp)] at h ⊢
  cases hfind : formatItems.find? fun entry => entry.1 = name with
  | none => simp [hfind] at h
  | some entry =>
    obtain ⟨letter, hletter, hmake⟩ := hitem entry (List.mem_of_find?_eq_some hfind)
    have hname : entry.1 = name := by simpa using List.find?_some hfind
    exact ⟨letter, hname ▸ hletter, hmake⟩

/-! ## The output for an event without texts -/

/-- An event whose strings are empty and whose numbers are 0. -/
def quiet : LogEvent EventData :=
  { time := 0
    data := { file := [], line := 0, elapse := 0, threadId := 0, fiberId := 0, threadName := []
              content := [], loggerName := [] } }

/-- The texts have a common end, and differ right before it. -/
def Differs (out text : Bytes) : Prop :=
  ∃ x y c d s, out = x ++ c :: s ∧ text = y ++ d :: s ∧ c ≠ d

theorem Differs.append {out text : Bytes} (h : Differs out text) (a b : Bytes) :
    Differs (a ++ out) (b ++ text) := by
  obtain ⟨x, y, c, d, s, rfl, rfl, hne⟩ := h
  exact ⟨a ++ x, b ++ y, c, d, s, by simp, by simp, hne⟩

theorem Differs.ne {out text : Bytes} (h : Differs out text) : out ≠ text := by
  obtain ⟨x, y, c, d, s, rfl, rfl, hne⟩ := h
  intro heq
  have hlen : x.length = y.length := by simpa using congrArg List.length heq
  have htail := (List.append_inj heq hlen).2
  rw [List.cons.injEq] at htail
  exact hne htail.1

/-- The last character of a text that is not empty. -/
theorem differs_getLast {out : Bytes} (hne : out ≠ []) {d : UInt8} (h : out.getLast hne ≠ d)
    (y s : Bytes) : Differs (out ++ s) (y ++ d :: s) :=
  ⟨out.dropLast, y, out.getLast hne, d, s, by
    rw [← List.singleton_append, ← List.append_assoc, List.dropLast_append_getLast], rfl, h⟩

section quiet

variable (strftime : Strftime)

/-- What the items of `vec` print for it. -/
def quietOut (vec : List Entry) : Option Bytes :=
  (makeFormatter [] vec false).format strftime .debug quiet

variable {strftime}

theorem quietOut_cons {e : Entry} {vec : List Entry} {out : Bytes}
    (h : quietOut strftime (e :: vec) = some out) :
    ∃ a b, (makeItem e).1.format strftime .debug quiet = some a
      ∧ quietOut strftime vec = some b ∧ out = a ++ b := by
  simp only [quietOut, LogFormatter.format, makeFormatter, List.map_cons, List.mapM_cons] at h ⊢
  cases ha : (makeItem e).1.format strftime .debug quiet with
  | none => simp [ha] at h
  | some a =>
    cases hb : (vec.map fun e => (makeItem e).1).mapM
        (FormatItem.format strftime .debug quiet) with
    | none => simp [ha, hb] at h
    | some bs =>
      simp [ha, hb] at h
      exact ⟨a, bs.flatten, rfl, rfl, h.symm⟩

theorem quietOut_flush {nstr : Bytes} {vec : List Entry} {out : Bytes}
    (h : quietOut strftime (flush nstr ++ vec) = some out) :
    ∃ b, quietOut strftime vec = some b ∧ out = nstr ++ b := by
  rw [flush] at h
  split at h
  case isTrue hempty => exact ⟨out, by simpa using h, by simp [hempty]⟩
  case isFalse =>
    obtain ⟨a, b, ha, hb, rfl⟩ := quietOut_cons h
    refine ⟨b, hb, ?_⟩
    simp [makeItem, FormatItem.format] at ha
    rw [ha]

theorem quietOut_plain (text : Bytes) : quietOut strftime (flush text) = some text := by
  rw [flush]
  split
  case isTrue h => subst h; rfl
  case isFalse => simp [quietOut, makeFormatter, LogFormatter.format, makeItem, FormatItem.format]

/-- What a letter prints, with a percent sign in front, ends in neither the letter nor a
closing brace. -/
theorem letter_last {letter : Letter} (hne : letter ≠ .d) {fmt out : Bytes}
    (h : (letter.item fmt).format strftime .debug quiet = some out) :
    (37 :: out).getLast (by simp) ≠ letter.char ∧ (37 :: out).getLast (by simp) ≠ 125 := by
  cases letter <;> first | exact absurd rfl hne | (cases h; decide)

theorem format_dateTime {format out : Bytes}
    (h : (FormatItem.dateTime format).format strftime .debug quiet = some out) :
    out = cStr (strftime.text (cStr format) 0) := by
  simp only [FormatItem.format] at h
  split at h
  · exact (Option.some.inj h).symm
  · cases h

/-- The default format prints a text that ends in a digit. -/
theorem default_last {out : Bytes}
    (h : (FormatItem.dateTime defaultTime).format strftime .debug quiet = some out) :
    (37 :: out).getLast (by simp) ≠ Letter.d.char ∧ (37 :: out).getLast (by simp) ≠ 125 := by
  have hcstr : cStr defaultTime = defaultTime := by decide
  obtain ⟨init, d, hd, htext⟩ := strftime.text_default 0
  have hnul := strftime.text_nul defaultTime 0 (by decide)
  have hdigit : ∀ d : Fin 10, Lib.digitChar d ≠ 100 ∧ Lib.digitChar d ≠ 125 := by decide
  have hout := format_dateTime h
  rw [hcstr, Http.cStr_of_not_mem hnul, htext] at hout
  subst hout
  simpa [Letter.char] using hdigit ⟨d, hd⟩

theorem cStr_cons {c : UInt8} (h : c ≠ 0) (s : Bytes) : cStr (c :: s) = c :: cStr s := by
  rw [cStr, List.takeWhile_cons_of_pos (by simpa using h), cStr]

theorem cStr_doubled (s : Bytes) : cStr (doubled s) = doubled (cStr s) := by
  induction s with
  | nil => rfl
  | cons c s ih =>
    by_cases hzero : c = 0
    · subst hzero
      rfl
    · rw [cStr_cons hzero, doubled_cons, doubled_cons]
      split_ifs
      · rw [List.cons_append, List.singleton_append, cStr_cons (by decide),
          cStr_cons (by decide), ih]
        rfl
      · rw [List.singleton_append, cStr_cons hzero, ih]
        rfl

/-- A format without conversions prints itself, up to a zero byte. -/
theorem doubled_last {fmt out : Bytes} (hne : fmt ≠ []) (hfmt : 125 ∉ fmt)
    (h : (Letter.d.item (doubled fmt)).format strftime .debug quiet = some out) :
    (37 :: out).getLast (by simp) ≠ 125 := by
  have hdoubled : doubled fmt ≠ [] := by
    cases fmt with
    | nil => exact absurd rfl hne
    | cons c fmt => rw [doubled_cons]; split_ifs <;> simp
  have hnul : 0 ∉ cStr fmt := fun hmem => by simpa using List.mem_takeWhile_imp hmem
  rw [Letter.item, FormatItem.newDateTime, if_neg hdoubled] at h
  have hout := format_dateTime h
  rw [cStr_doubled, strftime.text_doubled _ _ hnul, Http.cStr_of_not_mem hnul] at hout
  subst hout
  intro hlast
  have hmem : 125 ∈ 37 :: cStr fmt := hlast ▸ List.getLast_mem (by simp)
  rw [List.mem_cons] at hmem
  exact hfmt ((List.takeWhile_sublist _).subset (hmem.resolve_left (by decide)))

/-- What a conversion prints, with a percent sign in front, does not end like the conversion. -/
theorem item_last {letter : Letter} {fmt out : Bytes} (hfmt : 125 ∉ fmt)
    (h : (letter.item (doubled fmt)).format strftime .debug quiet = some out) :
    (37 :: out).getLast (by simp) ≠ 125
      ∧ (fmt = [] → (37 :: out).getLast (by simp) ≠ letter.char) := by
  by_cases hd : letter = .d
  · subst hd
    by_cases hempty : fmt = []
    · subst hempty
      have hlast := default_last h
      exact ⟨hlast.2, fun _ => hlast.1⟩
    · exact ⟨doubled_last hempty hfmt h, fun h => absurd h hempty⟩
  · have hlast := letter_last hd h
    exact ⟨hlast.2, fun _ => hlast.1⟩

/-- The output for the escaped form of a text with a percent sign is another text. -/
theorem differs_of_percent {text : Bytes} (hmem : 37 ∈ text) {nstr out : Bytes}
    {vec : List Entry} (hparse : parse (doubled text) nstr = (vec, false))
    (herror : ∀ e ∈ vec, (makeItem e).2 = false) (hout : quietOut strftime vec = some out) :
    Differs out text := by
  induction hlen : text.length using Nat.strong_induction_on generalizing text nstr vec out with
  | h n ih =>
    cases text with
    | nil => cases hmem
    | cons c text =>
      rw [List.length_cons] at hlen
      rw [doubled_cons] at hparse
      by_cases hc : c = 37
      · subst hc
        rw [if_pos rfl, List.cons_append, List.singleton_append, parse_percent rfl] at hparse
        by_cases hhead : (doubled text).head? = some 37
        · -- the second percent sign starts another pair
          rw [parse_percent hhead] at hparse
          have htext : 37 ∈ text := by
            rw [head?_doubled] at hhead
            exact List.mem_of_head? hhead
          exact (ih text.length (by omega) htext hparse herror hout rfl).append [] [37]
        · obtain hnone | ⟨name, fmt, rest, hconv, hfmt, htext⟩ := conversion_doubled text
          · rw [parse_unclosed hhead hnone] at hparse
            simp at hparse
          rw [parse_conversion _ hhead hconv, Prod.mk.injEq] at hparse
          obtain ⟨rfl, hrest⟩ := hparse
          obtain ⟨out', hout', rfl⟩ := quietOut_flush hout
          obtain ⟨o, tail, ho, htail, rfl⟩ := quietOut_cons hout'
          have htext' : ∃ front, text = front ++ rest := by
            obtain ⟨rfl, -⟩ | rfl := htext
            · exact ⟨name, rfl⟩
            · exact ⟨name ++ 123 :: (fmt ++ [125]), by simp⟩
          by_cases hpercent : 37 ∈ rest
          · -- the conversion is not the last one
            obtain ⟨front, rfl⟩ := htext'
            have hdiff := ih rest.length (by simp at hlen; omega) hpercent
              (Prod.ext rfl hrest : parse (doubled rest) [] = (_, false))
              (fun e he => herror e (by simp [he])) htail rfl
            simpa using hdiff.append (nstr ++ 37 :: o) (37 :: front)
          · obtain ⟨letter, rfl, hitem⟩ := makeItem_letter
              (herror (name, doubled fmt, 1) (by simp))
            rw [hitem] at ho
            obtain ⟨hclose, hletter⟩ := item_last hfmt ho
            have htail' : tail = rest := by
              rw [doubled_eq_self hpercent, parse_of_plain hpercent, List.nil_append,
                quietOut_plain] at htail
              exact (Option.some.inj htail).symm
            subst htail'
            obtain ⟨rfl, rfl⟩ | rfl := htext
            · simpa using (differs_getLast (by simp) (hletter rfl) [37] tail).append nstr []
            · simpa using
                (differs_getLast (by simp) hclose (37 :: letter.char :: 123 :: fmt) tail).append
                  nstr []
      · rw [if_neg hc, List.singleton_append, parse_plain hc] at hparse
        have htext : 37 ∈ text := (List.mem_cons.mp hmem).resolve_left (Ne.symm hc)
        exact (ih text.length (by omega) htext hparse herror hout rfl).append [] [c]

end quiet

/-- A text is printed back from its escaped form exactly when it has no percent sign. -/
theorem formats_doubled_iff (strftime : Strftime) (text : Bytes) :
    Formats strftime (doubled text) text ↔ 37 ∉ text := by
  constructor
  · intro ⟨f, hinit, herror, hformat⟩ hmem
    have hf := hinit _ (Nat.lt_succ_self _)
    rw [init_eq _ (Nat.lt_succ_self _), Option.some.injEq] at hf
    subst hf
    simp only [makeFormatter, Bool.or_eq_false_iff, List.any_eq_false, Bool.not_eq_true]
      at herror
    exact (differs_of_percent hmem (Prod.ext rfl herror.1) herror.2 (hformat .debug quiet)).ne rfl
  · intro hmem
    refine ⟨makeFormatter text (flush text) false, fun fuel hf => ?_, ?_, fun level event => ?_⟩
    · rw [doubled_eq_self hmem] at hf ⊢
      rw [init_eq _ hf, parse_of_plain hmem, List.nil_append]
    · rw [flush]
      split <;> rfl
    · rw [flush]
      split
      case isTrue h => subst h; rfl
      case isFalse => simp [makeFormatter, LogFormatter.format, makeItem, FormatItem.format]

theorem parse_escaped_percent : LogFormatter.init (doubled (ascii "100%")) 6
    = some { pattern := doubled (ascii "100%")
             items := [.string (ascii "100%"), .string (ascii "<<error_format %>>")]
             error := true } := by
  decide

/-- `100%`, escaped, has an error. -/
theorem formats_doubled_fails :
    ¬ Formats Strftime.epoch (doubled (ascii "100%")) (ascii "100%") := by
  intro ⟨f, hinit, herror, _⟩
  have hf := hinit 6 (by decide)
  rw [parse_escaped_percent, Option.some.injEq] at hf
  subst hf
  cases herror

end HrServer.Log
