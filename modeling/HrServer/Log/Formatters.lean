/-
HrServer.Log.Formatters — the formatters of a logger and of its appenders,
from `sylar/log.cc`.

An appender without a formatter of its own shall use the logger's. The
code copies: `addAppender` gives the logger's formatter to an appender
that has none, and `Logger::setFormatter` gives it to the attached ones
whose `m_hasFormatter` is false. `LogAppender::setFormatter(nullptr)`
copies nothing, and `addAppender` looks at the formatter and not at the
flag, so it keeps a copy that is out of date. `inherits_iff` says that
these two are the only ways out of the invariant.

A formatter is a pointer, of a type `φ`; appenders are pointers of a
type `ι` into a heap. Whether a pattern is valid is a parameter.
-/
import HrServer.Lib.Run
import HrServer.Log.FileAppender
import Mathlib.Logic.Function.Basic

namespace HrServer.Log

variable {ι φ : Type}

/-- The data members of `LogAppender`. -/
structure LogAppender (φ : Type) where
  level : LogLevel := .debug
  hasFormatter : Bool := false
  formatter : Option φ := none

namespace LogAppender

def setFormatter (a : LogAppender φ) (val : Option φ) : LogAppender φ :=
  { a with formatter := val, hasFormatter := val.isSome }

def getFormatter (a : LogAppender φ) : Option φ := a.formatter

/-- `StdoutLogAppender::log`: what is printed, or `none` when a null formatter is used. -/
def stdoutLog {ε τ : Type} (format : φ → LogLevel → ε → List τ) (a : LogAppender φ)
    (level : LogLevel) (event : ε) : Option (List τ) :=
  if level.toNat ≥ a.level.toNat then a.formatter.map (format · level event) else some []

end LogAppender

/-- A `Logger` and the appenders there are, attached to it or not. -/
structure Logger (ι φ : Type) where
  appenders : List ι
  formatter : Option φ
  heap : ι → LogAppender φ

namespace Logger

/-- The constructor, which makes the formatter `val`. -/
def new (val : φ) (heap : ι → LogAppender φ) : Logger ι φ :=
  { appenders := [], formatter := some val, heap := heap }

variable [DecidableEq ι]

def addAppender (l : Logger ι φ) (appender : ι) : Logger ι φ :=
  let heap :=
    if (l.heap appender).getFormatter.isNone then
      Function.update l.heap appender { l.heap appender with formatter := l.formatter }
    else l.heap
  { l with heap := heap, appenders := l.appenders ++ [appender] }

/-- Only the first of several equal pointers is taken out. -/
def delAppender (l : Logger ι φ) (appender : ι) : Logger ι φ :=
  { l with appenders := l.appenders.erase appender }

omit [DecidableEq ι] in
def clearAppenders (l : Logger ι φ) : Logger ι φ := { l with appenders := [] }

/-- One turn of the loop of `setFormatter`. -/
def inheritFormatter (val : Option φ) (heap : ι → LogAppender φ) (i : ι) : ι → LogAppender φ :=
  if (heap i).hasFormatter then heap
  else Function.update heap i { heap i with formatter := val }

/-- `setFormatter(LogFormatter::ptr)`. -/
def setFormatter (l : Logger ι φ) (val : Option φ) : Logger ι φ :=
  { l with formatter := val, heap := l.appenders.foldl (inheritFormatter val) l.heap }

/-- `setFormatter(const std::string&)`; `newVal` is the formatter made of `val`. -/
def setPattern (isError : List UInt8 → Bool) (l : Logger ι φ) (val : List UInt8) (newVal : φ) :
    Logger ι φ :=
  if isError val then l else l.setFormatter (some newVal)

/-- The calls on a logger and on the appenders. -/
inductive Call (ι φ : Type) where
  | addAppender (appender : ι)
  | delAppender (appender : ι)
  | clearAppenders
  | setFormatter (val : φ)
  | setPattern (val : List UInt8) (newVal : φ)
  /-- `LogAppender::setFormatter`, with a formatter or null. -/
  | appenderSetFormatter (appender : ι) (val : Option φ)

/-- One call. -/
def call (isError : List UInt8 → Bool) (l : Logger ι φ) : Call ι φ → Logger ι φ
  | .addAppender i => l.addAppender i
  | .delAppender i => l.delAppender i
  | .clearAppenders => l.clearAppenders
  | .setFormatter val => l.setFormatter (some val)
  | .setPattern val newVal => l.setPattern isError val newVal
  | .appenderSetFormatter i val =>
    { l with heap := Function.update l.heap i ((l.heap i).setFormatter val) }

/-- A new logger after a list of calls. -/
def run (isError : List UInt8 → Bool) (val : φ) (heap : ι → LogAppender φ)
    (calls : List (Call ι φ)) : Logger ι φ :=
  calls.foldl (call isError) (new val heap)

/-- Every attached appender has a formatter, the logger's unless it has one of its own. -/
def Inherits (l : Logger ι φ) : Prop :=
  ∀ i ∈ l.appenders, ∃ f, (l.heap i).formatter = some f
    ∧ ((l.heap i).hasFormatter = false → l.formatter = some f)

/-- The call neither takes the formatter from an attached appender nor attaches one with
a formatter that is neither its own nor the logger's. -/
def Keeps (l : Logger ι φ) : Call ι φ → Prop
  | .addAppender i => (l.heap i).hasFormatter = true ∨ (l.heap i).formatter = none
      ∨ (l.heap i).formatter = l.formatter
  | .appenderSetFormatter i val => i ∈ l.appenders → val ≠ none
  | _ => True

/-! ## What each call does -/

section steps

variable {isError : List UInt8 → Bool} {l : Logger ι φ} {i j : ι} {f : φ}

/-- The loop of `setFormatter` reaches the appenders that have no formatter of their own. -/
theorem inherit_foldl (val : Option φ) (is : List ι) (heap : ι → LogAppender φ) (j : ι) :
    is.foldl (inheritFormatter val) heap j
      = if j ∈ is ∧ (heap j).hasFormatter = false then { heap j with formatter := val }
        else heap j := by
  induction is generalizing heap with
  | nil => simp
  | cons i is ih =>
    rw [List.foldl_cons, ih]
    by_cases hij : j = i
    · subst hij
      cases hown : (heap j).hasFormatter with
      | true => simp [inheritFormatter, hown]
      | false => simp [inheritFormatter, hown]
    · have hsame : inheritFormatter val heap i j = heap j := by
        cases hown : (heap i).hasFormatter with
        | true => simp [inheritFormatter, hown]
        | false => simp [inheritFormatter, hown, hij]
      simp [hsame, hij]

@[simp] theorem setFormatter_heap (l : Logger ι φ) (val : Option φ) (j : ι) :
    (l.setFormatter val).heap j
      = if j ∈ l.appenders ∧ (l.heap j).hasFormatter = false
        then { l.heap j with formatter := val } else l.heap j :=
  inherit_foldl val l.appenders l.heap j

/-- An appender that is attached has a formatter afterwards. -/
theorem addAppender_heap_self (l : Logger ι φ) (i : ι) :
    (l.addAppender i).heap i
      = { l.heap i with formatter := (l.heap i).formatter.or l.formatter } := by
  cases h : (l.heap i).formatter with
  | none => simp [addAppender, LogAppender.getFormatter, h]
  | some f =>
    have hsame : (l.addAppender i).heap i = l.heap i := by
      simp [addAppender, LogAppender.getFormatter, h]
    rw [hsame, Option.some_or, ← h]

theorem addAppender_heap_ne (h : j ≠ i) : (l.addAppender i).heap j = l.heap j := by
  cases hf : (l.heap i).formatter with
  | none => simp [addAppender, LogAppender.getFormatter, hf, h]
  | some f => simp [addAppender, LogAppender.getFormatter, hf]

/-! ## One step -/

/-- The invariant, with the logger's own formatter. -/
structure Sound (l : Logger ι φ) : Prop where
  formatter : l.formatter ≠ none
  inherits : l.Inherits

omit [DecidableEq ι] in
theorem sound_new (val : φ) (heap : ι → LogAppender φ) : (new val heap).Sound :=
  ⟨by simp [new], by simp [Inherits, new]⟩

theorem Sound.addAppender (h : l.Sound) :
    (l.addAppender i).Sound ↔ l.Keeps (.addAppender i) := by
  obtain ⟨g, hg⟩ := Option.ne_none_iff_exists'.mp h.formatter
  have hlogger : (l.addAppender i).formatter = some g := hg
  constructor
  · intro hnew
    obtain ⟨f, hf, hown⟩ := hnew.inherits i (by simp [Logger.addAppender])
    rw [addAppender_heap_self] at hf hown
    rw [hlogger] at hown
    cases hhas : (l.heap i).hasFormatter with
    | true => exact .inl hhas
    | false =>
      cases hformatter : (l.heap i).formatter with
      | none => exact .inr (.inl hformatter)
      | some f' =>
        simp only [hformatter, Option.some_or, Option.some.injEq] at hf
        refine .inr (.inr ?_)
        rw [hformatter, hg, hf, hown hhas]
  · intro hkeeps
    refine ⟨by simp [hlogger], fun j hj => ?_⟩
    rw [hlogger]
    by_cases hij : j = i
    · subst hij
      rw [addAppender_heap_self, hg]
      rcases hkeeps with hhas | hnone | hsame
      · cases hformatter : (l.heap j).formatter with
        | none => exact ⟨g, by simp⟩
        | some f => exact ⟨f, by simp [hhas]⟩
      · exact ⟨g, by simp [hnone]⟩
      · exact ⟨g, by simp [hsame, hg]⟩
    · have hmem : j ∈ l.appenders := by simpa [Logger.addAppender, hij] using hj
      rw [addAppender_heap_ne hij, ← hg]
      exact h.inherits j hmem

omit [DecidableEq ι] in
/-- Fewer appenders. -/
theorem Sound.mono {is : List ι} (h : l.Sound) (hsub : ∀ i ∈ is, i ∈ l.appenders) :
    Sound { l with appenders := is } :=
  ⟨h.formatter, fun i hi => h.inherits i (hsub i hi)⟩

theorem Sound.setFormatter (h : l.Sound) (f : φ) : (l.setFormatter (some f)).Sound := by
  refine ⟨by simp [Logger.setFormatter], fun i hi => ?_⟩
  have hmem : i ∈ l.appenders := hi
  have hlogger : (l.setFormatter (some f)).formatter = some f := rfl
  rw [setFormatter_heap, hlogger]
  cases hhas : (l.heap i).hasFormatter with
  | true =>
    obtain ⟨f', hf', -⟩ := h.inherits i hmem
    exact ⟨f', by simp [hhas, hf']⟩
  | false => exact ⟨f, by simp [hmem]⟩

theorem Sound.appenderSetFormatter (h : l.Sound) (val : Option φ) :
    (l.call isError (.appenderSetFormatter i val)).Sound
      ↔ l.Keeps (.appenderSetFormatter i val) := by
  constructor
  · rintro hnew hmem rfl
    obtain ⟨f, hf, -⟩ := hnew.inherits i hmem
    simp [call, LogAppender.setFormatter] at hf
  · intro hkeeps
    refine ⟨h.formatter, fun j hj => ?_⟩
    have hmem : j ∈ l.appenders := hj
    by_cases hij : j = i
    · subst hij
      obtain ⟨f, rfl⟩ := Option.ne_none_iff_exists'.mp (hkeeps hmem)
      exact ⟨f, by simp [call, LogAppender.setFormatter]⟩
    · simpa [call, hij] using h.inherits j hmem

/-- Exactly the calls that meet `Keeps` keep the invariant. -/
theorem Sound.call_iff (isError : List UInt8 → Bool) (l : Logger ι φ) (c : Call ι φ)
    (h : l.Sound) : (l.call isError c).Sound ↔ l.Keeps c := by
  cases c with
  | addAppender i => exact h.addAppender
  | delAppender i => exact iff_of_true (h.mono fun _ => List.mem_of_mem_erase) trivial
  | clearAppenders => exact iff_of_true (h.mono (by simp)) trivial
  | setFormatter val => exact iff_of_true (h.setFormatter val) trivial
  | setPattern val newVal =>
    refine iff_of_true ?_ trivial
    simp only [call, setPattern]
    split
    · exact h
    · exact h.setFormatter newVal
  | appenderSetFormatter i val => exact h.appenderSetFormatter val

end steps

/-! ## Every run -/

/-- No call takes the logger's own formatter away. -/
theorem call_formatter {l : Logger ι φ} (isError : List UInt8 → Bool) (c : Call ι φ)
    (h : l.formatter ≠ none) : (l.call isError c).formatter ≠ none := by
  cases c with
  | setFormatter val => simp [call, setFormatter]
  | setPattern val newVal =>
    simp only [call, setPattern]
    split
    · exact h
    · simp [setFormatter]
  | addAppender i => exact h
  | delAppender i => exact h
  | clearAppenders => exact h
  | appenderSetFormatter i val => exact h

theorem run_concat (isError : List UInt8 → Bool) (val : φ) (heap : ι → LogAppender φ)
    (calls : List (Call ι φ)) (c : Call ι φ) :
    run isError val heap (calls ++ [c]) = (run isError val heap calls).call isError c := by
  simp [run]

theorem run_formatter (isError : List UInt8 → Bool) (val : φ) (heap : ι → LogAppender φ)
    (calls : List (Call ι φ)) : (run isError val heap calls).formatter ≠ none := by
  induction calls using List.reverseRecOn with
  | nil => simp [run, new]
  | append_singleton calls c ih =>
    rw [run_concat]
    exact call_formatter isError c ih

/-- Every attached appender has a formatter, the logger's unless it has one of its own,
in every state of a run if and only if no call takes the formatter from an attached
appender or attaches one with a copy of a formatter that the logger no longer has. -/
theorem inherits_iff (isError : List UInt8 → Bool) (val : φ) (heap : ι → LogAppender φ)
    (calls : List (Call ι φ)) :
    (∀ before after, calls = before ++ after → (run isError val heap before).Inherits)
      ↔ ∀ before c after, calls = before ++ c :: after →
          (run isError val heap before).Keeps c := by
  have hstep : ∀ before c, (run isError val heap before).Inherits →
      ((run isError val heap (before ++ [c])).Inherits
        ↔ (run isError val heap before).Keeps c) := by
    intro before c h
    have hlast := run_formatter isError val heap before
    have hnext := run_formatter isError val heap (before ++ [c])
    rw [run_concat] at hnext ⊢
    rw [← Sound.call_iff isError _ c ⟨hlast, h⟩]
    exact ⟨fun hinherits => ⟨hnext, hinherits⟩, fun hsound => hsound.inherits⟩
  exact Lib.prefixes_iff (sound_new val heap).inherits hstep calls

/-- Both ways out: null for an attached appender, and an appender that is attached again
after the logger's formatter has changed. -/
theorem formatter_null_or_stale :
    ¬ (run (ι := Nat) (φ := Nat) (fun _ => false) 0 (fun _ => {})
        [.addAppender 1, .appenderSetFormatter 1 none]).Inherits
      ∧ ¬ (run (ι := Nat) (φ := Nat) (fun _ => false) 0 (fun _ => {})
        [.addAppender 1, .delAppender 1, .setFormatter 5, .addAppender 1]).Inherits := by
  constructor
  · intro h
    obtain ⟨f, hf, -⟩ := h 1 (by decide)
    exact absurd (hf.symm.trans (by decide : _ = (none : Option Nat))) (by simp)
  · intro h
    obtain ⟨f, hf, hown⟩ := h 1 (by decide)
    have hstale : f = 0 := Option.some.inj (hf.symm.trans (by decide))
    have hcurrent : f = 5 := Option.some.inj ((hown (by decide)).symm.trans (by decide))
    omega

omit [DecidableEq ι] in
/-- With the invariant, no attached appender logs through a null formatter, and one that
has none of its own prints what the logger's formatter makes of the event. -/
theorem Inherits.stdoutLog {ε τ : Type} {l : Logger ι φ} {i : ι} (h : l.Inherits)
    (hi : i ∈ l.appenders) (format : φ → LogLevel → ε → List τ) (level : LogLevel) (event : ε) :
    ∃ f, ((l.heap i).hasFormatter = false → l.formatter = some f)
      ∧ (l.heap i).stdoutLog format level event
        = some (if level.toNat ≥ (l.heap i).level.toNat then format f level event else []) := by
  obtain ⟨f, hf, hown⟩ := h i hi
  refine ⟨f, hown, ?_⟩
  unfold LogAppender.stdoutLog
  split
  · simp [hf]
  · rfl

end Logger

end HrServer.Log
