/-
HrServer.Log.Pattern — `LogFormatter` of `sylar/log.cc`: how `init` takes
a pattern apart and what the items print.

`init` has two nested loops over indices into the pattern; the inner one
looks for the end of a conversion. The loops take fuel and give `none`
when it runs out.

`strftime` is the library's, in the locale and the time zone of the
process. Of these the results use only what `Strftime` states.
-/
import HrServer.Http.Request
import HrServer.Lib.Digits
import HrServer.Log.FileAppender
import HrServer.Util.StringUtil

namespace HrServer.Log

open Http (Bytes ascii cStr)
open Lib (numeral)
open Util (substr)

/-! ## The items -/

/-- The text with every percent sign doubled. -/
def doubled (text : Bytes) : Bytes := text.flatMap fun c => if c = 37 then [37, 37] else [c]

/-- The default format of `DateTimeFormatItem`. -/
def defaultTime : Bytes := ascii "%Y-%m-%d %H:%M:%S"

/-- `strftime`, by its format and the time since the epoch: ordinary characters are copied,
`%%` is a percent sign, `%S` ends in a digit, and no zero byte is made. -/
structure Strftime where
  text : Bytes → UInt64 → Bytes
  text_doubled : ∀ (s : Bytes) (time : UInt64), 0 ∉ s → text (doubled s) time = s
  text_default : ∀ time : UInt64, ∃ init, ∃ d < 10,
    text defaultTime time = init ++ [Lib.digitChar d]
  text_nul : ∀ (s : Bytes) (time : UInt64), 0 ∉ s → 0 ∉ text s time

/-- A format with the texts of the conversions put in. -/
def expand (spec : UInt8 → Bytes) : Bytes → Bytes
  | [] => []
  | [c] => [c]
  | c :: d :: rest =>
    if c = 37 then (if d = 37 then [37] else spec d) ++ expand spec rest
    else c :: expand spec (d :: rest)

/-- The conversions of the default format at the epoch. -/
def epochSpec (c : UInt8) : Bytes :=
  if c = 89 then ascii "1970"
  else if c = 109 ∨ c = 100 then ascii "01"
  else if c = 72 ∨ c = 77 ∨ c = 83 then ascii "00"
  else []

theorem doubled_cons (c : UInt8) (text : Bytes) :
    doubled (c :: text) = (if c = 37 then [37, 37] else [c]) ++ doubled text := rfl

theorem expand_doubled (spec : UInt8 → Bytes) (s : Bytes) : expand spec (doubled s) = s := by
  induction s with
  | nil => rfl
  | cons c s ih =>
    rw [doubled_cons]
    by_cases hc : c = 37
    · simp [hc, expand, ih]
    · cases hs : doubled s with
      | nil =>
        rw [hs] at ih
        simp [hc, expand, ← ih]
      | cons d rest =>
        rw [hs] at ih
        simp [hc, expand, ih]

theorem expand_nul {spec : UInt8 → Bytes} (hspec : ∀ c, 0 ∉ spec c) (s : Bytes) (h : 0 ∉ s) :
    0 ∉ expand spec s := by
  induction s using expand.induct with
  | case1 => exact h
  | case2 c => exact h
  | case3 d rest ih =>
    simp only [List.mem_cons, not_or] at h
    rw [expand, if_pos rfl, List.mem_append, not_or]
    refine ⟨?_, ih h.2.2⟩
    split
    · decide
    · exact hspec d
  | case4 c d rest hc ih =>
    rw [List.mem_cons, not_or] at h
    rw [expand, if_neg hc, List.mem_cons, not_or]
    exact ⟨h.1, ih h.2⟩

/-- `strftime` at the epoch. -/
def Strftime.epoch : Strftime where
  text s _ := expand epochSpec s
  text_doubled s _ _ := expand_doubled epochSpec s
  text_default _ := ⟨ascii "1970-01-01 00:00:0", 0, by decide, by decide⟩
  text_nul s _ h := expand_nul (fun c => by rw [epochSpec]; split_ifs <;> decide) s h

/-- What the items print of an event, beside its time. -/
structure EventData where
  file : Bytes
  line : Int32
  elapse : UInt32
  threadId : UInt32
  fiberId : UInt32
  threadName : Bytes
  /-- The text of the stream `m_ss`. -/
  content : Bytes
  /-- The name of the event's logger. -/
  loggerName : Bytes

def LogLevel.toString : LogLevel → Bytes
  | debug => ascii "DEBUG"
  | info => ascii "INFO"
  | warn => ascii "WARN"
  | error => ascii "ERROR"
  | fatal => ascii "FATAL"
  | unknow => ascii "UNKNOW"

/-- The classes derived from `LogFormatter::FormatItem`, with their data members. -/
inductive FormatItem where
  | message
  | level
  | elapse
  | name
  | threadId
  | fiberId
  | threadName
  | dateTime (format : Bytes)
  | filename
  | line
  | newLine
  | string (string : Bytes)
  | tab
  deriving DecidableEq

namespace FormatItem

/-- The constructor of `DateTimeFormatItem`. -/
def newDateTime (format : Bytes) : FormatItem :=
  .dateTime (if format = [] then defaultTime else format)

/-- How a stream prints an `int32_t`. -/
def int32Text (n : Int32) : Bytes :=
  if n.toInt < 0 then 45 :: numeral 10 n.toInt.natAbs else numeral 10 n.toInt.natAbs

/-- `format`; `none` where `strftime` leaves the contents of `buf` undefined. -/
def format (strftime : Strftime) (level : LogLevel) (event : LogEvent EventData) :
    FormatItem → Option Bytes
  | message => some event.data.content
  | .level => some level.toString
  | elapse => some (numeral 10 event.data.elapse.toNat)
  | name => some event.data.loggerName
  | threadId => some (numeral 10 event.data.threadId.toNat)
  | fiberId => some (numeral 10 event.data.fiberId.toNat)
  | threadName => some event.data.threadName
  | dateTime format =>
    let buf := strftime.text (cStr format) event.getTime
    if buf.length < 64 then some (cStr buf) else none
  | filename => some (cStr event.data.file)
  | line => some (int32Text event.data.line)
  | newLine => some [10]
  | string s => some s
  | tab => some [9]

end FormatItem

/-- `s_format_items`. -/
def formatItems : List (Bytes × (Bytes → FormatItem)) :=
  [(ascii "m", fun _ => .message),
   (ascii "p", fun _ => .level),
   (ascii "r", fun _ => .elapse),
   (ascii "c", fun _ => .name),
   (ascii "t", fun _ => .threadId),
   (ascii "n", fun _ => .newLine),
   (ascii "d", FormatItem.newDateTime),
   (ascii "f", fun _ => .filename),
   (ascii "l", fun _ => .line),
   (ascii "T", fun _ => .tab),
   (ascii "F", fun _ => .fiberId),
   (ascii "N", fun _ => .threadName)]

/-! ## `init` -/

/-- `isalpha` of the C locale. -/
def isalpha (c : UInt8) : Bool := (65 ≤ c && c ≤ 90) || (97 ≤ c && c ≤ 122)

/-- The variables of the inner loop. -/
structure Scan where
  n : Nat
  fmtStatus : Nat := 0
  fmtBegin : Nat := 0
  str : Bytes := []
  fmt : Bytes := []

/-- One turn of the inner loop at the character `c`, for the percent sign at `i`. The flag
tells whether the turn leaves the loop. -/
def scanTurn (pattern : Bytes) (i : Nat) (s : Scan) (c : UInt8) : Scan × Bool :=
  if s.fmtStatus = 0 ∧ isalpha c = false ∧ c ≠ 123 ∧ c ≠ 125 then
    ({ s with str := substr pattern (i + 1) (s.n - i - 1) }, true)
  else if s.fmtStatus = 0 ∧ c = 123 then
    ({ s with str := substr pattern (i + 1) (s.n - i - 1), fmtStatus := 1, fmtBegin := s.n,
              n := s.n + 1 }, false)
  else if s.fmtStatus = 1 ∧ c = 125 then
    ({ s with fmt := substr pattern (s.fmtBegin + 1) (s.n - s.fmtBegin - 1), fmtStatus := 0,
              n := s.n + 1 }, true)
  else if s.n + 1 = pattern.length ∧ s.str = [] then
    ({ s with n := s.n + 1, str := pattern.drop (i + 1) }, false)
  else ({ s with n := s.n + 1 }, false)

/-- The inner loop. -/
def scanLoop (pattern : Bytes) (i : Nat) : Nat → Scan → Option Scan
  | 0, _ => none
  | fuel + 1, s =>
    match pattern[s.n]? with
    | none => some s
    | some c =>
      let turn := scanTurn pattern i s c
      if turn.2 then some turn.1 else scanLoop pattern i fuel turn.1

/-- An entry of `vec`: a text, a format, and 0 for plain text or 1 for a conversion. -/
abbrev Entry := Bytes × Bytes × Nat

/-- The variables of the outer loop, and `m_error`. -/
structure Parse where
  i : Nat := 0
  nstr : Bytes := []
  vec : List Entry := []
  error : Bool := false

/-- The entry for the plain text so far. -/
def flush (nstr : Bytes) : List Entry := if nstr = [] then [] else [(nstr, [], 0)]

/-- What the outer loop does with the result of the inner one. -/
def Parse.push (p : Parse) (s : Scan) : Parse :=
  if s.fmtStatus = 0 then
    { p with nstr := [], vec := p.vec ++ flush p.nstr ++ [(s.str, s.fmt, 1)], i := s.n - 1 }
  else if s.fmtStatus = 1 then
    { p with error := true, vec := p.vec ++ [(ascii "<<pattern_error>>", s.fmt, 0)] }
  else p

/-- The outer loop. -/
def initLoop (pattern : Bytes) : Nat → Parse → Option Parse
  | 0, _ => none
  | fuel + 1, p =>
    match pattern[p.i]? with
    | none => some p
    | some c =>
      if c ≠ 37 then
        initLoop pattern fuel { p with nstr := p.nstr ++ [c], i := p.i + 1 }
      else if pattern[p.i + 1]? = some 37 then
        initLoop pattern fuel { p with nstr := p.nstr ++ [37], i := p.i + 1 }
      else do
        let s ← scanLoop pattern p.i (fuel + 1) { n := p.i + 1 }
        initLoop pattern fuel { p.push s with i := (p.push s).i + 1 }

/-- The item for an entry of `vec`, and whether it sets `m_error`. -/
def makeItem (e : Entry) : FormatItem × Bool :=
  if e.2.2 = 0 then (.string e.1, false)
  else
    match formatItems.find? fun entry => entry.1 = e.1 with
    | none => (.string (ascii "<<error_format %" ++ e.1 ++ ascii ">>"), true)
    | some entry => (entry.2 e.2.1, false)

/-- `LogFormatter`. -/
structure LogFormatter where
  pattern : Bytes
  items : List FormatItem
  error : Bool
  deriving DecidableEq

/-- The loop over `vec`. -/
def makeFormatter (pattern : Bytes) (vec : List Entry) (error : Bool) : LogFormatter :=
  { pattern := pattern
    items := vec.map fun e => (makeItem e).1
    error := error || vec.any fun e => (makeItem e).2 }

/-- The constructor, which calls `init`. -/
def LogFormatter.init (pattern : Bytes) (fuel : Nat) : Option LogFormatter :=
  (initLoop pattern fuel {}).map fun p =>
    makeFormatter pattern (p.vec ++ flush p.nstr) p.error

/-- `format(logger, level, event)`. -/
def LogFormatter.format (strftime : Strftime) (f : LogFormatter) (level : LogLevel)
    (event : LogEvent EventData) : Option Bytes :=
  (f.items.mapM (FormatItem.format strftime level event)).map List.flatten

end HrServer.Log
