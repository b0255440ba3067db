/-
HrServer.Log.FileAppender — `FileLogAppender` of `sylar/log.cc`.

Every call that comes three seconds or more after the last reopening opens
the file again, with `std::ofstream::open` and no mode, which truncates
it. So a record stays only as long as no later call reopens the file:
`keeps_all_iff` says that the file has every record exactly when no call
that reopens it comes after a record that left some text. The first
reopening, right after the constructor's own, is harmless.

The text of an event is whatever the formatter makes of it. The file is
the appender's alone and can be opened and written.
-/
import Mathlib.Data.List.Induction

namespace HrServer.Log

/-- `LogLevel::Level`. -/
inductive LogLevel where
  | unknow
  | debug
  | info
  | warn
  | error
  | fatal
  deriving DecidableEq, Repr

/-- The values of the enumeration. -/
def LogLevel.toNat : LogLevel → Nat
  | unknow => 0
  | debug => 1
  | info => 2
  | warn => 3
  | error => 4
  | fatal => 5

/-! ## The stream -/

/-- `std::ofstream`: what the file holds, whether the stream is open, and `failbit`. -/
structure FileStream where
  file : List UInt8
  isOpen : Bool
  fail : Bool
  deriving DecidableEq

namespace FileStream

/-- `close`; closing a stream that is not open sets `failbit`. -/
def close (s : FileStream) : FileStream :=
  if s.isOpen then { s with isOpen := false } else { s with fail := true }

/-- `open(name)`: the file is truncated and the state cleared; opening a stream that is
open sets `failbit`. -/
def reset (s : FileStream) : FileStream :=
  if s.isOpen then { s with fail := true } else { file := [], isOpen := true, fail := false }

/-- Formatted output. -/
def put (s : FileStream) (text : List UInt8) : FileStream :=
  if s.isOpen = true ∧ s.fail = false then { s with file := s.file ++ text } else s

end FileStream

/-! ## The appender -/

/-- The data members that `log` uses. -/
structure FileLogAppender where
  level : LogLevel
  filestream : FileStream
  lastTime : UInt64
  deriving DecidableEq

/-- A `LogEvent`: its time, which the constructor takes as 32 bits, and the rest. -/
structure LogEvent (ε : Type) where
  time : UInt32
  data : ε
  deriving DecidableEq

def LogEvent.getTime {ε : Type} (e : LogEvent ε) : UInt64 := e.time.toUInt64

namespace FileLogAppender

def reopen (a : FileLogAppender) : FileLogAppender :=
  let stream := if a.filestream.fail then a.filestream else a.filestream.close
  { a with filestream := stream.reset }

/-- The constructor, on a file that holds `old`. -/
def new (level : LogLevel) (old : List UInt8) : FileLogAppender :=
  reopen { level := level, filestream := ⟨old, false, false⟩, lastTime := 0 }

variable {ε : Type} (format : LogLevel → LogEvent ε → List UInt8)

/-- `log(logger, level, event)`. -/
def log (a : FileLogAppender) (level : LogLevel) (event : LogEvent ε) : FileLogAppender :=
  if level.toNat ≥ a.level.toNat then
    let now := event.getTime
    let a := if now ≥ a.lastTime + 3 then { a.reopen with lastTime := now } else a
    { a with filestream := a.filestream.put (format level event) }
  else a

/-- An appender after a list of calls. -/
def run (level : LogLevel) (old : List UInt8) (calls : List (LogLevel × LogEvent ε)) :
    FileLogAppender :=
  calls.foldl (fun a c => a.log format c.1 c.2) (new level old)

/-- What the file should hold: the text of every event of at least the level `level`. -/
def records (level : LogLevel) (calls : List (LogLevel × LogEvent ε)) : List UInt8 :=
  calls.flatMap fun c => if c.1.toNat ≥ level.toNat then format c.1 c.2 else []

/-- The call opens the file again. -/
def Reopens (a : FileLogAppender) (c : LogLevel × LogEvent ε) : Prop :=
  c.1.toNat ≥ a.level.toNat ∧ c.2.getTime ≥ a.lastTime + 3

instance (a : FileLogAppender) (c : LogLevel × LogEvent ε) : Decidable (Reopens a c) := by
  unfold Reopens
  infer_instance

/-! ## One call -/

/-- The stream is open and good, and the level is the one given. -/
structure Ready (level : LogLevel) (a : FileLogAppender) : Prop where
  level_eq : a.level = level
  isOpen : a.filestream.isOpen = true
  good : a.filestream.fail = false

section steps

variable {format} {level : LogLevel} {old : List UInt8} {a : FileLogAppender}
  {calls : List (LogLevel × LogEvent ε)} {c : LogLevel × LogEvent ε}

theorem ready_new (level : LogLevel) (old : List UInt8) : Ready level (new level old) :=
  ⟨rfl, rfl, rfl⟩

theorem Ready.reopen_eq (h : Ready level a) :
    a.reopen = { a with filestream := ⟨[], true, false⟩ } := by
  simp [reopen, FileStream.close, FileStream.reset, h.isOpen, h.good]

/-- A call below the level. -/
theorem Ready.log_below (h : Ready level a) (hc : ¬ c.1.toNat ≥ level.toNat) :
    a.log format c.1 c.2 = a := by
  rw [log, h.level_eq, if_neg hc]

/-- A call that reopens the file leaves its own text only. -/
theorem Ready.log_reopens (h : Ready level a) (hc : Reopens a c) :
    a.log format c.1 c.2
      = { a with filestream := ⟨format c.1 c.2, true, false⟩, lastTime := c.2.getTime } := by
  simp [log, hc.1, hc.2, h.reopen_eq, FileStream.put]

/-- Any other call appends its text. -/
theorem Ready.log_appends (h : Ready level a) (hlevel : c.1.toNat ≥ level.toNat)
    (hc : ¬ Reopens a c) :
    a.log format c.1 c.2
      = { a with filestream := ⟨a.filestream.file ++ format c.1 c.2, true, false⟩ } := by
  have hlate : ¬ c.2.getTime ≥ a.lastTime + 3 := fun hnow => hc ⟨h.level_eq ▸ hlevel, hnow⟩
  simp [log, h.level_eq, hlevel, hlate, FileStream.put, h.isOpen, h.good]

theorem Ready.log (h : Ready level a) (c : LogLevel × LogEvent ε) :
    Ready level (a.log format c.1 c.2) := by
  by_cases hlevel : c.1.toNat ≥ level.toNat
  · by_cases hc : Reopens a c
    · rw [h.log_reopens hc]
      exact ⟨h.level_eq, rfl, rfl⟩
    · rw [h.log_appends hlevel hc]
      exact ⟨h.level_eq, rfl, rfl⟩
  · rw [h.log_below hlevel]
    exact h

/-! ## All calls -/

theorem run_concat (calls : List (LogLevel × LogEvent ε)) (c : LogLevel × LogEvent ε) :
    run format level old (calls ++ [c]) = (run format level old calls).log format c.1 c.2 := by
  simp [run]

theorem ready_run (calls : List (LogLevel × LogEvent ε)) :
    Ready level (run format level old calls) := by
  induction calls using List.reverseRecOn with
  | nil => exact ready_new level old
  | append_singleton calls c ih =>
    rw [run_concat]
    exact ih.log c

theorem records_append (calls calls' : List (LogLevel × LogEvent ε)) :
    records format level (calls ++ calls') = records format level calls
      ++ records format level calls' := by
  simp [records]

/-- No call that reopens the file comes after a record with a text. -/
def NothingToLose (format : LogLevel → LogEvent ε → List UInt8) (level : LogLevel)
    (old : List UInt8) (calls : List (LogLevel × LogEvent ε)) : Prop :=
  ∀ before c after, calls = before ++ c :: after → Reopens (run format level old before) c →
    records format level before = []

/-- One call more: what has to hold of it. -/
theorem nothingToLose_concat :
    NothingToLose format level old (calls ++ [c])
      ↔ NothingToLose format level old calls
        ∧ (Reopens (run format level old calls) c → records format level calls = []) := by
  constructor
  · intro h
    refine ⟨fun before c' after heq => h before c' (after ++ [c]) (by simp [heq]), ?_⟩
    exact h calls c [] rfl
  · rintro ⟨hcalls, hlast⟩ before c' after heq hreopens
    rcases List.eq_nil_or_concat after with rfl | ⟨after', c'', rfl⟩
    · obtain ⟨rfl, hc⟩ := List.append_inj' heq rfl
      cases hc
      exact hlast hreopens
    · rw [List.concat_eq_append, ← List.cons_append, ← List.append_assoc] at heq
      exact hcalls before c' after' (List.append_inj' heq rfl).1 hreopens

theorem nothingToLose_of_records (h : records format level calls = []) :
    NothingToLose format level old calls := by
  rintro before c' after rfl -
  rw [records_append] at h
  exact (List.append_eq_nil_iff.mp h).1

/-- The file has the text of every record exactly when no call that reopens it comes
after one that left some text. -/
theorem keeps_all_iff (level : LogLevel) (old : List UInt8)
    (calls : List (LogLevel × LogEvent ε)) :
    (run format level old calls).filestream.file = records format level calls
      ↔ NothingToLose format level old calls := by
  induction calls using List.reverseRecOn with
  | nil => exact iff_of_true rfl (nothingToLose_of_records rfl)
  | append_singleton calls c ih =>
    have hready : Ready level (run format level old calls) := ready_run calls
    rw [run_concat, records_append, nothingToLose_concat]
    by_cases hlevel : c.1.toNat ≥ level.toNat
    · have hrecord : records format level [c] = format c.1 c.2 := by simp [records, hlevel]
      by_cases hc : Reopens (run format level old calls) c
      · -- only the text of `c` is left
        rw [hready.log_reopens hc, hrecord]
        simp only [List.self_eq_append_left]
        exact ⟨fun h => ⟨nothingToLose_of_records h, fun _ => h⟩, fun h => h.2 hc⟩
      · rw [hready.log_appends hlevel hc, hrecord]
        simp only [List.append_left_inj, ih]
        exact ⟨fun h => ⟨h, fun hr => absurd hr hc⟩, fun h => h.1⟩
    · have hrecord : records format level [c] = [] := by simp [records, hlevel]
      have hc : ¬ Reopens (run format level old calls) c :=
        fun hr => hlevel (hready.level_eq ▸ hr.1)
      rw [hready.log_below hlevel, hrecord, List.append_nil, ih]
      exact ⟨fun h => ⟨h, fun hr => absurd hr hc⟩, fun h => h.1⟩

end steps

/-- Two records three seconds apart: the second one truncates the file. -/
theorem record_lost :
    (run (ε := UInt8) (fun _ e => [e.data]) .debug []
        [(.info, ⟨100, 1⟩), (.info, ⟨103, 2⟩)]).filestream.file = [2]
      ∧ records (ε := UInt8) (fun _ e => [e.data]) .debug
          [(.info, ⟨100, 1⟩), (.info, ⟨103, 2⟩)] = [1, 2]
      ∧ ¬ NothingToLose (ε := UInt8) (fun _ e => [e.data]) .debug []
          [(.info, ⟨100, 1⟩), (.info, ⟨103, 2⟩)] := by
  refine ⟨by decide, by decide, ?_⟩
  intro h
  have hempty := h [(.info, ⟨100, 1⟩)] (.info, ⟨103, 2⟩) [] rfl (by decide)
  revert hempty
  decide

end FileLogAppender

end HrServer.Log
