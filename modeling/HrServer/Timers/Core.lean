/-
HrServer.Timers.Core — the timers of `sylar/timer.cc`.

A `Timer` is an object with an address; the handle `i` stands for a
`Timer::ptr` to the `i`-th object ever created. `m_timers` is the sequence
of the handles it holds, searched by `Timer::Comparator`, which reads the
deadline and the address of the objects as they are at that moment.

Two things the language leaves undefined are faults here: erasing the end
iterator, and changing a deadline, the key of the order, while the timer
stands in the set. Each function is one critical section of
`m_mutex`. Clock readings and addresses are arguments.
-/
import HrServer.Lib.OrderedSet

namespace HrServer

open Lib

namespace Timers

/-- A `Timer` object. `γ` is the type of the callbacks, `none` the null function. -/
structure Timer (γ : Type) where
  addr : Nat
  recurring : Bool
  ms : UInt64
  next : UInt64
  cb : Option γ
  deriving DecidableEq

variable {γ : Type}

/-- `Timer::Comparator`; `none` is the null pointer. -/
def Comparator : (lhs rhs : Option (Timer γ)) → Bool
  | none, none => false
  | none, some _ => true
  | some _, none => false
  | some lhs, some rhs =>
    if lhs.next < rhs.next then true
    else if rhs.next < lhs.next then false
    else decide (lhs.addr < rhs.addr)

/-- A `TimerManager`, with every timer it created and the number of times it called
`onTimerInsertedAtFront`. -/
structure TimerManager (γ : Type) where
  objects : List (Timer γ)
  timers : List Nat
  tickled : Bool
  previousTime : UInt64
  insertedAtFront : Nat
  deriving DecidableEq

inductive Fault where
  | eraseEnd
  | keyChanged
  | dangling
  deriving DecidableEq

abbrev Op (γ : Type) := EStateM Fault (TimerManager γ)

/-- The constructor. -/
def new (now : UInt64) : TimerManager γ :=
  { objects := [], timers := [], tickled := false, previousTime := now, insertedAtFront := 0 }

/-- The order of `m_timers`. -/
def TimerManager.less (tm : TimerManager γ) (i j : Nat) : Bool :=
  Comparator tm.objects[i]? tm.objects[j]?

/-- Access through a handle. -/
def deref (i : Nat) : Op γ (Timer γ) := do
  match (← get).objects[i]? with
  | some t => return t
  | none => throw .dangling

def TimerManager.update (tm : TimerManager γ) (i : Nat) (f : Timer γ → Timer γ) : TimerManager γ :=
  { tm with objects := tm.objects.modify i f }

def assignCb (i : Nat) (cb : Option γ) : Op γ Unit :=
  modify fun tm => tm.update i fun t => { t with cb := cb }

def assignMs (i : Nat) (ms : UInt64) : Op γ Unit :=
  modify fun tm => tm.update i fun t => { t with ms := ms }

/-- An assignment to `m_next`. The timer must not be in the set. -/
def assignNext (i : Nat) (next : UInt64) : Op γ Unit := do
  if i ∈ (← get).timers then throw .keyChanged
  modify fun tm => tm.update i fun t => { t with next := next }

/-! ## The set -/

/-- `m_timers.find`. -/
def find (i : Nat) : Op γ (Option Nat) := do
  let tm ← get
  return OrderedSet.find tm.less i tm.timers

/-- `m_timers.erase`. -/
def erase (it : Option Nat) : Op γ Unit :=
  match it with
  | some k => modify fun tm => { tm with timers := tm.timers.eraseIdx k }
  | none => throw .eraseEnd

/-- `m_timers.insert`, with the position it returns. -/
def insert (i : Nat) : Op γ Nat := do
  let tm ← get
  let (timers, it) := OrderedSet.insert tm.less i tm.timers
  set { tm with timers := timers }
  return it

/-- `TimerManager::addTimer(val, lock)`. -/
def addTimerLocked (i : Nat) : Op γ Unit := do
  let it ← insert i
  let tm ← get
  let atFront := it == 0 && !tm.tickled
  if atFront then
    set { tm with tickled := true, insertedAtFront := tm.insertedAtFront + 1 }

/-! ## The operations of a timer -/

def cancel (i : Nat) : Op γ Bool := do
  let t ← deref i
  if t.cb.isSome then
    assignCb i none
    let it ← find i
    erase it
    return true
  else
    return false

def refresh (i : Nat) (now : UInt64) : Op γ Bool := do
  let t ← deref i
  if t.cb.isNone then return false
  let it ← find i
  if it.isNone then return false
  erase it
  assignNext i (now + t.ms)
  let _ ← insert i
  return true

def reset (i : Nat) (ms : UInt64) (fromNow : Bool) (now : UInt64) : Op γ Bool := do
  let t ← deref i
  if ms = t.ms ∧ fromNow = false then return true
  if t.cb.isNone then return false
  let it ← find i
  if it.isNone then return false
  erase it
  let start := if fromNow then now else t.next - t.ms
  assignMs i ms
  assignNext i (start + ms)
  addTimerLocked i
  return true

/-! ## The operations of the manager -/

/-- `TimerManager::addTimer(ms, cb, recurring)`; the new object is at `addr`. -/
def addTimer (addr : Nat) (now ms : UInt64) (cb : Option γ) (recurring : Bool) : Op γ Nat := do
  let i := (← get).objects.length
  modify fun tm =>
    { tm with objects := tm.objects ++ [{ addr, recurring, ms, next := now + ms, cb }] }
  addTimerLocked i
  return i

def getNextTimer (now : UInt64) : Op γ UInt64 := do
  modify fun tm => { tm with tickled := false }
  match (← get).timers with
  | [] => return 0xffffffffffffffff
  | i :: _ =>
    let next ← deref i
    return if now ≥ next.next then 0 else next.next - now

def hasTimer : Op γ Bool := do return !(← get).timers.isEmpty

def detectClockRollover (now : UInt64) : Op γ Bool := do
  let tm ← get
  let rollover := now < tm.previousTime && now < tm.previousTime - 60 * 60 * 1000
  set { tm with previousTime := now }
  return rollover

/-- The loop `while(it != m_timers.end() && (*it)->m_next == now_ms) ++it`, as the
number of steps it takes over the rest of the set. -/
def skipEqual (objects : List (Timer γ)) (now : UInt64) : List Nat → Nat
  | [] => 0
  | i :: rest =>
    if objects[i]?.map Timer.next = some now then skipEqual objects now rest + 1 else 0

/-- The iterator behind the last expired timer. `dummy` is the address of `now_timer`. -/
def TimerManager.expiredEnd (tm : TimerManager γ) (now : UInt64) (dummy : Nat) (rollover : Bool) :
    Nat :=
  let nowTimer : Timer γ :=
    { addr := dummy, recurring := false, ms := 0, next := now, cb := none }
  let it :=
    if rollover then tm.timers.length
    else OrderedSet.lowerBound Comparator (some nowTimer) (tm.timers.map fun i => tm.objects[i]?)
  it + skipEqual tm.objects now (tm.timers.drop it)

/-- The end of one pass of the loop over `expired`. -/
def expireOne (now : UInt64) (i : Nat) (t : Timer γ) : Op γ Unit :=
  if t.recurring then do
    assignNext i (now + t.ms)
    let _ ← insert i
  else
    assignCb i none

/-- The loop over `expired`. Each callback comes with the timer it was taken from. -/
def expireLoop (now : UInt64) : List Nat → Op γ (List (Nat × Option γ))
  | [] => return []
  | i :: expired => do
    let t ← deref i
    expireOne now i t
    let cbs ← expireLoop now expired
    return (i, t.cb) :: cbs

/-- `listExpiredCb`: the callbacks it appends to `cbs`. -/
def listExpiredCb (now : UInt64) (dummy : Nat) : Op γ (List (Nat × Option γ)) := do
  match (← get).timers with
  | [] => return []
  | i :: _ =>
    let rollover ← detectClockRollover now
    let begin_ ← deref i
    if rollover = false ∧ begin_.next > now then return []
    let tm ← get
    let it := tm.expiredEnd now dummy rollover
    let expired := tm.timers.take it
    set { tm with timers := tm.timers.drop it }
    expireLoop now expired

end Timers

end HrServer
