/-
HrServer.Hook.Core — the hooked calls of `sylar/hook.cc` that block a
fiber: `do_io` and `connect_with_timeout`, with the timer callback that
cancels them, `socket`, `close` and the setters of an `FdCtx`, and what
they use of `IOManager`, `FdManager` and the kernel.

Every call has a number. `Pc` is the place at which the calling fiber
stands; the other threads go on in between. A timer of a call is a number
too, and `Stage` is the way it takes: it expires at any time, since any
time may pass between two steps, and its callback is run later by some
worker, one shared access at a time.

A descriptor is a number that the kernel gives to one file after another.
What a raw call returns on an open descriptor is an argument of the step,
on a closed one it is an error; whether an `epoll_ctl` succeeds is an
argument as well.

`waiting` is the registration of an event: the call whose fiber stands in
the context of the descriptor. `HrServer.Hook.Managed` takes the same
steps on the contexts of `iomanager.cc`.
-/
import HrServer.Io.Core
import HrServer.Lib.Run

namespace HrServer

open Lib

namespace Hook

open Io (Event)

/-! ## `FdCtx` -/

/-- The fields that hooked calls read. A timeout of -1, no timeout, is `none`. -/
structure FdCtx where
  isSocket : Bool
  userNonblock : Bool
  isClosed : Bool
  recvTimeout : Option Nat
  sendTimeout : Option Nat
  deriving DecidableEq

/-- The constructor; `isSocket` is what `fstat` says. -/
def FdCtx.init (isSocket : Bool) : FdCtx := ⟨isSocket, false, false, none, none⟩

/-- `getTimeout`: hooked reads wait for `READ` and pass `SO_RCVTIMEO`, hooked writes wait
for `WRITE` and pass `SO_SNDTIMEO`. -/
def FdCtx.getTimeout (ctx : FdCtx) : Event → Option Nat
  | .READ => ctx.recvTimeout
  | .WRITE => ctx.sendTimeout

def FdCtx.setTimeout (ctx : FdCtx) (event : Event) (v : Option Nat) : FdCtx :=
  match event with
  | .READ => { ctx with recvTimeout := v }
  | .WRITE => { ctx with sendTimeout := v }

/-- `setUserNonblock`, as `fcntl` and `ioctl` call it. -/
def FdCtx.setUserNonblock (ctx : FdCtx) (v : Bool) : FdCtx :=
  if ctx.isClosed || !ctx.isSocket then ctx else { ctx with userNonblock := v }

/-! ## Calls and timers -/

inductive Kind where
  /-- `do_io`, with the event it waits for. -/
  | io (event : Event)
  /-- `connect_with_timeout`, with its timeout. -/
  | connect (timeout : Option Nat)
  deriving DecidableEq

def Kind.event : Kind → Event
  | .io event => event
  | .connect _ => .WRITE

inductive Pc where
  /-- Before a raw call whose result is returned as it is. -/
  | direct
  /-- Before the raw call (`retry:`). -/
  | attempt
  /-- Before `addConditionTimer`. -/
  | arm
  /-- Before `addEvent`. -/
  | register
  /-- `addEvent` has failed. -/
  | abandon
  /-- Before `YieldToHold`. -/
  | yield
  /-- In `YieldToHold`. -/
  | suspended
  /-- Behind it, before `timer->cancel()`. -/
  | resumed
  /-- Before the test of `tinfo->cancelled`. -/
  | check
  /-- Before the `getsockopt` of `connect_with_timeout`. -/
  | sockopt
  | returned (n : Int)
  deriving DecidableEq

/-- The registered places: the event is waited for, or the fiber is queued. -/
def Pc.blocked : Pc → Bool
  | .yield | .suspended => true
  | _ => false

def Pc.inProgress : Pc → Bool
  | .returned _ => false
  | _ => true

/-- The local variables of a call. `cancelled` is whether `tinfo->cancelled` is set. The
last three are not in the source: the call has yielded, its descriptor was closed after
that, and it has made a raw call on a later descriptor of the same number. -/
structure Call where
  kind : Kind
  fd : Nat
  timeout : Option Nat
  pc : Pc
  cancelled : Bool
  timer : Option Nat
  slept : Bool
  stale : Bool
  touched : Bool
  deriving DecidableEq

/-- The result of a raw call. -/
inductive Raw where
  | ok (n : Nat)
  /-- `EAGAIN`, or `EINPROGRESS` of `connect`. -/
  | again
  | eintr
  | error
  deriving DecidableEq

namespace Call

def event (call : Call) : Event := call.kind.event

/-- Where a call goes with the result of its raw call. -/
def afterRaw (call : Call) (r : Raw) : Pc :=
  match call.pc, r, call.kind with
  | .attempt, .again, _ => .arm
  | .attempt, .eintr, .io _ => .attempt
  | _, .ok n, _ => .returned n
  | _, _, _ => .returned (-1)

/-- Behind the test of `tinfo->cancelled`. -/
def afterCheck (call : Call) : Pc :=
  if call.cancelled then .returned (-1)
  else match call.kind with
    | .io _ => .attempt
    | .connect _ => .sockopt

/-- Behind a failed `addEvent`. -/
def afterAbandon (call : Call) : Pc :=
  match call.kind with
  | .io _ => .returned (-1)
  | .connect _ => .sockopt

/-- A file is closed under the call. -/
def closed (call : Call) (fd : Nat) : Call :=
  { call with stale := call.stale || (call.fd = fd && call.slept && call.pc.inProgress) }

end Call

inductive Stage where
  /-- In the set of the timer manager. -/
  | pending
  /-- Erased by `Timer::cancel`. -/
  | cancelled
  /-- Taken by `listExpiredCb`; the callback has not begun. -/
  | due
  /-- The callback has found `tinfo` alive and not cancelled. -/
  | passed
  /-- It has stored `ETIMEDOUT`. -/
  | marked
  /-- It has returned. -/
  | ended
  deriving DecidableEq

/-- A condition timer and the call whose `tinfo`, descriptor and event it captures. -/
structure Timer where
  call : Nat
  stage : Stage
  deriving DecidableEq

structure System where
  isOpen : Nat → Bool
  datas : Nat → Option FdCtx
  waiting : Nat → Event → Option Nat
  /-- The entries of a call's fiber in the queue of the scheduler. -/
  queued : Nat → Nat
  calls : Nat → Call
  begun : Nat
  timers : Nat → Timer
  armed : Nat

namespace System

def init : System where
  isOpen := fun _ => false
  datas := fun _ => none
  waiting := fun _ _ => none
  queued := fun _ => 0
  calls := fun _ => ⟨.io .READ, 0, none, .returned 0, false, none, false, false, false⟩
  begun := 0
  timers := fun _ => ⟨0, .ended⟩
  armed := 0

def setCall (s : System) (c : Nat) (call : Call) : System :=
  { s with calls := fun d => if d = c then call else s.calls d }

def goto (s : System) (c : Nat) (pc : Pc) : System := s.setCall c { s.calls c with pc := pc }

def setStage (s : System) (t : Nat) (stage : Stage) : System :=
  { s with timers := fun u => if u = t then { s.timers u with stage := stage } else s.timers u }

def setWaiting (s : System) (fd : Nat) (event : Event) (c : Option Nat) : System :=
  { s with waiting := fun n e => if n = fd ∧ e = event then c else s.waiting n e }

def setQueued (s : System) (c n : Nat) : System :=
  { s with queued := fun d => if d = c then n else s.queued d }

/-- `triggerEvent`: the waiting fiber is scheduled, and the event is not waited for any
more. -/
def trigger (s : System) (fd : Nat) (event : Event) : System :=
  match s.waiting fd event with
  | some c => (s.setWaiting fd event none).setQueued c (s.queued c + 1)
  | none => s

/-! ## The calling fiber -/

/-- The beginning of a call, up to the first raw call; `hook` is `t_hook_enable`. -/
def entry (hook : Bool) (ctx : Option FdCtx) (kind : Kind) : Pc :=
  if !hook then .direct
  else match ctx, kind with
    | none, .io _ => .direct
    | none, .connect _ => .returned (-1)
    | some ctx, _ =>
      if ctx.isClosed then .returned (-1)
      else if !ctx.isSocket || ctx.userNonblock then .direct
      else .attempt

def entryTimeout (ctx : Option FdCtx) : Kind → Option Nat
  | .io event => ctx.bind (·.getTimeout event)
  | .connect timeout => timeout

def begin (s : System) (hook : Bool) (kind : Kind) (fd : Nat) : System :=
  let call : Call :=
    { kind := kind, fd := fd, timeout := entryTimeout (s.datas fd) kind,
      pc := entry hook (s.datas fd) kind, cancelled := false, timer := none,
      slept := false, stale := false, touched := false }
  { s.setCall s.begun call with begun := s.begun + 1 }

/-- The raw call of a fiber. -/
def raw (s : System) (c : Nat) (r : Raw) : Option System :=
  let call := s.calls c
  if (call.pc = .attempt ∨ call.pc = .direct) ∧ (s.isOpen call.fd = false → r = .error) then
    some (s.setCall c { call with
      pc := call.afterRaw r
      touched := call.touched || (call.stale && s.isOpen call.fd) })
  else none

/-- `addConditionTimer`, when there is a timeout. -/
def arm (s : System) (c : Nat) : System :=
  let call := s.calls c
  match call.timeout with
  | none => s.setCall c { call with pc := .register, timer := none }
  | some _ =>
    { s.setCall c { call with pc := .register, timer := some s.armed } with
      timers := fun u => if u = s.armed then ⟨c, .pending⟩ else s.timers u
      armed := s.armed + 1 }

/-- `addEvent`. A second registration of an event fails an assertion. -/
def register (s : System) (c : Nat) (ok : Bool) : Option System :=
  let call := s.calls c
  if (s.waiting call.fd call.event).isSome then none
  else if ok then some ((s.setWaiting call.fd call.event (some c)).goto c .yield)
  else some (s.goto c .abandon)

/-- `timer->cancel()`. It has no effect on a timer that has expired. -/
def cancelTimer (s : System) (c : Nat) : System :=
  match (s.calls c).timer with
  | some t => if (s.timers t).stage = .pending then s.setStage t .cancelled else s
  | none => s

/-- The next step of the fiber of a call that is not up to another party: `ok` is the
result of `epoll_ctl`, or of `getsockopt`. -/
def advance (s : System) (c : Nat) (ok : Bool) : Option System :=
  match (s.calls c).pc with
  | .arm => some (s.arm c)
  | .register => s.register c ok
  | .abandon => some ((s.cancelTimer c).goto c (s.calls c).afterAbandon)
  | .yield => some (s.setCall c { s.calls c with pc := .suspended, slept := true })
  | .resumed => some ((s.cancelTimer c).goto c .check)
  | .check => some (s.goto c (s.calls c).afterCheck)
  | .sockopt => some (s.goto c (.returned (if ok then 0 else -1)))
  | .direct | .attempt | .suspended | .returned _ => none

/-- A worker takes the fiber from the queue. -/
def resume (s : System) (c : Nat) : Option System :=
  if (s.calls c).pc = .suspended ∧ 0 < s.queued c then
    some ((s.setQueued c (s.queued c - 1)).goto c .resumed)
  else none

/-! ## The timer callback -/

/-- The next step of the callback of a timer. `tinfo` lives as long as the call. -/
def callback (s : System) (t : Nat) (ok : Bool) : Option System :=
  let c := (s.timers t).call
  let call := s.calls c
  match (s.timers t).stage with
  | .due =>
    some (s.setStage t (if call.pc.inProgress && !call.cancelled then .passed else .ended))
  | .passed => some ((s.setCall c { call with cancelled := true }).setStage t .marked)
  | .marked =>
    -- `cancelEvent`
    some ((if ok then s.trigger call.fd call.event else s).setStage t .ended)
  | .pending | .cancelled | .ended => none

/-! ## Descriptors -/

/-- `socket_f` or `accept_f` returns the number `fd`. -/
def openFd (s : System) (fd : Nat) : Option System :=
  if s.isOpen fd then none
  else some { s with isOpen := fun n => if n = fd then true else s.isOpen n }

def setCtx (s : System) (fd : Nat) (ctx : Option FdCtx) : System :=
  { s with datas := fun n => if n = fd then ctx else s.datas n }

/-- `cancelAll`, the first step of `close`. -/
def cancelAll (s : System) (fd : Nat) (ok : Bool) : System :=
  if ok then (s.trigger fd .READ).trigger fd .WRITE else s

/-- `close_f`, the last step of `close`. -/
def closeFile (s : System) (fd : Nat) : Option System :=
  if s.isOpen fd then
    some { s with
      isOpen := fun n => if n = fd then false else s.isOpen n
      calls := fun c => (s.calls c).closed fd }
  else none

end System

/-! ## Steps -/

inductive Label where
  | begin (hook : Bool) (kind : Kind) (fd : Nat)
  | raw (c : Nat) (r : Raw)
  | advance (c : Nat) (ok : Bool)
  | resume (c : Nat)
  /-- `listExpiredCb` takes a timer. -/
  | expire (t : Nat)
  | callback (t : Nat) (ok : Bool)
  /-- An idle thread handles an event of the descriptor. -/
  | dispatch (fd : Nat) (event : Event)
  | openFd (fd : Nat)
  /-- `get(fd, true)` of `FdManager` puts a new context into the table. -/
  | create (fd : Nat) (isSocket : Bool)
  | setTimeout (fd : Nat) (event : Event) (v : Option Nat)
  | setUserNonblock (fd : Nat) (v : Bool)
  | cancelAll (fd : Nat) (ok : Bool)
  /-- `FdManager::del`, the second step of `close`. -/
  | del (fd : Nat)
  | closeFile (fd : Nat)
  deriving DecidableEq

def System.next (s : System) : Label → Option System
  | .begin hook kind fd => some (s.begin hook kind fd)
  | .raw c r => s.raw c r
  | .advance c ok => s.advance c ok
  | .resume c => s.resume c
  | .expire t => if (s.timers t).stage = .pending then some (s.setStage t .due) else none
  | .callback t ok => s.callback t ok
  | .dispatch fd event => some (s.trigger fd event)
  | .openFd fd => s.openFd fd
  | .create fd isSocket => some (s.setCtx fd (some (.init isSocket)))
  | .setTimeout fd event v => some (s.setCtx fd ((s.datas fd).map (·.setTimeout event v)))
  | .setUserNonblock fd v => some (s.setCtx fd ((s.datas fd).map (·.setUserNonblock v)))
  | .cancelAll fd ok => some (s.cancelAll fd ok)
  | .del fd => some (s.setCtx fd none)
  | .closeFile fd => s.closeFile fd

/-- A step of some thread. -/
def step (s : System) (l : Label) : Option (Unit × System) := (s.next l).map fun s' => ((), s')

end Hook

end HrServer
