/-
HrServer.Io.Core — event registration and dispatch of
`sylar/iomanager.cc`.

A pointer to an `FdContext` is a position in `contexts`, the list of all
contexts ever created; they are deleted only with the manager. A call
first looks its context up under `m_mutex` and then works on it under the
context's own mutex: the functions here are the second part, each one
critical section on the context `p`, whatever table `p` was found in.

`epoll_ctl` and `epoll_wait` are the kernel's: `epoll` records what it was
last told, and whether a call of `epoll_ctl` succeeds is an argument. A
failed `SYLAR_ASSERT` and a null scheduler are faults.
-/
import HrServer.Lib.Program
import Mathlib.Algebra.Order.Ring.Nat

namespace HrServer

open Lib

namespace Io

/-- `IOManager::Event`. -/
inductive Event where
  | READ
  | WRITE
  deriving DecidableEq

/-- The bits `READ` and `WRITE` of a mask; both clear is `NONE`. -/
structure Events where
  read : Bool
  write : Bool
  deriving DecidableEq

namespace Events

def NONE : Events := ⟨false, false⟩

/-- `events & event`. -/
def has (m : Events) : Event → Bool
  | .READ => m.read
  | .WRITE => m.write

/-- `events | event`. -/
def add (m : Events) : Event → Events
  | .READ => { m with read := true }
  | .WRITE => { m with write := true }

/-- `events & ~event`. -/
def remove (m : Events) : Event → Events
  | .READ => { m with read := false }
  | .WRITE => { m with write := false }

def inter (m n : Events) : Events := ⟨m.read && n.read, m.write && n.write⟩

def diff (m n : Events) : Events := ⟨m.read && !n.read, m.write && !n.write⟩

/-- The number of bits set. -/
def count (m : Events) : Nat := m.read.toNat + m.write.toNat

end Events

/-- What the scheduler is given: a callback or a fiber. -/
inductive Task where
  | cb (id : Nat)
  | fiber (id : Nat)
  deriving DecidableEq

/-- `FdContext::EventContext`. -/
structure EventContext where
  scheduler : Option Nat
  fiber : Option Nat
  cb : Option Nat
  deriving DecidableEq

def EventContext.empty : EventContext := ⟨none, none, none⟩

structure FdContext where
  read : EventContext
  write : EventContext
  fd : Nat
  events : Events
  deriving DecidableEq

def FdContext.getContext (c : FdContext) : Event → EventContext
  | .READ => c.read
  | .WRITE => c.write

def FdContext.setContext (c : FdContext) (event : Event) (ctx : EventContext) : FdContext :=
  match event with
  | .READ => { c with read := ctx }
  | .WRITE => { c with write := ctx }

/-- A readiness mask of `epoll_wait`. -/
structure Mask where
  epollin : Bool
  epollout : Bool
  epollerr : Bool
  epollhup : Bool
  deriving DecidableEq

/-- One entry of the array filled by `epoll_wait`. -/
inductive Ready where
  | tickle
  | fd (p : Nat) (mask : Mask)
  deriving DecidableEq

/-- The manager, the kernel's interest list (for a descriptor the mask and the context
pointer it was last given), the tasks handed to schedulers, and the entries that each
idle thread has still to handle. -/
structure IOManager where
  contexts : List FdContext
  fdContexts : List (Option Nat)
  pendingEventCount : Nat
  epoll : Nat → Option (Events × Nat)
  scheduled : List (Nat × Task)
  batches : List (List Ready)

inductive Fault where
  /-- `SYLAR_ASSERT(events & event)` in `triggerEvent`. -/
  | triggerEvent
  /-- `SYLAR_ASSERT(!(fd_ctx->events & event))` in `addEvent`. -/
  | addEventTwice
  /-- `SYLAR_ASSERT(!event_ctx.scheduler && !event_ctx.fiber && !event_ctx.cb)`. -/
  | addEventContext
  /-- `SYLAR_ASSERT(fd_ctx->events == 0)` in `cancelAll`. -/
  | cancelAll
  | nullScheduler
  | dangling
  deriving DecidableEq

abbrev Op := EStateM Fault IOManager

/-- `SYLAR_ASSERT`. -/
def assert (b : Bool) (what : Fault) : Op Unit := if b then pure () else throw what

def deref (p : Nat) : Op FdContext := do
  match (← get).contexts[p]? with
  | some c => return c
  | none => throw .dangling

def store (p : Nat) (c : FdContext) : Op Unit :=
  modify fun io => { io with contexts := io.contexts.set p c }

/-! ## The table of contexts -/

/-- The loop of `contextResize`: a new context for every null pointer from index `i` on. -/
def fillContexts (i : Nat) : List (Option Nat) → List FdContext →
    List (Option Nat) × List FdContext
  | [], contexts => ([], contexts)
  | some p :: rest, contexts =>
    let (table, contexts) := fillContexts (i + 1) rest contexts
    (some p :: table, contexts)
  | none :: rest, contexts =>
    let new : FdContext := ⟨.empty, .empty, i, .NONE⟩
    let (table, contexts') := fillContexts (i + 1) rest (contexts ++ [new])
    (some contexts.length :: table, contexts')

/-- `contextResize`. `std::vector::resize` cuts the table or fills it with null. -/
def IOManager.contextResize (io : IOManager) (size : Nat) : IOManager :=
  let resized := io.fdContexts.take size ++ List.replicate (size - io.fdContexts.length) none
  let (table, contexts) := fillContexts 0 resized io.contexts
  { io with fdContexts := table, contexts := contexts }

/-! ## Registration -/

/-- The operation of an `epoll_ctl`; a mask of `NONE` is always given with `EPOLL_CTL_DEL`. -/
inductive CtlOp where
  | ADD | MOD | DEL
  deriving DecidableEq

/-- `epoll_ctl`. `ok` says whether the kernel accepts it; then it records the mask. -/
def epollCtl (op : CtlOp) (fd p : Nat) (mask : Events) (ok : Bool) : Op Bool := do
  if ok then
    let entry := if op = .DEL then none else some (mask, p)
    modify fun io => { io with epoll := fun k => if k = fd then entry else io.epoll k }
  return ok

/-- `ctx.scheduler->schedule(&ctx.cb)` or `schedule(&ctx.fiber)`. Both swap the task out of
the context; a null fiber is not queued. -/
def scheduleContext (ctx : EventContext) : Op EventContext := do
  match ctx.scheduler with
  | none => throw .nullScheduler
  | some s =>
    match ctx.cb, ctx.fiber with
    | some f, _ =>
      modify fun io => { io with scheduled := io.scheduled ++ [(s, .cb f)] }
      return { ctx with cb := none }
    | none, some f =>
      modify fun io => { io with scheduled := io.scheduled ++ [(s, .fiber f)] }
      return { ctx with fiber := none }
    | none, none => return ctx

def triggerEvent (p : Nat) (event : Event) : Op Unit := do
  let c ← deref p
  assert (c.events.has event) .triggerEvent
  let c := { c with events := c.events.remove event }
  store p c
  let ctx ← scheduleContext (c.getContext event)
  store p (c.setContext event { ctx with scheduler := none })

def decrementPending : Op Unit :=
  modify fun io => { io with pendingEventCount := io.pendingEventCount - 1 }

/-- `addEvent` on the context it looked up. `scheduler` is `Scheduler::GetThis()`, `fiber`
is `Fiber::GetThis()`, which is executing. -/
def addEvent (p : Nat) (event : Event) (scheduler : Option Nat) (fiber : Nat) (cb : Option Nat)
    (ok : Bool) : Op Int := do
  let c ← deref p
  assert (!c.events.has event) .addEventTwice
  let op := if c.events ≠ .NONE then CtlOp.MOD else CtlOp.ADD
  let rt ← epollCtl op c.fd p (c.events.add event) ok
  if rt then
    modify fun io => { io with pendingEventCount := io.pendingEventCount + 1 }
    let c := { c with events := c.events.add event }
    store p c
    assert (c.getContext event = .empty) .addEventContext
    store p (c.setContext event
      (if cb.isSome then ⟨scheduler, none, cb⟩ else ⟨scheduler, some fiber, none⟩))
    return 0
  else
    return -1

/-- `delEvent`; `cancelEvent` does the same up to what follows the `epoll_ctl`. -/
def unregister (p : Nat) (event : Event) (ok : Bool) (finish : FdContext → Op Unit) : Op Bool := do
  let c ← deref p
  if c.events.has event then
    let newEvents := c.events.remove event
    let op := if newEvents ≠ .NONE then CtlOp.MOD else CtlOp.DEL
    let rt ← epollCtl op c.fd p newEvents ok
    if rt then
      finish c
      return true
    else
      return false
  else
    return false

def delEvent (p : Nat) (event : Event) (ok : Bool) : Op Bool :=
  unregister p event ok fun c => do
    decrementPending
    store p (({ c with events := c.events.remove event }).setContext event .empty)

def cancelEvent (p : Nat) (event : Event) (ok : Bool) : Op Bool :=
  unregister p event ok fun _ => do
    triggerEvent p event
    decrementPending

/-- `if(mask & event) { triggerEvent(event); --m_pendingEventCount; }`. -/
def triggerIf (b : Bool) (p : Nat) (event : Event) : Op Unit :=
  if b then do
    triggerEvent p event
    decrementPending
  else pure ()

def cancelAll (p : Nat) (ok : Bool) : Op Bool := do
  let c ← deref p
  if c.events = .NONE then return false
  let rt ← epollCtl .DEL c.fd p .NONE ok
  if rt then
    triggerIf c.events.read p .READ
    let c ← deref p
    triggerIf c.events.write p .WRITE
    let c ← deref p
    assert (c.events = .NONE) .cancelAll
    return true
  else
    return false

/-! ## Dispatch -/

/-- `real_events`, after the mask was widened on `EPOLLERR` and `EPOLLHUP`. -/
def realEvents (mask : Mask) (events : Events) : Events :=
  let wide := mask.epollerr || mask.epollhup
  ⟨mask.epollin || (wide && events.read), mask.epollout || (wide && events.write)⟩

/-- The body of the dispatch loop of `idle` for one entry. -/
def handle (entry : Ready) (ok : Bool) : Op Unit := do
  match entry with
  | .tickle => return
  | .fd p mask =>
    let c ← deref p
    let real := realEvents mask c.events
    if c.events.inter real = .NONE then return
    let left := c.events.diff real
    let op := if left ≠ .NONE then CtlOp.MOD else CtlOp.DEL
    let rt ← epollCtl op c.fd p left ok
    if rt then
      triggerIf real.read p .READ
      triggerIf real.write p .WRITE

end Io

end HrServer
