/-
HrServer.Fibers.Core — `Scheduler::run` of `sylar/scheduler.cc` and the
switches of `sylar/fiber.cc`, one shared access at a time.

Any number of workers run `Scheduler::run`. Where a worker stands in it is
its `Phase`: a step of `work` goes on to the next phase, and what other
threads do in between is another step. The queue is read and changed under
`m_mutex`, but the states of the fibers are not: the scan of the queue is
one step for each entry, and a fiber goes from the queue to `EXEC` in four
steps (taken, checked, asserted, stored).

`saved` says whether the context of a fiber holds the point at which it
will go on: `swapcontext` into it takes that away, and the one in
`swapOut` brings it back. What a running fiber does is up to its callback:
yield, end in one of three ways, or schedule something.

A failed assertion aborts the program, so that no step is possible.
-/
import HrServer.Lib.Run

namespace HrServer

open Lib

namespace Fibers

/-- `Fiber::State`. -/
inductive State where
  | INIT | HOLD | EXEC | TERM | READY | EXCEPT
  deriving DecidableEq

/-- `ended` says that the callback is over and the fiber was switched out for the last
time. -/
structure Fiber where
  state : State
  saved : Bool
  ended : Bool
  deriving DecidableEq

/-- A fiber as the constructor and `reset` leave it. -/
def Fiber.init : Fiber := ⟨.INIT, true, false⟩

/-- What can be scheduled. -/
inductive Task where
  | fiber (id : Nat)
  | cb (id : Nat)
  deriving DecidableEq

/-- `FiberAndThread`: a fiber or a callback, for any thread (-1 in the source) or for one. -/
structure FiberAndThread where
  task : Task
  thread : Option Nat
  deriving DecidableEq

/-- `ft.fiber`. -/
def FiberAndThread.fiber (ft : FiberAndThread) : Option Nat :=
  match ft.task with
  | .fiber f => some f
  | .cb _ => none

/-- Which of the three `swapIn` calls of `run`. -/
inductive Kind where
  /-- `ft.fiber->swapIn()`. -/
  | queued
  /-- `cb_fiber->swapIn()`. -/
  | callback
  /-- `idle_fiber->swapIn()`. -/
  | idle
  deriving DecidableEq

inductive Phase where
  /-- At the head of the loop. -/
  | loop
  /-- In the loop over the queue, at entry `i`. -/
  | scan (i : Nat) (tickleMe : Bool)
  /-- Behind it, with an entry taken from the queue. -/
  | taken (ft : FiberAndThread) (tickleMe : Bool)
  /-- Without one. -/
  | noTask (tickleMe : Bool)
  /-- At the assertion of `swapIn`. -/
  | enter (f : Nat) (kind : Kind)
  /-- Before `m_state = EXEC`. -/
  | entered (f : Nat) (kind : Kind)
  /-- Before the `swapcontext` of `swapIn`. -/
  | switching (f : Nat) (kind : Kind)
  /-- The fiber runs. -/
  | running (f : Nat) (kind : Kind)
  /-- The fiber is before the `swapcontext` of `swapOut`. -/
  | leaving (f : Nat) (kind : Kind)
  /-- `swapIn` has returned. -/
  | returned (f : Nat) (kind : Kind)
  /-- The counter is decremented. -/
  | settle (f : Nat) (kind : Kind)
  /-- Before `schedule(fiber)`. -/
  | requeue (f : Nat) (kind : Kind)
  /-- Before `m_state = HOLD`. -/
  | hold (f : Nat) (kind : Kind)
  /-- `run` has returned, or was not called. -/
  | ended
  deriving DecidableEq

/-- The local variables of `run`. -/
structure Worker where
  phase : Phase
  cbFiber : Option Nat
  idleFiber : Option Nat
  deriving DecidableEq

/-- The scheduler with its fibers, numbered as they are created, and its threads.
Worker `w` is the thread with the id `w`; `threads` of them have been started. `mutex` is
the worker in the critical section of `run`. -/
structure Scheduler where
  fibers : Nat → Fiber
  created : Nat
  queue : List FiberAndThread
  mutex : Option Nat
  activeThreadCount : Int
  idleThreadCount : Int
  autoStop : Bool
  stopping : Bool
  workers : Nat → Worker
  threads : Nat

namespace Scheduler

/-- Before anything was scheduled or started. -/
def init : Scheduler :=
  { fibers := fun _ => .init, created := 0, queue := [], mutex := none, activeThreadCount := 0,
    idleThreadCount := 0, autoStop := false, stopping := true,
    workers := fun _ => ⟨.ended, none, none⟩, threads := 0 }

def setFiber (s : Scheduler) (f : Nat) (fiber : Fiber) : Scheduler :=
  { s with fibers := fun g => if g = f then fiber else s.fibers g }

def setState (s : Scheduler) (f : Nat) (state : State) : Scheduler :=
  s.setFiber f { s.fibers f with state := state }

def setWorker (s : Scheduler) (w : Nat) (worker : Worker) : Scheduler :=
  { s with workers := fun v => if v = w then worker else s.workers v }

def goto (s : Scheduler) (w : Nat) (phase : Phase) : Scheduler :=
  s.setWorker w { s.workers w with phase := phase }

/-- `schedulerNoLock`. -/
def push (s : Scheduler) (ft : FiberAndThread) : Scheduler := { s with queue := s.queue ++ [ft] }

/-- The constructor of a fiber. -/
def newFiber (s : Scheduler) : Scheduler := { s with created := s.created + 1 }

/-- The worker is done with a fiber that is not finished. A callback fiber is not used
again (`cb_fiber.reset()`). -/
def finish (s : Scheduler) (w : Nat) (kind : Kind) : Scheduler :=
  s.setWorker w { s.workers w with
    phase := .loop
    cbFiber := if kind = .callback then none else (s.workers w).cbFiber }

/-! ## A worker -/

/-- One entry of the queue. The mutex is released with the scan. -/
def scan (s : Scheduler) (w i : Nat) (tickleMe : Bool) : Scheduler :=
  match s.queue[i]? with
  | none => { s with mutex := none }.goto w (.noTask tickleMe)
  | some ft =>
    if ft.thread.isSome && ft.thread ≠ some w then s.goto w (.scan (i + 1) true)
    else if ft.fiber.any fun f => (s.fibers f).state = .EXEC then s.goto w (.scan (i + 1) tickleMe)
    else
      { s with
        queue := s.queue.eraseIdx i
        activeThreadCount := s.activeThreadCount + 1
        mutex := none }.goto w (.taken ft (tickleMe || i + 1 < s.queue.length))

/-- The state `TERM` or `EXCEPT`. -/
def finished (s : Scheduler) (f : Nat) : Bool :=
  (s.fibers f).state = .TERM || (s.fibers f).state = .EXCEPT

/-- What is done with an entry. A callback is put into the worker's callback fiber. -/
def start (s : Scheduler) (w : Nat) (ft : FiberAndThread) : Option Scheduler :=
  match ft.task with
  | .fiber f =>
    if s.finished f then some ({ s with activeThreadCount := s.activeThreadCount - 1 }.goto w .loop)
    else some (s.goto w (.enter f .queued))
  | .cb _ =>
    match (s.workers w).cbFiber with
    | some c =>
      -- `reset` asserts that the fiber is not in use
      if s.finished c || (s.fibers c).state = .INIT then
        some ((s.setFiber c .init).goto w (.enter c .callback))
      else none
    | none =>
      some (s.newFiber.setWorker w
        { s.workers w with phase := .enter s.created .callback, cbFiber := some s.created })

/-- What the worker makes of the state in which a fiber came back. -/
def settle (s : Scheduler) (w f : Nat) (kind : Kind) : Scheduler :=
  match (s.fibers f).state, kind with
  | .READY, .queued => s.goto w (.requeue f kind)
  | .READY, .callback => s.goto w (.requeue f kind)
  | .TERM, .callback => (s.setFiber f .init).goto w .loop
  | .EXCEPT, .callback => (s.setFiber f .init).goto w .loop
  | .TERM, _ => s.goto w .loop
  | .EXCEPT, _ => s.goto w .loop
  | _, _ => s.goto w (.hold f kind)

/-- The next step of a worker. -/
def work (s : Scheduler) (w : Nat) : Option Scheduler :=
  match (s.workers w).phase with
  | .loop =>
    if s.mutex = none then some ({ s with mutex := some w }.goto w (.scan 0 false)) else none
  | .scan i tickleMe => some (s.scan w i tickleMe)
  | .taken ft _ => s.start w ft
  | .noTask _ =>
    match (s.workers w).idleFiber with
    | none => none
    | some f =>
      if (s.fibers f).state = .TERM then some (s.goto w .ended)
      else some ({ s with idleThreadCount := s.idleThreadCount + 1 }.goto w (.enter f .idle))
  | .enter f kind => if (s.fibers f).state = .EXEC then none else some (s.goto w (.entered f kind))
  | .entered f kind => some ((s.setState f .EXEC).goto w (.switching f kind))
  | .switching f kind =>
    some ((s.setFiber f { s.fibers f with saved := false }).goto w (.running f kind))
  | .running _ _ => none
  | .leaving f kind =>
    some ((s.setFiber f { s.fibers f with saved := true }).goto w (.returned f kind))
  | .returned f kind =>
    let s := if kind = .idle then { s with idleThreadCount := s.idleThreadCount - 1 }
      else { s with activeThreadCount := s.activeThreadCount - 1 }
    some (s.goto w (.settle f kind))
  | .settle f kind => some (s.settle w f kind)
  | .requeue f kind =>
    if s.mutex = none then some ((s.push ⟨.fiber f, none⟩).finish w kind) else none
  | .hold f kind => some ((s.setState f .HOLD).finish w kind)
  | .ended => none

end Scheduler

/-! ## Steps -/

/-- How a callback ends. -/
inductive Outcome where
  | returned
  /-- A `std::exception` was thrown. -/
  | stdException
  /-- Something else was thrown. -/
  | otherException
  deriving DecidableEq

/-- The state that `MainFunc` leaves. -/
def Outcome.state (state : State) : Outcome → State
  | .returned => .TERM
  | .stdException => state
  | .otherException => .EXCEPT

inductive Label where
  /-- A fiber is created. -/
  | create
  /-- A thread begins with `run`. -/
  | spawn
  /-- `schedule(task, thread)` in any thread. -/
  | schedule (task : Task) (thread : Option Nat)
  | work (w : Nat)
  /-- The fiber that runs on worker `w` calls `YieldToReady`. -/
  | yieldToReady (w : Nat)
  | yieldToHold (w : Nat)
  /-- The callback of the fiber that runs on worker `w` ends. -/
  | finish (w : Nat) (outcome : Outcome)
  /-- The assignments to `m_autoStop` and `m_stopping` in `start` and `stop`. -/
  | setAutoStop
  | setStopping (stopping : Bool)
  /-- `stopping()` in any thread. -/
  | isStopping
  deriving DecidableEq

/-- A running fiber leaves, with `next` of its state. `YieldToReady` and `YieldToHold` assert
that it is executing, `MainFunc` asserts nothing; one that has ended cannot go on. -/
def Scheduler.leave (s : Scheduler) (w : Nat) (next : State → State) (ended : Bool) :
    Option Scheduler :=
  match (s.workers w).phase with
  | .running f kind =>
    let fiber := s.fibers f
    if (fiber.state = .EXEC ∨ ended = true) ∧ fiber.ended = false then
      some ((s.setFiber f { fiber with state := next fiber.state, ended := ended }).goto w
        (.leaving f kind))
    else none
  | _ => none

/-- A fiber is scheduled by a pointer to it. -/
def Scheduler.knows (s : Scheduler) : Task → Bool
  | .fiber f => f < s.created
  | .cb _ => true

def Scheduler.next (s : Scheduler) : Label → Option Scheduler
  | .create => some s.newFiber
  | .spawn =>
    let s' := { s.newFiber with threads := s.threads + 1 }
    some (s'.setWorker s.threads ⟨.loop, none, some s.created⟩)
  | .schedule task thread =>
    if s.mutex = none ∧ s.knows task then some (s.push ⟨task, thread⟩) else none
  | .work w => s.work w
  | .yieldToReady w => s.leave w (fun _ => .READY) false
  | .yieldToHold w => s.leave w id false
  | .finish w outcome => s.leave w (fun state => outcome.state state) true
  | .setAutoStop => some { s with autoStop := true }
  | .setStopping stopping => some { s with stopping := stopping }
  | .isStopping => if s.mutex = none then some s else none

/-- `stopping()`. -/
def Scheduler.isStopping (s : Scheduler) : Bool :=
  s.autoStop && s.stopping && s.queue.isEmpty && s.activeThreadCount = 0

/-- A step of some thread, with the result of `stopping()`. -/
def step (s : Scheduler) (l : Label) : Option (Bool × Scheduler) :=
  (s.next l).map fun s' => (decide (l = .isStopping) && s.isStopping, s')

end Fibers

end HrServer
