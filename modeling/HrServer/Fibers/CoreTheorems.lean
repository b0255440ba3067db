/-
HrServer.Fibers.CoreTheorems — what a step of a worker can do.

`Works s w s'` lists the steps of `Scheduler::run`: one constructor for
each way a phase can end, with the condition the source tests there and
the state it leaves. `work_cases` says that the list is complete, so that
an invariant of the scheduler is proved by going through it.
-/
import HrServer.Fibers.Core

namespace HrServer

open Lib

namespace Fibers

/-- The fiber a worker deals with. -/
def Phase.fiber : Phase → Option Nat
  | .loop | .scan _ _ | .noTask _ | .ended => none
  | .taken ft _ => ft.fiber
  | .enter f _ | .entered f _ | .switching f _ | .running f _ | .leaving f _ | .returned f _
  | .settle f _ | .requeue f _ | .hold f _ => some f

namespace Scheduler

@[simp] theorem workers_setWorker (s : Scheduler) (w v : Nat) (worker : Worker) :
    (s.setWorker w worker).workers v = if v = w then worker else s.workers v := rfl

@[simp] theorem workers_goto (s : Scheduler) (w v : Nat) (p : Phase) :
    (s.goto w p).workers v = if v = w then { s.workers w with phase := p } else s.workers v := rfl

@[simp] theorem workers_newFiber (s : Scheduler) : s.newFiber.workers = s.workers := rfl

@[simp] theorem workers_setFiber (s : Scheduler) (f : Nat) (fiber : Fiber) :
    (s.setFiber f fiber).workers = s.workers := rfl

@[simp] theorem fibers_setFiber (s : Scheduler) (f g : Nat) (fiber : Fiber) :
    (s.setFiber f fiber).fibers g = if g = f then fiber else s.fibers g := rfl

@[simp] theorem fibers_goto (s : Scheduler) (w : Nat) (p : Phase) :
    (s.goto w p).fibers = s.fibers := rfl

@[simp] theorem fibers_setWorker (s : Scheduler) (w : Nat) (worker : Worker) :
    (s.setWorker w worker).fibers = s.fibers := rfl

@[simp] theorem activeThreadCount_goto (s : Scheduler) (w : Nat) (p : Phase) :
    (s.goto w p).activeThreadCount = s.activeThreadCount := rfl

@[simp] theorem activeThreadCount_setWorker (s : Scheduler) (w : Nat) (worker : Worker) :
    (s.setWorker w worker).activeThreadCount = s.activeThreadCount := rfl

@[simp] theorem activeThreadCount_setFiber (s : Scheduler) (f : Nat) (fiber : Fiber) :
    (s.setFiber f fiber).activeThreadCount = s.activeThreadCount := rfl

section workers

variable {s s' : Scheduler} {w : Nat} {x : Worker}

theorem worker_self (hw : s'.workers = (s.setWorker w x).workers) : s'.workers w = x := by
  simp [hw]

theorem worker_other {v : Nat} (hw : s'.workers = (s.setWorker w x).workers) (hv : v ≠ w) :
    s'.workers v = s.workers v := by
  simp [hw, hv]

/-- A worker that is in `run` was started. -/
theorem lt_threads (hun : ∀ v, s.threads ≤ v → s.workers v = ⟨.ended, none, none⟩)
    (h : (s.workers w).phase ≠ .ended) : w < s.threads := by
  by_contra hge
  rw [hun w (Nat.le_of_not_lt hge)] at h
  exact h rfl

end workers

/-- The scan does not pass over the entry. -/
def takes (s : Scheduler) (w : Nat) (ft : FiberAndThread) : Bool :=
  !(ft.thread.isSome && ft.thread ≠ some w) && !ft.fiber.any fun f => (s.fibers f).state = .EXEC

inductive Works (s : Scheduler) (w : Nat) : Scheduler → Prop where
  | lock (h : (s.workers w).phase = .loop) (hm : s.mutex = none) :
      Works s w ({ s with mutex := some w }.goto w (.scan 0 false))
  | scanned {i tickleMe} (h : (s.workers w).phase = .scan i tickleMe) (hq : s.queue[i]? = none) :
      Works s w ({ s with mutex := none }.goto w (.noTask tickleMe))
  | skip {i tickleMe ft} (h : (s.workers w).phase = .scan i tickleMe)
      (hq : s.queue[i]? = some ft) (ht : s.takes w ft = false) (tickleMe' : Bool) :
      Works s w (s.goto w (.scan (i + 1) tickleMe'))
  | take {i tickleMe ft} (h : (s.workers w).phase = .scan i tickleMe)
      (hq : s.queue[i]? = some ft) (ht : s.takes w ft = true) (tickleMe' : Bool) :
      Works s w ({ s with
        queue := s.queue.eraseIdx i
        activeThreadCount := s.activeThreadCount + 1
        mutex := none }.goto w (.taken ft tickleMe'))
  | discard {ft tickleMe f} (h : (s.workers w).phase = .taken ft tickleMe)
      (ht : ft.task = .fiber f) (hf : s.finished f = true) :
      Works s w ({ s with activeThreadCount := s.activeThreadCount - 1 }.goto w .loop)
  | resume {ft tickleMe f} (h : (s.workers w).phase = .taken ft tickleMe)
      (ht : ft.task = .fiber f) (hf : s.finished f = false) :
      Works s w (s.goto w (.enter f .queued))
  | reuse {ft tickleMe f c} (h : (s.workers w).phase = .taken ft tickleMe)
      (ht : ft.task = .cb f) (hc : (s.workers w).cbFiber = some c)
      (hf : s.finished c = true ∨ (s.fibers c).state = .INIT) :
      Works s w ((s.setFiber c .init).goto w (.enter c .callback))
  | fresh {ft tickleMe f} (h : (s.workers w).phase = .taken ft tickleMe)
      (ht : ft.task = .cb f) (hc : (s.workers w).cbFiber = none) :
      Works s w (s.newFiber.setWorker w
        { s.workers w with phase := .enter s.created .callback, cbFiber := some s.created })
  | exit {tickleMe f} (h : (s.workers w).phase = .noTask tickleMe)
      (hid : (s.workers w).idleFiber = some f) (hf : (s.fibers f).state = .TERM) :
      Works s w (s.goto w .ended)
  | idle {tickleMe f} (h : (s.workers w).phase = .noTask tickleMe)
      (hid : (s.workers w).idleFiber = some f) (hf : (s.fibers f).state ≠ .TERM) :
      Works s w ({ s with idleThreadCount := s.idleThreadCount + 1 }.goto w (.enter f .idle))
  | enter {f kind} (h : (s.workers w).phase = .enter f kind) (hf : (s.fibers f).state ≠ .EXEC) :
      Works s w (s.goto w (.entered f kind))
  | entered {f kind} (h : (s.workers w).phase = .entered f kind) :
      Works s w ((s.setState f .EXEC).goto w (.switching f kind))
  | switching {f kind} (h : (s.workers w).phase = .switching f kind) :
      Works s w ((s.setFiber f { s.fibers f with saved := false }).goto w (.running f kind))
  | leaving {f kind} (h : (s.workers w).phase = .leaving f kind) :
      Works s w ((s.setFiber f { s.fibers f with saved := true }).goto w (.returned f kind))
  | returnedIdle {f} (h : (s.workers w).phase = .returned f .idle) :
      Works s w ({ s with idleThreadCount := s.idleThreadCount - 1 }.goto w (.settle f .idle))
  | returned {f kind} (h : (s.workers w).phase = .returned f kind) (hk : kind ≠ .idle) :
      Works s w ({ s with activeThreadCount := s.activeThreadCount - 1 }.goto w (.settle f kind))
  | settleReady {f kind} (h : (s.workers w).phase = .settle f kind) (hk : kind ≠ .idle)
      (hf : (s.fibers f).state = .READY) : Works s w (s.goto w (.requeue f kind))
  | settleReset {f} (h : (s.workers w).phase = .settle f .callback) (hf : s.finished f = true) :
      Works s w ((s.setFiber f .init).goto w .loop)
  | settleDone {f kind} (h : (s.workers w).phase = .settle f kind) (hk : kind ≠ .callback)
      (hf : s.finished f = true) : Works s w (s.goto w .loop)
  | settleHold {f kind} (h : (s.workers w).phase = .settle f kind) (hf : s.finished f = false)
      (hr : (s.fibers f).state = .READY → kind = .idle) : Works s w (s.goto w (.hold f kind))
  | requeue {f kind} (h : (s.workers w).phase = .requeue f kind) (hm : s.mutex = none) :
      Works s w ((s.push ⟨.fiber f, none⟩).finish w kind)
  | hold {f kind} (h : (s.workers w).phase = .hold f kind) :
      Works s w ((s.setState f .HOLD).finish w kind)

/-- What `finish` makes of the callback fiber. -/
theorem cb_finish (s : Scheduler) (w : Nat) (kind : Kind) :
    (if kind = .callback then none else (s.workers w).cbFiber) = (s.workers w).cbFiber
      ∨ kind = .callback ∧ (if kind = .callback then none else (s.workers w).cbFiber) = none := by
  by_cases hk : kind = .callback
  · exact .inr ⟨hk, if_pos hk⟩
  · exact .inl (if_neg hk)

section inversion

variable {s s' : Scheduler} {w f : Nat} {kind : Kind}

theorem scan_cases {i : Nat} {tickleMe : Bool} (h : (s.workers w).phase = .scan i tickleMe) :
    Works s w (s.scan w i tickleMe) := by
  unfold Scheduler.scan
  split
  · next hq => exact .scanned h hq
  · next ft hq =>
    split
    · next hthread =>
      exact .skip h hq (by simp only [takes, hthread, Bool.not_true, Bool.false_and]) true
    · next hthread =>
      split
      · next hexec =>
        exact .skip h hq (by simp only [takes, hexec, Bool.not_true, Bool.and_false]) tickleMe
      · next hexec =>
        refine .take h hq ?_ _
        rw [Bool.not_eq_true] at hthread hexec
        simp only [takes, hthread, hexec, Bool.not_false, Bool.and_true]

theorem start_cases {ft : FiberAndThread} {tickleMe : Bool}
    (h : (s.workers w).phase = .taken ft tickleMe) (hs : s.start w ft = some s') :
    Works s w s' := by
  unfold Scheduler.start at hs
  cases htask : ft.task with
  | fiber f =>
    rw [htask] at hs
    dsimp only at hs
    split at hs
    · next hf =>
      cases hs
      exact .discard h htask hf
    · next hf =>
      cases hs
      exact .resume h htask (Bool.not_eq_true _ ▸ hf)
  | cb f =>
    rw [htask] at hs
    dsimp only at hs
    cases hcb : (s.workers w).cbFiber with
    | none =>
      rw [hcb] at hs
      cases hs
      exact .fresh h htask hcb
    | some c =>
      rw [hcb] at hs
      dsimp only at hs
      split at hs
      · next hf =>
        cases hs
        refine .reuse h htask hcb ?_
        simpa using hf
      · cases hs

theorem settle_cases (h : (s.workers w).phase = .settle f kind) :
    Works s w (s.settle w f kind) := by
  unfold Scheduler.settle
  cases hst : (s.fibers f).state with
  | READY =>
    have hfin : s.finished f = false := by simp [finished, hst]
    cases kind with
    | queued => exact .settleReady h Kind.noConfusion hst
    | callback => exact .settleReady h Kind.noConfusion hst
    | idle => exact .settleHold h hfin fun _ => rfl
  | TERM =>
    have hfin : s.finished f = true := by simp [finished, hst]
    cases kind with
    | callback => exact .settleReset h hfin
    | queued => exact .settleDone h Kind.noConfusion hfin
    | idle => exact .settleDone h Kind.noConfusion hfin
  | EXCEPT =>
    have hfin : s.finished f = true := by simp [finished, hst]
    cases kind with
    | callback => exact .settleReset h hfin
    | queued => exact .settleDone h Kind.noConfusion hfin
    | idle => exact .settleDone h Kind.noConfusion hfin
  | INIT | HOLD | EXEC =>
    have hfin : s.finished f = false := by simp [finished, hst]
    cases kind <;> exact .settleHold h hfin (by rw [hst]; nofun)

/-- The steps of a worker are those of `Works`. -/
theorem work_cases (hs : s.work w = some s') : Works s w s' := by
  unfold Scheduler.work at hs
  cases hp : (s.workers w).phase with
  | loop =>
    simp only [hp] at hs
    split at hs
    · next hm =>
      cases hs
      exact .lock hp hm
    · cases hs
  | scan i tickleMe =>
    simp only [hp] at hs
    cases hs
    exact scan_cases hp
  | taken ft tickleMe =>
    simp only [hp] at hs
    exact start_cases hp hs
  | noTask tickleMe =>
    simp only [hp] at hs
    split at hs
    · cases hs
    · next f hid =>
      split at hs
      · next hf =>
        cases hs
        exact .exit hp hid hf
      · next hf =>
        cases hs
        exact .idle hp hid hf
  | running f kind | ended =>
    simp only [hp] at hs
    cases hs
  | enter f kind =>
    simp only [hp] at hs
    split at hs
    · cases hs
    · next hf =>
      cases hs
      exact .enter hp hf
  | entered f kind =>
    simp only [hp] at hs
    cases hs
    exact .entered hp
  | switching f kind =>
    simp only [hp] at hs
    cases hs
    exact .switching hp
  | leaving f kind =>
    simp only [hp] at hs
    cases hs
    exact .leaving hp
  | returned f kind =>
    simp only [hp] at hs
    cases hs
    cases kind with
    | idle => exact .returnedIdle hp
    | queued => exact .returned hp Kind.noConfusion
    | callback => exact .returned hp Kind.noConfusion
  | settle f kind =>
    simp only [hp] at hs
    cases hs
    exact settle_cases hp
  | requeue f kind =>
    simp only [hp] at hs
    split at hs
    · next hm =>
      cases hs
      exact .requeue hp hm
    · cases hs
  | hold f kind =>
    simp only [hp] at hs
    cases hs
    exact .hold hp

/-- A step of a worker leaves the others where they are. -/
theorem work_other {v : Nat} (hs : s.work w = some s') (hv : v ≠ w) :
    s'.workers v = s.workers v := by
  cases work_cases hs <;> simp [hv, finish, push, setState]

/-- What a running fiber does: it leaves with another state, and is over or not. -/
theorem leave_cases {next : State → State} {ended : Bool} (hs : s.leave w next ended = some s') :
    ∃ f kind, (s.workers w).phase = .running f kind ∧ (s.fibers f).ended = false
      ∧ s' = (s.setFiber f { s.fibers f with
          state := next (s.fibers f).state, ended := ended }).goto w (.leaving f kind) := by
  unfold Scheduler.leave at hs
  cases hp : (s.workers w).phase with
  | running f kind =>
    simp only [hp] at hs
    split at hs
    · next hcond =>
      cases hs
      exact ⟨f, kind, rfl, hcond.2, rfl⟩
    · cases hs
  | loop | scan | taken | noTask | enter | entered | switching | leaving | returned | settle
  | requeue | hold | ended =>
    simp only [hp] at hs
    cases hs

theorem schedule_cases {task : Task} {thread : Option Nat}
    (hs : s.next (.schedule task thread) = some s') :
    s.knows task = true ∧ s' = s.push ⟨task, thread⟩ := by
  simp only [Scheduler.next] at hs
  split at hs
  · next hcond =>
    cases hs
    exact ⟨hcond.2, rfl⟩
  · cases hs

/-- `stopping()` changes nothing. -/
theorem isStopping_cases (hs : s.next .isStopping = some s') : s' = s := by
  simp only [Scheduler.next] at hs
  split at hs
  · cases hs
    rfl
  · cases hs

end inversion

end Scheduler

end Fibers

end HrServer
