/-
HrServer.Io.CoreTheorems — what the critical sections of `iomanager.cc` do
to a context in order.

A context is in order when each of its events is registered with a
scheduler and one task, or not at all (`Ordered`). On such a context every
function has a known outcome: `addEvent_eq`, `delEvent_eq`,
`cancelEvent_eq`, `cancelAll_eq` say which task is handed to the
scheduler, what the context looks like afterwards, and that nothing
happens when `epoll_ctl` fails.
-/
import HrServer.Io.Core

namespace HrServer

open Lib

namespace Io

/-! ## Masks and contexts -/

theorem Events.has_remove (m : Events) (event e : Event) :
    (m.remove event).has e = (decide (e ≠ event) && m.has e) := by
  cases event <;> cases e <;> simp [Events.remove, Events.has]

theorem Events.has_add (m : Events) (event e : Event) :
    (m.add event).has e = (decide (e = event) || m.has e) := by
  cases event <;> cases e <;> simp [Events.add, Events.has]

theorem Events.ne_none_of_has {m : Events} {event : Event} (h : m.has event = true) :
    m ≠ .NONE := by
  rintro rfl
  cases event <;> cases h

theorem getContext_setContext (c : FdContext) (event e : Event) (ctx : EventContext) :
    (c.setContext event ctx).getContext e = if e = event then ctx else c.getContext e := by
  cases event <;> cases e <;> simp [FdContext.setContext, FdContext.getContext]

@[simp] theorem getContext_events (c : FdContext) (m : Events) (e : Event) :
    ({ c with events := m } : FdContext).getContext e = c.getContext e := by
  cases e <;> rfl

@[simp] theorem setContext_fd (c : FdContext) (event : Event) (ctx : EventContext) :
    (c.setContext event ctx).fd = c.fd := by
  cases event <;> rfl

@[simp] theorem setContext_events (c : FdContext) (event : Event) (ctx : EventContext) :
    (c.setContext event ctx).events = c.events := by
  cases event <;> rfl

/-- The context of an event that is registered for a task. -/
def EventContext.of (scheduler : Nat) : Task → EventContext
  | .fiber f => ⟨some scheduler, some f, none⟩
  | .cb f => ⟨some scheduler, none, some f⟩

/-- A registered event has a scheduler and a task, another one has neither. -/
def Ordered (c : FdContext) : Prop :=
  ∀ event, if c.events.has event then ∃ scheduler task, c.getContext event = .of scheduler task
    else c.getContext event = .empty

theorem Ordered.registered {c : FdContext} {event : Event} (h : Ordered c)
    (hev : c.events.has event = true) :
    ∃ scheduler task, c.getContext event = .of scheduler task := by
  simpa [hev] using h event

theorem Ordered.empty {c : FdContext} {event : Event} (h : Ordered c)
    (hev : c.events.has event = false) : c.getContext event = .empty := by
  simpa [hev] using h event

/-- One event of a context is replaced. -/
theorem Ordered.update {c c' : FdContext} (h : Ordered c) (event : Event)
    (hself : if c'.events.has event then ∃ scheduler task, c'.getContext event = .of scheduler task
      else c'.getContext event = .empty)
    (hother : ∀ e, e ≠ event →
      c'.events.has e = c.events.has e ∧ c'.getContext e = c.getContext e) : Ordered c' := by
  intro e
  by_cases he : e = event
  · rw [he]
    exact hself
  · obtain ⟨h1, h2⟩ := hother e he
    rw [h1, h2]
    exact h e

/-- What `addEvent` makes of a context. -/
def FdContext.registered (c : FdContext) (event : Event) (ctx : EventContext) : FdContext :=
  ({ c with events := c.events.add event } : FdContext).setContext event ctx

/-- What `triggerEvent` and `delEvent` leave of it. -/
def FdContext.cleared (c : FdContext) (event : Event) : FdContext :=
  ({ c with events := c.events.remove event } : FdContext).setContext event .empty

section contexts

variable (c : FdContext) (event e : Event) (ctx : EventContext)

@[simp] theorem registered_events : (c.registered event ctx).events = c.events.add event := by
  simp [FdContext.registered]

@[simp] theorem registered_fd : (c.registered event ctx).fd = c.fd := by
  simp [FdContext.registered]

theorem registered_getContext :
    (c.registered event ctx).getContext e = if e = event then ctx else c.getContext e := by
  simp [FdContext.registered, getContext_setContext]

@[simp] theorem cleared_events : (c.cleared event).events = c.events.remove event := by
  simp [FdContext.cleared]

@[simp] theorem cleared_fd : (c.cleared event).fd = c.fd := by
  simp [FdContext.cleared]

theorem cleared_getContext :
    (c.cleared event).getContext e = if e = event then .empty else c.getContext e := by
  simp [FdContext.cleared, getContext_setContext]

end contexts

theorem Ordered.register {c : FdContext} (h : Ordered c) (event : Event) (scheduler : Nat)
    (task : Task) : Ordered (c.registered event (.of scheduler task)) := by
  refine h.update event ?_ fun e he => ⟨?_, ?_⟩
  · simp only [registered_events, Events.has_add, registered_getContext]
    simp
  · simp [Events.has_add, he]
  · simp [registered_getContext, he]

theorem Ordered.clear {c : FdContext} (h : Ordered c) (event : Event) :
    Ordered (c.cleared event) := by
  refine h.update event ?_ fun e he => ⟨?_, ?_⟩
  · simp [Events.has_remove, cleared_getContext]
  · simp [Events.has_remove, he]
  · simp [cleared_getContext, he]

/-! ## Small steps -/

theorem get_eq (io : IOManager) : (get : Op IOManager) io = .ok io io := rfl

theorem modify_eq (f : IOManager → IOManager) (io : IOManager) :
    (modify f : Op PUnit) io = .ok ⟨⟩ (f io) := rfl

theorem deref_eq {io : IOManager} {p : Nat} {c : FdContext} (h : io.contexts[p]? = some c) :
    deref p io = .ok c io := by
  rw [deref, bind_ok (get_eq io), h]
  rfl

theorem assert_true (f : Fault) (io : IOManager) : assert true f io = .ok () io := rfl

theorem store_eq (p : Nat) (c : FdContext) (io : IOManager) :
    store p c io = .ok () { io with contexts := io.contexts.set p c } := rfl

/-- The interest list after an `epoll_ctl` that went through. -/
def IOManager.told (io : IOManager) (fd p : Nat) (mask : Events) : IOManager :=
  { io with epoll := fun k => if k = fd then if mask = .NONE then none else some (mask, p)
      else io.epoll k }

theorem epollCtl_failed (op : CtlOp) (fd p : Nat) (mask : Events) (io : IOManager) :
    epollCtl op fd p mask false io = .ok false io := rfl

theorem epollCtl_done (op : CtlOp) (fd p : Nat) (mask : Events) (io : IOManager)
    (hop : op = .DEL ↔ mask = .NONE) :
    epollCtl op fd p mask true io = .ok true (io.told fd p mask) := by
  have hentry : (if op = .DEL then none else some (mask, p))
      = if mask = .NONE then none else some (mask, p) := by
    by_cases h : mask = .NONE
    · rw [if_pos h, if_pos (hop.mpr h)]
    · rw [if_neg h, if_neg fun h' => h (hop.mp h')]
  simp only [epollCtl, if_true]
  rw [bind_ok (modify_eq _ io), hentry]
  rfl

theorem scheduleContext_eq (scheduler : Nat) (task : Task) (io : IOManager) :
    ∃ ctx, scheduleContext (.of scheduler task) io
        = .ok ctx { io with scheduled := io.scheduled ++ [(scheduler, task)] }
      ∧ { ctx with scheduler := none } = .empty := by
  cases task with
  | fiber f => exact ⟨_, rfl, rfl⟩
  | cb f => exact ⟨_, rfl, rfl⟩

/-! ## The functions -/

section functions

variable {io : IOManager} {p : Nat} {c : FdContext} {event : Event}

theorem triggerEvent_eq (hc : io.contexts[p]? = some c) {scheduler : Nat} {task : Task}
    (hev : c.events.has event = true) (hctx : c.getContext event = .of scheduler task) :
    triggerEvent p event io = .ok ()
      { io with
        contexts := io.contexts.set p (c.cleared event)
        scheduled := io.scheduled ++ [(scheduler, task)] } := by
  rw [triggerEvent, bind_ok (deref_eq hc)]
  simp only [hev]
  rw [bind_ok (assert_true _ io), bind_ok (store_eq p _ io), getContext_events, hctx]
  obtain ⟨ctx, hs, hempty⟩ := scheduleContext_eq scheduler task
    { io with contexts := io.contexts.set p { c with events := c.events.remove event } }
  rw [bind_ok hs, store_eq, hempty]
  simp only [List.set_set]
  rfl

/-- What `triggerEvent` hands to the scheduler. -/
def FdContext.tasks (c : FdContext) (event : Event) : List (Nat × Task) :=
  match c.getContext event with
  | ⟨some scheduler, some f, none⟩ => [(scheduler, .fiber f)]
  | ⟨some scheduler, none, some f⟩ => [(scheduler, .cb f)]
  | _ => []

theorem tasks_of {scheduler : Nat} {task : Task} (h : c.getContext event = .of scheduler task) :
    c.tasks event = [(scheduler, task)] := by
  unfold FdContext.tasks
  rw [h]
  cases task with
  | fiber f => rfl
  | cb f => rfl

theorem tasks_empty (h : c.getContext event = .empty) : c.tasks event = [] := by
  unfold FdContext.tasks
  rw [h]
  rfl

/-- A registered event has one task. -/
theorem Ordered.length_tasks (h : Ordered c) (event : Event) :
    (c.tasks event).length = (c.events.has event).toNat := by
  cases hev : c.events.has event with
  | false =>
    rw [tasks_empty (h.empty hev)]
    rfl
  | true =>
    obtain ⟨scheduler, task, hctx⟩ := h.registered hev
    rw [tasks_of hctx]
    rfl

/-- Clearing an event that is not registered changes nothing. -/
theorem Ordered.cleared_eq (h : Ordered c) (hev : c.events.has event = false) :
    c.cleared event = c := by
  have hctx := h.empty hev
  obtain ⟨read, write, fd, ⟨r, w⟩⟩ := c
  cases event with
  | READ =>
    have hr : r = false := hev
    have hread : read = .empty := hctx
    rw [hr, hread]
    rfl
  | WRITE =>
    have hw : w = false := hev
    have hwrite : write = .empty := hctx
    rw [hw, hwrite]
    rfl

/-- The trigger and the decrement of an event, if it is registered. -/
def IOManager.fire (io : IOManager) (p : Nat) (c : FdContext) (event : Event) : IOManager :=
  { io with
    contexts := io.contexts.set p (c.cleared event)
    scheduled := io.scheduled ++ c.tasks event
    pendingEventCount := io.pendingEventCount - (c.events.has event).toNat }

theorem triggerIf_eq (hc : io.contexts[p]? = some c) (horder : Ordered c) (event : Event) :
    triggerIf (c.events.has event) p event io = .ok () (io.fire p c event) := by
  cases hev : c.events.has event with
  | false =>
    obtain ⟨hlt, hget⟩ := List.getElem?_eq_some_iff.mp hc
    rw [IOManager.fire, horder.cleared_eq hev, tasks_empty (horder.empty hev), hev, ← hget,
      List.set_getElem_self, List.append_nil]
    rfl
  | true =>
    obtain ⟨scheduler, task, hctx⟩ := horder.registered hev
    rw [triggerIf, if_pos rfl, bind_ok (triggerEvent_eq hc hev hctx), IOManager.fire,
      tasks_of hctx, hev]
    rfl

/-- `addEvent` of an event that is not registered. -/
theorem addEvent_eq (hc : io.contexts[p]? = some c) (hev : c.events.has event = false)
    (hctx : c.getContext event = .empty) (scheduler : Option Nat) (fiber : Nat) (cb : Option Nat)
    (ok : Bool) :
    addEvent p event scheduler fiber cb ok io
      = if ok then .ok 0
          { io.told c.fd p (c.events.add event) with
            contexts := io.contexts.set p (c.registered event
              (if cb.isSome then ⟨scheduler, none, cb⟩ else ⟨scheduler, some fiber, none⟩))
            pendingEventCount := io.pendingEventCount + 1 }
        else .ok (-1) io := by
  rw [addEvent, bind_ok (deref_eq hc)]
  simp only [hev, Bool.not_false]
  rw [bind_ok (assert_true _ io)]
  cases ok with
  | false =>
    rw [bind_ok (epollCtl_failed _ _ _ _ io)]
    rfl
  | true =>
    have hhas : (c.events.add event).has event = true := by simp [Events.has_add]
    have hadd : c.events.add event ≠ .NONE := Events.ne_none_of_has hhas
    have hop : (if c.events ≠ .NONE then CtlOp.MOD else .ADD) = .DEL
        ↔ c.events.add event = .NONE := by
      constructor
      · intro h
        split at h <;> cases h
      · exact fun h => absurd h hadd
    rw [bind_ok (epollCtl_done _ _ _ _ io hop)]
    simp only [if_true, getContext_events, hctx, decide_true]
    rw [bind_ok (modify_eq _ _), bind_ok (store_eq p _ _), bind_ok (assert_true _ _),
      bind_ok (store_eq p _ _)]
    simp only [List.set_set]
    rfl

/-- The operation of an `epoll_ctl` that takes events away. -/
theorem removal_op (m : Events) :
    (if m ≠ .NONE then CtlOp.MOD else .DEL) = .DEL ↔ m = .NONE := by
  by_cases h : m = .NONE
  · simp [h]
  · simp [h]

theorem unregister_absent (hc : io.contexts[p]? = some c) (hev : c.events.has event = false)
    (ok : Bool) (finish : FdContext → Op Unit) :
    unregister p event ok finish io = .ok false io := by
  rw [unregister, bind_ok (deref_eq hc), if_neg (by simp [hev])]
  rfl

theorem unregister_failed (hc : io.contexts[p]? = some c) (finish : FdContext → Op Unit) :
    unregister p event false finish io = .ok false io := by
  rw [unregister, bind_ok (deref_eq hc)]
  split
  · rw [bind_ok (epollCtl_failed _ _ _ _ io)]
    rfl
  · rfl

theorem unregister_done (hc : io.contexts[p]? = some c) (hev : c.events.has event = true)
    {finish : FdContext → Op Unit} {io' : IOManager}
    (hfin : finish c (io.told c.fd p (c.events.remove event)) = .ok () io') :
    unregister p event true finish io = .ok true io' := by
  rw [unregister, bind_ok (deref_eq hc), if_pos hev,
    bind_ok (epollCtl_done _ _ _ _ io (removal_op _)), if_pos rfl, bind_ok hfin]
  rfl

theorem delEvent_eq (hc : io.contexts[p]? = some c) (ok : Bool) :
    delEvent p event ok io
      = if ok && c.events.has event then .ok true
          { io.told c.fd p (c.events.remove event) with
            contexts := io.contexts.set p (c.cleared event)
            pendingEventCount := io.pendingEventCount - 1 }
        else .ok false io := by
  cases hev : c.events.has event with
  | false =>
    rw [Bool.and_false]
    exact unregister_absent hc hev ok _
  | true =>
    cases ok with
    | false => exact unregister_failed hc _
    | true => exact unregister_done hc hev rfl

theorem cancelEvent_eq (hc : io.contexts[p]? = some c) (horder : Ordered c) (ok : Bool) :
    cancelEvent p event ok io
      = if ok && c.events.has event then
          .ok true ((io.told c.fd p (c.events.remove event)).fire p c event)
        else .ok false io := by
  cases hev : c.events.has event with
  | false =>
    rw [Bool.and_false]
    exact unregister_absent hc hev ok _
  | true =>
    cases ok with
    | false => exact unregister_failed hc _
    | true =>
      refine unregister_done hc hev ?_
      have hc' : (io.told c.fd p (c.events.remove event)).contexts[p]? = some c := hc
      have hfire := triggerIf_eq hc' horder event
      rw [hev] at hfire
      exact hfire

theorem cancelAll_eq (hc : io.contexts[p]? = some c) (horder : Ordered c) (ok : Bool) :
    cancelAll p ok io
      = if ok && decide (c.events ≠ .NONE) then
          .ok true (((io.told c.fd p .NONE).fire p c .READ).fire p (c.cleared .READ) .WRITE)
        else .ok false io := by
  rw [cancelAll, bind_ok (deref_eq hc)]
  by_cases hnone : c.events = .NONE
  · rw [if_pos hnone, if_neg (by simp [hnone])]
    rfl
  rw [if_neg hnone]
  cases ok with
  | false =>
    rw [bind_ok (epollCtl_failed _ _ _ _ io)]
    rfl
  | true =>
    obtain ⟨hlt, -⟩ := List.getElem?_eq_some_iff.mp hc
    have hc0 : (io.told c.fd p .NONE).contexts[p]? = some c := hc
    have hc1 : ((io.told c.fd p .NONE).fire p c .READ).contexts[p]? = some (c.cleared .READ) :=
      List.getElem?_set_self hlt
    have hc2 :
        (((io.told c.fd p .NONE).fire p c .READ).fire p (c.cleared .READ) .WRITE).contexts[p]?
          = some ((c.cleared .READ).cleared .WRITE) := by
      refine List.getElem?_set_self ?_
      rw [IOManager.fire, List.length_set]
      exact hlt
    have hdone : ((c.cleared .READ).cleared .WRITE).events = .NONE := by
      simp [Events.remove, Events.NONE]
    have hread : triggerIf c.events.read p .READ (io.told c.fd p .NONE)
        = .ok () ((io.told c.fd p .NONE).fire p c .READ) := triggerIf_eq hc0 horder .READ
    have hwrite : triggerIf (c.cleared .READ).events.write p .WRITE
        ((io.told c.fd p .NONE).fire p c .READ)
          = .ok () (((io.told c.fd p .NONE).fire p c .READ).fire p (c.cleared .READ) .WRITE) :=
      triggerIf_eq hc1 (horder.clear .READ) .WRITE
    rw [bind_ok (epollCtl_done _ _ _ _ io (by simp)), if_pos rfl, bind_ok hread,
      bind_ok (deref_eq hc1), bind_ok hwrite, bind_ok (deref_eq hc2), hdone,
      if_pos (by simp [hnone])]
    rfl

end functions

end Io

end HrServer
