/-
HrServer.Io.Accounting — the books of event registration.

`addEvent`, `delEvent`, `cancelEvent` and `cancelAll` as whole calls on a
descriptor, one after the other, with `epoll_ctl` failing where it likes.

`Books` is what holds between two calls: the table has a context for every
index, each context is in order, the kernel was last told the events that
are registered, and the counter is their number. `call_books` is the step
lemma, `event_accounting` the statement about runs.
-/
import HrServer.Io.Table

namespace HrServer

open Lib

namespace Io

/-! ## Calls on a descriptor -/

/-- A call, with the answer of its `epoll_ctl`. -/
inductive Call where
  | addEvent (fd : Nat) (event : Event) (scheduler : Option Nat) (fiber : Nat) (cb : Option Nat)
      (ok : Bool)
  | delEvent (fd : Nat) (event : Event) (ok : Bool)
  | cancelEvent (fd : Nat) (event : Event) (ok : Bool)
  | cancelAll (fd : Nat) (ok : Bool)
  deriving DecidableEq

inductive Result where
  | added (rt : Int)
  | deleted (b : Bool)
  | cancelled (b : Bool)
  deriving DecidableEq

/-- The first part of `addEvent`: the context of `fd`, after growing the table to
`fd * 1.5` entries when it has none. -/
def lookupOrGrow (fd : Nat) : Op Nat := do
  if (← get).fdContexts.length > fd then
    lookup fd
  else
    growTo fd

/-- The first part of the other calls. -/
def withContext (fd : Nat) (body : Nat → Op Bool) : Op Bool := do
  if (← get).fdContexts.length ≤ fd then
    return false
  else
    body (← lookup fd)

def Call.perform : Call → Op Result
  | .addEvent fd event scheduler fiber cb ok => do
    let p ← lookupOrGrow fd
    return .added (← Io.addEvent p event scheduler fiber cb ok)
  | .delEvent fd event ok => do
    return .deleted (← withContext fd fun p => Io.delEvent p event ok)
  | .cancelEvent fd event ok => do
    return .cancelled (← withContext fd fun p => Io.cancelEvent p event ok)
  | .cancelAll fd ok => do
    return .cancelled (← withContext fd fun p => Io.cancelAll p ok)

/-- One call after another; a fault ends the process. -/
def callStep (io : IOManager) (call : Call) : Option (Result × IOManager) :=
  match call.perform io with
  | .ok r io' => some (r, io')
  | .error _ _ => none

/-- The context at index `fd` of the table. -/
def IOManager.context (io : IOManager) (fd : Nat) : Option FdContext :=
  match io.fdContexts[fd]? with
  | some (some p) => io.contexts[p]?
  | _ => none

/-- `addEvent` is called for an event that is not registered. -/
def Unregistered (io : IOManager) : Call → Prop
  | .addEvent fd event _ _ _ _ => ∀ c ∈ io.context fd, c.events.has event = false
  | .delEvent _ _ _ | .cancelEvent _ _ _ | .cancelAll _ _ => True

/-- `addEvent` is called in a thread that has a scheduler. -/
def Call.Scheduled : Call → Prop
  | .addEvent _ _ scheduler _ _ _ => scheduler.isSome = true
  | .delEvent _ _ _ | .cancelEvent _ _ _ | .cancelAll _ _ => True

def Legal (io : IOManager) (call : Call) : Prop := call.Scheduled ∧ Unregistered io call

instance (io : IOManager) : (call : Call) → Decidable (Unregistered io call)
  | .addEvent fd event _ _ _ _ =>
    inferInstanceAs (Decidable (∀ c ∈ io.context fd, c.events.has event = false))
  | .delEvent _ _ _ | .cancelEvent _ _ _ | .cancelAll _ _ => .isTrue trivial

instance : (call : Call) → Decidable call.Scheduled
  | .addEvent _ _ scheduler _ _ _ => inferInstanceAs (Decidable (scheduler.isSome = true))
  | .delEvent _ _ _ | .cancelEvent _ _ _ | .cancelAll _ _ => .isTrue trivial

instance (io : IOManager) (call : Call) : Decidable (Legal io call) :=
  inferInstanceAs (Decidable (call.Scheduled ∧ Unregistered io call))

/-- Whether the kernel would accept the call's `epoll_ctl`. -/
def Call.ok : Call → Bool
  | .addEvent _ _ _ _ _ ok => ok
  | .delEvent _ _ ok => ok
  | .cancelEvent _ _ ok => ok
  | .cancelAll _ ok => ok

/-- The mask last given to `epoll_ctl` for `fd`. -/
def IOManager.mask (io : IOManager) (fd : Nat) : Events := ((io.epoll fd).map (·.1)).getD .NONE

/-- A scheduler and exactly one of fiber and callback. -/
def EventContext.Complete (ctx : EventContext) : Prop :=
  ctx.scheduler.isSome = true ∧ (ctx.fiber.isSome = true ↔ ctx.cb.isSome = false)

/-! ## The books -/

/-- What holds between two calls. -/
structure Books (io : IOManager) : Prop where
  tabled : Tabled io
  ordered : ∀ c ∈ io.contexts, Ordered c
  /-- The kernel was last told what is registered, with the context of the descriptor. -/
  told : ∀ (fd : Nat) (c : FdContext), io.contexts[fd]? = some c →
    io.epoll fd = if c.events = .NONE then none else some (c.events, fd)
  untold : ∀ fd, io.contexts.length ≤ fd → io.epoll fd = none
  counted : io.pendingEventCount = io.registered

/-- A larger table: the new contexts have no registration. -/
theorem Books.grown {io : IOManager} (h : Books io) {size : Nat}
    (hsize : io.contexts.length ≤ size) : Books (io.contextResize size) := by
  have hreg := registered_contextResize io size
  have htabled := h.tabled.grown hsize
  rw [h.tabled.contextResize hsize] at hreg htabled ⊢
  refine ⟨htabled, ?_, ?_, ?_, h.counted.trans hreg.symm⟩
  · intro c hc
    rcases List.mem_append.mp hc with hc | hc
    · exact h.ordered c hc
    · obtain ⟨i, -, rfl⟩ := List.mem_map.mp hc
      exact fresh_ordered i
  · intro fd c hc
    dsimp only at hc ⊢
    by_cases hfd : fd < io.contexts.length
    · rw [List.getElem?_append_left hfd] at hc
      exact h.told fd c hc
    · rw [List.getElem?_append_right (by omega), List.getElem?_map, Option.map_eq_some_iff] at hc
      obtain ⟨i, -, rfl⟩ := hc
      rw [h.untold fd (by omega)]
      rfl
  · intro fd hfd
    refine h.untold fd ?_
    simp only [List.length_append] at hfd
    omega

/-- One context is replaced: the kernel is told its new events, and the counter follows. -/
theorem Books.update {io : IOManager} (h : Books io) {fd : Nat} {c c' : FdContext}
    (hc : io.contexts[fd]? = some c) (hordered : Ordered c') (hfd : c'.fd = fd) {mask : Events}
    (hmask : mask = c'.events) {n : Nat}
    (hn : n + c.events.count = io.pendingEventCount + c'.events.count)
    (tasks : List (Nat × Task)) :
    Books { io.told fd fd mask with
      contexts := io.contexts.set fd c'
      scheduled := tasks
      pendingEventCount := n } := by
  subst hmask
  obtain ⟨hlt, -⟩ := List.getElem?_eq_some_iff.mp hc
  refine ⟨h.tabled.set hfd rfl rfl, ?_, ?_, ?_, ?_⟩
  · intro d hd
    rcases List.mem_or_eq_of_mem_set hd with hd | rfl
    · exact h.ordered d hd
    · exact hordered
  · intro k d hd
    dsimp only [IOManager.told] at hd ⊢
    by_cases hk : k = fd
    · subst hk
      rw [List.getElem?_set_self hlt] at hd
      cases hd
      rw [if_pos rfl]
    · rw [List.getElem?_set_ne (Ne.symm hk)] at hd
      rw [if_neg hk, h.told k d hd]
  · intro k hk
    dsimp only [IOManager.told] at hk ⊢
    rw [List.length_set] at hk
    rw [if_neg (by omega), h.untold k hk]
  · have hset := @registered_set io fd c c' hc
    have hcount := h.counted
    simp only [IOManager.registered] at hset hcount ⊢
    omega

theorem books_new (threads : Nat) : Books (new threads) := by
  have hblank : Books (blank threads) :=
    ⟨tabled_blank threads, nofun, nofun, fun _ _ => rfl, rfl⟩
  rw [new_eq]
  exact hblank.grown (Nat.zero_le 32)

/-! ## What a call does -/

/-- The books are as before; contexts without registrations may have been created. -/
structure Unchanged (io io' : IOManager) : Prop where
  pending : io'.pendingEventCount = io.pendingEventCount
  epoll : io'.epoll = io.epoll
  scheduled : io'.scheduled = io.scheduled
  contexts : ∃ new, io'.contexts = io.contexts ++ new ∧ ∀ c ∈ new, c = .fresh c.fd

/-- The outcome of a call that counts for `adds` successful `addEvent` and `dels`
successful `delEvent` calls. -/
structure Outcome (io : IOManager) (ok : Bool) (adds dels : Nat) (io' : IOManager) : Prop where
  books : Books io'
  size : io.contexts.length ≤ io'.contexts.length
  ledger : io'.scheduled.length + dels + io'.registered
    = io.scheduled.length + io.registered + adds
  failed : ok = false → Unchanged io io'

theorem Unchanged.refl (io : IOManager) : Unchanged io io :=
  ⟨rfl, rfl, rfl, [], by simp, by simp⟩

/-- A call that did nothing. -/
theorem Books.same {io : IOManager} (h : Books io) (ok : Bool) : Outcome io ok 0 0 io :=
  ⟨h, Nat.le_refl _, rfl, fun _ => .refl io⟩

theorem unchanged_grown {io : IOManager} (h : Tabled io) {size : Nat}
    (hsize : io.contexts.length ≤ size) : Unchanged io (io.contextResize size) := by
  rw [h.contextResize hsize]
  refine ⟨rfl, rfl, rfl, _, rfl, ?_⟩
  intro c hc
  obtain ⟨i, -, rfl⟩ := List.mem_map.mp hc
  rfl

/-- The table was grown first. -/
theorem Outcome.of_grown {io io' : IOManager} (h : Tabled io) {size : Nat} {ok : Bool}
    {adds dels : Nat} (hsize : io.contexts.length ≤ size)
    (ho : Outcome (io.contextResize size) ok adds dels io')
    (hfailed : ok = false → io' = io.contextResize size) : Outcome io ok adds dels io' := by
  have hreg := registered_contextResize io size
  have hgrown := unchanged_grown h hsize
  obtain ⟨new, hnew, -⟩ := hgrown.contexts
  have hlen := congrArg List.length hnew
  rw [List.length_append] at hlen
  have hsz := ho.size
  have hledger := ho.ledger
  rw [hreg, hgrown.scheduled] at hledger
  refine ⟨ho.books, by omega, hledger, fun hok => ?_⟩
  rw [hfailed hok]
  exact hgrown

/-- One context was replaced. -/
theorem Books.updated {io : IOManager} (h : Books io) {fd : Nat} {c c' : FdContext}
    (hc : io.contexts[fd]? = some c) (hordered : Ordered c') (hfd : c'.fd = fd) {mask : Events}
    (hmask : mask = c'.events) {n : Nat}
    (hn : n + c.events.count = io.pendingEventCount + c'.events.count)
    {tasks : List (Nat × Task)} {adds dels : Nat}
    (hledger : tasks.length + dels + c'.events.count
      = io.scheduled.length + c.events.count + adds) :
    Outcome io true adds dels { io.told fd fd mask with
      contexts := io.contexts.set fd c'
      scheduled := tasks
      pendingEventCount := n } := by
  refine ⟨h.update hc hordered hfd hmask hn tasks, by simp, ?_, nofun⟩
  have hset := @registered_set io fd c c' hc
  simp only [IOManager.registered] at hset ⊢
  omega

theorem Events.count_remove_has (m : Events) (event : Event) :
    (m.remove event).count + (m.has event).toNat = m.count := by
  cases hev : m.has event with
  | true => exact Events.count_remove hev
  | false =>
    obtain ⟨r, w⟩ := m
    cases event <;> simp_all [Events.has, Events.remove]

section operations

variable {io : IOManager} {fd : Nat} {c : FdContext} {event : Event}

theorem addEvent_outcome (h : Books io) (hc : io.contexts[fd]? = some c)
    (hev : c.events.has event = false) (scheduler fiber : Nat) (cb : Option Nat) (ok : Bool) :
    ∃ rt io', addEvent fd event (some scheduler) fiber cb ok io = .ok rt io'
      ∧ Outcome io ok (if rt = 0 then 1 else 0) 0 io' ∧ (ok = false → io' = io) := by
  have hordered := h.ordered c (List.mem_of_getElem? hc)
  have hfd := h.tabled.fd fd c hc
  rw [addEvent_eq hc hev (hordered.empty hev)]
  cases ok with
  | false => exact ⟨-1, io, rfl, h.same false, fun _ => rfl⟩
  | true =>
    obtain ⟨task, htask⟩ : ∃ task, (if cb.isSome then (⟨some scheduler, none, cb⟩ : EventContext)
        else ⟨some scheduler, some fiber, none⟩) = .of scheduler task := by
      cases cb with
      | none => exact ⟨.fiber fiber, rfl⟩
      | some f => exact ⟨.cb f, rfl⟩
    have hcount := Events.count_add hev
    rw [if_pos rfl, htask, hfd]
    refine ⟨0, _, rfl, ?_, nofun⟩
    refine h.updated hc (hordered.register event scheduler task) (by simpa using hfd)
      (by simp) ?_ ?_
    · simp only [registered_events]
      omega
    · simp only [registered_events, IOManager.told, if_true]
      omega

theorem delEvent_outcome (h : Books io) (hc : io.contexts[fd]? = some c) (ok : Bool) :
    ∃ b io', delEvent fd event ok io = .ok b io'
      ∧ Outcome io ok 0 (if b = true then 1 else 0) io' := by
  have hordered := h.ordered c (List.mem_of_getElem? hc)
  have hfd := h.tabled.fd fd c hc
  rw [delEvent_eq hc]
  split
  · next hdone =>
    obtain ⟨rfl, hev⟩ := Bool.and_eq_true_iff.mp hdone
    have hcount := Events.count_remove hev
    have hle := count_le_registered hc
    have hpending := h.counted
    rw [hfd]
    refine ⟨true, _, rfl, h.updated hc (hordered.clear event) (by simpa using hfd) (by simp) ?_ ?_⟩
    · simp only [cleared_events]
      omega
    · simp only [cleared_events, IOManager.told, if_true]
      omega
  · exact ⟨false, io, rfl, h.same ok⟩

theorem cancelEvent_outcome (h : Books io) (hc : io.contexts[fd]? = some c) (ok : Bool) :
    ∃ b io', cancelEvent fd event ok io = .ok b io' ∧ Outcome io ok 0 0 io' := by
  have hordered := h.ordered c (List.mem_of_getElem? hc)
  have hfd := h.tabled.fd fd c hc
  rw [cancelEvent_eq hc hordered]
  split
  · next hdone =>
    obtain ⟨rfl, hev⟩ := Bool.and_eq_true_iff.mp hdone
    have hcount := Events.count_remove_has c.events event
    have htasks := hordered.length_tasks event
    have hle := count_le_registered hc
    have hpending := h.counted
    rw [hfd]
    refine ⟨true, _, rfl, h.updated hc (hordered.clear event) (by simpa using hfd) (by simp) ?_ ?_⟩
    · simp only [cleared_events, IOManager.told]
      omega
    · simp only [cleared_events, IOManager.told, List.length_append]
      omega
  · exact ⟨false, io, rfl, h.same ok⟩

theorem cancelAll_outcome (h : Books io) (hc : io.contexts[fd]? = some c) (ok : Bool) :
    ∃ b io', cancelAll fd ok io = .ok b io' ∧ Outcome io ok 0 0 io' := by
  have hordered := h.ordered c (List.mem_of_getElem? hc)
  have hfd := h.tabled.fd fd c hc
  rw [cancelAll_eq hc hordered]
  split
  · next hdone =>
    obtain ⟨rfl, -⟩ := Bool.and_eq_true_iff.mp hdone
    have hread := Events.count_remove_has c.events .READ
    have hwrite := Events.count_remove_has (c.cleared .READ).events .WRITE
    have htasks := hordered.length_tasks .READ
    have htasks' := (hordered.clear .READ).length_tasks .WRITE
    have hle := count_le_registered hc
    have hpending := h.counted
    refine ⟨true, _, rfl, ?_⟩
    simp only [cleared_events] at hwrite htasks'
    simp only [IOManager.fire, List.set_set, hfd]
    refine h.updated hc ((hordered.clear .READ).clear .WRITE) (by simpa using hfd) ?_ ?_ ?_
    · simp [Events.remove, Events.NONE]
    · simp only [cleared_events, IOManager.told]
      omega
    · simp only [cleared_events, IOManager.told, List.length_append]
      omega
  · exact ⟨false, io, rfl, h.same ok⟩

/-- A descriptor beyond the table has no context, and nothing is done for it. -/
theorem Tabled.withContext (h : Tabled io) (fd : Nat) (body : Nat → Op Bool) :
    (io.contexts.length ≤ fd ∧ withContext fd body io = .ok false io)
      ∨ ∃ c, io.contexts[fd]? = some c ∧ withContext fd body io = body fd io := by
  rw [Io.withContext, bind_ok (get_eq io)]
  split
  · next hfd => exact .inl ⟨by rwa [h.length] at hfd, rfl⟩
  · next hfd =>
    rw [h.length, Nat.not_le] at hfd
    exact .inr ⟨_, List.getElem?_eq_getElem hfd, by rw [bind_ok (h.lookup hfd)]⟩

theorem withContext_outcome (h : Books io) (fd : Nat) (body : Nat → Op Bool) (ok : Bool)
    (dels : Bool → Nat) (hnone : dels false = 0)
    (hbody : ∀ c, io.contexts[fd]? = some c →
      ∃ b io', body fd io = .ok b io' ∧ Outcome io ok 0 (dels b) io') :
    ∃ b io', withContext fd body io = .ok b io' ∧ Outcome io ok 0 (dels b) io' := by
  rcases h.tabled.withContext fd body with ⟨-, heq⟩ | ⟨c, hc, heq⟩
  · exact ⟨false, io, heq, by rw [hnone]; exact h.same ok⟩
  · rw [heq]
    exact hbody c hc

end operations

/-- The context of a descriptor that is in the table. -/
theorem Tabled.context {io : IOManager} (h : Tabled io) {fd : Nat}
    (hfd : fd < io.contexts.length) : io.context fd = io.contexts[fd]? := by
  rw [IOManager.context, h.getElem? hfd]

/-- How a result counts. -/
def Result.adds (r : Result) : Nat := [r].count (.added 0)

def Result.dels (r : Result) : Nat := [r].count (.deleted true)

theorem adds_added (rt : Int) : (Result.added rt).adds = if rt = 0 then 1 else 0 := by
  simp [Result.adds, List.count_singleton]

theorem dels_deleted (b : Bool) : (Result.deleted b).dels = if b = true then 1 else 0 := by
  simp [Result.dels, List.count_singleton]

theorem lookupOrGrow_found {io : IOManager} (h : Tabled io) {fd : Nat}
    (hfd : fd < io.contexts.length) : lookupOrGrow fd io = .ok fd io := by
  have hlt : io.fdContexts.length > fd := by
    rw [h.length]
    exact hfd
  rw [lookupOrGrow, bind_ok (get_eq io), if_pos hlt, h.lookup hfd]

/-- The context of a descriptor beyond the table, after growing it. -/
theorem Tabled.getElem?_grown {io : IOManager} (h : Tabled io) {fd size : Nat}
    (hfd : io.contexts.length ≤ fd) (hsize : fd < size) :
    (io.contextResize size).contexts[fd]? = some (.fresh fd) := by
  rw [h.contextResize (by omega)]
  have hlt : fd - io.contexts.length < size - io.contexts.length := by omega
  simp [List.getElem?_append_right hfd, hlt, Nat.add_sub_cancel' hfd]

/-- A table of at least 32 entries grows beyond `fd`. -/
theorem lookupOrGrow_grown {io : IOManager} (h : Tabled io) (hlarge : 32 ≤ io.contexts.length)
    {fd : Nat} (hfd : io.contexts.length ≤ fd) :
    lookupOrGrow fd io = .ok fd (io.contextResize (fd * 3 / 2)) := by
  have hge : ¬ io.fdContexts.length > fd := by
    rw [h.length]
    omega
  have hc := h.getElem?_grown hfd (by omega : fd < fd * 3 / 2)
  obtain ⟨hlt, -⟩ := List.getElem?_eq_some_iff.mp hc
  rw [lookupOrGrow, bind_ok (get_eq io), if_neg hge, growTo, bind_ok (modify_eq _ io)]
  exact (h.grown (by omega)).lookup hlt

theorem fresh_has (fd : Nat) (event : Event) :
    (FdContext.fresh fd).events.has event = false := by
  cases event <;> rfl

/-- `addEvent` finds a context with the event free, in the table or in the grown one. -/
theorem addCall_outcome {io : IOManager} {fd : Nat} {event : Event} (h : Books io)
    (hlarge : 32 ≤ io.contexts.length) (hfree : ∀ c ∈ io.context fd, c.events.has event = false)
    (scheduler fiber : Nat) (cb : Option Nat) (ok : Bool) :
    ∃ rt io', Call.perform (.addEvent fd event (some scheduler) fiber cb ok) io
        = .ok (.added rt) io' ∧ Outcome io ok (if rt = 0 then 1 else 0) 0 io' := by
  by_cases hfd : fd < io.contexts.length
  · have hc : io.contexts[fd]? = some _ := List.getElem?_eq_getElem hfd
    rw [h.tabled.context hfd, hc] at hfree
    obtain ⟨rt, io', heq, hout, -⟩ := addEvent_outcome h hc (hfree _ rfl) scheduler fiber cb ok
    refine ⟨rt, io', ?_, hout⟩
    rw [Call.perform, bind_ok (lookupOrGrow_found h.tabled hfd), bind_ok heq]
    rfl
  · have hsize : io.contexts.length ≤ fd * 3 / 2 := by omega
    have hc := h.tabled.getElem?_grown (Nat.not_lt.mp hfd) (by omega : fd < fd * 3 / 2)
    obtain ⟨rt, io', heq, hout, hsame⟩ :=
      addEvent_outcome (h.grown hsize) hc (fresh_has fd event) scheduler fiber cb ok
    refine ⟨rt, io', ?_, hout.of_grown h.tabled hsize hsame⟩
    rw [Call.perform, bind_ok (lookupOrGrow_grown h.tabled hlarge (Nat.not_lt.mp hfd)), bind_ok heq]
    rfl

/-- The step lemma: a legal call goes through, keeps the books and balances the ledger. -/
theorem call_books {io : IOManager} (h : Books io) (hlarge : 32 ≤ io.contexts.length) (call : Call)
    (hlegal : Legal io call) :
    ∃ r io', callStep io call = some (r, io') ∧ Outcome io call.ok r.adds r.dels io' := by
  cases call with
  | addEvent fd event scheduler fiber cb ok =>
    obtain ⟨hsched, hfree⟩ := hlegal
    obtain ⟨scheduler, rfl⟩ := Option.isSome_iff_exists.mp hsched
    obtain ⟨rt, io', heq, hout⟩ := addCall_outcome h hlarge hfree scheduler fiber cb ok
    exact ⟨.added rt, io', by rw [callStep, heq], by rw [adds_added]; exact hout⟩
  | delEvent fd event ok =>
    obtain ⟨b, io', heq, hout⟩ := withContext_outcome h fd (delEvent · event ok) ok
      (fun b => if b = true then 1 else 0) rfl fun c hc => delEvent_outcome h hc ok
    exact ⟨.deleted b, io', by rw [callStep, Call.perform, bind_ok heq]; rfl,
      by rw [dels_deleted]; exact hout⟩
  | cancelEvent fd event ok =>
    obtain ⟨b, io', heq, hout⟩ := withContext_outcome h fd (cancelEvent · event ok) ok
      (fun _ => 0) rfl fun c hc => cancelEvent_outcome h hc ok
    exact ⟨.cancelled b, io', by rw [callStep, Call.perform, bind_ok heq]; rfl, hout⟩
  | cancelAll fd ok =>
    obtain ⟨b, io', heq, hout⟩ := withContext_outcome h fd (cancelAll · ok) ok
      (fun _ => 0) rfl fun c hc => cancelAll_outcome h hc ok
    exact ⟨.cancelled b, io', by rw [callStep, Call.perform, bind_ok heq]; rfl, hout⟩

/-! ## Runs -/

theorem Ordered.complete {c : FdContext} (h : Ordered c) (event : Event) :
    (c.events.has event = true ↔ (c.getContext event).Complete)
      ∧ (c.events.has event = false → c.getContext event = .empty) := by
  refine ⟨⟨?_, ?_⟩, h.empty⟩
  · intro hev
    obtain ⟨scheduler, task, hctx⟩ := h.registered hev
    rw [hctx]
    cases task with
    | fiber f => simp [EventContext.Complete, EventContext.of]
    | cb f => simp [EventContext.Complete, EventContext.of]
  · intro hcomplete
    by_contra hev
    rw [h.empty (Bool.not_eq_true _ ▸ hev)] at hcomplete
    exact absurd hcomplete.1 (by decide)

theorem Books.mask {io : IOManager} (h : Books io) {p : Nat} {c : FdContext}
    (hc : io.contexts[p]? = some c) : io.mask c.fd = c.events := by
  rw [IOManager.mask, h.tabled.fd p c hc, h.told p c hc]
  split
  · next hnone =>
    rw [hnone]
    rfl
  · rfl

/-- The state after a sequence of calls with the results `rs`. -/
structure Accounted (rs : List Result) (io : IOManager) : Prop where
  pending : io.pendingEventCount = io.registered
  /-- A bit is set exactly when its context has a scheduler and one task. -/
  context : ∀ c ∈ io.contexts, ∀ event,
    (c.events.has event = true ↔ (c.getContext event).Complete)
      ∧ (c.events.has event = false → c.getContext event = .empty)
  /-- The mask last given to the kernel, for the context in the table. -/
  mask : ∀ (p : Nat) (c : FdContext), io.contexts[p]? = some c →
    io.fdContexts[c.fd]? = some (some p) ∧ io.mask c.fd = c.events
  /-- What was added was scheduled or deleted, or is still registered. -/
  ledger : rs.count (.added 0) = io.scheduled.length + rs.count (.deleted true) + io.registered
  failed : ∀ call, Legal io call → call.ok = false →
    ∃ r io', callStep io call = some (r, io') ∧ Unchanged io io'

/-- The invariant of runs. -/
structure Account (rs : List Result) (io : IOManager) : Prop where
  books : Books io
  large : 32 ≤ io.contexts.length
  ledger : rs.count (.added 0) = io.scheduled.length + rs.count (.deleted true) + io.registered

theorem account_new (threads : Nat) : Account [] (new threads) := by
  refine ⟨books_new threads, Nat.le_of_eq (length_new threads).symm, ?_⟩
  have hreg : (new threads).registered = 0 := registered_contextResize _ 32
  rw [hreg]
  rfl

theorem call_account {rs : List Result} {io : IOManager} (h : Account rs io) {call : Call}
    (hlegal : Legal io call) :
    ∃ r io', callStep io call = some (r, io') ∧ Account (rs ++ [r]) io' := by
  obtain ⟨r, io', hstep, hout⟩ := call_books h.books h.large call hlegal
  refine ⟨r, io', hstep, hout.books, Nat.le_trans h.large hout.size, ?_⟩
  have hledger := h.ledger
  have hbalance := hout.ledger
  rw [List.count_append, List.count_append]
  simp only [Result.adds, Result.dels] at hbalance
  omega

theorem Account.accounted {rs : List Result} {io : IOManager} (h : Account rs io) :
    Accounted rs io := by
  have hbooks := h.books
  refine ⟨hbooks.counted, fun c hc event => (hbooks.ordered c hc).complete event, ?_, h.ledger, ?_⟩
  · intro p c hc
    obtain ⟨hlt, -⟩ := List.getElem?_eq_some_iff.mp hc
    refine ⟨?_, hbooks.mask hc⟩
    rw [hbooks.tabled.fd p c hc]
    exact hbooks.tabled.getElem? hlt
  · intro call hlegal hok
    obtain ⟨r, io', hstep, hout⟩ := call_books hbooks h.large call hlegal
    exact ⟨r, io', hstep, hout.failed hok⟩

/-- Every sequence of calls in threads with a scheduler goes through, whether or not their
`epoll_ctl` fails: no assertion fails, and afterwards the counter, the contexts, the kernel's
masks and the results of the calls agree. -/
theorem event_accounting (threads : Nat) (calls : List Call)
    (hlegal : Along callStep Legal (new threads) calls) :
    ∃ rs io, run callStep (new threads) calls = some (rs, io) ∧ Accounted rs io := by
  obtain ⟨rs, io, hrun, haccount⟩ := run_history_along (I := Account)
    (fun _ _ _ h hl => call_account h hl) calls [] (account_new threads) hlegal
  exact ⟨rs, io, hrun, haccount.accounted⟩

/-- Two descriptors, one of them beyond the first table; an `addEvent` that fails, a
`cancelEvent`, a `delEvent` that fails and one that does not. -/
theorem event_accounting_calls :
    ∃ rs io, run callStep (new 1) [.addEvent 40 .READ (some 0) 1 none true,
        .addEvent 5 .WRITE (some 0) 2 (some 7) true, .addEvent 5 .READ (some 0) 2 none false,
        .cancelEvent 40 .READ true, .delEvent 5 .WRITE false, .delEvent 5 .WRITE true,
        .cancelAll 5 true] = some (rs, io) ∧ Accounted rs io :=
  event_accounting 1 [.addEvent 40 .READ (some 0) 1 none true,
    .addEvent 5 .WRITE (some 0) 2 (some 7) true, .addEvent 5 .READ (some 0) 2 none false,
    .cancelEvent 40 .READ true, .delEvent 5 .WRITE false, .delEvent 5 .WRITE true,
    .cancelAll 5 true] (by decide +kernel)

/-- A plain thread registers its fiber: the bit is set and the context has no scheduler. The
`cancelEvent` that follows schedules through the null pointer. -/
theorem event_without_scheduler :
    (¬ ∀ (threads : Nat) (calls : List Call), Along callStep Unregistered (new threads) calls →
      ∃ rs io, run callStep (new threads) calls = some (rs, io) ∧ Accounted rs io)
    ∧ run callStep (new 2) [.addEvent 5 .READ none 1 none true, .cancelEvent 5 .READ true]
      = none := by
  refine ⟨fun hall => ?_, by decide +kernel⟩
  obtain ⟨rs, io, hrun, haccounted⟩ := hall 2 [.addEvent 5 .READ none 1 none true]
    (by decide +kernel)
  have hset : (run callStep (new 2) [.addEvent 5 .READ none 1 none true]).map
      (fun r => r.2.contexts[5]?)
        = some (some ⟨⟨none, some 1, none⟩, .empty, 5, ⟨true, false⟩⟩) := by
    decide +kernel
  rw [hrun] at hset
  have hmem := List.mem_of_getElem? (Option.some.inj hset)
  have hcomplete := ((haccounted.context _ hmem .READ).1.mp rfl).1
  exact absurd hcomplete (by decide)

end Io

end HrServer
