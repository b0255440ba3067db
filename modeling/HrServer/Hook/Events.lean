/-
HrServer.Hook.Events — the registrations of hooked calls in the contexts
of `iomanager.cc`.

`shown` reads `waiting` and `queued` off a manager: the fiber of a waiting
call stands in the context of its descriptor, and a triggered one is in
the queue of the scheduler. The functions of `HrServer.Io.Core` then do
what the steps of `HrServer.Hook.Core` say: `addEvent` is `register`,
`cancelEvent` and `cancelAll` are `trigger`, and so is the dispatch of an
entry, once for every event it finds.
-/
import HrServer.Hook.CoreTheorems
import HrServer.Io.Accounting

namespace HrServer

open Lib

namespace Hook

open Io (Event EventContext FdContext IOManager Events Tabled Ordered)

/-! ## What a manager shows -/

/-- The call whose fiber stands in a context. -/
def waitingIn (io : IOManager) (fd : Nat) (event : Event) : Option Nat :=
  match io.context fd with
  | some c => (c.getContext event).fiber
  | none => none

/-- How often the fiber of a call was put into the queue. -/
def entries (io : IOManager) (f : Nat) : Nat := io.scheduled.countP fun e => e.2 = .fiber f

/-- `s` with the registrations of a manager; `taken` counts the entries that workers have
taken from the queue. -/
def shown (io : IOManager) (taken : Nat → Nat) (s : System) : System :=
  { s with waiting := waitingIn io, queued := fun f => entries io f - taken f }

/-! ## Managers of hooked calls -/

/-- A manager that only hooked calls use. -/
structure Serves (io : IOManager) (taken : Nat → Nat) : Prop where
  tabled : Tabled io
  large : 32 ≤ io.contexts.length
  ordered : ∀ c ∈ io.contexts, Ordered c
  fibers : ∀ c ∈ io.contexts, ∀ event, (c.getContext event).cb = none
  taken : ∀ f, taken f ≤ entries io f

variable {io io' : IOManager} {taken : Nat → Nat} {s : System} {fd : Nat} {c c' : FdContext}
  {event : Event}

theorem getElem?_beyond (h : Tabled io) (hfd : io.contexts.length ≤ fd) :
    io.fdContexts[fd]? = none := by
  rw [List.getElem?_eq_none_iff, h.length]
  exact hfd

/-- The context of a descriptor was replaced. -/
theorem context_set (h : Tabled io) (hc : io.contexts[fd]? = some c)
    (ht : io'.fdContexts = io.fdContexts) (hcs : io'.contexts = io.contexts.set fd c') (n : Nat) :
    io'.context n = if n = fd then some c' else io.context n := by
  obtain ⟨hlt, -⟩ := List.getElem?_eq_some_iff.mp hc
  unfold IOManager.context
  rw [ht, hcs]
  by_cases hn : n < io.contexts.length
  · rw [h.getElem? hn]
    dsimp only
    split
    · next heq => rw [heq, List.getElem?_set_self hlt]
    · next hne => rw [List.getElem?_set_ne (Ne.symm hne)]
  · rw [getElem?_beyond h (Nat.not_lt.mp hn), if_neg (by omega)]

theorem Serves.set (h : Serves io taken) (hfd : c'.fd = fd) (hordered : Ordered c')
    (hfibers : ∀ event, (c'.getContext event).cb = none)
    (ht : io'.fdContexts = io.fdContexts) (hcs : io'.contexts = io.contexts.set fd c')
    (hentries : ∀ f, entries io f ≤ entries io' f) : Serves io' taken := by
  have hmem : ∀ d ∈ io'.contexts, d ∈ io.contexts ∨ d = c' := by
    intro d hd
    rw [hcs] at hd
    exact List.mem_or_eq_of_mem_set hd
  refine ⟨h.tabled.set hfd ht hcs, by rw [hcs, List.length_set]; exact h.large, ?_, ?_,
    fun f => (h.taken f).trans (hentries f)⟩
  · intro d hd
    rcases hmem d hd with hd | rfl
    · exact h.ordered d hd
    · exact hordered
  · intro d hd
    rcases hmem d hd with hd | rfl
    · exact h.fibers d hd
    · exact hfibers

/-- The call that waits for an event, and the task that is scheduled when it is triggered. -/
theorem Serves.tasks (h : Serves io taken) (hc : io.contexts[fd]? = some c) (event : Event) :
    (c.getContext event).fiber = none ∧ c.tasks event = [] ∨
      ∃ scheduler f, (c.getContext event).fiber = some f
        ∧ c.tasks event = [(scheduler, .fiber f)] := by
  have hmem := List.mem_of_getElem? hc
  cases hev : c.events.has event with
  | false =>
    have hempty := (h.ordered c hmem).empty hev
    exact .inl ⟨by rw [hempty]; rfl, Io.tasks_empty hempty⟩
  | true =>
    obtain ⟨scheduler, task, hctx⟩ := (h.ordered c hmem).registered hev
    cases task with
    | cb f =>
      have hcb := h.fibers c hmem event
      rw [hctx] at hcb
      cases hcb
    | fiber f => exact .inr ⟨scheduler, f, by rw [hctx]; rfl, Io.tasks_of hctx⟩

@[simp] theorem shown_waiting : (shown io taken s).waiting = waitingIn io := rfl

@[simp] theorem shown_calls : (shown io taken s).calls = s.calls := rfl

@[simp] theorem shown_timers : (shown io taken s).timers = s.timers := rfl

@[simp] theorem shown_isOpen : (shown io taken s).isOpen = s.isOpen := rfl

theorem mem_of_context (h : io.context fd = some c) : c ∈ io.contexts := by
  unfold IOManager.context at h
  split at h
  · exact List.mem_of_getElem? h
  · cases h

theorem waitingIn_eq (h : Tabled io) (hc : io.contexts[fd]? = some c) (event : Event) :
    waitingIn io fd event = (c.getContext event).fiber := by
  obtain ⟨hlt, -⟩ := List.getElem?_eq_some_iff.mp hc
  rw [waitingIn, h.context hlt, hc]

theorem waitingIn_beyond (h : Tabled io) (hfd : io.contexts.length ≤ fd) (event : Event) :
    waitingIn io fd event = none := by
  rw [waitingIn, IOManager.context, getElem?_beyond h hfd]

/-- One event of a context was replaced. -/
theorem waitingIn_set (h : Tabled io) (hc : io.contexts[fd]? = some c) (event : Event)
    (hother : ∀ e, e ≠ event → c'.getContext e = c.getContext e)
    (ht : io'.fdContexts = io.fdContexts) (hcs : io'.contexts = io.contexts.set fd c') :
    waitingIn io' = fun n e =>
      if n = fd ∧ e = event then (c'.getContext event).fiber else waitingIn io n e := by
  funext n e
  rw [waitingIn, context_set h hc ht hcs]
  by_cases hn : n = fd
  · subst hn
    rw [if_pos rfl, waitingIn_eq h hc]
    by_cases he : e = event
    · simp [he]
    · simp [he, hother e he]
  · rw [if_neg hn, if_neg (fun hne => hn hne.1), waitingIn]

/-! ## `trigger` -/

theorem trigger_none (h : s.waiting fd event = none) : s.trigger fd event = s := by
  unfold System.trigger
  rw [h]

theorem cancelAll_free (h : ∀ event, s.waiting fd event = none) (ok : Bool) :
    s.cancelAll fd ok = s := by
  have hread : s.trigger fd .READ = s := trigger_none (h .READ)
  have hwrite : s.trigger fd .WRITE = s := trigger_none (h .WRITE)
  rw [System.cancelAll, hread, hwrite, ite_self]

/-- An event of a context is triggered, if it is registered. -/
theorem Serves.fire (h : Serves io taken) (hc : io.contexts[fd]? = some c) (event : Event)
    (s : System) :
    Serves (io.fire fd c event) taken
      ∧ shown (io.fire fd c event) taken s = (shown io taken s).trigger fd event := by
  have hmem := List.mem_of_getElem? hc
  have hentries : ∀ f, entries (io.fire fd c event) f
      = entries io f + (c.tasks event).countP fun e => e.2 = .fiber f := by
    intro f
    rw [entries, IOManager.fire, List.countP_append, entries]
  have hwaiting : waitingIn (io.fire fd c event)
      = fun n e => if n = fd ∧ e = event then none else waitingIn io n e := by
    have hset : waitingIn (io.fire fd c event) = fun n e => if n = fd ∧ e = event
        then ((c.cleared event).getContext event).fiber else waitingIn io n e :=
      waitingIn_set h.tabled hc event (fun e he => by rw [Io.cleared_getContext, if_neg he])
        rfl rfl
    rwa [Io.cleared_getContext, if_pos rfl] at hset
  refine ⟨h.set (by rw [Io.cleared_fd]; exact h.tabled.fd fd c hc)
    ((h.ordered c hmem).clear event) (fun e => ?_) rfl rfl
    (fun f => by rw [hentries]; exact Nat.le_add_right _ _), ?_⟩
  · rw [Io.cleared_getContext]
    split
    · rfl
    · exact h.fibers c hmem e
  · rcases h.tasks hc event with ⟨hnone, htasks⟩ | ⟨scheduler, f, hf, htasks⟩
    · rw [trigger_none (by rw [shown_waiting, waitingIn_eq h.tabled hc, hnone])]
      unfold shown
      rw [hwaiting]
      congr 1
      · funext n e
        split
        · next heq => rw [heq.1, heq.2, waitingIn_eq h.tabled hc, hnone]
        · rfl
      · funext f
        rw [hentries, htasks, List.countP_nil, Nat.add_zero]
    · have hw : (shown io taken s).waiting fd event = some f := by
        rw [shown_waiting, waitingIn_eq h.tabled hc, hf]
      rw [System.trigger, hw]
      unfold shown System.setWaiting System.setQueued
      dsimp only
      congr 1
      funext g
      have hle := h.taken g
      rw [hentries, htasks]
      by_cases hg : g = f
      · subst hg
        simp
        omega
      · have hfg : f ≠ g := fun heq => hg heq.symm
        simp [hg, hfg]

/-- The kernel's list is not part of it. -/
theorem Serves.told (h : Serves io taken) (fd p : Nat) (mask : Events) :
    Serves (io.told fd p mask) taken :=
  ⟨⟨h.tabled.table, h.tabled.fd⟩, h.large, h.ordered, h.fibers, h.taken⟩

theorem shown_told (fd p : Nat) (mask : Events) :
    shown (io.told fd p mask) taken s = shown io taken s := rfl

/-- The test, the trigger and the decrement. The assertion of `triggerEvent` passes for a
registered event only. -/
theorem Serves.triggerIf (h : Serves io taken) (hc : io.contexts[fd]? = some c) {b : Bool}
    (hrun : Io.triggerIf b fd event io = .ok () io') (s : System) :
    Serves io' taken ∧ (∃ c', io'.contexts[fd]? = some c')
      ∧ shown io' taken s
        = if b then (shown io taken s).trigger fd event else shown io taken s := by
  cases b with
  | false =>
    cases hrun
    exact ⟨h, ⟨c, hc⟩, rfl⟩
  | true =>
    have hmem := List.mem_of_getElem? hc
    obtain ⟨hlt, -⟩ := List.getElem?_eq_some_iff.mp hc
    cases hev : c.events.has event with
    | false =>
      have hfault : Io.triggerIf true fd event io = .error .triggerEvent io := by
        rw [Io.triggerIf, if_pos rfl]
        refine bind_error ?_
        rw [Io.triggerEvent, bind_ok (Io.deref_eq hc), hev]
        rfl
      rw [hfault] at hrun
      cases hrun
    | true =>
      have hfire := Io.triggerIf_eq hc (h.ordered c hmem) event
      rw [hev, hrun] at hfire
      cases hfire
      obtain ⟨hserves, hshown⟩ := h.fire hc event s
      exact ⟨hserves, ⟨_, List.getElem?_set_self hlt⟩, hshown⟩

/-! ## The calls -/

/-- `cancelEvent` and `cancelAll` return what their part on the context returns. -/
theorem cancelled_eq {call : Io.Call} {x : Io.Op Bool} {r : Io.Result}
    (hperform : call.perform = do return .cancelled (← x))
    (hcall : Io.callStep io call = some (r, io')) : ∃ b, x io = .ok b io' := by
  rw [Io.callStep, hperform] at hcall
  cases hx : x io with
  | error f io1 =>
    rw [bind_error hx] at hcall
    cases hcall
  | ok b io1 =>
    rw [bind_ok hx] at hcall
    cases hcall
    exact ⟨b, rfl⟩

/-- `cancelEvent` triggers the event. -/
theorem Serves.cancelEvent (h : Serves io taken) {ok : Bool} {r : Io.Result}
    (hcall : Io.callStep io (.cancelEvent fd event ok) = some (r, io')) (s : System) :
    Serves io' taken ∧ shown io' taken s
      = if ok then (shown io taken s).trigger fd event else shown io taken s := by
  obtain ⟨b, hrun⟩ := cancelled_eq rfl hcall
  rcases h.tabled.withContext fd (Io.cancelEvent · event ok) with ⟨hfd, heq⟩ | ⟨c, hc, heq⟩
  · rw [heq] at hrun
    cases hrun
    rw [trigger_none (waitingIn_beyond h.tabled hfd event), ite_self]
    exact ⟨h, rfl⟩
  · rw [heq] at hrun
    rw [Io.cancelEvent_eq hc (h.ordered c (List.mem_of_getElem? hc))] at hrun
    split at hrun
    · next hdone =>
      cases hrun
      rw [if_pos (Bool.and_eq_true_iff.mp hdone).1]
      exact (h.told c.fd fd _).fire hc event s
    · next hnot =>
      cases hrun
      refine ⟨h, ?_⟩
      cases ok with
      | false => rfl
      | true =>
        have hev : c.events.has event = false := by simpa using hnot
        have hempty := (h.ordered c (List.mem_of_getElem? hc)).empty hev
        rw [if_pos rfl, trigger_none]
        rw [shown_waiting, waitingIn_eq h.tabled hc, hempty]
        rfl

/-- `cancelAll` triggers both events. -/
theorem Serves.cancelAll (h : Serves io taken) {ok : Bool} {r : Io.Result}
    (hcall : Io.callStep io (.cancelAll fd ok) = some (r, io')) (s : System) :
    Serves io' taken ∧ shown io' taken s = (shown io taken s).cancelAll fd ok := by
  obtain ⟨b, hrun⟩ := cancelled_eq rfl hcall
  rcases h.tabled.withContext fd (Io.cancelAll · ok) with ⟨hfd, heq⟩ | ⟨c, hc, heq⟩
  · rw [heq] at hrun
    cases hrun
    exact ⟨h, (cancelAll_free (waitingIn_beyond h.tabled hfd) ok).symm⟩
  · have hordered := h.ordered c (List.mem_of_getElem? hc)
    obtain ⟨hlt, -⟩ := List.getElem?_eq_some_iff.mp hc
    rw [heq] at hrun
    rw [Io.cancelAll_eq hc hordered] at hrun
    split at hrun
    · next hdone =>
      cases hrun
      obtain ⟨hread, hshown⟩ := (h.told c.fd fd .NONE).fire hc .READ s
      obtain ⟨hwrite, hshown'⟩ := hread.fire (List.getElem?_set_self hlt) .WRITE s
      rw [System.cancelAll, if_pos (Bool.and_eq_true_iff.mp hdone).1, hshown', hshown, shown_told]
      exact ⟨hwrite, rfl⟩
    · next hnot =>
      cases hrun
      refine ⟨h, ?_⟩
      cases ok with
      | false => rfl
      | true =>
        have hnone : c.events = .NONE := by simpa using hnot
        have hfree : ∀ event, (shown io taken s).waiting fd event = none := by
          intro event
          rw [shown_waiting, waitingIn_eq h.tabled hc, hordered.empty]
          · rfl
          · rw [hnone]
            cases event <;> rfl
        exact (cancelAll_free hfree true).symm

/-- The events of `real_events`, in the order in which they are triggered. -/
def triggers (real : Events) : List Event :=
  (if real.read then [.READ] else []) ++ if real.write then [.WRITE] else []

theorem foldl_triggers (real : Events) (s : System) (fd : Nat) :
    (triggers real).foldl (fun s event => s.trigger fd event) s
      = if real.write then (if real.read then s.trigger fd .READ else s).trigger fd .WRITE
        else if real.read then s.trigger fd .READ else s := by
  obtain ⟨read, write⟩ := real
  cases read <;> cases write <;> rfl

/-- The dispatch of an entry that passes its assertions triggers the events it is for. -/
theorem Serves.handle (h : Serves io taken) {mask : Io.Mask} {ok : Bool}
    (hrun : Io.handle (.fd fd mask) ok io = .ok () io') (s : System) :
    Serves io' taken ∧ ∃ events : List Event,
      shown io' taken s = events.foldl (fun s event => s.trigger fd event) (shown io taken s) := by
  cases hc : io.contexts[fd]? with
  | none =>
    have hfault : Io.handle (.fd fd mask) ok io = .error .dangling io := by
      rw [Io.handle]
      refine bind_error ?_
      rw [Io.deref, bind_ok (Io.get_eq io), hc]
      rfl
    rw [hfault] at hrun
    cases hrun
  | some c =>
    rw [Io.handle, bind_ok (Io.deref_eq hc)] at hrun
    dsimp only at hrun
    split at hrun
    · cases hrun
      exact ⟨h, [], rfl⟩
    · cases ok with
      | false =>
        rw [bind_ok (Io.epollCtl_failed _ _ _ _ io)] at hrun
        cases hrun
        exact ⟨h, [], rfl⟩
      | true =>
        rw [bind_ok (Io.epollCtl_done _ _ _ _ io (Io.removal_op _)), if_pos rfl] at hrun
        cases hread : Io.triggerIf (Io.realEvents mask c.events).read fd .READ
            (io.told c.fd fd (c.events.diff (Io.realEvents mask c.events))) with
        | error f io1 =>
          rw [bind_error hread] at hrun
          cases hrun
        | ok u io1 =>
          rw [bind_ok hread] at hrun
          obtain ⟨h1, ⟨c1, hc1⟩, hshown⟩ := (h.told c.fd fd _).triggerIf hc hread s
          obtain ⟨h2, -, hshown'⟩ := h1.triggerIf hc1 hrun s
          refine ⟨h2, triggers (Io.realEvents mask c.events), ?_⟩
          rw [foldl_triggers, hshown', hshown, shown_told]

/-- A larger table: the new contexts have no registration. -/
theorem Serves.grown (h : Serves io taken) {size : Nat} (hsize : io.contexts.length ≤ size) :
    Serves (io.contextResize size) taken ∧ waitingIn (io.contextResize size) = waitingIn io := by
  have hnew := h.tabled.contextResize hsize
  have htabled := h.tabled.grown hsize
  obtain ⟨hmem, hlen⟩ : (∀ c ∈ (io.contextResize size).contexts, c ∈ io.contexts ∨ c = .fresh c.fd)
      ∧ io.contexts.length ≤ (io.contextResize size).contexts.length := by
    obtain ⟨new, hcontexts, hfresh⟩ := (Io.unchanged_grown h.tabled hsize).contexts
    rw [hcontexts, List.length_append]
    exact ⟨fun c hc => (List.mem_append.mp hc).imp_right (hfresh c), Nat.le_add_right _ _⟩
  refine ⟨⟨htabled, h.large.trans hlen, ?_, ?_, ?_⟩, ?_⟩
  · intro c hc
    rcases hmem c hc with hold | hfresh
    · exact h.ordered c hold
    · rw [hfresh]
      exact Io.fresh_ordered _
  · intro c hc event
    rcases hmem c hc with hold | hfresh
    · exact h.fibers c hold event
    · rw [hfresh]
      cases event <;> rfl
  · intro f
    rw [entries, hnew]
    exact h.taken f
  · funext fd event
    by_cases hfd : fd < io.contexts.length
    · have hc : (io.contextResize size).contexts[fd]? = some io.contexts[fd] := by
        rw [hnew, List.getElem?_append_left hfd, List.getElem?_eq_getElem hfd]
      rw [waitingIn_eq htabled hc, waitingIn_eq h.tabled (List.getElem?_eq_getElem hfd)]
    · rw [waitingIn_beyond h.tabled (Nat.not_lt.mp hfd)]
      by_cases hsz : fd < size
      · have hc := h.tabled.getElem?_grown (Nat.not_lt.mp hfd) hsz
        rw [waitingIn_eq htabled hc]
        cases event <;> rfl
      · refine waitingIn_beyond htabled ?_ event
        rw [hnew]
        simp
        omega

/-- `addEvent` finds the context of its descriptor, or makes it. -/
theorem Serves.lookupOrGrow (h : Serves io taken) (fd : Nat) :
    ∃ io1 c, Io.lookupOrGrow fd io = .ok fd io1 ∧ Serves io1 taken ∧ waitingIn io1 = waitingIn io
      ∧ io1.scheduled = io.scheduled ∧ io1.contexts[fd]? = some c := by
  by_cases hfd : fd < io.contexts.length
  · exact ⟨io, _, Io.lookupOrGrow_found h.tabled hfd, h, rfl, rfl, List.getElem?_eq_getElem hfd⟩
  · have hge := Nat.not_lt.mp hfd
    have hlarge := h.large
    have hsize : io.contexts.length ≤ fd * 3 / 2 := by omega
    obtain ⟨hserves, hwaiting⟩ := h.grown hsize
    exact ⟨_, _, Io.lookupOrGrow_grown h.tabled h.large hge, hserves, hwaiting,
      (Io.unchanged_grown h.tabled hsize).scheduled,
      h.tabled.getElem?_grown hge (by omega)⟩

/-- `addEvent` registers the fiber of the call, unless `epoll_ctl` fails. A second
registration of an event fails its assertion. -/
theorem Serves.addEvent (h : Serves io taken) {scheduler f : Nat} {ok : Bool} {r : Io.Result}
    (hcall : Io.callStep io (.addEvent fd event (some scheduler) f none ok) = some (r, io'))
    (s : System) :
    waitingIn io fd event = none ∧ Serves io' taken ∧ (r = .added 0 ↔ ok = true)
      ∧ shown io' taken s
        = if ok then (shown io taken s).setWaiting fd event (some f) else shown io taken s := by
  obtain ⟨io1, c, hlookup, h1, hwaiting, hscheduled, hc⟩ := h.lookupOrGrow fd
  have hsame : shown io1 taken s = shown io taken s := by
    unfold shown entries
    rw [hwaiting, hscheduled]
  have hmem := List.mem_of_getElem? hc
  rw [Io.callStep, Io.Call.perform, bind_ok hlookup] at hcall
  cases hev : c.events.has event with
  | true =>
    have hfault : Io.addEvent fd event (some scheduler) f none ok io1
        = .error .addEventTwice io1 := by
      rw [Io.addEvent, bind_ok (Io.deref_eq hc), hev]
      rfl
    rw [bind_error hfault] at hcall
    cases hcall
  | false =>
    have hempty := (h1.ordered c hmem).empty hev
    have hnone : waitingIn io fd event = none := by
      rw [← hwaiting, waitingIn_eq h1.tabled hc, hempty]
      rfl
    have hadd := Io.addEvent_eq hc hev hempty (some scheduler) f none ok
    cases ok with
    | false =>
      rw [bind_ok hadd] at hcall
      cases hcall
      exact ⟨hnone, h1, by decide, hsame⟩
    | true =>
      rw [bind_ok hadd] at hcall
      obtain ⟨rfl, hcontexts, htable, hqueue⟩ : r = .added 0
          ∧ io'.contexts = io1.contexts.set fd (c.registered event (.of scheduler (.fiber f)))
          ∧ io'.fdContexts = io1.fdContexts ∧ io'.scheduled = io1.scheduled := by
        cases hcall
        exact ⟨rfl, rfl, rfl, rfl⟩
      have hself : (c.registered event (.of scheduler (.fiber f))).getContext event
          = .of scheduler (.fiber f) := by
        rw [Io.registered_getContext, if_pos rfl]
      have hother : ∀ e, e ≠ event →
          (c.registered event (.of scheduler (.fiber f))).getContext e = c.getContext e :=
        fun e he => by rw [Io.registered_getContext, if_neg he]
      refine ⟨hnone, ?_, by decide, ?_⟩
      · refine h1.set (by rw [Io.registered_fd]; exact h1.tabled.fd fd c hc)
          ((h1.ordered c hmem).register event scheduler (.fiber f)) (fun e => ?_) htable hcontexts
          (fun f => by rw [entries, entries, hqueue])
        by_cases he : e = event
        · rw [he, hself]
          rfl
        · rw [hother e he]
          exact h1.fibers c hmem e
      · rw [if_pos rfl, ← hsame]
        unfold shown entries System.setWaiting
        rw [waitingIn_set h1.tabled hc event hother htable hcontexts, hself, hqueue]
        rfl

end Hook

end HrServer
