/-
HrServer.Hook.Managed — hooked calls on an `IOManager`.

`Managed` is the system of `HrServer.Hook.Core` with the registrations
where the source keeps them: in the contexts of `iomanager.cc` and in the
queue of the scheduler. Its steps run the functions of `HrServer.Io.Core`.

A step of it is followed by the steps of `HrServer.Hook.Core` that it
stands for (`next_follows`), and so is a run (`run_managed`). So what is
proved about runs of `HrServer.Hook.Core` holds on an `IOManager`:
`context_watched` says it of the calls with a timeout, and
`managed_closed_call` of those whose descriptor is closed.
-/
import HrServer.Hook.Events
import HrServer.Hook.Reuse
import HrServer.Hook.Timeout

namespace HrServer

open Lib

namespace Hook

open Io (Event FdContext IOManager Tabled)

/-! ## The managed system -/

/-- `taken` counts the entries of a call's fiber that workers have taken from the queue, and
`rest` is the state of the calls, the timers and the descriptors; its own registrations are
not used. -/
structure Managed where
  io : IOManager
  taken : Nat → Nat
  rest : System

inductive Act where
  /-- A step of a thread; `scheduler` is its `Scheduler::GetThis()`. -/
  | thread (scheduler : Nat) (l : Label)
  /-- An idle thread handles an entry that `epoll_wait` has returned. -/
  | handle (p : Nat) (mask : Io.Mask) (ok : Bool)
  deriving DecidableEq

namespace Managed

def system (m : Managed) : System := shown m.io m.taken m.rest

def start (threads : Nat) : Managed := ⟨Io.new threads, fun _ => 0, .init⟩

/-- The next step of a call; it registers with `iom->addEvent(fd, event)`. -/
def advance (m : Managed) (scheduler c : Nat) (ok : Bool) : Option Managed :=
  let call := m.rest.calls c
  if call.pc = .register then
    (Io.callStep m.io (.addEvent call.fd call.event (some scheduler) c none ok)).map fun r =>
      { m with io := r.2, rest := m.rest.goto c (if r.1 = .added 0 then .yield else .abandon) }
  else (m.rest.advance c ok).map fun rest => { m with rest := rest }

/-- The next step of a timer callback; its last one is `iom->cancelEvent(fd, event)`. -/
def callback (m : Managed) (t : Nat) (ok : Bool) : Option Managed :=
  let call := m.rest.calls (m.rest.timers t).call
  if (m.rest.timers t).stage = .marked then
    (Io.callStep m.io (.cancelEvent call.fd call.event ok)).map fun r =>
      { m with io := r.2, rest := m.rest.setStage t .ended }
  else (m.rest.callback t ok).map fun rest => { m with rest := rest }

/-- A worker takes the fiber from the queue. -/
def resume (m : Managed) (c : Nat) : Option Managed :=
  if (m.rest.calls c).pc = .suspended ∧ m.taken c < entries m.io c then
    some { m with
      taken := fun f => if f = c then m.taken c + 1 else m.taken f
      rest := m.rest.goto c .resumed }
  else none

def next (m : Managed) : Act → Option Managed
  | .thread scheduler (.advance c ok) => m.advance scheduler c ok
  | .thread _ (.callback t ok) => m.callback t ok
  | .thread _ (.resume c) => m.resume c
  | .thread _ (.cancelAll fd ok) =>
    (Io.callStep m.io (.cancelAll fd ok)).map fun r => { m with io := r.2 }
  -- an idle thread dispatches when it handles an entry
  | .thread _ (.dispatch _ _) => none
  | .thread _ l => (m.rest.next l).map fun rest => { m with rest := rest }
  | .handle p mask ok =>
    match Io.handle (.fd p mask) ok m.io with
    | .ok _ io => some { m with io := io }
    | .error _ _ => none

/-- A condition on the steps of the threads. -/
def Meets (guard : System → Label → Prop) (m : Managed) : Act → Prop
  | .thread _ l => guard m.system l
  | .handle _ _ _ => True

end Managed

/-- A step of some thread. -/
def managedStep (m : Managed) (a : Act) : Option (Unit × Managed) :=
  (m.next a).map fun m' => ((), m')

/-! ## Steps -/

section steps

variable {io : IOManager} {taken : Nat → Nat} {s s' : System} {m m' : Managed}
  {guard : System → Label → Prop}

/-- Triggers are `dispatch` steps. -/
theorem follows_triggers (hguard : ∀ s fd event, guard s (.dispatch fd event)) (fd : Nat)
    (events : List Event) (s : System) :
    Follows step guard s (events.foldl (fun s event => s.trigger fd event) s) := by
  induction events generalizing s with
  | nil => exact .refl step guard s
  | cons event events ih => exact .cons (hguard s fd event) rfl (ih _)

/-- What `Timer::cancel` does depends on the calls and the timers only. -/
theorem cancelTimer_cases (s : System) (n : Nat) :
    (∃ t, ∀ s' : System, s'.calls = s.calls → s'.timers = s.timers →
      s'.cancelTimer n = s'.setStage t .cancelled)
      ∨ ∀ s' : System, s'.calls = s.calls → s'.timers = s.timers → s'.cancelTimer n = s' := by
  cases htimer : (s.calls n).timer with
  | none => exact .inr fun s' hc _ => by simp [System.cancelTimer, hc, htimer]
  | some t =>
    by_cases hp : (s.timers t).stage = .pending
    · exact .inl ⟨t, fun s' hc ht => by simp [System.cancelTimer, hc, ht, htimer, hp]⟩
    · exact .inr fun s' hc ht => by simp [System.cancelTimer, hc, ht, htimer, hp]

theorem cancelTimer_shown (n : Nat) :
    (shown io taken s).cancelTimer n = shown io taken (s.cancelTimer n) := by
  obtain ⟨t, hcancel⟩ | hsame := cancelTimer_cases s n
  · rw [hcancel s rfl rfl, hcancel (shown io taken s) rfl rfl]
    rfl
  · rw [hsame s rfl rfl, hsame (shown io taken s) rfl rfl]

/-- A step of a call that does not register leaves the registrations as they are. -/
theorem advance_shown {n : Nat} {ok : Bool} (hpc : (s.calls n).pc ≠ .register)
    (h : s.advance n ok = some s') :
    (shown io taken s).advance n ok = some (shown io taken s') := by
  obtain ⟨hp, rfl⟩ | ⟨hp, -⟩ | ⟨hp, rfl⟩ | ⟨hp, rfl⟩ | ⟨hp, rfl⟩ | ⟨hp, rfl⟩ | ⟨hp, rfl⟩ :=
    System.advance_eq_some h
  · simp only [System.advance, shown_calls, hp, System.arm]
    cases (s.calls n).timeout <;> rfl
  · exact absurd hp hpc
  · simp only [System.advance, shown_calls, hp, cancelTimer_shown]
    rfl
  · simp only [System.advance, shown_calls, hp]
    rfl
  · simp only [System.advance, shown_calls, hp, cancelTimer_shown]
    rfl
  · simp only [System.advance, shown_calls, hp]
    rfl
  · simp only [System.advance, shown_calls, hp]
    rfl

/-- So does a step of a callback before its `cancelEvent`. -/
theorem callback_shown {t : Nat} {ok : Bool} (hstage : (s.timers t).stage ≠ .marked)
    (h : s.callback t ok = some s') :
    (shown io taken s).callback t ok = some (shown io taken s') := by
  obtain ⟨hs, rfl⟩ | ⟨hs, rfl⟩ | ⟨hs, -⟩ := System.callback_eq_some h
  · simp only [System.callback, shown_timers, shown_calls, hs]
    rfl
  · simp only [System.callback, shown_timers, shown_calls, hs]
    rfl
  · exact absurd hs hstage

/-- And so do the steps that have nothing to do with the manager. -/
theorem next_shown {l : Label}
    (hl : match l with
      | .advance _ _ | .callback _ _ | .resume _ | .cancelAll _ _ | .dispatch _ _ => False
      | _ => True) (h : s.next l = some s') :
    (shown io taken s).next l = some (shown io taken s') := by
  cases l with
  | advance | callback | resume | cancelAll | dispatch => exact hl.elim
  | raw c r =>
    obtain ⟨hpc, hopen, rfl⟩ := System.raw_eq_some h
    exact if_pos ⟨hpc, hopen⟩
  | expire t =>
    obtain ⟨hs, rfl⟩ := System.expire_eq_some h
    exact if_pos hs
  | openFd fd =>
    obtain ⟨hopen, rfl⟩ := System.openFd_eq_some h
    exact if_neg (by simpa using hopen)
  | closeFile fd =>
    obtain ⟨hopen, rfl⟩ := System.closeFile_eq_some h
    exact if_pos hopen
  | begin | create | setTimeout | setUserNonblock | del =>
    cases h
    rfl

theorem register_follows {n scheduler : Nat} {ok : Bool} {r : Io.Result}
    (hm : Serves m.io m.taken) (hpc : (m.rest.calls n).pc = .register)
    (hcall : Io.callStep m.io (.addEvent (m.rest.calls n).fd (m.rest.calls n).event
      (some scheduler) n none ok) = some (r, io)) :
    Serves io m.taken ∧ m.system.next (.advance n ok)
      = some (shown io m.taken (m.rest.goto n (if r = .added 0 then .yield else .abandon))) := by
  obtain ⟨hnone, hserves, hr, hshown⟩ :=
    hm.addEvent hcall (m.rest.goto n (if r = .added 0 then .yield else .abandon))
  refine ⟨hserves, ?_⟩
  have hnext : m.system.next (.advance n ok) = m.system.register n ok := by
    simp only [System.next, System.advance, Managed.system, shown_calls, hpc]
  have hwaiting : m.system.waiting (m.system.calls n).fd (m.system.calls n).event = none := hnone
  rw [hnext, hshown, System.register, hwaiting]
  cases ok with
  | true =>
    rw [hr.mpr rfl]
    rfl
  | false =>
    rw [if_neg (fun heq => Bool.noConfusion (hr.mp heq))]
    rfl

theorem cancel_follows {t : Nat} {ok : Bool} {r : Io.Result} (hm : Serves m.io m.taken)
    (hs : (m.rest.timers t).stage = .marked)
    (hcall : Io.callStep m.io (.cancelEvent (m.rest.calls (m.rest.timers t).call).fd
      (m.rest.calls (m.rest.timers t).call).event ok) = some (r, io)) :
    Serves io m.taken ∧ m.system.next (.callback t ok)
      = some (shown io m.taken (m.rest.setStage t .ended)) := by
  obtain ⟨hserves, hshown⟩ := hm.cancelEvent hcall m.rest
  refine ⟨hserves, ?_⟩
  have hstage : shown io m.taken (m.rest.setStage t .ended)
      = (shown io m.taken m.rest).setStage t .ended := rfl
  rw [hstage, hshown]
  simp only [System.next, System.callback, Managed.system, shown_timers, shown_calls, hs]

theorem resume_follows {n : Nat} (hm : Serves m.io m.taken) (h : m.resume n = some m') :
    Serves m'.io m'.taken ∧ m.system.next (.resume n) = some m'.system := by
  simp only [Managed.resume, Option.ite_none_right_eq_some, Option.some.injEq] at h
  obtain ⟨⟨hpc, hlt⟩, rfl⟩ := h
  refine ⟨⟨hm.tabled, hm.large, hm.ordered, hm.fibers, fun f => ?_⟩, ?_⟩
  · dsimp only
    split
    · next hf => rw [hf]; exact hlt
    · exact hm.taken f
  · have hqueued : 0 < m.system.queued n := Nat.sub_pos_of_lt hlt
    refine (if_pos ⟨hpc, hqueued⟩).trans (congrArg some ?_)
    unfold Managed.system shown System.setQueued System.goto System.setCall
    dsimp only
    congr 1
    funext f
    by_cases hf : f = n
    · subst hf
      simp
      omega
    · simp [hf]

/-- A step of the managed system is followed by the steps of `HrServer.Hook.Core` that it
stands for: the step of the thread, or a `dispatch` for each event of the entry. -/
theorem next_follows (hguard : ∀ s fd event, guard s (.dispatch fd event)) {a : Act}
    (hm : Serves m.io m.taken) (hg : m.Meets guard a) (h : m.next a = some m') :
    Serves m'.io m'.taken ∧ Follows step guard m.system m'.system := by
  cases a with
  | handle p mask ok =>
    cases hrun : Io.handle (.fd p mask) ok m.io with
    | error f io =>
      rw [Managed.next, hrun] at h
      cases h
    | ok u io =>
      rw [Managed.next, hrun] at h
      cases h
      obtain ⟨hserves, events, hshown⟩ := hm.handle hrun m.rest
      have hfollows : Follows step guard (shown m.io m.taken m.rest)
          (shown io m.taken m.rest) := by
        rw [hshown]
        exact follows_triggers hguard p events _
      exact ⟨hserves, hfollows⟩
  | thread scheduler l =>
    have hone (hn : m.system.next l = some m'.system) :
        Follows step guard m.system m'.system :=
      .cons hg (step_of_next hn) (.refl step guard m'.system)
    cases l with
    | advance n ok =>
      by_cases hpc : (m.rest.calls n).pc = .register
      · simp only [Managed.next, Managed.advance, if_pos hpc, Option.map_eq_some_iff] at h
        obtain ⟨⟨r, io⟩, hcall, rfl⟩ := h
        exact (register_follows hm hpc hcall).imp_right hone
      · simp only [Managed.next, Managed.advance, if_neg hpc, Option.map_eq_some_iff] at h
        obtain ⟨rest, hrest, rfl⟩ := h
        exact ⟨hm, hone (advance_shown hpc hrest)⟩
    | callback t ok =>
      by_cases hs : (m.rest.timers t).stage = .marked
      · simp only [Managed.next, Managed.callback, if_pos hs, Option.map_eq_some_iff] at h
        obtain ⟨⟨r, io⟩, hcall, rfl⟩ := h
        exact (cancel_follows hm hs hcall).imp_right hone
      · simp only [Managed.next, Managed.callback, if_neg hs, Option.map_eq_some_iff] at h
        obtain ⟨rest, hrest, rfl⟩ := h
        exact ⟨hm, hone (callback_shown hs hrest)⟩
    | resume n => exact (resume_follows hm h).imp_right hone
    | cancelAll fd ok =>
      simp only [Managed.next, Option.map_eq_some_iff] at h
      obtain ⟨⟨r, io⟩, hcall, rfl⟩ := h
      obtain ⟨hserves, hshown⟩ := hm.cancelAll hcall m.rest
      exact ⟨hserves, hone (congrArg some hshown.symm)⟩
    | dispatch => cases h
    | begin | raw | expire | openFd | create | setTimeout | setUserNonblock | del | closeFile =>
      simp only [Managed.next, Option.map_eq_some_iff] at h
      obtain ⟨rest, hrest, rfl⟩ := h
      exact ⟨hm, hone (next_shown trivial hrest)⟩

end steps

/-! ## Runs -/

/-- The contexts of a new manager. -/
theorem new_fresh (threads : Nat) {c : FdContext} (hc : c ∈ (Io.new threads).contexts) :
    c = .fresh c.fd := by
  rw [Io.new_eq] at hc
  obtain ⟨new, hcontexts, hfresh⟩ :=
    (Io.unchanged_grown (Io.tabled_blank threads) (Nat.zero_le 32)).contexts
  rw [hcontexts] at hc
  exact hfresh c hc

theorem serves_new (threads : Nat) : Serves (Io.new threads) fun _ => 0 := by
  refine ⟨Io.tabled_new threads, (Io.length_new threads).ge, ?_, ?_, fun f => Nat.zero_le _⟩
  · intro c hc
    rw [new_fresh threads hc]
    exact Io.fresh_ordered _
  · intro c hc event
    rw [new_fresh threads hc]
    cases event <;> rfl

/-- Nobody waits in the contexts of a new manager. -/
theorem system_start (threads : Nat) : (Managed.start threads).system = .init := by
  have hwaiting : waitingIn (Io.new threads) = fun _ _ => none := by
    funext fd event
    unfold waitingIn
    split
    · next c hc =>
      rw [new_fresh threads (mem_of_context hc)]
      cases event <;> rfl
    · rfl
  unfold Managed.start Managed.system shown
  rw [hwaiting]
  rfl

/-- A run of the managed system is followed by a run of `HrServer.Hook.Core`. -/
theorem run_managed {guard : System → Label → Prop}
    (hguard : ∀ s fd event, guard s (.dispatch fd event)) (threads : Nat) (acts : List Act)
    {os : List Unit} {m : Managed}
    (hal : Along managedStep (Managed.Meets guard) (.start threads) acts)
    (hrun : run managedStep (.start threads) acts = some (os, m)) :
    Serves m.io m.taken ∧ Follows step guard .init m.system := by
  rw [← system_start threads]
  refine run_follows (I := fun m => Serves m.io m.taken) (fun m a o m' hm hg h => ?_) acts
    (serves_new threads) hal hrun
  simp only [managedStep, Option.map_eq_some_iff] at h
  obtain ⟨m1, h1, h2⟩ := h
  cases h2
  exact next_follows hguard hm hg h1

/-- In a run whose steps are all timely, the fiber of a call that is suspended with a timeout
and not queued stands in the context of its descriptor, with the bit of its event set, and the
callback of a timer is left that cancels the event and so wakes the call. -/
theorem context_watched (threads : Nat) (acts : List Act) {os : List Unit} {m : Managed}
    (hal : Along managedStep (Managed.Meets System.Timely) (.start threads) acts)
    (hrun : run managedStep (.start threads) acts = some (os, m)) (n : Nat)
    (hpc : (m.rest.calls n).pc = .suspended) (hto : (m.rest.calls n).timeout ≠ none)
    (hq : entries m.io n ≤ m.taken n) :
    (∃ c, m.io.context (m.rest.calls n).fd = some c
      ∧ c.events.has (m.rest.calls n).event = true
      ∧ (c.getContext (m.rest.calls n).event).fiber = some n)
      ∧ m.system.Watched n ∧ ∃ t, Wakes m.system n t := by
  obtain ⟨hm, labels, os', halong, hlabels⟩ := run_managed (fun _ _ _ => trivial) threads acts hal hrun
  have hi := inv_along_run labels halong hlabels
  obtain ⟨hwaits, hwatched⟩ := hi.suspended hpc hto (Nat.sub_eq_zero_of_le hq)
  refine ⟨?_, hwatched⟩
  have hwaiting : waitingIn m.io (m.rest.calls n).fd (m.rest.calls n).event = some n := hwaits
  unfold waitingIn at hwaiting
  split at hwaiting
  · next c hc =>
    refine ⟨c, hc, ?_, hwaiting⟩
    by_contra hev
    have hempty := (hm.ordered c (mem_of_context hc)).empty (Bool.not_eq_true _ ▸ hev)
    rw [hempty] at hwaiting
    cases hwaiting
  · cases hwaiting

/-- In a fenced run a `do_io` call whose descriptor was closed after it yielded makes no raw call
on a later descriptor of the same number, and returns with -1. -/
theorem managed_closed_call (threads : Nat) (acts : List Act) {os : List Unit} {m : Managed}
    (hal : Along managedStep (Managed.Meets System.Fenced) (.start threads) acts)
    (hrun : run managedStep (.start threads) acts = some (os, m)) (n : Nat)
    (hk : (m.rest.calls n).kind.isIo = true) :
    (m.rest.calls n).touched = false ∧ ((m.rest.calls n).stale = true →
      ∀ k, (m.rest.calls n).pc = .returned k → k = -1) := by
  obtain ⟨-, labels, os', halong, hlabels⟩ :=
    run_managed (fun _ _ _ => trivial) threads acts hal hrun
  have hi := clean_along_run labels halong hlabels
  exact ⟨(hi.calls n).touched hk, (hi.calls n).returned hk⟩

/-- A read with a timeout, up to the end of `YieldToHold`. -/
example :
    (run managedStep (.start 1)
      ([.openFd 5, .create 5 true, .setTimeout 5 .READ (some 100), .begin true (.io .READ) 5,
        .raw 0 .again, .advance 0 true, .advance 0 true, .advance 0 true].map (Act.thread 1))).map
      (fun r => ((r.2.rest.calls 0).pc, r.2.io.context 5))
    = some (.suspended, some ⟨⟨some 1, some 0, none⟩, .empty, 5, ⟨true, false⟩⟩) := by
  decide +kernel

end Hook

end HrServer
