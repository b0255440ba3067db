/-
HrServer.Io.Dispatch — the dispatch loop under any interleaving.

Between an `epoll_wait` and the handling of an entry other threads may
change the registrations. The dispatch loop compares the snapshot with the
registered events only by a non-empty intersection, and then triggers
every event of the snapshot: it goes wrong when the snapshot has one event
that is still registered and one that is not (`dispatch_stale_snapshot`).

`dispatch_along_run` is the positive side. In every run in which no entry
is handled in such a state, `triggerEvent` is called for registered events
only, and `m_pendingEventCount` is the number of registered events.
-/
import HrServer.Lib.Run
import HrServer.Io.CoreTheorems

namespace HrServer

open Lib

namespace Io

/-! ## The system -/

/-- A manager with `threads` idle threads. The constructor calls `contextResize(32)`. -/
def new (threads : Nat) : IOManager :=
  IOManager.contextResize
    { contexts := [], fdContexts := [], pendingEventCount := 0, epoll := fun _ => none,
      scheduled := [], batches := List.replicate threads [] } 32

/-- A step of some thread: a call on a context, an `epoll_wait` that returns, or the
handling of the next entry of its result. -/
inductive Step where
  | contextResize (size : Nat)
  | addEvent (p : Nat) (event : Event) (scheduler : Option Nat) (fiber : Nat) (cb : Option Nat)
      (ok : Bool)
  | delEvent (p : Nat) (event : Event) (ok : Bool)
  | cancelEvent (p : Nat) (event : Event) (ok : Bool)
  | cancelAll (p : Nat) (ok : Bool)
  | wait (t : Nat) (batch : List Ready)
  | handle (t : Nat) (ok : Bool)

inductive Reply where
  | done
  | code (rt : Int)
  | flag (b : Bool)
  deriving DecidableEq

/-- An entry that `epoll_wait` can report: the context is the one registered for its
descriptor, and a reported event is one of the registration. `EPOLLERR` and `EPOLLHUP`
are always reported. -/
def Consistent (io : IOManager) : Ready → Bool
  | .tickle => true
  | .fd p mask =>
    match io.contexts[p]? with
    | some c =>
      match io.epoll c.fd with
      | some (m, q) => p == q && (!mask.epollin || m.read) && (!mask.epollout || m.write)
      | none => false
    | none => false

/-- The entry an idle thread handles next. -/
def nextEntry (io : IOManager) (t : Nat) : Option Ready := (io.batches[t]?.getD []).head?

/-- `epoll_wait` returned to the idle thread `t`. -/
def wait (t : Nat) (batch : List Ready) : Op Unit :=
  modify fun io => { io with batches := io.batches.set t batch }

/-- The idle thread `t` handles its next entry. -/
def handleNext (t : Nat) (ok : Bool) : Op Unit := do
  let io ← get
  match nextEntry io t with
  | none => return
  | some entry =>
    set { io with batches := io.batches.set t (io.batches[t]?.getD []).tail }
    handle entry ok

def enabled (io : IOManager) : Step → Bool
  | .contextResize _ => true
  | .addEvent p _ _ _ _ _ => p < io.contexts.length
  | .delEvent p _ _ => p < io.contexts.length
  | .cancelEvent p _ _ => p < io.contexts.length
  | .cancelAll p _ => p < io.contexts.length
  | .wait t batch => io.batches[t]? == some [] && batch.all (Consistent io)
  | .handle t _ => (nextEntry io t).isSome

def perform : Step → Op Reply
  | .contextResize size => do
    modify (·.contextResize size)
    return .done
  | .addEvent p event scheduler fiber cb ok => do
    return .code (← addEvent p event scheduler fiber cb ok)
  | .delEvent p event ok => do return .flag (← delEvent p event ok)
  | .cancelEvent p event ok => do return .flag (← cancelEvent p event ok)
  | .cancelAll p ok => do return .flag (← cancelAll p ok)
  | .wait t batch => do
    wait t batch
    return .done
  | .handle t ok => do
    handleNext t ok
    return .done

/-- The system: `none` is the process after a fault, which is what the step returns. -/
def step : Option IOManager → Step → Option (Except Fault Reply × Option IOManager)
  | none, _ => none
  | some io, s =>
    if enabled io s then
      match perform s io with
      | .ok r io' => some (.ok r, some io')
      | .error f _ => some (.error f, none)
    else none

theorem step_cases {io : IOManager} {s : Step} {r : Except Fault Reply} {io' : Option IOManager}
    (h : step (some io) s = some (r, io')) :
    (∃ a io1, perform s io = .ok a io1 ∧ r = .ok a ∧ io' = some io1)
      ∨ (∃ f io1, perform s io = .error f io1 ∧ r = .error f ∧ io' = none) := by
  simp only [step] at h
  split at h
  · cases hr : perform s io with
    | ok a io1 =>
      rw [hr] at h
      cases h
      exact .inl ⟨a, io1, rfl, rfl, rfl⟩
    | error f io1 =>
      rw [hr] at h
      cases h
      exact .inr ⟨f, io1, rfl, rfl, rfl⟩
  · cases h

/-- The state in which an entry is handled: the events of the snapshot are all
registered, or the entry is passed over because none is, or `epoll_ctl` fails. -/
def Fresh (mask : Mask) (events : Events) (ok : Bool) : Prop :=
  ((mask.epollin = true → events.read = true) ∧ (mask.epollout = true → events.write = true))
    ∨ events.inter (realEvents mask events) = .NONE
    ∨ ok = false

/-- Every entry is handled in such a state. -/
def FreshStep : Option IOManager → Step → Prop
  | some io, .handle t ok =>
    match nextEntry io t with
    | some (.fd p mask) => ∀ c ∈ io.contexts[p]?, Fresh mask c.events ok
    | _ => True
  | _, _ => True

instance (mask : Mask) (events : Events) (ok : Bool) : Decidable (Fresh mask events ok) :=
  inferInstanceAs (Decidable (_ ∨ _ ∨ _))

instance : (s : Option IOManager) → (st : Step) → Decidable (FreshStep s st)
  | some io, .handle t ok =>
    match h : nextEntry io t with
    | some (.fd p mask) =>
      decidable_of_iff (∀ c ∈ io.contexts[p]?, Fresh mask c.events ok) (by simp only [FreshStep, h])
    | some .tickle => .isTrue (by simp only [FreshStep, h])
    | none => .isTrue (by simp only [FreshStep, h])
  | none, _ => .isTrue trivial
  | some _, .contextResize _ => .isTrue trivial
  | some _, .addEvent _ _ _ _ _ _ => .isTrue trivial
  | some _, .delEvent _ _ _ => .isTrue trivial
  | some _, .cancelEvent _ _ _ => .isTrue trivial
  | some _, .cancelAll _ _ => .isTrue trivial
  | some _, .wait _ _ => .isTrue trivial

/-- The number of event bits set over all contexts. -/
def IOManager.registered (io : IOManager) : Nat := (io.contexts.map fun c => c.events.count).sum

/-! ## Counting bits -/

theorem Events.count_remove {m : Events} {event : Event} (h : m.has event = true) :
    (m.remove event).count + 1 = m.count := by
  obtain ⟨r, w⟩ := m
  cases event <;> cases r <;> cases w <;> first | rfl | cases h

theorem Events.count_add {m : Events} {event : Event} (h : m.has event = false) :
    (m.add event).count = m.count + 1 := by
  obtain ⟨r, w⟩ := m
  cases event <;> cases r <;> cases w <;> first | rfl | cases h

/-- Replacing one context. -/
theorem registered_set {io : IOManager} {p : Nat} {c c' : FdContext}
    (h : io.contexts[p]? = some c) :
    ({ io with contexts := io.contexts.set p c' } : IOManager).registered + c.events.count
      = io.registered + c'.events.count := by
  have key : ∀ (cs : List FdContext) (p : Nat), cs[p]? = some c →
      ((cs.set p c').map fun c => c.events.count).sum + c.events.count
        = (cs.map fun c => c.events.count).sum + c'.events.count := by
    intro cs
    induction cs with
    | nil => intro p hp; simp at hp
    | cons d cs ih =>
      intro p hp
      cases p with
      | zero =>
        simp only [List.getElem?_cons_zero, Option.some.injEq] at hp
        subst hp
        simp only [List.set_cons_zero, List.map_cons, List.sum_cons]
        omega
      | succ p =>
        have := ih p (by simpa using hp)
        simp only [List.set_cons_succ, List.map_cons, List.sum_cons]
        omega
  exact key io.contexts p h

theorem count_le_registered {io : IOManager} {p : Nat} {c : FdContext}
    (h : io.contexts[p]? = some c) : c.events.count ≤ io.registered := by
  have hset := @registered_set io p c { c with events := .NONE } h
  have hnone : Events.NONE.count = 0 := rfl
  dsimp only at hset
  omega

/-- New contexts have no events. -/
theorem registered_fillContexts (table : List (Option Nat)) (i : Nat) (contexts : List FdContext) :
    ((fillContexts i table contexts).2.map fun c => c.events.count).sum
      = (contexts.map fun c => c.events.count).sum := by
  induction table generalizing i contexts with
  | nil => rfl
  | cons entry table ih =>
    cases entry with
    | some p => exact ih (i + 1) contexts
    | none =>
      have := ih (i + 1) (contexts ++ [⟨.empty, .empty, i, .NONE⟩])
      simpa [fillContexts, Events.count, Events.NONE] using this

theorem registered_contextResize (io : IOManager) (size : Nat) :
    (io.contextResize size).registered = io.registered :=
  registered_fillContexts _ _ _

/-! ## The operations -/

section operations

variable {α : Type} {p : Nat} {c : FdContext} {event : Event} {a b : Nat}

/-- Faults other than the failed assertion of `triggerEvent`. -/
abbrev Other (f : Fault) (_ : IOManager) : Prop := f ≠ .triggerEvent

/-- The count is ahead of the registered events by `a` and behind by `b`. -/
def Balance (a b : Nat) (io : IOManager) : Prop := io.pendingEventCount + b = io.registered + a

/-- `m_pendingEventCount` is the number of registered events. -/
abbrev Balanced : IOManager → Prop := Balance 0 0

/-- The context behind `p`, with the balance. -/
def Holds (p : Nat) (c : FdContext) (a b : Nat) (io : IOManager) : Prop :=
  io.contexts[p]? = some c ∧ Balance a b io

theorem deref_triple {P : IOManager → Prop} :
    Triple P (deref p) (fun c io => io.contexts[p]? = some c ∧ P io) Other := by
  intro io hio
  cases hc : io.contexts[p]? with
  | none =>
    rw [deref, bind_ok (get_eq io), hc]
    exact (by decide : Fault.dangling ≠ .triggerEvent)
  | some c =>
    rw [deref_eq hc]
    exact ⟨hc, hio⟩

theorem deref_holds :
    Triple (Holds p c a b) (deref p) (fun d io => d = c ∧ Holds p c a b io) Other := by
  intro io hio
  rw [deref_eq hio.1]
  exact ⟨rfl, hio⟩

theorem assert_triple {P : IOManager → Prop} {x : Bool} {f : Fault}
    (hf : x = false → f ≠ .triggerEvent) :
    Triple P (assert x f) (fun _ io => x = true ∧ P io) Other := by
  intro io hio
  cases x with
  | true => exact ⟨rfl, hio⟩
  | false => exact hf rfl

theorem store_triple {c' : FdContext} (a' b' : Nat)
    (hab : a + b' + c.events.count = a' + b + c'.events.count) :
    Triple (Holds p c a b) (store p c') (fun _ => Holds p c' a' b') Other := by
  intro io hio
  obtain ⟨hc, hbal⟩ := hio
  obtain ⟨hlt, -⟩ := List.getElem?_eq_some_iff.mp hc
  have hset := @registered_set io p c c' hc
  refine ⟨by simp [hlt], ?_⟩
  unfold Balance at hbal ⊢
  dsimp only
  omega

/-- `epoll_ctl` and the scheduler's queue do not touch the contexts or the count. -/
theorem epollCtl_triple (op : CtlOp) (fd q : Nat) (mask : Events) (ok : Bool) :
    Triple (Holds p c a b) (epollCtl op fd q mask ok)
      (fun rt io => rt = ok ∧ Holds p c a b io) Other := by
  intro io hio
  cases ok with
  | false => exact ⟨rfl, hio⟩
  | true => exact ⟨rfl, hio⟩

theorem scheduleContext_triple (ctx : EventContext) :
    Triple (Holds p c a b) (scheduleContext ctx) (fun _ => Holds p c a b) Other := by
  unfold scheduleContext
  cases ctx.scheduler with
  | none => exact Triple.throw fun _ _ => Fault.noConfusion
  | some s =>
    cases hcb : ctx.cb with
    | some f => exact fun io hio => hio
    | none =>
      cases hf : ctx.fiber with
      | some f => exact fun io hio => hio
      | none => exact fun io hio => hio

theorem decrementPending_triple :
    Triple (Holds p c 1 0) decrementPending (fun _ => Holds p c 0 0) Other := by
  refine Triple.modify fun io hio => ⟨hio.1, ?_⟩
  have hbal := hio.2
  unfold Balance at hbal ⊢
  show io.pendingEventCount - 1 + 0 = io.registered + 0
  omega

/-- `triggerEvent` of a registered event takes its bit out. -/
theorem triggerEvent_triple (h : c.events.has event = true) :
    Triple (Holds p c 0 0) (triggerEvent p event)
      (fun _ io => ∃ c', c'.events = c.events.remove event ∧ Holds p c' 1 0 io) Other := by
  have hcount := Events.count_remove h
  refine Triple.bind deref_holds fun d => Triple.assume ?_
  rintro rfl
  refine Triple.bind (assert_triple fun h' => by rw [h] at h'; cases h') fun _ => Triple.assume ?_
  intro _
  refine Triple.bind (store_triple 1 0 ?_) fun _ => ?_
  · dsimp only
    omega
  · refine Triple.bind (scheduleContext_triple _) fun ctx => ?_
    refine (store_triple 1 0 ?_).imp (fun _ => id) fun _ io hio => ⟨_, ?_, hio⟩
    · rw [setContext_events]
    · rw [setContext_events]

/-- The test, the trigger and the decrement. -/
theorem triggerIf_triple (event : Event) {x : Bool} (h : x = true → c.events.has event = true) :
    Triple (Holds p c 0 0) (triggerIf x p event)
      (fun _ io => ∃ c', (∀ e, e ≠ event → c'.events.has e = c.events.has e)
        ∧ Holds p c' 0 0 io) Other := by
  cases x with
  | false => exact Triple.pure fun io hio => ⟨c, fun _ _ => rfl, hio⟩
  | true =>
    refine Triple.bind (triggerEvent_triple (h rfl)) fun _ => ?_
    rintro io ⟨c', hev, hio⟩
    refine ⟨c', ?_, ?_⟩
    · intro e he
      rw [hev]
      cases e <;> cases event <;> first | rfl | exact absurd rfl he
    · exact decrementPending_triple io hio

theorem balanced_of_holds {ψ : FdContext → Prop} (io : IOManager)
    (h : ∃ c', ψ c' ∧ Holds p c' 0 0 io) : Balanced io := by
  obtain ⟨c', -, hio⟩ := h
  exact hio.2

theorem addEvent_triple (scheduler : Option Nat) (fiber : Nat) (cb : Option Nat) (ok : Bool) :
    Triple Balanced (addEvent p event scheduler fiber cb ok) (fun _ => Balanced) Other := by
  refine Triple.bind deref_triple fun c => ?_
  refine Triple.bind (assert_triple fun _ => by decide) fun _ => Triple.assume fun hnew => ?_
  have hcount := Events.count_add (by simpa using hnew)
  refine Triple.bind (epollCtl_triple _ _ _ _ _) fun rt => Triple.assume fun _ => ?_
  refine Triple.ite (fun _ => ?_) (fun _ => Triple.pure fun io hio => hio.2)
  refine Triple.bind (Q := fun _ => Holds p c 1 0) (Triple.modify fun io hio => ⟨hio.1, ?_⟩)
    fun _ => ?_
  · have hbal := hio.2
    unfold Balance at hbal ⊢
    show io.pendingEventCount + 1 + 0 = io.registered + 1
    omega
  refine Triple.bind (store_triple 0 0 ?_) fun _ => ?_
  · dsimp only
    omega
  refine Triple.bind (assert_triple fun _ => by decide) fun _ => Triple.assume fun _ => ?_
  refine Triple.bind (store_triple 0 0 ?_) fun _ => ?_
  · rw [setContext_events]
  · exact Triple.pure fun io hio => hio.2

theorem unregister_triple {finish : FdContext → Op Unit} (ok : Bool)
    (hfin : ∀ c : FdContext, c.events.has event = true →
      Triple (Holds p c 0 0) (finish c) (fun _ => Balanced) Other) :
    Triple Balanced (unregister p event ok finish) (fun _ => Balanced) Other := by
  refine Triple.bind deref_triple fun c => ?_
  refine Triple.ite (fun hev => ?_) (fun _ => Triple.pure fun io hio => hio.2)
  refine Triple.bind (epollCtl_triple _ _ _ _ _) fun rt => Triple.assume fun _ => ?_
  refine Triple.ite (fun _ => ?_) (fun _ => Triple.pure fun io hio => hio.2)
  exact Triple.bind (hfin c hev) fun _ => Triple.pure fun io hio => hio

theorem delEvent_triple (ok : Bool) :
    Triple Balanced (delEvent p event ok) (fun _ => Balanced) Other := by
  refine unregister_triple ok fun c hev => ?_
  have hcount := Events.count_remove hev
  refine Triple.bind (Q := fun _ => Holds p c 0 1) (Triple.modify fun io hio => ⟨hio.1, ?_⟩)
    fun _ => ?_
  · have hbal := hio.2
    have hle := count_le_registered hio.1
    unfold Balance at hbal ⊢
    show io.pendingEventCount - 1 + 1 = io.registered + 0
    omega
  · refine (store_triple 0 0 ?_).imp (fun _ => id) fun _ io hio => hio.2
    rw [setContext_events]
    dsimp only
    omega

theorem cancelEvent_triple (ok : Bool) :
    Triple Balanced (cancelEvent p event ok) (fun _ => Balanced) Other := by
  refine unregister_triple ok fun c hev => ?_
  refine Triple.bind (triggerEvent_triple hev) fun _ => ?_
  rintro io ⟨c', -, hio⟩
  exact (decrementPending_triple io hio).2

theorem cancelAll_triple (ok : Bool) :
    Triple Balanced (cancelAll p ok) (fun _ => Balanced) Other := by
  refine Triple.bind deref_triple fun c => ?_
  refine Triple.ite (fun _ => Triple.pure fun io hio => hio.2) (fun _ => ?_)
  refine Triple.bind (epollCtl_triple _ _ _ _ _) fun rt => Triple.assume fun _ => ?_
  refine Triple.ite (fun _ => ?_) (fun _ => Triple.pure fun io hio => hio.2)
  refine Triple.bind (triggerIf_triple .READ id) fun _ => ?_
  refine Triple.bind (deref_triple.imp balanced_of_holds fun _ _ => id) fun c1 => ?_
  refine Triple.bind (triggerIf_triple .WRITE id) fun _ => ?_
  refine Triple.bind (deref_triple.imp balanced_of_holds fun _ _ => id) fun c2 => ?_
  refine Triple.bind (assert_triple fun _ => by decide) fun _ => Triple.assume fun _ => ?_
  exact Triple.pure fun io hio => hio.2

/-- When the snapshot is fresh, the dispatch triggers registered events only. -/
theorem handle_triple {mask : Mask} (ok : Bool) :
    Triple (fun io => Balanced io ∧ ∀ c ∈ io.contexts[p]?, Fresh mask c.events ok)
      (handle (.fd p mask) ok) (fun _ => Balanced) Other := by
  refine Triple.bind (Q := fun c io => Fresh mask c.events ok ∧ Holds p c 0 0 io) ?_
    fun c => Triple.assume fun hfresh => ?_
  · exact deref_triple.imp (fun _ => id) fun c io h => ⟨h.2.2 c h.1, h.1, h.2.1⟩
  · refine Triple.ite (fun _ => Triple.pure fun io hio => hio.2) (fun hne => ?_)
    refine Triple.bind (epollCtl_triple _ _ _ _ _) fun rt => Triple.assume ?_
    rintro rfl
    refine Triple.ite (fun hok => ?_) (fun _ => Triple.pure fun io hio => hio.2)
    -- the intersection is not empty and `epoll_ctl` succeeded: the snapshot is registered
    have hin : (mask.epollin = true → c.events.read = true)
        ∧ (mask.epollout = true → c.events.write = true) := by
      rcases hfresh with h | h | h
      · exact h
      · exact absurd h hne
      · rw [h] at hok
        cases hok
    have hread : (realEvents mask c.events).read = true → c.events.has .READ = true := by
      intro h
      simp only [realEvents, Bool.or_eq_true, Bool.and_eq_true] at h
      rcases h with h | h
      · exact hin.1 h
      · exact h.2
    have hwrite : (realEvents mask c.events).write = true → c.events.has .WRITE = true := by
      intro h
      simp only [realEvents, Bool.or_eq_true, Bool.and_eq_true] at h
      rcases h with h | h
      · exact hin.2 h
      · exact h.2
    refine Triple.bind (triggerIf_triple .READ hread) fun _ => ?_
    rintro io ⟨c', hkeep, hio⟩
    have hwrite' := fun h => (hkeep .WRITE (by decide)).trans (hwrite h)
    exact (triggerIf_triple .WRITE hwrite').imp (fun _ => id) (fun _ => balanced_of_holds) io hio

theorem handleNext_triple (t : Nat) (ok : Bool) :
    Triple (fun io => Balanced io ∧ FreshStep (some io) (.handle t ok)) (handleNext t ok)
      (fun _ => Balanced) Other := by
  rintro io ⟨hbal, hfresh⟩
  unfold handleNext
  rw [bind_ok (get_eq io)]
  simp only [FreshStep] at hfresh
  cases hn : nextEntry io t with
  | none => exact hbal
  | some entry =>
    rw [hn] at hfresh
    cases entry with
    | tickle => exact hbal
    | fd p mask =>
      have hset : (set { io with batches := io.batches.set t (io.batches[t]?.getD []).tail } :
          Op PUnit) io
        = .ok ⟨⟩ { io with batches := io.batches.set t (io.batches[t]?.getD []).tail } :=
        rfl
      dsimp only
      rw [bind_ok hset]
      exact handle_triple ok _ ⟨hbal, hfresh⟩

/-- The step lemma. -/
theorem perform_triple (s : Step) :
    Triple (fun io => Balanced io ∧ FreshStep (some io) s) (perform s) (fun _ => Balanced)
      Other := by
  cases s with
  | contextResize size =>
    refine Triple.bind (Q := fun _ => Balanced) (Triple.modify fun io hio => ?_)
      fun _ => Triple.pure fun _ => id
    have hbal := hio.1
    show io.pendingEventCount + 0 = (io.contextResize size).registered + 0
    rw [registered_contextResize]
    exact hbal
  | addEvent p event scheduler fiber cb ok =>
    exact Triple.bind ((addEvent_triple scheduler fiber cb ok).imp (fun _ h => h.1) fun _ _ => id)
      fun _ => Triple.pure fun _ => id
  | delEvent p event ok =>
    exact Triple.bind ((delEvent_triple ok).imp (fun _ h => h.1) fun _ _ => id)
      fun _ => Triple.pure fun _ => id
  | cancelEvent p event ok =>
    exact Triple.bind ((cancelEvent_triple ok).imp (fun _ h => h.1) fun _ _ => id)
      fun _ => Triple.pure fun _ => id
  | cancelAll p ok =>
    exact Triple.bind ((cancelAll_triple ok).imp (fun _ h => h.1) fun _ _ => id)
      fun _ => Triple.pure fun _ => id
  | wait t batch =>
    exact Triple.bind (Q := fun _ => Balanced) (Triple.modify fun io hio => hio.1)
      fun _ => Triple.pure fun _ => id
  | handle t ok => exact Triple.bind (handleNext_triple t ok) fun _ => Triple.pure fun _ => id

end operations

/-! ## Runs -/

theorem balanced_new (threads : Nat) : Balanced (new threads) := by
  have hreg : (new threads).registered = 0 := registered_contextResize _ 32
  show 0 + 0 = (new threads).registered + 0
  rw [hreg]

/-- In every run in which each entry is handled while the events of its snapshot are all
registered, or none of them is and the entry is passed over, or `epoll_ctl` fails:
the assertion of `triggerEvent` never fails, and as long as the process lives
`m_pendingEventCount` is the number of event bits set over all contexts. -/
theorem dispatch_along_run (threads : Nat) (steps : List Step) (rs : List (Except Fault Reply))
    (final : Option IOManager) (hfresh : Along step FreshStep (some (new threads)) steps)
    (hrun : run step (some (new threads)) steps = some (rs, final)) :
    (∀ r ∈ rs, r ≠ .error .triggerEvent)
      ∧ ∀ io, final = some io → io.pendingEventCount = io.registered := by
  have hall := run_outputs_along (I := fun s => ∀ io, s = some io → Balanced io)
    (O := fun r => r ≠ .error .triggerEvent) ?_ steps ?_ hfresh hrun
  · exact ⟨hall.2, hall.1⟩
  · intro s st r s' hI hg hstep
    cases s with
    | none => cases hstep
    | some io =>
      have hp := perform_triple st io ⟨hI io rfl, hg⟩
      rcases step_cases hstep with ⟨a, io1, hr, rfl, rfl⟩ | ⟨f, io1, hr, rfl, rfl⟩
      · rw [hr] at hp
        refine ⟨?_, nofun⟩
        intro io2 h2
        cases h2
        exact hp
      · rw [hr] at hp
        refine ⟨nofun, ?_⟩
        intro heq
        cases heq
        exact hp rfl
  · intro io hio
    rw [← Option.some.inj hio]
    exact balanced_new threads

/-- A descriptor registered for reading and writing; the snapshot has both. -/
theorem dispatch_along_run_both :
    ∃ rs final, run step (some (new 1)) [.addEvent 5 .READ (some 0) 1 none true,
        .addEvent 5 .WRITE (some 0) 2 none true, .wait 0 [.fd 5 ⟨true, true, false, false⟩],
        .handle 0 true] = some (rs, final)
      ∧ (∀ r ∈ rs, r ≠ .error .triggerEvent)
      ∧ ∀ io, final = some io → io.pendingEventCount = io.registered :=
  ⟨_, _, rfl, dispatch_along_run 1 [.addEvent 5 .READ (some 0) 1 none true,
    .addEvent 5 .WRITE (some 0) 2 none true, .wait 0 [.fd 5 ⟨true, true, false, false⟩],
    .handle 0 true] _ _ (by decide) rfl⟩

/-- Both events are ready; reading is deregistered before the entry is handled. The
intersection with `WRITE` is not empty, and `triggerEvent(READ)` fails its assertion. -/
theorem dispatch_stale_snapshot :
    run step (some (new 1)) [.addEvent 5 .READ (some 0) 1 none true,
        .addEvent 5 .WRITE (some 0) 2 none true, .wait 0 [.fd 5 ⟨true, true, false, false⟩],
        .delEvent 5 .READ true, .handle 0 true]
      = some ([.ok (.code 0), .ok (.code 0), .ok .done, .ok (.flag true), .error .triggerEvent],
          none) := by
  rfl

end Io

end HrServer
