/-
HrServer.Hook.Reuse — a `do_io` call whose descriptor is closed keeps off
the next descriptor of the same number.

`close` wakes the waiting fiber and deletes the `FdCtx`, but nothing marks
the call: `tinfo->cancelled` is set by timers only, the closed flag of an
`FdCtx` by nobody (`isClosed_unset`), and the retry does not look at it.
So the call repeats its raw call, on whatever the number then stands for
(`retried_on_later_descriptor`).

`closed_call_fails` says that this is the only way: the call fails with -1
and keeps off the later descriptor in the runs in which no call passes the
test of `tinfo->cancelled` while its number is in use again, and no number
is given out again while a call stands between this test and its retry.
-/
import HrServer.Hook.CoreTheorems
import Mathlib.Order.Nat

namespace HrServer

open Lib

namespace Hook

def Kind.isIo : Kind → Bool
  | .io _ => true
  | .connect _ => false

/-! ## The guard -/

namespace System

/-- The call is marked if its number is in use again. -/
def Notices (s : System) (c : Nat) : Prop :=
  s.isOpen (s.calls c).fd = true → (s.calls c).cancelled = true

instance (s : System) (c : Nat) : Decidable (s.Notices c) := inferInstanceAs (Decidable (_ → _))

/-- A `do_io` call whose descriptor was closed passes the test of `tinfo->cancelled` only
when its number is not in use, and a number is given out only when no such call is about
to retry on it. -/
def Fenced (s : System) : Label → Prop
  | .advance c _ =>
    (s.calls c).pc = .check → (s.calls c).kind.isIo = true → (s.calls c).stale = true → s.Notices c
  | .openFd fd =>
    ∀ c < s.begun, (s.calls c).fd = fd → (s.calls c).kind.isIo = true →
      (s.calls c).stale = true → (s.calls c).pc ≠ .attempt
  | _ => True

instance (s : System) : (l : Label) → Decidable (s.Fenced l)
  | .advance _ _ => inferInstanceAs (Decidable (_ → _ → _ → _))
  | .openFd fd => inferInstanceAs (Decidable (∀ c < s.begun, (s.calls c).fd = fd → _ → _ → _))
  | .begin _ _ _ | .raw _ _ | .callback _ _ | .resume _ | .expire _ | .dispatch _ _ | .create _ _
  | .setTimeout _ _ _ | .setUserNonblock _ _ | .cancelAll _ _ | .del _ | .closeFile _ =>
    .isTrue trivial

end System

/-! ## The invariant -/

/-- A call whose number is in use, or is not. -/
structure Call.Clean (call : Call) (inUse : Bool) : Prop where
  slept : call.stale = true → call.slept = true
  direct : call.slept = true → call.pc ≠ .direct
  sockopt : call.kind.isIo = true → call.pc ≠ .sockopt
  touched : call.kind.isIo = true → call.touched = false
  attempt : call.kind.isIo = true → call.stale = true → call.pc = .attempt → inUse = false
  returned : call.kind.isIo = true → call.stale = true → ∀ n, call.pc = .returned n → n = -1

/-- A call goes to a place where it neither retries nor returns with anything but -1. -/
theorem Call.Clean.goto {call : Call} {inUse : Bool} (h : call.Clean inUse) {pc : Pc}
    (hd : pc ≠ .direct) (hs : call.kind.isIo = true → pc ≠ .sockopt) (ha : pc ≠ .attempt)
    (hr : call.kind.isIo = true → ∀ n, pc = .returned n → n = -1) :
    ({ call with pc := pc } : Call).Clean inUse :=
  ⟨h.slept, fun _ => hd, hs, h.touched, fun _ _ hpc => absurd hpc ha, fun hk _ n hpc => hr hk n hpc⟩

namespace System

structure Clean (s : System) : Prop where
  calls : ∀ c, (s.calls c).Clean (s.isOpen (s.calls c).fd)
  fresh : ∀ c, s.begun ≤ c → (s.calls c).pc.inProgress = false ∧ (s.calls c).stale = false

variable {s s' : System} {c : Nat}

theorem clean_init : init.Clean :=
  ⟨fun _ => ⟨by simp [init], by simp [init], by simp [init], by simp [init], by simp [init],
    by simp [init]⟩, fun _ _ => ⟨rfl, rfl⟩⟩

/-- Timers, registrations and the queue play no part. -/
theorem Clean.congr (hi : s.Clean) (hc : s'.calls = s.calls) (ho : s'.isOpen = s.isOpen)
    (hb : s'.begun = s.begun) : s'.Clean := by
  refine ⟨?_, ?_⟩
  · rw [hc, ho]
    exact hi.calls
  · rw [hc, hb]
    exact hi.fresh

theorem Clean.setCall (hi : s.Clean) {call : Call} (hin : (s.calls c).pc.inProgress = true)
    (hc : call.Clean (s.isOpen call.fd)) : (s.setCall c call).Clean := by
  refine ⟨fun d => ?_, fun d hd => ?_⟩
  · by_cases hdc : d = c
    · simpa [System.setCall, hdc] using hc
    · simpa [System.setCall, hdc] using hi.calls d
  · have hdc : d ≠ c := by
      rintro rfl
      rw [(hi.fresh d hd).1] at hin
      cases hin
    simpa [System.setCall, hdc] using hi.fresh d hd

theorem Clean.trigger (hi : s.Clean) (fd : Nat) (event : Io.Event) : (s.trigger fd event).Clean :=
  hi.congr (trigger_calls s fd event) (trigger_isOpen s fd event) (trigger_begun s fd event)

theorem Clean.cancelTimer (hi : s.Clean) (c : Nat) : (s.cancelTimer c).Clean :=
  hi.congr (cancelTimer_calls s c) (cancelTimer_isOpen s c) (cancelTimer_begun s c)

/-! ## Steps -/

theorem Clean.begin (hi : s.Clean) (hook : Bool) (kind : Kind) (fd : Nat) :
    (s.begin hook kind fd).Clean := by
  refine ⟨fun d => ?_, fun d hd => ?_⟩
  · by_cases hdc : d = s.begun
    · have hs : entry hook (s.datas fd) kind ≠ .sockopt := by
        unfold entry
        split
        · simp
        · split
          · simp
          · simp
          · split
            · simp
            · split <;> simp
      refine ⟨?_, ?_, ?_, ?_, ?_, ?_⟩ <;> simp [System.begin, System.setCall, hdc, hs]
    · simpa [System.begin, System.setCall, hdc] using hi.calls d
  · have hd' : s.begun + 1 ≤ d := hd
    have hdc : d ≠ s.begun := by omega
    simpa [System.begin, System.setCall, hdc] using hi.fresh d (by omega)

/-- A call that is about to retry finds the number closed, and fails. -/
theorem Clean.raw (hi : s.Clean) {r : Raw} (h : s.raw c r = some s') : s'.Clean := by
  obtain ⟨hpc, hr, rfl⟩ := raw_eq_some h
  have hc := hi.calls c
  have hin : (s.calls c).pc.inProgress = true := by
    rcases hpc with hpc | hpc
    · rw [hpc]
      rfl
    · rw [hpc]
      rfl
  -- What a call on a closed descriptor comes to.
  have hstale : (s.calls c).kind.isIo = true → (s.calls c).stale = true →
      s.isOpen (s.calls c).fd = false ∧ (s.calls c).afterRaw r = .returned (-1) := by
    intro hk hs
    have hatt : (s.calls c).pc = .attempt := hpc.resolve_right (hc.direct (hc.slept hs))
    have hclosed := hc.attempt hk hs hatt
    refine ⟨hclosed, ?_⟩
    rw [hr hclosed]
    simp [Call.afterRaw, hatt]
  refine hi.setCall hin ⟨hc.slept, fun _ => ?_, fun _ => ?_, fun hk => ?_, fun hk hs hp => ?_,
    fun hk hs n hp => ?_⟩
  · simp only [Call.afterRaw]
    split <;> simp
  · simp only [Call.afterRaw]
    split <;> simp
  · rw [Bool.or_eq_false_iff, Bool.and_eq_false_imp]
    exact ⟨hc.touched hk, fun hs => (hstale hk hs).1⟩
  · exact (hstale hk hs).1
  · rw [show _ = _ from (hstale hk hs).2] at hp
    cases hp
    rfl

theorem Clean.arm (hi : s.Clean) (hpc : (s.calls c).pc = .arm) : (s.arm c).Clean := by
  have hin : (s.calls c).pc.inProgress = true := by rw [hpc]; rfl
  have hc := hi.calls c
  have hgo : ∀ t, (s.setCall c { s.calls c with pc := .register, timer := t }).Clean := by
    intro t
    exact hi.setCall hin ⟨hc.slept, by simp, by simp, hc.touched, by simp, by simp⟩
  unfold System.arm
  simp only
  split
  · exact hgo none
  · exact (hgo (some s.armed)).congr rfl rfl rfl

theorem Clean.register (hi : s.Clean) {ok : Bool} (hpc : (s.calls c).pc = .register)
    (h : s.register c ok = some s') : s'.Clean := by
  have hin : (s.calls c).pc.inProgress = true := by rw [hpc]; rfl
  obtain ⟨-, ⟨-, rfl⟩ | ⟨-, rfl⟩⟩ := register_eq_some h
  · have hi' : (s.setWaiting (s.calls c).fd (s.calls c).event (some c)).Clean :=
      hi.congr rfl rfl rfl
    exact hi'.setCall hin ((hi.calls c).goto (by simp) (by simp) (by simp) (by simp))
  · exact hi.setCall hin ((hi.calls c).goto (by simp) (by simp) (by simp) (by simp))

/-- The test of `tinfo->cancelled`. -/
theorem Clean.check (hi : s.Clean) (hpc : (s.calls c).pc = .check)
    (hg : (s.calls c).kind.isIo = true → (s.calls c).stale = true → s.Notices c) :
    (s.goto c (s.calls c).afterCheck).Clean := by
  have hin : (s.calls c).pc.inProgress = true := by rw [hpc]; rfl
  have hc := hi.calls c
  cases hcan : (s.calls c).cancelled with
  | true =>
    have hafter : (s.calls c).afterCheck = .returned (-1) := by simp [Call.afterCheck, hcan]
    rw [hafter]
    exact hi.setCall hin (hc.goto (by simp) (by simp) (by simp) (by simp))
  | false =>
    cases hk : (s.calls c).kind with
    | io event =>
      have hafter : (s.calls c).afterCheck = .attempt := by simp [Call.afterCheck, hcan, hk]
      rw [hafter]
      refine hi.setCall hin ⟨hc.slept, by simp, by simp, hc.touched, ?_, by simp⟩
      intro hio hs _
      cases hopen : s.isOpen (s.calls c).fd with
      | false => rfl
      | true =>
        rw [hg hio hs hopen] at hcan
        cases hcan
    | connect timeout =>
      have hafter : (s.calls c).afterCheck = .sockopt := by simp [Call.afterCheck, hcan, hk]
      rw [hafter]
      exact hi.setCall hin (hc.goto (by simp) (by simp [hk, Kind.isIo]) (by simp) (by simp))

/-- Behind a failed `addEvent`. -/
theorem Clean.abandon (hi : s.Clean) (hpc : (s.calls c).pc = .abandon) :
    ((s.cancelTimer c).goto c (s.calls c).afterAbandon).Clean := by
  have hin : ((s.cancelTimer c).calls c).pc.inProgress = true := by
    rw [cancelTimer_calls, hpc]
    rfl
  have hc := (hi.cancelTimer c).calls c
  cases hk : (s.calls c).kind with
  | io event =>
    have hafter : (s.calls c).afterAbandon = .returned (-1) := by simp [Call.afterAbandon, hk]
    rw [hafter]
    exact (hi.cancelTimer c).setCall hin (hc.goto (by simp) (by simp) (by simp) (by simp))
  | connect timeout =>
    have hafter : (s.calls c).afterAbandon = .sockopt := by simp [Call.afterAbandon, hk]
    rw [hafter]
    exact (hi.cancelTimer c).setCall hin
      (hc.goto (by simp) (by simp [hk, Kind.isIo]) (by simp) (by simp))

theorem Clean.advance (hi : s.Clean) {ok : Bool} (hg : s.Fenced (.advance c ok))
    (h : s.advance c ok = some s') : s'.Clean := by
  have hc := hi.calls c
  obtain ⟨hpc, rfl⟩ | ⟨hpc, h⟩ | ⟨hpc, rfl⟩ | ⟨hpc, rfl⟩ | ⟨hpc, rfl⟩ | ⟨hpc, rfl⟩ | ⟨hpc, rfl⟩ :=
    advance_eq_some h
  · exact hi.arm hpc
  · exact hi.register hpc h
  · exact hi.abandon hpc
  · exact hi.setCall (by rw [hpc]; rfl)
      ⟨fun _ => rfl, by simp, by simp, hc.touched, by simp, by simp⟩
  · refine (hi.cancelTimer c).setCall (by rw [cancelTimer_calls, hpc]; rfl) ?_
    exact ((hi.cancelTimer c).calls c).goto (by simp) (by simp) (by simp) (by simp)
  · exact hi.check hpc (hg hpc)
  · have hk : (s.calls c).kind.isIo = false := by
      rw [Bool.eq_false_iff]
      exact fun hk => hc.sockopt hk hpc
    exact hi.setCall (by rw [hpc]; rfl) (hc.goto (by simp) (by simp) (by simp) (by simp [hk]))

/-- The mark of a callback, which the call may not live to see. -/
theorem Clean.mark (hi : s.Clean) (c : Nat) :
    (s.setCall c { s.calls c with cancelled := true }).Clean := by
  refine ⟨fun d => ?_, fun d hd => ?_⟩
  · by_cases hdc : d = c
    · have hc := hi.calls c
      simp only [System.setCall, hdc, if_true]
      exact ⟨hc.slept, hc.direct, hc.sockopt, hc.touched, hc.attempt, hc.returned⟩
    · simpa [System.setCall, hdc] using hi.calls d
  · by_cases hdc : d = c
    · subst hdc
      simpa [System.setCall] using hi.fresh d hd
    · simpa [System.setCall, hdc] using hi.fresh d hd

theorem Clean.callback (hi : s.Clean) {t : Nat} {ok : Bool} (h : s.callback t ok = some s') :
    s'.Clean := by
  obtain ⟨-, rfl⟩ | ⟨-, rfl⟩ | ⟨-, rfl⟩ := callback_eq_some h
  · exact hi.congr rfl rfl rfl
  · exact (hi.mark (s.timers t).call).congr rfl rfl rfl
  · cases ok with
    | true => exact (hi.trigger _ _).congr rfl rfl rfl
    | false => exact hi.congr rfl rfl rfl

/-- A number is given out again. -/
theorem Clean.openFd (hi : s.Clean) {fd : Nat} (hg : s.Fenced (.openFd fd))
    (h : s.openFd fd = some s') : s'.Clean := by
  obtain ⟨-, rfl⟩ := openFd_eq_some h
  refine ⟨fun c => ?_, hi.fresh⟩
  have hc := hi.calls c
  refine ⟨hc.slept, hc.direct, hc.sockopt, hc.touched, fun hk hs hpc => ?_, hc.returned⟩
  by_cases hfd : (s.calls c).fd = fd
  · have hlt : c < s.begun := by
      by_contra hlt
      rw [(hi.fresh c (not_lt.mp hlt)).2] at hs
      cases hs
    exact absurd hpc (hg c hlt hfd hk hs)
  · simpa [hfd] using hc.attempt hk hs hpc

theorem Clean.closeFile (hi : s.Clean) {fd : Nat} (h : s.closeFile fd = some s') : s'.Clean := by
  obtain ⟨-, rfl⟩ := closeFile_eq_some h
  refine ⟨fun c => ?_, fun c hc => ?_⟩
  · have hc := hi.calls c
    -- A call becomes stale by this step, or was stale before.
    have hstale : ((s.calls c).closed fd).stale = true → (s.calls c).stale = true ∨
        (s.calls c).fd = fd ∧ (s.calls c).slept = true ∧ (s.calls c).pc.inProgress = true := by
      simp only [Call.closed, Bool.or_eq_true, Bool.and_eq_true, decide_eq_true_eq]
      tauto
    refine ⟨fun hs => ?_, hc.direct, hc.sockopt, hc.touched, fun hk hs hpc => ?_,
      fun hk hs n hpc => ?_⟩
    · rcases hstale hs with hs | ⟨-, hs, -⟩
      · exact hc.slept hs
      · exact hs
    · have hfd : ((s.calls c).closed fd).fd = (s.calls c).fd := rfl
      rw [hfd]
      rcases hstale hs with hs | ⟨hs, -, -⟩
      · have := hc.attempt hk hs hpc
        simp [this]
      · simp [hs]
    · rcases hstale hs with hs | ⟨-, -, hin⟩
      · exact hc.returned hk hs n hpc
      · rw [show (s.calls c).pc = _ from hpc] at hin
        cases hin
  · obtain ⟨h1, h2⟩ := hi.fresh c hc
    exact ⟨h1, by simp [Call.closed, h1, h2]⟩

theorem Clean.next (hi : s.Clean) {l : Label} (hg : s.Fenced l) (h : s.next l = some s') :
    s'.Clean := by
  cases l with
  | begin hook kind fd =>
    cases h
    exact hi.begin hook kind fd
  | raw c r => exact hi.raw h
  | advance c ok => exact hi.advance hg h
  | resume c =>
    obtain ⟨hpc, -, rfl⟩ := resume_eq_some h
    have hi' : (s.setQueued c (s.queued c - 1)).Clean := hi.congr rfl rfl rfl
    refine hi'.setCall ?_ ((hi.calls c).goto (by simp) (by simp) (by simp) (by simp))
    rw [show ((s.setQueued c (s.queued c - 1)).calls c).pc = .suspended from hpc]
    rfl
  | expire t =>
    obtain ⟨-, rfl⟩ := expire_eq_some h
    exact hi.congr rfl rfl rfl
  | callback t ok => exact hi.callback h
  | dispatch fd event =>
    cases h
    exact hi.trigger fd event
  | openFd fd => exact hi.openFd hg h
  | create fd isSocket =>
    cases h
    exact hi.congr rfl rfl rfl
  | setTimeout fd event v =>
    cases h
    exact hi.congr rfl rfl rfl
  | setUserNonblock fd v =>
    cases h
    exact hi.congr rfl rfl rfl
  | cancelAll fd ok =>
    cases h
    unfold System.cancelAll
    split
    · exact (hi.trigger fd .READ).trigger fd .WRITE
    · exact hi
  | del fd =>
    cases h
    exact hi.congr rfl rfl rfl
  | closeFile fd => exact hi.closeFile h

/-! ## The way to the return -/

/-- The steps of the fiber itself can lead to a return with -1, away from the later
descriptor. -/
def Fails (s : System) (c : Nat) : Prop :=
  Reaches step (fun l => l = .advance c true ∨ l = .raw c .error)
    (fun s' => (s'.calls c).pc = .returned (-1) ∧ (s'.calls c).touched = false) s

theorem Clean.fails_attempt (hi : s.Clean) (hk : (s.calls c).kind.isIo = true)
    (hs : (s.calls c).stale = true) (hpc : (s.calls c).pc = .attempt) : s.Fails c := by
  have hclosed := (hi.calls c).attempt hk hs hpc
  have hnext : s.next (.raw c .error)
      = some (s.setCall c { s.calls c with pc := .returned (-1) }) := by
    simp [System.next, System.raw, Call.afterRaw, hpc, hclosed]
  refine Reaches.step (.inr rfl) (step_of_next hnext) (Reaches.here ⟨?_, ?_⟩)
  · simp [System.setCall]
  · simpa [System.setCall] using (hi.calls c).touched hk

theorem Clean.fails_check (hi : s.Clean) (hk : (s.calls c).kind.isIo = true)
    (hs : (s.calls c).stale = true) (hn : s.Notices c) (hpc : (s.calls c).pc = .check) :
    s.Fails c := by
  have hnext : s.next (.advance c true) = some (s.goto c (s.calls c).afterCheck) := by
    simp [System.next, System.advance, hpc]
  refine Reaches.step (.inl rfl) (step_of_next hnext) ?_
  cases hcan : (s.calls c).cancelled with
  | true =>
    refine Reaches.here ⟨?_, ?_⟩
    · simp [System.goto, System.setCall, Call.afterCheck, hcan]
    · simpa [System.goto, System.setCall] using (hi.calls c).touched hk
  | false =>
    have hi' := hi.check hpc (fun _ _ => hn)
    refine hi'.fails_attempt ?_ ?_ ?_
    · simpa [System.goto, System.setCall] using hk
    · simpa [System.goto, System.setCall] using hs
    · cases hkind : (s.calls c).kind with
      | io event => simp [System.goto, System.setCall, Call.afterCheck, hcan, hkind]
      | connect timeout =>
        rw [hkind] at hk
        cases hk

theorem Clean.fails_resumed (hi : s.Clean) (hk : (s.calls c).kind.isIo = true)
    (hs : (s.calls c).stale = true) (hn : s.Notices c) (hpc : (s.calls c).pc = .resumed) :
    s.Fails c := by
  have hnext : s.next (.advance c true) = some ((s.cancelTimer c).goto c .check) := by
    simp [System.next, System.advance, hpc]
  have hi' : ((s.cancelTimer c).goto c .check).Clean := by
    refine hi.next (l := .advance c true) (fun h => ?_) hnext
    rw [hpc] at h
    cases h
  refine Reaches.step (.inl rfl) (step_of_next hnext) (hi'.fails_check ?_ ?_ ?_ ?_)
  · simpa [System.goto, System.setCall] using hk
  · simpa [System.goto, System.setCall] using hs
  · simpa [System.Notices, System.goto, System.setCall] using hn
  · simp [System.goto, System.setCall]

end System

/-! ## Runs -/

theorem clean_along_run (labels : List Label) {os : List Unit} {s : System}
    (hal : Along step System.Fenced System.init labels)
    (hrun : run step System.init labels = some (os, s)) : s.Clean :=
  run_invariant_along (fun _ _ _ _ hi hg h => hi.next hg (step_eq_some h)) labels System.clean_init
    hal hrun

/-- No context has its closed flag set. -/
def System.Unclosed (s : System) : Prop := ∀ fd ctx, s.datas fd = some ctx → ctx.isClosed = false

theorem unclosed_setCtx {s : System} (hi : s.Unclosed) (fd : Nat) {ctx : Option FdCtx}
    (h : ∀ x, ctx = some x → x.isClosed = false) : (s.setCtx fd ctx).Unclosed := by
  intro n x hx
  by_cases hn : n = fd
  · simp only [System.setCtx, if_pos hn] at hx
    exact h x hx
  · simp only [System.setCtx, if_neg hn] at hx
    exact hi n x hx

/-- A setter keeps the flag. -/
theorem unclosed_map {s : System} (hi : s.Unclosed) (fd : Nat) {f : FdCtx → FdCtx}
    (hf : ∀ ctx, (f ctx).isClosed = ctx.isClosed) :
    (s.setCtx fd ((s.datas fd).map f)).Unclosed := by
  refine unclosed_setCtx hi fd fun x hx => ?_
  obtain ⟨ctx, hctx, rfl⟩ := Option.map_eq_some_iff.mp hx
  rw [hf]
  exact hi fd ctx hctx

/-- The closed flag, which `do_io` tests at its start, is never set. -/
theorem isClosed_unset (labels : List Label) {os : List Unit} {s : System}
    (hrun : run step System.init labels = some (os, s)) : s.Unclosed := by
  refine run_invariant (I := System.Unclosed) ?_ labels (fun _ _ h => by cases h) hrun
  intro s l o s' hi h
  have hnext := step_eq_some h
  cases l with
  | create fd isSocket =>
    cases hnext
    exact unclosed_setCtx hi fd fun x hx => by cases hx; rfl
  | setTimeout fd event v =>
    cases hnext
    exact unclosed_map hi fd fun ctx => by cases event <;> rfl
  | setUserNonblock fd v =>
    cases hnext
    refine unclosed_map hi fd fun ctx => ?_
    unfold FdCtx.setUserNonblock
    split <;> rfl
  | del fd =>
    cases hnext
    exact unclosed_setCtx hi fd fun x hx => by cases hx
  | begin | raw | advance | resume | expire | callback | dispatch | openFd | cancelAll
  | closeFile =>
    intro fd ctx hctx
    rw [System.next_datas hnext (by simp)] at hctx
    exact hi fd ctx hctx

/-- In a fenced run a `do_io` call makes no raw call on a later descriptor of its number.
When its descriptor is closed after it has yielded it returns with -1, and once it is
resumed nothing keeps it from that. -/
theorem closed_call_fails (labels : List Label) {os : List Unit} {s : System}
    (hal : Along step System.Fenced System.init labels)
    (hrun : run step System.init labels = some (os, s)) (c : Nat)
    (hk : (s.calls c).kind.isIo = true) :
    (s.calls c).touched = false ∧ ((s.calls c).stale = true →
      (∀ n, (s.calls c).pc = .returned n → n = -1) ∧
      ((s.calls c).pc = .resumed ∨ (s.calls c).pc = .check ∨ (s.calls c).pc = .attempt →
        s.Notices c → s.Fails c)) := by
  have hi := clean_along_run labels hal hrun
  refine ⟨(hi.calls c).touched hk, fun hs => ⟨(hi.calls c).returned hk hs, fun hpc hn => ?_⟩⟩
  rcases hpc with hpc | hpc | hpc
  · exact hi.fails_resumed hk hs hn hpc
  · exact hi.fails_check hk hs hn hpc
  · exact hi.fails_attempt hk hs hpc

/-- A read, up to its suspension; its timer has the number 0. -/
def waitingRead (timeout : Option Nat) : List Label :=
  [.openFd 5, .create 5 true, .setTimeout 5 .READ timeout, .begin true (.io .READ) 5,
    .raw 0 .again, .advance 0 true, .advance 0 true, .advance 0 true]

/-- The timer cancels the call before the descriptor is closed and its number given out
again. -/
theorem closed_call_fails_timeout :
    ∃ os s, run step System.init (waitingRead (some 100) ++ [.expire 0, .callback 0 true,
        .callback 0 true, .callback 0 true, .cancelAll 5 true, .del 5, .closeFile 5, .openFd 5,
        .create 5 true, .resume 0, .advance 0 true, .advance 0 true]) = some (os, s)
      ∧ s.isOpen 5 = true ∧ (s.calls 0).stale = true ∧ (s.calls 0).pc = .returned (-1)
      ∧ (s.calls 0).touched = false := by
  have hstate : (run step System.init (waitingRead (some 100) ++ [.expire 0, .callback 0 true,
      .callback 0 true, .callback 0 true, .cancelAll 5 true, .del 5, .closeFile 5, .openFd 5,
      .create 5 true, .resume 0, .advance 0 true, .advance 0 true])).map
      (fun r => (r.2.isOpen 5, (r.2.calls 0).kind, (r.2.calls 0).stale, (r.2.calls 0).pc))
      = some (true, .io .READ, true, .returned (-1)) := by
    decide +kernel
  obtain ⟨⟨os, s⟩, hrun, hp⟩ := Option.map_eq_some_iff.mp hstate
  simp only [Prod.mk.injEq] at hp
  obtain ⟨hopen, hkind, hs, hpc⟩ := hp
  have h := closed_call_fails _ (by decide +kernel) hrun 0 (by rw [hkind]; rfl)
  exact ⟨os, s, hrun, hopen, hs, hpc, h.1⟩

/-- A read without a timeout is woken by `close`, the number is given out again, and the
call reads from the new descriptor. -/
theorem retried_on_later_descriptor :
    ¬ ∀ (labels : List Label) (os : List Unit) (s : System),
      run step System.init labels = some (os, s) → ∀ c, (s.calls c).kind.isIo = true →
        (s.calls c).touched = false ∧ ((s.calls c).stale = true →
          ∀ n, (s.calls c).pc = .returned n → n = -1) := by
  intro hall
  have hstate : (run step System.init (waitingRead none ++ [.cancelAll 5 true, .del 5,
      .closeFile 5, .openFd 5, .create 5 true, .resume 0, .advance 0 true, .advance 0 true,
      .raw 0 (.ok 3)])).map
      (fun r => ((r.2.calls 0).kind, (r.2.calls 0).touched)) = some (.io .READ, true) := by
    decide +kernel
  obtain ⟨⟨os, s⟩, hrun, hp⟩ := Option.map_eq_some_iff.mp hstate
  simp only [Prod.mk.injEq] at hp
  have h := (hall _ os s hrun 0 (by rw [hp.1]; rfl)).1
  rw [hp.2] at h
  cases h

end Hook

end HrServer
