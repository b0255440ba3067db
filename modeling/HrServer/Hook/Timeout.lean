/-
HrServer.Hook.Timeout — a hooked call that is suspended with a timeout is
watched by a timer.

`do_io` and `connect_with_timeout` arm the timer before they register the
event, and do not look at `tinfo->cancelled` before they yield. When the
callback runs in between, its `cancelEvent` finds no event, and the fiber
then waits for an event that nobody cancels any more
(`suspended_after_timeout`). A callback of an earlier wait of the same
call can do the same after the call has passed its test.

`suspended_watched` says that this is the only way, apart from a
`cancelEvent` that the kernel refuses: in the runs that register an event
only for a call that is not yet marked, or whose callback has still to
call `cancelEvent`, a suspended call is queued or watched. `Sound` is the
invariant of one call; a step changes one call, and leaves the others the
`Same`.
-/
import HrServer.Hook.CoreTheorems
import Mathlib.Order.Nat

namespace HrServer

open Lib

namespace Hook

open Io (Event)

/-! ## Watching a call -/

/-- The callback has not been passed over. -/
def Stage.live : Stage → Bool
  | .pending | .due | .passed => true
  | .cancelled | .marked | .ended => false

/-- The callback goes on to `cancelEvent` whatever `tinfo->cancelled` is. -/
def Stage.committed : Stage → Bool
  | .passed | .marked => true
  | .pending | .cancelled | .due | .ended => false

namespace System

/-- A callback of the call is on its way to `cancelEvent`. -/
def Cancelling (s : System) (c : Nat) : Prop :=
  ∃ t < s.armed, (s.timers t).call = c ∧ (s.timers t).stage.committed = true

/-- The timer of the wait is pending, or was taken and its callback has not been passed
over. -/
def Armed (s : System) (c : Nat) : Prop :=
  ∃ t < s.armed, (s.calls c).timer = some t ∧ (s.timers t).call = c ∧ (s.timers t).stage.live = true

/-- Somebody is left to cancel the event of the call. -/
def Watched (s : System) (c : Nat) : Prop :=
  ((s.calls c).cancelled = false ∧ s.Armed c) ∨ s.Cancelling c

instance (s : System) (c : Nat) : Decidable (s.Cancelling c) :=
  inferInstanceAs (Decidable (∃ t < s.armed, _))

instance (s : System) (c : Nat) : Decidable (s.Armed c) :=
  inferInstanceAs (Decidable (∃ t < s.armed, _))

instance (s : System) (c : Nat) : Decidable (s.Watched c) := inferInstanceAs (Decidable (_ ∨ _))

/-- An event is registered for a call with a timeout only while the call is not marked, or a
callback of it is on its way to `cancelEvent`; and `epoll_ctl` succeeds in the
`cancelEvent` of a callback whose call is waiting. -/
def Timely (s : System) : Label → Prop
  | .advance c ok =>
    (s.calls c).pc = .register → ok = true → (s.calls c).timeout ≠ none →
      (s.calls c).cancelled = false ∨ s.Cancelling c
  | .callback t ok =>
    let c := (s.timers t).call
    (s.timers t).stage = .marked → s.waiting (s.calls c).fd (s.calls c).event = some c → ok = true
  | _ => True

instance (s : System) : (l : Label) → Decidable (s.Timely l)
  | .advance _ _ => inferInstanceAs (Decidable (_ → _ → _ → _))
  | .callback _ _ => inferInstanceAs (Decidable (_ → _ → _))
  | .begin _ _ _ | .raw _ _ | .resume _ | .expire _ | .dispatch _ _ | .openFd _ | .create _ _
  | .setTimeout _ _ _ | .setUserNonblock _ _ | .cancelAll _ _ | .del _ | .closeFile _ =>
    .isTrue trivial

/-! ## The invariant of one call -/

structure Sound (s : System) (c : Nat) : Prop where
  fresh : s.begun ≤ c → (s.calls c).pc.inProgress = false
  once : s.queued c ≤ 1
  quiet : (s.calls c).pc.blocked = false → s.queued c = 0
  owns : ∀ fd event, s.waiting fd event = some c → (s.calls c).fd = fd ∧
    (s.calls c).event = event ∧ (s.calls c).pc.blocked = true ∧ s.queued c = 0
  waits : (s.calls c).pc.blocked = true → s.queued c = 0 →
    s.waiting (s.calls c).fd (s.calls c).event = some c
  timer : ∀ t, (s.calls c).timer = some t → t < s.armed ∧ (s.timers t).call = c
  armed : (s.calls c).pc = .register → (s.calls c).timeout ≠ none →
    (s.calls c).cancelled = false → s.Armed c
  watched : (s.calls c).pc.blocked = true → s.queued c = 0 → (s.calls c).timeout ≠ none →
    s.Watched c

structure Inv (s : System) : Prop where
  calls : ∀ c, s.Sound c
  unarmed : ∀ t, s.armed ≤ t → (s.timers t).stage = .ended

/-- A step from `s` to `s'` that does not concern the call `c`. -/
structure Same (s s' : System) (c : Nat) : Prop where
  call : ∃ b, s'.calls c = { s.calls c with stale := b }
  queued : s'.queued c = s.queued c
  waiting : ∀ fd event, s'.waiting fd event = some c ↔ s.waiting fd event = some c
  begun : s.begun ≤ s'.begun
  armed : s.armed ≤ s'.armed
  timers : ∀ t < s.armed, (s'.timers t).call = (s.timers t).call ∧
    ((s.timers t).call = c → (s'.timers t).stage = (s.timers t).stage)

variable {s s' s'' : System} {c d t : Nat}

/-- A step that leaves the registrations and the timers alone. -/
theorem Same.of_eq (hc : ∃ b, s'.calls c = { s.calls c with stale := b })
    (hq : s'.queued c = s.queued c) (hw : s'.waiting = s.waiting) (hb : s.begun ≤ s'.begun)
    (ha : s'.armed = s.armed) (ht : s'.timers = s.timers) : Same s s' c := by
  refine ⟨hc, hq, fun fd event => ?_, hb, ha.ge, fun t _ => ?_⟩
  · rw [hw]
  · rw [ht]
    exact ⟨rfl, fun _ => rfl⟩

theorem Same.trans (h : Same s s' c) (h' : Same s' s'' c) : Same s s'' c := by
  refine ⟨?_, h'.queued.trans h.queued, fun fd event => ?_, h.begun.trans h'.begun,
    h.armed.trans h'.armed, fun t ht => ?_⟩
  · obtain ⟨b, hb⟩ := h.call
    obtain ⟨b', hb'⟩ := h'.call
    exact ⟨b', by rw [hb', hb]⟩
  · exact (h'.waiting fd event).trans (h.waiting fd event)
  · obtain ⟨h1, h2⟩ := h.timers t ht
    obtain ⟨h3, h4⟩ := h'.timers t (ht.trans_le h.armed)
    refine ⟨h3.trans h1, fun hc => ?_⟩
    rw [h4 (h1.trans hc), h2 hc]

theorem Same.setCall (s : System) (call : Call) (h : d ≠ c) : Same s (s.setCall c call) d :=
  Same.of_eq ⟨(s.calls d).stale, if_neg h⟩ rfl rfl le_rfl rfl rfl

theorem Same.setQueued (s : System) (n : Nat) (h : d ≠ c) : Same s (s.setQueued c n) d :=
  Same.of_eq ⟨(s.calls d).stale, rfl⟩ (if_neg h) rfl le_rfl rfl rfl

theorem Same.setStage (s : System) (stage : Stage) (h : (s.timers t).call ≠ d) :
    Same s (s.setStage t stage) d := by
  refine ⟨⟨(s.calls d).stale, rfl⟩, rfl, fun _ _ => Iff.rfl, le_rfl, le_rfl, fun u _ => ?_⟩
  by_cases hu : u = t
  · subst hu
    simp [System.setStage, h]
  · simp [System.setStage, hu]

/-- A wait of another call begins or ends. -/
theorem Same.setWaiting {fd : Nat} {event : Event} {o : Option Nat} (ho : o ≠ some d)
    (h : s.waiting fd event ≠ some d) : Same s (s.setWaiting fd event o) d := by
  refine ⟨⟨(s.calls d).stale, rfl⟩, rfl, fun n e => ?_, le_rfl, le_rfl,
    fun _ _ => ⟨rfl, fun _ => rfl⟩⟩
  by_cases hn : n = fd ∧ e = event
  · obtain ⟨rfl, rfl⟩ := hn
    simp [System.setWaiting, ho, h]
  · simp [System.setWaiting, hn]

theorem Cancelling.same (h : s.Cancelling c) (hs : Same s s' c) : s'.Cancelling c := by
  obtain ⟨t, ht, hc, hst⟩ := h
  obtain ⟨h1, h2⟩ := hs.timers t ht
  exact ⟨t, ht.trans_le hs.armed, h1.trans hc, by rw [h2 hc, hst]⟩

theorem Armed.same (h : s.Armed c) (hs : Same s s' c) : s'.Armed c := by
  obtain ⟨t, ht, htc, hc, hst⟩ := h
  obtain ⟨h1, h2⟩ := hs.timers t ht
  obtain ⟨b, hb⟩ := hs.call
  exact ⟨t, ht.trans_le hs.armed, by rw [hb]; exact htc, h1.trans hc, by rw [h2 hc, hst]⟩

/-- What does not concern a call keeps its invariant. -/
theorem Sound.same (h : s.Sound c) (hs : Same s s' c) : s'.Sound c := by
  obtain ⟨b, hb⟩ := hs.call
  have hw : s.Watched c → s'.Watched c := by
    rintro (⟨hc, ha⟩ | hc)
    · exact .inl ⟨by rw [hb]; exact hc, ha.same hs⟩
    · exact .inr (hc.same hs)
  refine ⟨?_, ?_, ?_, ?_, ?_, ?_, ?_, ?_⟩ <;> simp only [hb, hs.queued]
  · exact fun hc => h.fresh (hs.begun.trans hc)
  · exact h.once
  · exact h.quiet
  · exact fun fd event hf => h.owns fd event ((hs.waiting fd event).mp hf)
  · exact fun hp hq => (hs.waiting _ _).mpr (h.waits hp hq)
  · intro t ht
    obtain ⟨h1, h2⟩ := h.timer t ht
    exact ⟨h1.trans_le hs.armed, (hs.timers t h1).1.trans h2⟩
  · exact fun hp ht hc => (h.armed hp ht hc).same hs
  · exact fun hp hq ht => hw (h.watched hp hq ht)

/-- A call that neither waits nor is about to needs no timer. -/
theorem Sound.free (hfresh : s.begun ≤ c → (s.calls c).pc.inProgress = false)
    (hq : s.queued c = 0) (hw : ∀ fd event, s.waiting fd event ≠ some c)
    (ht : ∀ t, (s.calls c).timer = some t → t < s.armed ∧ (s.timers t).call = c)
    (hb : (s.calls c).pc.blocked = false) (hr : (s.calls c).pc ≠ .register) : s.Sound c := by
  refine ⟨hfresh, by omega, fun _ => hq, fun fd event h => absurd h (hw fd event), ?_, ht,
    fun h => absurd h hr, ?_⟩
  · rw [hb]
    exact fun h => by cases h
  · rw [hb]
    exact fun h => by cases h

theorem Sound.idle (h : s.Sound c) (hb : (s.calls c).pc.blocked = false) :
    s.queued c = 0 ∧ ∀ fd event, s.waiting fd event ≠ some c := by
  refine ⟨h.quiet hb, fun fd event hw => ?_⟩
  have hb' := (h.owns fd event hw).2.2.1
  rw [hb] at hb'
  cases hb'

theorem Sound.begun (h : s.Sound c) (hp : (s.calls c).pc.inProgress = true) : c < s.begun := by
  by_contra hc
  rw [h.fresh (not_lt.mp hc)] at hp
  cases hp

/-- A step that concerns one call keeps the invariant when it keeps that of the call. -/
theorem Inv.move (hi : s.Inv) (c : Nat) (hs : ∀ d, d ≠ c → Same s s' d) (hc : s'.Sound c)
    (hu : ∀ t, s'.armed ≤ t → (s'.timers t).stage = .ended) : s'.Inv := by
  refine ⟨fun d => ?_, hu⟩
  by_cases hd : d = c
  · rw [hd]
    exact hc
  · exact (hi.calls d).same (hs d hd)

/-! ## Steps -/

theorem inv_init : init.Inv :=
  ⟨fun _ => Sound.free (fun _ => rfl) rfl (fun _ _ => by simp [init]) (fun _ h => by cases h) rfl
    (by simp [init]), fun _ _ => rfl⟩

/-- A step that concerns no call. -/
theorem Inv.same (hi : s.Inv) (hs : ∀ c, Same s s' c) (ht : s'.timers = s.timers)
    (ha : s'.armed = s.armed) : s'.Inv :=
  ⟨fun c => (hi.calls c).same (hs c), by rw [ht, ha]; exact hi.unarmed⟩

/-- A call goes on from one place outside its wait to another. -/
theorem Inv.setCall (hi : s.Inv) {call : Call} (hp : (s.calls c).pc.blocked = false)
    (hin : (s.calls c).pc.inProgress = true) (ht : call.timer = (s.calls c).timer)
    (hb : call.pc.blocked = false) (hr : call.pc ≠ .register) : (s.setCall c call).Inv := by
  have hcall : (s.setCall c call).calls c = call := if_pos rfl
  obtain ⟨hq, hw⟩ := (hi.calls c).idle hp
  refine hi.move c (fun d hd => Same.setCall s call hd) (Sound.free ?_ hq hw ?_ ?_ ?_) hi.unarmed
  · exact fun hc => absurd ((hi.calls c).begun hin) (not_lt.mpr hc)
  · rw [hcall, ht]
    exact (hi.calls c).timer
  · rw [hcall, hb]
  · rw [hcall]
    exact hr

/-- A call that waits, or is about to. -/
def Needs (s : System) (c : Nat) : Prop :=
  (s.calls c).pc = .register ∨ (s.calls c).pc.blocked = true ∧ s.queued c = 0

/-- A timer goes on; `h` says that the call it belongs to does not lose its watch. -/
theorem Inv.setStage (hi : s.Inv) {stage : Stage} (ht : t < s.armed)
    (hl : s.Needs (s.timers t).call → (s.calls (s.timers t).call).cancelled = false →
      (s.timers t).stage.live = true → stage.live = true)
    (hc : (s.calls (s.timers t).call).pc.blocked = true → s.queued (s.timers t).call = 0 →
      (s.timers t).stage.committed = true → stage.committed = true) :
    (s.setStage t stage).Inv := by
  have hcall : ∀ u, ((s.setStage t stage).timers u).call = (s.timers u).call := by
    intro u
    by_cases hu : u = t
    · simp [System.setStage, hu]
    · simp [System.setStage, hu]
  have hself : ((s.setStage t stage).timers t).stage = stage := by simp [System.setStage]
  have hother : ∀ u, u ≠ t → (s.setStage t stage).timers u = s.timers u := fun u hu => if_neg hu
  have h := hi.calls (s.timers t).call
  -- The watch of the call, when it has to have one.
  have harmed : s.Needs (s.timers t).call → (s.calls (s.timers t).call).cancelled = false →
      s.Armed (s.timers t).call → (s.setStage t stage).Armed (s.timers t).call := by
    rintro hn hcan ⟨u, hu, htu, huc, hst⟩
    refine ⟨u, hu, htu, (hcall u).trans huc, ?_⟩
    by_cases hut : u = t
    · rw [hut] at hst ⊢
      rw [hself]
      exact hl hn hcan hst
    · rw [hother u hut, hst]
  refine hi.move (s.timers t).call (fun d hd => Same.setStage s stage hd.symm) ?_ ?_
  · refine ⟨h.fresh, h.once, h.quiet, h.owns, h.waits, ?_, ?_, ?_⟩
    · intro u hu
      obtain ⟨h1, h2⟩ := h.timer u hu
      exact ⟨h1, (hcall u).trans h2⟩
    · exact fun hp hto hcan => harmed (.inl hp) hcan (h.armed hp hto hcan)
    · intro hp hq hto
      rcases h.watched hp hq hto with ⟨hcan, ha⟩ | ⟨u, hu, huc, hst⟩
      · exact .inl ⟨hcan, harmed (.inr ⟨hp, hq⟩) hcan ha⟩
      · refine .inr ⟨u, hu, (hcall u).trans huc, ?_⟩
        by_cases hut : u = t
        · rw [hut] at hst ⊢
          rw [hself]
          exact hc hp hq hst
        · rw [hother u hut, hst]
  · intro u hu
    have hut : u ≠ t := by
      rintro rfl
      exact absurd ht (not_lt.mpr hu)
    rw [hother u hut]
    exact hi.unarmed u hu

/-- Only an armed timer has anything left to do. -/
theorem Inv.lt_armed (hi : s.Inv) (h : (s.timers t).stage ≠ .ended) : t < s.armed := by
  by_contra ht
  exact h (hi.unarmed t (not_lt.mp ht))

theorem Inv.cancelTimer (hi : s.Inv) (hp : (s.calls c).pc.blocked = false)
    (hr : (s.calls c).pc ≠ .register) : (s.cancelTimer c).Inv := by
  unfold System.cancelTimer
  cases ht : (s.calls c).timer with
  | none => exact hi
  | some t =>
    obtain ⟨hlt, hc⟩ := (hi.calls c).timer t ht
    simp only
    split
    · refine hi.setStage hlt ?_ ?_
      · rw [hc]
        rintro (h | ⟨h, -⟩)
        · exact absurd h hr
        · rw [hp] at h
          cases h
      · rw [hc, hp]
        exact fun h => by cases h
    · exact hi

theorem Inv.trigger (hi : s.Inv) (fd : Nat) (event : Event) : (s.trigger fd event).Inv := by
  unfold System.trigger
  cases hw : s.waiting fd event with
  | none => exact hi
  | some c =>
    have h := hi.calls c
    obtain ⟨hfd, hev, hb, hq⟩ := h.owns fd event hw
    have hqueued : ((s.setWaiting fd event none).setQueued c (s.queued c + 1)).queued c = 1 := by
      simp [System.setQueued, hq]
    refine hi.move c (fun d hd => ?_) ⟨h.fresh, ?_, ?_, ?_, ?_, h.timer, h.armed, ?_⟩ hi.unarmed
    · refine (Same.setWaiting (by simp) ?_).trans (Same.setQueued _ _ hd)
      rw [hw, Ne, Option.some.injEq]
      exact hd.symm
    · exact hqueued.le
    · intro hb'
      rw [show (s.calls c).pc.blocked = false from hb'] at hb
      cases hb
    · intro n e hn
      -- The call waits nowhere else.
      by_cases hne : n = fd ∧ e = event
      · simp [System.setQueued, System.setWaiting, hne] at hn
      · simp only [System.setQueued, System.setWaiting, if_neg hne] at hn
        obtain ⟨hfd', hev', -, -⟩ := h.owns n e hn
        exact absurd ⟨hfd'.symm.trans hfd, hev'.symm.trans hev⟩ hne
    · intro _ hq'
      rw [hqueued] at hq'
      cases hq'
    · intro _ hq'
      rw [hqueued] at hq'
      cases hq'

/-- A `cancelEvent` that goes through leaves the call queued, if it was waiting. -/
theorem Inv.queued_trigger (hi : s.Inv) (hb : (s.calls c).pc.blocked = true) :
    (s.trigger (s.calls c).fd (s.calls c).event).queued c ≠ 0 := by
  unfold System.trigger
  by_cases hq : s.queued c = 0
  · rw [(hi.calls c).waits hb hq]
    simp [System.setQueued]
  · split
    · rename_i d hd
      by_cases hcd : c = d
      · simp [System.setQueued, hcd]
      · simpa [System.setQueued, System.setWaiting, hcd] using hq
    · exact hq

theorem entry_free (hook : Bool) (ctx : Option FdCtx) (kind : Kind) :
    (entry hook ctx kind).blocked = false ∧ entry hook ctx kind ≠ .register := by
  unfold entry
  split
  · exact ⟨rfl, by simp⟩
  · split
    · exact ⟨rfl, by simp⟩
    · exact ⟨rfl, by simp⟩
    · split
      · exact ⟨rfl, by simp⟩
      · split
        · exact ⟨rfl, by simp⟩
        · exact ⟨rfl, by simp⟩

theorem Inv.begin (hi : s.Inv) (hook : Bool) (kind : Kind) (fd : Nat) :
    (s.begin hook kind fd).Inv := by
  have hold := (hi.calls s.begun).fresh le_rfl
  have hb : (s.calls s.begun).pc.blocked = false := by
    cases hpc : (s.calls s.begun).pc <;> simp_all [Pc.blocked, Pc.inProgress]
  obtain ⟨hq, hw⟩ := (hi.calls s.begun).idle hb
  obtain ⟨hb', hr'⟩ := entry_free hook (s.datas fd) kind
  refine hi.move s.begun (fun d hd => ?_) (Sound.free ?_ hq hw ?_ ?_ ?_) hi.unarmed
  · exact (Same.setCall s _ hd).trans (Same.of_eq ⟨_, rfl⟩ rfl rfl (Nat.le_succ _) rfl rfl)
  · exact fun h => absurd h (Nat.not_succ_le_self s.begun)
  · intro t ht
    simp [System.begin, System.setCall] at ht
  · simpa [System.begin, System.setCall] using hb'
  · simpa [System.begin, System.setCall] using hr'

theorem afterRaw_free (call : Call) (r : Raw) :
    (call.afterRaw r).blocked = false ∧ call.afterRaw r ≠ .register := by
  unfold Call.afterRaw
  split <;> exact ⟨rfl, by simp⟩

theorem Inv.raw (hi : s.Inv) {r : Raw} (h : s.raw c r = some s') : s'.Inv := by
  obtain ⟨hpc, -, rfl⟩ := raw_eq_some h
  obtain ⟨hb, hr⟩ := afterRaw_free (s.calls c) r
  rcases hpc with hpc | hpc
  · exact hi.setCall (by rw [hpc]; rfl) (by rw [hpc]; rfl) rfl hb hr
  · exact hi.setCall (by rw [hpc]; rfl) (by rw [hpc]; rfl) rfl hb hr

theorem Inv.arm (hi : s.Inv) (hpc : (s.calls c).pc = .arm) : (s.arm c).Inv := by
  have hbegun := (hi.calls c).begun (by rw [hpc]; rfl)
  obtain ⟨hq, hw⟩ := (hi.calls c).idle (by rw [hpc]; rfl)
  cases hto : (s.calls c).timeout with
  | none =>
    simp only [System.arm, hto]
    refine hi.move c (fun d hd => Same.setCall s _ hd)
      ⟨fun h => absurd hbegun (not_lt.mpr h), (by simp [System.setCall, hq]), fun _ => hq,
        fun fd event h => absurd h (hw fd event), ?_, ?_, ?_, ?_⟩ hi.unarmed
    all_goals simp [System.setCall, Pc.blocked]
  | some ms =>
    simp only [System.arm, hto]
    refine hi.move c (fun d hd => ?_)
      ⟨fun h => absurd hbegun (not_lt.mpr h), (by simp [System.setCall, hq]), fun _ => hq,
        fun fd event h => absurd h (hw fd event), ?_, ?_, ?_, ?_⟩ ?_
    · refine (Same.setCall s _ hd).trans
        ⟨⟨_, rfl⟩, rfl, fun _ _ => Iff.rfl, le_rfl, Nat.le_succ _, fun u hu => ?_⟩
      have hne : u ≠ s.armed := ne_of_lt hu
      simp [System.setCall, hne]
    · simp [System.setCall, Pc.blocked]
    · intro t ht
      simp only [System.setCall, if_true, Option.some.injEq] at ht
      subst ht
      simp
    · exact fun _ _ _ => ⟨s.armed, by simp [System.setCall, Stage.live]⟩
    · simp [System.setCall, Pc.blocked]
    · intro u hu
      have hne : u ≠ s.armed := by
        rintro rfl
        exact absurd hu (Nat.not_succ_le_self s.armed)
      simp only [if_neg hne]
      exact hi.unarmed u ((Nat.le_succ _).trans hu)

/-- Where the wait begins the guard hands over the watch. -/
theorem Inv.register (hi : s.Inv) {ok : Bool} (hpc : (s.calls c).pc = .register)
    (hg : ok = true → (s.calls c).timeout ≠ none → (s.calls c).cancelled = false ∨ s.Cancelling c)
    (h : s.register c ok = some s') : s'.Inv := by
  have hcall := hi.calls c
  have hbegun := hcall.begun (by rw [hpc]; rfl)
  obtain ⟨hq, hw⟩ := hcall.idle (by rw [hpc]; rfl)
  obtain ⟨hnone, ⟨hok, rfl⟩ | ⟨-, rfl⟩⟩ := register_eq_some h
  · refine hi.move c (fun d hd => ?_)
      ⟨fun h => absurd hbegun (not_lt.mpr h), hcall.once, fun _ => hq, ?_, ?_, ?_, ?_, ?_⟩
      hi.unarmed
    · refine (Same.setWaiting ?_ ?_).trans (Same.setCall _ _ hd)
      · rw [Ne, Option.some.injEq]
        exact hd.symm
      · rw [hnone]
        simp
    · intro fd event hf
      by_cases hne : fd = (s.calls c).fd ∧ event = (s.calls c).event
      · obtain ⟨rfl, rfl⟩ := hne
        simpa [System.goto, System.setCall, System.setWaiting, Pc.blocked, Call.event] using hq
      · simp only [System.goto, System.setCall, System.setWaiting, if_neg hne] at hf
        exact absurd hf (hw fd event)
    · simp [System.goto, System.setCall, System.setWaiting, Call.event]
    · simpa [System.goto, System.setCall, System.setWaiting] using hcall.timer
    · simp [System.goto, System.setCall]
    · intro _ _ hto
      have hto' : (s.calls c).timeout ≠ none := by
        simpa [System.goto, System.setCall, System.setWaiting] using hto
      rcases hg hok hto' with hcan | hcan
      · obtain ⟨t, ht, htc, hst⟩ := hcall.armed hpc hto' hcan
        refine .inl ⟨?_, t, ht, ?_, hst⟩
        · simpa [System.goto, System.setCall, System.setWaiting] using hcan
        · simpa [System.goto, System.setCall, System.setWaiting] using htc
      · exact .inr hcan
  · exact hi.setCall (by rw [hpc]; rfl) (by rw [hpc]; rfl) rfl rfl (by simp)

/-- `YieldToHold` changes nothing for the wait. -/
theorem Inv.yield (hi : s.Inv) (hpc : (s.calls c).pc = .yield) :
    (s.setCall c { s.calls c with pc := .suspended, slept := true }).Inv := by
  have h := hi.calls c
  have hb : (s.calls c).pc.blocked = true := by rw [hpc]; rfl
  have hcall : (s.setCall c { s.calls c with pc := .suspended, slept := true }).calls c
      = { s.calls c with pc := .suspended, slept := true } := if_pos rfl
  have hw : s.Watched c →
      (s.setCall c { s.calls c with pc := .suspended, slept := true }).Watched c := by
    rintro (⟨hcan, t, ht, htc, hst⟩ | hcan)
    · exact .inl ⟨by rw [hcall]; exact hcan, t, ht, by rw [hcall]; exact htc, hst⟩
    · exact .inr hcan
  refine hi.move c (fun d hd => Same.setCall s _ hd) ⟨?_, h.once, ?_, ?_, ?_, ?_, ?_, ?_⟩ hi.unarmed
    <;> rw [hcall]
  · exact fun hc => absurd (h.begun (by rw [hpc]; rfl)) (not_lt.mpr hc)
  · exact fun hb => by cases hb
  · intro fd event hf
    obtain ⟨h1, h2, -, h4⟩ := h.owns fd event hf
    exact ⟨h1, h2, rfl, h4⟩
  · exact fun _ hq => h.waits hb hq
  · exact h.timer
  · exact fun hr => by cases hr
  · exact fun _ hq hto => hw (h.watched hb hq hto)

/-- A call cancels its timer behind the wait, or instead of it, and goes on. -/
theorem Inv.leave (hi : s.Inv) {pc : Pc}
    (hold : (s.calls c).pc = .abandon ∨ (s.calls c).pc = .resumed)
    (hb : pc.blocked = false) (hr : pc ≠ .register) : ((s.cancelTimer c).goto c pc).Inv := by
  have hfree : (s.calls c).pc.blocked = false ∧ (s.calls c).pc ≠ .register
      ∧ (s.calls c).pc.inProgress = true := by
    rcases hold with hold | hold
    · rw [hold]
      exact ⟨rfl, by simp, rfl⟩
    · rw [hold]
      exact ⟨rfl, by simp, rfl⟩
  refine (hi.cancelTimer hfree.1 hfree.2.1).setCall ?_ ?_ rfl hb hr
  · rw [cancelTimer_calls]
    exact hfree.1
  · rw [cancelTimer_calls]
    exact hfree.2.2

theorem afterAbandon_free (call : Call) :
    call.afterAbandon.blocked = false ∧ call.afterAbandon ≠ .register := by
  unfold Call.afterAbandon
  split <;> exact ⟨rfl, by simp⟩

theorem afterCheck_free (call : Call) :
    call.afterCheck.blocked = false ∧ call.afterCheck ≠ .register := by
  unfold Call.afterCheck
  split
  · exact ⟨rfl, by simp⟩
  · split <;> exact ⟨rfl, by simp⟩

theorem Inv.advance (hi : s.Inv) {ok : Bool} (hg : s.Timely (.advance c ok))
    (h : s.advance c ok = some s') : s'.Inv := by
  obtain ⟨hpc, rfl⟩ | ⟨hpc, h⟩ | ⟨hpc, rfl⟩ | ⟨hpc, rfl⟩ | ⟨hpc, rfl⟩ | ⟨hpc, rfl⟩ | ⟨hpc, rfl⟩ :=
    advance_eq_some h
  · exact hi.arm hpc
  · exact hi.register hpc (hg hpc) h
  · obtain ⟨hb, hr⟩ := afterAbandon_free (s.calls c)
    exact hi.leave (.inl hpc) hb hr
  · exact hi.yield hpc
  · exact hi.leave (.inr hpc) rfl (by simp)
  · obtain ⟨hb, hr⟩ := afterCheck_free (s.calls c)
    exact hi.setCall (by rw [hpc]; rfl) (by rw [hpc]; rfl) rfl hb hr
  · exact hi.setCall (by rw [hpc]; rfl) (by rw [hpc]; rfl) rfl rfl (by simp)

theorem Inv.resume (hi : s.Inv) (h : s.resume c = some s') : s'.Inv := by
  obtain ⟨hpc, hq, rfl⟩ := resume_eq_some h
  have hcall := hi.calls c
  have hone : s.queued c = 1 := by
    have := hcall.once
    omega
  refine hi.move c (fun d hd => (Same.setQueued s _ hd).trans (Same.setCall _ _ hd))
    (Sound.free ?_ ?_ ?_ ?_ ?_ ?_) hi.unarmed
  · exact fun hc => absurd (hcall.begun (by rw [hpc]; rfl)) (not_lt.mpr hc)
  · simp [System.goto, System.setCall, System.setQueued, hone]
  · intro fd event hw
    have hq0 := (hcall.owns fd event hw).2.2.2
    omega
  · simpa [System.goto, System.setCall, System.setQueued] using hcall.timer
  · simp [System.goto, System.setCall, Pc.blocked]
  · simp [System.goto, System.setCall]

/-- `t->cancelled = ETIMEDOUT` takes the watch from the timer to the callback. -/
theorem Inv.mark (hi : s.Inv) (hc : s.Cancelling c) :
    (s.setCall c { s.calls c with cancelled := true }).Inv := by
  have h := hi.calls c
  have hcall : (s.setCall c { s.calls c with cancelled := true }).calls c
      = { s.calls c with cancelled := true } := if_pos rfl
  refine hi.move c (fun d hd => Same.setCall s _ hd) ⟨?_, h.once, ?_, ?_, ?_, ?_, ?_, ?_⟩ hi.unarmed
  · rw [hcall]
    exact h.fresh
  · rw [hcall]
    exact h.quiet
  · rw [hcall]
    exact h.owns
  · rw [hcall]
    exact h.waits
  · rw [hcall]
    exact h.timer
  · rw [hcall]
    exact fun _ _ hcan => by cases hcan
  · exact fun _ _ _ => .inr hc

theorem blocked_inProgress {pc : Pc} (h : pc.blocked = true) : pc.inProgress = true := by
  cases pc <;> first | rfl | cases h

theorem Needs.inProgress (h : s.Needs c) : (s.calls c).pc.inProgress = true := by
  rcases h with h | ⟨h, -⟩
  · rw [h]
    rfl
  · exact blocked_inProgress h

theorem Inv.callback (hi : s.Inv) {ok : Bool} (hg : s.Timely (.callback t ok))
    (h : s.callback t ok = some s') : s'.Inv := by
  obtain ⟨hst, rfl⟩ | ⟨hst, rfl⟩ | ⟨hst, rfl⟩ := callback_eq_some h
  · refine hi.setStage (hi.lt_armed (by simp [hst])) ?_ ?_
    · -- A call that has to be watched and is not marked is not passed over.
      intro hn hcan _
      simp [hn.inProgress, hcan, Stage.live]
    · rw [hst]
      exact fun _ _ h => by cases h
  · have hlt := hi.lt_armed (t := t) (by simp [hst])
    have hmark := hi.mark ⟨t, hlt, rfl, by rw [hst]; rfl⟩
    refine hmark.setStage hlt ?_ (fun _ _ _ => rfl)
    intro _ hcan
    simp [System.setCall] at hcan
  · have hlt := hi.lt_armed (t := t) (by simp [hst])
    cases ok with
    | true =>
      have htr := hi.trigger (s.calls (s.timers t).call).fd (s.calls (s.timers t).call).event
      refine htr.setStage (by simpa using hlt) ?_ ?_
      · simp [hst, Stage.live]
      · intro hb hq _
        rw [trigger_timers] at hb hq
        rw [trigger_calls] at hb
        exact absurd hq (hi.queued_trigger hb)
    | false =>
      refine hi.setStage hlt ?_ ?_
      · rw [hst]
        exact fun _ _ h => by cases h
      · -- The guard: a waiting call is not left by its last callback.
        intro hb hq _
        have := hg hst ((hi.calls _).waits hb hq)
        cases this

theorem Inv.closeFile (hi : s.Inv) {fd : Nat} (h : s.closeFile fd = some s') : s'.Inv := by
  obtain ⟨-, rfl⟩ := closeFile_eq_some h
  exact hi.same (fun _ => Same.of_eq ⟨_, rfl⟩ rfl rfl le_rfl rfl rfl) rfl rfl

/-- The descriptor table plays no part in a wait. -/
theorem Inv.setCtx (hi : s.Inv) (fd : Nat) (ctx : Option FdCtx) : (s.setCtx fd ctx).Inv :=
  hi.same (fun c => Same.of_eq ⟨(s.calls c).stale, rfl⟩ rfl rfl le_rfl rfl rfl) rfl rfl

theorem Inv.next (hi : s.Inv) {l : Label} (hg : s.Timely l) (h : s.next l = some s') : s'.Inv := by
  cases l with
  | begin hook kind fd =>
    cases h
    exact hi.begin hook kind fd
  | raw c r => exact hi.raw h
  | advance c ok => exact hi.advance hg h
  | resume c => exact hi.resume h
  | expire t =>
    obtain ⟨hst, rfl⟩ := expire_eq_some h
    refine hi.setStage (hi.lt_armed (by simp [hst])) (fun _ _ _ => rfl) ?_
    rw [hst]
    exact fun _ _ h => by cases h
  | callback t ok => exact hi.callback hg h
  | dispatch fd event =>
    cases h
    exact hi.trigger fd event
  | openFd fd =>
    obtain ⟨-, rfl⟩ := openFd_eq_some h
    exact hi.same (fun c => Same.of_eq ⟨(s.calls c).stale, rfl⟩ rfl rfl le_rfl rfl rfl) rfl rfl
  | create fd isSocket =>
    cases h
    exact hi.setCtx fd _
  | setTimeout fd event v =>
    cases h
    exact hi.setCtx fd _
  | setUserNonblock fd v =>
    cases h
    exact hi.setCtx fd _
  | cancelAll fd ok =>
    cases h
    unfold System.cancelAll
    split
    · exact (hi.trigger fd .READ).trigger fd .WRITE
    · exact hi
  | del fd =>
    cases h
    exact hi.setCtx fd none
  | closeFile fd => exact hi.closeFile h

end System

/-! ## Runs -/

theorem inv_along_run (labels : List Label) {os : List Unit} {s : System}
    (hal : Along step System.Timely System.init labels)
    (hrun : run step System.init labels = some (os, s)) : s.Inv :=
  run_invariant_along (fun _ _ _ _ hi hg h => hi.next hg (step_eq_some h)) labels System.inv_init
    hal hrun

/-- The steps of a timer and its callback, as long as `epoll_ctl` succeeds, can wake the
call. -/
def Wakes (s : System) (c t : Nat) : Prop :=
  Reaches step (fun l => l = .expire t ∨ l = .callback t true) (fun s' => s'.queued c ≠ 0) s

section

variable {s : System} {c t : Nat}

theorem wakes_marked (hi : s.Inv) (hb : (s.calls c).pc.blocked = true)
    (hc : (s.timers t).call = c) (hst : (s.timers t).stage = .marked) : Wakes s c t := by
  subst hc
  have hnext : s.next (.callback t true)
      = some ((s.trigger (s.calls (s.timers t).call).fd
          (s.calls (s.timers t).call).event).setStage t .ended) := by
    simp [System.next, System.callback, hst]
  exact Reaches.step (.inr rfl) (step_of_next hnext) (Reaches.here (hi.queued_trigger hb))

theorem wakes_passed (hi : s.Inv) (hb : (s.calls c).pc.blocked = true)
    (hc : (s.timers t).call = c) (hst : (s.timers t).stage = .passed) : Wakes s c t := by
  subst hc
  have hnext : s.next (.callback t true)
      = some ((s.setCall (s.timers t).call
          { s.calls (s.timers t).call with cancelled := true }).setStage t .marked) := by
    simp [System.next, System.callback, hst]
  refine Reaches.step (.inr rfl) (step_of_next hnext) (wakes_marked (hi.next ?_ hnext) ?_ ?_ ?_)
  · intro hm
    rw [hst] at hm
    cases hm
  · simpa [System.setStage, System.setCall] using hb
  · simp [System.setStage, System.setCall]
  · simp [System.setStage]

theorem wakes_due (hi : s.Inv) (hb : (s.calls c).pc.blocked = true)
    (hcan : (s.calls c).cancelled = false) (hc : (s.timers t).call = c)
    (hst : (s.timers t).stage = .due) : Wakes s c t := by
  subst hc
  have hnext : s.next (.callback t true) = some (s.setStage t .passed) := by
    simp [System.next, System.callback, hst, hcan, System.blocked_inProgress hb]
  refine Reaches.step (.inr rfl) (step_of_next hnext) (wakes_passed (hi.next ?_ hnext) hb ?_ ?_)
  · intro hm
    rw [hst] at hm
    cases hm
  · simp [System.setStage]
  · simp [System.setStage]

theorem wakes_pending (hi : s.Inv) (hb : (s.calls c).pc.blocked = true)
    (hcan : (s.calls c).cancelled = false) (hc : (s.timers t).call = c)
    (hst : (s.timers t).stage = .pending) : Wakes s c t := by
  have hnext : s.next (.expire t) = some (s.setStage t .due) := by
    simp [System.next, hst]
  refine Reaches.step (.inl rfl) (step_of_next hnext)
    (wakes_due (hi.next (l := .expire t) trivial hnext) hb hcan ?_ ?_)
  · simpa [System.setStage] using hc
  · simp [System.setStage]

/-- A watched call is woken by its timer alone, whatever the other threads do not do. -/
theorem watched_wakes (hi : s.Inv) (hb : (s.calls c).pc.blocked = true) (hw : s.Watched c) :
    ∃ t, Wakes s c t := by
  rcases hw with ⟨hcan, t, -, -, hc, hst⟩ | ⟨t, -, hc, hst⟩
  · refine ⟨t, ?_⟩
    cases hs : (s.timers t).stage with
    | pending => exact wakes_pending hi hb hcan hc hs
    | due => exact wakes_due hi hb hcan hc hs
    | passed => exact wakes_passed hi hb hc hs
    | cancelled | marked | ended =>
      rw [hs] at hst
      cases hst
  · refine ⟨t, ?_⟩
    cases hs : (s.timers t).stage with
    | passed => exact wakes_passed hi hb hc hs
    | marked => exact wakes_marked hi hb hc hs
    | pending | cancelled | due | ended =>
      rw [hs] at hst
      cases hst

end

/-- A call that is suspended with a timeout and not queued. -/
theorem System.Inv.suspended {s : System} (hi : s.Inv) {c : Nat}
    (hpc : (s.calls c).pc = .suspended) (hto : (s.calls c).timeout ≠ none)
    (hq : s.queued c = 0) :
    s.waiting (s.calls c).fd (s.calls c).event = some c ∧ s.Watched c ∧ ∃ t, Wakes s c t := by
  have hb : (s.calls c).pc.blocked = true := by
    rw [hpc]
    rfl
  have hw := (hi.calls c).watched hb hq hto
  exact ⟨(hi.calls c).waits hb hq, hw, watched_wakes hi hb hw⟩

/-- In a run whose steps are all timely, a call that is suspended with a timeout and not
queued stands in the context of its event, and the callback of a timer is left that
cancels it and so wakes the call. -/
theorem suspended_watched (labels : List Label) {os : List Unit} {s : System}
    (hal : Along step System.Timely System.init labels)
    (hrun : run step System.init labels = some (os, s)) (c : Nat)
    (hpc : (s.calls c).pc = .suspended) (hto : (s.calls c).timeout ≠ none)
    (hq : s.queued c = 0) :
    s.waiting (s.calls c).fd (s.calls c).event = some c ∧ s.Watched c ∧ ∃ t, Wakes s c t :=
  (inv_along_run labels hal hrun).suspended hpc hto hq

/-- A read with a timeout, up to the end of `addConditionTimer`. -/
def armedRead : List Label :=
  [.openFd 5, .create 5 true, .setTimeout 5 .READ (some 100), .begin true (.io .READ) 5,
    .raw 0 .again, .advance 0 true]

/-- The timer expires when the fiber is suspended; the callback has still to cancel the
event. -/
theorem suspended_watched_marked :
    ∃ os s, run step System.init (armedRead ++ [.advance 0 true, .advance 0 true, .expire 0,
        .callback 0 true, .callback 0 true]) = some (os, s)
      ∧ (s.calls 0).cancelled = true ∧ s.waiting 5 .READ = some 0 ∧ s.Watched 0
      ∧ ∃ t, Wakes s 0 t := by
  have hstate : (run step System.init (armedRead ++ [.advance 0 true, .advance 0 true, .expire 0,
      .callback 0 true, .callback 0 true])).map
      (fun r => (r.2.calls 0, r.2.queued 0))
      = some (⟨.io .READ, 5, some 100, .suspended, true, some 0, true, false, false⟩, 0) := by
    decide +kernel
  obtain ⟨⟨os, s⟩, hrun, hp⟩ := Option.map_eq_some_iff.mp hstate
  simp only [Prod.mk.injEq] at hp
  obtain ⟨hcall, hq⟩ := hp
  have hw := suspended_watched _ (by decide +kernel) hrun 0 (by simp [hcall]) (by simp [hcall]) hq
  rw [hcall] at hw
  exact ⟨os, s, hrun, by simp [hcall], hw⟩

/-- The timer expires between `addConditionTimer` and `addEvent`: its callback has
returned, and the fiber waits for an event that nobody cancels. -/
theorem suspended_after_timeout :
    ¬ ∀ (labels : List Label) (os : List Unit) (s : System),
      run step System.init labels = some (os, s) → ∀ c, (s.calls c).pc = .suspended →
        (s.calls c).timeout ≠ none → s.queued c = 0 →
        s.waiting (s.calls c).fd (s.calls c).event = some c ∧ s.Watched c := by
  intro hall
  have hstate : (run step System.init (armedRead ++ [.expire 0, .callback 0 true,
      .callback 0 true, .callback 0 true, .advance 0 true, .advance 0 true])).map
      (fun r => (r.2.calls 0, r.2.queued 0, decide (r.2.Watched 0)))
      = some (⟨.io .READ, 5, some 100, .suspended, true, some 0, true, false, false⟩, 0,
        false) := by
    decide +kernel
  obtain ⟨⟨os, s⟩, hrun, hp⟩ := Option.map_eq_some_iff.mp hstate
  simp only [Prod.mk.injEq, decide_eq_false_iff_not] at hp
  obtain ⟨hcall, hq, hw⟩ := hp
  exact hw (hall _ os s hrun 0 (by simp [hcall]) (by simp [hcall]) hq).2

end Hook

end HrServer
