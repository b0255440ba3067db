/-
HrServer.Hook.CoreTheorems — what the steps of hooked calls do.

`trigger` and `cancelTimer` leave most of the state alone; the inversion
lemmas `*_eq_some` say when a step can be taken and what it makes of the
state, and no later proof unfolds these steps again.
-/
import HrServer.Hook.Core

namespace HrServer

open Lib

namespace Hook

open Io (Event)

namespace System

variable {s s' : System} {c t : Nat} {ok : Bool}

/-! ## Frames -/

@[simp] theorem trigger_calls (s : System) (fd : Nat) (event : Event) :
    (s.trigger fd event).calls = s.calls := by
  unfold System.trigger
  split <;> rfl

@[simp] theorem trigger_timers (s : System) (fd : Nat) (event : Event) :
    (s.trigger fd event).timers = s.timers := by
  unfold System.trigger
  split <;> rfl

@[simp] theorem trigger_armed (s : System) (fd : Nat) (event : Event) :
    (s.trigger fd event).armed = s.armed := by
  unfold System.trigger
  split <;> rfl

@[simp] theorem trigger_isOpen (s : System) (fd : Nat) (event : Event) :
    (s.trigger fd event).isOpen = s.isOpen := by
  unfold System.trigger
  split <;> rfl

@[simp] theorem trigger_begun (s : System) (fd : Nat) (event : Event) :
    (s.trigger fd event).begun = s.begun := by
  unfold System.trigger
  split <;> rfl

@[simp] theorem trigger_datas (s : System) (fd : Nat) (event : Event) :
    (s.trigger fd event).datas = s.datas := by
  unfold System.trigger
  split <;> rfl

/-- `Timer::cancel` changes the timers only. -/
theorem cancelTimer_eq (s : System) (c : Nat) :
    ∃ timers, s.cancelTimer c = { s with timers := timers } := by
  unfold System.cancelTimer
  split
  · split
    · exact ⟨_, rfl⟩
    · exact ⟨s.timers, rfl⟩
  · exact ⟨s.timers, rfl⟩

@[simp] theorem cancelTimer_calls (s : System) (c : Nat) : (s.cancelTimer c).calls = s.calls := by
  obtain ⟨timers, h⟩ := cancelTimer_eq s c
  rw [h]

@[simp] theorem cancelTimer_isOpen (s : System) (c : Nat) :
    (s.cancelTimer c).isOpen = s.isOpen := by
  obtain ⟨timers, h⟩ := cancelTimer_eq s c
  rw [h]

@[simp] theorem cancelTimer_begun (s : System) (c : Nat) : (s.cancelTimer c).begun = s.begun := by
  obtain ⟨timers, h⟩ := cancelTimer_eq s c
  rw [h]

@[simp] theorem cancelTimer_datas (s : System) (c : Nat) : (s.cancelTimer c).datas = s.datas := by
  obtain ⟨timers, h⟩ := cancelTimer_eq s c
  rw [h]

/-! ## Inversion -/

theorem raw_eq_some {r : Raw} (h : s.raw c r = some s') :
    ((s.calls c).pc = .attempt ∨ (s.calls c).pc = .direct) ∧
      (s.isOpen (s.calls c).fd = false → r = .error) ∧
      s' = s.setCall c { s.calls c with
        pc := (s.calls c).afterRaw r
        touched := (s.calls c).touched || ((s.calls c).stale && s.isOpen (s.calls c).fd) } := by
  simp only [System.raw, Option.ite_none_right_eq_some, Option.some.injEq] at h
  obtain ⟨⟨hpc, hr⟩, rfl⟩ := h
  exact ⟨hpc, hr, rfl⟩

theorem register_eq_some (h : s.register c ok = some s') :
    s.waiting (s.calls c).fd (s.calls c).event = none ∧
      (ok = true ∧
        s' = (s.setWaiting (s.calls c).fd (s.calls c).event (some c)).goto c .yield ∨
      ok = false ∧ s' = s.goto c .abandon) := by
  simp only [System.register] at h
  split at h
  · cases h
  · rename_i hnone
    rw [Option.not_isSome_iff_eq_none] at hnone
    cases ok with
    | true =>
      cases h
      exact ⟨hnone, .inl ⟨rfl, rfl⟩⟩
    | false =>
      cases h
      exact ⟨hnone, .inr ⟨rfl, rfl⟩⟩

theorem advance_eq_some (h : s.advance c ok = some s') :
    ((s.calls c).pc = .arm ∧ s' = s.arm c) ∨
    ((s.calls c).pc = .register ∧ s.register c ok = some s') ∨
    ((s.calls c).pc = .abandon ∧ s' = (s.cancelTimer c).goto c (s.calls c).afterAbandon) ∨
    ((s.calls c).pc = .yield ∧
      s' = s.setCall c { s.calls c with pc := .suspended, slept := true }) ∨
    ((s.calls c).pc = .resumed ∧ s' = (s.cancelTimer c).goto c .check) ∨
    ((s.calls c).pc = .check ∧ s' = s.goto c (s.calls c).afterCheck) ∨
    ((s.calls c).pc = .sockopt ∧ s' = s.goto c (.returned (if ok then 0 else -1))) := by
  cases hpc : (s.calls c).pc with
  | direct | attempt | suspended | returned => simp [System.advance, hpc] at h
  | arm | abandon | yield | resumed | check | sockopt =>
    simp only [System.advance, hpc, Option.some.injEq] at h
    simp [h]
  | register =>
    simp only [System.advance, hpc] at h
    simp [h]

theorem resume_eq_some (h : s.resume c = some s') :
    (s.calls c).pc = .suspended ∧ 0 < s.queued c ∧
      s' = (s.setQueued c (s.queued c - 1)).goto c .resumed := by
  simp only [System.resume, Option.ite_none_right_eq_some, Option.some.injEq] at h
  obtain ⟨⟨hpc, hq⟩, rfl⟩ := h
  exact ⟨hpc, hq, rfl⟩

theorem expire_eq_some (h : s.next (.expire t) = some s') :
    (s.timers t).stage = .pending ∧ s' = s.setStage t .due := by
  simp only [System.next, Option.ite_none_right_eq_some, Option.some.injEq] at h
  exact ⟨h.1, h.2.symm⟩

theorem callback_eq_some (h : s.callback t ok = some s') :
    ((s.timers t).stage = .due ∧
      s' = s.setStage t (if (s.calls (s.timers t).call).pc.inProgress
        && !(s.calls (s.timers t).call).cancelled then .passed else .ended)) ∨
    ((s.timers t).stage = .passed ∧
      s' = (s.setCall (s.timers t).call
        { s.calls (s.timers t).call with cancelled := true }).setStage t .marked) ∨
    ((s.timers t).stage = .marked ∧
      s' = (if ok then s.trigger (s.calls (s.timers t).call).fd (s.calls (s.timers t).call).event
        else s).setStage t .ended) := by
  cases hst : (s.timers t).stage with
  | pending | cancelled | ended => simp [System.callback, hst] at h
  | due =>
    simp only [System.callback, hst, Option.some.injEq] at h
    exact .inl ⟨rfl, h.symm⟩
  | passed =>
    simp only [System.callback, hst, Option.some.injEq] at h
    exact .inr (.inl ⟨rfl, h.symm⟩)
  | marked =>
    simp only [System.callback, hst, Option.some.injEq] at h
    exact .inr (.inr ⟨rfl, h.symm⟩)

theorem openFd_eq_some {fd : Nat} (h : s.openFd fd = some s') :
    s.isOpen fd = false
      ∧ s' = { s with isOpen := fun n => if n = fd then true else s.isOpen n } := by
  simp only [System.openFd, Option.ite_none_left_eq_some, Option.some.injEq] at h
  exact ⟨by simpa using h.1, h.2.symm⟩

theorem closeFile_eq_some {fd : Nat} (h : s.closeFile fd = some s') :
    s.isOpen fd = true ∧ s' = { s with
      isOpen := fun n => if n = fd then false else s.isOpen n
      calls := fun c => (s.calls c).closed fd } := by
  simp only [System.closeFile, Option.ite_none_right_eq_some, Option.some.injEq] at h
  exact ⟨h.1, h.2.symm⟩

/-- Nothing but the functions of `FdManager` and the setters touches the table of
contexts. -/
theorem next_datas {l : Label} (h : s.next l = some s')
    (hl : (∀ fd b, l ≠ .create fd b) ∧ (∀ fd event v, l ≠ .setTimeout fd event v) ∧
      (∀ fd v, l ≠ .setUserNonblock fd v) ∧ ∀ fd, l ≠ .del fd) : s'.datas = s.datas := by
  cases l with
  | create fd b => exact absurd rfl (hl.1 fd b)
  | setTimeout fd event v => exact absurd rfl (hl.2.1 fd event v)
  | setUserNonblock fd v => exact absurd rfl (hl.2.2.1 fd v)
  | del fd => exact absurd rfl (hl.2.2.2 fd)
  | begin hook kind fd =>
    cases h
    rfl
  | raw c r =>
    obtain ⟨-, -, rfl⟩ := raw_eq_some h
    rfl
  | advance c ok =>
    obtain ⟨-, rfl⟩ | ⟨-, h⟩ | ⟨-, rfl⟩ | ⟨-, rfl⟩ | ⟨-, rfl⟩ | ⟨-, rfl⟩ | ⟨-, rfl⟩ :=
      advance_eq_some h
    · unfold System.arm
      simp only
      split <;> rfl
    · obtain ⟨-, ⟨-, rfl⟩ | ⟨-, rfl⟩⟩ := register_eq_some h
      · rfl
      · rfl
    · exact cancelTimer_datas s c
    · rfl
    · exact cancelTimer_datas s c
    · rfl
    · rfl
  | resume c =>
    obtain ⟨-, -, rfl⟩ := resume_eq_some h
    rfl
  | expire t =>
    obtain ⟨-, rfl⟩ := expire_eq_some h
    rfl
  | callback t ok =>
    obtain ⟨-, rfl⟩ | ⟨-, rfl⟩ | ⟨-, rfl⟩ := callback_eq_some h
    · rfl
    · rfl
    · cases ok with
      | true => exact trigger_datas s _ _
      | false => rfl
  | dispatch fd event =>
    cases h
    exact trigger_datas s fd event
  | openFd fd =>
    obtain ⟨-, rfl⟩ := openFd_eq_some h
    rfl
  | cancelAll fd ok =>
    cases h
    unfold System.cancelAll
    split
    · rw [trigger_datas, trigger_datas]
    · rfl
  | closeFile fd =>
    obtain ⟨-, rfl⟩ := closeFile_eq_some h
    rfl

end System

/-! ## Steps and runs -/

theorem step_of_next {s s' : System} {l : Label} (h : s.next l = some s') :
    step s l = some ((), s') := by
  simp [step, h]

theorem step_eq_some {s s' : System} {l : Label} {o : Unit} (h : step s l = some (o, s')) :
    s.next l = some s' := by
  simp only [step, Option.map_eq_some_iff] at h
  obtain ⟨s1, h1, h2⟩ := h
  cases h2
  exact h1

end Hook

end HrServer
