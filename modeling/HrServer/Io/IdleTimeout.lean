/-
HrServer.Io.IdleTimeout — the timeout that `IOManager::idle` of
`sylar/iomanager.cc` gives to `epoll_wait`.

The delay until the next timer is an unsigned number of 64 bits, compared
with the bound of three seconds after a conversion to `int`. A delay
whose low 32 bits are negative as an `int`, or small, passes the bound
unchanged: `idle_timeouts_iff` says which delays do not. A call that a
signal interrupts is made again, with the delay as the bound left it.
-/
import HrServer.Lib.Checked
import HrServer.Timers.Core

namespace HrServer.Io

open Lib.Checked (toInt32 toInt32_low toInt32_high)

/-- What the bound makes of `next_timeout`; `MAX_TIMEOUT` is 3000. -/
def boundTimeout (nextTimeout : UInt64) : UInt64 :=
  if nextTimeout ≠ 0xffffffffffffffff then
    if toInt32 nextTimeout.toNat > 3000 then 3000 else nextTimeout
  else 3000

/-- The timeouts of the calls of `epoll_wait`, of which all but the last are interrupted. -/
def idleTimeouts : Nat → UInt64 → List Int
  | 0, nextTimeout => [toInt32 (boundTimeout nextTimeout).toNat]
  | interrupts + 1, nextTimeout =>
    toInt32 (boundTimeout nextTimeout).toNat :: idleTimeouts interrupts (boundTimeout nextTimeout)

/-- The delays for which the bound works: up to three seconds, none at all, and those whose
low 32 bits are at least three seconds, as an `int`. -/
def Bounded (nextTimeout : UInt64) : Prop :=
  nextTimeout.toNat ≤ 3000 ∨ nextTimeout = 0xffffffffffffffff
    ∨ 3000 ≤ nextTimeout.toNat % 2 ^ 32 ∧ nextTimeout.toNat % 2 ^ 32 < 2 ^ 31

section bound

variable {v : UInt64}

/-- The bound leaves a delay as it is, or makes it 3000. -/
theorem boundTimeout_cases (v : UInt64) :
    (boundTimeout v = 3000 ∧ (v = 0xffffffffffffffff ∨ 3000 < toInt32 v.toNat))
      ∨ boundTimeout v = v ∧ v ≠ 0xffffffffffffffff ∧ toInt32 v.toNat ≤ 3000 := by
  rw [boundTimeout]
  split_ifs with hmax hgt
  · exact Or.inl ⟨rfl, Or.inr hgt⟩
  · exact Or.inr ⟨rfl, hmax, by omega⟩
  · exact Or.inl ⟨rfl, Or.inl (not_not.mp hmax)⟩

/-- A second bound does nothing. -/
theorem boundTimeout_idem (v : UInt64) : boundTimeout (boundTimeout v) = boundTimeout v := by
  obtain ⟨h, -⟩ | ⟨h, -⟩ := boundTimeout_cases v
  · rw [h]
    decide
  · rw [h, h]

theorem idleTimeouts_eq (interrupts : Nat) (v : UInt64) :
    idleTimeouts interrupts v
      = List.replicate (interrupts + 1) (toInt32 (boundTimeout v).toNat) := by
  induction interrupts generalizing v with
  | zero => rfl
  | succ n ih => rw [idleTimeouts, ih, boundTimeout_idem]; rfl

end bound

/-- Every value can come from `getNextTimer`. -/
theorem getNextTimer_any (v : UInt64) : ∃ (tm tm' : Timers.TimerManager Unit) (now : UInt64),
    Timers.getNextTimer now tm = .ok v tm' := by
  let tm : Timers.TimerManager Unit :=
    { objects := [⟨0, false, 0, v, some ()⟩], timers := [0], tickled := false
      previousTime := 0, insertedAtFront := 0 }
  refine ⟨tm, tm, 0, ?_⟩
  have hdelay : (if 0 ≥ v then 0 else v - 0) = v := by
    split_ifs with h
    · exact (UInt64.le_zero_iff.mp h).symm
    · exact UInt64.sub_zero v
  exact congrArg (EStateM.Result.ok · tm) hdelay

/-- Every number of 64 bits can be the delay. All the calls of `epoll_wait` get the delay or
three seconds, whichever is less, exactly when it is one for which the bound works. -/
theorem idle_timeouts_iff (v : UInt64) :
    (∃ (tm tm' : Timers.TimerManager Unit) (now : UInt64),
      Timers.getNextTimer now tm = .ok v tm')
    ∧ ∀ interrupts, (∀ t ∈ idleTimeouts interrupts v, t = min v.toNat 3000) ↔ Bounded v := by
  refine ⟨getNextTimer_any v, fun interrupts => ?_⟩
  have hall : (∀ t ∈ idleTimeouts interrupts v, t = min v.toNat 3000)
      ↔ toInt32 (boundTimeout v).toNat = min v.toNat 3000 := by
    rw [idleTimeouts_eq]
    simp
  have hmax : v = 0xffffffffffffffff ↔ v.toNat = 2 ^ 64 - 1 := by
    rw [← UInt64.toNat_inj]
    rfl
  have h3000 : toInt32 (3000 : UInt64).toNat = 3000 := by decide
  rw [hall, Bounded, hmax]
  have hcases := boundTimeout_cases v
  rw [hmax] at hcases
  obtain ⟨h, hcond⟩ | ⟨h, hne, hle⟩ := hcases
  · rw [h, h3000]
    by_cases hlow : v.toNat % 2 ^ 32 < 2 ^ 31
    · rw [toInt32_low hlow] at hcond
      omega
    · rw [toInt32_high (Nat.not_lt.mp hlow)] at hcond
      omega
  · rw [h]
    have hne' : v.toNat ≠ 2 ^ 64 - 1 := hmax.not.mp hne
    by_cases hlow : v.toNat % 2 ^ 32 < 2 ^ 31
    · rw [toInt32_low hlow] at hle ⊢
      omega
    · rw [toInt32_high (Nat.not_lt.mp hlow)]
      omega

/-- A timer in 2147483648 ms blocks the worker: the timeout is negative. -/
theorem idle_timeouts_fails :
    ¬ ∀ t ∈ idleTimeouts 0 0x80000000, t = min (0x80000000 : UInt64).toNat 3000 := by
  intro h
  have hmem : -2147483648 ∈ idleTimeouts 0 0x80000000 := by decide
  exact absurd (h _ hmem) (by decide)

end HrServer.Io
