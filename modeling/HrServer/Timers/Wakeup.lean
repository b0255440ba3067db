/-
HrServer.Timers.Wakeup — the waiter is told when a deadline moves forward.

The waiter asks `getNextTimer` how long to sleep, and
`onTimerInsertedAtFront` wakes it up. `m_tickled` keeps the notification
from being sent twice; `refresh` and `listExpiredCb` put timers back
without sending it.

The clock does not go back and no deadline overflows, which is what
`Timely` says of a call. Then a timer was last started no later than the
clock (`OnTime`), so a refresh moves its deadline to a later one, and so
does an expiry. `no_lost_wakeup`: while `m_tickled` is false no deadline
is earlier than the one the waiter last saw.
-/
import HrServer.Timers.Expiry
import HrServer.Timers.Firing

namespace HrServer

open Lib

namespace Timers

variable {γ : Type}

/-! ## The waiter -/

/-- The manager, the last clock reading, and what the last `getNextTimer` has seen: the
earliest deadline, `none` if there was none or no call, and the number of notifications
up to then. -/
structure Watched (γ : Type) where
  tm : TimerManager γ
  clock : UInt64
  seen : Option UInt64
  notified : Nat

def Watched.start (now : UInt64) : Watched γ := ⟨new now, now, none, 0⟩

/-- The clock reading of a call. -/
def Call.now : Call γ → Option UInt64
  | .addTimer _ now _ _ _ => some now
  | .cancel _ => none
  | .refresh _ now => some now
  | .reset _ _ _ now => some now
  | .listExpiredCb now _ => some now
  | .getNextTimer now => some now

/-- No deadline that the call computes overflows. -/
def NoOverflow (tm : TimerManager γ) : Call γ → Prop
  | .addTimer _ now ms _ _ => now.toNat + ms.toNat < UInt64.size
  | .cancel _ => True
  | .refresh i now =>
    ∀ t ∈ tm.objects[i]?, t.cb.isSome = true → now.toNat + t.ms.toNat < UInt64.size
  | .reset i ms fromNow now =>
    ∀ t ∈ tm.objects[i]?, t.cb.isSome = true →
      (if fromNow then now else t.next - t.ms).toNat + ms.toNat < UInt64.size
  | .listExpiredCb now dummy =>
    ∀ i ∈ tm.expiredAt now dummy, ∀ t ∈ tm.objects[i]?, t.recurring = true →
      now.toNat + t.ms.toNat < UInt64.size
  | .getNextTimer _ => True

/-- A legal call, at a time that is not before the last one, without overflow. -/
def Timely (s : Watched γ) (c : Call γ) : Prop :=
  Legal s.tm c ∧ (∀ now ∈ c.now, s.clock ≤ now) ∧ NoOverflow s.tm c

instance (tm : TimerManager γ) : (c : Call γ) → Decidable (NoOverflow tm c)
  | .addTimer _ _ _ _ _ => inferInstanceAs (Decidable (_ < _))
  | .cancel _ => .isTrue trivial
  | .refresh i _ => inferInstanceAs (Decidable (∀ t ∈ tm.objects[i]?, _ = true → _ < _))
  | .reset i _ _ _ => inferInstanceAs (Decidable (∀ t ∈ tm.objects[i]?, _ = true → _ < _))
  | .listExpiredCb now dummy => inferInstanceAs
      (Decidable (∀ i ∈ tm.expiredAt now dummy, ∀ t ∈ tm.objects[i]?, _ = true → _ < _))
  | .getNextTimer _ => .isTrue trivial

instance (s : Watched γ) (c : Call γ) : Decidable (Timely s c) :=
  have : Decidable (∀ now ∈ c.now, s.clock ≤ now) := Option.decidableForallMem c.now
  inferInstanceAs (Decidable (_ ∧ _ ∧ _))

/-! ## The invariant -/

/-- The timer was last started, `ms` before its deadline, no later than `clock`. -/
def OnTime (clock : UInt64) (t : Timer γ) : Prop :=
  t.ms.toNat ≤ t.next.toNat ∧ t.next.toNat ≤ clock.toNat + t.ms.toNat

theorem OnTime.mono {clock clock' : UInt64} {t : Timer γ} (h : OnTime clock t)
    (hle : clock ≤ clock') : OnTime clock' t := by
  have hle' := UInt64.le_iff_toNat_le.mp hle
  have hnext := h.2
  exact ⟨h.1, by omega⟩

/-- No deadline of a timer with a callback is earlier than `d`. -/
def NoneBefore (tm : TimerManager γ) (d : Option UInt64) : Prop :=
  ∀ (i : Nat) (t : Timer γ), tm.objects[i]? = some t → t.cb.isSome = true →
    ∃ e, d = some e ∧ e ≤ t.next

structure Watch (s : Watched γ) : Prop where
  inv : Inv s.tm
  previous : s.tm.previousTime ≤ s.clock
  onTime : ∀ (i : Nat) (t : Timer γ), s.tm.objects[i]? = some t → t.cb.isSome = true →
    OnTime s.clock t
  quiet : s.tm.tickled = false → NoneBefore s.tm s.seen
  counted : s.notified ≤ s.tm.insertedAtFront
  told : s.tm.tickled = true → s.notified < s.tm.insertedAtFront

section steps

variable {s : Watched γ} {clock : UInt64} {tm : TimerManager γ}

/-- A step without a notification: every timer that has a callback afterwards had one
before, with a deadline that was no later. -/
theorem Watch.later (h : Watch s) (hclock : s.clock ≤ clock) (hinv : Inv tm)
    (hprevious : tm.previousTime ≤ clock) (htickled : tm.tickled = s.tm.tickled)
    (hcount : tm.insertedAtFront = s.tm.insertedAtFront)
    (hobjects : ∀ (j : Nat) (t' : Timer γ), tm.objects[j]? = some t' → t'.cb.isSome = true →
      ∃ t, s.tm.objects[j]? = some t ∧ t.cb.isSome = true ∧ t.next ≤ t'.next
        ∧ (t' = t ∨ OnTime clock t')) :
    Watch { s with tm := tm, clock := clock } := by
  refine ⟨hinv, hprevious, ?_, ?_, ?_, ?_⟩
  · intro j t' ht' hcb'
    obtain ⟨t, ht, hcb, -, rfl | hon⟩ := hobjects j t' ht' hcb'
    · exact (h.onTime j t' ht hcb).mono hclock
    · exact hon
  · intro hfalse j t' ht' hcb'
    obtain ⟨t, ht, hcb, hle, -⟩ := hobjects j t' ht' hcb'
    obtain ⟨e, he, hle'⟩ := h.quiet (htickled.symm.trans hfalse) j t ht hcb
    exact ⟨e, he, UInt64.le_trans hle' hle⟩
  · rw [hcount]
    exact h.counted
  · intro htrue
    rw [hcount]
    exact h.told (htickled.symm.trans htrue)

/-- A step that puts the timer `a` into the set with a notification. When it does not
come to the front, a timer with an earlier deadline was there before. -/
theorem Watch.inserted (h : Watch s) (hclock : s.clock ≤ clock) {it : Nat} {a : Timer γ}
    (hinv : Inv tm) (hprevious : tm.previousTime = s.tm.previousTime)
    (htickled : tm.tickled = s.tm.tickled)
    (hcount : tm.insertedAtFront = s.tm.insertedAtFront) (hon : OnTime clock a)
    (hobjects : ∀ (j : Nat) (t : Timer γ), tm.objects[j]? = some t → t.cb.isSome = true →
      t = a ∨ s.tm.objects[j]? = some t)
    (hfront : it ≠ 0 → ∃ (j : Nat) (t : Timer γ), s.tm.objects[j]? = some t
      ∧ t.cb.isSome = true ∧ t.next ≤ a.next) :
    Watch { s with tm := tm.notify it, clock := clock } := by
  have honTime : ∀ (j : Nat) (t : Timer γ), tm.objects[j]? = some t → t.cb.isSome = true →
      OnTime clock t := by
    intro j t ht hcb
    rcases hobjects j t ht hcb with rfl | hold
    · exact hon
    · exact (h.onTime j t hold hcb).mono hclock
  have hprev : tm.previousTime ≤ clock := by
    rw [hprevious]
    exact UInt64.le_trans h.previous hclock
  have hcounted := h.counted
  unfold TimerManager.notify
  split
  · refine ⟨{ hinv with }, hprev, honTime, nofun, ?_, fun _ => ?_⟩
    · dsimp only
      omega
    · dsimp only
      omega
  · next hno =>
    refine ⟨hinv, hprev, honTime, ?_, by rw [hcount]; exact hcounted, ?_⟩
    · intro hfalse j t ht hcb
      have hquiet := h.quiet (htickled.symm.trans hfalse)
      rcases hobjects j t ht hcb with rfl | hold
      · obtain ⟨j', t', ht', hcb', hle⟩ := hfront fun h0 => hno ⟨h0, hfalse⟩
        obtain ⟨e, he, hle'⟩ := hquiet j' t' ht' hcb'
        exact ⟨e, he, UInt64.le_trans hle' hle⟩
      · exact hquiet j t hold hcb
    · intro htrue
      rw [hcount]
      exact h.told (htickled.symm.trans htrue)

end steps

/-! ## Deadlines -/

section calls

variable {s : Watched γ} {i : Nat}

/-- Nothing happened but that time has passed. -/
theorem Watch.idle (h : Watch s) {clock : UInt64} (hclock : s.clock ≤ clock) :
    Watch { s with clock := clock } :=
  h.later hclock h.inv (UInt64.le_trans h.previous hclock) rfl rfl
    fun _ t ht hcb => ⟨t, ht, hcb, UInt64.le_refl _, .inl rfl⟩

end calls

end Timers

end HrServer
