/-
HrServer.Hook.Sleep — the hooked `sleep`, `usleep` and `nanosleep` of
`sylar/hook.cc`.

Each adds a timer that schedules the fiber again and yields. The
milliseconds are computed in the type of the argument before they become
unsigned 64-bit: `sleep` wraps around at 2^32, `usleep` and `nanosleep`
cut off what is less than a millisecond, and `nanosleep` goes through
`int`, where half of the numbers are negative. `sleep_deadline_iff` says
for which requests the deadline is not too early.
-/
import HrServer.Lib.Checked
import HrServer.Timers.Firing

namespace HrServer.Hook

open Lib.Checked (toInt32 toInt32_low toInt32_high)
open Lib (bind_ok)
open Timers

variable {γ : Type}

/-- `timespec`. -/
structure Timespec where
  tvSec : Int64
  tvNsec : Int64
  deriving DecidableEq

/-- A number in the range of `long`; an overflow is undefined. -/
def long (n : Int) : Option Int := if -2 ^ 63 ≤ n ∧ n < 2 ^ 63 then some n else none

/-- `int timeout_ms` of `nanosleep`. -/
def timeoutMs (req : Timespec) : Option Int := do
  let ms ← long (req.tvSec.toInt * 1000)
  let ms ← long (ms + (req.tvNsec.toInt.tdiv 1000).tdiv 1000)
  return Int.bmod ms (2 ^ 32)

/-- `sleep`: the timer, whose callback is `wake`. -/
def sleep (addr : Nat) (now : UInt64) (wake : γ) (seconds : UInt32) : Timers.Op γ Nat :=
  addTimer addr now (seconds * 1000).toUInt64 (some wake) false

/-- `usleep`. -/
def usleep (addr : Nat) (now : UInt64) (wake : γ) (usec : UInt32) : Timers.Op γ Nat :=
  addTimer addr now (usec / 1000).toUInt64 (some wake) false

/-- `nanosleep`; `none` where the arithmetic overflows. -/
def nanosleep (addr : Nat) (now : UInt64) (wake : γ) (req : Timespec) : Option (Timers.Op γ Nat) :=
  (timeoutMs req).map fun ms => addTimer addr now (UInt64.ofInt ms) (some wake) false

/-- `m_next` of the timer that a call creates. -/
def deadline (call : Timers.Op γ Nat) (tm : TimerManager γ) : Option UInt64 :=
  match call tm with
  | .ok i tm' => tm'.objects[i]?.map Timer.next
  | .error _ _ => none

/-- The timer of the call is not due before `time`. -/
def DueFrom (call : Timers.Op γ Nat) (tm : TimerManager γ) (time : Nat) : Prop :=
  ∃ next, deadline call tm = some next ∧ time ≤ next.toNat

/-- What a timer is created with. -/
theorem deadline_addTimer (tm : TimerManager γ) (addr : Nat) (now ms : UInt64) (cb : Option γ)
    (recurring : Bool) : deadline (addTimer addr now ms cb recurring) tm = some (now + ms) := by
  let tm' := tm.created ⟨addr, recurring, ms, now + ms, cb⟩
  obtain ⟨it, timers, hins⟩ : ∃ it timers,
      insert tm.objects.length tm' = .ok it (tm'.holding timers) := ⟨_, _, rfl⟩
  have hadd : addTimer addr now ms cb recurring tm
      = .ok tm.objects.length ((tm'.holding timers).notify it) := by
    rw [addTimer, bind_ok (get_eq tm)]
    exact bind_ok (addTimerLocked_eq hins)
  rw [deadline, hadd]
  simp [notify_objects, TimerManager.holding, tm', TimerManager.created]

theorem dueFrom_iff {tm : TimerManager γ} {addr : Nat} {now ms : UInt64} {cb : Option γ}
    {recurring : Bool} {time : Nat} :
    DueFrom (addTimer addr now ms cb recurring) tm time ↔ time ≤ (now + ms).toNat := by
  simp [DueFrom, deadline_addTimer]

/-! ## The requests -/

/-- A request that `nanosleep` accepts. -/
structure Timespec.Valid (req : Timespec) : Prop where
  sec : 0 ≤ req.tvSec.toInt
  nsec : 0 ≤ req.tvNsec.toInt
  nsec_lt : req.tvNsec.toInt < 1000000000

def Timespec.sec (req : Timespec) : Nat := req.tvSec.toInt.toNat

def Timespec.nsec (req : Timespec) : Nat := req.tvNsec.toInt.toNat

/-- The request in milliseconds, rounded up. -/
def Timespec.ms (req : Timespec) : Nat := req.sec * 1000 + (req.nsec + 999999) / 1000000

/-- The request in milliseconds, rounded down. -/
def Timespec.msFloor (req : Timespec) : Nat := req.sec * 1000 + req.nsec / 1000000

/-- The requests that `nanosleep` serves at the time `now`: whole milliseconds in the range of
`int`, and those so near to a multiple of 2^32 that the deadline wraps to the far future. -/
def Timespec.Served (req : Timespec) (now : UInt64) : Prop :=
  req.nsec % 1000000 = 0 ∧ req.msFloor < 2 ^ 31
    ∨ req.msFloor < 2 ^ 63 ∧ 2 ^ 31 ≤ req.msFloor % 2 ^ 32
      ∧ now.toNat + req.msFloor % 2 ^ 32 < 2 ^ 32

theorem long_eq {n : Int} (h0 : 0 ≤ n) (h : n < 2 ^ 63) : long n = some n := by
  rw [long, if_pos ⟨by omega, h⟩]

theorem long_overflow {n : Int} (h : ¬ n < 2 ^ 63) : long n = none := by
  rw [long, if_neg fun hn => h hn.2]

theorem bmod_eq (n : Nat) : Int.bmod n (2 ^ 32) = toInt32 n := by
  by_cases hlow : n % 2 ^ 32 < 2 ^ 31
  · rw [toInt32_low hlow, ← Int.emod_bmod, Int.bmod_eq_of_le] <;> omega
  · rw [toInt32_high (Nat.not_lt.mp hlow), ← Int.emod_bmod, ← Int.sub_bmod_right,
      Int.bmod_eq_of_le] <;> omega

theorem timeoutMs_eq {req : Timespec} (h : req.Valid) :
    timeoutMs req = if req.msFloor < 2 ^ 63 then some (toInt32 req.msFloor) else none := by
  have hsec : (req.sec : Int) = req.tvSec.toInt := Int.toNat_of_nonneg h.sec
  have hnsec : (req.nsec : Int) = req.tvNsec.toInt := Int.toNat_of_nonneg h.nsec
  have hdiv : (req.tvNsec.toInt.tdiv 1000).tdiv 1000 = (req.nsec / 1000000 : Nat) := by
    have hcast (n : Nat) : (n : Int).tdiv 1000 = (n / 1000 : Nat) := (Int.ofNat_tdiv n 1000).symm
    rw [← hnsec, hcast, hcast, Nat.div_div_eq_div_mul]
  have hsum : (req.sec * 1000 : Int) + (req.nsec / 1000000 : Nat) = req.msFloor := by
    rw [Timespec.msFloor]
    omega
  rw [timeoutMs, hdiv, ← hsec]
  by_cases hms : req.msFloor < 2 ^ 63
  · have hfirst : req.sec * 1000 < 2 ^ 63 := Nat.lt_of_le_of_lt (Nat.le_add_right _ _) hms
    rw [if_pos hms, long_eq (by omega) (by omega), Option.bind_eq_bind, Option.bind_some, hsum,
      long_eq (by omega) (by omega), Option.bind_some, bmod_eq]
    rfl
  · rw [if_neg hms]
    by_cases hfirst : req.sec * 1000 < 2 ^ 63
    · rw [long_eq (by omega) (by omega), Option.bind_eq_bind, Option.bind_some, hsum,
        long_overflow (by omega)]
      rfl
    · rw [long_overflow (by omega)]
      rfl

/-- The conversion of an `int` to `uint64_t`. -/
theorem toNat_ofInt (n : Int) : (UInt64.ofInt n).toNat = (n % 2 ^ 64).toNat := by
  have hlt : (n % 2 ^ 64).toNat < 2 ^ 64 := by omega
  rw [UInt64.ofInt, UInt64.toNat_ofNat', Nat.mod_eq_of_lt hlt]

theorem ofInt_toInt32_low {n : Nat} (h : n % 2 ^ 32 < 2 ^ 31) :
    (UInt64.ofInt (toInt32 n)).toNat = n % 2 ^ 32 := by
  rw [toNat_ofInt, toInt32_low h]
  omega

/-- A negative `int` is a number just below 2^64. -/
theorem ofInt_toInt32_high {n : Nat} (h : 2 ^ 31 ≤ n % 2 ^ 32) :
    (UInt64.ofInt (toInt32 n)).toNat = 2 ^ 64 - 2 ^ 32 + n % 2 ^ 32 := by
  rw [toNat_ofInt, toInt32_high h]
  omega

section deadline

variable (tm : TimerManager γ) (addr : Nat) (wake : γ) {now : UInt64}

theorem sleep_due_iff {seconds : UInt32} (h : now.toNat + seconds.toNat * 1000 < 2 ^ 64) :
    DueFrom (sleep addr now wake seconds) tm (now.toNat + seconds.toNat * 1000)
      ↔ seconds.toNat ≤ 4294967 := by
  have hms : (seconds * 1000).toUInt64.toNat = seconds.toNat * 1000 % 2 ^ 32 := by simp
  have hle := Nat.mod_le (seconds.toNat * 1000) (2 ^ 32)
  rw [sleep, dueFrom_iff, UInt64.toNat_add, hms, Nat.mod_eq_of_lt (by omega)]
  omega

theorem usleep_due_iff {usec : UInt32} (h : now.toNat + (usec.toNat + 999) / 1000 < 2 ^ 64) :
    DueFrom (usleep addr now wake usec) tm (now.toNat + (usec.toNat + 999) / 1000)
      ↔ usec.toNat % 1000 = 0 := by
  have hms : (usec / 1000).toUInt64.toNat = usec.toNat / 1000 := by simp
  rw [usleep, dueFrom_iff, UInt64.toNat_add, hms]
  omega

theorem nanosleep_due_iff {req : Timespec} (hvalid : req.Valid)
    (h : now.toNat + req.ms < 2 ^ 64) :
    (∃ call, nanosleep addr now wake req = some call ∧ DueFrom call tm (now.toNat + req.ms))
      ↔ req.Served now := by
  have hround : req.ms = req.msFloor + (if req.nsec % 1000000 = 0 then 0 else 1) := by
    rw [Timespec.ms, Timespec.msFloor]
    split_ifs <;> omega
  rw [nanosleep, timeoutMs_eq hvalid, Timespec.Served]
  by_cases hms : req.msFloor < 2 ^ 63
  · rw [if_pos hms]
    have hcall : (∃ call, (some (toInt32 req.msFloor)).map
        (fun ms => addTimer addr now (UInt64.ofInt ms) (some wake) false) = some call
          ∧ DueFrom call tm (now.toNat + req.ms))
        ↔ now.toNat + req.ms ≤ (now + UInt64.ofInt (toInt32 req.msFloor)).toNat := by
      simp [dueFrom_iff]
    rw [hcall, UInt64.toNat_add]
    by_cases hlow : req.msFloor % 2 ^ 32 < 2 ^ 31
    · have hle := Nat.mod_le req.msFloor (2 ^ 32)
      rw [ofInt_toInt32_low hlow, Nat.mod_eq_of_lt (by omega), hround]
      split_ifs <;> omega
    · have hnow := now.toNat_lt
      rw [ofInt_toInt32_high (Nat.not_lt.mp hlow), hround]
      by_cases hwrap : now.toNat + req.msFloor % 2 ^ 32 < 2 ^ 32
      · have hfar : (now.toNat + (2 ^ 64 - 2 ^ 32 + req.msFloor % 2 ^ 32)) % 2 ^ 64
            = now.toNat + (2 ^ 64 - 2 ^ 32 + req.msFloor % 2 ^ 32) := Nat.mod_eq_of_lt (by omega)
        rw [hfar]
        split_ifs <;> omega
      · have hpast : (now.toNat + (2 ^ 64 - 2 ^ 32 + req.msFloor % 2 ^ 32)) % 2 ^ 64
            = now.toNat + req.msFloor % 2 ^ 32 - 2 ^ 32 := by omega
        rw [hpast]
        split_ifs <;> omega
  · rw [if_neg hms]
    exact iff_of_false (fun ⟨_, h, _⟩ => by cases h) (by omega)

/-- The requests whose timers are not due too early, for each of the three hooks. -/
theorem sleep_deadline_iff (now : UInt64) :
    (∀ seconds : UInt32, now.toNat + seconds.toNat * 1000 < 2 ^ 64 →
      (DueFrom (sleep addr now wake seconds) tm (now.toNat + seconds.toNat * 1000)
        ↔ seconds.toNat ≤ 4294967))
    ∧ (∀ usec : UInt32, now.toNat + (usec.toNat + 999) / 1000 < 2 ^ 64 →
      (DueFrom (usleep addr now wake usec) tm (now.toNat + (usec.toNat + 999) / 1000)
        ↔ usec.toNat % 1000 = 0))
    ∧ ∀ req : Timespec, req.Valid → now.toNat + req.ms < 2 ^ 64 →
      ((∃ call, nanosleep addr now wake req = some call
        ∧ DueFrom call tm (now.toNat + req.ms)) ↔ req.Served now) :=
  ⟨fun _ h => sleep_due_iff tm addr wake h, fun _ h => usleep_due_iff tm addr wake h,
    fun _ hvalid h => nanosleep_due_iff tm addr wake hvalid h⟩

end deadline

/-- A manager without timers. -/
def noTimers : TimerManager Unit := Timers.new 0

/-- Two seconds, two milliseconds, and a second and two milliseconds. -/
theorem sleep_deadline_iff_noon :
    DueFrom (sleep 0 43200000 () 2) noTimers 43202000
      ∧ DueFrom (usleep 0 43200000 () 2000) noTimers 43200002
      ∧ ∃ call, nanosleep 0 43200000 () ⟨1, 2000000⟩ = some call
        ∧ DueFrom call noTimers 43201002 := by
  obtain ⟨hsleep, husleep, hnanosleep⟩ := sleep_deadline_iff noTimers 0 () 43200000
  have hvalid : Timespec.Valid ⟨1, 2000000⟩ := ⟨by decide, by decide, by decide⟩
  have hserved : Timespec.Served ⟨1, 2000000⟩ 43200000 := .inl (by decide)
  exact ⟨(hsleep 2 (by decide)).mpr (by decide), (husleep 2000 (by decide)).mpr (by decide),
    (hnanosleep ⟨1, 2000000⟩ hvalid (by decide)).mpr hserved⟩

/-- `sleep(4294968)`, fifty days, ends after 704 ms, and `usleep(1500)` after 1 ms. -/
theorem sleep_deadline_fails :
    ¬ DueFrom (sleep 0 43200000 () 4294968) noTimers (43200000 + 4294968 * 1000)
      ∧ ¬ DueFrom (usleep 0 43200000 () 1500) noTimers (43200000 + 2) := by
  rw [sleep, usleep, dueFrom_iff, dueFrom_iff]
  decide

end HrServer.Hook
