/-
HrServer.Timers.Firing — runs of a timer manager.

A run is a list of calls, each one critical section, with arbitrary clock
readings. A call is legal when the caller holds the timer it names, and
when the allocator does not put a new timer where a timer of the set
still is.

`timers_along_run` says that every legal run goes through, with the set
holding exactly the timers that have a callback, in order; that a one-shot
timer is handed out at most once; and that a timer is not handed out after
a `cancel` of it returned true. The last two come from one fact: a timer
without a callback never gets one again.
-/
import HrServer.Lib.Run
import HrServer.Timers.CoreTheorems

namespace HrServer

open Lib

namespace Timers

variable {γ : Type}

/-- A call, with the clock reading and the addresses it is served with. -/
inductive Call (γ : Type) where
  | addTimer (addr : Nat) (now ms : UInt64) (cb : γ) (recurring : Bool)
  | cancel (i : Nat)
  | refresh (i : Nat) (now : UInt64)
  | reset (i : Nat) (ms : UInt64) (fromNow : Bool) (now : UInt64)
  | listExpiredCb (now : UInt64) (dummy : Nat)
  | getNextTimer (now : UInt64)

inductive Reply (γ : Type) where
  | timer (i : Nat)
  | result (ok : Bool)
  | callbacks (cbs : List (Nat × Option γ))
  | wait (ms : UInt64)
  deriving DecidableEq

def perform : Call γ → Op γ (Reply γ)
  | .addTimer addr now ms cb recurring => do
    return .timer (← addTimer addr now ms (some cb) recurring)
  | .cancel i => do return .result (← cancel i)
  | .refresh i now => do return .result (← refresh i now)
  | .reset i ms fromNow now => do return .result (← reset i ms fromNow now)
  | .listExpiredCb now dummy => do return .callbacks (← listExpiredCb now dummy)
  | .getNextTimer now => do return .wait (← getNextTimer now)

/-- One call; `none` is a fault. -/
def step (tm : TimerManager γ) (c : Call γ) : Option (Reply γ × TimerManager γ) :=
  match perform c tm with
  | .ok r tm' => some (r, tm')
  | .error _ _ => none

/-- The caller holds the timer; a new timer is not put where one of the set is. -/
def Legal (tm : TimerManager γ) : Call γ → Prop
  | .addTimer addr _ _ _ _ => ∀ j ∈ tm.timers, tm.objects[j]?.map Timer.addr ≠ some addr
  | .cancel i => i < tm.objects.length
  | .refresh i _ => i < tm.objects.length
  | .reset i _ _ _ => i < tm.objects.length
  | .listExpiredCb _ _ => True
  | .getNextTimer _ => True

instance (tm : TimerManager γ) : (c : Call γ) → Decidable (Legal tm c)
  | .addTimer addr _ _ _ _ =>
    inferInstanceAs (Decidable (∀ j ∈ tm.timers, tm.objects[j]?.map Timer.addr ≠ some addr))
  | .cancel i => inferInstanceAs (Decidable (i < tm.objects.length))
  | .refresh i _ => inferInstanceAs (Decidable (i < tm.objects.length))
  | .reset i _ _ _ => inferInstanceAs (Decidable (i < tm.objects.length))
  | .listExpiredCb _ _ => .isTrue trivial
  | .getNextTimer _ => .isTrue trivial

/-- The timers whose callbacks a reply hands out. -/
def Reply.fired : Reply γ → List Nat
  | .callbacks cbs => cbs.map Prod.fst
  | _ => []

/-- The timers whose callbacks a run hands out, in order. -/
def fired (rs : List (Reply γ)) : List Nat := rs.flatMap Reply.fired

/-! ## One call -/

/-- Timers stay, one-shot or recurring as they were made, and none gets its
callback back. -/
def Kept (tm tm' : TimerManager γ) : Prop :=
  ∀ (i : Nat) (t : Timer γ), tm.objects[i]? = some t →
    ∃ t', tm'.objects[i]? = some t' ∧ t'.recurring = t.recurring
      ∧ (t'.cb.isSome = true → t.cb.isSome = true)

theorem Kept.of_objects {tm tm' : TimerManager γ} (h : tm'.objects = tm.objects) : Kept tm tm' :=
  fun i t ht => ⟨t, by rw [h]; exact ht, rfl, id⟩

theorem Kept.trans {a b c : TimerManager γ} (h1 : Kept a b) (h2 : Kept b c) : Kept a c := by
  intro i t ht
  obtain ⟨t1, ht1, hr1, hc1⟩ := h1 i t ht
  obtain ⟨t2, ht2, hr2, hc2⟩ := h2 i t1 ht1
  exact ⟨t2, ht2, hr2.trans hr1, fun h => hc1 (hc2 h)⟩

theorem Kept.update (tm : TimerManager γ) (i : Nat) {f : Timer γ → Timer γ}
    (hf : ∀ t, (f t).recurring = t.recurring ∧ ((f t).cb.isSome = true → t.cb.isSome = true)) :
    Kept tm (tm.update i f) := by
  intro j t ht
  by_cases hj : j = i
  · subst hj
    exact ⟨f t, objects_update_self ht, (hf t).1, (hf t).2⟩
  · exact ⟨t, by rw [objects_update_ne hj]; exact ht, rfl, id⟩

theorem expire_kept (t : Timer γ) (now : UInt64) :
    (t.expire now).recurring = t.recurring
      ∧ ((t.expire now).cb.isSome = true → t.cb.isSome = true) := by
  unfold Timer.expire
  split
  · exact ⟨rfl, id⟩
  · exact ⟨rfl, nofun⟩

/-- What a call does, in the words of the run lemma. -/
structure Outcome (tm : TimerManager γ) (c : Call γ) (r : Reply γ) (tm' : TimerManager γ) :
    Prop where
  inv : Inv tm'
  kept : Kept tm tm'
  nodup : r.fired.Nodup
  live : ∀ i ∈ r.fired, tm.Live i
  oneShot : ∀ i ∈ r.fired, ∀ t, tm.objects[i]? = some t → t.recurring = false → ¬ tm'.Live i
  cancelled : ∀ i, c = .cancel i → r = .result true → ¬ tm'.Live i

/-- A call that hands out nothing and cancels nothing. -/
theorem Outcome.quiet {tm tm' : TimerManager γ} {c : Call γ} {r : Reply γ} (hinv : Inv tm')
    (hkept : Kept tm tm') (hr : r.fired = []) (hc : ∀ i, c ≠ .cancel i ∨ r ≠ .result true) :
    Outcome tm c r tm' where
  inv := hinv
  kept := hkept
  nodup := by rw [hr]; exact List.nodup_nil
  live i hi := by rw [hr] at hi; cases hi
  oneShot i hi := by rw [hr] at hi; cases hi
  cancelled i hi hr' := by
    rcases hc i with h | h
    · exact absurd hi h
    · exact absurd hr' h

theorem notify_objects (tm : TimerManager γ) (it : Nat) : (tm.notify it).objects = tm.objects := by
  unfold TimerManager.notify
  split <;> rfl

theorem step_ok {α : Type} {tm tm' : TimerManager γ} {c : Call γ} {m : Op γ α} {a : α}
    {f : α → Reply γ} (hc : perform c = (do return f (← m))) (h : m tm = .ok a tm') :
    step tm c = some (f a, tm') := by
  have : perform c tm = .ok (f a) tm' := by
    rw [hc]
    exact bind_ok h
  rw [step, this]

theorem lookup_of_lt {tm : TimerManager γ} {i : Nat} (h : i < tm.objects.length) :
    ∃ t, tm.objects[i]? = some t := ⟨_, List.getElem?_eq_getElem h⟩

theorem outcome_cancel {tm : TimerManager γ} (h : Inv tm) {i : Nat} (hi : i < tm.objects.length) :
    ∃ r tm', step tm (.cancel i) = some (r, tm') ∧ Outcome tm (.cancel i) r tm' := by
  obtain ⟨t, ht⟩ := lookup_of_lt hi
  cases hcb : t.cb with
  | none =>
    exact ⟨_, _, step_ok rfl (cancel_dead ht hcb),
      .quiet h (.of_objects rfl) rfl fun _ => .inr nofun⟩
  | some c =>
    obtain ⟨hok, hinv⟩ := cancel_live h ht hcb
    have hdead : ¬ (tm.cancelled i).Live i := fun hl => ((live_assignCb_none i).mp hl).1 rfl
    refine ⟨_, _, step_ok rfl hok, ?_⟩
    exact
      { inv := hinv
        kept := Kept.update tm i fun t => ⟨rfl, fun h => by cases h⟩
        nodup := List.nodup_nil
        live := fun _ hj => by cases hj
        oneShot := fun _ hj => by cases hj
        cancelled := fun j hj _ => by cases hj; exact hdead }

theorem outcome_refresh {tm : TimerManager γ} (h : Inv tm) {i : Nat} (hi : i < tm.objects.length)
    (now : UInt64) :
    ∃ r tm', step tm (.refresh i now) = some (r, tm') ∧ Outcome tm (.refresh i now) r tm' := by
  obtain ⟨t, ht⟩ := lookup_of_lt hi
  cases hcb : t.cb with
  | none =>
    exact ⟨_, _, step_ok rfl (refresh_dead ht hcb now),
      .quiet h (.of_objects rfl) rfl fun _ => .inl nofun⟩
  | some c =>
    obtain ⟨timers, hok, hinv, -⟩ := refresh_live h ht hcb now
    exact ⟨_, _, step_ok rfl hok,
      .quiet hinv (Kept.update tm i fun t => ⟨rfl, id⟩) rfl fun _ => .inl nofun⟩

theorem outcome_reset {tm : TimerManager γ} (h : Inv tm) {i : Nat} (hi : i < tm.objects.length)
    (ms : UInt64) (fromNow : Bool) (now : UInt64) :
    ∃ r tm', step tm (.reset i ms fromNow now) = some (r, tm')
      ∧ Outcome tm (.reset i ms fromNow now) r tm' := by
  obtain ⟨t, ht⟩ := lookup_of_lt hi
  by_cases hsame : ms = t.ms ∧ fromNow = false
  · obtain ⟨rfl, rfl⟩ := hsame
    exact ⟨_, _, step_ok rfl (reset_same ht now),
      .quiet h (.of_objects rfl) rfl fun _ => .inl nofun⟩
  · cases hcb : t.cb with
    | none =>
      exact ⟨_, _, step_ok rfl (reset_dead ht hcb hsame now),
        .quiet h (.of_objects rfl) rfl fun _ => .inl nofun⟩
    | some c =>
      obtain ⟨timers, it, hok, hinv, -⟩ := reset_live h ht hcb hsame now
      refine ⟨_, _, step_ok rfl hok, .quiet (hinv.notify it) ?_ rfl fun _ => .inl nofun⟩
      have hkept := Kept.update tm i (f := (·.resetTo ms fromNow now)) fun _ => ⟨rfl, id⟩
      exact hkept.trans (.of_objects (by rw [notify_objects]; rfl))

theorem outcome_addTimer {tm : TimerManager γ} (h : Inv tm) {addr : Nat} (now ms : UInt64) (cb : γ)
    (recurring : Bool) (hl : Legal tm (.addTimer addr now ms cb recurring)) :
    ∃ r tm', step tm (.addTimer addr now ms cb recurring) = some (r, tm')
      ∧ Outcome tm (.addTimer addr now ms cb recurring) r tm' := by
  have haddr : ∀ j ∈ tm.timers, ∀ a, tm.objects[j]? = some a → a.addr ≠ addr := by
    intro j hj a ha heq
    exact hl j hj (by rw [ha, ← heq]; rfl)
  obtain ⟨timers, it, hok, hinv, -⟩ := addTimer_spec h now haddr
  refine ⟨_, _, step_ok rfl hok, .quiet (hinv.notify it) ?_ rfl fun _ => .inl nofun⟩
  intro i t ht
  exact ⟨t, by rw [notify_objects]; exact objects_created_lt ht, rfl, id⟩

theorem outcome_listExpiredCb {tm : TimerManager γ} (h : Inv tm) (now : UInt64) (dummy : Nat) :
    ∃ r tm', step tm (.listExpiredCb now dummy) = some (r, tm')
      ∧ Outcome tm (.listExpiredCb now dummy) r tm' := by
  obtain ⟨tm', hok, spec, -⟩ := listExpiredCb_spec h now dummy
  have hfired : (Reply.callbacks ((tm.expiredAt now dummy).map fun i => (i, tm.cbOf i))).fired
      = tm.expiredAt now dummy := by
    simp [Reply.fired, Function.comp_def]
  have hsub := expiredAt_sublist tm now dummy
  refine ⟨_, tm', step_ok rfl hok, ?_⟩
  refine
    { inv := spec.inv
      kept := ?_
      nodup := by rw [hfired]; exact (h.sorted.nodup (less_strict tm)).sublist hsub
      live := ?_
      oneShot := ?_
      cancelled := fun j hj => by cases hj }
  · intro i t ht
    have hobj := spec.objects_eq i
    rw [ht] at hobj
    refine ⟨_, hobj, ?_⟩
    by_cases hi : i ∈ tm.expiredAt now dummy
    · simp only [if_pos hi]
      exact expire_kept t now
    · simp only [if_neg hi]
      exact ⟨trivial, id⟩
  · intro i hi
    rw [hfired] at hi
    exact (h.mem_iff i).mp (hsub.subset hi)
  · rintro i hi t ht hrec ⟨t', ht', hcb⟩
    rw [hfired] at hi
    rw [spec.objects_eq i, ht, Option.map_some, if_pos hi, Timer.expire, if_neg (by simp [hrec])]
      at ht'
    cases ht'
    cases hcb

/-- The step lemma: a legal call goes through. -/
theorem step_outcome {tm : TimerManager γ} (h : Inv tm) (c : Call γ) (hl : Legal tm c) :
    ∃ r tm', step tm c = some (r, tm') ∧ Outcome tm c r tm' := by
  cases c with
  | addTimer addr now ms cb recurring => exact outcome_addTimer h now ms cb recurring hl
  | cancel i => exact outcome_cancel h hl
  | refresh i now => exact outcome_refresh h hl now
  | reset i ms fromNow now => exact outcome_reset h hl ms fromNow now
  | listExpiredCb now dummy => exact outcome_listExpiredCb h now dummy
  | getNextTimer now =>
    obtain ⟨wait, hok⟩ := getNextTimer_spec h.ordered now
    exact ⟨_, _, step_ok rfl hok, .quiet { h with } (.of_objects rfl) rfl fun _ => .inl nofun⟩

/-! ## Runs -/

section runs

variable {tm tm' : TimerManager γ} {calls : List (Call γ)} {rs : List (Reply γ)} {i : Nat}

/-- The first step of a legal run and what is left of it. -/
theorem run_step {c : Call γ} (h : Inv tm) (hal : Along step Legal tm (c :: calls))
    (hrun : run step tm (c :: calls) = some (rs, tm')) :
    ∃ r tm1 rs', rs = r :: rs' ∧ Outcome tm c r tm1 ∧ Along step Legal tm1 calls
      ∧ run step tm1 calls = some (rs', tm') := by
  obtain ⟨r, tm1, rs', h1, h2, hrs⟩ := run_cons hrun
  obtain ⟨r', tm1', h1', hout⟩ := step_outcome h c hal.1
  rw [h1] at h1'
  cases h1'
  exact ⟨r, tm1, rs', hrs, hout, hal.2 r tm1 h1, h2⟩

theorem run_kept (h : Inv tm) (hal : Along step Legal tm calls)
    (hrun : run step tm calls = some (rs, tm')) : Kept tm tm' := by
  induction calls generalizing tm rs with
  | nil =>
    cases hrun
    exact .of_objects rfl
  | cons c calls ih =>
    obtain ⟨r, tm1, rs', -, hout, hal', hrun'⟩ := run_step h hal hrun
    exact hout.kept.trans (ih hout.inv hal' hrun')

/-- A timer that has lost its callback is never handed out. -/
theorem not_fired_of_dead {t : Timer γ} (h : Inv tm) (hal : Along step Legal tm calls)
    (hrun : run step tm calls = some (rs, tm')) (ht : tm.objects[i]? = some t)
    (hdead : ¬ tm.Live i) : i ∉ fired rs := by
  induction calls generalizing tm rs t with
  | nil =>
    cases hrun
    exact List.not_mem_nil
  | cons c calls ih =>
    obtain ⟨r, tm1, rs', rfl, hout, hal', hrun'⟩ := run_step h hal hrun
    obtain ⟨t1, ht1, -, hcb⟩ := hout.kept i t ht
    have hdead1 : ¬ tm1.Live i := by
      rintro ⟨t', ht', hcb'⟩
      rw [ht1] at ht'
      cases ht'
      exact hdead ⟨t, ht, hcb hcb'⟩
    rw [fired, List.flatMap_cons, List.mem_append]
    rintro (hr | hrs)
    · exact hdead (hout.live i hr)
    · exact ih hout.inv hal' hrun' ht1 hdead1 hrs

/-- A one-shot timer is handed out at most once. -/
theorem fired_count_le {t : Timer γ} (h : Inv tm) (hal : Along step Legal tm calls)
    (hrun : run step tm calls = some (rs, tm')) (ht : tm'.objects[i]? = some t)
    (hrec : t.recurring = false) : (fired rs).count i ≤ 1 := by
  induction calls generalizing tm rs with
  | nil =>
    cases hrun
    exact Nat.zero_le 1
  | cons c calls ih =>
    have hkept := run_kept h hal hrun
    obtain ⟨r, tm1, rs', rfl, hout, hal', hrun'⟩ := run_step h hal hrun
    rw [fired, List.flatMap_cons, List.count_append]
    by_cases hr : i ∈ r.fired
    · -- handed out now: it is dead for the rest of the run
      obtain ⟨t0, ht0, -⟩ := hout.live i hr
      obtain ⟨t', ht', hrec', -⟩ := hkept i t0 ht0
      rw [ht] at ht'
      cases ht'
      have hdead := hout.oneShot i hr t0 ht0 (hrec'.symm.trans hrec)
      obtain ⟨t1, ht1, -⟩ := hout.kept i t0 ht0
      have hrest := not_fired_of_dead hout.inv hal' hrun' ht1 hdead
      have hone := List.nodup_iff_count.mp hout.nodup i
      rw [fired, ← List.count_eq_zero] at hrest
      omega
    · rw [List.count_eq_zero.mpr hr, Nat.zero_add]
      exact ih hout.inv hal' hrun'

/-- A timer is not handed out after it was cancelled. -/
theorem not_fired_after_cancel {k : Nat} (h : Inv tm) (hal : Along step Legal tm calls)
    (hrun : run step tm calls = some (rs, tm')) (hc : calls[k]? = some (.cancel i))
    (hr : rs[k]? = some (.result true)) : i ∉ fired (rs.drop (k + 1)) := by
  induction calls generalizing tm rs k with
  | nil => cases hc
  | cons c calls ih =>
    have hlegal := hal.1
    obtain ⟨r, tm1, rs', rfl, hout, hal', hrun'⟩ := run_step h hal hrun
    cases k with
    | zero =>
      cases hc
      cases hr
      obtain ⟨t, ht⟩ := lookup_of_lt hlegal
      obtain ⟨t1, ht1, -⟩ := hout.kept i t ht
      exact not_fired_of_dead hout.inv hal' hrun' ht1 (hout.cancelled i rfl rfl)
    | succ k =>
      rw [List.drop_succ_cons]
      exact ih hout.inv hal' hrun' hc hr

end runs

/-- Every legal run from a new manager goes through: no search misses a timer with a
callback, no end iterator is erased, no deadline changes inside the set. At its end a
timer is in the set exactly when it has a callback, and the set is strictly ordered by
deadline and address. A one-shot timer was handed out at most once, and no timer after
a `cancel` of it returned true. -/
theorem timers_along_run (start : UInt64) (calls : List (Call γ))
    (hlegal : Along step Legal (new start) calls) :
    ∃ rs tm, run step (new start) calls = some (rs, tm)
      ∧ (∀ i, i ∈ tm.timers ↔ tm.Live i)
      ∧ tm.timers.Pairwise (fun i j => tm.less i j = true)
      ∧ (∀ i, tm.Live i →
        ∃ k, tm.timers[k]? = some i ∧ OrderedSet.find tm.less i tm.timers = some k)
      ∧ (∀ i t, tm.objects[i]? = some t → t.recurring = false → (fired rs).count i ≤ 1)
      ∧ (∀ k i, calls[k]? = some (.cancel i) → rs[k]? = some (.result true) →
          i ∉ fired (rs.drop (k + 1))) := by
  obtain ⟨rs, tm, hrun, hinv⟩ := run_total_along (I := Inv)
    (fun tm c h hl => by
      obtain ⟨r, tm', hs, hout⟩ := step_outcome h c hl
      exact ⟨r, tm', hs, hout.inv⟩) calls (inv_new start) hlegal
  refine ⟨rs, tm, hrun, hinv.mem_iff, hinv.sorted, ?_, ?_, ?_⟩
  · intro i hi
    have hmem := (hinv.mem_iff i).mpr hi
    refine ⟨tm.timers.idxOf i, ?_, OrderedSet.find_of_mem (less_strict tm) hinv.sorted hmem⟩
    rw [List.getElem?_eq_getElem (List.idxOf_lt_length_of_mem hmem), List.getElem_idxOf]
  · intro i t ht hrec
    exact fired_count_le (inv_new start) hlegal hrun ht hrec
  · intro k i hc hr
    exact not_fired_after_cancel (inv_new start) hlegal hrun hc hr

/-- A one-shot and a recurring timer; the recurring one is cancelled between two expiries. -/
theorem timers_along_run_two :
    ∃ rs tm, run step (new 0) [.addTimer 16 0 10 'a' false, .addTimer 32 0 10 'b' true,
        .listExpiredCb 10 48, .cancel 1, .listExpiredCb 20 48] = some (rs, tm)
      ∧ rs = [.timer 0, .timer 1, .callbacks [(0, some 'a'), (1, some 'b')], .result true,
          .callbacks []]
      ∧ (∀ i, i ∈ tm.timers ↔ tm.Live i) ∧ 1 ∉ fired (rs.drop 4) := by
  obtain ⟨rs, tm, hrun, hmem, -, -, -, hcancel⟩ := timers_along_run 0
    [.addTimer 16 0 10 'a' false, .addTimer 32 0 10 'b' true, .listExpiredCb 10 48, .cancel 1,
      .listExpiredCb 20 48] (by decide)
  have hrs : rs = [.timer 0, .timer 1, .callbacks [(0, some 'a'), (1, some 'b')], .result true,
      .callbacks []] := by
    cases hrun
    decide
  exact ⟨rs, tm, hrun, hrs, hmem, hcancel 3 1 rfl (by rw [hrs]; rfl)⟩

end Timers

end HrServer
