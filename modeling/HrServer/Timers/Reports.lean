/-
HrServer.Timers.Reports — what the operations of a timer answer.

`cancel`, `refresh` and `reset` return whether they did something. Here the
answer is compared with the set: true if and only if the timer is in
`m_timers`, and no change with a false answer. The calls are those of
`Timers.Firing` and, beside them, an `addTimer` that is given the null
function, which the code takes without a test.

`reports_along_run` says, for every state a legal run passes through, which
calls answer correctly. Two kinds do not:

* `reset` returns true before it looks at anything when it is given the
  period the timer has and not `from_now`, also for a timer that has fired
  or was cancelled;
* all three take `m_cb` for the sign of a timer in the set, and a timer with
  the null function is in the set without it.
-/
import HrServer.Timers.Firing

namespace HrServer

open Lib

namespace Timers

variable {γ : Type}

/-! ## The calls -/

/-- A call of `Timers.Firing`, or the creation of a timer with the null function. -/
inductive AnyCall (γ : Type) where
  | call (c : Call γ)
  | addEmptyTimer (addr : Nat) (now ms : UInt64) (recurring : Bool)

namespace AnyCall

def perform : AnyCall γ → Op γ (Reply γ)
  | .call c => Timers.perform c
  | .addEmptyTimer addr now ms recurring => do
    return .timer (← addTimer addr now ms none recurring)

/-- One call; `none` is a fault. -/
def step (tm : TimerManager γ) (c : AnyCall γ) : Option (Reply γ × TimerManager γ) :=
  match c.perform tm with
  | .ok r tm' => some (r, tm')
  | .error _ _ => none

def Legal (tm : TimerManager γ) : AnyCall γ → Prop
  | .call c => Timers.Legal tm c
  | .addEmptyTimer addr _ _ _ => ∀ j ∈ tm.timers, tm.objects[j]?.map Timer.addr ≠ some addr

instance (tm : TimerManager γ) : (c : AnyCall γ) → Decidable (Legal tm c)
  | .call c => inferInstanceAs (Decidable (Timers.Legal tm c))
  | .addEmptyTimer addr _ _ _ =>
    inferInstanceAs (Decidable (∀ j ∈ tm.timers, tm.objects[j]?.map Timer.addr ≠ some addr))

end AnyCall

/-! ## Telling the truth -/

/-- The answer `ok` of an operation on the timer `i` is right: true exactly when the timer
is in the set, and nothing has changed when it is false. -/
structure Reports (tm : TimerManager γ) (i : Nat) (ok : Bool) (tm' : TimerManager γ) : Prop where
  result : ok = true ↔ i ∈ tm.timers
  unchanged : ok = false → tm' = tm

/-- The timer is in the set with the new period, counted from now or from its start. -/
def Restarted (tm : TimerManager γ) (i : Nat) (ms : UInt64) (fromNow : Bool) (now : UInt64)
    (tm' : TimerManager γ) : Prop :=
  i ∈ tm'.timers ∧ ∃ t t', tm.objects[i]? = some t ∧ tm'.objects[i]? = some t' ∧ t'.ms = ms
    ∧ t'.next = (if fromNow then now else t.next - t.ms) + ms

/-- What a reply promises about the state before and after the call. -/
def Truthful (tm : TimerManager γ) : AnyCall γ → Reply γ → TimerManager γ → Prop
  | .call (.cancel i), .result ok, tm' => Reports tm i ok tm'
  | .call (.refresh i _), .result ok, tm' => Reports tm i ok tm'
  | .call (.reset i ms fromNow now), .result ok, tm' =>
    Reports tm i ok tm' ∧ (ok = true → Restarted tm i ms fromNow now tm')
  | _, _, _ => True

/-- The call goes through and its reply is right. -/
def AnswersTruly (tm : TimerManager γ) (c : AnyCall γ) : Prop :=
  ∃ r tm', c.step tm = some (r, tm') ∧ Truthful tm c r tm'

/-- The calls that the code answers correctly, by the state before them. -/
def Answerable (tm : TimerManager γ) : AnyCall γ → Prop
  | .call (.cancel i) => i ∈ tm.timers → tm.Live i
  | .call (.refresh i _) => i ∈ tm.timers → tm.Live i
  | .call (.reset i ms fromNow _) =>
    if tm.objects[i]?.map Timer.ms = some ms ∧ fromNow = false then i ∈ tm.timers
    else i ∈ tm.timers → tm.Live i
  | _ => True

instance (tm : TimerManager γ) (i : Nat) : Decidable (tm.Live i) :=
  decidable_of_iff ((tm.objects[i]?.any fun t => t.cb.isSome) = true)
    (by cases h : tm.objects[i]? <;> simp [TimerManager.Live, h])

instance (tm : TimerManager γ) : (c : AnyCall γ) → Decidable (Answerable tm c)
  | .call (.cancel i) => inferInstanceAs (Decidable (i ∈ tm.timers → tm.Live i))
  | .call (.refresh i _) => inferInstanceAs (Decidable (i ∈ tm.timers → tm.Live i))
  | .call (.reset i ms fromNow _) =>
    inferInstanceAs (Decidable
      (if tm.objects[i]?.map Timer.ms = some ms ∧ fromNow = false then i ∈ tm.timers
        else i ∈ tm.timers → tm.Live i))
  | .call (.addTimer ..) | .call (.listExpiredCb ..) | .call (.getNextTimer _) => .isTrue trivial
  | .addEmptyTimer .. => .isTrue trivial

/-! ## The states of a run -/

/-- The set is in order, and every timer with a callback is in it. -/
structure Consistent (tm : TimerManager γ) : Prop where
  ordered : Ordered tm []
  mem_of_live : ∀ i, tm.Live i → i ∈ tm.timers

section consistent

variable {tm : TimerManager γ} {i : Nat} {t : Timer γ}

theorem consistent_new (now : UInt64) : Consistent (new now : TimerManager γ) where
  ordered := (inv_new now).ordered
  mem_of_live i := ((inv_new now).mem_iff i).mpr

theorem notify_timers (tm : TimerManager γ) (it : Nat) : (tm.notify it).timers = tm.timers := by
  unfold TimerManager.notify
  split <;> rfl

theorem Consistent.notify (h : Consistent tm) (it : Nat) : Consistent (tm.notify it) := by
  unfold TimerManager.notify
  split
  · exact ⟨{ h.ordered with }, h.mem_of_live⟩
  · exact h

theorem Consistent.rearmed (h : Consistent tm) {f : Timer γ → Timer γ} {timers : List Nat}
    (hord : Ordered ((tm.update i f).holding timers) []) (hperm : timers.Perm tm.timers)
    (hf : ∀ t, (f t).cb = t.cb) : Consistent ((tm.update i f).holding timers) where
  ordered := hord
  mem_of_live j hj := hperm.mem_iff.mpr (h.mem_of_live j ((live_update hf j).mp hj))

theorem Consistent.cancelled (h : Consistent tm) (hord : Ordered (tm.cancelled i) []) :
    Consistent (tm.cancelled i) where
  ordered := hord
  mem_of_live j hj := by
    obtain ⟨hne, hlive⟩ := (live_assignCb_none j).mp hj
    exact (List.mem_erase_of_ne hne).mpr (h.mem_of_live j hlive)

theorem Consistent.addTimer (h : Consistent tm) {addr : Nat} {ms : UInt64} (cb : Option γ)
    (recurring : Bool) (now : UInt64)
    (haddr : ∀ j ∈ tm.timers, tm.objects[j]?.map Timer.addr ≠ some addr) :
    ∃ tm', Timers.addTimer addr now ms cb recurring tm = .ok tm.objects.length tm'
      ∧ Consistent tm' := by
  have hne : ∀ j ∈ tm.timers, ∀ a, tm.objects[j]? = some a → a.addr ≠ addr := by
    intro j hj a ha heq
    exact haddr j hj (by rw [ha, ← heq]; rfl)
  obtain ⟨timers, it, hok, hord, spec⟩ := addTimer_ordered h.ordered now hne
  refine ⟨_, hok, Consistent.notify ⟨hord, fun j hj => ?_⟩ it⟩
  rw [holding_timers, spec.perm.mem_iff, List.mem_cons]
  rcases (live_created j).mp hj with hj | hj
  · exact .inr (h.mem_of_live j hj)
  · exact .inl hj.1

/-- An expired timer keeps its callback only when it goes back into the set. -/
theorem Consistent.elapsed (h : Consistent tm) {now : UInt64} {expired : List Nat}
    {tm' : TimerManager γ} (spec : Elapsed tm now expired tm') : Consistent tm' where
  ordered := spec.ordered
  mem_of_live j := by
    rintro ⟨t', ht', hcb⟩
    rw [spec.objects_eq, Option.map_eq_some_iff] at ht'
    obtain ⟨t, ht, rfl⟩ := ht'
    rw [spec.mem_timers]
    by_cases hj : j ∈ expired
    · rw [if_pos hj, Timer.expire] at hcb
      split at hcb
      · rename_i hrec
        exact .inr ⟨hj, t, ht, hrec⟩
      · cases hcb
    · rw [if_neg hj] at hcb
      exact .inl ⟨h.mem_of_live j ⟨t, ht, hcb⟩, hj⟩

/-! ## One call -/

theorem not_live_of (ht : tm.objects[i]? = some t) (hcb : t.cb = none) : ¬ tm.Live i := by
  rintro ⟨t', ht', hcb'⟩
  cases ht.symm.trans ht'
  simp [hcb] at hcb'

theorem reports_false : Reports tm i false tm ↔ i ∉ tm.timers := by
  constructor
  · exact fun h hi => absurd (h.result.mpr hi) (by decide)
  · exact fun hi => ⟨by simp [hi], fun _ => rfl⟩

theorem reports_true {tm' : TimerManager γ} : Reports tm i true tm' ↔ i ∈ tm.timers := by
  constructor
  · exact fun h => h.result.mp rfl
  · exact fun hi => ⟨by simp [hi], nofun⟩

/-- A false answer is right for a timer without a callback unless it is in the set. -/
theorem reports_dead (hdead : ¬ tm.Live i) :
    Reports tm i false tm ↔ (i ∈ tm.timers → tm.Live i) := by
  rw [reports_false]
  exact ⟨fun h hi => absurd hi h, fun h hi => hdead (h hi)⟩

/-- What a call does to a consistent manager. -/
def Answers (tm : TimerManager γ) (c : AnyCall γ) : Prop :=
  ∃ r tm', c.step tm = some (r, tm') ∧ Consistent tm' ∧ (Truthful tm c r tm' ↔ Answerable tm c)

theorem AnyCall.step_ok {α : Type} {tm' : TimerManager γ} {c : AnyCall γ} {m : Op γ α} {a : α}
    {f : α → Reply γ} (hc : c.perform = (do return f (← m))) (h : m tm = .ok a tm') :
    c.step tm = some (f a, tm') := by
  have : c.perform tm = .ok (f a) tm' := by
    rw [hc]
    exact bind_ok h
  rw [AnyCall.step, this]

theorem answers_cancel (h : Consistent tm) (ht : tm.objects[i]? = some t) :
    Answers tm (.call (.cancel i)) := by
  cases hcb : t.cb with
  | none =>
    have hdead := not_live_of ht hcb
    exact ⟨_, tm, AnyCall.step_ok rfl (cancel_dead ht hcb), h, reports_dead hdead⟩
  | some c =>
    have hlive := live_of ht hcb
    have hi := h.mem_of_live i hlive
    obtain ⟨hok, hord⟩ := cancel_mem h.ordered hi ht hcb
    refine ⟨_, _, AnyCall.step_ok rfl hok, h.cancelled hord, ?_⟩
    exact iff_of_true (reports_true.mpr hi) fun _ => hlive

theorem answers_refresh (h : Consistent tm) (ht : tm.objects[i]? = some t) (now : UInt64) :
    Answers tm (.call (.refresh i now)) := by
  cases hcb : t.cb with
  | none =>
    have hdead := not_live_of ht hcb
    exact ⟨_, tm, AnyCall.step_ok rfl (refresh_dead ht hcb now), h, reports_dead hdead⟩
  | some c =>
    have hlive := live_of ht hcb
    have hi := h.mem_of_live i hlive
    obtain ⟨timers, hok, hord, hperm⟩ := refresh_mem h.ordered hi ht hcb now
    refine ⟨_, _, AnyCall.step_ok rfl hok, h.rearmed hord hperm fun _ => rfl, ?_⟩
    exact iff_of_true (reports_true.mpr hi) fun _ => hlive

/-- The early return: nothing is read but the period. -/
theorem answers_reset_same (h : Consistent tm) (ht : tm.objects[i]? = some t) (now : UInt64) :
    Answers tm (.call (.reset i t.ms false now)) := by
  refine ⟨_, tm, AnyCall.step_ok rfl (reset_same ht now), h, ?_⟩
  have hrest : i ∈ tm.timers → Restarted tm i t.ms false now tm :=
    fun hi => ⟨hi, t, t, ht, ht, rfl, by simp⟩
  simp only [Truthful, Answerable, reports_true, ht, Option.map_some, and_self, if_true]
  exact ⟨fun h => h.1, fun hi => ⟨hi, fun _ => hrest hi⟩⟩

theorem answers_reset (h : Consistent tm) (ht : tm.objects[i]? = some t) (ms : UInt64)
    (fromNow : Bool) (now : UInt64) : Answers tm (.call (.reset i ms fromNow now)) := by
  by_cases hsame : ms = t.ms ∧ fromNow = false
  · obtain ⟨rfl, rfl⟩ := hsame
    exact answers_reset_same h ht now
  have hcond : ¬ (tm.objects[i]?.map Timer.ms = some ms ∧ fromNow = false) := by
    simpa [ht, eq_comm] using hsame
  cases hcb : t.cb with
  | none =>
    have hdead := not_live_of ht hcb
    refine ⟨_, tm, AnyCall.step_ok rfl (reset_dead ht hcb hsame now), h, ?_⟩
    simp only [Truthful, Answerable, if_neg hcond, ← reports_dead hdead]
    exact ⟨fun h => h.1, fun h => ⟨h, nofun⟩⟩
  | some c =>
    have hlive := live_of ht hcb
    have hi := h.mem_of_live i hlive
    obtain ⟨timers, it, hok, hord, hperm, -⟩ := reset_mem h.ordered hi ht hcb hsame now
    refine ⟨_, _, AnyCall.step_ok rfl hok, (h.rearmed hord hperm fun _ => rfl).notify it, ?_⟩
    simp only [Truthful, Answerable, if_neg hcond]
    refine iff_of_true ⟨reports_true.mpr hi, fun _ => ⟨?_, t, t.resetTo ms fromNow now, ht, ?_, rfl,
      rfl⟩⟩ fun _ => hlive
    · rw [notify_timers]
      exact hperm.mem_iff.mpr hi
    · rw [notify_objects]
      exact objects_update_self ht

/-- The step lemma: a legal call goes through, and when it answers correctly. -/
theorem step_answers (h : Consistent tm) (c : AnyCall γ) (hl : c.Legal tm) : Answers tm c := by
  cases c with
  | addEmptyTimer addr now ms recurring =>
    obtain ⟨tm', hok, hcon⟩ := h.addTimer none recurring now hl
    exact ⟨_, tm', AnyCall.step_ok rfl hok, hcon, Iff.rfl⟩
  | call c =>
    cases c with
    | addTimer addr now ms cb recurring =>
      obtain ⟨tm', hok, hcon⟩ := h.addTimer (some cb) recurring now hl
      exact ⟨_, tm', AnyCall.step_ok rfl hok, hcon, Iff.rfl⟩
    | cancel i =>
      obtain ⟨t, ht⟩ := lookup_of_lt hl
      exact answers_cancel h ht
    | refresh i now =>
      obtain ⟨t, ht⟩ := lookup_of_lt hl
      exact answers_refresh h ht now
    | reset i ms fromNow now =>
      obtain ⟨t, ht⟩ := lookup_of_lt hl
      exact answers_reset h ht ms fromNow now
    | listExpiredCb now dummy =>
      obtain ⟨tm', hok, spec, -⟩ := listExpiredCb_elapsed h.ordered now dummy
      have hcon : Consistent { tm with previousTime := tm'.previousTime } :=
        ⟨{ h.ordered with }, h.mem_of_live⟩
      exact ⟨_, tm', AnyCall.step_ok rfl hok, hcon.elapsed spec, Iff.rfl⟩
    | getNextTimer now =>
      obtain ⟨wait, hok⟩ := getNextTimer_spec h.ordered now
      exact ⟨_, _, AnyCall.step_ok rfl hok, ⟨{ h.ordered with }, h.mem_of_live⟩, Iff.rfl⟩

theorem answersTruly_iff (h : Consistent tm) (c : AnyCall γ) (hl : c.Legal tm) :
    AnswersTruly tm c ↔ Answerable tm c := by
  obtain ⟨r, tm', hs, -, hiff⟩ := step_answers h c hl
  rw [← hiff]
  constructor
  · rintro ⟨r1, tm1, hs1, htrue⟩
    rw [hs] at hs1
    cases hs1
    exact htrue
  · exact fun htrue => ⟨r, tm', hs, htrue⟩

end consistent

/-! ## Runs -/

/-- In every state of a legal run from a new manager, a call answers correctly exactly when
it is `Answerable` there; so all calls of the run do if and only if all are. -/
theorem reports_along_run (start : UInt64) (calls : List (AnyCall γ))
    (hlegal : Along AnyCall.step AnyCall.Legal (new start) calls) :
    Along AnyCall.step (fun tm c => AnswersTruly tm c ↔ Answerable tm c) (new start) calls
      ∧ (Along AnyCall.step AnswersTruly (new start) calls
        ↔ Along AnyCall.step Answerable (new start) calls) := by
  have hall : Along AnyCall.step (fun tm c => AnswersTruly tm c ↔ Answerable tm c) (new start)
      calls := by
    refine along_of_invariant (I := Consistent) ?_ calls (consistent_new start) hlegal
    intro tm c h hl
    refine ⟨answersTruly_iff h c hl, ?_⟩
    intro r tm' hs
    obtain ⟨r1, tm1, hs1, hcon, -⟩ := step_answers h c hl
    rw [hs] at hs1
    cases hs1
    exact hcon
  exact ⟨hall, along_congr hall⟩

/-- A one-shot timer is reset, fires, and is reset again with another period. -/
theorem reports_along_run_reset :
    Along AnyCall.step AnswersTruly (new 0) [.call (.addTimer 16 0 10 'a' false),
      .call (.reset 0 20 true 5), .call (.listExpiredCb 25 32), .call (.reset 0 30 true 26)] :=
  (reports_along_run 0 [.call (.addTimer 16 0 10 'a' false),
    .call (.reset 0 20 true 5), .call (.listExpiredCb 25 32), .call (.reset 0 30 true 26)]
    (by decide)).2.mpr (by decide)

/-- A one-shot timer has fired. `reset` with its own period returns true all the same, and
the timer is not in the set. -/
theorem reset_true_after_firing :
    Along AnyCall.step AnyCall.Legal (new 0) [.call (.addTimer 16 0 10 'a' false),
        .call (.listExpiredCb 10 32), .call (.reset 0 10 false 11)]
      ∧ ∃ tm, run AnyCall.step (new 0) [.call (.addTimer 16 0 10 'a' false),
          .call (.listExpiredCb 10 32)] = some ([.timer 0, .callbacks [(0, some 'a')]], tm)
        ∧ 0 ∉ tm.timers ∧ reset 0 10 false 11 tm = .ok true tm
        ∧ ¬ AnswersTruly tm (.call (.reset 0 10 false 11)) := by
  refine ⟨by decide, _, rfl, by decide, rfl, ?_⟩
  rintro ⟨r, tm', hs, htrue⟩
  cases hs
  exact absurd (htrue.1.result.mp rfl) (by decide)

/-- A timer with the null function is in the set, and `cancel` returns false. -/
example : ∃ tm, run AnyCall.step (new 0 : TimerManager Nat) [.addEmptyTimer 16 0 10 false]
      = some ([.timer 0], tm) ∧ 0 ∈ tm.timers ∧ cancel 0 tm = .ok false tm :=
  ⟨_, rfl, by decide, rfl⟩

end Timers

end HrServer
