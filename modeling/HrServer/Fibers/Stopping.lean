/-
HrServer.Fibers.Stopping — what `stopping()` knows about running work.

A worker increments `m_activeThreadCount` when it takes an entry from the
queue, and decrements it at each of the four ends of the branch. The
counter is the number of workers in between (`Counted`): it never
goes below zero, and it is zero when no worker executes a task.

It is decremented before a fiber that yielded with `READY` is put back. In
this window the queue may be empty and the counter zero although the fiber
is still to run (`stopping_before_requeue`). Whether a call of `stopping()`
can fall into the window is told from the steps made so far (`Clear`): a
fiber must have called `YieldToReady`, and some worker must be two or three
steps from the point where a fiber left it (`Timed`). In a run whose calls
of `stopping()` are clear, they answer right (`stopping_no_work`).
-/
import HrServer.Fibers.CoreTheorems

namespace HrServer

open Lib

namespace Fibers

/-- The worker is between taking a task and finishing it. -/
def Phase.active : Phase → Bool
  | .taken _ _ => true
  | .enter _ kind | .entered _ kind | .switching _ kind | .running _ kind | .leaving _ kind
  | .returned _ kind => kind ≠ .idle
  | .loop | .scan _ _ | .noTask _ | .settle _ _ | .requeue _ _ | .hold _ _ | .ended => false

namespace Scheduler

/-- The worker has decremented the counter, and its fiber is to be put back. -/
def waits (s : Scheduler) (w : Nat) : Bool :=
  match (s.workers w).phase with
  | .settle f kind => kind ≠ .idle && (s.fibers f).state = .READY
  | .requeue _ _ => true
  | _ => false

/-- Nothing is left to run. -/
structure NoWork (s : Scheduler) : Prop where
  queue : s.queue = []
  executing : ∀ w, (s.workers w).phase.active = false
  waiting : ∀ w, s.waits w = false

/-! ## Counting workers -/

/-- One index changes its answer. -/
theorem countP_range_update {n w : Nat} {P Q : Nat → Bool} (hw : w < n)
    (h : ∀ v, v ≠ w → Q v = P v) :
    (List.range n).countP Q + (P w).toNat = (List.range n).countP P + (Q w).toNat := by
  induction n with
  | zero => cases hw
  | succ n ih =>
    rw [List.range_succ, List.countP_append, List.countP_append, List.countP_singleton,
      List.countP_singleton]
    by_cases hn : w = n
    · subst hn
      have hsame : (List.range w).countP Q = (List.range w).countP P := by
        refine List.countP_congr fun v hv => ?_
        rw [h v (Nat.ne_of_lt (List.mem_range.mp hv))]
      rw [hsame]
      cases P w <;> cases Q w <;> simp
    · have := ih (by omega)
      rw [h n (Ne.symm hn)]
      omega

/-- The workers that execute a task. -/
def executing (s : Scheduler) : Nat :=
  (List.range s.threads).countP fun w => (s.workers w).phase.active

structure Counted (s : Scheduler) : Prop where
  unstarted : ∀ w, s.threads ≤ w → (s.workers w).phase = .ended
  active : s.activeThreadCount = s.executing

/-- A worker goes from one phase to another, and the counter with it. -/
theorem Counted.move {s s' : Scheduler} {w : Nat} (hi : s.Counted)
    (hnot : (s.workers w).phase ≠ .ended) (hother : ∀ v, v ≠ w → s'.workers v = s.workers v)
    (ht : s'.threads = s.threads)
    (hcount : s'.activeThreadCount + (s.workers w).phase.active.toNat
      = s.activeThreadCount + (s'.workers w).phase.active.toNat) : s'.Counted := by
  have hlt : w < s.threads := by
    by_contra hge
    exact hnot (hi.unstarted w (Nat.le_of_not_lt hge))
  refine ⟨?_, ?_⟩
  · intro v hv
    rw [ht] at hv
    rw [hother v (by omega)]
    exact hi.unstarted v hv
  · have hupdate := @countP_range_update s.threads w (fun v => (s.workers v).phase.active)
      (fun v => (s'.workers v).phase.active) hlt fun v hv => by rw [hother v hv]
    have hactive := hi.active
    unfold executing at hactive ⊢
    rw [ht]
    omega

section steps

variable {s s' : Scheduler} {w : Nat}

/-- One constructor of `Works` after the other: the counter goes up with `take`, and down
with `discard` and `returned`. -/
theorem work_counted (hi : s.Counted) (hs : s.work w = some s') : s'.Counted := by
  cases work_cases hs with
  | lock h | scanned h | skip h | exit h | idle h =>
    exact hi.move (w := w) (by simp [h]) (fun v hv => by simp [hv]) rfl (by simp [h, Phase.active])
  | take h =>
    exact hi.move (w := w) (by simp [h]) (fun v hv => by simp [hv]) rfl (by simp [h, Phase.active])
  | discard h =>
    exact hi.move (w := w) (by simp [h]) (fun v hv => by simp [hv]) rfl (by simp [h, Phase.active])
  | resume h | reuse h | enter h | entered h | switching h | leaving h =>
    exact hi.move (w := w) (by simp [h]) (fun v hv => by simp [hv, setState]) rfl
      (by simp [h, Phase.active, setState])
  | fresh h =>
    exact hi.move (w := w) (by simp [h]) (fun v hv => by simp [hv, newFiber]) rfl
      (by simp [h, Phase.active, newFiber])
  | returnedIdle h =>
    exact hi.move (w := w) (by simp [h]) (fun v hv => by simp [hv]) rfl (by simp [h, Phase.active])
  | returned h hk =>
    exact hi.move (w := w) (by simp [h]) (fun v hv => by simp [hv]) rfl
      (by simp [h, Phase.active, hk])
  | settleReady h | settleReset h | settleDone h | settleHold h =>
    exact hi.move (w := w) (by simp [h]) (fun v hv => by simp [hv]) rfl (by simp [h, Phase.active])
  | requeue h | hold h =>
    exact hi.move (w := w) (by simp [h]) (fun v hv => by simp [finish, push, setState, hv]) rfl
      (by simp [h, Phase.active, finish, push, setState])

theorem leave_counted {next : State → State} {ended : Bool} (hi : s.Counted)
    (hs : s.leave w next ended = some s') : s'.Counted := by
  obtain ⟨f, kind, hp, -, rfl⟩ := leave_cases hs
  exact hi.move (w := w) (by simp [hp]) (fun v hv => by simp [hv]) rfl (by simp [hp, Phase.active])

theorem spawn_counted (hi : s.Counted) (hs : s.next .spawn = some s') : s'.Counted := by
  cases hs
  refine ⟨?_, ?_⟩
  · intro v hv
    have hlt : s.threads < v := hv
    simp only [workers_setWorker, if_neg (Nat.ne_of_gt hlt)]
    exact hi.unstarted v (Nat.le_of_lt hlt)
  · refine hi.active.trans ?_
    congr 1
    rw [executing, executing]
    show _ = (List.range (s.threads + 1)).countP _
    rw [List.range_succ, List.countP_append, List.countP_singleton]
    simp only [workers_setWorker, if_true, Phase.active, Bool.false_eq_true, if_false, Nat.add_zero]
    refine List.countP_congr fun v hv => ?_
    rw [if_neg (Nat.ne_of_lt (List.mem_range.mp hv))]
    rfl

/-- Every step keeps the counter right. -/
theorem next_counted {l : Label} (hi : s.Counted) (hs : s.next l = some s') : s'.Counted := by
  cases l with
  | create | setAutoStop | setStopping b =>
    cases hs
    exact ⟨hi.unstarted, hi.active⟩
  | spawn => exact spawn_counted hi hs
  | schedule task thread =>
    obtain ⟨-, rfl⟩ := schedule_cases hs
    exact ⟨hi.unstarted, hi.active⟩
  | work w => exact work_counted hi hs
  | yieldToReady w =>
    have hs' : s.leave w (fun _ => .READY) false = some s' := hs
    exact leave_counted hi hs'
  | yieldToHold w =>
    have hs' : s.leave w id false = some s' := hs
    exact leave_counted hi hs'
  | finish w outcome =>
    have hs' : s.leave w (fun state => outcome.state state) true = some s' := hs
    exact leave_counted hi hs'
  | isStopping =>
    rw [isStopping_cases hs]
    exact hi

end steps

theorem init_counted : init.Counted := ⟨fun _ _ => rfl, rfl⟩

/-- A counter of zero means that no worker executes a task. -/
theorem Counted.idle {s : Scheduler} (hi : s.Counted) (hzero : s.activeThreadCount = 0) (w : Nat) :
    (s.workers w).phase.active = false := by
  by_cases hw : w < s.threads
  · have hcount : s.executing = 0 := by
      have := hi.active
      omega
    rw [executing, List.countP_eq_zero] at hcount
    simpa using hcount w (List.mem_range.mpr hw)
  · rw [hi.unstarted w (Nat.le_of_not_lt hw)]
    rfl

end Scheduler

/-! ## The steps made so far -/

/-- One label more. A fiber that leaves worker `w` starts the count, which goes on with the
steps of `w`. -/
def tick (w : Nat) (n : Option Nat) : Label → Option Nat
  | .yieldToReady v | .yieldToHold v | .finish v _ => if v = w then some 0 else n
  | .work v => if v = w then n.map (· + 1) else n
  | .create | .spawn | .schedule _ _ | .setAutoStop | .setStopping _ | .isStopping => n

/-- How many steps worker `w` has made since a fiber last left it. The second is the
decrement, and the fourth puts the fiber back. -/
def sinceLeft (w : Nat) (history : List Label) : Option Nat := history.foldl (tick w) none

/-- No fiber has called `YieldToReady` so far, or no worker has made its decrement and not
yet the two steps that follow it. -/
def Clear (history : List Label) : Prop :=
  (∀ w, .yieldToReady w ∉ history)
    ∨ ∀ w, sinceLeft w history ≠ some 2 ∧ sinceLeft w history ≠ some 3

/-- Where a worker can be, `n` steps after a fiber left it. -/
def Phase.After : Phase → Option Nat → Prop
  | .leaving _ _, n => n = some 0
  | .returned _ _, n => n = some 1
  | .settle _ _, n => n = some 2
  | .requeue _ _, n | .hold _ _, n => n = some 3
  | .loop, n => ∀ k ∈ n, 3 ≤ k
  | _, n => ∀ k ∈ n, 4 ≤ k

namespace Scheduler

/-- No fiber is `READY`, and none is to be put back. -/
structure Unready (s : Scheduler) : Prop where
  state : ∀ f, (s.fibers f).state ≠ .READY
  phase : ∀ w f kind, (s.workers w).phase ≠ .requeue f kind

/-- What the history tells about the state. -/
structure Timed (history : List Label) (s : Scheduler) : Prop where
  after : ∀ w, (s.workers w).phase.After (sinceLeft w history)
  unready : (∀ w, .yieldToReady w ∉ history) → s.Unready

section steps

variable {s s' : Scheduler} {w : Nat}

theorem sinceLeft_concat (w : Nat) (history : List Label) (l : Label) :
    sinceLeft w (history ++ [l]) = tick w (sinceLeft w history) l := by
  simp [sinceLeft]

/-- A step of the worker takes it from a phase after `n` steps to one after `n + 1`. -/
theorem work_after {n : Option Nat} (hn : (s.workers w).phase.After n) (hs : s.work w = some s') :
    (s'.workers w).phase.After (n.map (· + 1)) := by
  cases work_cases hs with
  | lock h | scanned h | skip h | take h | discard h | resume h | reuse h | fresh h | exit h
  | idle h | enter h | entered h | switching h =>
    rw [h] at hn
    cases n with
    | none => simp [Phase.After]
    | some k =>
      have hk := hn k rfl
      simp [Phase.After]
      omega
  | leaving h | returnedIdle h | returned h | settleReady h | settleReset h | settleDone h
  | settleHold h | requeue h | hold h =>
    rw [h] at hn
    obtain rfl := hn
    simp [Phase.After, finish, push, setState]

/-- Only `YieldToReady` makes a fiber `READY`. -/
theorem work_unready (hi : s.Unready) (hs : s.work w = some s') : s'.Unready := by
  have hstate := hi.state
  refine ⟨fun g => ?_, fun v f kind => ?_⟩
  · cases work_cases hs with
    | lock | scanned | skip | take | discard | resume | fresh | exit | idle | enter | returnedIdle
    | returned | settleReady | settleDone | settleHold | requeue => exact hstate g
    | reuse | entered | switching | leaving | settleReset | hold =>
      simp only [finish, fibers_setWorker, fibers_goto, fibers_setFiber, setState]
      split <;> simp [hstate, Fiber.init]
  · by_cases hv : v = w
    · subst hv
      cases work_cases hs with
      | settleReady h hk hf => exact absurd hf (hstate _)
      | lock | scanned | skip | take | discard | resume | reuse | fresh | exit | idle | enter
      | entered | switching | leaving | returnedIdle | returned | settleReset | settleDone
      | settleHold | requeue | hold => simp [finish, push, setState]
    · rw [work_other hs hv]
      exact hi.phase v f kind

theorem leave_unready (next : State → State) (ended : Bool) (hi : s.Unready)
    (hnext : ∀ state, state ≠ .READY → next state ≠ .READY)
    (hs : s.leave w next ended = some s') : s'.Unready := by
  obtain ⟨f, kind, -, -, rfl⟩ := leave_cases hs
  refine ⟨fun g => ?_, fun v g kind => ?_⟩
  · simp only [fibers_goto, fibers_setFiber]
    split
    · exact hnext _ (hi.state f)
    · exact hi.state g
  · by_cases hv : v = w
    · simp [hv]
    · simpa [hv] using hi.phase v g kind

theorem next_unready {l : Label} (hi : s.Unready) (hl : ∀ w, l ≠ .yieldToReady w)
    (hs : s.next l = some s') : s'.Unready := by
  cases l with
  | create | setAutoStop | setStopping b =>
    cases hs
    exact ⟨hi.state, hi.phase⟩
  | spawn =>
    cases hs
    refine ⟨hi.state, fun v f kind => ?_⟩
    by_cases hv : v = s.threads
    · simp [hv]
    · simpa [hv] using hi.phase v f kind
  | schedule task thread =>
    obtain ⟨-, rfl⟩ := schedule_cases hs
    exact ⟨hi.state, hi.phase⟩
  | work w => exact work_unready hi hs
  | yieldToReady w => exact absurd rfl (hl w)
  | yieldToHold w => exact leave_unready id false hi (fun _ => id) hs
  | finish w outcome =>
    refine leave_unready outcome.state true hi (fun state hstate => ?_) hs
    cases outcome <;> simp [Outcome.state, hstate]
  | isStopping =>
    rw [isStopping_cases hs]
    exact hi

theorem leave_after (next : State → State) (ended : Bool) {v : Nat} {n : Option Nat}
    (hn : (s.workers v).phase.After n) (hs : s.leave w next ended = some s') :
    (s'.workers v).phase.After (if w = v then some 0 else n) := by
  obtain ⟨f, kind, -, -, rfl⟩ := leave_cases hs
  by_cases hv : w = v
  · subst hv
    simp [Phase.After]
  · simpa [hv, Ne.symm hv] using hn

/-- The label counts the step of its worker and leaves the others where they are. -/
theorem next_after {l : Label} {n : Nat → Option Nat} (hi : s.Counted)
    (hn : ∀ w, (s.workers w).phase.After (n w)) (hs : s.next l = some s') (w : Nat) :
    (s'.workers w).phase.After (tick w (n w) l) := by
  cases l with
  | create | setAutoStop | setStopping b =>
    cases hs
    exact hn w
  | spawn =>
    cases hs
    by_cases hw : w = s.threads
    · subst hw
      have hended := hn s.threads
      rw [hi.unstarted s.threads (Nat.le_refl _)] at hended
      simp only [workers_setWorker, if_true]
      intro k hk
      have := hended k hk
      omega
    · simpa [hw, tick] using hn w
  | schedule task thread =>
    obtain ⟨-, rfl⟩ := schedule_cases hs
    exact hn w
  | work v =>
    by_cases hv : v = w
    · subst hv
      simpa [tick] using work_after (hn v) hs
    · simpa [tick, hv, work_other hs (Ne.symm hv)] using hn w
  | yieldToReady v => exact leave_after (fun _ => .READY) false (hn w) hs
  | yieldToHold v => exact leave_after id false (hn w) hs
  | finish v outcome => exact leave_after outcome.state true (hn w) hs
  | isStopping =>
    rw [isStopping_cases hs]
    exact hn w

/-- The invariant of runs: the counter, and what the history tells. -/
theorem next_timed {history : List Label} {l : Label} (hi : s.Counted) (ht : s.Timed history)
    (hs : s.next l = some s') : s'.Timed (history ++ [l]) := by
  refine ⟨fun w => ?_, fun hnone => ?_⟩
  · rw [sinceLeft_concat]
    exact next_after hi ht.after hs w
  · have hhistory : ∀ w, .yieldToReady w ∉ history := fun w hw =>
      hnone w (List.mem_append_left [l] hw)
    refine next_unready (ht.unready hhistory) (fun w hl => ?_) hs
    exact hnone w (by simp [hl])

theorem Unready.waits (hi : s.Unready) (w : Nat) : s.waits w = false := by
  unfold Scheduler.waits
  split
  · simp [hi.state]
  · next h => exact absurd h (hi.phase w _ _)
  · rfl

/-- In the window a worker is two or three steps from where its fiber left it. -/
theorem Timed.since {history : List Label} (ht : s.Timed history) (hw : s.waits w = true) :
    sinceLeft w history = some 2 ∨ sinceLeft w history = some 3 := by
  have hafter := ht.after w
  unfold Scheduler.waits at hw
  split at hw
  · next h =>
    rw [h] at hafter
    exact .inl hafter
  · next h =>
    rw [h] at hafter
    exact .inr hafter
  · cases hw

/-- After a clear history no fiber waits to be put back. -/
theorem Timed.settled {history : List Label} (ht : s.Timed history) (hclear : Clear history)
    (w : Nat) : s.waits w = false := by
  rcases hclear with hnone | hsince
  · exact (ht.unready hnone).waits w
  · by_contra hw
    obtain ⟨htwo, hthree⟩ := hsince w
    exact (ht.since (Bool.not_eq_false _ ▸ hw)).elim htwo hthree

end steps

theorem init_timed : init.Timed [] :=
  ⟨fun _ => nofun, fun _ => ⟨fun _ => nofun, fun _ _ _ => nofun⟩⟩

theorem run_timed {labels : List Label} {os : List Bool} {s : Scheduler}
    (hrun : run step init labels = some (os, s)) : s.Counted ∧ s.Timed labels := by
  have hstep : ∀ (history : List Label) (s : Scheduler) (l : Label) (o : Bool) (s' : Scheduler),
      s.Counted ∧ s.Timed history → step s l = some (o, s') →
        s'.Counted ∧ s'.Timed (history ++ [l]) := by
    rintro history s l o s' ⟨hi, ht⟩ hs
    obtain ⟨s1, hnext, heq⟩ := Option.map_eq_some_iff.mp hs
    cases heq
    exact ⟨next_counted hi hnext, next_timed hi ht hnext⟩
  exact run_inputs hstep labels [] ⟨init_counted, init_timed⟩ hrun

end Scheduler

/-- The one call of `stopping()` is the last step. -/
theorem before_last_call {labels before after : List Label} (hnot : .isStopping ∉ labels)
    (h : labels ++ [.isStopping] = before ++ .isStopping :: after) : before = labels := by
  rcases List.eq_nil_or_concat after with rfl | ⟨after', l, rfl⟩
  · exact (List.append_cancel_right h).symm
  · have h' : labels ++ [.isStopping] = (before ++ .isStopping :: after') ++ [l] := by simpa using h
    have hlabels := (List.append_inj' h' rfl).1
    exact absurd (by simp [hlabels]) hnot

open Scheduler in
/-- What the only worker's fiber calls is clear: its idle fiber may call `stopping()` at any
time. -/
theorem clear_of_only {labels : List Label} {os : List Bool} {s : Scheduler} {f : Nat} {kind : Kind}
    (hrun : run step init labels = some (os, s)) (hone : s.threads = 1)
    (hp : (s.workers 0).phase = .running f kind) : Clear labels := by
  obtain ⟨hi, ht⟩ := run_timed hrun
  have hlate : ∀ w, ∀ k ∈ sinceLeft w labels, 4 ≤ k := by
    intro w
    have hafter := ht.after w
    cases w with
    | zero =>
      rw [hp] at hafter
      exact hafter
    | succ w =>
      rw [hi.unstarted (w + 1) (by omega)] at hafter
      exact hafter
  refine .inr fun w => ⟨fun htwo => ?_, fun hthree => ?_⟩
  · exact absurd (hlate w 2 htwo) (by decide)
  · exact absurd (hlate w 3 hthree) (by decide)

open Scheduler in
/-- In every run whose calls of `stopping()` are clear, and in every state reached:
`m_activeThreadCount` is not negative, and zero when no worker is between taking a task and
finishing it; and when `stopping()` is called and returns true, nothing is left to run. -/
theorem stopping_no_work (labels : List Label)
    (hclear : ∀ before after, labels = before ++ .isStopping :: after → Clear before)
    {before after : List Label} (hlabels : labels = before ++ after) {os : List Bool}
    {s : Scheduler} (hrun : run step init before = some (os, s)) :
    0 ≤ s.activeThreadCount
      ∧ ((∀ w, (s.workers w).phase.active = false) → s.activeThreadCount = 0)
      ∧ ∀ rest s', after = .isStopping :: rest → step s .isStopping = some (true, s') →
        s.NoWork := by
  obtain ⟨hi, ht⟩ := run_timed hrun
  have hactive := hi.active
  refine ⟨by omega, ?_, ?_⟩
  · intro hall
    have hzero : s.executing = 0 := by
      rw [executing, List.countP_eq_zero]
      intro w _
      simp [hall w]
    omega
  · intro rest s' hafter hstep
    obtain ⟨s1, -, heq⟩ := Option.map_eq_some_iff.mp hstep
    have hstop : s.isStopping = true := by simpa using congrArg Prod.fst heq
    simp only [isStopping, Bool.and_eq_true, List.isEmpty_iff, decide_eq_true_eq] at hstop
    rw [hafter] at hlabels
    exact ⟨hstop.1.2, hi.idle hstop.2, ht.settled (hclear before rest hlabels)⟩

open Scheduler in
/-- A fiber yields with `READY`, is put back and taken again, and ends; the idle fiber of the
only worker calls `stopping()`. -/
theorem stopping_no_work_idle :
    ∃ os s s', run step init ([.spawn, .create, .schedule (.fiber 1) none]
        ++ List.replicate 6 (.work 0) ++ [.yieldToReady 0] ++ List.replicate 10 (.work 0)
        ++ [.finish 0 .returned] ++ List.replicate 9 (.work 0) ++ [.setAutoStop]) = some (os, s)
      ∧ (s.workers 0).phase = .running 0 .idle
      ∧ step s .isStopping = some (true, s') ∧ s.NoWork := by
  set labels : List Label := [.spawn, .create, .schedule (.fiber 1) none]
    ++ List.replicate 6 (.work 0) ++ [.yieldToReady 0] ++ List.replicate 10 (.work 0)
    ++ [.finish 0 .returned] ++ List.replicate 9 (.work 0) ++ [.setAutoStop]
  have hstate : (run step init labels).map
      (fun r => ((step r.2 .isStopping).map (·.1), r.2.threads, (r.2.workers 0).phase))
        = some (some true, 1, .running 0 .idle) := by
    decide +kernel
  obtain ⟨⟨os, s⟩, hrun, hs⟩ := Option.map_eq_some_iff.mp hstate
  simp only [Prod.mk.injEq] at hs
  obtain ⟨htrue, hone, hidle⟩ := hs
  obtain ⟨⟨b, s'⟩, hstep, rfl⟩ := Option.map_eq_some_iff.mp htrue
  have hclear : ∀ before after, labels ++ [.isStopping] = before ++ .isStopping :: after →
      Clear before := by
    intro before after h
    rw [before_last_call (by decide) h]
    exact clear_of_only hrun hone hidle
  obtain ⟨-, -, hwork⟩ := stopping_no_work (labels ++ [.isStopping]) hclear rfl hrun
  exact ⟨os, s, s', hrun, hidle, hstep, hwork [] s' rfl hstep⟩

open Scheduler in
/-- A fiber has yielded with `READY`; its worker has decremented the counter and not yet
put it back. `stopping()` returns true. -/
theorem stopping_before_requeue :
    ¬ ∀ (labels : List Label) (os : List Bool) (s s' : Scheduler),
      run step init labels = some (os, s) → step s .isStopping = some (true, s') → s.NoWork := by
  intro hall
  have hstate : (run step init ([.create, .spawn, .schedule (.fiber 0) none]
      ++ List.replicate 6 (.work 0) ++ [.yieldToReady 0] ++ List.replicate 2 (.work 0)
      ++ [.setAutoStop])).map
      (fun r => ((step r.2 .isStopping).map (·.1), r.2.waits 0)) = some (some true, true) := by
    decide +kernel
  obtain ⟨⟨os, s⟩, hrun, hs⟩ := Option.map_eq_some_iff.mp hstate
  obtain ⟨⟨b, s'⟩, hstep, hb⟩ := Option.map_eq_some_iff.mp (congrArg Prod.fst hs)
  have hstep' : step s .isStopping = some (true, s') := by
    rw [hstep]
    exact congrArg (fun b => some (b, s')) hb
  have hwaits : s.waits 0 = true := congrArg Prod.snd hs
  rw [(hall _ os s s' hrun hstep').waiting 0] at hwaits
  cases hwaits

end Fibers

end HrServer
