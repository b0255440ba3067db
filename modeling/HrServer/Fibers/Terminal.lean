/-
HrServer.Fibers.Terminal — a fiber whose callback has ended is not touched
again.

`MainFunc` stores `TERM` when the callback returns and `EXCEPT` when it
throws something that is not a `std::exception`; `CallerMainFunc` stores
`EXCEPT` in both handlers. After a `std::exception` the state is still
`EXEC`, the worker puts the fiber on hold, and the next one that takes it
from the queue resumes a stack that is over (`ended_on_hold`).

`finished_terminal` is the positive side: when no callback ends with a
`std::exception` and a worker turns to a fiber only while no other worker
deals with it, a fiber that has ended stays in `TERM` or `EXCEPT` until it
is reset, and no worker resumes it, puts it on hold or queues it.
-/
import HrServer.Fibers.CoreTheorems

namespace HrServer

open Lib

namespace Fibers

/-- The fiber that a phase takes to be alive: it is about to run, runs, or is about to be
put on hold or back into the queue. -/
def Phase.uses : Phase → Option Nat
  | .enter f _ | .entered f _ | .switching f _ | .running f _ | .requeue f _ | .hold f _ => some f
  | .loop | .scan _ _ | .noTask _ | .ended | .taken _ _ | .leaving _ _ | .returned _ _
  | .settle _ _ => none

theorem Phase.fiber_of_uses {p : Phase} {f : Nat} (h : p.uses = some f) : p.fiber = some f := by
  cases p with
  | enter | entered | switching | running | requeue | hold => exact h
  | loop | scan | noTask | ended | taken | leaving | returned | settle => cases h

namespace Scheduler

/-- The fiber that a worker turns to in its next step: the one it takes from the queue, its
callback fiber when it has taken a callback, or its idle fiber. -/
def turnsTo (s : Scheduler) (w : Nat) : Option Nat :=
  match (s.workers w).phase with
  | .scan i _ => s.queue[i]?.bind fun ft => if s.takes w ft then ft.fiber else none
  | .taken ⟨.cb _, _⟩ _ => (s.workers w).cbFiber
  | .noTask _ => (s.workers w).idleFiber.filter fun f => (s.fibers f).state ≠ .TERM
  | _ => none

/-- The fiber that runs on a worker. -/
def runs (s : Scheduler) (w : Nat) : Option Nat :=
  match (s.workers w).phase with
  | .running f _ => some f
  | _ => none

/-- A worker turns to a fiber only when no other worker deals with it. No callback ends with
a `std::exception`, and the idle function returns. -/
def Orderly (s : Scheduler) : Label → Prop
  | .work w => ∀ f ∈ s.turnsTo w, ∀ v < s.threads, v ≠ w → (s.workers v).phase.fiber ≠ some f
  | .finish w outcome => outcome ≠ .stdException
      ∧ ∀ f ∈ s.runs w, ∀ v < s.threads, (s.workers v).idleFiber = some f → outcome = .returned
  | _ => True

instance (s : Scheduler) : (l : Label) → Decidable (s.Orderly l)
  | .work w => inferInstanceAs (Decidable
      (∀ f ∈ s.turnsTo w, ∀ v < s.threads, v ≠ w → (s.workers v).phase.fiber ≠ some f))
  | .finish w outcome => inferInstanceAs (Decidable (outcome ≠ .stdException
      ∧ ∀ f ∈ s.runs w, ∀ v < s.threads, (s.workers v).idleFiber = some f → outcome = .returned))
  | .create | .spawn | .schedule _ _ | .yieldToReady _ | .yieldToHold _ | .setAutoStop
  | .setStopping _ | .isStopping => .isTrue trivial

/-- A fiber that has ended is in `TERM` or `EXCEPT`, as `reset` and `~Fiber` assert; it is not
resumed, nor put on hold or back into the queue. -/
structure Terminal (s : Scheduler) : Prop where
  state : ∀ f, (s.fibers f).ended = true →
    (s.fibers f).state = .TERM ∨ (s.fibers f).state = .EXCEPT
  resumed : ∀ w f kind, (s.workers w).phase = .enter f kind
    ∨ (s.workers w).phase = .entered f kind ∨ (s.workers w).phase = .switching f kind
    ∨ (s.workers w).phase = .running f kind → (s.fibers f).ended = false
  kept : ∀ w f kind, (s.workers w).phase = .hold f kind
    ∨ (s.workers w).phase = .requeue f kind → (s.fibers f).ended = false
  reset : ∀ w ft tickleMe c, (s.workers w).phase = .taken ft tickleMe → ft.fiber = none →
    (s.workers w).cbFiber = some c → (s.fibers c).ended = true → (s.start w ft).isSome = true

/-! ## The invariant -/

structure Owned (s : Scheduler) : Prop where
  unique : ∀ v w f, (s.workers v).phase.fiber = some f → (s.workers w).phase.fiber = some f → v = w
  known : ∀ w f, (s.workers w).phase.fiber = some f ∨ (s.workers w).cbFiber = some f
    ∨ (s.workers w).idleFiber = some f → f < s.created
  queued : ∀ ft ∈ s.queue, ∀ f, ft.fiber = some f → f < s.created
  fresh : ∀ f, s.created ≤ f → (s.fibers f).ended = false
  unstarted : ∀ w, s.threads ≤ w → s.workers w = ⟨.ended, none, none⟩
  state : ∀ f, (s.fibers f).ended = true → s.finished f = true
  uses : ∀ w f, (s.workers w).phase.uses = some f → (s.fibers f).ended = false
  idle : ∀ w f, (s.workers w).idleFiber = some f → (s.fibers f).ended = true →
    (s.fibers f).state = .TERM

/-- A worker goes from `s` to `s'`; it touches no fiber but `g`, which no other worker deals
with. -/
structure Touched (s s' : Scheduler) (w : Nat) (g : Option Nat) : Prop where
  started : w < s'.threads
  threads : s.threads ≤ s'.threads
  created : s.created ≤ s'.created
  others : ∀ v, v ≠ w → s'.workers v = s.workers v
  queued : ∀ ft ∈ s'.queue, ∀ f, ft.fiber = some f → f < s'.created
  known : ∀ f, g = some f ∨ (s'.workers w).cbFiber = some f ∨ (s'.workers w).idleFiber = some f →
    f < s'.created
  fibers : ∀ f, g ≠ some f → s'.fibers f = s.fibers f
  alone : ∀ f, g = some f → ∀ v, v ≠ w → (s.workers v).phase.fiber ≠ some f
  fiber : ∀ f, (s'.workers w).phase.fiber = some f → g = some f
  state : ∀ f, g = some f → (s'.fibers f).ended = true → s'.finished f = true
  uses : ∀ f, (s'.workers w).phase.uses = some f → (s'.fibers f).ended = false
  idle : ∀ v f, (s'.workers v).idleFiber = some f → (s'.fibers f).ended = true →
    g = some f ∨ (v = w ∧ (s.workers w).idleFiber ≠ some f) → (s'.fibers f).state = .TERM

theorem finished_congr {s s' : Scheduler} {f : Nat} (h : s'.fibers f = s.fibers f) :
    s'.finished f = s.finished f := by
  rw [finished, finished, h]

theorem Owned.touch {s s' : Scheduler} {w : Nat} {g : Option Nat} (hi : s.Owned)
    (hm : Touched s s' w g) : s'.Owned := by
  have hother : ∀ v f, v ≠ w → (s'.workers v).phase.fiber = some f → g ≠ some f := by
    intro v f hv hf hg
    rw [hm.others v hv] at hf
    exact hm.alone f hg v hv hf
  refine ⟨?_, ?_, hm.queued, ?_, ?_, ?_, ?_, ?_⟩
  · intro u v f hu hv
    by_cases huw : u = w
    · by_cases hvw : v = w
      · rw [huw, hvw]
      · subst huw
        exact absurd (hm.fiber f hu) (hother v f hvw hv)
    · by_cases hvw : v = w
      · subst hvw
        exact absurd (hm.fiber f hv) (hother u f huw hu)
      · rw [hm.others u huw] at hu
        rw [hm.others v hvw] at hv
        exact hi.unique u v f hu hv
  · intro v f hf
    by_cases hv : v = w
    · subst hv
      exact hm.known f (hf.imp_left (hm.fiber f))
    · rw [hm.others v hv] at hf
      exact Nat.lt_of_lt_of_le (hi.known v f hf) hm.created
  · intro f hf
    have hg : g ≠ some f := fun hg => Nat.not_lt.mpr hf (hm.known f (.inl hg))
    rw [hm.fibers f hg]
    exact hi.fresh f (Nat.le_trans hm.created hf)
  · intro v hv
    have hne : v ≠ w := by
      have := hm.started
      omega
    rw [hm.others v hne]
    exact hi.unstarted v (Nat.le_trans hm.threads hv)
  · intro f hended
    by_cases hg : g = some f
    · exact hm.state f hg hended
    · rw [hm.fibers f hg] at hended
      rw [finished_congr (hm.fibers f hg)]
      exact hi.state f hended
  · intro v f hf
    by_cases hv : v = w
    · subst hv
      exact hm.uses f hf
    · have hg := hother v f hv (Phase.fiber_of_uses hf)
      rw [hm.others v hv] at hf
      rw [hm.fibers f hg]
      exact hi.uses v f hf
  · intro v f hid hended
    by_cases hg : g = some f
    · exact hm.idle v f hid hended (.inl hg)
    · by_cases hv : v = w ∧ (s.workers w).idleFiber ≠ some f
      · exact hm.idle v f hid hended (.inr hv)
      · have hid' : (s.workers v).idleFiber = some f := by
          by_cases hvw : v = w
          · rw [hvw]
            exact not_not.mp fun hne => hv ⟨hvw, hne⟩
          · rwa [hm.others v hvw] at hid
        rw [hm.fibers f hg] at hended ⊢
        exact hi.idle v f hid' hended

section steps

variable {s s' : Scheduler} {w f : Nat} {kind : Kind} {p : Phase}

theorem Phase.ne_ended_of_fiber (h : p.fiber = some f) : p ≠ .ended := by
  rintro rfl
  cases h

/-- A worker keeps its idle fiber. -/
theorem idleFiber_kept {c : Option Nat}
    (hw : s'.workers = (s.setWorker w ⟨p, c, (s.workers w).idleFiber⟩).workers) (v : Nat) :
    (s'.workers v).idleFiber = (s.workers v).idleFiber := by
  by_cases hv : v = w
  · rw [hv, worker_self hw]
  · rw [worker_other hw hv]

/-- The worker goes on with the fiber it deals with, or leaves it. -/
theorem Owned.advance {c : Option Nat} (hi : s.Owned) (hf : (s.workers w).phase.fiber = some f)
    (hp : p.fiber = some f ∨ p.fiber = none) (hcb : c = (s.workers w).cbFiber ∨ c = none)
    (hw : s'.workers = (s.setWorker w ⟨p, c, (s.workers w).idleFiber⟩).workers)
    (hq : ∀ ft ∈ s'.queue, ft ∈ s.queue ∨ ft.fiber = some f) (hc : s'.created = s.created)
    (ht : s'.threads = s.threads) (hfib : ∀ g, g ≠ f → s'.fibers g = s.fibers g)
    (hstate : (s'.fibers f).ended = true → s'.finished f = true)
    (huses : p.uses = some f → (s'.fibers f).ended = false)
    (hidle : ∀ v, (s.workers v).idleFiber = some f → (s'.fibers f).ended = true →
      (s'.fibers f).state = .TERM) : s'.Owned := by
  have hself := worker_self hw
  have hother : ∀ v, v ≠ w → s'.workers v = s.workers v := fun v => worker_other hw
  have hknown : f < s'.created := hc ▸ hi.known w f (.inl hf)
  refine hi.touch (w := w) (g := some f)
    ⟨ht ▸ lt_threads hi.unstarted (Phase.ne_ended_of_fiber hf), Nat.le_of_eq ht.symm,
      Nat.le_of_eq hc.symm,
      hother, ?_, ?_, ?_, ?_, ?_, ?_, ?_, ?_⟩
  · intro ft hft g hg
    rcases hq ft hft with hold | hnew
    · exact hc ▸ hi.queued ft hold g hg
    · rw [hnew] at hg
      cases hg
      exact hknown
  · rintro g (hg | hg | hg)
    · cases hg
      exact hknown
    · rw [hself] at hg
      rcases hcb with rfl | rfl
      · exact hc ▸ hi.known w g (.inr (.inl hg))
      · cases hg
    · rw [hself] at hg
      exact hc ▸ hi.known w g (.inr (.inr hg))
  · intro g hg
    exact hfib g fun h => hg (h ▸ rfl)
  · intro g hg v hv hv'
    cases hg
    exact hv (hi.unique v w f hv' hf)
  · intro g hg
    rw [hself] at hg
    rcases hp with hp | hp
    · exact hp.symm.trans hg
    · rw [hp] at hg
      cases hg
  · intro g hg
    cases hg
    exact hstate
  · intro g hg
    rw [hself] at hg
    have hpg := Phase.fiber_of_uses hg
    rcases hp with hp | hp
    · cases hp.symm.trans hpg
      exact huses hg
    · rw [hp] at hpg
      cases hpg
  · intro v g hid hended hor
    rw [idleFiber_kept hw v] at hid
    rcases hor with hg | ⟨rfl, hne⟩
    · cases hg
      exact hidle v hid hended
    · exact absurd hid hne

/-- The same when the fiber does not change. -/
theorem Owned.keep {c : Option Nat} (hi : s.Owned) (hf : (s.workers w).phase.fiber = some f)
    (hp : p.fiber = some f ∨ p.fiber = none) (hcb : c = (s.workers w).cbFiber ∨ c = none)
    (hw : s'.workers = (s.setWorker w ⟨p, c, (s.workers w).idleFiber⟩).workers)
    (hq : ∀ ft ∈ s'.queue, ft ∈ s.queue ∨ ft.fiber = some f) (hc : s'.created = s.created)
    (ht : s'.threads = s.threads) (hfib : s'.fibers = s.fibers)
    (huses : p.uses = some f → (s.fibers f).ended = false) : s'.Owned := by
  refine hi.advance hf hp hcb hw hq hc ht (fun g _ => by rw [hfib]) ?_ ?_ ?_
  · rw [finished_congr (congrFun hfib f), hfib]
    exact hi.state f
  · rw [hfib]
    exact huses
  · intro v hv
    rw [hfib]
    exact hi.idle v f hv

/-- The worker turns to a fiber that no other worker deals with. It may have been reset. -/
theorem Owned.acquire {c : Option Nat} (hi : s.Owned) (hnot : (s.workers w).phase ≠ .ended)
    (hcb : c = (s.workers w).cbFiber ∨ c = some f)
    (hw : s'.workers = (s.setWorker w ⟨p, c, (s.workers w).idleFiber⟩).workers)
    (hq : ∀ ft ∈ s'.queue, ft ∈ s.queue) (hc : s.created ≤ s'.created) (hknown : f < s'.created)
    (ht : s'.threads = s.threads) (hp : p.fiber = some f)
    (halone : ∀ v < s.threads, v ≠ w → (s.workers v).phase.fiber ≠ some f)
    (hfib : ∀ g, g ≠ f → s'.fibers g = s.fibers g)
    (hfibf : s'.fibers f = s.fibers f ∨ (s'.fibers f).ended = false)
    (huses : p.uses = some f → (s'.fibers f).ended = false) : s'.Owned := by
  have hself := worker_self hw
  have hother : ∀ v, v ≠ w → s'.workers v = s.workers v := fun v => worker_other hw
  refine hi.touch (w := w) (g := some f)
    ⟨ht ▸ lt_threads hi.unstarted hnot, Nat.le_of_eq ht.symm, hc, hother,
      ?_, ?_, ?_, ?_, ?_, ?_, ?_, ?_⟩
  · intro ft hft g hg
    exact Nat.lt_of_lt_of_le (hi.queued ft (hq ft hft) g hg) hc
  · rintro g (hg | hg | hg)
    · cases hg
      exact hknown
    · rw [hself] at hg
      rcases hcb with rfl | rfl
      · exact Nat.lt_of_lt_of_le (hi.known w g (.inr (.inl hg))) hc
      · cases hg
        exact hknown
    · rw [hself] at hg
      exact Nat.lt_of_lt_of_le (hi.known w g (.inr (.inr hg))) hc
  · intro g hg
    exact hfib g fun h => hg (h ▸ rfl)
  · intro g hg v hv hv'
    cases hg
    refine halone v ?_ hv hv'
    exact lt_threads hi.unstarted (Phase.ne_ended_of_fiber hv')
  · intro g hg
    rw [hself] at hg
    exact hp.symm.trans hg
  · intro g hg hended
    cases hg
    rcases hfibf with heq | hfalse
    · rw [finished_congr heq]
      exact hi.state f (heq ▸ hended)
    · rw [hfalse] at hended
      cases hended
  · intro g hg
    rw [hself] at hg
    cases hp.symm.trans (Phase.fiber_of_uses hg)
    exact huses hg
  · intro v g hid hended hor
    rw [idleFiber_kept hw v] at hid
    rcases hor with hg | ⟨rfl, hne⟩
    · cases hg
      rcases hfibf with heq | hfalse
      · rw [heq] at hended ⊢
        exact hi.idle v f hid hended
      · rw [hfalse] at hended
        cases hended
    · exact absurd hid hne

/-- The worker goes on without a fiber. -/
theorem Owned.quiet (hi : s.Owned) (hnot : (s.workers w).phase ≠ .ended)
    (hw : s'.workers = (s.goto w p).workers) (hq : ∀ ft ∈ s'.queue, ft ∈ s.queue)
    (hc : s'.created = s.created) (ht : s'.threads = s.threads) (hfib : s'.fibers = s.fibers)
    (hp : p.fiber = none) : s'.Owned := by
  have hself : s'.workers w = { s.workers w with phase := p } := worker_self hw
  have hother : ∀ v, v ≠ w → s'.workers v = s.workers v := fun v => worker_other hw
  refine hi.touch (w := w) (g := none)
    ⟨ht ▸ lt_threads hi.unstarted hnot, Nat.le_of_eq ht.symm, Nat.le_of_eq hc.symm, hother, ?_, ?_,
      fun f _ => by rw [hfib], nofun, ?_, nofun, ?_, ?_⟩
  · intro ft hft g hg
    exact hc ▸ hi.queued ft (hq ft hft) g hg
  · rintro g (hg | hg)
    · cases hg
    · rw [hself] at hg
      exact hc ▸ hi.known w g (.inr hg)
  · intro g hg
    rw [hself, hp] at hg
    cases hg
  · intro g hg
    rw [hself] at hg
    rw [Phase.fiber_of_uses hg] at hp
    cases hp
  · rintro v g hid - (hg | ⟨rfl, hne⟩)
    · cases hg
    · rw [hself] at hid
      exact absurd hid hne

/-- The same when the fiber changes and has not ended. -/
theorem Owned.alive {c : Option Nat} (hi : s.Owned) (hf : (s.workers w).phase.fiber = some f)
    (hp : p.fiber = some f ∨ p.fiber = none) (hcb : c = (s.workers w).cbFiber ∨ c = none)
    (hw : s'.workers = (s.setWorker w ⟨p, c, (s.workers w).idleFiber⟩).workers)
    (hq : ∀ ft ∈ s'.queue, ft ∈ s.queue ∨ ft.fiber = some f) (hc : s'.created = s.created)
    (ht : s'.threads = s.threads) (hfib : ∀ g, g ≠ f → s'.fibers g = s.fibers g)
    (hended : (s'.fibers f).ended = false) : s'.Owned := by
  refine hi.advance hf hp hcb hw hq hc ht hfib ?_ (fun _ => hended) ?_
  · intro h
    rw [hended] at h
    cases h
  · intro v _ h
    rw [hended] at h
    cases h

theorem Owned.not_ended (hi : s.Owned) (hf : s.finished f = false) :
    (s.fibers f).ended = false := by
  by_contra hended
  rw [hi.state f (Bool.not_eq_false _ ▸ hended)] at hf
  cases hf

/-- A step of a worker that is in order keeps the invariant. -/
theorem work_owned (hi : s.Owned) (hg : s.Orderly (.work w)) (hs : s.work w = some s') :
    s'.Owned := by
  have hg' : ∀ f, s.turnsTo w = some f → ∀ v < s.threads, v ≠ w →
      (s.workers v).phase.fiber ≠ some f := fun f hf => hg f hf
  cases work_cases hs with
  | lock h hm => exact hi.quiet (by simp [h]) rfl (fun _ => id) rfl rfl rfl rfl
  | scanned h hq => exact hi.quiet (by simp [h]) rfl (fun _ => id) rfl rfl rfl rfl
  | skip h hq ht tickleMe => exact hi.quiet (by simp [h]) rfl (fun _ => id) rfl rfl rfl rfl
  | @take i _ ft h hq ht tickleMe =>
    have hnot : (s.workers w).phase ≠ .ended := by simp [h]
    have hmem : ∀ e ∈ s.queue.eraseIdx i, e ∈ s.queue := fun e => List.mem_of_mem_eraseIdx
    cases hft : ft.fiber with
    | none => exact hi.quiet (p := .taken ft tickleMe) hnot rfl hmem rfl rfl rfl hft
    | some f =>
      have hturn : s.turnsTo w = some f := by simp [turnsTo, h, hq, ht, hft]
      have hknown := hi.queued ft (List.mem_of_getElem? hq) f hft
      exact hi.acquire (p := .taken ft tickleMe) hnot (.inl rfl) rfl hmem (Nat.le_refl _) hknown rfl
        hft (hg' f hturn) (fun _ _ => rfl) (.inl rfl) (by simp [Phase.uses])
  | @discard ft _ f h ht hf =>
    have hfiber : (s.workers w).phase.fiber = some f := by
      simp [h, Phase.fiber, FiberAndThread.fiber, ht]
    exact hi.keep hfiber (.inr rfl) (.inl rfl) rfl (fun _ => .inl) rfl rfl rfl
      (by simp [Phase.uses])
  | @resume ft _ f h ht hf =>
    have hfiber : (s.workers w).phase.fiber = some f := by
      simp [h, Phase.fiber, FiberAndThread.fiber, ht]
    refine hi.keep hfiber (.inl rfl) (.inl rfl) rfl (fun _ => .inl) rfl rfl rfl fun _ => ?_
    -- a fiber that has ended is in `TERM` or `EXCEPT`, and is discarded
    exact hi.not_ended hf
  | @reuse ft _ _ c h ht hc hf =>
    have hturn : s.turnsTo w = some c := by
      obtain ⟨task, thread⟩ := ft
      cases ht
      simp [turnsTo, h, hc]
    exact hi.acquire (by simp [h]) (.inl rfl) rfl (fun _ => id) (Nat.le_refl _)
      (hi.known w c (.inr (.inl hc))) rfl rfl (hg' c hturn) (fun g hne => by simp [hne])
      (.inr (by simp [Fiber.init])) (fun _ => by simp [Fiber.init])
  | @fresh ft _ _ h ht hc =>
    have hended := hi.fresh s.created (Nat.le_refl _)
    refine hi.acquire (f := s.created) (by simp [h]) (.inr rfl) rfl (fun _ => id)
      (Nat.le_succ _) (Nat.lt_succ_self _) rfl rfl ?_ (fun _ _ => rfl) (.inl rfl) (fun _ => hended)
    intro v _ _ hv
    exact Nat.lt_irrefl _ (hi.known v _ (.inl hv))
  | @exit _ f h hid hf => exact hi.quiet (by simp [h]) rfl (fun _ => id) rfl rfl rfl rfl
  | @idle _ f h hid hf =>
    have hturn : s.turnsTo w = some f := by simp [turnsTo, h, hid, hf]
    refine hi.acquire (by simp [h]) (.inl rfl) rfl (fun _ => id) (Nat.le_refl _)
      (hi.known w f (.inr (.inr hid))) rfl rfl (hg' f hturn) (fun _ _ => rfl) (.inl rfl) fun _ => ?_
    by_contra hended
    exact hf (hi.idle w f hid (Bool.not_eq_false _ ▸ hended))
  | @enter f kind h hf =>
    have hfiber : (s.workers w).phase.fiber = some f := by rw [h]; rfl
    have huses := hi.uses w f (by rw [h]; rfl)
    exact hi.keep hfiber (.inl rfl) (.inl rfl) rfl (fun _ => .inl) rfl rfl rfl fun _ => huses
  | @entered f kind h =>
    have hfiber : (s.workers w).phase.fiber = some f := by rw [h]; rfl
    have huses := hi.uses w f (by rw [h]; rfl)
    exact hi.alive hfiber (.inl rfl) (.inl rfl) rfl (fun _ => .inl) rfl rfl
      (fun g hne => by simp [setState, hne]) (by simp [setState, huses])
  | @switching f kind h =>
    have hfiber : (s.workers w).phase.fiber = some f := by rw [h]; rfl
    have huses := hi.uses w f (by rw [h]; rfl)
    exact hi.alive hfiber (.inl rfl) (.inl rfl) rfl (fun _ => .inl) rfl rfl
      (fun g hne => by simp [hne]) (by simp [huses])
  | @leaving f kind h =>
    refine hi.advance (f := f) (by rw [h]; rfl) (.inl rfl) (.inl rfl) rfl (fun _ => .inl) rfl rfl
      (fun g hne => by simp [hne]) ?_ (by simp [Phase.uses]) ?_
    · simpa [finished] using hi.state f
    · intro v hv
      simpa using hi.idle v f hv
  | @returnedIdle f h =>
    exact hi.keep (f := f) (by rw [h]; rfl) (.inl rfl) (.inl rfl) rfl (fun _ => .inl) rfl rfl rfl
      (by simp [Phase.uses])
  | @returned f kind h hk =>
    exact hi.keep (f := f) (by rw [h]; rfl) (.inl rfl) (.inl rfl) rfl (fun _ => .inl) rfl rfl rfl
      (by simp [Phase.uses])
  | @settleReady f kind h hk hf =>
    have hended := hi.not_ended (f := f) (by simp [finished, hf])
    exact hi.keep (f := f) (by rw [h]; rfl) (.inl rfl) (.inl rfl) rfl (fun _ => .inl) rfl rfl rfl
      fun _ => hended
  | @settleReset f h hf =>
    exact hi.alive (f := f) (by rw [h]; rfl) (.inr rfl) (.inl rfl) rfl (fun _ => .inl) rfl rfl
      (fun g hne => by simp [hne]) (by simp [Fiber.init])
  | @settleDone f kind h hk hf =>
    exact hi.keep (f := f) (by rw [h]; rfl) (.inr rfl) (.inl rfl) rfl (fun _ => .inl) rfl rfl rfl
      (by simp [Phase.uses])
  | @settleHold f kind h hf hr =>
    exact hi.keep (f := f) (by rw [h]; rfl) (.inl rfl) (.inl rfl) rfl (fun _ => .inl) rfl rfl rfl
      fun _ => hi.not_ended hf
  | @requeue f kind h hm =>
    refine hi.keep (f := f) (by rw [h]; rfl) (.inr rfl) ((s.cb_finish w kind).imp_right And.right)
      rfl ?_ rfl rfl rfl (by simp [Phase.uses])
    intro ft hft
    rcases List.mem_append.mp hft with hold | hnew
    · exact .inl hold
    · rw [List.mem_singleton.mp hnew]
      exact .inr rfl
  | @hold f kind h =>
    have huses := hi.uses w f (by rw [h]; rfl)
    exact hi.alive (f := f) (by rw [h]; rfl) (.inr rfl) ((s.cb_finish w kind).imp_right And.right)
      rfl (fun _ => .inl) rfl rfl (fun g hne => by simp [finish, setState, hne])
      (by simp [finish, setState, huses])

/-- What a running fiber does: it goes on later, or it has ended in a terminal state. -/
theorem leave_owned {next : State → State} {ended : Bool} (hi : s.Owned)
    (hs : s.leave w next ended = some s')
    (hnext : ended = true → ∀ state, next state = .TERM ∨ next state = .EXCEPT)
    (hidle : ended = true → ∀ f, s.runs w = some f → ∀ v < s.threads,
      (s.workers v).idleFiber = some f → ∀ state, next state = .TERM) : s'.Owned := by
  obtain ⟨f, kind, hp, -, rfl⟩ := leave_cases hs
  refine hi.advance (f := f) (by rw [hp]; rfl) (.inl rfl) (.inl rfl) rfl (fun _ => .inl) rfl rfl
    (fun g hne => by simp [hne]) ?_ nofun ?_
  · intro hended
    have hended' : ended = true := by simpa using hended
    simpa [finished] using hnext hended' (s.fibers f).state
  · intro v hv hended
    have hended' : ended = true := by simpa using hended
    have hlt : v < s.threads := by
      by_contra hge
      rw [hi.unstarted v (Nat.le_of_not_lt hge)] at hv
      cases hv
    simpa using hidle hended' f (by rw [runs, hp]) v hlt hv (s.fibers f).state

/-- A new worker has an idle fiber of its own. -/
theorem spawn_owned (hi : s.Owned) (hs : s.next .spawn = some s') : s'.Owned := by
  cases hs
  have hended := hi.fresh s.created (Nat.le_refl _)
  refine hi.touch (w := s.threads) (g := none)
    ⟨Nat.lt_succ_self _, Nat.le_succ _, Nat.le_succ _, fun v hv => by simp [hv], ?_, ?_,
      fun _ _ => rfl, nofun, ?_, nofun, ?_, ?_⟩
  · intro ft hft f hf
    exact Nat.lt_succ_of_lt (hi.queued ft hft f hf)
  · rintro f (hf | hf | hf)
    · cases hf
    · simp at hf
    · simp only [workers_setWorker, if_true, Option.some.injEq] at hf
      rw [← hf]
      exact Nat.lt_succ_self _
  · intro f hf
    simp [Phase.fiber] at hf
  · intro f hf
    simp [Phase.uses] at hf
  · rintro v f hid hended' (hf | ⟨rfl, -⟩)
    · cases hf
    · simp only [workers_setWorker, if_true, Option.some.injEq] at hid
      subst hid
      have : (s.fibers s.created).ended = true := hended'
      rw [hended] at this
      cases this

/-- What does not touch a worker or a fiber keeps the invariant. -/
theorem Owned.congr (hi : s.Owned) (hw : s'.workers = s.workers) (hf : s'.fibers = s.fibers)
    (ht : s'.threads = s.threads) (hc : s.created ≤ s'.created)
    (hq : ∀ ft ∈ s'.queue, ∀ f, ft.fiber = some f → f < s'.created) : s'.Owned := by
  refine ⟨?_, ?_, hq, ?_, ?_, ?_, ?_, ?_⟩
  · rw [hw]
    exact hi.unique
  · intro w f h
    rw [hw] at h
    exact Nat.lt_of_lt_of_le (hi.known w f h) hc
  · intro f h
    rw [hf]
    exact hi.fresh f (Nat.le_trans hc h)
  · rw [hw, ht]
    exact hi.unstarted
  · intro f
    rw [finished_congr (congrFun hf f), hf]
    exact hi.state f
  · rw [hw, hf]
    exact hi.uses
  · rw [hw, hf]
    exact hi.idle

/-- Every step that is in order keeps the invariant. -/
theorem next_owned {l : Label} (hi : s.Owned) (hg : s.Orderly l) (hs : s.next l = some s') :
    s'.Owned := by
  cases l with
  | create =>
    cases hs
    exact hi.congr rfl rfl rfl (Nat.le_succ _) fun ft hft f hf =>
      Nat.lt_succ_of_lt (hi.queued ft hft f hf)
  | spawn => exact spawn_owned hi hs
  | schedule task thread =>
    obtain ⟨hknown, rfl⟩ := schedule_cases hs
    refine hi.congr rfl rfl rfl (Nat.le_refl _) fun ft hft f hf => ?_
    rcases List.mem_append.mp hft with hold | hnew
    · exact hi.queued ft hold f hf
    · rw [List.mem_singleton.mp hnew] at hf
      cases task with
      | fiber g =>
        cases hf
        exact of_decide_eq_true hknown
      | cb g => cases hf
  | work w => exact work_owned hi hg hs
  | yieldToReady w =>
    have hs' : s.leave w (fun _ => .READY) false = some s' := hs
    exact leave_owned hi hs' nofun nofun
  | yieldToHold w =>
    have hs' : s.leave w id false = some s' := hs
    exact leave_owned hi hs' nofun nofun
  | finish w outcome =>
    obtain ⟨hstd, hidle⟩ := hg
    have hs' : s.leave w (fun state => outcome.state state) true = some s' := hs
    refine leave_owned hi hs' ?_ ?_
    · intro _ state
      cases outcome with
      | returned => exact .inl rfl
      | otherException => exact .inr rfl
      | stdException => exact absurd rfl hstd
    · intro _ f hf v hv hid state
      rw [hidle f hf v hv hid]
      rfl
  | setAutoStop | setStopping b =>
    cases hs
    exact hi.congr rfl rfl rfl (Nat.le_refl _) hi.queued
  | isStopping =>
    rw [isStopping_cases hs]
    exact hi

end steps

/-! ## Runs -/

theorem init_owned : init.Owned :=
  ⟨nofun, fun _ _ h => by simp [init, Phase.fiber] at h, nofun, fun _ _ => rfl, fun _ _ => rfl,
    nofun, nofun, nofun⟩

theorem Owned.terminal {s : Scheduler} (hi : s.Owned) : s.Terminal := by
  refine ⟨?_, ?_, ?_, ?_⟩
  · intro f hended
    simpa [finished] using hi.state f hended
  · rintro w f kind (h | h | h | h) <;> exact hi.uses w f (by rw [h]; rfl)
  · rintro w f kind (h | h) <;> exact hi.uses w f (by rw [h]; rfl)
  · intro w ft tickleMe c _ hft hc hended
    have hfin := hi.state c hended
    obtain ⟨task, thread⟩ := ft
    cases task with
    | fiber f => cases hft
    | cb f => simp [start, hc, hfin]

end Scheduler

open Scheduler in
/-- In every run in which no callback ends with a `std::exception` and a worker turns to a
fiber only while no other worker deals with it, a fiber that has ended is terminal. -/
theorem finished_terminal (labels : List Label) {os : List Bool} {s : Scheduler}
    (horder : Along step Orderly init labels) (hrun : run step init labels = some (os, s)) :
    s.Terminal := by
  refine Owned.terminal (run_invariant_along (I := Owned) ?_ labels init_owned horder hrun)
  intro s l o s' hi hg hs
  obtain ⟨s1, hnext, heq⟩ := Option.map_eq_some_iff.mp hs
  cases heq
  exact next_owned hi hg hnext

open Scheduler in
/-- A callback throws something that is not a `std::exception`; its fiber is reset and takes
the next callback, which returns. -/
theorem finished_terminal_callbacks :
    ∃ os s, run step init ([.spawn, .schedule (.cb 7) none, .schedule (.cb 8) none]
        ++ List.replicate 6 (.work 0) ++ [.finish 0 .otherException] ++ List.replicate 9 (.work 0)
        ++ [.finish 0 .returned, .work 0]) = some (os, s)
      ∧ (s.fibers 1).ended = true ∧ s.Terminal := by
  have hended : (run step init ([.spawn, .schedule (.cb 7) none, .schedule (.cb 8) none]
      ++ List.replicate 6 (.work 0) ++ [.finish 0 .otherException] ++ List.replicate 9 (.work 0)
      ++ [.finish 0 .returned, .work 0])).map (fun r => (r.2.fibers 1).ended) = some true := by
    decide +kernel
  obtain ⟨⟨os, s⟩, hrun, hf⟩ := Option.map_eq_some_iff.mp hended
  exact ⟨os, s, hrun, hf, finished_terminal _ (by decide +kernel) hrun⟩

open Scheduler in
/-- The callback of a fiber throws a `std::exception`: the fiber has ended and is put on
hold. -/
theorem ended_on_hold :
    ¬ ∀ (labels : List Label) (os : List Bool) (s : Scheduler),
      run step init labels = some (os, s) → s.Terminal := by
  intro hall
  have hhold : (run step init ([.create, .spawn, .schedule (.fiber 0) none]
      ++ List.replicate 6 (.work 0) ++ [.finish 0 .stdException] ++ List.replicate 4 (.work 0))).map
      (fun r => r.2.fibers 0) = some ⟨.HOLD, true, true⟩ := by
    decide +kernel
  obtain ⟨⟨os, s⟩, hrun, hf⟩ := Option.map_eq_some_iff.mp hhold
  have hstate := (hall _ os s hrun).state 0
  rw [show s.fibers 0 = ⟨.HOLD, true, true⟩ from hf] at hstate
  exact absurd (hstate rfl) (by decide)

/-- Two workers have taken one fiber from the queue; one of them lets it end, and the other
is about to resume it. -/
example : (run step Scheduler.init ([.create, .spawn, .spawn, .schedule (.fiber 0) none,
      .schedule (.fiber 0) none] ++ List.replicate 2 (.work 0) ++ List.replicate 3 (.work 1)
      ++ List.replicate 4 (.work 0) ++ [.finish 0 .returned])).map
      (fun r => ((r.2.workers 1).phase, r.2.fibers 0))
    = some (.enter 0 .queued, ⟨.TERM, false, true⟩) := by
  decide +kernel

end Fibers

end HrServer
