/-
HrServer.Fibers.SingleRun — no fiber runs on two workers at once.

The scan of the queue passes over fibers in the state `EXEC`. That is not
enough: a fiber that is queued twice can be taken by two workers before
either of them stores `EXEC`, and `YieldToReady` stores `READY` before the
context is saved, so that a fiber with an entry in the queue is resumed
from a context that is not there yet (`resumed_before_saved`).

`swapIn_alone` says that nothing of the kind happens when a fiber has at
most one wake-up under way: it is scheduled only when it is not queued and
either executes or is held by no worker, and it yields with `READY` or
ends only when it is not queued. `Role` says how a worker holds a fiber,
and `Fits` what the fiber then looks like. Each step of a worker changes
its own record and one fiber, so the invariant is kept when that fiber is
held by nobody else (`Inv.move`).
-/
import HrServer.Fibers.CoreTheorems

namespace HrServer

open Lib

namespace Fibers

/-! ## Holding a fiber -/

/-- How a worker holds a fiber. -/
inductive Role where
  | away
  /-- On the way from the queue to `EXEC`. -/
  | pending
  | switching
  | running
  | leaving
  /-- Back from `swapIn`. -/
  | back
  | requeue
  /-- The worker's idle or callback fiber, at rest. -/
  | spare
  deriving DecidableEq

/-- The fiber a worker deals with in a phase. -/
def Phase.deals : Phase → Option (Nat × Kind × Role)
  | .loop | .scan _ _ | .noTask _ | .ended => none
  | .taken ft _ => ft.fiber.map (·, .queued, .pending)
  | .enter f kind | .entered f kind => some (f, kind, .pending)
  | .switching f kind => some (f, kind, .switching)
  | .running f kind => some (f, kind, .running)
  | .leaving f kind => some (f, kind, .leaving)
  | .returned f kind | .settle f kind | .hold f kind => some (f, kind, .back)
  | .requeue f kind => some (f, kind, .requeue)

def Worker.rest (w : Worker) (f : Nat) : Role :=
  if w.cbFiber = some f ∨ w.idleFiber = some f then .spare else .away

def Worker.role (w : Worker) (f : Nat) : Role :=
  match w.phase.deals with
  | some (g, _, role) => if g = f then role else w.rest f
  | none => w.rest f

/-- The callback and the idle fiber are two, and the kind of a `swapIn` says which of them
it is about. An idle fiber is not put back into the queue. -/
def Worker.Consistent (w : Worker) : Prop :=
  (∀ f, w.cbFiber = some f → w.idleFiber ≠ some f) ∧ ∀ f kind role,
    w.phase.deals = some (f, kind, role) →
    (w.cbFiber = some f ↔ kind = .callback) ∧ (w.idleFiber = some f ↔ kind = .idle)
      ∧ (role = .requeue → kind ≠ .idle)

/-- A fiber that is held in a role, with `n` entries in the queue. -/
def Fits (fiber : Fiber) (n : Nat) : Role → Prop
  | .away => True
  | .pending | .spare => fiber.state ≠ .EXEC ∧ fiber.saved = true ∧ n = 0
  | .switching => fiber.state = .EXEC ∧ fiber.saved = true
  | .running => fiber.state = .EXEC
  | .leaving => fiber.state = .EXEC ∨ n = 0
  | .back => (fiber.state = .EXEC ∨ n = 0) ∧ fiber.saved = true
  | .requeue => fiber.state ≠ .EXEC ∧ fiber.saved = true ∧ n = 0

namespace Scheduler

/-- The number of entries for a fiber. -/
def entries (s : Scheduler) (f : Nat) : Nat := s.queue.countP fun ft => ft.fiber = some f

def role (s : Scheduler) (w f : Nat) : Role := (s.workers w).role f

structure Inv (s : Scheduler) : Prop where
  unique : ∀ v w f, s.role v f ≠ .away → s.role w f ≠ .away → v = w
  fits : ∀ w f, Fits (s.fibers f) (s.entries f) (s.role w f)
  free : ∀ f, (∀ w, s.role w f = .away) → (s.fibers f).state ≠ .EXEC ∧ (s.fibers f).saved = true
  once : ∀ f, s.entries f ≤ 1
  idle : ∀ w f, (s.workers w).idleFiber = some f → s.entries f = 0
  consistent : ∀ w, (s.workers w).Consistent
  fresh : ∀ f, s.created ≤ f → s.entries f = 0 ∧ s.fibers f = .init ∧ ∀ w, s.role w f = .away
  unstarted : ∀ w, s.threads ≤ w → s.workers w = ⟨.ended, none, none⟩

/-! ## Steps of one worker -/

/-- A worker goes from `s` to `s'` and touches no fiber but `g`, which no other worker
holds. -/
structure Moved (s s' : Scheduler) (w g : Nat) : Prop where
  started : w < s'.threads
  threads : s.threads ≤ s'.threads
  created : s.created ≤ s'.created
  known : g < s'.created
  others : ∀ v, v ≠ w → s'.workers v = s.workers v
  idleFiber : ∀ f, f ≠ g → (s'.workers w).idleFiber = some f → (s.workers w).idleFiber = some f
  consistent : (s'.workers w).Consistent
  role : ∀ f, f ≠ g → s'.role w f = s.role w f
  fibers : ∀ f, f ≠ g → s'.fibers f = s.fibers f
  entries : ∀ f, f ≠ g → s'.entries f = s.entries f
  alone : ∀ v, v ≠ w → s.role v g = .away
  fits : Fits (s'.fibers g) (s'.entries g) (s'.role w g)
  free : s'.role w g = .away → (s'.fibers g).state ≠ .EXEC ∧ (s'.fibers g).saved = true
  once : s'.entries g ≤ 1
  idle : (s'.workers w).idleFiber = some g → s'.entries g = 0

theorem deals_ne_away {p : Phase} {f : Nat} {kind : Kind} {role : Role}
    (h : p.deals = some (f, kind, role)) : role ≠ .away := by
  cases p with
  | loop | scan | noTask | ended => cases h
  | taken ft tickleMe =>
    simp only [Phase.deals, Option.map_eq_some_iff] at h
    obtain ⟨g, -, h⟩ := h
    cases h
    decide
  | enter | entered | switching | running | leaving | returned | settle | requeue | hold =>
    cases h
    decide

/-- A worker always holds its idle fiber. -/
theorem role_idle {w : Worker} {f : Nat} (h : w.idleFiber = some f) : w.role f ≠ .away := by
  unfold Worker.role
  split
  · rename_i g kind role hd
    split
    · exact deals_ne_away hd
    · rw [Worker.rest, if_pos (.inr h)]
      decide
  · rw [Worker.rest, if_pos (.inr h)]
    decide

/-- The roles of the other workers stay, and so does every role towards another fiber. -/
theorem Moved.role_eq {s s' : Scheduler} {w g : Nat} (hm : Moved s s' w g) {v f : Nat}
    (h : v ≠ w ∨ f ≠ g) : s'.role v f = s.role v f := by
  by_cases hv : v = w
  · rw [hv]
    exact hm.role f (h.resolve_left (not_not.mpr hv))
  · rw [Scheduler.role, hm.others v hv]
    rfl

/-- A step of a worker keeps the invariant when it leaves the fiber it touches in order. -/
theorem Inv.move {s s' : Scheduler} {w g : Nat} (hi : s.Inv) (hm : Moved s s' w g) : s'.Inv := by
  refine ⟨?_, ?_, ?_, ?_, ?_, ?_, ?_, ?_⟩
  · intro u v f hu hv
    by_cases hf : f = g
    · subst hf
      have hone : ∀ u, s'.role u f ≠ .away → u = w := by
        intro u hu
        by_contra hne
        rw [hm.role_eq (.inl hne)] at hu
        exact hu (hm.alone u hne)
      rw [hone u hu, hone v hv]
    · rw [hm.role_eq (.inr hf)] at hu hv
      exact hi.unique u v f hu hv
  · intro v f
    by_cases hv : v = w
    · subst hv
      by_cases hf : f = g
      · subst hf
        exact hm.fits
      · rw [hm.role f hf, hm.fibers f hf, hm.entries f hf]
        exact hi.fits v f
    · rw [hm.role_eq (.inl hv)]
      by_cases hf : f = g
      · subst hf
        rw [hm.alone v hv]
        trivial
      · rw [hm.fibers f hf, hm.entries f hf]
        exact hi.fits v f
  · intro f hall
    by_cases hf : f = g
    · subst hf
      exact hm.free (hall w)
    · rw [hm.fibers f hf]
      refine hi.free f fun v => ?_
      rw [← hall v]
      exact (hm.role_eq (.inr hf)).symm
  · intro f
    by_cases hf : f = g
    · subst hf
      exact hm.once
    · rw [hm.entries f hf]
      exact hi.once f
  · intro v f hid
    by_cases hf : f = g
    · subst hf
      by_cases hv : v = w
      · exact hm.idle (hv ▸ hid)
      · rw [hm.others v hv] at hid
        exact absurd (hm.alone v hv) (role_idle hid)
    · rw [hm.entries f hf]
      by_cases hv : v = w
      · exact hi.idle w f (hm.idleFiber f hf (hv ▸ hid))
      · rw [hm.others v hv] at hid
        exact hi.idle v f hid
  · intro v
    by_cases hv : v = w
    · rw [hv]
      exact hm.consistent
    · rw [hm.others v hv]
      exact hi.consistent v
  · intro f hf
    have hne : f ≠ g := by
      have := hm.known
      omega
    obtain ⟨h1, h2, h3⟩ := hi.fresh f (Nat.le_trans hm.created hf)
    rw [hm.entries f hne, hm.fibers f hne]
    refine ⟨h1, h2, fun v => ?_⟩
    rw [hm.role_eq (.inr hne)]
    exact h3 v
  · intro v hv
    have hne : v ≠ w := by
      have := hm.started
      omega
    rw [hm.others v hne]
    exact hi.unstarted v (Nat.le_trans hm.threads hv)

/-- What does not touch a fiber, the queue or a role keeps the invariant. -/
theorem Inv.congr {s s' : Scheduler} (hi : s.Inv) (hr : ∀ w f, s'.role w f = s.role w f)
    (hf : s'.fibers = s.fibers) (he : ∀ f, s'.entries f = s.entries f)
    (hc : s.created ≤ s'.created)
    (hid : ∀ w, (s'.workers w).idleFiber = (s.workers w).idleFiber)
    (hcons : ∀ w, (s'.workers w).Consistent)
    (hun : ∀ w, s'.threads ≤ w → s'.workers w = ⟨.ended, none, none⟩) : s'.Inv := by
  refine ⟨?_, ?_, ?_, ?_, ?_, hcons, ?_, hun⟩
  · intro v w f
    rw [hr, hr]
    exact hi.unique v w f
  · intro w f
    rw [hr, hf, he]
    exact hi.fits w f
  · intro f hall
    rw [hf]
    exact hi.free f fun w => by rw [← hr, hall w]
  · intro f
    rw [he]
    exact hi.once f
  · intro w f
    rw [hid, he]
    exact hi.idle w f
  · intro f hle
    rw [he, hf]
    obtain ⟨h1, h2, h3⟩ := hi.fresh f (Nat.le_trans hc hle)
    exact ⟨h1, h2, fun w => by rw [hr, h3 w]⟩

section steps

variable {s s' : Scheduler} {w g : Nat} {kind : Kind} {r q : Role} {p : Phase}

theorem phase_ne_ended (hd : p.deals = some (g, kind, r)) : p ≠ .ended := by
  rintro rfl
  cases hd

/-- The role of the fiber that a worker deals with. -/
theorem role_deals {worker : Worker} (hd : worker.phase.deals = some (g, kind, r)) :
    worker.role g = r := by
  rw [Worker.role, hd]
  exact if_pos rfl

theorem role_other {worker : Worker} (hd : worker.phase.deals = some (g, kind, r)) {f : Nat}
    (hf : f ≠ g) : worker.role f = worker.rest f := by
  rw [Worker.role, hd]
  exact if_neg (Ne.symm hf)

theorem role_none {worker : Worker} (hd : worker.phase.deals = none) (f : Nat) :
    worker.role f = worker.rest f := by
  rw [Worker.role, hd]

theorem rest_congr {v w : Worker} {f : Nat} (hcb : v.cbFiber = some f ↔ w.cbFiber = some f)
    (hid : v.idleFiber = some f ↔ w.idleFiber = some f) : v.rest f = w.rest f := by
  simp only [Worker.rest, hcb, hid]

/-- No other worker holds the fiber that a worker deals with. -/
theorem Inv.alone (hi : s.Inv) (hd : (s.workers w).phase.deals = some (g, kind, r)) (v : Nat)
    (hv : v ≠ w) : s.role v g = .away := by
  by_contra hne
  have hw : s.role w g ≠ .away := by
    rw [Scheduler.role, role_deals hd]
    exact deals_ne_away hd
  exact hv (hi.unique v w g hne hw)

theorem Inv.fits_deals (hi : s.Inv) (hd : (s.workers w).phase.deals = some (g, kind, r)) :
    Fits (s.fibers g) (s.entries g) r := by
  have hfits := hi.fits w g
  rwa [Scheduler.role, role_deals hd] at hfits

theorem Inv.known (hi : s.Inv) (hd : (s.workers w).phase.deals = some (g, kind, r)) :
    g < s.created := by
  by_contra hge
  have := (hi.fresh g (Nat.le_of_not_lt hge)).2.2 w
  rw [Scheduler.role, role_deals hd] at this
  exact deals_ne_away hd this

theorem entries_of_queue (hq : s'.queue = s.queue) (f : Nat) : s'.entries f = s.entries f := by
  rw [entries, hq]
  rfl

/-- The worker goes on with the fiber it deals with. -/
theorem Inv.advance (hi : s.Inv) (hd : (s.workers w).phase.deals = some (g, kind, r))
    (hd' : p.deals = some (g, kind, q)) (hw : s'.workers = (s.goto w p).workers)
    (hq : s'.queue = s.queue) (hc : s'.created = s.created) (ht : s'.threads = s.threads)
    (hf : ∀ f, f ≠ g → s'.fibers f = s.fibers f) (hfit : Fits (s'.fibers g) (s.entries g) q)
    (hreq : q = .requeue → kind ≠ .idle) : s'.Inv := by
  have hself : s'.workers w = { s.workers w with phase := p } := worker_self hw
  have hrole : s'.role w g = q := by
    rw [Scheduler.role, hself]
    exact role_deals hd'
  refine hi.move (w := w) (g := g) ?_
  refine ⟨ht ▸ lt_threads hi.unstarted (phase_ne_ended hd), Nat.le_of_eq ht.symm,
    Nat.le_of_eq hc.symm,
    hc ▸ hi.known hd, ?_, ?_, ?_, ?_, hf, fun f _ => entries_of_queue hq f, hi.alone hd, ?_, ?_,
    ?_, ?_⟩
  · exact fun v hv => worker_other hw hv
  · rw [hself]
    exact fun f _ h => h
  · obtain ⟨h1, h2⟩ := hi.consistent w
    rw [hself]
    refine ⟨h1, fun f k role hf => ?_⟩
    cases hd'.symm.trans hf
    obtain ⟨hk1, hk2, -⟩ := h2 g kind r hd
    exact ⟨hk1, hk2, hreq⟩
  · intro f hf
    rw [Scheduler.role, Scheduler.role, role_other hd hf, hself]
    exact role_other hd' hf
  · rw [hrole, entries_of_queue hq]
    exact hfit
  · intro haway
    rw [hrole] at haway
    exact absurd haway (deals_ne_away hd')
  · rw [entries_of_queue hq]
    exact hi.once g
  · rw [hself, entries_of_queue hq]
    exact hi.idle w g

/-- The worker goes on and holds the fiber as before. -/
theorem Inv.keep (hi : s.Inv) (hd : (s.workers w).phase.deals = some (g, kind, r))
    (hd' : p.deals = some (g, kind, r)) (hreq : r ≠ .requeue)
    (hw : s'.workers = (s.goto w p).workers) (hq : s'.queue = s.queue)
    (hc : s'.created = s.created) (ht : s'.threads = s.threads) (hf : s'.fibers = s.fibers) :
    s'.Inv := by
  refine hi.advance hd hd' hw hq hc ht (fun f _ => by rw [hf]) ?_ (fun h => absurd h hreq)
  rw [hf]
  exact hi.fits_deals hd

/-- The worker is done with the fiber it deals with; it may forget its callback fiber. -/
theorem Inv.release {c : Option Nat} (hi : s.Inv)
    (hd : (s.workers w).phase.deals = some (g, kind, r))
    (hcb : c = (s.workers w).cbFiber ∨ kind = .callback ∧ c = none)
    (hw : s'.workers = (s.setWorker w ⟨.loop, c, (s.workers w).idleFiber⟩).workers)
    (hc : s'.created = s.created) (ht : s'.threads = s.threads)
    (hf : ∀ f, f ≠ g → s'.fibers f = s.fibers f)
    (he : ∀ f, f ≠ g → s'.entries f = s.entries f) (hstate : (s'.fibers g).state ≠ .EXEC)
    (hsaved : (s'.fibers g).saved = true) (hone : s'.entries g ≤ 1)
    (hspare : kind = .idle ∨ c = some g → s'.entries g = 0) : s'.Inv := by
  have hself : s'.workers w = ⟨.loop, c, (s.workers w).idleFiber⟩ := worker_self hw
  obtain ⟨h1, h2⟩ := hi.consistent w
  obtain ⟨hk1, hk2, -⟩ := h2 g kind r hd
  have hcb' : ∀ f, f ≠ g → (c = some f ↔ (s.workers w).cbFiber = some f) := by
    intro f hfg
    rcases hcb with hcb | ⟨hk, hcb⟩
    · rw [hcb]
    · rw [hcb, hk1.mpr hk]
      simp [Ne.symm hfg]
  have hrole : ∀ f, s'.role w f = Worker.rest ⟨.loop, c, (s.workers w).idleFiber⟩ f := by
    intro f
    rw [Scheduler.role, hself]
    rfl
  refine hi.move (w := w) (g := g) ?_
  refine ⟨ht ▸ lt_threads hi.unstarted (phase_ne_ended hd), Nat.le_of_eq ht.symm,
    Nat.le_of_eq hc.symm,
    hc ▸ hi.known hd, ?_, ?_, ?_, ?_, hf, he,
    hi.alone hd, ?_, fun _ => ⟨hstate, hsaved⟩, hone, ?_⟩
  · exact fun v hv => worker_other hw hv
  · rw [hself]
    exact fun f _ h => h
  · rw [hself]
    refine ⟨fun f hcf => h1 f ?_, fun f k role hf => by cases hf⟩
    rcases hcb with hcb | ⟨-, hcb⟩
    · rwa [hcb] at hcf
    · rw [hcb] at hcf
      cases hcf
  · intro f hfg
    rw [hrole, Scheduler.role, role_other hd hfg]
    exact rest_congr (hcb' f hfg) Iff.rfl
  · rw [hrole, Worker.rest]
    split
    · rename_i hsp
      refine ⟨hstate, hsaved, hspare ?_⟩
      rcases hsp with hsp | hsp
      · exact .inr hsp
      · exact .inl (hk2.mp hsp)
    · trivial
  · rw [hself]
    exact fun hid => hspare (.inl (hk2.mp hid))

/-- The worker turns to a fiber that no other worker holds. -/
theorem Inv.acquire {c : Option Nat} (hi : s.Inv) (hnot : (s.workers w).phase ≠ .ended)
    (hd : (s.workers w).phase.deals = none) (hd' : p.deals = some (g, kind, .pending))
    (hcb : ∀ f, f ≠ g → (c = some f ↔ (s.workers w).cbFiber = some f))
    (hcons : Worker.Consistent ⟨p, c, (s.workers w).idleFiber⟩)
    (hw : s'.workers = (s.setWorker w ⟨p, c, (s.workers w).idleFiber⟩).workers)
    (hc : s.created ≤ s'.created) (hg : g < s'.created) (ht : s'.threads = s.threads)
    (halone : ∀ v, v ≠ w → s.role v g = .away) (hf : ∀ f, f ≠ g → s'.fibers f = s.fibers f)
    (he : ∀ f, f ≠ g → s'.entries f = s.entries f) (hstate : (s'.fibers g).state ≠ .EXEC)
    (hsaved : (s'.fibers g).saved = true) (hzero : s'.entries g = 0) : s'.Inv := by
  have hself : s'.workers w = ⟨p, c, (s.workers w).idleFiber⟩ := worker_self hw
  have hrole : s'.role w g = .pending := by
    rw [Scheduler.role, hself]
    exact role_deals hd'
  refine hi.move (w := w) (g := g) ?_
  refine ⟨ht ▸ lt_threads hi.unstarted hnot, Nat.le_of_eq ht.symm, hc, hg, ?_,
    by rw [hself]; exact fun f _ h => h, by rw [hself]; exact hcons, ?_, hf, he, halone, ?_, ?_,
    by omega, fun _ => hzero⟩
  · exact fun v hv => worker_other hw hv
  · intro f hfg
    rw [Scheduler.role, Scheduler.role, role_none hd, hself]
    exact (role_other hd' hfg).trans (rest_congr (hcb f hfg) Iff.rfl)
  · rw [hrole]
    exact ⟨hstate, hsaved, hzero⟩
  · intro haway
    rw [hrole] at haway
    cases haway

/-- The worker goes on without a fiber. -/
theorem Inv.quiet (hi : s.Inv) (hnot : (s.workers w).phase ≠ .ended)
    (hd : (s.workers w).phase.deals = none) (hd' : p.deals = none)
    (hw : s'.workers = (s.goto w p).workers) (he : ∀ f, s'.entries f = s.entries f)
    (hc : s'.created = s.created) (ht : s'.threads = s.threads) (hf : s'.fibers = s.fibers) :
    s'.Inv := by
  have hself : s'.workers w = { s.workers w with phase := p } := worker_self hw
  have hother : ∀ v, v ≠ w → s'.workers v = s.workers v := fun v hv => worker_other hw hv
  have hlt := lt_threads hi.unstarted hnot
  refine hi.congr ?_ hf he (Nat.le_of_eq hc.symm) ?_ ?_ ?_
  · intro v f
    by_cases hv : v = w
    · rw [hv, Scheduler.role, Scheduler.role, hself, role_none hd]
      exact role_none hd' f
    · rw [Scheduler.role, hother v hv]
      rfl
  · intro v
    by_cases hv : v = w
    · rw [hv, hself]
    · rw [hother v hv]
  · intro v
    by_cases hv : v = w
    · rw [hv, hself]
      exact ⟨(hi.consistent w).1, fun f k role hf => by rw [hd'] at hf; cases hf⟩
    · rw [hother v hv]
      exact hi.consistent v
  · intro v hv
    rw [ht] at hv
    rw [hother v (by omega)]
    exact hi.unstarted v hv

/-- A fiber in the queue that does not execute is held by nobody. -/
theorem away_of_fits {fiber : Fiber} {n : Nat} (h : Fits fiber n r) (hs : fiber.state ≠ .EXEC)
    (hn : 0 < n) : r = .away := by
  cases r with
  | away => rfl
  | pending | spare | requeue =>
    obtain ⟨-, -, h0⟩ := h
    omega
  | switching => exact absurd h.1 hs
  | running => exact absurd h hs
  | leaving => exact (h.elim hs (by omega)).elim
  | back => exact (h.1.elim hs (by omega)).elim

/-- Taking an entry from the queue. -/
theorem countP_eraseIdx {α : Type} (P : α → Bool) {l : List α} {i : Nat} {a : α}
    (h : l[i]? = some a) :
    l.countP P = (l.eraseIdx i).countP P + if P a then 1 else 0 := by
  have hl : l = l.take i ++ a :: l.drop (i + 1) := by
    conv_lhs => rw [← List.take_append_drop i l, List.drop_eq_getElem?_toList_append, h]
    rfl
  conv_lhs => rw [hl]
  rw [List.eraseIdx_eq_take_drop_succ, List.countP_append, List.countP_append, List.countP_cons]
  omega

theorem spare_of_cb {worker : Worker} (hd : worker.phase.deals = none) {c : Nat}
    (h : worker.cbFiber = some c ∨ worker.idleFiber = some c) : worker.role c = .spare := by
  rw [role_none hd, Worker.rest, if_pos h]

/-- An entry is taken from the queue. -/
theorem take_inv {i : Nat} {tickleMe tickleMe' : Bool} {ft : FiberAndThread} (hi : s.Inv)
    (hp : (s.workers w).phase = .scan i tickleMe) (hft : s.queue[i]? = some ft)
    (htakes : s.takes w ft = true) :
    ({ s with
      queue := s.queue.eraseIdx i
      activeThreadCount := s.activeThreadCount + 1
      mutex := none }.goto w (.taken ft tickleMe')).Inv := by
  have hnot : (s.workers w).phase ≠ .ended := by rw [hp]; exact Phase.noConfusion
  have hd : (s.workers w).phase.deals = none := by rw [hp]; rfl
  have hcount := fun f => countP_eraseIdx (fun e => decide (e.fiber = some f)) hft
  cases hfib : ft.fiber with
  | none =>
    refine hi.quiet (p := .taken ft tickleMe') hnot hd (by rw [Phase.deals, hfib]; rfl) rfl
      (fun f => ?_) rfl rfl rfl
    have := hcount f
    rw [hfib, if_neg (by simp)] at this
    exact this.symm
  | some g =>
    have hstate : (s.fibers g).state ≠ .EXEC := by
      simp only [takes, hfib, Option.any_some, Bool.and_eq_true, Bool.not_eq_true',
        decide_eq_false_iff_not] at htakes
      exact htakes.2
    have hg := hcount g
    rw [hfib, if_pos (by simp)] at hg
    have hpos : 0 < s.entries g := by
      show 0 < s.queue.countP _
      omega
    have haway : ∀ v, s.role v g = .away := fun v => away_of_fits (hi.fits v g) hstate hpos
    have hrest := haway w
    rw [Scheduler.role, role_none hd, Worker.rest] at hrest
    have hnone : ¬ ((s.workers w).cbFiber = some g ∨ (s.workers w).idleFiber = some g) := by
      intro hor
      rw [if_pos hor] at hrest
      cases hrest
    have hknown : g < s.created := by
      by_contra hge
      have := (hi.fresh g (Nat.le_of_not_lt hge)).1
      omega
    have hone := hi.once g
    refine hi.acquire (g := g) (p := .taken ft tickleMe') (c := (s.workers w).cbFiber) hnot hd
      (by rw [Phase.deals, hfib]; rfl) (fun _ _ => Iff.rfl) ?_ rfl (Nat.le_refl _) hknown rfl
      (fun v _ => haway v) (fun _ _ => rfl) ?_ hstate (hi.free g haway).2 ?_
    · refine ⟨(hi.consistent w).1, fun f kind role hdeal => ?_⟩
      rw [Phase.deals, hfib] at hdeal
      cases hdeal
      exact ⟨⟨fun h => absurd (.inl h) hnone, fun h => by cases h⟩,
        ⟨fun h => absurd (.inr h) hnone, fun h => by cases h⟩, fun h => by cases h⟩
    · intro f hf
      have := hcount f
      rw [hfib, if_neg (by simpa using Ne.symm hf)] at this
      exact this.symm
    · show (s.queue.eraseIdx i).countP _ = 0
      unfold entries at hone
      omega

/-- The worker turns to its own callback or idle fiber. -/
theorem Inv.acquire_spare {c : Nat} (hi : s.Inv) (hnot : (s.workers w).phase ≠ .ended)
    (hd : (s.workers w).phase.deals = none) (hd' : p.deals = some (c, kind, .pending))
    (hkind : kind = .callback ∧ (s.workers w).cbFiber = some c
      ∨ kind = .idle ∧ (s.workers w).idleFiber = some c)
    (hw : s'.workers = (s.goto w p).workers) (hq : s'.queue = s.queue)
    (hc : s'.created = s.created) (ht : s'.threads = s.threads)
    (hf : ∀ f, f ≠ c → s'.fibers f = s.fibers f)
    (hfib : s'.fibers c = s.fibers c ∨ s'.fibers c = .init) : s'.Inv := by
  have hor : (s.workers w).cbFiber = some c ∨ (s.workers w).idleFiber = some c :=
    hkind.imp And.right And.right
  have hspare : s.role w c = .spare := spare_of_cb hd hor
  have hne : s.role w c ≠ .away := by
    rw [hspare]
    decide
  have hfits := hi.fits w c
  rw [hspare] at hfits
  obtain ⟨hstate, hsaved, hzero⟩ := hfits
  have hknown : c < s.created := by
    by_contra hge
    exact hne ((hi.fresh c (Nat.le_of_not_lt hge)).2.2 w)
  have hfib' : (s'.fibers c).state ≠ .EXEC ∧ (s'.fibers c).saved = true := by
    rcases hfib with hfib | hfib
    · rw [hfib]
      exact ⟨hstate, hsaved⟩
    · rw [hfib]
      exact ⟨State.noConfusion, rfl⟩
  obtain ⟨h1, -⟩ := hi.consistent w
  refine hi.acquire (c := (s.workers w).cbFiber) hnot hd hd' (fun _ _ => Iff.rfl) ?_ hw
    (Nat.le_of_eq hc.symm) (hc ▸ hknown) ht ?_ hf (fun f _ => entries_of_queue hq f) hfib'.1 hfib'.2
    ((entries_of_queue hq c).trans hzero)
  · refine ⟨h1, fun f k role hdeal => ?_⟩
    cases hd'.symm.trans hdeal
    rcases hkind with ⟨rfl, hcb⟩ | ⟨rfl, hid⟩
    · exact ⟨⟨fun _ => rfl, fun _ => hcb⟩, ⟨fun h => absurd h (h1 c hcb), fun h => by cases h⟩,
        fun h => by cases h⟩
    · exact ⟨⟨fun h => absurd hid (h1 c h), fun h => by cases h⟩, ⟨fun _ => rfl, fun _ => hid⟩,
        fun h => by cases h⟩
  · intro v hv
    by_contra hvc
    exact hv (hi.unique v w c hvc hne)

/-- The worker creates a fiber for a callback. -/
theorem fresh_inv (hi : s.Inv) (hnot : (s.workers w).phase ≠ .ended)
    (hd : (s.workers w).phase.deals = none) (hcb : (s.workers w).cbFiber = none) :
    (s.newFiber.setWorker w { s.workers w with
      phase := .enter s.created .callback, cbFiber := some s.created }).Inv := by
  obtain ⟨h1, h2, h3⟩ := hi.fresh s.created (Nat.le_refl _)
  have hid : (s.workers w).idleFiber ≠ some s.created := fun h => role_idle h (h3 w)
  refine hi.acquire (g := s.created) (c := some s.created) hnot hd rfl (fun f hf => ?_) ?_ rfl
    (Nat.le_succ _) (Nat.lt_succ_self _) rfl (fun v _ => h3 v) (fun _ _ => rfl) (fun _ _ => rfl)
    ?_ ?_ h1
  · rw [hcb]
    simp [Ne.symm hf]
  · refine ⟨fun f hf => ?_, fun f k role hdeal => ?_⟩
    · cases hf
      exact hid
    · cases hdeal
      exact ⟨⟨fun _ => rfl, fun _ => rfl⟩, ⟨fun h => absurd h hid, fun h => by cases h⟩,
        fun h => by cases h⟩
  · show (s.fibers s.created).state ≠ .EXEC
    rw [h2]
    exact State.noConfusion
  · show (s.fibers s.created).saved = true
    rw [h2]
    rfl

theorem entries_push (s : Scheduler) (ft : FiberAndThread) (f : Nat) :
    (s.push ft).entries f = s.entries f + if ft.fiber = some f then 1 else 0 := by
  simp only [entries, push, List.countP_append, List.countP_singleton, decide_eq_true_eq]

theorem Inv.cb_finish_ne (hi : s.Inv) (hd : (s.workers w).phase.deals = some (g, kind, r)) :
    (if kind = .callback then none else (s.workers w).cbFiber) ≠ some g := by
  obtain ⟨hk, -⟩ := (hi.consistent w).2 g kind r hd
  split
  · exact nofun
  · rename_i hne
    exact fun h => hne (hk.mp h)

/-- The fiber goes back into the queue. -/
theorem requeue_inv {f : Nat} {kind : Kind} (hi : s.Inv)
    (hp : (s.workers w).phase = .requeue f kind) :
    ((s.push ⟨.fiber f, none⟩).finish w kind).Inv := by
  have hd : (s.workers w).phase.deals = some (f, kind, .requeue) := by rw [hp]; rfl
  obtain ⟨hstate, hsaved, hzero⟩ := hi.fits_deals hd
  obtain ⟨-, h2⟩ := hi.consistent w
  obtain ⟨hk1, hk2, hk3⟩ := h2 f kind _ hd
  have hpush := s.entries_push ⟨.fiber f, none⟩
  refine hi.release hd (s.cb_finish w kind) rfl rfl rfl (fun _ _ => rfl) (fun g hg => ?_) hstate
    hsaved ?_ (fun h => ?_)
  · refine (hpush g).trans ?_
    rw [if_neg (by simpa [FiberAndThread.fiber] using Ne.symm hg)]
    rfl
  · refine Nat.le_of_eq ((hpush f).trans ?_)
    rw [hzero, Nat.zero_add]
    exact if_pos rfl
  · rcases h with h | h
    · exact absurd h (hk3 rfl)
    · exact absurd h (hi.cb_finish_ne hd)

/-- The fiber is put on hold. -/
theorem hold_inv {f : Nat} {kind : Kind} (hi : s.Inv)
    (hp : (s.workers w).phase = .hold f kind) : ((s.setState f .HOLD).finish w kind).Inv := by
  have hd : (s.workers w).phase.deals = some (f, kind, .back) := by rw [hp]; rfl
  obtain ⟨hor, hsaved⟩ := hi.fits_deals hd
  obtain ⟨-, h2⟩ := hi.consistent w
  obtain ⟨hk1, hk2, -⟩ := h2 f kind _ hd
  have hself : ((s.setState f .HOLD).finish w kind).fibers f = { s.fibers f with state := .HOLD } :=
    if_pos rfl
  refine hi.release hd (s.cb_finish w kind) rfl rfl rfl (fun g hg => if_neg hg) (fun _ _ => rfl)
    ?_ ?_ (hi.once f) (fun h => ?_)
  · rw [hself]
    exact State.noConfusion
  · rw [hself]
    exact hsaved
  · rcases h with h | h
    · exact hi.idle w f (hk2.mpr h)
    · exact absurd h (hi.cb_finish_ne hd)

theorem ne_exec_of_finished {f : Nat} (h : s.finished f = true) : (s.fibers f).state ≠ .EXEC := by
  intro hexec
  simp [finished, hexec] at h

/-- Every step of a worker keeps the invariant. -/
theorem work_inv (hi : s.Inv) (hs : s.work w = some s') : s'.Inv := by
  cases work_cases hs with
  | lock h hm | scanned h hq | skip h hq ht tickleMe | exit h hid hf =>
    exact hi.quiet (by rw [h]; exact Phase.noConfusion) (by rw [h]; rfl) rfl rfl (fun _ => rfl)
      rfl rfl rfl
  | take h hq ht => exact take_inv hi h hq ht
  | @discard ft _ f h ht hf =>
    have hd : (s.workers w).phase.deals = some (f, .queued, .pending) := by
      rw [h, Phase.deals, FiberAndThread.fiber, ht]
      rfl
    obtain ⟨hstate, hsaved, hzero⟩ := hi.fits_deals hd
    exact hi.release hd (.inl rfl) rfl rfl rfl (fun _ _ => rfl) (fun _ _ => rfl) hstate hsaved
      (hi.once f) (fun _ => hzero)
  | @resume ft _ f h ht hf =>
    have hd : (s.workers w).phase.deals = some (f, .queued, .pending) := by
      rw [h, Phase.deals, FiberAndThread.fiber, ht]
      rfl
    exact hi.keep hd rfl Role.noConfusion rfl rfl rfl rfl rfl
  | @reuse ft _ _ c h ht hcb hf =>
    have hd : (s.workers w).phase.deals = none := by
      rw [h, Phase.deals, FiberAndThread.fiber, ht]
      rfl
    exact hi.acquire_spare (by rw [h]; exact Phase.noConfusion) hd rfl (.inl ⟨rfl, hcb⟩) rfl rfl rfl
      rfl (fun f hf => if_neg hf) (.inr (if_pos rfl))
  | @fresh ft _ _ h ht hcb =>
    have hd : (s.workers w).phase.deals = none := by
      rw [h, Phase.deals, FiberAndThread.fiber, ht]
      rfl
    exact fresh_inv hi (by rw [h]; exact Phase.noConfusion) hd hcb
  | idle h hid hf =>
    exact hi.acquire_spare (by rw [h]; exact Phase.noConfusion) (by rw [h]; rfl) rfl
      (.inr ⟨rfl, hid⟩) rfl rfl rfl rfl (fun _ _ => rfl) (.inl rfl)
  | @enter f kind h hf =>
    have hd : (s.workers w).phase.deals = some (f, kind, .pending) := by rw [h]; rfl
    exact hi.keep hd rfl Role.noConfusion rfl rfl rfl rfl rfl
  | @entered f kind h =>
    have hd : (s.workers w).phase.deals = some (f, kind, .pending) := by rw [h]; rfl
    obtain ⟨-, hsaved, -⟩ := hi.fits_deals hd
    refine hi.advance (q := .switching) hd rfl rfl rfl rfl rfl (fun g hg => if_neg hg) ?_
      (fun h => by cases h)
    exact ⟨congrArg Fiber.state (if_pos rfl), (congrArg Fiber.saved (if_pos rfl)).trans hsaved⟩
  | @switching f kind h =>
    have hd : (s.workers w).phase.deals = some (f, kind, .switching) := by rw [h]; rfl
    obtain ⟨hstate, -⟩ := hi.fits_deals hd
    refine hi.advance (q := .running) hd rfl rfl rfl rfl rfl (fun g hg => if_neg hg) ?_
      (fun h => by cases h)
    exact (congrArg Fiber.state (if_pos rfl)).trans hstate
  | @leaving f kind h =>
    have hd : (s.workers w).phase.deals = some (f, kind, .leaving) := by rw [h]; rfl
    have hor := hi.fits_deals hd
    refine hi.advance (q := .back) hd rfl rfl rfl rfl rfl (fun g hg => if_neg hg) ?_
      (fun h => by cases h)
    refine ⟨hor.imp_left fun hstate => ?_, congrArg Fiber.saved (if_pos rfl)⟩
    exact (congrArg Fiber.state (if_pos rfl)).trans hstate
  | @returnedIdle f h =>
    have hd : (s.workers w).phase.deals = some (f, .idle, .back) := by rw [h]; rfl
    exact hi.keep hd rfl Role.noConfusion rfl rfl rfl rfl rfl
  | @returned f kind h hk =>
    have hd : (s.workers w).phase.deals = some (f, kind, .back) := by rw [h]; rfl
    exact hi.keep hd rfl Role.noConfusion rfl rfl rfl rfl rfl
  | @settleReady f kind h hk hf =>
    have hd : (s.workers w).phase.deals = some (f, kind, .back) := by rw [h]; rfl
    obtain ⟨hor, hsaved⟩ := hi.fits_deals hd
    have hne : (s.fibers f).state ≠ .EXEC := by rw [hf]; exact State.noConfusion
    have hfit : Fits (s.fibers f) (s.entries f) .requeue := ⟨hne, hsaved, hor.resolve_left hne⟩
    exact hi.advance hd rfl rfl rfl rfl rfl (fun _ _ => rfl) hfit (fun _ => hk)
  | @settleReset f h hf =>
    have hd : (s.workers w).phase.deals = some (f, .callback, .back) := by rw [h]; rfl
    obtain ⟨hor, -⟩ := hi.fits_deals hd
    have hinit : ((s.setFiber f .init).goto w .loop).fibers f = .init := if_pos rfl
    refine hi.release hd (.inl rfl) rfl rfl rfl (fun g hg => if_neg hg) (fun _ _ => rfl) ?_ ?_
      (hi.once f) (fun _ => hor.resolve_left (ne_exec_of_finished hf))
    · rw [hinit]
      exact State.noConfusion
    · rw [hinit]
      rfl
  | @settleDone f kind h hk hf =>
    have hd : (s.workers w).phase.deals = some (f, kind, .back) := by rw [h]; rfl
    obtain ⟨hor, hsaved⟩ := hi.fits_deals hd
    have hne := ne_exec_of_finished hf
    exact hi.release hd (.inl rfl) rfl rfl rfl (fun _ _ => rfl) (fun _ _ => rfl) hne hsaved
      (hi.once f) (fun _ => hor.resolve_left hne)
  | @settleHold f kind h hf hr =>
    have hd : (s.workers w).phase.deals = some (f, kind, .back) := by rw [h]; rfl
    exact hi.keep hd rfl Role.noConfusion rfl rfl rfl rfl rfl
  | requeue h hm => exact requeue_inv hi h
  | hold h => exact hold_inv hi h

/-- A running fiber leaves: it keeps the state `EXEC`, or has no entry in the queue. -/
theorem leave_inv {next : State → State} {ended : Bool} (hi : s.Inv)
    (hs : s.leave w next ended = some s')
    (hnext : next .EXEC = .EXEC ∨ ∀ f kind, (s.workers w).phase = .running f kind →
      s.entries f = 0) : s'.Inv := by
  obtain ⟨f, kind, hp, -, rfl⟩ := leave_cases hs
  have hd : (s.workers w).phase.deals = some (f, kind, .running) := by rw [hp]; rfl
  have hexec : (s.fibers f).state = .EXEC := hi.fits_deals hd
  refine hi.advance (q := .leaving) hd rfl rfl rfl rfl rfl (fun g hg => if_neg hg) ?_
    (fun h => by cases h)
  rcases hnext with hnext | hzero
  · refine .inl ((congrArg Fiber.state (if_pos rfl)).trans ?_)
    show next (s.fibers f).state = .EXEC
    rw [hexec, hnext]
  · exact .inr (hzero f kind hp)

/-- A fiber that executes, or that nobody holds, is scheduled while it is not queued. -/
theorem schedule_inv {f : Nat} {thread : Option Nat} (hi : s.Inv) (hknown : f < s.created)
    (hzero : s.entries f = 0) (hidle : ∀ w, (s.workers w).idleFiber ≠ some f)
    (hheld : (s.fibers f).state = .EXEC ∨ ∀ w, s.role w f = .away) :
    (s.push ⟨.fiber f, thread⟩).Inv := by
  have hpush := s.entries_push ⟨.fiber f, thread⟩
  have hself : (s.push ⟨.fiber f, thread⟩).entries f = 1 := by
    rw [hpush, hzero, Nat.zero_add]
    exact if_pos rfl
  have hother : ∀ g, g ≠ f → (s.push ⟨.fiber f, thread⟩).entries g = s.entries g := by
    intro g hg
    refine (hpush g).trans ?_
    rw [if_neg (by simpa [FiberAndThread.fiber] using Ne.symm hg)]
    rfl
  refine ⟨hi.unique, ?_, hi.free, ?_, ?_, hi.consistent, ?_, hi.unstarted⟩
  · intro w g
    by_cases hg : g = f
    · subst hg
      rw [hself]
      show Fits (s.fibers g) 1 (s.role w g)
      rcases hheld with hexec | haway
      · have hfits := hi.fits w g
        cases hr : s.role w g with
        | away => trivial
        | pending | spare | requeue =>
          rw [hr] at hfits
          exact absurd hexec hfits.1
        | switching =>
          rw [hr] at hfits
          exact hfits
        | running => exact hexec
        | leaving => exact .inl hexec
        | back =>
          rw [hr] at hfits
          exact ⟨.inl hexec, hfits.2⟩
      · rw [haway w]
        trivial
    · rw [hother g hg]
      exact hi.fits w g
  · intro g
    by_cases hg : g = f
    · rw [hg]
      exact Nat.le_of_eq hself
    · rw [hother g hg]
      exact hi.once g
  · intro w g hid
    have hg : g ≠ f := fun h => hidle w (h ▸ hid)
    rw [hother g hg]
    exact hi.idle w g hid
  · intro g hle
    have hg : g ≠ f := by
      have : s.created ≤ g := hle
      omega
    rw [hother g hg]
    exact hi.fresh g hle

/-- A new worker starts with an idle fiber of its own. -/
theorem spawn_inv (hi : s.Inv) :
    (({ s.newFiber with threads := s.threads + 1 } : Scheduler).setWorker s.threads
      ⟨.loop, none, some s.created⟩).Inv := by
  obtain ⟨h1, h2, h3⟩ := hi.fresh s.created (Nat.le_refl _)
  have hold := hi.unstarted s.threads (Nat.le_refl _)
  have hw : ∀ x : Worker, (({ s.newFiber with threads := s.threads + 1 } : Scheduler).setWorker
      s.threads x).workers = (s.setWorker s.threads x).workers := fun _ => rfl
  have hself := worker_self (hw ⟨.loop, none, some s.created⟩)
  refine hi.move (w := s.threads) (g := s.created) ?_
  refine ⟨Nat.lt_succ_self _, Nat.le_succ _, Nat.le_succ _, Nat.lt_succ_self _, ?_, ?_, ?_, ?_,
    fun _ _ => rfl, fun _ _ => rfl, fun v _ => h3 v, ?_, ?_, ?_, fun _ => h1⟩
  · exact fun v hv => worker_other (hw _) hv
  · intro f hf hid
    rw [hself] at hid
    exact absurd (Option.some.inj hid).symm hf
  · rw [hself]
    exact ⟨nofun, nofun⟩
  · intro f hf
    rw [Scheduler.role, Scheduler.role, hself, hold]
    simp [Worker.role, Phase.deals, Worker.rest, Ne.symm hf]
  · rw [Scheduler.role, hself]
    have hspare : Worker.role ⟨.loop, none, some s.created⟩ s.created = .spare :=
      spare_of_cb rfl (.inr rfl)
    rw [hspare]
    show (s.fibers s.created).state ≠ .EXEC ∧ (s.fibers s.created).saved = true
      ∧ s.entries s.created = 0
    rw [h2]
    exact ⟨State.noConfusion, rfl, h1⟩
  · intro _
    show (s.fibers s.created).state ≠ .EXEC ∧ (s.fibers s.created).saved = true
    rw [h2]
    exact ⟨State.noConfusion, rfl⟩
  · show s.entries s.created ≤ 1
    omega

end steps

/-! ## Runs -/

/-- The worker has called `swapIn` of the fiber, and the call has not returned. -/
def inSwapIn (s : Scheduler) (w f : Nat) : Prop :=
  match (s.workers w).phase with
  | .enter g _ | .entered g _ | .switching g _ | .running g _ | .leaving g _ => g = f
  | _ => False

/-- No fiber is in two calls of `swapIn`, no assertion in one of them fails, and none
resumes a context that is not saved. -/
structure Safe (s : Scheduler) : Prop where
  alone : ∀ v w f, s.inSwapIn v f → s.inSwapIn w f → v = w
  assertion : ∀ w f kind, (s.workers w).phase = .enter f kind → (s.fibers f).state ≠ .EXEC
  saved : ∀ w f kind, (s.workers w).phase = .switching f kind → (s.fibers f).saved = true

/-- The fiber that runs on the worker is not queued. -/
def notQueued (s : Scheduler) (w : Nat) : Bool :=
  match (s.workers w).phase with
  | .running f _ => s.entries f = 0
  | _ => true

/-- A fiber has at most one wake-up under way. -/
def Guard (s : Scheduler) : Label → Prop
  | .schedule (.fiber f) _ =>
    s.entries f = 0 ∧ (∀ w < s.threads, (s.workers w).idleFiber ≠ some f)
      ∧ ((s.fibers f).state = .EXEC ∨ ∀ w < s.threads, s.role w f = .away)
  | .yieldToReady w => s.notQueued w
  | .finish w _ => s.notQueued w
  | _ => True

instance (s : Scheduler) : (l : Label) → Decidable (s.Guard l)
  | .schedule (.fiber f) _ => inferInstanceAs (Decidable (s.entries f = 0
      ∧ (∀ w < s.threads, (s.workers w).idleFiber ≠ some f)
      ∧ ((s.fibers f).state = .EXEC ∨ ∀ w < s.threads, s.role w f = .away)))
  | .yieldToReady w => inferInstanceAs (Decidable (s.notQueued w = true))
  | .finish w _ => inferInstanceAs (Decidable (s.notQueued w = true))
  | .schedule (.cb _) _ | .create | .spawn | .work _ | .yieldToHold _ | .setAutoStop
  | .setStopping _ | .isStopping => .isTrue trivial

theorem init_inv : init.Inv := by
  have hrole : ∀ w f, init.role w f = .away := fun _ _ => rfl
  refine ⟨fun v w f h => absurd (hrole v f) h, fun w f => ?_, fun f _ => ⟨State.noConfusion, rfl⟩,
    fun _ => Nat.zero_le _, fun _ _ _ => rfl, fun w => ⟨nofun, nofun⟩,
    fun f _ => ⟨rfl, rfl, fun w => hrole w f⟩, fun _ _ => rfl⟩
  rw [hrole]
  trivial

theorem inSwapIn_role {s : Scheduler} {w f : Nat} (h : s.inSwapIn w f) : s.role w f ≠ .away := by
  unfold inSwapIn at h
  cases hp : (s.workers w).phase with
  | enter g kind | entered g kind | switching g kind | running g kind | leaving g kind =>
    rw [hp] at h
    subst h
    simp [Scheduler.role, Worker.role, hp, Phase.deals]
  | loop | scan | taken | noTask | returned | settle | requeue | hold | ended =>
    rw [hp] at h
    cases h

theorem Inv.safe {s : Scheduler} (hi : s.Inv) : s.Safe := by
  refine ⟨?_, ?_, ?_⟩
  · intro v w f hv hw
    exact hi.unique v w f (inSwapIn_role hv) (inSwapIn_role hw)
  · intro w f kind hp
    have hd : (s.workers w).phase.deals = some (f, kind, .pending) := by rw [hp]; rfl
    exact (hi.fits_deals hd).1
  · intro w f kind hp
    have hd : (s.workers w).phase.deals = some (f, kind, .switching) := by rw [hp]; rfl
    exact (hi.fits_deals hd).2

theorem notQueued_running {s : Scheduler} {w : Nat} (h : s.notQueued w = true) (f : Nat)
    (kind : Kind) (hp : (s.workers w).phase = .running f kind) : s.entries f = 0 := by
  unfold notQueued at h
  rw [hp] at h
  exact of_decide_eq_true h

/-- Every guarded step keeps the invariant. -/
theorem next_inv {s s' : Scheduler} {l : Label} (hi : s.Inv) (hg : s.Guard l)
    (hs : s.next l = some s') : s'.Inv := by
  cases l with
  | create =>
    cases hs
    exact hi.congr (fun _ _ => rfl) rfl (fun _ => rfl) (Nat.le_succ _) (fun _ => rfl) hi.consistent
      hi.unstarted
  | spawn =>
    cases hs
    exact spawn_inv hi
  | schedule task thread =>
    obtain ⟨hknown, rfl⟩ := schedule_cases hs
    cases task with
    | fiber f =>
      obtain ⟨hzero, hidle, hheld⟩ := hg
      refine schedule_inv hi (of_decide_eq_true hknown) hzero (fun w => ?_)
        (hheld.imp_right fun h w => ?_)
      · by_cases hw : w < s.threads
        · exact hidle w hw
        · rw [hi.unstarted w (Nat.le_of_not_lt hw)]
          exact nofun
      · by_cases hw : w < s.threads
        · exact h w hw
        · rw [Scheduler.role, hi.unstarted w (Nat.le_of_not_lt hw)]
          rfl
    | cb c =>
      refine hi.congr (fun _ _ => rfl) rfl (fun f => ?_) (Nat.le_refl _) (fun _ => rfl)
        hi.consistent hi.unstarted
      rw [entries_push]
      rfl
  | work w => exact work_inv hi hs
  | yieldToReady w =>
    have hs' : s.leave w (fun _ => .READY) false = some s' := hs
    exact leave_inv hi hs' (.inr (notQueued_running hg))
  | yieldToHold w => exact leave_inv hi hs (.inl rfl)
  | finish w outcome =>
    have hs' : s.leave w (fun state => outcome.state state) true = some s' := hs
    exact leave_inv hi hs' (.inr (notQueued_running hg))
  | setAutoStop | setStopping b =>
    cases hs
    exact hi.congr (fun _ _ => rfl) rfl (fun _ => rfl) (Nat.le_refl _) (fun _ => rfl) hi.consistent
      hi.unstarted
  | isStopping =>
    rw [isStopping_cases hs]
    exact hi

end Scheduler

open Scheduler in
/-- In every run in which a fiber has at most one wake-up under way, no fiber runs on two
workers at once. -/
theorem swapIn_alone (labels : List Label) {os : List Bool} {s : Scheduler}
    (hguard : Along step Guard init labels) (hrun : run step init labels = some (os, s)) :
    s.Safe := by
  refine Inv.safe (run_invariant_along (I := Inv) ?_ labels init_inv hguard hrun)
  intro s l o s' hi hg hs
  obtain ⟨s1, hnext, heq⟩ := Option.map_eq_some_iff.mp hs
  cases heq
  exact next_inv hi hg hnext

open Scheduler in
/-- A fiber is scheduled while it runs, is put on hold, and goes on in the other worker. -/
theorem swapIn_alone_moved :
    ∃ os s, run step init ([.create, .spawn, .spawn, .schedule (.fiber 0) none]
        ++ List.replicate 6 (.work 0) ++ [.schedule (.fiber 0) none, .yieldToHold 0]
        ++ List.replicate 4 (.work 0) ++ List.replicate 6 (.work 1)) = some (os, s)
      ∧ (s.workers 1).phase = .running 0 .queued ∧ s.Safe := by
  have hphase : (run step init ([.create, .spawn, .spawn, .schedule (.fiber 0) none]
      ++ List.replicate 6 (.work 0) ++ [.schedule (.fiber 0) none, .yieldToHold 0]
      ++ List.replicate 4 (.work 0) ++ List.replicate 6 (.work 1))).map
      (fun r => (r.2.workers 1).phase) = some (.running 0 .queued) := by decide +kernel
  obtain ⟨⟨os, s⟩, hrun, hp⟩ := Option.map_eq_some_iff.mp hphase
  exact ⟨os, s, hrun, hp, swapIn_alone _ (by decide +kernel) hrun⟩

open Scheduler in
/-- A fiber that is scheduled while it runs yields with `READY`, and the other worker
switches to it before its context is saved. -/
theorem resumed_before_saved :
    ¬ ∀ (labels : List Label) (os : List Bool) (s : Scheduler),
      run step init labels = some (os, s) → s.Safe := by
  intro hall
  have hphase : (run step init ([.create, .spawn, .spawn, .schedule (.fiber 0) none]
      ++ List.replicate 6 (.work 0) ++ [.schedule (.fiber 0) none, .yieldToReady 0]
      ++ List.replicate 5 (.work 1))).map
      (fun r => ((r.2.workers 1).phase, (r.2.fibers 0).saved))
        = some (.switching 0 .queued, false) := by
    decide +kernel
  obtain ⟨⟨os, s⟩, hrun, hp⟩ := Option.map_eq_some_iff.mp hphase
  have hsaved := (hall _ os s hrun).saved 1 0 .queued (congrArg Prod.fst hp)
  rw [show (s.fibers 0).saved = false from congrArg Prod.snd hp] at hsaved
  cases hsaved

end Fibers

end HrServer
