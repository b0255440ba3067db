/-
HrServer.Fibers.Dequeue — how `Scheduler::run` takes an entry off the queue.

`dequeuePass` is the block under `m_mutex` in `run`, from the lock to the
end of the loop over `m_fibers`, as the steps of `Fibers.Core` one after
the other. `Dequeues` says in one go what it has to do.

Other threads come in between the steps of a pass, and the states of the
fibers change under it. For whole runs there is a ledger: every entry that
is put on the queue gets the next number, `waiting` are the numbers of the
entries on it, in the order of the queue, and `taken` the numbers of those
taken off it, each with the worker. The queue is changed by nothing else
(`queue_step`), and from this follows, for every interleaving, that the
numbers of `waiting` and `taken` together are all numbers given out, each
once (`Ledger.Balanced`).
-/
import Mathlib.Data.List.InsertIdx
import Mathlib.Data.List.Perm.Basic
import HrServer.Fibers.CoreTheorems

namespace HrServer

open Lib

namespace Fibers

/-! ## One pass -/

/-- The entry is for another thread. -/
def FiberAndThread.pinnedElsewhere (w : Nat) (ft : FiberAndThread) : Bool :=
  ft.thread.isSome && ft.thread ≠ some w

namespace Scheduler

/-- Worker `w` alone, until it is out of the loop over the queue; `n` bounds its steps. -/
def untilScanned (s : Scheduler) (w : Nat) : Nat → Option Scheduler
  | 0 => none
  | n + 1 => do
    let s' ← s.work w
    match (s'.workers w).phase with
    | .scan _ _ => s'.untilScanned w n
    | _ => some s'

/-- The dequeue section: the lock, the entries, the end of the queue. -/
def dequeuePass (s : Scheduler) (w : Nat) : Option Scheduler :=
  s.untilScanned w (s.queue.length + 2)

/-- The worker may run the entry: it is for any thread or for this one, and its fiber, if it
is one, does not execute. -/
def Eligible (s : Scheduler) (w : Nat) (ft : FiberAndThread) : Prop :=
  (ft.thread = none ∨ ft.thread = some w) ∧ ∀ f, ft.task = .fiber f → (s.fibers f).state ≠ .EXEC

/-- The first eligible entry is taken and counted, the others stay as they are; or there is
none. `tickleMe` is raised by an entry for another thread that was passed over, and by an
entry behind the one taken. -/
inductive Dequeues (s : Scheduler) (w : Nat) : Scheduler → Prop where
  | taken {before after : List FiberAndThread} {ft : FiberAndThread} {tickleMe : Bool}
      (hq : s.queue = before ++ ft :: after) (hbefore : ∀ e ∈ before, ¬ s.Eligible w e)
      (hft : s.Eligible w ft)
      (ht : tickleMe = true
        ↔ (∃ e ∈ before, e.thread ≠ none ∧ e.thread ≠ some w) ∨ after ≠ []) :
      Dequeues s w ({ s with
        queue := before ++ after
        activeThreadCount := s.activeThreadCount + 1 }.goto w (.taken ft tickleMe))
  | noTask {tickleMe : Bool} (hq : ∀ e ∈ s.queue, ¬ s.Eligible w e)
      (ht : tickleMe = true ↔ ∃ e ∈ s.queue, e.thread ≠ none ∧ e.thread ≠ some w) :
      Dequeues s w (s.goto w (.noTask tickleMe))

section pass

variable {s : Scheduler} {w : Nat}

theorem takes_iff {ft : FiberAndThread} : s.takes w ft = true ↔ s.Eligible w ft := by
  have hpin : (!(ft.thread.isSome && ft.thread ≠ some w)) = true
      ↔ ft.thread = none ∨ ft.thread = some w := by
    cases ft.thread <;> simp
  have hexec : (!ft.fiber.any fun f => (s.fibers f).state = .EXEC) = true
      ↔ ∀ f, ft.task = .fiber f → (s.fibers f).state ≠ .EXEC := by
    cases htask : ft.task <;> simp [FiberAndThread.fiber, htask]
  rw [takes, Bool.and_eq_true, hpin, hexec, Eligible]

theorem pinnedElsewhere_iff {ft : FiberAndThread} :
    ft.pinnedElsewhere w = true ↔ ft.thread ≠ none ∧ ft.thread ≠ some w := by
  cases hth : ft.thread <;> simp [FiberAndThread.pinnedElsewhere, hth]

@[simp] theorem goto_goto (s : Scheduler) (w : Nat) (p q : Phase) :
    (s.goto w p).goto w q = s.goto w q := by
  simp only [goto, setWorker, if_true]
  congr 1
  funext v
  split <;> rfl

theorem work_scan {i : Nat} {tickleMe : Bool} :
    (s.goto w (.scan i tickleMe)).work w
      = some ((s.goto w (.scan i tickleMe)).scan w i tickleMe) := by
  simp [work]

/-- The end of the queue. -/
theorem scan_none {i : Nat} {p : Phase} {tickleMe : Bool} (h : s.queue[i]? = none) :
    (s.goto w p).scan w i tickleMe = { s with mutex := none }.goto w (.noTask tickleMe) := by
  have hq : (s.goto w p).queue[i]? = none := h
  rw [scan, hq]
  exact goto_goto { s with mutex := none } w p _

/-- An entry that is passed over. -/
theorem scan_skip {i : Nat} {p : Phase} {tickleMe : Bool} {ft : FiberAndThread}
    (h : s.queue[i]? = some ft) (ht : s.takes w ft = false) :
    (s.goto w p).scan w i tickleMe
      = s.goto w (.scan (i + 1) (tickleMe || ft.pinnedElsewhere w)) := by
  have hq : (s.goto w p).queue[i]? = some ft := h
  rw [scan, hq]
  dsimp only
  cases hpin : ft.pinnedElsewhere w with
  | true =>
    rw [FiberAndThread.pinnedElsewhere] at hpin
    rw [if_pos hpin, goto_goto, Bool.or_true]
  | false =>
    rw [FiberAndThread.pinnedElsewhere] at hpin
    rw [takes, hpin, Bool.not_false, Bool.true_and, Bool.not_eq_false'] at ht
    rw [if_neg (by rw [hpin]; decide), fibers_goto, if_pos ht, goto_goto, Bool.or_false]

/-- The entry that is taken. -/
theorem scan_take {i : Nat} {p : Phase} {tickleMe : Bool} {ft : FiberAndThread}
    (h : s.queue[i]? = some ft) (ht : s.takes w ft = true) :
    (s.goto w p).scan w i tickleMe
      = { s with
          queue := s.queue.eraseIdx i
          activeThreadCount := s.activeThreadCount + 1
          mutex := none }.goto w (.taken ft (tickleMe || i + 1 < s.queue.length)) := by
  have hq : (s.goto w p).queue[i]? = some ft := h
  rw [takes, Bool.and_eq_true, Bool.not_eq_true', Bool.not_eq_true'] at ht
  rw [scan, hq]
  dsimp only
  rw [if_neg (by rw [ht.1]; decide), fibers_goto, if_neg (by rw [ht.2]; decide)]
  exact goto_goto { s with
    queue := s.queue.eraseIdx i
    activeThreadCount := s.activeThreadCount + 1
    mutex := none } w p _

/-- The loop over the rest of the queue, by induction on it. -/
theorem untilScanned_scan (rest : List FiberAndThread) {passed : List FiberAndThread}
    (hq : s.queue = passed ++ rest) (tickleMe : Bool) :
    (∃ before ft after, rest = before ++ ft :: after ∧ (∀ e ∈ before, s.takes w e = false)
      ∧ s.takes w ft = true
      ∧ (s.goto w (.scan passed.length tickleMe)).untilScanned w (rest.length + 1)
        = some ({ s with
            queue := passed ++ before ++ after
            activeThreadCount := s.activeThreadCount + 1
            mutex := none }.goto w
              (.taken ft (tickleMe || before.any (·.pinnedElsewhere w) || !after.isEmpty))))
    ∨ ((∀ e ∈ rest, s.takes w e = false)
      ∧ (s.goto w (.scan passed.length tickleMe)).untilScanned w (rest.length + 1)
        = some ({ s with mutex := none }.goto w
            (.noTask (tickleMe || rest.any (·.pinnedElsewhere w))))) := by
  induction rest generalizing passed tickleMe with
  | nil =>
    have hend : s.queue[passed.length]? = none := by simp [hq]
    refine .inr ⟨by simp, ?_⟩
    simp [untilScanned, work_scan, scan_none hend]
  | cons ft rest ih =>
    have hat : s.queue[passed.length]? = some ft := by simp [hq]
    cases ht : s.takes w ft with
    | true =>
      refine .inl ⟨[], ft, rest, rfl, by simp, ht, ?_⟩
      have herase : s.queue.eraseIdx passed.length = passed ++ rest := by
        simp [hq, List.eraseIdx_append_of_length_le]
      have hlast : decide (passed.length + 1 < s.queue.length) = !rest.isEmpty := by
        cases rest <;> simp [hq]
      simp [untilScanned, work_scan, scan_take hat ht, herase, hlast]
    | false =>
      have hnext : (s.goto w (.scan passed.length tickleMe)).untilScanned w
            ((ft :: rest).length + 1)
          = (s.goto w (.scan (passed ++ [ft]).length
              (tickleMe || ft.pinnedElsewhere w))).untilScanned w (rest.length + 1) := by
        rw [untilScanned, work_scan, scan_skip hat ht]
        simp
      rw [hnext]
      have hq' : s.queue = passed ++ [ft] ++ rest := by simp [hq]
      rcases ih hq' (tickleMe || ft.pinnedElsewhere w) with
        ⟨before, ft', after, rfl, hbefore, hft, heq⟩ | ⟨hall, heq⟩
      · refine .inl ⟨ft :: before, ft', after, rfl, ?_, hft, ?_⟩
        · simpa [ht] using hbefore
        · rw [heq]
          simp [Bool.or_assoc]
      · refine .inr ⟨by simpa [ht] using hall, ?_⟩
        rw [heq]
        simp [Bool.or_assoc]

/-- A pass ends, and does what it has to. -/
theorem dequeuePass_spec (hphase : (s.workers w).phase = .loop) (hmutex : s.mutex = none) :
    ∃ s', s.dequeuePass w = some s' ∧ Dequeues s w s' := by
  have hlock : s.dequeuePass w
      = ({ s with mutex := some w }.goto w
          (.scan ([] : List FiberAndThread).length false)).untilScanned w (s.queue.length + 1) := by
    simp [dequeuePass, untilScanned, work, hphase, hmutex]
  have hback : ({ s with mutex := none } : Scheduler) = s := by rw [← hmutex]
  have htakes : ∀ e, ({ s with mutex := some w } : Scheduler).takes w e = s.takes w e :=
    fun _ => rfl
  rw [hlock]
  rcases @untilScanned_scan { s with mutex := some w } w s.queue [] rfl false with
    ⟨before, ft, after, hq, hbefore, hft, heq⟩ | ⟨hall, heq⟩
  · refine ⟨_, heq, ?_⟩
    have hcons := @Dequeues.taken s w before after ft
      (before.any (·.pinnedElsewhere w) || !after.isEmpty) hq
      (fun e he => by rw [← takes_iff, ← htakes, hbefore e he]; decide) (takes_iff.mp hft)
      (by simp [List.any_eq_true, pinnedElsewhere_iff])
    simpa [hmutex] using hcons
  · refine ⟨_, heq, ?_⟩
    have hcons := @Dequeues.noTask s w (s.queue.any (·.pinnedElsewhere w))
      (fun e he => by rw [← takes_iff, ← htakes, hall e he]; decide)
      (by simp [List.any_eq_true, pinnedElsewhere_iff])
    simpa [hback] using hcons

end pass

end Scheduler

/-! ## The ledger -/

/-- What a step does to the queue: an entry is put at its end, or worker `w` takes the one
at position `i`. -/
inductive Event where
  | put (ft : FiberAndThread)
  | take (w i : Nat)

/-- The event of a step that is taken in `s`. -/
def Scheduler.event (s : Scheduler) : Label → Option Event
  | .schedule task thread => some (.put ⟨task, thread⟩)
  | .work w =>
    match (s.workers w).phase with
    | .requeue f _ => some (.put ⟨.fiber f, none⟩)
    | .scan i _ => if s.queue[i]?.any (s.takes w) then some (.take w i) else none
    | _ => none
  | _ => none

/-- `entries` are all entries that were put on the queue; their numbers are their positions
in it. -/
structure Ledger where
  entries : List FiberAndThread
  waiting : List Nat
  taken : List (Nat × Nat)
  deriving DecidableEq

namespace Ledger

def empty : Ledger := ⟨[], [], []⟩

def record (g : Ledger) : Option Event → Ledger
  | none => g
  | some (.put ft) =>
    { g with entries := g.entries ++ [ft], waiting := g.waiting ++ [g.entries.length] }
  | some (.take w i) =>
    { g with
      waiting := g.waiting.eraseIdx i
      taken := g.taken ++ (g.waiting[i]?.map fun k => (k, w)).toList }

/-- The ledger at the end of a run. -/
def after (s : Scheduler) (g : Ledger) : List Label → Ledger
  | [] => g
  | l :: labels =>
    match step s l with
    | some (_, s') => after s' (g.record (s.event l)) labels
    | none => g

/-- The books fit the queue: `waiting` are the numbers of its entries, every number given out
is waiting or taken, once, and an entry for one thread was taken by no other. -/
structure Balanced (g : Ledger) (queue : List FiberAndThread) : Prop where
  waiting_eq : g.waiting.map (fun k => g.entries[k]?) = queue.map some
  all : (g.waiting ++ g.taken.map Prod.fst).Perm (List.range g.entries.length)
  pinned : ∀ k w, (k, w) ∈ g.taken →
    ∃ ft, g.entries[k]? = some ft ∧ (ft.thread = none ∨ ft.thread = some w)

theorem balanced_empty : Balanced empty [] where
  waiting_eq := rfl
  all := List.Perm.refl _
  pinned _ _ h := by cases h

variable {g : Ledger} {queue : List FiberAndThread}

theorem Balanced.waiting_lt (h : g.Balanced queue) {k : Nat} (hk : k ∈ g.waiting) :
    k < g.entries.length :=
  List.mem_range.mp (h.all.mem_iff.mp (List.mem_append_left _ hk))

/-- A new entry gets a new number. -/
theorem Balanced.put (h : g.Balanced queue) (ft : FiberAndThread) :
    (g.record (some (.put ft))).Balanced (queue ++ [ft]) where
  waiting_eq := by
    have hold : g.waiting.map (fun k => (g.entries ++ [ft])[k]?)
        = g.waiting.map fun k => g.entries[k]? := by
      refine List.map_congr_left ?_
      intro k hk
      rw [List.getElem?_append_left (h.waiting_lt hk)]
    simp [record, hold, h.waiting_eq]
  all := by
    simp only [record, List.append_assoc, List.length_append, List.length_singleton,
      List.range_succ]
    have hmove := (@List.perm_append_comm _ [g.entries.length]
      (g.taken.map Prod.fst)).append_left g.waiting
    rw [← List.append_assoc g.waiting (g.taken.map Prod.fst)] at hmove
    exact hmove.trans (h.all.append_right _)
  pinned k w hk := by
    obtain ⟨ft', hft', hthread⟩ := h.pinned k w hk
    obtain ⟨hlt, -⟩ := List.getElem?_eq_some_iff.mp hft'
    exact ⟨ft', by rw [record, List.getElem?_append_left hlt, hft'], hthread⟩

/-- The number of the entry at position `i`. -/
theorem Balanced.waiting_at (h : g.Balanced queue) {i : Nat} {ft : FiberAndThread}
    (hi : queue[i]? = some ft) : ∃ k, g.waiting[i]? = some k ∧ g.entries[k]? = some ft := by
  have hmap := congrArg (fun l : List (Option FiberAndThread) => l[i]?) h.waiting_eq
  simp only [List.getElem?_map, hi, Option.map_some] at hmap
  cases hk : g.waiting[i]? with
  | none => simp [hk] at hmap
  | some k =>
    rw [hk, Option.map_some, Option.some.injEq] at hmap
    exact ⟨k, rfl, hmap⟩

/-- An entry that is taken moves from one list of numbers to the other. -/
theorem Balanced.take (h : g.Balanced queue) {i w : Nat} {ft : FiberAndThread}
    (hi : queue[i]? = some ft) (hth : ft.thread = none ∨ ft.thread = some w) :
    (g.record (some (.take w i))).Balanced (queue.eraseIdx i) := by
  obtain ⟨k, hk, hent⟩ := h.waiting_at hi
  obtain ⟨hlt, hki⟩ := List.getElem?_eq_some_iff.mp hk
  have hrec : g.record (some (.take w i))
      = { g with waiting := g.waiting.eraseIdx i, taken := g.taken ++ [(k, w)] } := by
    simp [record, hk]
  rw [hrec]
  refine
    { waiting_eq := ?_
      all := ?_
      pinned := ?_ }
  · have herase := congrArg (fun l : List (Option FiberAndThread) => l.eraseIdx i) h.waiting_eq
    simpa only [List.eraseIdx_map] using herase
  · have hsplit : g.waiting.Perm (k :: g.waiting.eraseIdx i) := by
      rw [← hki]
      exact (List.getElem_cons_eraseIdx_perm hlt).symm
    refine List.Perm.trans ?_ h.all
    refine List.Perm.trans ?_ (hsplit.append_right _).symm
    simp only [List.map_append, List.map_cons, List.map_nil, ← List.append_assoc]
    exact (List.perm_append_singleton k _).trans (List.Perm.refl _)
  · intro k' w' hmem
    rcases List.mem_append.mp hmem with hmem | hmem
    · exact h.pinned k' w' hmem
    · simp only [List.mem_singleton, Prod.mk.injEq] at hmem
      obtain ⟨rfl, rfl⟩ := hmem
      exact ⟨ft, hent, hth⟩

end Ledger

/-! ## Runs -/

namespace Scheduler

/-- The queue is changed as the event of the step says, and by nothing else. -/
theorem queue_step {s s' : Scheduler} {l : Label} (hs : s.next l = some s') :
    (s.event l = none ∧ s'.queue = s.queue)
    ∨ (∃ ft, s.event l = some (.put ft) ∧ s'.queue = s.queue ++ [ft])
    ∨ ∃ w i ft tickleMe, s.event l = some (.take w i) ∧ s.queue[i]? = some ft ∧ s.Eligible w ft
        ∧ s'.queue = s.queue.eraseIdx i ∧ (s'.workers w).phase = .taken ft tickleMe := by
  cases l with
  | create | spawn | setAutoStop | setStopping =>
    cases hs
    exact .inl ⟨rfl, rfl⟩
  | schedule task thread =>
    simp only [next] at hs
    split at hs
    · cases hs
      exact .inr (.inl ⟨_, rfl, rfl⟩)
    · cases hs
  | isStopping =>
    simp only [next] at hs
    split at hs
    · cases hs
      exact .inl ⟨rfl, rfl⟩
    · cases hs
  | yieldToReady w | yieldToHold w | finish w =>
    simp only [next] at hs
    obtain ⟨f, kind, -, -, rfl⟩ := leave_cases hs
    exact .inl ⟨rfl, rfl⟩
  | work w =>
    cases work_cases hs with
    | scanned h hq => exact .inl ⟨by simp [event, h, hq], rfl⟩
    | skip h hq ht => exact .inl ⟨by simp [event, h, hq, ht], rfl⟩
    | @take i t ft h hq ht t' =>
      exact .inr (.inr ⟨w, i, ft, t', by simp [event, h, hq, ht], hq, takes_iff.mp ht, rfl,
        by simp⟩)
    | requeue h => exact .inr (.inl ⟨_, by simp [event, h], rfl⟩)
    | lock h | discard h | resume h | reuse h | fresh h | exit h | idle h | enter h | entered h
    | switching h | leaving h | returnedIdle h | returned h | settleReady h | settleReset h
    | settleDone h | settleHold h | hold h =>
      exact .inl ⟨by simp [event, h], rfl⟩

end Scheduler

/-- The step lemma. -/
theorem balanced_step {s s' : Scheduler} {g : Ledger} {l : Label} {b : Bool}
    (h : g.Balanced s.queue) (hs : step s l = some (b, s')) :
    (g.record (s.event l)).Balanced s'.queue := by
  obtain ⟨s1, hs1, heq⟩ := Option.map_eq_some_iff.mp hs
  cases heq
  rcases Scheduler.queue_step hs1 with ⟨he, hq⟩ | ⟨ft, he, hq⟩ | ⟨w, i, ft, t, he, hi, hel, hq, -⟩
  · rw [he, hq]
    exact h
  · rw [he, hq]
    exact h.put ft
  · rw [he, hq]
    exact h.take hi hel.1

/-- The run lemma. -/
theorem balanced_run {labels : List Label} {s s' : Scheduler} {g : Ledger} {os : List Bool}
    (h : g.Balanced s.queue) (hrun : run step s labels = some (os, s')) :
    (Ledger.after s g labels).Balanced s'.queue := by
  induction labels generalizing s g os with
  | nil =>
    cases hrun
    exact h
  | cons l labels ih =>
    obtain ⟨b, s1, os', hs, hrun', -⟩ := run_cons hrun
    rw [Ledger.after, hs]
    exact ih (balanced_step h hs) hrun'

/-- One pass of the dequeue section takes the right entry, from any queue, with any states
of the fibers, on any worker. Over any run, with the steps of all threads in any order, no
entry is taken twice, none is lost, and one that was scheduled for a thread is taken by no
other. -/
theorem dequeue_right_entry :
    (∀ (s : Scheduler) (w : Nat), (s.workers w).phase = .loop → s.mutex = none →
      ∃ s', s.dequeuePass w = some s' ∧ s.Dequeues w s')
    ∧ ∀ (labels : List Label) (os : List Bool) (s : Scheduler),
        run step .init labels = some (os, s) →
        ((Ledger.after .init .empty labels).taken.map Prod.fst).Nodup
        ∧ (∀ k < (Ledger.after .init .empty labels).entries.length,
            k ∈ (Ledger.after .init .empty labels).waiting
              ∨ k ∈ (Ledger.after .init .empty labels).taken.map Prod.fst)
        ∧ (Ledger.after .init .empty labels).Balanced s.queue := by
  refine ⟨fun s w hphase hmutex => Scheduler.dequeuePass_spec hphase hmutex, ?_⟩
  intro labels os s hrun
  have hbal := balanced_run (g := .empty) Ledger.balanced_empty hrun
  have hnd := hbal.all.nodup_iff.mpr List.nodup_range
  refine ⟨(List.nodup_append.mp hnd).2.1, ?_, hbal⟩
  intro k hk
  exact List.mem_append.mp (hbal.all.mem_iff.mpr (List.mem_range.mpr hk))

/-- Two workers and two entries, the first for worker 0: worker 1 passes over it and takes the
second one, then worker 0 takes the first. -/
theorem dequeue_right_entry_two :
    (∃ s', ((Scheduler.init.setWorker 1 ⟨.loop, none, none⟩).push ⟨.cb 7, some 0⟩).dequeuePass 1
        = some s' ∧ s'.queue = [⟨.cb 7, some 0⟩] ∧ (s'.workers 1).phase = .noTask true)
      ∧ (Ledger.after .init .empty [.spawn, .spawn, .schedule (.cb 7) (some 0),
          .schedule (.cb 8) none, .work 1, .work 1, .work 1, .work 0, .work 0]).taken
        = [(1, 1), (0, 0)]
      ∧ ((Ledger.after .init .empty [.spawn, .spawn, .schedule (.cb 7) (some 0),
          .schedule (.cb 8) none, .work 1, .work 1, .work 1, .work 0, .work 0]).taken.map
            Prod.fst).Nodup := by
  obtain ⟨s', hpass, -⟩ := dequeue_right_entry.1
    ((Scheduler.init.setWorker 1 ⟨.loop, none, none⟩).push ⟨.cb 7, some 0⟩) 1 rfl rfl
  refine ⟨⟨s', hpass, ?_⟩, rfl, (dequeue_right_entry.2 [.spawn, .spawn,
    .schedule (.cb 7) (some 0), .schedule (.cb 8) none, .work 1, .work 1, .work 1, .work 0, .work 0]
    _ _ rfl).1⟩
  cases hpass
  exact ⟨rfl, rfl⟩

end Fibers

end HrServer
