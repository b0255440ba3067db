/-
HrServer.Config.Listeners — `ConfigVar::setValue` of `sylar/config.h` in
any number of threads.

A call compares the new value with `m_val` and calls every listener under
the read lock, then gives the lock back, and stores the value under the
write lock. Two calls can hold the read lock together, and a call can
notify between the notification and the store of another: the listeners
then hear the values in one order, and `m_val` takes them in the other
(`mirror_disagrees`). A mirror of the value, such as
`s_http_request_buffer_size`, stays wrong from then on.

`listeners_agree` is the positive side. When a call begins to notify only
while no other call stands between its comparison and its store, every
listener has heard a chain of changes that ends in `m_val` whenever no
call is in progress.

A listener is its key in `m_cbs`. The listeners return; the order in which
the `unordered_map` is walked is an argument of each call.
-/
import HrServer.Lib.Run
import Mathlib.Data.List.Chain
import Mathlib.Data.List.Nodup

namespace HrServer

open Lib

namespace Config

/-- A call of a listener, `i.second(m_val, v)`. -/
structure Notification (T : Type) where
  key : Nat
  oldValue : T
  newValue : T
  deriving DecidableEq

/-- Where a thread stands in `setValue(v)`. -/
inductive SetPhase (T : Type) where
  | idle
  /-- Under the read lock, with the listeners still to be called. -/
  | notifying (v : T) (rest : List Nat)
  /-- Between the two locks. -/
  | unlocked (v : T)
  deriving DecidableEq

def SetPhase.reads {T : Type} : SetPhase T → Bool
  | .notifying _ _ => true
  | .idle | .unlocked _ => false

/-- `m_val`, the keys of `m_cbs`, `s_fun_id`, the threads, and the calls of listeners so
far. -/
structure ConfigVar (T : Type) where
  val : T
  cbs : List Nat
  funId : Nat
  threads : Nat
  phase : Nat → SetPhase T
  log : List (Notification T)

inductive Label (T : Type) where
  /-- Thread `t` calls `setValue(v)`, takes the read lock and compares. -/
  | setValue (t : Nat) (v : T) (order : List Nat)
  /-- The next step of thread `t` in its call. -/
  | work (t : Nat)
  | addListener
  | delListener (key : Nat)
  | clearListener
  /-- Another variable of the same type gets a listener: `s_fun_id` is shared. -/
  | elsewhere

namespace ConfigVar

variable {T : Type}

/-- The constructor, with threads that may use the variable. -/
def init (defaultValue : T) (threads : Nat) : ConfigVar T where
  val := defaultValue
  cbs := []
  funId := 0
  threads := threads
  phase _ := .idle
  log := []

/-- Thread `t` goes on to `p`. -/
def goOn (s : ConfigVar T) (t : Nat) (p : SetPhase T) : ConfigVar T :=
  { s with phase := fun u => if u = t then p else s.phase u }

/-- No thread holds the read lock, so that the write lock is given. -/
def Unread (s : ConfigVar T) : Prop := ∀ t < s.threads, (s.phase t).reads = false

/-- No call is in progress. -/
def Quiet (s : ConfigVar T) : Prop := ∀ t < s.threads, s.phase t = .idle

instance (s : ConfigVar T) : Decidable s.Unread :=
  inferInstanceAs (Decidable (∀ t < s.threads, (s.phase t).reads = false))

variable [DecidableEq T]

instance (s : ConfigVar T) : Decidable s.Quiet :=
  inferInstanceAs (Decidable (∀ t < s.threads, s.phase t = .idle))

/-- One step of one thread. -/
def next (s : ConfigVar T) : Label T → Option (ConfigVar T)
  | .setValue t v order =>
    if t < s.threads ∧ s.phase t = .idle then
      if v = s.val then some s
      else if order.Perm s.cbs then some (s.goOn t (.notifying v order))
      else none
    else none
  | .work t =>
    match s.phase t with
    | .idle => none
    | .notifying v (key :: rest) =>
      some { s.goOn t (.notifying v rest) with log := s.log ++ [⟨key, s.val, v⟩] }
    | .notifying v [] => some (s.goOn t (.unlocked v))
    | .unlocked v => if s.Unread then some { s.goOn t .idle with val := v } else none
  | .addListener =>
    if s.Unread then some { s with funId := s.funId + 1, cbs := s.cbs ++ [s.funId + 1] } else none
  | .delListener key => if s.Unread then some { s with cbs := s.cbs.erase key } else none
  | .clearListener => if s.Unread then some { s with cbs := [] } else none
  | .elsewhere => some { s with funId := s.funId + 1 }

def step (s : ConfigVar T) (l : Label T) : Option (Unit × ConfigVar T) :=
  (s.next l).map ((), ·)

/-- A call begins to notify only while no other call is in progress. -/
def Apart (s : ConfigVar T) : Label T → Prop
  | .setValue _ v _ => v = s.val ∨ s.Quiet
  | _ => True

instance (s : ConfigVar T) : (l : Label T) → Decidable (s.Apart l)
  | .setValue _ v _ => inferInstanceAs (Decidable (v = s.val ∨ s.Quiet))
  | .work _ | .addListener | .delListener _ | .clearListener | .elsewhere => .isTrue trivial

end ConfigVar

/-! ## What a listener has heard -/

section told

variable {T : Type} {log : List (Notification T)} {k : Nat} {v : T}

/-- The calls of listener `k` so far. -/
def heard (log : List (Notification T)) (k : Nat) : List (Notification T) :=
  log.filter (·.key = k)

/-- Listener `k` has heard a chain of changes, the last of which was to `v`. -/
def Told (log : List (Notification T)) (k : Nat) (v : T) : Prop :=
  (heard log k).IsChain (fun a b => b.oldValue = a.newValue)
    ∧ ∀ n ∈ (heard log k).getLast?, n.newValue = v

instance [DecidableEq T] : Decidable (Told log k v) := inferInstanceAs (Decidable (_ ∧ _))

/-- Who has heard nothing has heard nothing wrong. -/
theorem told_of_unheard (h : ∀ n ∈ log, n.key ≠ k) : Told log k v := by
  have hnil : heard log k = [] := by
    rw [heard, List.filter_eq_nil_iff]
    simpa using h
  simp [Told, hnil]

/-- One more change, from the value that was heard last. -/
theorem Told.append (h : Told log k v) (w : T) : Told (log ++ [⟨k, v, w⟩]) k w := by
  have hheard : heard (log ++ [⟨k, v, w⟩]) k = heard log k ++ [⟨k, v, w⟩] := by simp [heard]
  obtain ⟨hchain, hlast⟩ := h
  refine ⟨?_, by simp [hheard]⟩
  rw [hheard, List.isChain_append]
  refine ⟨hchain, by simp, fun a ha b hb => ?_⟩
  simp only [List.head?_cons, Option.mem_def, Option.some.injEq] at hb
  subst hb
  exact (hlast a ha).symm

/-- A call of another listener. -/
theorem told_append_other {n : Notification T} (hne : n.key ≠ k) :
    Told (log ++ [n]) k v ↔ Told log k v := by
  have hheard : heard (log ++ [n]) k = heard log k := by simp [heard, hne]
  rw [Told, Told, hheard]

end told

namespace ConfigVar

variable {T : Type} {s s' : ConfigVar T} {t : Nat}

@[simp] theorem goOn_phase_self (p : SetPhase T) : (s.goOn t p).phase t = p := by simp [goOn]

theorem goOn_phase_other (p : SetPhase T) {u : Nat} (hne : u ≠ t) :
    (s.goOn t p).phase u = s.phase u := by simp [goOn, hne]

/-! ## One call at a time -/

/-- At most one call is in progress, and what each listener has heard follows from how far it
has got. -/
inductive Stage (s : ConfigVar T) : Prop where
  | quiet (idle : ∀ u, s.phase u = .idle) (told : ∀ k ∈ s.cbs, Told s.log k s.val)
  | notifying (t : Nat) (v : T) (rest : List Nat) (thread : t < s.threads)
      (phase : s.phase t = .notifying v rest) (others : ∀ u, u ≠ t → s.phase u = .idle)
      (once : rest.Nodup) (known : ∀ k ∈ rest, k ∈ s.cbs)
      (told : ∀ k ∈ s.cbs, k ∉ rest → Told s.log k v)
      (untold : ∀ k ∈ rest, Told s.log k s.val)
  | unlocked (t : Nat) (v : T) (thread : t < s.threads) (phase : s.phase t = .unlocked v)
      (others : ∀ u, u ≠ t → s.phase u = .idle) (told : ∀ k ∈ s.cbs, Told s.log k v)

/-- The invariant. A key is given once, so that a new listener has heard nothing. -/
structure Inv (s : ConfigVar T) : Prop where
  keys : s.cbs.Nodup
  given : ∀ k ∈ s.cbs, k ≤ s.funId
  logged : ∀ n ∈ s.log, n.key ≤ s.funId
  stage : Stage s

theorem init_inv (defaultValue : T) (threads : Nat) : Inv (init defaultValue threads) where
  keys := List.nodup_nil
  given := nofun
  logged := nofun
  stage := .quiet (fun _ => rfl) nofun

/-- While no call is in progress every listener has heard of `m_val`. -/
theorem Stage.told_of_quiet (h : Stage s) (hq : s.Quiet) :
    (∀ u, s.phase u = .idle) ∧ ∀ k ∈ s.cbs, Told s.log k s.val := by
  cases h with
  | quiet idle told => exact ⟨idle, told⟩
  | notifying t v rest thread phase =>
    rw [hq t thread] at phase
    cases phase
  | unlocked t v thread phase =>
    rw [hq t thread] at phase
    cases phase

/-- A thread in a call is the one of the stage. -/
theorem eq_of_busy {p : SetPhase T} {u : Nat} (hp : s.phase t = p) (hbusy : p ≠ .idle)
    (others : ∀ w, w ≠ u → s.phase w = .idle) : t = u := by
  by_contra hne
  rw [others t hne] at hp
  exact hbusy hp.symm

/-- The listeners change under the write lock, which keeps the calls that notify out. -/
theorem Stage.listeners (h : Stage s) (hfree : s.Unread) {cbs : List Nat} {funId : Nat}
    (hcbs : ∀ k ∈ cbs, k ∈ s.cbs ∨ ∀ n ∈ s.log, n.key ≠ k) :
    Stage { s with cbs := cbs, funId := funId } := by
  have htold : ∀ v, (∀ k ∈ s.cbs, Told s.log k v) → ∀ k ∈ cbs, Told s.log k v := by
    intro v hv k hk
    rcases hcbs k hk with hold | hnew
    · exact hv k hold
    · exact told_of_unheard hnew
  cases h with
  | quiet idle told => exact .quiet idle (htold s.val told)
  | notifying t v rest thread phase =>
    have := hfree t thread
    rw [phase] at this
    cases this
  | unlocked t v thread phase others told =>
    exact .unlocked t v thread phase others (htold v told)

/-! ## The step lemma -/

/-- A listener is called: it has heard of `m_val`, and now hears of the new value. -/
theorem notify_inv {v : T} {key : Nat} {rest : List Nat} (h : Inv s)
    (hp : s.phase t = .notifying v (key :: rest)) :
    Inv { s.goOn t (.notifying v rest) with log := s.log ++ [⟨key, s.val, v⟩] } := by
  cases h.stage with
  | quiet idle => rw [idle t] at hp; cases hp
  | unlocked u w thread phase others =>
    obtain rfl := eq_of_busy hp nofun others
    rw [phase] at hp
    cases hp
  | notifying u w rest' thread phase others once known told untold =>
    obtain rfl := eq_of_busy hp nofun others
    rw [phase] at hp
    obtain ⟨rfl, rfl⟩ := SetPhase.notifying.inj hp
    rw [List.nodup_cons] at once
    have hkey : key ∈ s.cbs := known key List.mem_cons_self
    refine ⟨h.keys, h.given, ?_, .notifying t w rest thread (goOn_phase_self _) ?_ once.2 ?_ ?_ ?_⟩
    · intro n hn
      rcases List.mem_append.mp hn with hold | hnew
      · exact h.logged n hold
      · rw [List.mem_singleton.mp hnew]
        exact h.given key hkey
    · intro u hu
      rw [goOn_phase_other _ hu, others u hu]
    · exact fun k hk => known k (List.mem_cons_of_mem key hk)
    · intro k hk hnot
      by_cases heq : key = k
      · subst heq
        exact (untold key List.mem_cons_self).append w
      · have hrest : k ∉ key :: rest := by simp [hnot, Ne.symm heq]
        exact (told_append_other heq).mpr (told k hk hrest)
    · intro k hk
      have hne : key ≠ k := fun heq => once.1 (heq ▸ hk)
      exact (told_append_other hne).mpr (untold k (List.mem_cons_of_mem key hk))

/-- The read lock is given back after the last listener. -/
theorem unlock_inv {v : T} (h : Inv s) (hp : s.phase t = .notifying v []) :
    Inv (s.goOn t (.unlocked v)) := by
  cases h.stage with
  | quiet idle => rw [idle t] at hp; cases hp
  | unlocked u w thread phase others =>
    obtain rfl := eq_of_busy hp nofun others
    rw [phase] at hp
    cases hp
  | notifying u w rest thread phase others once known told =>
    obtain rfl := eq_of_busy hp nofun others
    rw [phase] at hp
    obtain ⟨rfl, rfl⟩ := SetPhase.notifying.inj hp
    refine { h with stage := .unlocked t w thread (goOn_phase_self _) ?_ ?_ }
    · intro u hu
      rw [goOn_phase_other _ hu, others u hu]
    · exact fun k hk => told k hk List.not_mem_nil

/-- The value that the listeners have heard of is stored. -/
theorem store_inv {v : T} (h : Inv s) (hp : s.phase t = .unlocked v) :
    Inv { s.goOn t .idle with val := v } := by
  cases h.stage with
  | quiet idle => rw [idle t] at hp; cases hp
  | notifying u w rest thread phase others =>
    obtain rfl := eq_of_busy hp nofun others
    rw [phase] at hp
    cases hp
  | unlocked u w thread phase others told =>
    obtain rfl := eq_of_busy hp nofun others
    rw [phase] at hp
    obtain rfl := SetPhase.unlocked.inj hp
    refine { h with stage := .quiet ?_ told }
    intro u
    by_cases hu : u = t
    · rw [hu]
      exact goOn_phase_self _
    · exact (goOn_phase_other _ hu).trans (others u hu)

section steps

variable [DecidableEq T]

theorem setValue_inv {v : T} {order : List Nat} (h : Inv s)
    (hg : s.Apart (.setValue t v order)) (hs : s.next (.setValue t v order) = some s') :
    Inv s' := by
  simp only [next] at hs
  split at hs
  · next ht =>
    split at hs
    · cases hs
      exact h
    · next hne =>
      split at hs
      · next hperm =>
        cases hs
        obtain ⟨idle, told⟩ := h.stage.told_of_quiet (hg.resolve_left hne)
        have hmem : ∀ k, k ∈ order ↔ k ∈ s.cbs := fun k => hperm.mem_iff
        refine { h with stage := .notifying t v order ht.1 (goOn_phase_self _) ?_ ?_ ?_ ?_ ?_ }
        · intro u hu
          rw [goOn_phase_other _ hu, idle u]
        · exact hperm.nodup_iff.mpr h.keys
        · exact fun k => (hmem k).mp
        · exact fun k hk hnot => absurd ((hmem k).mpr hk) hnot
        · exact fun k hk => told k ((hmem k).mp hk)
      · cases hs
  · cases hs

/-- The step lemma. -/
theorem next_inv {l : Label T} (h : Inv s) (hg : s.Apart l) (hs : s.next l = some s') :
    Inv s' := by
  cases l with
  | setValue t v order => exact setValue_inv h hg hs
  | work t =>
    simp only [next] at hs
    split at hs
    · cases hs
    · next v key rest hp => cases hs; exact notify_inv h hp
    · next v hp => cases hs; exact unlock_inv h hp
    · next v hp =>
      split at hs
      · cases hs; exact store_inv h hp
      · cases hs
  | addListener =>
    simp only [next] at hs
    split at hs
    · next hfree =>
      cases hs
      have hnew : s.funId + 1 ∉ s.cbs := fun hin => absurd (h.given _ hin) (by omega)
      refine ⟨?_, ?_, fun n hn => Nat.le_succ_of_le (h.logged n hn),
        h.stage.listeners hfree ?_⟩
      · rw [List.nodup_append]
        refine ⟨h.keys, by simp, fun k hk m hm heq => hnew ?_⟩
        rwa [← List.mem_singleton.mp hm, ← heq]
      · intro k hk
        rcases List.mem_append.mp hk with hk | hk
        · exact Nat.le_succ_of_le (h.given k hk)
        · exact Nat.le_of_eq (List.mem_singleton.mp hk)
      · intro k hk
        rcases List.mem_append.mp hk with hk | hk
        · exact .inl hk
        · rw [List.mem_singleton.mp hk]
          exact .inr fun n hn heq => absurd (h.logged n hn) (by omega)
    · cases hs
  | delListener key =>
    simp only [next] at hs
    split at hs
    · next hfree =>
      cases hs
      have hsub : ∀ k ∈ s.cbs.erase key, k ∈ s.cbs := fun k => List.mem_of_mem_erase
      exact ⟨h.keys.erase key, fun k hk => h.given k (hsub k hk), h.logged,
        h.stage.listeners hfree fun k hk => .inl (hsub k hk)⟩
    · cases hs
  | clearListener =>
    simp only [next] at hs
    split at hs
    · next hfree =>
      cases hs
      exact ⟨List.nodup_nil, nofun, h.logged, h.stage.listeners hfree nofun⟩
    · cases hs
  | elsewhere =>
    cases hs
    refine ⟨h.keys, fun k hk => Nat.le_succ_of_le (h.given k hk),
      fun n hn => Nat.le_succ_of_le (h.logged n hn), ?_⟩
    cases h.stage with
    | quiet idle told => exact .quiet idle told
    | notifying t v rest thread phase others once known told untold =>
      exact .notifying t v rest thread phase others once known told untold
    | unlocked t v thread phase others told => exact .unlocked t v thread phase others told

/-! ## Every run -/

/-- **Listeners agree with the stored value.** In every run in which a call begins to notify
only while no other is in progress, whenever no call is in progress each registered listener
has heard a chain of changes, and the last one was to `m_val`. -/
theorem listeners_agree (defaultValue : T) (threads : Nat) (labels : List (Label T))
    (os : List Unit) (s : ConfigVar T)
    (hapart : Along step Apart (init defaultValue threads) labels)
    (hrun : run step (init defaultValue threads) labels = some (os, s)) (hquiet : s.Quiet) :
    ∀ k ∈ s.cbs, Told s.log k s.val := by
  have hinv : Inv s := by
    refine run_invariant_along ?_ labels (init_inv defaultValue threads) hapart hrun
    intro s l o s' hi hg hs
    obtain ⟨s1, hnext, heq⟩ := Option.map_eq_some_iff.mp hs
    cases heq
    exact next_inv hi hg hnext
  exact (hinv.stage.told_of_quiet hquiet).2

end steps

/-- Two threads set the value one after the other; the listener hears of both. -/
theorem listeners_agree_two :
    ∃ os s, run step (init 0 2) [.addListener, .setValue 0 1 [1], .work 0, .work 0, .work 0,
        .setValue 1 2 [1], .work 1, .work 1, .work 1] = some (os, s)
      ∧ s.log = [⟨1, 0, 1⟩, ⟨1, 1, 2⟩] ∧ s.val = 2 ∧ ∀ k ∈ s.cbs, Told s.log k s.val :=
  ⟨_, _, rfl, rfl, rfl, listeners_agree 0 2 [.addListener, .setValue 0 1 [1], .work 0, .work 0,
    .work 0, .setValue 1 2 [1], .work 1, .work 1, .work 1] _ _ (by decide) rfl (by decide)⟩

/-- Two threads notify in one order and store in the other: no call is in progress, the
listener has last heard of 2, and 1 is stored. -/
theorem mirror_disagrees :
    ∃ os s, run step (init 0 2) [.addListener, .setValue 0 1 [1], .setValue 1 2 [1], .work 0,
        .work 1, .work 0, .work 1, .work 1, .work 0] = some (os, s)
      ∧ s.Quiet ∧ s.log = [⟨1, 0, 1⟩, ⟨1, 0, 2⟩] ∧ s.val = 1
      ∧ ¬ ∀ k ∈ s.cbs, Told s.log k s.val :=
  ⟨_, _, rfl, by decide, rfl, rfl, by decide⟩

end ConfigVar

end Config

end HrServer
