/-
HrServer.Hook.FdManager — `FdManager::get` and `del` of
`sylar/fd_manager.cc` in any number of threads.

`get(fd, true)` looks for the `FdCtx` under the read lock. When there is
none it takes the write lock, creates one and stores it, without looking
again: another thread that was in the same place has then stored its own,
and the two callers work on different objects (`two_contexts`).

`one_context` is the positive side. When a context is stored only where
there is none, all non-null results for a descriptor between two `del` of
it are one object, so that what is set through one of them is seen
through the others.
-/
import HrServer.Lib.Run

namespace HrServer

open Lib

namespace Hook

/-- `m_datas`, as pointers to the `FdCtx` objects, which are numbered as they are created. -/
structure FdManager where
  datas : List (Option Nat)
  created : Nat
  deriving DecidableEq

/-- Where a thread stands in `get(fd, true)`. -/
inductive GetPhase where
  | idle
  /-- Nothing was found; the read lock is given back. -/
  | missing (fd : Nat)
  deriving DecidableEq

structure Getters where
  manager : FdManager
  phase : Nat → GetPhase

/-- The next critical section of thread `t`. -/
inductive GetPart where
  /-- `get(fd, autoCreate)`, up to the end of the read lock. -/
  | get (t fd : Nat) (autoCreate : Bool)
  /-- The rest of it, under the write lock. -/
  | create (t : Nat)
  | del (fd : Nat)
  deriving DecidableEq

/-- What a critical section has done. -/
inductive FdEvent where
  /-- `get` goes on. -/
  | unlocked
  /-- `get(fd)` returns a pointer, `none` is the null pointer. -/
  | got (fd : Nat) (ctx : Option Nat)
  | deleted (fd : Nat)
  deriving DecidableEq

namespace FdManager

/-- The constructor. -/
def new : FdManager := ⟨List.replicate 64 none, 0⟩

/-- `m_datas[fd]`, null where the table ends. -/
def lookup (m : FdManager) (fd : Nat) : Option Nat := (m.datas[fd]?).join

/-- `m_datas` with room for `fd`: `resize(fd * 1.5)` when it is too small. -/
def enlarged (m : FdManager) (fd : Nat) : List (Option Nat) :=
  if m.datas.length ≤ fd then
    m.datas ++ List.replicate (fd * 3 / 2 - m.datas.length) none
  else m.datas

/-- The write-locked part of `get`: a new object is stored and returned. Storing behind the
end of the table is a fault. -/
def create (m : FdManager) (fd : Nat) : Option (Nat × FdManager) :=
  if fd < (m.enlarged fd).length then
    some (m.created, ⟨(m.enlarged fd).set fd (some m.created), m.created + 1⟩)
  else none

def del (m : FdManager) (fd : Nat) : FdManager :=
  if m.datas.length ≤ fd then m else { m with datas := m.datas.set fd none }

end FdManager

def Getters.start : Getters := ⟨.new, fun _ => .idle⟩

def Getters.set (s : Getters) (t : Nat) (phase : GetPhase) : Getters :=
  { s with phase := fun u => if u = t then phase else s.phase u }

def getStep (s : Getters) : GetPart → Option (FdEvent × Getters)
  | .get t fd autoCreate =>
    match s.phase t with
    | .idle =>
      match s.manager.lookup fd, autoCreate with
      | some ctx, _ => some (.got fd (some ctx), s)
      | none, false => some (.got fd none, s)
      | none, true => some (.unlocked, s.set t (.missing fd))
    | .missing _ => none
  | .create t =>
    match s.phase t with
    | .missing fd =>
      match s.manager.create fd with
      | some (ctx, m) => some (.got fd (some ctx), { s with manager := m }.set t .idle)
      | none => none
    | .idle => none
  | .del fd => some (.deleted fd, { s with manager := s.manager.del fd })

/-- A context is stored where there is none. -/
def StoresFirst (s : Getters) : GetPart → Prop
  | .create t =>
    match s.phase t with
    | .missing fd => s.manager.lookup fd = none
    | .idle => True
  | _ => True

instance (s : Getters) : (part : GetPart) → Decidable (StoresFirst s part)
  | .create t =>
    match h : s.phase t with
    | .missing fd => decidable_of_iff (s.manager.lookup fd = none) (by simp only [StoresFirst, h])
    | .idle => .isTrue (by simp only [StoresFirst, h])
  | .get _ _ _ => .isTrue trivial
  | .del _ => .isTrue trivial

/-! ## One critical section -/

theorem getStep_cases {s s' : Getters} {part : GetPart} {e : FdEvent}
    (h : getStep s part = some (e, s')) :
    (∃ t fd autoCreate, part = .get t fd autoCreate
        ∧ (e = .got fd (s.manager.lookup fd) ∧ s' = s
          ∨ e = .unlocked ∧ s' = s.set t (.missing fd)))
      ∨ (∃ t fd ctx m, part = .create t ∧ s.phase t = .missing fd
        ∧ s.manager.create fd = some (ctx, m) ∧ e = .got fd (some ctx)
        ∧ s' = { s with manager := m }.set t .idle)
      ∨ (∃ fd, part = .del fd ∧ e = .deleted fd ∧ s' = { s with manager := s.manager.del fd }) := by
  cases part with
  | get t fd autoCreate =>
    refine .inl ⟨t, fd, autoCreate, rfl, ?_⟩
    simp only [getStep] at h
    cases hph : s.phase t with
    | missing g => rw [hph] at h; cases h
    | idle =>
      rw [hph] at h
      cases hat : s.manager.lookup fd with
      | some ctx =>
        rw [hat] at h
        cases h
        exact .inl ⟨rfl, rfl⟩
      | none =>
        rw [hat] at h
        cases autoCreate with
        | false =>
          cases h
          exact .inl ⟨rfl, rfl⟩
        | true =>
          cases h
          exact .inr ⟨rfl, rfl⟩
  | create t =>
    simp only [getStep] at h
    cases hph : s.phase t with
    | idle => rw [hph] at h; cases h
    | missing fd =>
      rw [hph] at h
      dsimp only at h
      cases hc : s.manager.create fd with
      | none => rw [hc] at h; cases h
      | some r =>
        obtain ⟨ctx, m⟩ := r
        rw [hc] at h
        cases h
        exact .inr (.inl ⟨t, fd, ctx, m, rfl, hph, hc, rfl, rfl⟩)
  | del fd =>
    cases h
    exact .inr (.inr ⟨fd, rfl, rfl, rfl⟩)

namespace FdManager

theorem join_enlarged (m : FdManager) (fd g : Nat) : ((m.enlarged fd)[g]?).join = m.lookup g := by
  unfold enlarged lookup
  split
  · by_cases hg : g < m.datas.length
    · rw [List.getElem?_append_left hg]
    · rw [List.getElem?_append_right (by omega), List.getElem?_replicate,
        List.getElem?_eq_none (Nat.le_of_not_lt hg)]
      split <;> rfl
  · rfl

/-- The stored context is found; the others stay. -/
theorem lookup_create {m m' : FdManager} {fd ctx : Nat} (h : m.create fd = some (ctx, m'))
    (g : Nat) :
    m'.lookup g = if g = fd then some ctx else m.lookup g := by
  unfold create at h
  split at h
  · next hlt =>
    cases h
    by_cases hg : g = fd
    · subst hg
      simp [lookup, hlt]
    · rw [if_neg hg, ← join_enlarged m fd g, lookup, List.getElem?_set_ne (Ne.symm hg)]
  · cases h

theorem lookup_del (m : FdManager) (fd g : Nat) :
    (m.del fd).lookup g = if g = fd then none else m.lookup g := by
  unfold del
  split
  · next hle =>
    split
    · next hg =>
      rw [hg, lookup, List.getElem?_eq_none hle]
      rfl
    · rfl
  · next hlt =>
    by_cases hg : g = fd
    · subst hg
      simp [lookup, Nat.lt_of_not_le hlt]
    · rw [if_neg hg, lookup, List.getElem?_set_ne (Ne.symm hg)]
      rfl

end FdManager

/-- A context that was returned stands in the table. -/
theorem lookup_of_got {s s' : Getters} {part : GetPart} {fd ctx : Nat}
    (h : getStep s part = some (.got fd (some ctx), s')) : s'.manager.lookup fd = some ctx := by
  rcases getStep_cases h with ⟨t, g, autoCreate, -, ⟨he, rfl⟩ | ⟨he, -⟩⟩
    | ⟨t, g, c, m, -, -, hc, he, rfl⟩ | ⟨g, -, he, -⟩
  · obtain ⟨rfl, hctx⟩ := FdEvent.got.inj he
    exact hctx.symm
  · cases he
  · cases he
    exact (FdManager.lookup_create hc fd).trans (if_pos rfl)
  · cases he

/-- The step lemma: a context in the table stays there until a `del`, and is what `get`
returns. -/
theorem kept_of_step {s s' : Getters} {part : GetPart} {e : FdEvent} {fd ctx : Nat}
    (hfirst : StoresFirst s part) (h : getStep s part = some (e, s'))
    (hctx : s.manager.lookup fd = some ctx) (hdel : e ≠ .deleted fd) :
    s'.manager.lookup fd = some ctx ∧ ∀ q, e = .got fd (some q) → q = ctx := by
  rcases getStep_cases h with ⟨t, g, autoCreate, -, ⟨rfl, rfl⟩ | ⟨rfl, rfl⟩⟩
    | ⟨t, g, c, m, rfl, hph, hc, rfl, rfl⟩ | ⟨g, -, rfl, rfl⟩
  · refine ⟨hctx, fun q hq => ?_⟩
    obtain ⟨rfl, hq'⟩ := FdEvent.got.inj hq
    rw [hctx] at hq'
    exact (Option.some.inj hq').symm
  · exact ⟨hctx, nofun⟩
  · simp only [StoresFirst, hph] at hfirst
    have hne : fd ≠ g := by
      rintro rfl
      rw [hfirst] at hctx
      cases hctx
    refine ⟨?_, fun q hq => ?_⟩
    · refine (FdManager.lookup_create hc fd).trans ?_
      rw [if_neg hne, hctx]
    · cases hq
      exact absurd rfl hne
  · have hne : fd ≠ g := fun heq => hdel (heq ▸ rfl)
    refine ⟨?_, nofun⟩
    refine (s.manager.lookup_del g fd).trans ?_
    rw [if_neg hne, hctx]

/-! ## Runs -/

section runs

variable {s s' : Getters} {parts : List GetPart} {es : List FdEvent} {fd p q : Nat}

/-- While a context stands in the table, `get` returns it. -/
theorem got_of_lookup (hfirst : Along getStep StoresFirst s parts)
    (hrun : run getStep s parts = some (es, s')) (hp : s.manager.lookup fd = some p)
    {between later : List FdEvent} (hes : es = between ++ .got fd (some q) :: later)
    (hdel : .deleted fd ∉ between) : q = p := by
  induction parts generalizing s es between with
  | nil =>
    cases hrun
    exact absurd hes (by simp)
  | cons part parts ih =>
    obtain ⟨e, s1, es', hstep, hrun', rfl⟩ := run_cons hrun
    cases between with
    | nil =>
      cases hes
      exact (kept_of_step hfirst.1 hstep hp nofun).2 q rfl
    | cons x between =>
      obtain ⟨rfl, hes'⟩ := List.cons.inj hes
      have hne : e ≠ .deleted fd := fun h => hdel (h ▸ List.mem_cons_self)
      have hp1 := (kept_of_step hfirst.1 hstep hp hne).1
      exact ih (hfirst.2 e s1 hstep) hrun' hp1 hes' fun h => hdel (List.mem_cons_of_mem e h)

/-- Two results for a descriptor without a `del` between them are one object. -/
theorem got_twice (hfirst : Along getStep StoresFirst s parts)
    (hrun : run getStep s parts = some (es, s')) {before between later : List FdEvent}
    (hes : es = before ++ .got fd (some p) :: (between ++ .got fd (some q) :: later))
    (hdel : .deleted fd ∉ between) : p = q := by
  induction parts generalizing s es before with
  | nil =>
    cases hrun
    exact absurd hes (by simp)
  | cons part parts ih =>
    obtain ⟨e, s1, es', hstep, hrun', rfl⟩ := run_cons hrun
    have hfirst' := hfirst.2 e s1 hstep
    cases before with
    | nil =>
      obtain ⟨rfl, hes'⟩ := List.cons.inj hes
      exact (got_of_lookup hfirst' hrun' (lookup_of_got hstep) hes' hdel).symm
    | cons x before => exact ih hfirst' hrun' (List.cons.inj hes).2

end runs

/-- All non-null results of `get` for a descriptor between two `del` of it are one object. -/
def OneContext (es : List FdEvent) : Prop :=
  ∀ (fd p q : Nat) (before between later : List FdEvent),
    es = before ++ .got fd (some p) :: (between ++ .got fd (some q) :: later) →
    .deleted fd ∉ between → p = q

/-- In every run in which a context is stored only where there is none, there is one
context for a descriptor between two `del` of it. -/
theorem one_context (parts : List GetPart) (es : List FdEvent) (s : Getters)
    (hfirst : Along getStep StoresFirst .start parts)
    (hrun : run getStep .start parts = some (es, s)) : OneContext es :=
  fun _ _ _ _ _ _ hes hdel => got_twice hfirst hrun hes hdel

/-- A context is created by one thread and found by another; after a `del` there is a new
one. -/
theorem one_context_found :
    ∃ es s, run getStep .start [.get 0 70 true, .create 0, .get 1 70 true, .del 70, .get 1 70 true,
        .create 1] = some (es, s)
      ∧ es = [.unlocked, .got 70 (some 0), .got 70 (some 0), .deleted 70, .unlocked,
          .got 70 (some 1)]
      ∧ OneContext es :=
  ⟨_, _, rfl, rfl, one_context [.get 0 70 true, .create 0, .get 1 70 true, .del 70, .get 1 70 true,
    .create 1] _ _ (by decide) rfl⟩

/-- Two threads find nothing and create a context each: they get two objects for one
descriptor. -/
theorem two_contexts :
    ∃ es s, run getStep .start [.get 0 5 true, .get 1 5 true, .create 0, .create 1] = some (es, s)
      ∧ ¬ OneContext es :=
  ⟨_, _, rfl, fun h => absurd (h 5 0 1 [.unlocked, .unlocked] [] [] rfl (by decide)) (by decide)⟩

end Hook

end HrServer
