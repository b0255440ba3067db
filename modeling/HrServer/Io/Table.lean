/-
HrServer.Io.Table — `m_fdContexts` under concurrent `addEvent` calls.

`addEvent` tests the size of the table under the read lock and grows it
under a write lock taken later, to `fd * 1.5` entries. When another call
has grown the table further in between, `resize` cuts it and the contexts
behind the cut are lost (`table_loses_context`).

`table_never_loses` is the positive side: in every run in which
`contextResize` is entered with a size that is not below the current one,
a context stays at its index with its registrations, and all calls for a
descriptor work on one context.
-/
import HrServer.Io.Dispatch

namespace HrServer

open Lib

namespace Io

/-! ## Looking a context up -/

/-- `m_fdContexts[fd]`. An index out of bounds and a null pointer are faults. -/
def lookup (fd : Nat) : Op Nat := do
  match (← get).fdContexts[fd]? with
  | some (some p) => return p
  | _ => throw .dangling

/-- The write-locked part of `addEvent`. -/
def growTo (fd : Nat) : Op Nat := do
  modify (·.contextResize (fd * 3 / 2))
  lookup fd

/-- A context as `contextResize` creates it. -/
def FdContext.fresh (fd : Nat) : FdContext := ⟨.empty, .empty, fd, .NONE⟩

theorem fresh_ordered (fd : Nat) : Ordered (.fresh fd) := by
  intro event
  cases event <;> rfl

theorem fillContexts_none (n i : Nat) (contexts : List FdContext) :
    fillContexts i (List.replicate n none) contexts
      = ((List.range' contexts.length n).map some,
          contexts ++ (List.range' i n).map FdContext.fresh) := by
  induction n generalizing i contexts with
  | zero => simp [fillContexts]
  | succ n ih =>
    rw [List.replicate_succ, fillContexts, ih]
    simp [List.range'_succ, FdContext.fresh]

theorem fillContexts_some (ps : List Nat) (rest : List (Option Nat)) (i : Nat)
    (contexts : List FdContext) :
    fillContexts i (ps.map some ++ rest) contexts
      = (ps.map some ++ (fillContexts (i + ps.length) rest contexts).1,
          (fillContexts (i + ps.length) rest contexts).2) := by
  induction ps generalizing i with
  | nil => rfl
  | cons p ps ih =>
    simp only [List.map_cons, List.cons_append, fillContexts, ih, List.length_cons]
    rw [Nat.add_right_comm i 1, ← Nat.add_assoc]

/-- The table of a manager whose contexts were never cut off: the context with index `fd`
was the one created as number `fd`. -/
structure Tabled (io : IOManager) : Prop where
  table : io.fdContexts = (List.range io.contexts.length).map some
  fd : ∀ (p : Nat) (c : FdContext), io.contexts[p]? = some c → c.fd = p

theorem Tabled.length {io : IOManager} (h : Tabled io) :
    io.fdContexts.length = io.contexts.length := by
  simp [h.table]

theorem Tabled.getElem? {io : IOManager} (h : Tabled io) {fd : Nat}
    (hfd : fd < io.contexts.length) : io.fdContexts[fd]? = some (some fd) := by
  simp [h.table, hfd]

theorem Tabled.lookup {io : IOManager} (h : Tabled io) {fd : Nat}
    (hfd : fd < io.contexts.length) : lookup fd io = .ok fd io := by
  rw [Io.lookup, bind_ok (get_eq io), h.getElem? hfd]
  rfl

/-- `contextResize` to a size that is not below the current one. -/
theorem Tabled.contextResize {io : IOManager} (h : Tabled io) {size : Nat}
    (hsize : io.contexts.length ≤ size) :
    io.contextResize size
      = { io with
          fdContexts := (List.range size).map some
          contexts := io.contexts ++ (List.range' io.contexts.length
            (size - io.contexts.length)).map FdContext.fresh } := by
  have htake : io.fdContexts.take size = (List.range io.contexts.length).map some := by
    rw [List.take_of_length_le (by rw [h.length]; exact hsize), h.table]
  have hrange : List.range size = List.range io.contexts.length
      ++ List.range' io.contexts.length (size - io.contexts.length) := by
    have happend := @List.range'_append_1 0 io.contexts.length (size - io.contexts.length)
    rw [Nat.zero_add, Nat.add_sub_cancel' hsize] at happend
    rw [List.range_eq_range', List.range_eq_range', happend]
  unfold IOManager.contextResize
  simp only [htake, h.length, fillContexts_some, fillContexts_none, hrange]
  simp

theorem Tabled.grown {io : IOManager} (h : Tabled io) {size : Nat}
    (hsize : io.contexts.length ≤ size) : Tabled (io.contextResize size) := by
  rw [h.contextResize hsize]
  refine ⟨?_, ?_⟩
  · simp [Nat.add_sub_cancel' hsize]
  · intro p c hc
    dsimp only at hc
    by_cases hp : p < io.contexts.length
    · rw [List.getElem?_append_left hp] at hc
      exact h.fd p c hc
    · rw [List.getElem?_append_right (by omega), List.getElem?_map, Option.map_eq_some_iff] at hc
      obtain ⟨i, hi, rfl⟩ := hc
      obtain ⟨hlt, hi'⟩ := List.getElem?_eq_some_iff.mp hi
      rw [List.getElem_range'] at hi'
      show i = p
      omega

/-- Replacing a context by one for the same descriptor keeps the table in order. -/
theorem Tabled.set {io io' : IOManager} (h : Tabled io) {p : Nat} {c : FdContext} (hfd : c.fd = p)
    (htable : io'.fdContexts = io.fdContexts) (hcontexts : io'.contexts = io.contexts.set p c) :
    Tabled io' := by
  refine ⟨?_, ?_⟩
  · rw [htable, hcontexts, List.length_set, h.table]
  · intro q d hd
    rw [hcontexts, List.getElem?_set] at hd
    split at hd
    · next heq =>
      split at hd
      · cases hd
        rw [hfd, heq]
      · cases hd
    · exact h.fd q d hd

/-! ## The threads -/

/-- The arguments of an `addEvent` call and what `GetThis()` returns in its thread. -/
structure AddCall where
  fd : Nat
  event : Event
  scheduler : Option Nat
  fiber : Nat
  cb : Option Nat
  deriving DecidableEq

/-- Where a thread stands in `addEvent`. -/
inductive Phase where
  | idle
  /-- The table was too small; the read lock is given back. -/
  | outOfRange (call : AddCall)
  /-- `fd_ctx` is found. -/
  | found (call : AddCall) (p : Nat)
  deriving DecidableEq

structure Threads where
  io : IOManager
  phase : Nat → Phase

def Threads.set (s : Threads) (t : Nat) (phase : Phase) : Threads :=
  { s with phase := fun u => if u = t then phase else s.phase u }

/-- The next part of the call of thread `t`. -/
inductive Part where
  | lookup (t : Nat) (call : AddCall)
  | grow (t : Nat)
  | register (t : Nat) (ok : Bool)
  deriving DecidableEq

/-- What a part has done: `fd_ctx` was assigned for a descriptor, or not. -/
inductive Seen where
  | nothing
  | context (fd p : Nat)
  deriving DecidableEq

/-- The system. A fault ends the process. -/
def tableStep (s : Threads) : Part → Option (Seen × Threads)
  | .lookup t call =>
    match s.phase t with
    | .idle =>
      if s.io.fdContexts.length > call.fd then
        match lookup call.fd s.io with
        | .ok p io => some (.context call.fd p, { s with io := io }.set t (.found call p))
        | .error _ _ => none
      else some (.nothing, s.set t (.outOfRange call))
    | _ => none
  | .grow t =>
    match s.phase t with
    | .outOfRange call =>
      match growTo call.fd s.io with
      | .ok p io => some (.context call.fd p, { s with io := io }.set t (.found call p))
      | .error _ _ => none
    | _ => none
  | .register t ok =>
    match s.phase t with
    | .found call p =>
      match addEvent p call.event call.scheduler call.fiber call.cb ok s.io with
      | .ok _ io => some (.nothing, { s with io := io }.set t .idle)
      | .error _ _ => none
    | _ => none

/-- The manager of `new`, and no call under way. -/
def Threads.start (threads : Nat) : Threads := ⟨new threads, fun _ => .idle⟩

/-- `contextResize` does not cut the table. -/
def KeepsSize (s : Threads) : Part → Prop
  | .grow t =>
    match s.phase t with
    | .outOfRange call => s.io.fdContexts.length ≤ call.fd * 3 / 2
    | _ => True
  | _ => True

instance (s : Threads) : (part : Part) → Decidable (KeepsSize s part)
  | .grow t =>
    match h : s.phase t with
    | .outOfRange call =>
      decidable_of_iff (s.io.fdContexts.length ≤ call.fd * 3 / 2) (by simp only [KeepsSize, h])
    | .idle => .isTrue (by simp only [KeepsSize, h])
    | .found _ _ => .isTrue (by simp only [KeepsSize, h])
  | .lookup _ _ => .isTrue trivial
  | .register _ _ => .isTrue trivial

theorem tableStep_cases {s s' : Threads} {part : Part} {r : Seen}
    (h : tableStep s part = some (r, s')) :
    (∃ t call p io, part = .lookup t call ∧ s.phase t = .idle
        ∧ call.fd < s.io.fdContexts.length ∧ lookup call.fd s.io = .ok p io
        ∧ r = .context call.fd p ∧ s' = { s with io := io }.set t (.found call p))
      ∨ (∃ t call, part = .lookup t call ∧ s.phase t = .idle
        ∧ s.io.fdContexts.length ≤ call.fd ∧ r = .nothing ∧ s' = s.set t (.outOfRange call))
      ∨ (∃ t call p io, part = .grow t ∧ s.phase t = .outOfRange call
        ∧ growTo call.fd s.io = .ok p io
        ∧ r = .context call.fd p ∧ s' = { s with io := io }.set t (.found call p))
      ∨ (∃ t call p ok rt io, part = .register t ok ∧ s.phase t = .found call p
        ∧ addEvent p call.event call.scheduler call.fiber call.cb ok s.io = .ok rt io
        ∧ r = .nothing ∧ s' = { s with io := io }.set t .idle) := by
  cases part with
  | lookup t call =>
    simp only [tableStep] at h
    cases hph : s.phase t with
    | idle =>
      rw [hph] at h
      dsimp only at h
      split at h
      · next hlt =>
        cases hl : lookup call.fd s.io with
        | ok p io =>
          rw [hl] at h
          cases h
          exact .inl ⟨t, call, p, io, rfl, hph, hlt, hl, rfl, rfl⟩
        | error f io =>
          rw [hl] at h
          cases h
      · next hge =>
        cases h
        exact .inr (.inl ⟨t, call, rfl, hph, Nat.not_lt.mp hge, rfl, rfl⟩)
    | outOfRange c => rw [hph] at h; cases h
    | found c p => rw [hph] at h; cases h
  | grow t =>
    simp only [tableStep] at h
    cases hph : s.phase t with
    | idle => rw [hph] at h; cases h
    | outOfRange call =>
      rw [hph] at h
      dsimp only at h
      cases hg : growTo call.fd s.io with
      | ok p io =>
        rw [hg] at h
        cases h
        exact .inr (.inr (.inl ⟨t, call, p, io, rfl, hph, hg, rfl, rfl⟩))
      | error f io =>
        rw [hg] at h
        cases h
    | found c p => rw [hph] at h; cases h
  | register t ok =>
    simp only [tableStep] at h
    cases hph : s.phase t with
    | idle => rw [hph] at h; cases h
    | outOfRange c => rw [hph] at h; cases h
    | found call p =>
      rw [hph] at h
      dsimp only at h
      cases hadd : addEvent p call.event call.scheduler call.fiber call.cb ok s.io with
      | ok rt io =>
        rw [hadd] at h
        cases h
        exact .inr (.inr (.inr ⟨t, call, p, ok, rt, io, rfl, hph, hadd, rfl, rfl⟩))
      | error f io =>
        rw [hadd] at h
        cases h

/-! ## What a part does to the table -/

/-- `m_fdContexts` and the contexts behind it, before and after: no entry is lost, and
every registration is still there. -/
structure Extends (io io' : IOManager) : Prop where
  size : io.fdContexts.length ≤ io'.fdContexts.length
  entry : ∀ i p : Nat, io.fdContexts[i]? = some (some p) → io'.fdContexts[i]? = some (some p)
  kept : ∀ (p : Nat) (c : FdContext), io.contexts[p]? = some c →
    ∃ c', io'.contexts[p]? = some c' ∧ c'.fd = c.fd
      ∧ ∀ e, c.events.has e = true → c'.events.has e = true ∧ c'.getContext e = c.getContext e

theorem Extends.refl (io : IOManager) : Extends io io :=
  ⟨Nat.le_refl _, fun _ _ h => h, fun _ c h => ⟨c, h, rfl, fun _ he => ⟨he, rfl⟩⟩⟩

theorem Extends.trans {io io1 io2 : IOManager} (h : Extends io io1) (h' : Extends io1 io2) :
    Extends io io2 := by
  refine ⟨h.size.trans h'.size, fun i p hi => h'.entry i p (h.entry i p hi), ?_⟩
  intro p c hc
  obtain ⟨c1, hc1, hfd1, hev1⟩ := h.kept p c hc
  obtain ⟨c2, hc2, hfd2, hev2⟩ := h'.kept p c1 hc1
  refine ⟨c2, hc2, hfd2.trans hfd1, fun e he => ?_⟩
  obtain ⟨he1, hctx1⟩ := hev1 e he
  obtain ⟨he2, hctx2⟩ := hev2 e he1
  exact ⟨he2, hctx2.trans hctx1⟩

theorem Tabled.extends_grown {io : IOManager} (h : Tabled io) {size : Nat}
    (hsize : io.contexts.length ≤ size) : Extends io (io.contextResize size) := by
  rw [h.contextResize hsize]
  refine ⟨by simpa [h.length] using hsize, ?_, ?_⟩
  · intro i p hi
    rw [h.table] at hi
    simp only [List.getElem?_map, Option.map_eq_some_iff, Option.some.injEq] at hi ⊢
    obtain ⟨k, hk, rfl⟩ := hi
    obtain ⟨hlt, heq⟩ := List.getElem?_eq_some_iff.mp hk
    rw [List.length_range] at hlt
    rw [List.getElem_range] at heq
    exact ⟨k, by rw [List.getElem?_range (by omega), heq], rfl⟩
  · intro p c hc
    obtain ⟨hlt, -⟩ := List.getElem?_eq_some_iff.mp hc
    exact ⟨c, by rw [List.getElem?_append_left hlt, hc], rfl, fun _ he => ⟨he, rfl⟩⟩

/-- One context is replaced by one that keeps its registrations. -/
theorem Extends.set {io io' : IOManager} {p : Nat} {c c' : FdContext}
    (htable : io'.fdContexts = io.fdContexts) (hcontexts : io'.contexts = io.contexts.set p c')
    (hc : io.contexts[p]? = some c) (hfd : c'.fd = c.fd)
    (hev : ∀ e, c.events.has e = true → c'.events.has e = true ∧ c'.getContext e = c.getContext e) :
    Extends io io' := by
  refine ⟨by rw [htable], fun i q hi => by rw [htable, hi], ?_⟩
  intro q d hd
  obtain ⟨hlt, -⟩ := List.getElem?_eq_some_iff.mp hc
  by_cases hq : p = q
  · subst hq
    rw [hc] at hd
    cases hd
    exact ⟨c', by rw [hcontexts, List.getElem?_set_self hlt], hfd, hev⟩
  · exact ⟨d, by rw [hcontexts, List.getElem?_set_ne hq, hd], rfl, fun _ he => ⟨he, rfl⟩⟩

/-- An `addEvent` that returned has at most added a registration to its context. -/
theorem addEvent_ok {io io' : IOManager} {p : Nat} {c : FdContext} {event : Event}
    {scheduler : Option Nat} {fiber : Nat} {cb : Option Nat} {ok : Bool} {rt : Int}
    (hc : io.contexts[p]? = some c)
    (h : addEvent p event scheduler fiber cb ok io = .ok rt io') :
    io'.fdContexts = io.fdContexts ∧ ∃ c', io'.contexts = io.contexts.set p c' ∧ c'.fd = c.fd
      ∧ ∀ e, c.events.has e = true → c'.events.has e = true ∧ c'.getContext e = c.getContext e := by
  have hsame : io.contexts = io.contexts.set p c := by
    obtain ⟨hlt, hget⟩ := List.getElem?_eq_some_iff.mp hc
    rw [← hget, List.set_getElem_self]
  cases hev : c.events.has event with
  | true =>
    rw [addEvent, bind_ok (deref_eq hc), hev] at h
    cases h
  | false =>
    by_cases hctx : c.getContext event = .empty
    · rw [addEvent_eq hc hev hctx] at h
      split at h
      · cases h
        refine ⟨rfl, _, rfl, registered_fd _ _ _, fun e he => ?_⟩
        have hne : e ≠ event := by
          rintro rfl
          rw [hev] at he
          cases he
        simp [Events.has_add, registered_getContext, he, hne]
      · cases h
        exact ⟨rfl, c, hsame, rfl, fun _ he => ⟨he, rfl⟩⟩
    · rw [addEvent, bind_ok (deref_eq hc)] at h
      simp only [hev, Bool.not_false] at h
      rw [bind_ok (assert_true _ io)] at h
      cases ok with
      | false =>
        cases h
        exact ⟨rfl, c, hsame, rfl, fun _ he => ⟨he, rfl⟩⟩
      | true =>
        -- the second assertion of `addEvent` fails
        simp only [epollCtl, getContext_events, hctx, decide_false] at h
        cases h

/-! ## Runs -/

/-- What holds between two parts: the table is in order, and a context that was found for a
descriptor is the one at its index. -/
structure Sound (s : Threads) : Prop where
  tabled : Tabled s.io
  large : 32 ≤ s.io.contexts.length
  found : ∀ t call p, s.phase t = .found call p → p = call.fd ∧ p < s.io.contexts.length

/-- The thread that moves finds a context, or leaves the function. -/
theorem Sound.set {s : Threads} {io : IOManager} (h : Sound s) (htabled : Tabled io)
    (hlen : s.io.contexts.length ≤ io.contexts.length) (t : Nat) {phase : Phase}
    (hphase : ∀ call p, phase = .found call p → p = call.fd ∧ p < io.contexts.length) :
    Sound ({ s with io := io }.set t phase) := by
  refine ⟨htabled, h.large.trans hlen, ?_⟩
  intro u call p hu
  simp only [Threads.set] at hu
  split at hu
  · exact hphase call p hu
  · obtain ⟨h1, h2⟩ := h.found u call p hu
    exact ⟨h1, Nat.lt_of_lt_of_le h2 hlen⟩

/-- The step lemma. -/
theorem tableStep_sound {s s' : Threads} {part : Part} {r : Seen} (h : Sound s)
    (hkeep : KeepsSize s part) (hstep : tableStep s part = some (r, s')) :
    (Sound s' ∧ Extends s.io s'.io) ∧ ∀ fd p, r = .context fd p → p = fd := by
  rcases tableStep_cases hstep with ⟨t, call, p, io, rfl, hph, hlt, hl, rfl, rfl⟩
    | ⟨t, call, rfl, hph, hge, rfl, rfl⟩ | ⟨t, call, p, io, rfl, hph, hg, rfl, rfl⟩
    | ⟨t, call, p, ok, rt, io, rfl, hph, hadd, rfl, rfl⟩
  · rw [h.tabled.length] at hlt
    rw [h.tabled.lookup hlt] at hl
    cases hl
    refine ⟨⟨h.set h.tabled (Nat.le_refl _) t ?_, .refl _⟩, ?_⟩
    · rintro call' p' ⟨⟩
      exact ⟨rfl, hlt⟩
    · rintro fd p ⟨⟩
      rfl
  · exact ⟨⟨h.set h.tabled (Nat.le_refl _) t nofun, .refl _⟩, nofun⟩
  · simp only [KeepsSize, hph, h.tabled.length] at hkeep
    have hlarge := h.large
    have hgrown := h.tabled.grown hkeep
    have hlen : (s.io.contextResize (call.fd * 3 / 2)).contexts.length = call.fd * 3 / 2 := by
      rw [h.tabled.contextResize hkeep]
      simp [Nat.add_sub_cancel' hkeep]
    -- the table has at least 32 entries, so `fd * 1.5` is beyond `fd`
    have hfd : call.fd < (s.io.contextResize (call.fd * 3 / 2)).contexts.length := by omega
    rw [growTo, bind_ok (modify_eq _ _), hgrown.lookup hfd] at hg
    cases hg
    refine ⟨⟨h.set hgrown (by omega) t ?_, h.tabled.extends_grown hkeep⟩, ?_⟩
    · rintro call' p' ⟨⟩
      exact ⟨rfl, hfd⟩
    · rintro fd p ⟨⟩
      rfl
  · obtain ⟨rfl, hlt⟩ := h.found t call p hph
    obtain ⟨c, hc⟩ : ∃ c, s.io.contexts[call.fd]? = some c := ⟨_, List.getElem?_eq_getElem hlt⟩
    obtain ⟨htable, c', hcontexts, hfd, hev⟩ := addEvent_ok hc hadd
    have htabled : Tabled io := h.tabled.set (hfd.trans (h.tabled.fd _ _ hc)) htable hcontexts
    refine ⟨⟨h.set htabled (by rw [hcontexts, List.length_set]) t nofun, ?_⟩, nofun⟩
    exact .set htable hcontexts hc hfd hev

/-- The manager before the constructor calls `contextResize`. -/
def blank (threads : Nat) : IOManager :=
  { contexts := [], fdContexts := [], pendingEventCount := 0, epoll := fun _ => none,
    scheduled := [], batches := List.replicate threads [] }

theorem new_eq (threads : Nat) : new threads = (blank threads).contextResize 32 := rfl

theorem tabled_blank (threads : Nat) : Tabled (blank threads) := ⟨rfl, nofun⟩

theorem tabled_new (threads : Nat) : Tabled (new threads) := by
  rw [new_eq]
  exact (tabled_blank threads).grown (Nat.zero_le 32)

theorem length_new (threads : Nat) : (new threads).contexts.length = 32 := by
  rw [new_eq, (tabled_blank threads).contextResize (Nat.zero_le 32)]
  simp [blank]

theorem start_sound (threads : Nat) : Sound (.start threads) :=
  ⟨tabled_new threads, Nat.le_of_eq (length_new threads).symm, nofun⟩

/-- A run from a sound state: nothing is lost, and every call finds the context with the
number of its descriptor. -/
theorem run_sound {s s' : Threads} {parts : List Part} {rs : List Seen} (h : Sound s)
    (hkeep : Along tableStep KeepsSize s parts) (hrun : run tableStep s parts = some (rs, s')) :
    (Sound s' ∧ Extends s.io s'.io) ∧ ∀ r ∈ rs, ∀ fd p, r = .context fd p → p = fd := by
  refine run_outputs_along (I := fun s1 => Sound s1 ∧ Extends s.io s1.io) ?_ parts
    ⟨h, .refl s.io⟩ hkeep hrun
  rintro s1 part r s2 ⟨hs1, hext⟩ hg hstep
  obtain ⟨⟨hs2, hext'⟩, hr⟩ := tableStep_sound hs1 hg hstep
  exact ⟨⟨hs2, hext.trans hext'⟩, hr⟩

/-- In every run in which `contextResize` never gets a size below the current one: from any
state of the run to any later one the table does not shrink, an entry stays at its index,
a context keeps its registrations, and all calls for a descriptor have used one context. -/
theorem table_never_loses (threads : Nat) (before after : List Part) (rs rs' : List Seen)
    (s s' : Threads) (hbefore : Along tableStep KeepsSize (.start threads) before)
    (hrun : run tableStep (.start threads) before = some (rs, s))
    (hafter : Along tableStep KeepsSize s after) (hrun' : run tableStep s after = some (rs', s')) :
    Extends s.io s'.io
      ∧ ∀ fd p q, .context fd p ∈ rs ++ rs' → .context fd q ∈ rs ++ rs' → p = q := by
  obtain ⟨⟨hs, -⟩, hrs⟩ := run_sound (start_sound threads) hbefore hrun
  obtain ⟨⟨-, hext⟩, hrs'⟩ := run_sound hs hafter hrun'
  have hfound : ∀ fd p, Seen.context fd p ∈ rs ++ rs' → p = fd := by
    intro fd p hmem
    rcases List.mem_append.mp hmem with hmem | hmem
    · exact hrs _ hmem fd p rfl
    · exact hrs' _ hmem fd p rfl
  exact ⟨hext, fun fd p q hp hq => (hfound fd p hp).trans (hfound fd q hq).symm⟩

/-- Two threads grow the table in the order of their descriptors. -/
theorem table_never_loses_ordered :
    ∃ rs s rs' s', run tableStep (.start 1) [.lookup 0 ⟨40, .READ, some 0, 1, none⟩,
        .lookup 1 ⟨100, .READ, some 0, 2, none⟩, .grow 0, .register 0 true] = some (rs, s)
      ∧ run tableStep s [.grow 1, .register 1 true] = some (rs', s')
      ∧ Extends s.io s'.io
      ∧ ∀ fd p q, .context fd p ∈ rs ++ rs' → .context fd q ∈ rs ++ rs' → p = q :=
  ⟨_, _, _, _, rfl, rfl, table_never_loses 1 [.lookup 0 ⟨40, .READ, some 0, 1, none⟩,
    .lookup 1 ⟨100, .READ, some 0, 2, none⟩, .grow 0, .register 0 true]
    [.grow 1, .register 1 true] _ _ _ _ (by decide) rfl (by decide) rfl⟩

/-- Thread 0 finds the table too small for descriptor 40; thread 1 grows it to 150 entries
and registers on descriptor 100; then thread 0 cuts it to 60 entries. The next call for
descriptor 100 gets another context. -/
theorem table_loses_context :
    let cut : List Part := [.lookup 0 ⟨40, .READ, some 0, 1, none⟩,
      .lookup 1 ⟨100, .READ, some 0, 2, none⟩, .grow 1, .register 1 true, .grow 0]
    (run tableStep (.start 1) (cut.take 4)).map (·.2.io.fdContexts.length) = some 150
      ∧ (run tableStep (.start 1) cut).map (·.2.io.fdContexts.length) = some 60
      ∧ (run tableStep (.start 1) (cut ++ [.lookup 1 ⟨100, .WRITE, some 0, 2, none⟩,
          .register 0 true, .grow 1])).map (·.1)
        = some [.nothing, .nothing, .context 100 100, .nothing, .context 40 40, .nothing, .nothing,
          .context 100 190] := by
  decide +kernel

end Io

end HrServer
