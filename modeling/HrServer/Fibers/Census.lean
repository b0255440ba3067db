/-
HrServer.Fibers.Census — the number of fibers and their ids.

`sylar/fiber.cc` keeps two counters, `s_fiber_id` and `s_fiber_count`, but
only the second is used: the constructor with a callback increments it
twice, once to take the id and once to count the fiber, and the destructor
decrements it once. `TotalFibers()` is therefore too high by the number of
fibers that were ever created with a callback, and the counter can come
back to a value it has already given out as an id
(`census_drifts`).

`fiber_accounting` says exactly when the two halves hold: the count is
right as long as no fiber with a callback was created, and the ids of live
fibers are distinct as long as the counter does not come back while the
first of the two fibers is alive.

The objects are numbered as they are created. That the state of a fiber
lets it be destroyed is not looked at here.
-/
import HrServer.Lib.Run
import Mathlib.Data.List.Nodup

namespace HrServer

open Lib

namespace Fibers

/-- A `Fiber` object: its place in the order of creation, `m_id`, and whether it has a
callback. The main fiber of a thread has none, and the id 0. -/
structure FiberObject where
  number : Nat
  id : UInt64
  callback : Bool
  deriving DecidableEq

/-- `s_fiber_count` and the objects that exist. -/
structure Census where
  fiberCount : UInt64
  created : Nat
  alive : List FiberObject
  deriving DecidableEq

inductive Lifetime where
  /-- `Fiber()`, the main fiber of a thread. -/
  | main
  /-- `Fiber(cb, stacksize, use_caller)`. -/
  | create
  /-- `~Fiber()` of the object with this number. -/
  | destroy (number : Nat)
  deriving DecidableEq

namespace Census

/-- Before the first fiber. -/
def init : Census := ⟨0, 0, []⟩

/-- `TotalFibers`. -/
def totalFibers (c : Census) : UInt64 := c.fiberCount

/-- The default constructor. -/
def constructMain (c : Census) : Census where
  fiberCount := c.fiberCount + 1
  created := c.created + 1
  alive := c.alive ++ [⟨c.created, 0, false⟩]

/-- The constructor with a callback. -/
def construct (c : Census) : Census :=
  -- `m_id(++s_fiber_count)`
  let id := c.fiberCount + 1
  { fiberCount := id + 1
    created := c.created + 1
    alive := c.alive ++ [⟨c.created, id, true⟩] }

/-- The destructor. -/
def destruct (c : Census) (number : Nat) : Census :=
  { c with
    fiberCount := c.fiberCount - 1
    alive := c.alive.eraseP (·.number = number) }

/-- One step and what `TotalFibers` returns after it. Only an object that is alive is
destroyed. -/
def next (c : Census) : Lifetime → Option (UInt64 × Census)
  | .main => some (c.constructMain.totalFibers, c.constructMain)
  | .create => some (c.construct.totalFibers, c.construct)
  | .destroy number =>
    if ∃ x ∈ c.alive, x.number = number then
      some ((c.destruct number).totalFibers, c.destruct number)
    else none

/-- The ids of the live fibers with a callback are pairwise distinct. -/
def DistinctIds (c : Census) : Prop := ((c.alive.filter (·.callback)).map (·.id)).Nodup

/-- `TotalFibers` is the number of objects that exist, and the ids are distinct. -/
def Accounted (c : Census) : Prop :=
  c.totalFibers = UInt64.ofNat c.alive.length ∧ c.DistinctIds

instance (c : Census) : Decidable c.DistinctIds :=
  inferInstanceAs (Decidable ((c.alive.filter (·.callback)).map (·.id)).Nodup)

instance (c : Census) : Decidable c.Accounted :=
  inferInstanceAs (Decidable (_ ∧ _))

end Census

/-! ## What a sequence does to the counters -/

/-- What a step adds to `s_fiber_count`. -/
def Lifetime.shift : Lifetime → UInt64
  | .main => 1
  | .create => 2
  | .destroy _ => -1

/-- What a sequence adds to `s_fiber_count`. -/
def shifts : List Lifetime → UInt64
  | [] => 0
  | l :: ls => l.shift + shifts ls

/-- The number of objects a sequence creates. -/
def births : List Lifetime → Nat
  | [] => 0
  | .destroy _ :: ls => births ls
  | .main :: ls | .create :: ls => births ls + 1

/-- The counter comes back: from one creation with a callback to a later one the sequence adds
nothing to it, and the first fiber is not destroyed in between. -/
def ComesBack (ls : List Lifetime) : Prop :=
  ∃ before between after, ls = before ++ .create :: (between ++ .create :: after)
    ∧ shifts (.create :: between) = 0 ∧ .destroy (births before) ∉ between

@[simp] theorem shifts_append (xs ys : List Lifetime) :
    shifts (xs ++ ys) = shifts xs + shifts ys := by
  induction xs with
  | nil => simp [shifts]
  | cons l xs ih => simp [shifts, ih, UInt64.add_assoc]

@[simp] theorem births_append (xs ys : List Lifetime) :
    births (xs ++ ys) = births xs + births ys := by
  induction xs with
  | nil => simp [births]
  | cons l xs ih => cases l <;> simp [births, ih] <;> omega

/-- A creation in a sequence that was continued is an old one or the last step. -/
theorem snoc_eq_append_create {ls before after : List Lifetime} {l : Lifetime} :
    ls ++ [l] = before ++ .create :: after
      ↔ (l = .create ∧ before = ls ∧ after = [])
        ∨ ∃ after', after = after' ++ [l] ∧ ls = before ++ .create :: after' := by
  constructor
  · intro h
    rcases List.eq_nil_or_concat after with rfl | ⟨after', l', rfl⟩
    · obtain ⟨rfl, hl⟩ := List.append_inj' h rfl
      simp only [List.cons.injEq, and_true] at hl
      exact .inl ⟨hl, rfl, rfl⟩
    · have h' : ls ++ [l] = (before ++ .create :: after') ++ [l'] := by
        rw [h]
        simp
      obtain ⟨rfl, hl⟩ := List.append_inj' h' rfl
      simp only [List.cons.injEq, and_true] at hl
      subst hl
      exact .inr ⟨after', by simp, rfl⟩
  · rintro (⟨rfl, rfl, rfl⟩ | ⟨after', rfl, rfl⟩)
    · rfl
    · simp

/-! ## The objects that a sequence leaves -/

/-- With distinct numbers, the object with a number is the only one that goes. -/
theorem mem_eraseP_number {xs : List FiberObject} {x : FiberObject} {n : Nat}
    (h : (xs.map (·.number)).Nodup) :
    x ∈ xs.eraseP (·.number = n) ↔ x ∈ xs ∧ x.number ≠ n := by
  induction xs with
  | nil => simp
  | cons y xs ih =>
    rw [List.map_cons, List.nodup_cons] at h
    by_cases hy : y.number = n
    · have hout : ∀ z ∈ xs, z.number ≠ n := by
        intro z hz heq
        exact h.1 (List.mem_map.mpr ⟨z, hz, by rw [heq, hy]⟩)
      rw [List.eraseP_cons_of_pos (by simpa using hy)]
      constructor
      · intro hx
        exact ⟨List.mem_cons_of_mem y hx, hout x hx⟩
      · rintro ⟨hx, hne⟩
        rcases List.mem_cons.mp hx with rfl | hx
        · exact absurd hy hne
        · exact hx
    · rw [List.eraseP_cons_of_neg (by simpa using hy), List.mem_cons, List.mem_cons, ih h.2]
      constructor
      · rintro (rfl | ⟨hx, hne⟩)
        · exact ⟨.inl rfl, hy⟩
        · exact ⟨.inr hx, hne⟩
      · rintro ⟨rfl | hx, hne⟩
        · exact .inl rfl
        · exact .inr ⟨hx, hne⟩

namespace Census

/-- What a sequence leaves behind: the counters it adds up to, and one object with a callback
for each creation that was not followed by the destruction of its object. -/
structure History (ls : List Lifetime) (c : Census) : Prop where
  fiberCount : c.fiberCount = shifts ls
  created : c.created = births ls
  numbers : (c.alive.map (·.number)).Nodup
  old : ∀ x ∈ c.alive, x.number < c.created
  callbacks : ∀ x, (x ∈ c.alive ∧ x.callback = true) ↔
    ∃ before after, ls = before ++ .create :: after ∧ .destroy (births before) ∉ after
      ∧ x = ⟨births before, shifts before + 1, true⟩

theorem History.start : History [] init where
  fiberCount := rfl
  created := rfl
  numbers := List.nodup_nil
  old := nofun
  callbacks := by simp [init]

/-- A new object has a new number. -/
theorem History.numbers_snoc {ls : List Lifetime} {c : Census} (h : History ls c) (id : UInt64)
    (callback : Bool) :
    ((c.alive ++ [FiberObject.mk c.created id callback]).map FiberObject.number).Nodup
      ∧ ∀ x ∈ c.alive ++ [FiberObject.mk c.created id callback], x.number < c.created + 1 := by
  constructor
  · rw [List.map_append, List.nodup_append]
    refine ⟨h.numbers, by simp, ?_⟩
    intro n hn m hm
    obtain ⟨x, hx, rfl⟩ := List.mem_map.mp hn
    have := h.old x hx
    simp only [List.map_cons, List.map_nil, List.mem_singleton] at hm
    omega
  · intro x hx
    rcases List.mem_append.mp hx with hx | hx
    · exact Nat.lt_succ_of_lt (h.old x hx)
    · rw [List.mem_singleton.mp hx]
      exact Nat.lt_succ_self _

/-- A step that neither creates with a callback nor destroys a fiber with one. -/
theorem History.callbacks_snoc {ls : List Lifetime} {c : Census} (h : History ls c)
    (l : Lifetime) (hl : l ≠ .create) (x : FiberObject) :
    (∃ before after, ls ++ [l] = before ++ .create :: after ∧ .destroy (births before) ∉ after
        ∧ x = ⟨births before, shifts before + 1, true⟩)
      ↔ (x ∈ c.alive ∧ x.callback = true) ∧ l ≠ .destroy x.number := by
  rw [h.callbacks x]
  constructor
  · rintro ⟨before, after, heq, hnot, rfl⟩
    rcases snoc_eq_append_create.mp heq with ⟨rfl, -, -⟩ | ⟨after', rfl, hls⟩
    · exact absurd rfl hl
    · rw [List.mem_append, List.mem_singleton, not_or] at hnot
      exact ⟨⟨before, after', hls, hnot.1, rfl⟩, fun hd => hnot.2 hd.symm⟩
  · rintro ⟨⟨before, after, hls, hnot, rfl⟩, hd⟩
    refine ⟨before, after ++ [l], by simp [hls], ?_, rfl⟩
    rw [List.mem_append, List.mem_singleton, not_or]
    exact ⟨hnot, fun heq => hd heq.symm⟩

/-- The step lemma. -/
theorem History.step {ls : List Lifetime} {c c' : Census} {l : Lifetime} {n : UInt64}
    (h : History ls c) (hs : c.next l = some (n, c')) : History (ls ++ [l]) c' := by
  cases l with
  | main =>
    cases hs
    obtain ⟨hnumbers, hold⟩ := h.numbers_snoc 0 false
    refine ⟨?_, ?_, hnumbers, hold, ?_⟩
    · simp [constructMain, h.fiberCount, shifts, Lifetime.shift]
    · simp [constructMain, h.created, births]
    · intro x
      rw [h.callbacks_snoc .main nofun x]
      constructor
      · rintro ⟨hx, hcb⟩
        rcases List.mem_append.mp hx with hx | hx
        · exact ⟨⟨hx, hcb⟩, nofun⟩
        · rw [List.mem_singleton.mp hx] at hcb
          cases hcb
      · rintro ⟨⟨hx, hcb⟩, -⟩
        exact ⟨List.mem_append_left _ hx, hcb⟩
  | create =>
    cases hs
    obtain ⟨hnumbers, hold⟩ := h.numbers_snoc (c.fiberCount + 1) true
    refine ⟨?_, ?_, hnumbers, hold, ?_⟩
    · simp only [construct, h.fiberCount, shifts_append, shifts, Lifetime.shift, UInt64.add_assoc]
      rfl
    · simp [construct, h.created, births]
    · intro x
      constructor
      · rintro ⟨hx, hcb⟩
        rcases List.mem_append.mp hx with hx | hx
        · obtain ⟨before, after, hls, hnot, rfl⟩ := (h.callbacks x).mp ⟨hx, hcb⟩
          exact ⟨before, after ++ [.create], by simp [hls], by simpa using hnot, rfl⟩
        · refine ⟨ls, [], rfl, List.not_mem_nil, ?_⟩
          rw [List.mem_singleton.mp hx, h.created, h.fiberCount]
      · rintro ⟨before, after, heq, hnot, rfl⟩
        rcases snoc_eq_append_create.mp heq with ⟨-, rfl, rfl⟩ | ⟨after', rfl, hls⟩
        · refine ⟨List.mem_append_right _ ?_, rfl⟩
          rw [List.mem_singleton, h.created, h.fiberCount]
        · have hnot' : .destroy (births before) ∉ after' :=
            fun hin => hnot (List.mem_append_left _ hin)
          have hx := (h.callbacks _).mpr ⟨before, after', hls, hnot', rfl⟩
          exact ⟨List.mem_append_left _ hx.1, rfl⟩
  | destroy number =>
    simp only [next] at hs
    split at hs
    · cases hs
      refine ⟨?_, ?_, ?_, ?_, ?_⟩
      · simp [destruct, h.fiberCount, shifts, Lifetime.shift, UInt64.sub_eq_add_neg]
      · simp [destruct, h.created, births]
      · exact h.numbers.sublist (List.eraseP_sublist.map _)
      · exact fun x hx => h.old x (List.mem_of_mem_eraseP hx)
      · intro x
        rw [h.callbacks_snoc (.destroy number) nofun x]
        simp only [destruct, mem_eraseP_number h.numbers, ne_eq, Lifetime.destroy.injEq]
        constructor
        · rintro ⟨⟨hx, hne⟩, hcb⟩
          exact ⟨⟨hx, hcb⟩, fun heq => hne heq.symm⟩
        · rintro ⟨⟨hx, hcb⟩, hne⟩
          exact ⟨⟨hx, fun heq => hne heq.symm⟩, hcb⟩
    · cases hs

/-- The run lemma. -/
theorem history_of_run {ls : List Lifetime} {ns : List UInt64} {c : Census}
    (h : run next init ls = some (ns, c)) : History ls c := by
  simpa using run_inputs (I := History) (fun _ _ _ _ _ => History.step) ls [] History.start h

/-- Ids are distinct when equal ids belong to one object. -/
theorem History.distinctIds_iff {ls : List Lifetime} {c : Census} (h : History ls c) :
    c.DistinctIds ↔ ∀ x y, x ∈ c.alive ∧ x.callback = true → y ∈ c.alive ∧ y.callback = true →
      x.id = y.id → x = y := by
  have hnodup : (c.alive.filter (·.callback)).Nodup := (List.Nodup.of_map _ h.numbers).filter _
  rw [DistinctIds, List.nodup_map_iff_inj_on hnodup]
  simp only [List.mem_filter]
  constructor
  · intro hinj x y hx hy
    exact hinj x hx y hy
  · intro hinj x hx y hy
    exact hinj x y hx hy

end Census

/-! ## When the accounting is right -/

theorem ComesBack.append {ls : List Lifetime} (h : ComesBack ls) (rest : List Lifetime) :
    ComesBack (ls ++ rest) := by
  obtain ⟨before, between, after, rfl, hzero, hnot⟩ := h
  exact ⟨before, between, after ++ rest, by simp, hzero, hnot⟩

/-- Of two creations in a sequence one comes first. -/
theorem create_order {b₁ a₁ b₂ a₂ : List Lifetime}
    (h : b₁ ++ .create :: a₁ = b₂ ++ .create :: a₂) :
    (b₁ = b₂ ∧ a₁ = a₂) ∨ (∃ mid, b₂ = b₁ ++ .create :: mid ∧ a₁ = mid ++ .create :: a₂)
      ∨ ∃ mid, b₁ = b₂ ++ .create :: mid ∧ a₂ = mid ++ .create :: a₁ := by
  rcases List.append_eq_append_iff.mp h with ⟨mid, rfl, hmid⟩ | ⟨mid, rfl, hmid⟩
  · cases mid with
    | nil => exact .inl (by simpa using hmid)
    | cons l mid =>
      simp only [List.cons_append, List.cons.injEq] at hmid
      obtain ⟨rfl, rfl⟩ := hmid
      exact .inr (.inl ⟨mid, rfl, rfl⟩)
  · cases mid with
    | nil => exact .inl (by simpa [eq_comm] using hmid)
    | cons l mid =>
      simp only [List.cons_append, List.cons.injEq] at hmid
      obtain ⟨rfl, rfl⟩ := hmid
      exact .inr (.inr ⟨mid, rfl, rfl⟩)

/-- The same id for a later creation means that the counter came back. -/
theorem shifts_eq_zero {before between : List Lifetime}
    (h : shifts before + 1 = shifts (before ++ .create :: between) + 1) :
    shifts (.create :: between) = 0 := by
  rw [UInt64.add_left_inj, shifts_append] at h
  exact UInt64.left_eq_add.mp h

namespace Census

/-- Two live fibers with one id: the counter came back. -/
theorem History.comesBack {ls : List Lifetime} {c : Census} (h : History ls c)
    (hids : ¬ c.DistinctIds) : ComesBack ls := by
  rw [h.distinctIds_iff] at hids
  by_contra hno
  refine hids fun x y hx hy heq => ?_
  obtain ⟨b₁, a₁, hls₁, hnot₁, rfl⟩ := (h.callbacks x).mp hx
  obtain ⟨b₂, a₂, hls₂, hnot₂, rfl⟩ := (h.callbacks y).mp hy
  rcases create_order (hls₁.symm.trans hls₂) with ⟨rfl, -⟩ | ⟨mid, rfl, rfl⟩ | ⟨mid, rfl, rfl⟩
  · rfl
  · refine absurd ⟨b₁, mid, a₂, hls₁, shifts_eq_zero heq, fun hin => ?_⟩ hno
    exact hnot₁ (List.mem_append_left _ hin)
  · refine absurd ⟨b₂, mid, a₁, hls₂, shifts_eq_zero heq.symm, fun hin => ?_⟩ hno
    exact hnot₂ (List.mem_append_left _ hin)

/-- The counter came back: right after the second creation two live fibers have one id. -/
theorem History.not_distinctIds {before between : List Lifetime} {c : Census}
    (h : History (before ++ .create :: (between ++ [.create])) c)
    (hzero : shifts (.create :: between) = 0) (hnot : .destroy (births before) ∉ between) :
    ¬ c.DistinctIds := by
  rw [h.distinctIds_iff]
  intro hinj
  have hfirst := (h.callbacks _).mpr ⟨before, between ++ [.create], rfl, by simpa using hnot, rfl⟩
  have hsecond := (h.callbacks _).mpr
    ⟨before ++ .create :: between, [], by simp, List.not_mem_nil, rfl⟩
  have hsame := hinj _ _ hfirst hsecond (by simp only [shifts_append, hzero, UInt64.add_zero])
  have hnumber := congrArg FiberObject.number hsame
  simp only [births_append, births] at hnumber
  omega

/-- The counter is too high by the number of creations with a callback. -/
def Drift (ls : List Lifetime) (c : Census) : Prop :=
  c.fiberCount = UInt64.ofNat (c.alive.length + ls.count .create)

theorem Drift.start : Drift [] init := rfl

theorem Drift.step {ls : List Lifetime} {c c' : Census} {l : Lifetime} {n : UInt64}
    (h : Drift ls c) (hs : c.next l = some (n, c')) : Drift (ls ++ [l]) c' := by
  have hsucc : ∀ k, UInt64.ofNat (k + 1) = UInt64.ofNat k + 1 := fun k => UInt64.ofNat_add k 1
  unfold Drift at h ⊢
  cases l with
  | main =>
    cases hs
    have hsum : (c.alive ++ [FiberObject.mk c.created 0 false]).length
        + (ls ++ [Lifetime.main]).count .create = c.alive.length + ls.count .create + 1 := by
      simp
      omega
    simp only [constructMain, hsum, hsucc, h]
  | create =>
    cases hs
    have hsum : (c.alive ++ [FiberObject.mk c.created (c.fiberCount + 1) true]).length
        + (ls ++ [Lifetime.create]).count .create = c.alive.length + ls.count .create + 1 + 1 := by
      simp
      omega
    simp only [construct, hsum, hsucc]
    rw [h]
  | destroy number =>
    simp only [next] at hs
    split at hs
    · next hex =>
      cases hs
      obtain ⟨x, hx, hnumber⟩ := hex
      have hlen := List.length_eraseP_of_mem (p := fun y => decide (y.number = number)) hx
        (by simpa using hnumber)
      have hpos := List.length_pos_of_mem hx
      have hsum : c.alive.length + ls.count .create
          = (c.alive.eraseP (·.number = number)).length
            + (ls ++ [Lifetime.destroy number]).count .create + 1 := by
        simp [hlen]
        omega
      simp only [destruct]
      rw [h, hsum, hsucc, UInt64.add_sub_cancel]
    · cases hs

theorem drift_of_run {ls : List Lifetime} {ns : List UInt64} {c : Census}
    (h : run next init ls = some (ns, c)) : Drift ls c := by
  simpa using run_inputs (I := Drift) (fun _ _ _ _ _ => Drift.step) ls [] Drift.start h

/-- `P` holds after each step of the sequence. -/
def AfterEach (P : Census → Prop) (ls : List Lifetime) : Prop :=
  ∀ before, before <+: ls → ∀ ns c, run next init before = some (ns, c) → P c

/-- Without a callback there is no id, and the drift is zero. -/
theorem accounted_of_no_create {ls : List Lifetime} {ns : List UInt64} {c : Census}
    (hrun : run next init ls = some (ns, c)) (hnone : .create ∉ ls) : c.Accounted := by
  have hdrift := drift_of_run hrun
  have hhist := history_of_run hrun
  constructor
  · rw [Drift, List.count_eq_zero.mpr hnone, Nat.add_zero] at hdrift
    exact hdrift
  · rw [hhist.distinctIds_iff]
    intro x y hx
    obtain ⟨before, after, rfl, -⟩ := (hhist.callbacks x).mp hx
    simp at hnone

/-- **Fiber accounting.** After each step of a sequence of creations and destructions
`TotalFibers()` is the number of objects alive and the ids are distinct, exactly when no fiber
with a callback is created. The ids alone are distinct exactly when the counter does not come
back during the life of a fiber. -/
theorem fiber_accounting (ls : List Lifetime) (ns : List UInt64) (c : Census)
    (hrun : run next init ls = some (ns, c)) :
    (AfterEach Accounted ls ↔ .create ∉ ls) ∧ (AfterEach DistinctIds ls ↔ ¬ ComesBack ls) := by
  refine ⟨⟨?_, ?_⟩, ⟨?_, ?_⟩⟩
  · intro hall hin
    obtain ⟨before, after, rfl, hfirst⟩ := List.eq_append_cons_of_mem hin
    -- the first creation makes the count one too high
    have hcut : before ++ .create :: after = (before ++ [.create]) ++ after := by simp
    rw [hcut] at hrun
    obtain ⟨ns₁, c₁, -, hrun₁, -⟩ := run_append hrun
    have hcount := (hall _ ⟨after, by simp⟩ ns₁ c₁ hrun₁).1
    have hdrift := drift_of_run hrun₁
    rw [Drift, List.count_append, List.count_eq_zero.mpr hfirst, List.count_singleton_self,
      Nat.zero_add, UInt64.ofNat_add, ← hcount, totalFibers] at hdrift
    exact absurd (UInt64.left_eq_add.mp hdrift) (by decide)
  · intro hnone before hbefore ns₁ c₁ hrun₁
    exact accounted_of_no_create hrun₁ fun hin => hnone (hbefore.subset hin)
  · rintro hall ⟨before, between, after, rfl, hzero, hnot⟩
    have hcut : before ++ .create :: (between ++ .create :: after)
        = before ++ .create :: (between ++ [.create]) ++ after := by simp
    rw [hcut] at hrun
    obtain ⟨ns₁, c₁, -, hrun₁, -⟩ := run_append hrun
    exact (history_of_run hrun₁).not_distinctIds hzero hnot
      (hall _ ⟨after, hcut.symm⟩ ns₁ c₁ hrun₁)
  · rintro hno before ⟨rest, rfl⟩ ns₁ c₁ hrun₁
    by_contra hids
    exact hno (((history_of_run hrun₁).comesBack hids).append rest)

/-- Two main fibers and two fibers with a callback, one of which is destroyed: the ids are
distinct throughout, and the number is wrong. Without the fibers with a callback it is right. -/
theorem fiber_accounting_four :
    ¬ AfterEach Accounted [.main, .create, .main, .create, .destroy 1]
      ∧ AfterEach DistinctIds [.main, .create, .main, .create, .destroy 1]
      ∧ AfterEach Accounted [.main, .main, .destroy 1] := by
  obtain ⟨hall, hids⟩ :=
    fiber_accounting [.main, .create, .main, .create, .destroy 1] _ _ rfl
  obtain ⟨hmain, -⟩ := fiber_accounting [.main, .main, .destroy 1] _ _ rfl
  refine ⟨fun h => hall.mp h (by decide), hids.mpr ?_, hmain.mpr (by decide)⟩
  rintro ⟨before, between, after, hsplit, hzero, -⟩
  -- only the second main fiber stands between the two creations
  simp [List.cons_eq_append_iff] at hsplit
  obtain ⟨-, -, ⟨-, h⟩ | ⟨-, h⟩⟩ := hsplit
  · obtain ⟨rfl, -⟩ : between = [.main] ∧ after = [.destroy 1] := by
      simpa [List.append_eq_cons_iff, List.cons_eq_append_iff] using h
    exact absurd hzero (by decide)
  · simp [List.append_eq_cons_iff] at h

/-- One fiber is alive and two are reported; and a fiber gets the id of one that is still
alive, after two of three were destroyed. -/
theorem census_drifts :
    (∃ ns c, run next init [.create] = some (ns, c)
        ∧ c.alive.length = 1 ∧ c.totalFibers = 2 ∧ ¬ c.Accounted)
      ∧ ∃ ns c, run next init [.create, .create, .create, .destroy 0, .destroy 1, .create]
          = some (ns, c)
        ∧ c.alive = [⟨2, 5, true⟩, ⟨3, 5, true⟩] ∧ ¬ c.DistinctIds :=
  ⟨⟨_, _, rfl, rfl, rfl, by decide⟩, _, _, rfl, rfl, by decide⟩

end Census

end Fibers

end HrServer
