/-
HrServer.Lib.Run — runs of a machine that is given as a step function.

A step function takes the state and an input (a call, or the label of the
step some thread takes) and returns an output and the next state, or
`none` when the machine cannot go on: the program crashes, or the step is
not enabled. `run` feeds it a list of inputs.

These rules carry every argument about whole runs:

* `run_invariant` — what every step preserves holds at the end of every run;
* `run_invariant_along` — the same when only the steps that meet a guard
  preserve it, for the runs all of whose steps meet the guard;
* `run_outputs_along` — the same for the outputs of these steps;
* `along_of_invariant`, `along_of_forall`, `along_congr` — what the guarded steps meet,
  or what every step meets, is met all along the run, and guards that agree there are
  the same;
* `run_inputs` — the same as the first for what also speaks about the inputs so far;
* `run_history_along`, `run_total_along` — when these steps also go through,
  so do the runs;
* `Reaches.step` — inputs of one kind can lead to a state, one step at a
  time;
* `run_follows` — when a machine follows every step of another one by some
  steps of its own, it follows every run;
* `run_simulates` — a step-by-step simulation by a relation gives a trace
  of that relation with the same outputs;
* `prefixes_iff` — for a machine that can always go on: when exactly the
  steps that meet a guard preserve something, it holds all along the run
  if and only if every step meets the guard;
* `agrees_iff` — such a machine behaves the same from `f s` as from `s`,
  up to `f`, as long as its steps commute with `f`.
-/
import Mathlib.Data.List.Induction

namespace HrServer.Lib

variable {σ τ ι κ ω υ : Type*}

/-- Run `step` over a list of inputs and collect the outputs. -/
def run (step : σ → ι → Option (ω × σ)) : σ → List ι → Option (List ω × σ)
  | s, [] => some ([], s)
  | s, i :: is => do
    let (o, s') ← step s i
    let (os, s'') ← run step s' is
    some (o :: os, s'')

/-- A run that goes through takes its first step. -/
theorem run_cons {step : σ → ι → Option (ω × σ)} {s s'' : σ} {i : ι} {is : List ι} {os : List ω}
    (h : run step s (i :: is) = some (os, s'')) :
    ∃ o s' os', step s i = some (o, s') ∧ run step s' is = some (os', s'') ∧ os = o :: os' := by
  simp only [run, Option.bind_eq_bind] at h
  cases hs : step s i with
  | none => simp [hs] at h
  | some r =>
    obtain ⟨o, s'⟩ := r
    cases hr : run step s' is with
    | none => simp [hs, hr] at h
    | some r =>
      obtain ⟨os', s2⟩ := r
      simp only [hs, hr, Option.bind_some, Option.some.injEq, Prod.mk.injEq] at h
      exact ⟨o, s', os', rfl, by rw [hr, h.2], h.1.symm⟩

/-- A run over inputs in two parts passes through a state between them. -/
theorem run_append {step : σ → ι → Option (ω × σ)} {s s'' : σ} {is js : List ι} {os : List ω}
    (h : run step s (is ++ js) = some (os, s'')) :
    ∃ os₁ s' os₂, run step s is = some (os₁, s') ∧ run step s' js = some (os₂, s'')
      ∧ os = os₁ ++ os₂ := by
  induction is generalizing s os with
  | nil => exact ⟨[], s, os, rfl, h, rfl⟩
  | cons i is ih =>
    obtain ⟨o, s', os', h1, h2, rfl⟩ := run_cons h
    obtain ⟨os₁, t, os₂, hrun₁, hrun₂, rfl⟩ := ih h2
    exact ⟨o :: os₁, t, os₂, by simp [run, h1, hrun₁], hrun₂, rfl⟩

/-- What every step keeps, and which may speak about the inputs so far, holds at the end of
every run. -/
theorem run_inputs {step : σ → ι → Option (ω × σ)} {I : List ι → σ → Prop}
    (hstep : ∀ js s i o s', I js s → step s i = some (o, s') → I (js ++ [i]) s') :
    ∀ (is js : List ι) {s s' : σ} {os : List ω}, I js s → run step s is = some (os, s') →
      I (js ++ is) s' := by
  intro is
  induction is with
  | nil =>
    intro js s s' os hs hrun
    cases hrun
    simpa using hs
  | cons i is ih =>
    intro js s s'' os hs hrun
    obtain ⟨o, s', os', h1, h2, -⟩ := run_cons hrun
    simpa using ih (js ++ [i]) (hstep js s i o s' hs h1) h2

/-- Every step of the run meets `guard` in the state it is taken in. -/
def Along (step : σ → ι → Option (ω × σ)) (guard : σ → ι → Prop) : σ → List ι → Prop
  | _, [] => True
  | s, i :: is => guard s i ∧ ∀ o s', step s i = some (o, s') → Along step guard s' is

theorem along_cons_of_step {step : σ → ι → Option (ω × σ)} {guard : σ → ι → Prop} {s s' : σ}
    {i : ι} {is : List ι} {o : ω} (h : step s i = some (o, s')) :
    Along step guard s (i :: is) ↔ guard s i ∧ Along step guard s' is := by
  constructor
  · rintro ⟨hg, hal⟩
    exact ⟨hg, hal o s' h⟩
  · rintro ⟨hg, hal⟩
    refine ⟨hg, fun o1 s1 h1 => ?_⟩
    rw [h] at h1
    cases h1
    exact hal

theorem along_cons_of_stuck {step : σ → ι → Option (ω × σ)} {guard : σ → ι → Prop} {s : σ}
    {i : ι} {is : List ι} (h : step s i = none) :
    Along step guard s (i :: is) ↔ guard s i := by
  constructor
  · exact fun hal => hal.1
  · exact fun hg => ⟨hg, fun o s' h' => by rw [h] at h'; cases h'⟩

/-- Whether a concrete run is guarded can be computed. -/
instance decidableAlong (step : σ → ι → Option (ω × σ)) (guard : σ → ι → Prop)
    [∀ s i, Decidable (guard s i)] : ∀ (s : σ) (is : List ι), Decidable (Along step guard s is)
  | _, [] => .isTrue trivial
  | s, i :: is =>
    match h : step s i with
    | some (_, s') =>
      have := decidableAlong step guard s' is
      decidable_of_iff _ (along_cons_of_step h).symm
    | none => decidable_of_iff _ (along_cons_of_stuck h).symm

/-- What guarded steps meet while they preserve an invariant is met all along the run. -/
theorem along_of_invariant {step : σ → ι → Option (ω × σ)} {guard met : σ → ι → Prop} {I : σ → Prop}
    (hstep : ∀ s i, I s → guard s i → met s i ∧ ∀ o s', step s i = some (o, s') → I s') :
    ∀ (is : List ι) {s : σ}, I s → Along step guard s is → Along step met s is := by
  intro is
  induction is with
  | nil => exact fun _ _ => trivial
  | cons i is ih =>
    intro s hs hal
    obtain ⟨hmet, hnext⟩ := hstep s i hs hal.1
    exact ⟨hmet, fun o s' h => ih (hnext o s' h) (hal.2 o s' h)⟩

/-- What every step meets is met all along the run. -/
theorem along_of_forall {step : σ → ι → Option (ω × σ)} {guard : σ → ι → Prop}
    (h : ∀ s i, guard s i) : ∀ (is : List ι) (s : σ), Along step guard s is := by
  intro is
  induction is with
  | nil => exact fun _ => trivial
  | cons i is ih => exact fun s => ⟨h s i, fun _ s' _ => ih s'⟩

/-- Guards that agree all along the run. -/
theorem along_congr {step : σ → ι → Option (ω × σ)} {met guard : σ → ι → Prop} {s : σ}
    {is : List ι} (h : Along step (fun s i => met s i ↔ guard s i) s is) :
    Along step met s is ↔ Along step guard s is := by
  induction is generalizing s with
  | nil => exact Iff.rfl
  | cons i is ih =>
    refine and_congr h.1 (forall_congr' fun o => forall_congr' fun s' => forall_congr' ?_)
    intro hs
    exact ih (h.2 o s' hs)

/-- What every guarded step preserves holds at the end of every guarded run. -/
theorem run_invariant_along {step : σ → ι → Option (ω × σ)} {guard : σ → ι → Prop}
    {I : σ → Prop} (hstep : ∀ s i o s', I s → guard s i → step s i = some (o, s') → I s') :
    ∀ (is : List ι) {s s' : σ} {os : List ω}, I s → Along step guard s is →
      run step s is = some (os, s') → I s' := by
  intro is
  induction is with
  | nil =>
    intro s s' os hs _ hrun
    cases hrun
    exact hs
  | cons i is ih =>
    intro s s'' os hs hal hrun
    obtain ⟨o, s', os', h1, h2, -⟩ := run_cons hrun
    exact ih (hstep s i o s' hs hal.1 h1) (hal.2 o s' h1) h2

/-- The same for what holds of every output. -/
theorem run_outputs_along {step : σ → ι → Option (ω × σ)} {guard : σ → ι → Prop}
    {I : σ → Prop} {O : ω → Prop}
    (hstep : ∀ s i o s', I s → guard s i → step s i = some (o, s') → I s' ∧ O o) :
    ∀ (is : List ι) {s s' : σ} {os : List ω}, I s → Along step guard s is →
      run step s is = some (os, s') → I s' ∧ ∀ o ∈ os, O o := by
  intro is
  induction is with
  | nil =>
    intro s s' os hs _ hrun
    cases hrun
    exact ⟨hs, fun o ho => by cases ho⟩
  | cons i is ih =>
    intro s s'' os hs hal hrun
    obtain ⟨o, s', os', h1, h2, rfl⟩ := run_cons hrun
    obtain ⟨hs', ho⟩ := hstep s i o s' hs hal.1 h1
    obtain ⟨hs'', hos⟩ := ih hs' (hal.2 o s' h1) h2
    refine ⟨hs'', fun o' ho' => ?_⟩
    rcases List.mem_cons.mp ho' with rfl | ho'
    · exact ho
    · exact hos o' ho'

/-- When every guarded step goes through and keeps `I`, which may speak about the outputs
so far, so does every guarded run. -/
theorem run_history_along {step : σ → ι → Option (ω × σ)} {guard : σ → ι → Prop}
    {I : List ω → σ → Prop}
    (hstep : ∀ os s i, I os s → guard s i → ∃ o s', step s i = some (o, s') ∧ I (os ++ [o]) s') :
    ∀ (is : List ι) (os : List ω) {s : σ}, I os s → Along step guard s is →
      ∃ os' s', run step s is = some (os', s') ∧ I (os ++ os') s' := by
  intro is
  induction is with
  | nil =>
    intro os s hs _
    exact ⟨[], s, rfl, by simpa using hs⟩
  | cons i is ih =>
    intro os s hs hal
    obtain ⟨o, s', h1, hs'⟩ := hstep os s i hs hal.1
    obtain ⟨os', s'', h2, hs''⟩ := ih (os ++ [o]) hs' (hal.2 o s' h1)
    exact ⟨o :: os', s'', by simp [run, h1, h2], by simpa using hs''⟩

/-- When every guarded step goes through and preserves `I`, so does every guarded run. -/
theorem run_total_along {step : σ → ι → Option (ω × σ)} {guard : σ → ι → Prop} {I : σ → Prop}
    (hstep : ∀ s i, I s → guard s i → ∃ o s', step s i = some (o, s') ∧ I s')
    (is : List ι) {s : σ} (hs : I s) (hal : Along step guard s is) :
    ∃ os s', run step s is = some (os, s') ∧ I s' :=
  run_history_along (I := fun _ s => I s) (fun _ s i => hstep s i) is [] hs hal

/-- What every step preserves holds at the end of every run. -/
theorem run_invariant {step : σ → ι → Option (ω × σ)} {I : σ → Prop}
    (hstep : ∀ s i o s', I s → step s i = some (o, s') → I s') (is : List ι) {s s' : σ}
    {os : List ω} (hs : I s) (hrun : run step s is = some (os, s')) : I s' := by
  have hall : Along step (fun _ _ => True) s is := along_of_forall (fun _ _ => trivial) is s
  exact run_invariant_along (fun s i o s' h _ => hstep s i o s' h) is hs hall hrun

/-- Some run over inputs that meet `P` ends in a state that meets `Q`. -/
def Reaches (step : σ → ι → Option (ω × σ)) (P : ι → Prop) (Q : σ → Prop) (s : σ) : Prop :=
  ∃ is os s', (∀ i ∈ is, P i) ∧ run step s is = some (os, s') ∧ Q s'

theorem Reaches.here {step : σ → ι → Option (ω × σ)} {P : ι → Prop} {Q : σ → Prop} {s : σ}
    (h : Q s) : Reaches step P Q s :=
  ⟨[], [], s, by simp, rfl, h⟩

theorem Reaches.step {step : σ → ι → Option (ω × σ)} {P : ι → Prop} {Q : σ → Prop} {s s' : σ}
    {i : ι} {o : ω} (hi : P i) (h : step s i = some (o, s')) (hr : Reaches step P Q s') :
    Reaches step P Q s := by
  obtain ⟨is, os, s'', his, hrun, hq⟩ := hr
  refine ⟨i :: is, o :: os, s'', ?_, by simp [run, h, hrun], hq⟩
  intro j hj
  rcases List.mem_cons.mp hj with rfl | hj
  · exact hi
  · exact his j hj

/-- Some guarded run leads from one state to the other. -/
def Follows (step : σ → ι → Option (ω × σ)) (guard : σ → ι → Prop) (s s' : σ) : Prop :=
  ∃ is os, Along step guard s is ∧ run step s is = some (os, s')

theorem Follows.refl (step : σ → ι → Option (ω × σ)) (guard : σ → ι → Prop) (s : σ) :
    Follows step guard s s :=
  ⟨[], [], trivial, rfl⟩

theorem Follows.cons {step : σ → ι → Option (ω × σ)} {guard : σ → ι → Prop} {s s' s'' : σ} {i : ι}
    {o : ω} (hg : guard s i) (h : step s i = some (o, s')) (hf : Follows step guard s' s'') :
    Follows step guard s s'' := by
  obtain ⟨is, os, hal, hrun⟩ := hf
  exact ⟨i :: is, o :: os, (along_cons_of_step h).mpr ⟨hg, hal⟩, by simp [run, h, hrun]⟩

theorem Follows.trans {step : σ → ι → Option (ω × σ)} {guard : σ → ι → Prop} {s s' s'' : σ}
    (h : Follows step guard s s') (h' : Follows step guard s' s'') : Follows step guard s s'' := by
  obtain ⟨is, os, hal, hrun⟩ := h
  induction is generalizing s os with
  | nil =>
    cases hrun
    exact h'
  | cons i is ih =>
    obtain ⟨o, s1, os', h1, h2, -⟩ := run_cons hrun
    exact .cons hal.1 h1 (ih os' (hal.2 o s1 h1) h2)

/-- When every guarded step of one machine keeps `I` and is followed by the other one in what
`view` shows of it, so is every guarded run. -/
theorem run_follows {step : σ → ι → Option (ω × σ)} {guard : σ → ι → Prop} {I : σ → Prop}
    {step' : τ → κ → Option (υ × τ)} {guard' : τ → κ → Prop} {view : σ → τ}
    (hstep : ∀ s i o s', I s → guard s i → step s i = some (o, s') →
      I s' ∧ Follows step' guard' (view s) (view s')) :
    ∀ (is : List ι) {s s' : σ} {os : List ω}, I s → Along step guard s is →
      run step s is = some (os, s') → I s' ∧ Follows step' guard' (view s) (view s') := by
  intro is
  induction is with
  | nil =>
    intro s s' os hs _ hrun
    cases hrun
    exact ⟨hs, .refl step' guard' (view s)⟩
  | cons i is ih =>
    intro s s'' os hs hal hrun
    obtain ⟨o, s', os', h1, h2, -⟩ := run_cons hrun
    obtain ⟨hs', hf⟩ := hstep s i o s' hs hal.1 h1
    obtain ⟨hs'', hf'⟩ := ih hs' (hal.2 o s' h1) h2
    exact ⟨hs'', hf.trans hf'⟩

/-- A run of a step relation with outputs. -/
inductive Trace (T : τ → ι → ω → τ → Prop) : τ → List ι → List ω → τ → Prop where
  | nil (t : τ) : Trace T t [] [] t
  | cons {t t' t'' : τ} {i : ι} {is : List ι} {o : ω} {os : List ω} :
      T t i o t' → Trace T t' is os t'' → Trace T t (i :: is) (o :: os) t''

/-- Forward simulation: when each step goes through and is matched by a step of
`T` between related states, every run goes through and is matched by a trace. -/
theorem run_simulates {step : σ → ι → Option (ω × σ)} {T : τ → ι → ω → τ → Prop}
    {R : σ → τ → Prop}
    (hstep : ∀ s t i, R s t → ∃ o s' t', step s i = some (o, s') ∧ T t i o t' ∧ R s' t')
    (is : List ι) {s : σ} {t : τ} (h : R s t) :
    ∃ os s' t', run step s is = some (os, s') ∧ Trace T t is os t' ∧ R s' t' := by
  induction is generalizing s t with
  | nil => exact ⟨[], s, t, rfl, .nil t, h⟩
  | cons i is ih =>
    obtain ⟨o, s', t', h1, h2, h3⟩ := hstep s t i h
    obtain ⟨os, s'', t'', g1, g2, g3⟩ := ih h3
    exact ⟨o :: os, s'', t'', by simp [run, h1, g1], .cons h2 g2, g3⟩

/-- What exactly the guarded steps preserve holds after every part of a history if and
only if every step of the history is guarded. -/
theorem prefixes_iff {P : List ι → Prop} {guard : List ι → ι → Prop} (hnil : P [])
    (hstep : ∀ before i, P before → (P (before ++ [i]) ↔ guard before i)) (is : List ι) :
    (∀ before after, is = before ++ after → P before)
      ↔ ∀ before i after, is = before ++ i :: after → guard before i := by
  constructor
  · rintro h before i after rfl
    have hnext : P (before ++ [i]) := h (before ++ [i]) after (by simp)
    exact (hstep before i (h before (i :: after) rfl)).mp hnext
  · intro h before
    induction before using List.reverseRecOn with
    | nil => exact fun _ _ => hnil
    | append_singleton before i ih =>
      rintro after rfl
      have hlast : P before := ih ([i] ++ after) (by simp)
      exact (hstep before i hlast).mpr (h before i after (by simp))

/-! ## Machines that always go on -/

section total

variable (step : σ → ι → ω × σ)

/-- The outputs of a run. -/
def outputs : σ → List ι → List ω
  | _, [] => []
  | s, i :: is => (step s i).1 :: outputs (step s i).2 is

/-- The last state of a run. -/
def final (s : σ) (is : List ι) : σ := is.foldl (fun s i => (step s i).2) s

/-- The run from `f s` is the run from `s`, up to `f`. -/
structure Agrees (f : σ → σ) (s : σ) (is : List ι) : Prop where
  outputs : outputs step s is = outputs step (f s) is
  final : final step (f s) is = f (final step s is)

variable {step}

theorem outputs_append (s : σ) (is js : List ι) :
    outputs step s (is ++ js) = outputs step s is ++ outputs step (final step s is) js := by
  induction is generalizing s with
  | nil => rfl
  | cons i is ih => simp [outputs, final, ih]

theorem final_append (s : σ) (is js : List ι) :
    final step s (is ++ js) = final step (final step s is) js := by
  simp [final]

theorem outputs_concat (s : σ) (is : List ι) (i : ι) :
    outputs step s (is ++ [i]) = outputs step s is ++ [(step (final step s is) i).1] := by
  rw [outputs_append]
  rfl

theorem final_concat (s : σ) (is : List ι) (i : ι) :
    final step s (is ++ [i]) = (step (final step s is) i).2 := by
  simp [final]

/-- What every step with one of the inputs keeps holds at the end. -/
theorem final_invariant {I : σ → Prop} {is : List ι}
    (hstep : ∀ s, ∀ i ∈ is, I s → I (step s i).2) {s : σ} (hs : I s) : I (final step s is) := by
  induction is generalizing s with
  | nil => exact hs
  | cons i is ih =>
    have hi := hstep s i List.mem_cons_self hs
    exact ih (fun s j hj => hstep s j (List.mem_cons_of_mem i hj)) hi

/-- A machine that another one refines through `view` has its outputs. -/
theorem outputs_view {step' : τ → ι → ω × τ} {view : σ → τ}
    (hstep : ∀ s i, step' (view s) i = ((step s i).1, view (step s i).2)) (s : σ) (is : List ι) :
    outputs step' (view s) is = outputs step s is
      ∧ final step' (view s) is = view (final step s is) := by
  induction is generalizing s with
  | nil => exact ⟨rfl, rfl⟩
  | cons i is ih =>
    obtain ⟨hout, hfinal⟩ := ih (step s i).2
    constructor
    · simp [outputs, hstep, hout]
    · simpa [final, hstep] using hfinal

/-- The run from `f s` follows the one from `s` exactly as long as the steps commute
with `f`. -/
theorem agrees_iff (f : σ → σ) (s : σ) (is : List ι) :
    (∀ before after, is = before ++ after → Agrees step f s before)
      ↔ ∀ before i after, is = before ++ i :: after →
          step (f (final step s before)) i
            = ((step (final step s before) i).1, f (step (final step s before) i).2) := by
  refine prefixes_iff ⟨rfl, rfl⟩ ?_ is
  intro before i h
  constructor
  · intro hnext
    have hout := hnext.outputs
    have hfinal := hnext.final
    rw [outputs_concat, outputs_concat, h.outputs, h.final] at hout
    rw [final_concat, final_concat, h.final] at hfinal
    have hlast := List.append_cancel_left hout
    exact Prod.ext (by simpa using hlast.symm) hfinal
  · intro hcomm
    constructor
    · rw [outputs_concat, outputs_concat, h.outputs, h.final, hcomm]
    · rw [final_concat, final_concat, h.final, hcomm]

end total

end HrServer.Lib
