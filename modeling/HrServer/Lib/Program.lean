/-
HrServer.Lib.Program — stateful programs that may fault.

A program is an `EStateM ε σ α`: from a state it returns a value and the
next state, or a fault and the state it was reached in.

`bind_ok` and `bind_error` walk over a `do` block whose outcome is known
without unfolding it. Where only some of the outcome matters, `Triple`
states it by a precondition, a postcondition and what holds behind a
fault, and the rules compose triples along the program.
-/
import Mathlib.Data.List.Basic

namespace HrServer.Lib

variable {ε σ α β : Type}

/-! ## Known outcomes -/

theorem bind_ok {m : EStateM ε σ α} {k : α → EStateM ε σ β} {s s' : σ} {a : α}
    (h : m s = .ok a s') : (m >>= k) s = k a s' := by
  change EStateM.bind m k s = _
  rw [EStateM.bind, h]

theorem bind_error {m : EStateM ε σ α} {k : α → EStateM ε σ β} {s s' : σ} {e : ε}
    (h : m s = .error e s') : (m >>= k) s = .error e s' := by
  change EStateM.bind m k s = _
  rw [EStateM.bind, h]

/-- Behind a program that may fault, one that does not adds no fault. -/
theorem bind_error_iff {m : EStateM ε σ α} {k : α → EStateM ε σ β}
    (hk : ∀ a s, ∃ b s', k a s = .ok b s') {s s' : σ} {e : ε} :
    (m >>= k) s = .error e s' ↔ m s = .error e s' := by
  cases hm : m s with
  | ok a s1 =>
    obtain ⟨b, s2, hb⟩ := hk a s1
    rw [bind_ok hm, hb]
    simp
  | error e1 s1 =>
    rw [bind_error hm]
    simp

/-! ## Triples -/

/-- From every state with `P` the program ends with `Q`, or in a fault with `E`. -/
def Triple (P : σ → Prop) (m : EStateM ε σ α) (Q : α → σ → Prop) (E : ε → σ → Prop) : Prop :=
  ∀ s, P s → match m s with
    | .ok a s' => Q a s'
    | .error e s' => E e s'

section triples

variable {P P' : σ → Prop} {Q Q' : α → σ → Prop} {R : β → σ → Prop} {E : ε → σ → Prop}
  {m : EStateM ε σ α} {k : α → EStateM ε σ β}

theorem Triple.pure {a : α} (h : ∀ s, P s → Q a s) : Triple P (Pure.pure a) Q E := h

theorem Triple.get {Q : σ → σ → Prop} (h : ∀ s, P s → Q s s) :
    Triple P (MonadState.get : EStateM ε σ σ) Q E := h

theorem Triple.throw {e : ε} (h : ∀ s, P s → E e s) :
    Triple P (MonadExcept.throw e : EStateM ε σ α) Q E := h

theorem Triple.modify {f : σ → σ} {Q : PUnit → σ → Prop} (h : ∀ s, P s → Q ⟨⟩ (f s)) :
    Triple P (modify f : EStateM ε σ PUnit) Q E := h

/-- Sequencing. -/
theorem Triple.bind (h1 : Triple P m Q E) (h2 : ∀ a, Triple (Q a) (k a) R E) :
    Triple P (m >>= k) R E := by
  intro s hs
  have hm := h1 s hs
  cases hr : m s with
  | ok a s' =>
    rw [hr] at hm
    rw [bind_ok hr]
    exact h2 a s' hm
  | error e s' =>
    rw [hr] at hm
    rw [bind_error hr]
    exact hm

/-- Consequence. -/
theorem Triple.imp (h : Triple P m Q E) (hP : ∀ s, P' s → P s) (hQ : ∀ a s, Q a s → Q' a s) :
    Triple P' m Q' E := by
  intro s hs
  have hm := h s (hP s hs)
  cases hr : m s with
  | ok a s' =>
    rw [hr] at hm
    exact hQ a s' hm
  | error e s' =>
    rw [hr] at hm
    exact hm

/-- A part of the precondition that does not read the state. -/
theorem Triple.assume {φ : Prop} (h : φ → Triple P m Q E) :
    Triple (fun s => φ ∧ P s) m Q E :=
  fun s hs => h hs.1 s hs.2

theorem Triple.ite {c : Prop} [Decidable c] {m' : EStateM ε σ α}
    (h1 : c → Triple P m Q E) (h2 : ¬ c → Triple P m' Q E) :
    Triple P (if c then m else m') Q E := by
  by_cases hc : c
  · rw [if_pos hc]
    exact h1 hc
  · rw [if_neg hc]
    exact h2 hc

end triples

end HrServer.Lib
