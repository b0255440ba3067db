/-
HrServer.Lib.Checked — what C++ leaves undefined, as faults.

A value of a signed type of `w` bits is an integer in the range of the type.
An operation on signed values has its exact result, and is a fault where
the result is out of range (`signed`); an element of an array is read
inside of the array only (`read`), and a shift is by less than the width.
A computation is `Defined` when it comes to a result without a fault.

A conversion to a signed type is always defined: it wraps around
(`toInt32`).
-/
import Mathlib.Algebra.Order.Ring.Int
import Mathlib.Data.List.Basic

namespace HrServer.Lib.Checked

inductive Fault where
  | overflow
  | index (i : Int)
  | shift (count : Nat)
  deriving DecidableEq, Repr

/-- The computation has a result. -/
def Defined {ε α : Type} (call : Except ε α) : Prop := ∃ result, call = .ok result

theorem not_defined_error {ε α : Type} (e : ε) : ¬ Defined (.error e : Except ε α) :=
  fun ⟨_, h⟩ => by cases h

theorem Defined.of_map {ε α β : Type} {call : Except ε α} {f : α → β} (h : Defined (call.map f)) :
    Defined call := by
  cases call with
  | ok a => exact ⟨a, rfl⟩
  | error e =>
    obtain ⟨b, hb⟩ := h
    cases hb

/-- A sequence with a result has one for its first part, and goes on from there. -/
theorem bind_eq_ok {ε α β : Type} {call : Except ε α} {next : α → Except ε β} {b : β}
    (h : (call >>= next) = .ok b) : ∃ a, call = .ok a ∧ next a = .ok b := by
  cases call with
  | ok a => exact ⟨a, rfl, h⟩
  | error e => cases h

/-- What only returns adds no fault. -/
theorem defined_bind_pure_iff {ε α β : Type} {call : Except ε α} {f : α → β} :
    Defined (call >>= fun a => pure (f a)) ↔ Defined call := by
  constructor
  · rintro ⟨b, h⟩
    obtain ⟨a, ha, -⟩ := bind_eq_ok h
    exact ⟨a, ha⟩
  · rintro ⟨a, rfl⟩
    exact ⟨f a, rfl⟩

theorem map_of_ok {ε α β : Type} {call : Except ε α} {a : α} (h : call = .ok a) (f : α → β) :
    call.map f = .ok (f a) := by
  rw [h]
  rfl

/-! ## Signed results -/

/-- The range of a signed type of `w` bits. -/
def Fits (w : Nat) (x : Int) : Prop := -2 ^ (w - 1) ≤ x ∧ x < 2 ^ (w - 1)

instance (w : Nat) (x : Int) : Decidable (Fits w x) :=
  inferInstanceAs (Decidable (_ ∧ _))

/-- An operation with the exact result `x`. -/
def signed (w : Nat) (x : Int) : Except Fault Unit :=
  if Fits w x then .ok () else .error .overflow

/-- The range of an `int`. -/
theorem fits_32 {x : Int} : Fits 32 x ↔ -2147483648 ≤ x ∧ x < 2147483648 := Iff.rfl

theorem signed_of_fits {w : Nat} {x : Int} (h : Fits w x) : signed w x = .ok () := if_pos h

theorem signed_of_not_fits {w : Nat} {x : Int} (h : ¬ Fits w x) :
    signed w x = .error .overflow := if_neg h

/-- Behind an operation that is defined goes what follows. -/
theorem signed_bind {w : Nat} {x : Int} {α : Type} (h : Fits w x) (next : Unit → Except Fault α) :
    (signed w x >>= next) = next () := by
  rw [signed_of_fits h]
  rfl

theorem defined_signed_iff {w : Nat} {x : Int} : Defined (signed w x) ↔ Fits w x := by
  constructor
  · rintro ⟨result, h⟩
    by_contra hfits
    rw [signed_of_not_fits hfits] at h
    cases h
  · intro hfits
    exact ⟨(), signed_of_fits hfits⟩

/-! ## Conversions -/

/-- The conversion to `int`. -/
def toInt32 (n : Nat) : Int := Int.bmod n (2 ^ 32)

/-- The conversion looks at the low 32 bits. -/
theorem toInt32_low {n : Nat} (h : n % 2 ^ 32 < 2 ^ 31) : toInt32 n = (n % 2 ^ 32 : Nat) := by
  unfold toInt32
  rw [← Int.emod_bmod, Int.bmod_eq_of_le] <;> omega

theorem toInt32_high {n : Nat} (h : 2 ^ 31 ≤ n % 2 ^ 32) :
    toInt32 n = (n % 2 ^ 32 : Nat) - 2 ^ 32 := by
  unfold toInt32
  rw [← Int.emod_bmod, ← Int.sub_bmod_right, Int.bmod_eq_of_le] <;> omega

theorem toInt32_of_lt {n : Nat} (h : n < 2 ^ 31) : toInt32 n = n := by
  unfold toInt32
  rw [Int.bmod_eq_of_le] <;> omega

/-- The conversion to `int64_t`. -/
theorem bmod_of_lt {n : Nat} (h : n < 2 ^ 63) : Int.bmod n (2 ^ 64) = n := by
  rw [Int.bmod_eq_of_le] <;> omega

/-! ## Arrays -/

/-- `arr[i]`. -/
def read {α : Type} (arr : List α) (i : Int) : Except Fault α :=
  match i with
  | .ofNat k =>
    match arr[k]? with
    | some x => .ok x
    | none => .error (.index i)
  | .negSucc _ => .error (.index i)

theorem read_of_getElem? {α : Type} {arr : List α} {k : Nat} {x : α} (h : arr[k]? = some x) :
    read arr k = .ok x := by
  change (match arr[k]? with | some x => _ | none => _) = _
  rw [h]

theorem read_bind {α β : Type} {arr : List α} {k : Nat} {x : α} (h : arr[k]? = some x)
    (next : α → Except Fault β) : (read arr k >>= next) = next x := by
  rw [read_of_getElem? h]
  rfl

/-! ## The middle of an interval -/

/-- `(first + last) / 2` lies between the two, whatever their signs. -/
theorem middle_bounds {first last : Int} (h : first ≤ last) :
    first ≤ (first + last).tdiv 2 ∧ (first + last).tdiv 2 ≤ last := by
  rw [Int.tdiv_eq_ediv]
  split
  · omega
  · next hneg =>
    have hsign : Int.sign 2 = 1 := rfl
    omega

end HrServer.Lib.Checked
