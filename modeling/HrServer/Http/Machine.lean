/-
HrServer.Http.Machine — the lookup of a generated state machine in its
tables.

`http11_parser.cc` and `httpclient_parser.cc` have the same code for it,
with a binary search over the single characters of a state and one over
its ranges; what differs is the tables, the condition and the actions.
`transIndex_spec` and `condIndex_spec` say what is found, whatever the
tables are.
-/
import HrServer.Http.Tables
import Mathlib.Algebra.Order.Ring.Nat

namespace HrServer

namespace Http

open Tables (at8)

/-- The tables of a machine. -/
structure Machine where
  actions : List (List Nat)
  keyOffsets : List (List Nat)
  transKeys : List (List Nat)
  singleLengths : List (List Nat)
  rangeLengths : List (List Nat)
  indexOffsets : List (List Nat)
  transOffsets : List (List Nat)
  transLengths : List (List Nat)
  condKeys : List (List Nat)
  condTargs : List (List Nat)
  condActions : List (List Nat)

/-- The binary search of the generated code over `n` sorted keys from index `base` on,
where key `i` stands for the characters from `lo i` to `hi i`. -/
def search (lo hi : Nat → Int) (c : Int) : (fuel n base : Nat) → Option Nat
  | 0, _, _ => none
  | _ + 1, 0, _ => none
  | fuel + 1, n + 1, base =>
    let mid := base + n / 2
    if c < lo mid then search lo hi c fuel (n / 2) base
    else if c > hi mid then search lo hi c fuel (n - n / 2) (mid + 1)
    else some mid

namespace Machine

/-- `_trans` for the character `c` in state `cs`. Characters are signed. -/
def transIndex (m : Machine) (cs : Nat) (c : UInt8) : Nat :=
  let x := c.toInt8.toInt
  let keys := at8 m.keyOffsets cs
  let trans := at8 m.indexOffsets cs
  let singles := at8 m.singleLengths cs
  let ranges := at8 m.rangeLengths cs
  let single := fun i => Int.ofNat (at8 m.transKeys (keys + i))
  let lower := fun i => Int.ofNat (at8 m.transKeys (keys + singles + 2 * i))
  let upper := fun i => Int.ofNat (at8 m.transKeys (keys + singles + 2 * i + 1))
  match search single single x singles singles 0 with
  | some i => trans + i
  | none =>
    match search lower upper x ranges ranges 0 with
    | some i => trans + singles + i
    | none => trans + singles + ranges

/-- `_cond` for a transition and its `_cpc`, or `none` when there is none. -/
def condIndex (m : Machine) (cpc : Int) (trans : Nat) : Option Nat :=
  let cond := at8 m.transOffsets trans
  let key := fun i => Int.ofNat (at8 m.condKeys (cond + i))
  let klen := at8 m.transLengths trans
  (search key key cpc klen klen 0).map (cond + ·)

/-- The actions at offset `acts` of the action table: a count and the actions, which
`ofCode` knows. -/
def actionList {α : Type} (m : Machine) (ofCode : Nat → Option α) (acts : Nat) : List α :=
  if acts = 0 then []
  else (List.range (at8 m.actions acts)).filterMap fun i => ofCode (at8 m.actions (acts + 1 + i))

end Machine

/-! ## What is found -/

/-- What the binary search returns is an index of the searched part whose characters
include `c`. -/
theorem search_spec {lo hi : Nat → Int} {c : Int} {i : Nat} (fuel : Nat) :
    ∀ {n base : Nat}, search lo hi c fuel n base = some i →
      base ≤ i ∧ i < base + n ∧ lo i ≤ c ∧ c ≤ hi i := by
  induction fuel with
  | zero =>
    intro n base h
    simp [search] at h
  | succ fuel ih =>
    intro n base h
    cases n with
    | zero => simp [search] at h
    | succ n =>
      simp only [search] at h
      split at h
      · obtain ⟨h1, h2, h3⟩ := ih h
        exact ⟨h1, by omega, h3⟩
      · split at h
        · obtain ⟨h1, h2, h3⟩ := ih h
          exact ⟨by omega, by omega, h3⟩
        · cases h
          exact ⟨by omega, by omega, by omega, by omega⟩

namespace Machine

variable (m : Machine)

/-- The transition of a character is one of its state; one of a single key is that
character's. -/
theorem transIndex_spec (cs : Nat) (c : UInt8) :
    at8 m.indexOffsets cs ≤ m.transIndex cs c
      ∧ m.transIndex cs c
        ≤ at8 m.indexOffsets cs + at8 m.singleLengths cs + at8 m.rangeLengths cs
      ∧ (m.transIndex cs c < at8 m.indexOffsets cs + at8 m.singleLengths cs →
        Int.ofNat (at8 m.transKeys
            (at8 m.keyOffsets cs + (m.transIndex cs c - at8 m.indexOffsets cs)))
          = c.toInt8.toInt) := by
  unfold transIndex
  dsimp only
  split
  · rename_i i hi
    obtain ⟨-, hlt, h1, h2⟩ := search_spec _ hi
    refine ⟨by omega, by omega, fun _ => ?_⟩
    rw [Nat.add_sub_cancel_left]
    exact Int.le_antisymm h1 h2
  · split
    · rename_i i hi
      obtain ⟨-, hlt, -, -⟩ := search_spec _ hi
      exact ⟨by omega, by omega, fun h => by omega⟩
    · exact ⟨by omega, by omega, fun h => by omega⟩

/-- The condition found is one of those of the transition. -/
theorem condIndex_spec {cpc : Int} {trans cond : Nat} (h : m.condIndex cpc trans = some cond) :
    at8 m.transOffsets trans ≤ cond
      ∧ cond < at8 m.transOffsets trans + at8 m.transLengths trans := by
  unfold condIndex at h
  dsimp only at h
  obtain ⟨i, hi, rfl⟩ := Option.map_eq_some_iff.mp h
  obtain ⟨-, hlt, -, -⟩ := search_spec _ hi
  exact ⟨by omega, by omega⟩

end Machine

end Http

end HrServer
