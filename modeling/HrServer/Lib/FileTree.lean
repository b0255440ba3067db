/-
HrServer.Lib.FileTree — a tree of files as the list of its nodes.

A node is a path and what is there. In a tree no path occurs twice and
every node stands in a directory, up to the empty path; so a path with
nothing at it has nothing below it (`IsTree.gone`), and what may be removed
is a file or a directory without children (`IsTree.remove_file`,
`IsTree.remove_empty`).
-/
import Mathlib.Data.List.Infix
import Mathlib.Data.List.Induction
import Mathlib.Data.List.Nodup

namespace HrServer.Lib.FileTree

variable {ν α : Type}

/-! ## Trees -/

/-- No path occurs twice, and every node stands in a directory. -/
structure IsTree (isDir : α → Bool) (t : List (List ν × α)) : Prop where
  nodup : (t.map Prod.fst).Nodup
  parent : ∀ p n a, (p ++ [n], a) ∈ t → ∃ d, (p, d) ∈ t ∧ isDir d = true

/-- Nothing is left at `p` and below it. -/
def Gone (t : List (List ν × α)) (p : List ν) : Prop := ∀ e ∈ t, ¬ p <+: e.1

section tree

variable {isDir : α → Bool} {t t' : List (List ν × α)} {p q : List ν} {a b : α}

theorem IsTree.eq_of_mem (h : IsTree isDir t) (ha : (p, a) ∈ t) (hb : (p, b) ∈ t) : a = b := by
  have heq := List.inj_on_of_nodup_map h.nodup ha hb rfl
  exact congrArg Prod.snd heq

/-- A node has a node at every path above it. -/
theorem IsTree.above (h : IsTree isDir t) (ha : (q, a) ∈ t) (hpq : p <+: q) :
    ∃ b, (p, b) ∈ t := by
  obtain ⟨rest, rfl⟩ := hpq
  induction rest using List.reverseRecOn generalizing a with
  | nil => exact ⟨a, by simpa using ha⟩
  | append_singleton rest n ih =>
    rw [← List.append_assoc] at ha
    obtain ⟨d, hd, -⟩ := h.parent _ n a ha
    exact ih hd

theorem Gone.of_sublist (h : Gone t p) (hsub : t'.Sublist t) : Gone t' p :=
  fun e he => h e (hsub.subset he)

end tree

/-- What stands in `p` is not above it. -/
theorem not_below (p : List ν) (n : ν) : ¬ p ++ [n] <+: p := by
  intro h
  have hlen := h.length_le
  rw [List.length_append, List.length_singleton] at hlen
  omega

/-! ## Looking and removing -/

variable [DecidableEq ν]

/-- The node at a path. -/
def lookup (t : List (List ν × α)) (p : List ν) : Option α :=
  (t.find? fun e => e.1 == p).map Prod.snd

/-- The name under which `q` stands in `p`. -/
def nameIn (p q : List ν) : Option ν :=
  if q.dropLast = p then q.getLast? else none

/-- The names of the nodes that stand in `p`. -/
def children (t : List (List ν × α)) (p : List ν) : List ν :=
  t.filterMap fun e => nameIn p e.1

/-- The nodes but the one at `p`. -/
def remove (t : List (List ν × α)) (p : List ν) : List (List ν × α) :=
  t.filter fun e => e.1 ≠ p

section

variable {isDir : α → Bool} {t t' : List (List ν × α)} {p q : List ν} {a : α} {n : ν}

theorem lookup_eq_none_iff : lookup t p = none ↔ ∀ e ∈ t, e.1 ≠ p := by
  simp [lookup]

theorem mem_of_lookup (h : lookup t p = some a) : (p, a) ∈ t := by
  obtain ⟨e, he, rfl⟩ := Option.map_eq_some_iff.mp h
  have hp : e.1 = p := by simpa using List.find?_some he
  exact hp ▸ List.mem_of_find?_eq_some he

theorem IsTree.lookup_eq (h : IsTree isDir t) (ha : (p, a) ∈ t) : lookup t p = some a := by
  cases hp : lookup t p with
  | none => exact absurd rfl (lookup_eq_none_iff.mp hp _ ha)
  | some b => rw [h.eq_of_mem ha (mem_of_lookup hp)]

theorem nameIn_eq_some_iff : nameIn p q = some n ↔ q = p ++ [n] := by
  unfold nameIn
  constructor
  · intro h
    split at h
    · next hp => rw [← hp, List.dropLast_append_getLast? n h]
    · cases h
  · rintro rfl
    simp

theorem mem_children : n ∈ children t p ↔ ∃ a, (p ++ [n], a) ∈ t := by
  simp only [children, List.mem_filterMap, nameIn_eq_some_iff]
  constructor
  · rintro ⟨⟨q, a⟩, hmem, rfl⟩
    exact ⟨a, hmem⟩
  · rintro ⟨a, hmem⟩
    exact ⟨_, hmem, rfl⟩

theorem mem_remove {e : List ν × α} : e ∈ remove t p ↔ e ∈ t ∧ e.1 ≠ p := by
  simp [remove]

theorem lookup_remove (t : List (List ν × α)) (p : List ν) : lookup (remove t p) p = none := by
  rw [lookup_eq_none_iff]
  exact fun e he => (mem_remove.mp he).2

/-- Where nothing is, nothing is below. -/
theorem IsTree.gone (h : IsTree isDir t) (hp : lookup t p = none) : Gone t p := by
  intro e he hpre
  obtain ⟨b, hb⟩ := h.above he hpre
  exact lookup_eq_none_iff.mp hp _ hb rfl

theorem IsTree.remove_of (h : IsTree isDir t)
    (hno : ∀ n a, (p ++ [n], a) ∉ t ∨ ∀ d, (p, d) ∈ t → isDir d = false) :
    IsTree isDir (remove t p) := by
  refine ⟨h.nodup.sublist (List.filter_sublist.map _), fun q n a ha => ?_⟩
  rw [mem_remove] at ha
  obtain ⟨d, hd, hdir⟩ := h.parent q n a ha.1
  refine ⟨d, mem_remove.mpr ⟨hd, ?_⟩, hdir⟩
  rintro rfl
  rcases hno n a with hno | hno
  · exact hno ha.1
  · rw [hno d hd] at hdir
    cases hdir

/-- A file can be removed. -/
theorem IsTree.remove_file (h : IsTree isDir t) (ha : (p, a) ∈ t) (hfile : isDir a = false) :
    IsTree isDir (remove t p) :=
  h.remove_of fun _ _ => .inr fun _ hd => h.eq_of_mem ha hd ▸ hfile

/-- A directory without children can be removed. -/
theorem IsTree.remove_empty (h : IsTree isDir t) (hempty : children t p = []) :
    IsTree isDir (remove t p) := by
  refine h.remove_of fun n a => .inl fun ha => ?_
  have hmem : n ∈ children t p := mem_children.mpr ⟨a, ha⟩
  rw [hempty] at hmem
  cases hmem

/-! ## The size of a part -/

/-- The number of nodes at `p` and below. -/
def size (t : List (List ν × α)) (p : List ν) : Nat := t.countP fun e => decide (p <+: e.1)

theorem size_le_of_sublist (h : t'.Sublist t) (p : List ν) : size t' p ≤ size t p := h.countP_le

/-- What stands in a directory is smaller than the directory. -/
theorem size_child_lt (hp : (p, a) ∈ t) (n : ν) : size t (p ++ [n]) < size t p := by
  obtain ⟨before, behind, rfl⟩ := List.append_of_mem hp
  have hmono (s : List (List ν × α)) : size s (p ++ [n]) ≤ size s p := by
    refine List.countP_mono_left fun e _ he => ?_
    simp only [decide_eq_true_eq] at he ⊢
    exact (List.prefix_append p [n]).trans he
  have hself := not_below p n
  have h1 := hmono before
  have h2 := hmono behind
  simp only [size, List.countP_append, List.countP_cons, hself, List.prefix_refl, decide_true,
    decide_false, if_true, Bool.false_eq_true, if_false] at h1 h2 ⊢
  omega

end

end HrServer.Lib.FileTree
