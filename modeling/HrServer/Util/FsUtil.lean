/-
HrServer.Util.FsUtil — `FSUtil::Rm` of `sylar/util.cc`: removing what is at a
path, with everything below.

The result of a child is overwritten by the next one's, and yet a `true` can
be trusted whatever fails (`rm_gone`): the directory's own `rmdir` comes
last, and fails where a child is left. What `Rm` takes for a directory is
decided by one bit of `st_mode`, which sockets and block devices have too
(`ifdir_iff`): `opendir` refuses them, and they stay.
-/
import HrServer.Http.Request
import HrServer.Lib.FileTree

namespace HrServer.Util.FSUtil

open Http Lib.FileTree

/-! ## Files -/

/-- The file types of `sys/stat.h`. -/
inductive FileType where
  | sock
  | lnk
  | reg
  | blk
  | dir
  | chr
  | fifo
  deriving DecidableEq, Repr

/-- The `S_IFMT` bits. -/
def FileType.bits : FileType → BitVec 32
  | .sock => 0xC000
  | .lnk => 0xA000
  | .reg => 0x8000
  | .blk => 0x6000
  | .dir => 0x4000
  | .chr => 0x2000
  | .fifo => 0x1000

def S_IFDIR : BitVec 32 := 0x4000

/-- What `lstat` tells of a file that `Rm` looks at; `perm` are the low bits of
`st_mode`. -/
structure Node where
  type : FileType
  perm : BitVec 12
  deriving DecidableEq, Repr

def Node.isDir (node : Node) : Bool := node.type == .dir

def Node.stMode (node : Node) : BitVec 32 := node.type.bits ||| node.perm.setWidth 32

/-- `st_mode & S_IFDIR`. -/
def Node.ifdir (node : Node) : Bool := node.stMode &&& S_IFDIR != 0

/-- The types with the bit of a directory that are none. -/
def FileType.Masked (t : FileType) : Prop := t = .sock ∨ t = .blk

instance (t : FileType) : Decidable t.Masked := inferInstanceAs (Decidable (_ ∨ _))

/-! ## The file system -/

/-- A `d_name`. -/
abbrev Name := Bytes

def dot : Name := [46]

def dotdot : Name := [46, 46]

/-- `path + "/" + d_name` is the path with one name more. -/
abbrev Path := List Name

/-- The nodes of a tree, and how many calls have been made. -/
structure Fs where
  nodes : List (Path × Node)
  calls : Nat
  tree : IsTree Node.isDir nodes
  names : ∀ e ∈ nodes, dot ∉ e.1 ∧ dotdot ∉ e.1

/-- The same files after one call more. -/
def Fs.called (fs : Fs) : Fs := { fs with calls := fs.calls + 1 }

/-- The file system without the node at `path`. -/
def Fs.erase (fs : Fs) (path : Path) (h : IsTree Node.isDir (remove fs.nodes path)) : Fs where
  nodes := remove fs.nodes path
  calls := fs.calls + 1
  tree := h
  names e he := fs.names e (mem_remove.mp he).1

@[simp] theorem Fs.called_nodes (fs : Fs) : fs.called.nodes = fs.nodes := rfl

/-- The calls that may fail. -/
inductive Op where
  | opendir
  | unlink
  | rmdir
  deriving DecidableEq, Repr

/-- The operating system: which calls fail, by their number, though they could
succeed, and in what order `readdir` gives the entries of a directory. -/
structure Kernel where
  fails : Nat → Op → Path → Bool
  order : Nat → List Name → List Name
  order_perm : ∀ n names, (order n names).Perm (dot :: dotdot :: names)

/-- Every call succeeds that can. -/
def Kernel.Reliable (k : Kernel) : Prop := ∀ n op path, k.fails n op path = false

/-- `lstat`, `none` for an error. -/
def lstat (path : Path) (fs : Fs) : Option Node := lookup fs.nodes path

namespace Kernel

/-- `opendir`, with what `readdir` then gives until the end. -/
def opendir (k : Kernel) (path : Path) (fs : Fs) : Option (List Name) × Fs :=
  if k.fails fs.calls .opendir path then (none, fs.called)
  else match lstat path fs with
    | none => (none, fs.called)
    | some node =>
      if node.isDir then (some (k.order fs.calls (children fs.nodes path)), fs.called)
      else (none, fs.called)

/-- `unlink`, of anything but a directory; whether it succeeded. -/
def unlink (k : Kernel) (path : Path) (fs : Fs) : Bool × Fs :=
  if k.fails fs.calls .unlink path then (false, fs.called)
  else match h : lstat path fs with
    | none => (false, fs.called)
    | some node =>
      if hdir : node.isDir = false then
        (true, fs.erase path (fs.tree.remove_file (mem_of_lookup h) hdir))
      else (false, fs.called)

/-- `rmdir`, of a directory without children; whether it succeeded. -/
def rmdir (k : Kernel) (path : Path) (fs : Fs) : Bool × Fs :=
  if k.fails fs.calls .rmdir path then (false, fs.called)
  else match lstat path fs with
    | none => (false, fs.called)
    | some node =>
      if h : node.isDir = true ∧ children fs.nodes path = [] then
        (true, fs.erase path (fs.tree.remove_empty h.2))
      else (false, fs.called)

end Kernel

/-! ## The functions -/

/-- `FSUtil::Unlink`. -/
def Unlink (k : Kernel) (filename : Path) (exist : Bool) (fs : Fs) : Bool × Fs :=
  if !exist && (lstat filename fs).isNone then (true, fs) else k.unlink filename fs

/-- The loop of `Rm` over the entries of `path`. -/
def rmEntries (rm : Path → Fs → Option (Bool × Fs)) (path : Path) :
    List Name → Bool → Fs → Option (Bool × Fs)
  | [], ret, fs => some (ret, fs)
  | name :: rest, ret, fs =>
    if name = dot ∨ name = dotdot then rmEntries rm path rest ret fs
    else (rm (path ++ [name]) fs).bind fun r => rmEntries rm path rest r.1 r.2

/-- `FSUtil::Rm`; `none` where the fuel does not suffice. -/
def Rm (k : Kernel) : Nat → Path → Fs → Option (Bool × Fs)
  | 0, _, _ => none
  | fuel + 1, path, fs =>
    match lstat path fs with
    | none => some (true, fs)
    | some st =>
      if st.ifdir = false then some (Unlink k path false fs)
      else match k.opendir path fs with
        | (none, fs) => some (false, fs)
        | (some names, fs) => do
          let (ret, fs) ← rmEntries (Rm k fuel) path names true fs
          match k.rmdir path fs with
          | (false, fs) => some (false, fs)
          | (true, fs) => some (ret, fs)

/-! ## The bit -/

theorem perm_and_ifdir (perm : BitVec 12) : perm.setWidth 32 &&& S_IFDIR = 0#32 := by
  have hlow : ∀ i : Fin 12, S_IFDIR.getLsbD i = false := by decide
  refine BitVec.eq_of_getLsbD_eq fun i hi => ?_
  by_cases h : i < 12
  · simp [hlow ⟨i, h⟩]
  · simp [BitVec.getLsbD_of_ge perm i (by omega)]

/-- The bit is not the directories' own. -/
theorem ifdir_iff (node : Node) :
    node.ifdir = true ↔ node.isDir = true ∨ node.type.Masked := by
  have hmode : node.stMode &&& S_IFDIR = node.type.bits &&& S_IFDIR := by
    rw [Node.stMode, BitVec.and_or_distrib_right, perm_and_ifdir, BitVec.or_zero]
  rw [Node.ifdir, hmode, Node.isDir]
  cases node.type <;> decide

theorem not_masked {node : Node} (h : node.ifdir = false ∨ node.isDir = true) :
    ¬ node.type.Masked := by
  rcases h with h | h
  · intro hmask
    rw [(ifdir_iff node).mpr (.inr hmask)] at h
    cases h
  · rw [Node.isDir, beq_iff_eq] at h
    simp [FileType.Masked, h]

/-! ## The calls -/

variable {k : Kernel} {path : Path} {fs fs' : Fs} {node : Node} {ret ret' : Bool} {fuel : Nat}

theorem opendir_cases (k : Kernel) (path : Path) (fs : Fs) :
    k.opendir path fs = (none, fs.called) ∨
      ∃ node names, lstat path fs = some node ∧ node.isDir = true ∧
        names.Perm (dot :: dotdot :: children fs.nodes path) ∧
        k.opendir path fs = (some names, fs.called) := by
  unfold Kernel.opendir
  split
  · exact .inl rfl
  · split
    · exact .inl rfl
    · next node hst =>
      split
      · next hdir => exact .inr ⟨node, _, hst, hdir, k.order_perm _ _, rfl⟩
      · exact .inl rfl

/-- A call that removes: it fails and changes nothing, or the node is gone. -/
def Attempt (path : Path) (fs : Fs) (r : Bool × Fs) : Prop :=
  (r.1 = false ∧ r.2.nodes = fs.nodes) ∨ (r.1 = true ∧ r.2.nodes = remove fs.nodes path)

theorem unlink_attempt (k : Kernel) (path : Path) (fs : Fs) :
    Attempt path fs (k.unlink path fs) := by
  unfold Kernel.unlink
  split
  · exact .inl ⟨rfl, rfl⟩
  · split
    · exact .inl ⟨rfl, rfl⟩
    · split
      · exact .inr ⟨rfl, rfl⟩
      · exact .inl ⟨rfl, rfl⟩

theorem rmdir_attempt (k : Kernel) (path : Path) (fs : Fs) :
    Attempt path fs (k.rmdir path fs) := by
  unfold Kernel.rmdir
  split
  · exact .inl ⟨rfl, rfl⟩
  · split
    · exact .inl ⟨rfl, rfl⟩
    · split
      · exact .inr ⟨rfl, rfl⟩
      · exact .inl ⟨rfl, rfl⟩

theorem Attempt.lookup_none {r : Bool × Fs} (h : Attempt path fs r) (hret : r.1 = true) :
    lookup r.2.nodes path = none := by
  rcases h with ⟨hfail, -⟩ | ⟨-, hnodes⟩
  · rw [hfail] at hret
    cases hret
  · rw [hnodes]
    exact lookup_remove _ _

section reliable

variable (hk : k.Reliable) (hst : lstat path fs = some node)
include hk hst

theorem Kernel.Reliable.opendir (hdir : node.isDir = true) :
    (k.opendir path fs).1 ≠ none := by
  simp [Kernel.opendir, hk _ _ _, hst, hdir]

theorem Kernel.Reliable.unlink (hdir : node.isDir = false) : (k.unlink path fs).1 = true := by
  unfold Kernel.unlink
  rw [if_neg (by simp [hk _ _ _])]
  split
  · next h => rw [hst] at h; cases h
  · next node' h =>
    obtain rfl : node = node' := Option.some.inj (hst.symm.trans h)
    rw [dif_pos hdir]

theorem Kernel.Reliable.rmdir (hdir : node.isDir = true) (hempty : children fs.nodes path = []) :
    (k.rmdir path fs).1 = true := by
  simp [Kernel.rmdir, hk _ _ _, hst, hdir, hempty]

end reliable

/-! ## What a run of `Rm` does -/

/-- The ways through `Rm`. -/
inductive RmStep (k : Kernel) (fuel : Nat) (path : Path) (fs : Fs) : Bool → Fs → Prop
  | missing (hst : lstat path fs = none) : RmStep k fuel path fs true fs
  | file (node : Node) (hst : lstat path fs = some node) (hbit : node.ifdir = false) :
      RmStep k fuel path fs (k.unlink path fs).1 (k.unlink path fs).2
  | refused (node : Node) (hst : lstat path fs = some node) (hbit : node.ifdir = true)
      (hopen : k.opendir path fs = (none, fs.called)) : RmStep k fuel path fs false fs.called
  | opened (node : Node) (hst : lstat path fs = some node) (hdir : node.isDir = true)
      (names : List Name) (hnames : names.Perm (dot :: dotdot :: children fs.nodes path))
      (ret : Bool) (fs₁ : Fs)
      (hloop : rmEntries (Rm k fuel) path names true fs.called = some (ret, fs₁)) :
      RmStep k fuel path fs ((k.rmdir path fs₁).1 && ret) (k.rmdir path fs₁).2

theorem rm_step (h : Rm k (fuel + 1) path fs = some (ret, fs')) :
    RmStep k fuel path fs ret fs' := by
  rw [Rm] at h
  split at h
  · next hst => cases h; exact .missing hst
  · next node hst =>
    split at h
    · next hbit =>
      have hunlink : k.unlink path fs = (ret, fs') := by simpa [Unlink, hst] using h
      have hstep : RmStep k fuel path fs _ _ := .file node hst hbit
      rwa [hunlink] at hstep
    · next hbit =>
      have hbit : node.ifdir = true := by simpa using hbit
      rcases opendir_cases k path fs with hopen | ⟨node', names, hst', hdir, hnames, hopen⟩
      · rw [hopen] at h
        cases h
        exact .refused node hst hbit hopen
      · rw [hopen] at h
        obtain ⟨⟨r, fs₁⟩, hloop, h⟩ := Option.bind_eq_some_iff.mp h
        have hstep := RmStep.opened node' hst' hdir names hnames r fs₁ hloop
        rcases hrmdir : k.rmdir path fs₁ with ⟨done, fs₂⟩
        rw [hrmdir] at hstep
        simp only [hrmdir] at h
        cases done <;> cases h <;> exact hstep

/-! ## What stays

Only what a run touches may go, and a node with the misleading bit never
does. -/

structure Shrinks (touch : Path → Prop) (fs fs' : Fs) : Prop where
  sublist : fs'.nodes.Sublist fs.nodes
  outside : ∀ e ∈ fs.nodes, ¬ touch e.1 → e ∈ fs'.nodes
  masked : ∀ e ∈ fs.nodes, e.2.type.Masked → e ∈ fs'.nodes

section shrinks

variable {touch touch' : Path → Prop} {fs₁ : Fs}

theorem Shrinks.of_eq (h : fs'.nodes = fs.nodes) : Shrinks touch fs fs' :=
  ⟨by rw [h], fun _ he _ => h ▸ he, fun _ he _ => h ▸ he⟩

theorem Shrinks.trans (h : Shrinks touch fs fs₁) (h' : Shrinks touch fs₁ fs') :
    Shrinks touch fs fs' where
  sublist := h'.sublist.trans h.sublist
  outside e he ht := h'.outside e (h.outside e he ht) ht
  masked e he hm := h'.masked e (h.masked e he hm) hm

theorem Shrinks.mono (h : Shrinks touch fs fs') (hle : ∀ q, touch q → touch' q) :
    Shrinks touch' fs fs' :=
  ⟨h.sublist, fun e he ht => h.outside e he fun htouch => ht (hle _ htouch), h.masked⟩

theorem Shrinks.of_remove (hst : lstat path fs = some node) (hnode : ¬ node.type.Masked)
    (h : fs'.nodes = remove fs.nodes path) : Shrinks (path <+: ·) fs fs' where
  sublist := h ▸ List.filter_sublist
  outside e he ht := by
    rw [h, mem_remove]
    refine ⟨he, fun heq => ht ?_⟩
    exact heq ▸ List.prefix_refl _
  masked e he hm := by
    rw [h, mem_remove]
    refine ⟨he, ?_⟩
    rintro rfl
    obtain rfl : e.2 = node := fs.tree.eq_of_mem he (mem_of_lookup hst)
    exact hnode hm

/-- The node at `path` may go when it has not the bit, or is a directory. -/
theorem Attempt.shrinks {r : Bool × Fs} (h : Attempt path fs r)
    (hst : lstat path fs = some node) (hnode : node.ifdir = false ∨ node.isDir = true) :
    Shrinks (path <+: ·) fs r.2 := by
  rcases h with ⟨-, hnodes⟩ | ⟨-, hnodes⟩
  · exact .of_eq hnodes
  · exact .of_remove hst (not_masked hnode) hnodes

/-- A directory stays while what is in it goes. -/
theorem Shrinks.lstat_eq (h : Shrinks (fun q => ∃ n, path ++ [n] <+: q) fs fs')
    (hst : lstat path fs = some node) : lstat path fs' = some node := by
  refine fs'.tree.lookup_eq (h.outside _ (mem_of_lookup hst) ?_)
  rintro ⟨n, hn⟩
  exact not_below path n hn

end shrinks

/-! ## The loop -/

/-- No node at `path` or below has the misleading bit. -/
def Clean (fs : Fs) (path : Path) : Prop := ∀ e ∈ fs.nodes, path <+: e.1 → ¬ e.2.type.Masked

theorem Clean.of_sublist {q : Path} (h : Clean fs path) (hsub : fs'.nodes.Sublist fs.nodes)
    (hq : path <+: q) : Clean fs' q :=
  fun e he hpre => h e (hsub.subset he) (hq.trans hpre)

section loop

variable {rm : Path → Fs → Option (Bool × Fs)}
  (hshrinks : ∀ n fs ret fs', rm (path ++ [n]) fs = some (ret, fs') →
    Shrinks (path ++ [n] <+: ·) fs fs')
include hshrinks

/-- The loop touches what is in the directory. -/
theorem rmEntries_shrinks {names : List Name}
    (h : rmEntries rm path names ret fs = some (ret', fs')) :
    Shrinks (fun q => ∃ n, path ++ [n] <+: q) fs fs' := by
  induction names generalizing ret fs with
  | nil =>
    cases h
    exact .of_eq rfl
  | cons name rest ih =>
    rw [rmEntries] at h
    split at h
    · exact ih h
    · obtain ⟨⟨r, fs₁⟩, hname, hrest⟩ := Option.bind_eq_some_iff.mp h
      have hfirst : Shrinks (fun q => ∃ n, path ++ [n] <+: q) fs fs₁ :=
        (hshrinks name fs r fs₁ hname).mono fun q hq => ⟨name, hq⟩
      exact hfirst.trans (ih hrest)

/-- The loop ends when its calls do. -/
theorem rmEntries_total {bound : Nat}
    (hrm : ∀ n fs, size fs.nodes (path ++ [n]) < bound → ∃ r, rm (path ++ [n]) fs = some r)
    (names : List Name) (ret : Bool) (hsize : ∀ n, size fs.nodes (path ++ [n]) < bound) :
    ∃ r, rmEntries rm path names ret fs = some r := by
  induction names generalizing ret fs with
  | nil => exact ⟨_, rfl⟩
  | cons name rest ih =>
    rw [rmEntries]
    split
    · exact ih ret hsize
    · obtain ⟨⟨r, fs₁⟩, hname⟩ := hrm name fs (hsize name)
      rw [hname, Option.bind_some]
      have hsub := (hshrinks name fs r fs₁ hname).sublist
      exact ih r fun n => (size_le_of_sublist hsub _).trans_lt (hsize n)

/-- The loop reports no failure and leaves nothing of what it was given. -/
theorem rmEntries_clean
    (hrm : ∀ n fs ret fs', Clean fs (path ++ [n]) → rm (path ++ [n]) fs = some (ret, fs') →
      ret = true ∧ Gone fs'.nodes (path ++ [n]))
    {names : List Name} (hclean : Clean fs path)
    (h : rmEntries rm path names true fs = some (ret, fs')) :
    ret = true ∧ ∀ n ∈ names, n ≠ dot → n ≠ dotdot → Gone fs'.nodes (path ++ [n]) := by
  induction names generalizing fs with
  | nil =>
    cases h
    exact ⟨rfl, fun n hn => by cases hn⟩
  | cons name rest ih =>
    rw [rmEntries] at h
    split at h
    · next hdots =>
      obtain ⟨hret, hgone⟩ := ih hclean h
      refine ⟨hret, fun n hn h1 h2 => ?_⟩
      rcases List.mem_cons.mp hn with rfl | hn
      · exact absurd hdots (by simp [h1, h2])
      · exact hgone n hn h1 h2
    · obtain ⟨⟨r, fs₁⟩, hname, hrest⟩ := Option.bind_eq_some_iff.mp h
      have hin : path <+: path ++ [name] := List.prefix_append _ _
      obtain ⟨rfl, hfirst⟩ := hrm name fs r fs₁ (hclean.of_sublist (.refl _) hin) hname
      have hsub := (hshrinks name fs true fs₁ hname).sublist
      obtain ⟨hret, hgone⟩ := ih (hclean.of_sublist hsub (List.prefix_refl _)) hrest
      refine ⟨hret, fun n hn h1 h2 => ?_⟩
      rcases List.mem_cons.mp hn with rfl | hn
      · exact hfirst.of_sublist (rmEntries_shrinks hshrinks hrest).sublist
      · exact hgone n hn h1 h2

end loop

/-! ## Whatever fails -/

theorem rm_shrinks (h : Rm k fuel path fs = some (ret, fs')) : Shrinks (path <+: ·) fs fs' := by
  induction fuel generalizing path fs ret fs' with
  | zero => cases h
  | succ fuel ih =>
    cases rm_step h with
    | missing hst => exact .of_eq rfl
    | refused => exact .of_eq rfl
    | file node hst hbit => exact (unlink_attempt k path fs).shrinks hst (.inl hbit)
    | opened node hst hdir names hnames r fs₁ hloop =>
      have hcalled : Shrinks (fun q => ∃ n, path ++ [n] <+: q) fs fs.called := .of_eq rfl
      have hin := hcalled.trans (rmEntries_shrinks (fun n fs ret fs' => ih) hloop)
      have hfirst : Shrinks (path <+: ·) fs fs₁ := hin.mono fun q hq => by
        obtain ⟨n, hn⟩ := hq
        exact (List.prefix_append path [n]).trans hn
      exact hfirst.trans ((rmdir_attempt k path fs₁).shrinks (hin.lstat_eq hst) (.inr hdir))

/-- **`Rm` says `true` only when nothing is left**, whatever fails. -/
theorem rm_gone (h : Rm k fuel path fs = some (true, fs')) : Gone fs'.nodes path := by
  refine fs'.tree.gone ?_
  cases fuel with
  | zero => cases h
  | succ fuel =>
    generalize hret : true = ret at h
    cases rm_step h with
    | missing hst => exact hst
    | refused => cases hret
    | file node hst hbit => exact (unlink_attempt k path fs).lookup_none hret.symm
    | opened node hst hdir names hnames r fs₁ hloop =>
      have hdone := (Bool.and_eq_true_iff.mp hret.symm).1
      exact (rmdir_attempt k path fs₁).lookup_none hdone

/-- Fuel for each node below suffices, whatever fails. -/
theorem rm_total (k : Kernel) (h : size fs.nodes path < fuel) :
    ∃ r, Rm k fuel path fs = some r := by
  induction fuel generalizing path fs with
  | zero => omega
  | succ fuel ih =>
    rw [Rm]
    split
    · exact ⟨_, rfl⟩
    · next node hst =>
      split
      · exact ⟨_, rfl⟩
      · rcases opendir_cases k path fs with hopen | ⟨node', names, hst', hdir, hnames, hopen⟩
        · rw [hopen]
          exact ⟨_, rfl⟩
        · rw [hopen]
          have hsize (n : Name) : size fs.called.nodes (path ++ [n]) < fuel := by
            have hlt := size_child_lt (mem_of_lookup hst) n
            rw [Fs.called_nodes]
            omega
          obtain ⟨⟨r, fs₁⟩, hloop⟩ := rmEntries_total
            (fun n fs ret fs' => rm_shrinks) (fun n fs => ih) names true hsize
          simp only [hloop]
          rw [Option.bind_eq_bind, Option.bind_some]
          split
          · exact ⟨_, rfl⟩
          · exact ⟨_, rfl⟩

/-! ## When every call succeeds that can -/

/-- An emptied directory has no children: `readdir` gave them all. -/
theorem children_emptied {names : List Name} {fs₁ : Fs}
    (hnames : names.Perm (dot :: dotdot :: children fs.nodes path))
    (hsub : fs₁.nodes.Sublist fs.nodes)
    (hgone : ∀ n ∈ names, n ≠ dot → n ≠ dotdot → Gone fs₁.nodes (path ++ [n])) :
    children fs₁.nodes path = [] := by
  refine List.eq_nil_iff_forall_not_mem.mpr fun n hn => ?_
  obtain ⟨node, hnode⟩ := mem_children.mp hn
  have hmem : n ∈ children fs.nodes path := mem_children.mpr ⟨node, hsub.subset hnode⟩
  have hdots := fs₁.names _ hnode
  simp only [List.mem_append, List.mem_singleton, not_or] at hdots
  have hread : n ∈ names := hnames.mem_iff.mpr (by simp [hmem])
  exact hgone n hread (Ne.symm hdots.1.2) (Ne.symm hdots.2.2) _ hnode (List.prefix_refl _)

/-- With no misleading bit in it, all of a tree goes. -/
theorem rm_clean (hk : k.Reliable) (hclean : Clean fs path)
    (h : Rm k fuel path fs = some (ret, fs')) : ret = true := by
  induction fuel generalizing path fs ret fs' with
  | zero => cases h
  | succ fuel ih =>
    cases rm_step h with
    | missing hst => rfl
    | refused node hst hbit hopen =>
      have hnot := hclean _ (mem_of_lookup hst) (List.prefix_refl _)
      have hdir := ((ifdir_iff node).mp hbit).resolve_right hnot
      exact absurd (congrArg Prod.fst hopen) (hk.opendir hst hdir)
    | file node hst hbit =>
      refine hk.unlink hst (Bool.eq_false_iff.mpr fun hdir => ?_)
      rw [(ifdir_iff node).mpr (.inl hdir)] at hbit
      cases hbit
    | opened node hst hdir names hnames r fs₁ hloop =>
      have hshrinks := rmEntries_shrinks (fun n fs ret fs' => rm_shrinks) hloop
      have hcalled : Clean fs.called path := hclean
      obtain ⟨rfl, hgone⟩ := rmEntries_clean (fun n fs ret fs' => rm_shrinks)
        (fun n fs ret fs' hclean h => by
          obtain rfl := ih hclean h
          exact ⟨rfl, rm_gone h⟩) hcalled hloop
      rw [Bool.and_true]
      have hst₁ : lstat path fs₁ = some node := hshrinks.lstat_eq hst
      exact hk.rmdir hst₁ hdir (children_emptied hnames hshrinks.sublist hgone)

/-! ## Which trees are removed -/

/-- When every call succeeds that can, `Rm` says `true` and leaves nothing; and
whatever fails, it says so only when it left nothing. -/
def RemovesAll (fs : Fs) (path : Path) : Prop :=
  (∀ k : Kernel, k.Reliable → ∀ fuel, fs.nodes.length < fuel →
    ∃ fs', Rm k fuel path fs = some (true, fs') ∧ Gone fs'.nodes path) ∧
  ∀ (k : Kernel) fuel fs', Rm k fuel path fs = some (true, fs') → Gone fs'.nodes path

/-- The kernel that fails nowhere and gives the entries as they are. -/
def steady : Kernel where
  fails _ _ _ := false
  order _ names := dot :: dotdot :: names
  order_perm _ _ := .refl _

theorem steady_reliable : steady.Reliable := fun _ _ _ => rfl

theorem not_removesAll {e : Path × Node} (he : e ∈ fs.nodes) (hpath : path <+: e.1)
    (hmask : e.2.type.Masked) : ¬ RemovesAll fs path := by
  intro ⟨hall, _⟩
  obtain ⟨fs', hrm, hgone⟩ := hall steady steady_reliable _ (Nat.lt_succ_self _)
  exact hgone e ((rm_shrinks hrm).masked e he hmask) hpath

/-- **Exactly the trees without sockets and block devices are removed.** -/
theorem rm_removes_iff (fs : Fs) (path : Path) :
    RemovesAll fs path ↔
      ∀ e ∈ fs.nodes, path <+: e.1 → e.2.type ≠ .sock ∧ e.2.type ≠ .blk := by
  constructor
  · intro h e he hpath
    refine not_or.mp fun hmask => ?_
    exact not_removesAll he hpath hmask h
  · intro h
    have hclean : Clean fs path := fun e he hpath => not_or.mpr (h e he hpath)
    refine ⟨fun k hk fuel hfuel => ?_, fun k fuel fs' => rm_gone⟩
    have hsize : size fs.nodes path < fuel := List.countP_le_length.trans_lt hfuel
    obtain ⟨⟨ret, fs'⟩, hrm⟩ := rm_total k hsize
    obtain rfl := rm_clean hk hclean hrm
    exact ⟨fs', hrm, rm_gone hrm⟩

/-- A directory with one file in it, of permissions `0755` both. -/
def oneFile (name : Name) (type : FileType) (hname : name ≠ dot ∧ name ≠ dotdot) : Fs where
  nodes := [([], ⟨.dir, 0x1ED⟩), ([name], ⟨type, 0x1ED⟩)]
  calls := 0
  tree := by
    refine ⟨by simp, fun p n node h => ⟨⟨.dir, 0x1ED⟩, ?_, rfl⟩⟩
    simp only [List.mem_cons, Prod.mk.injEq, List.append_eq_nil_iff, List.not_mem_nil,
      or_false, reduceCtorEq, and_false, false_and, false_or] at h
    have hp : p = [] := by simpa using congrArg List.dropLast h.1
    rw [hp]
    exact List.mem_cons_self
  names := by simp [Ne.symm hname.1, Ne.symm hname.2]

/-- A pipe in a directory is removed: `rm` reads the directory, removes the pipe,
then the directory. -/
example : ((Rm steady 3 [] (oneFile [112] .fifo (by decide))).map
    fun r => (r.1, r.2.nodes)) = some (true, []) := by decide

/-- A socket `s` stays where it is. -/
theorem rm_socket : ¬ RemovesAll (oneFile [115] .sock (by decide)) [[115]] :=
  @not_removesAll [[115]] (oneFile [115] .sock (by decide)) ([[115]], ⟨.sock, 0x1ED⟩)
    (by simp [oneFile]) (List.prefix_refl _) (.inl rfl)

end HrServer.Util.FSUtil
