/-
HrServer.Config.Load — `Config::Lookup` and `Config::LoadFromYaml` of
`sylar/config.h` and `config.cc`.

A name is checked against an alphabet when it is registered, and against a
second one, written out again, at every level of the tree. The two strings
are the same and both end at the digit 8: a name with a 9 in it is neither
registered nor looked for (`loadable_iff`). Any other name of letters,
digits, underscores and dots is found wherever it stands in the tree
(`mem_listAllMember`).

A `YAML::Node` is a tree as in `HrServer.Server.Yaml`. `scalarOf` and `emit`
stand for `Scalar()` and `ss << node`; `fromString` reports what the
conversion throws and returns, so that the loop goes on to the next node.
-/
import HrServer.Lib.Nibbles
import HrServer.Server.Yaml
import HrServer.Http.Query
import Mathlib.Data.List.AList

namespace HrServer

open Lib.Nibbles (forall_byte)
open Http (Bytes ascii)

namespace Config

/-! ## The registry -/

/-- `ConfigVar<T>` with its `T`, the value it was made with, and its description. -/
structure Var (τ ν : Type) where
  name : Bytes
  type : τ
  defaultValue : ν
  description : Bytes

/-- The constructor, which turns the name to lower case. -/
def Var.new {τ ν : Type} (name : Bytes) (type : τ) (defaultValue : ν) (description : Bytes) :
    Var τ ν :=
  { name := name.map Http.toLower, type, defaultValue, description }

/-- `s_datas`. -/
abbrev Datas (τ ν : Type) := AList fun _ : Bytes => Var τ ν

/-- What `Lookup` returns or throws. -/
inductive LookupResult (τ ν : Type) where
  | found (var : Var τ ν)
  /-- The name is there with another type: a null pointer. -/
  | otherType
  | created (var : Var τ ν)
  | invalidArgument (name : Bytes)

/-- The characters that `Lookup` takes. -/
def lookupChars : Bytes := ascii "abcdefghikjlmnopqrstuvwxyz._012345678"

/-- The characters that `ListAllMember` takes. -/
def memberChars : Bytes := ascii "abcdefghikjlmnopqrstuvwxyz._012345678"

/-- `s.find_first_not_of(chars) != npos`. -/
def hasOther (chars s : Bytes) : Bool := s.any fun c => !chars.contains c

/-- `Lookup(name, default_value, description)`, with the registry behind it. -/
def lookup {τ ν : Type} [DecidableEq τ] (datas : Datas τ ν) (name : Bytes) (type : τ)
    (defaultValue : ν) (description : Bytes) : Datas τ ν × LookupResult τ ν :=
  match datas.lookup name with
  | some var => (datas, if var.type = type then .found var else .otherType)
  | none =>
    if hasOther lookupChars name then (datas, .invalidArgument name)
    else
      let v := Var.new name type defaultValue description
      (datas.insert name v, .created v)

/-! ## Loading -/

section load

variable (scalarOf emit : Server.Node → Bytes)

/-- The name of a member under a prefix. -/
def memberName (pre member : Bytes) : Bytes :=
  if pre.isEmpty then member else pre ++ ascii "." ++ member

mutual

/-- `ListAllMember`: what it appends to `output`. -/
def listAllMember (pre : Bytes) : Server.Node → List (Bytes × Server.Node)
  | .map entries =>
    if hasOther memberChars pre then [] else (pre, .map entries) :: listEntries pre entries
  | node => if hasOther memberChars pre then [] else [(pre, node)]

/-- The loop over the entries of a map. -/
def listEntries (pre : Bytes) : List (Server.Node × Server.Node) → List (Bytes × Server.Node)
  | [] => []
  | e :: entries => listEntry pre e ++ listEntries pre entries

/-- One turn of the loop. -/
def listEntry (pre : Bytes) : Server.Node × Server.Node → List (Bytes × Server.Node)
  | (key, node) => listAllMember (memberName pre (scalarOf key)) node

end

/-- What is given to `fromString`. -/
def nodeText (node : Server.Node) : Bytes :=
  match node with
  | .scalar _ => scalarOf node
  | _ => emit node

/-- `LoadFromYaml`: the calls of `fromString` in their order. -/
def loadFromYaml {τ ν : Type} (datas : Datas τ ν) (root : Server.Node) : List (Var τ ν × Bytes) :=
  (listAllMember scalarOf [] root).filterMap fun i =>
    if i.1.isEmpty then none
    else (datas.lookup (i.1.map Http.toLower)).map fun var => (var, nodeText scalarOf emit i.2)

/-- Following the components of a name from a node leads to `v`. -/
inductive Leads : Server.Node → List Bytes → Server.Node → Prop
  | here (v : Server.Node) : Leads v [] v
  | step {entries : List (Server.Node × Server.Node)} {key child v : Server.Node}
      {comps : List Bytes} (hmem : (key, child) ∈ entries) (hrest : Leads child comps v) :
      Leads (.map entries) (scalarOf key :: comps) v

end load

/-! ## Names -/

/-- The characters of the components of a name. -/
def isNameChar (c : UInt8) : Bool := (48 ≤ c && c ≤ 57) || (97 ≤ c && c ≤ 122) || c = 95

/-- A component of a name: not empty, of these characters. -/
def IsComponent (comp : Bytes) : Prop := comp ≠ [] ∧ ∀ c ∈ comp, isNameChar c = true

/-- The components joined by dots, as they are found below a prefix. -/
def nameFrom (pre : Bytes) (comps : List Bytes) : Bytes := comps.foldl memberName pre

/-- The name made of the components. -/
def nameOf (comps : List Bytes) : Bytes := (ascii ".").intercalate comps

/-- Every character of a name but the digit 9 is in the alphabets, and has no other case. -/
theorem nameChar_table (c : UInt8) : isNameChar c = true ∨ c = 46 →
    (c ∈ lookupChars ↔ c ≠ 57) ∧ (c ∈ memberChars ↔ c ≠ 57) ∧ Http.toLower c = c :=
  forall_byte (P := fun c => isNameChar c = true ∨ c = 46 →
    (c ∈ lookupChars ↔ c ≠ 57) ∧ (c ∈ memberChars ↔ c ≠ 57) ∧ Http.toLower c = c)
    (by decide +kernel) c

theorem nameFrom_of_ne_nil {pre : Bytes} (hpre : pre ≠ []) (comps : List Bytes) :
    nameFrom pre comps = pre ++ comps.flatMap (ascii "." ++ ·) := by
  induction comps generalizing pre with
  | nil => simp [nameFrom]
  | cons comp comps ih =>
    have hmember : memberName pre comp = pre ++ ascii "." ++ comp := by
      simp [memberName, hpre]
    have hne : pre ++ ascii "." ++ comp ≠ [] := by simp [hpre]
    have hstep := ih hne
    rw [nameFrom] at hstep
    rw [nameFrom, List.foldl_cons, hmember, hstep]
    simp

theorem nameOf_cons (comp : Bytes) (comps : List Bytes) :
    nameOf (comp :: comps) = comp ++ comps.flatMap (ascii "." ++ ·) := by
  induction comps generalizing comp with
  | nil => simp [nameOf]
  | cons next comps ih =>
    have hnext := ih next
    rw [nameOf] at hnext ⊢
    rw [List.intercalate_cons_cons, hnext]
    simp

/-- Below the root, the components are found under the name made of them. -/
theorem nameFrom_nil {comps : List Bytes} (h : ∀ comp ∈ comps, IsComponent comp) :
    nameFrom [] comps = nameOf comps := by
  cases comps with
  | nil => rfl
  | cons comp comps =>
    rw [nameOf_cons]
    exact nameFrom_of_ne_nil (h comp (by simp)).1 comps

theorem nameOf_chars {comps : List Bytes} (h : ∀ comp ∈ comps, IsComponent comp) :
    ∀ c ∈ nameOf comps, isNameChar c = true ∨ c = 46 := by
  cases comps with
  | nil => simp [nameOf]
  | cons comp comps =>
    intro c hc
    rw [nameOf_cons, List.mem_append, List.mem_flatMap] at hc
    rcases hc with hc | ⟨next, hnext, hc⟩
    · exact .inl ((h comp (by simp)).2 c hc)
    · rcases List.mem_append.mp hc with hc | hc
      · exact .inr (by simpa [ascii] using hc)
      · exact .inl ((h next (by simp [hnext])).2 c hc)

theorem hasOther_eq_false_iff {chars s : Bytes} :
    hasOther chars s = false ↔ ∀ c ∈ s, c ∈ chars := by
  simp [hasOther]

/-- The alphabets refuse a name exactly for the digit 9. -/
theorem hasOther_nameOf {comps : List Bytes} (h : ∀ comp ∈ comps, IsComponent comp) :
    (hasOther lookupChars (nameOf comps) = false ↔ 57 ∉ nameOf comps) ∧
      (hasOther memberChars (nameOf comps) = false ↔ 57 ∉ nameOf comps) := by
  have hnine : (57 ∉ nameOf comps) ↔ ∀ c ∈ nameOf comps, c ≠ 57 :=
    ⟨fun h c hc e => h (e ▸ hc), fun h hmem => h 57 hmem rfl⟩
  simp only [hasOther_eq_false_iff, hnine]
  exact ⟨forall₂_congr fun c hc => (nameChar_table c (nameOf_chars h c hc)).1,
    forall₂_congr fun c hc => (nameChar_table c (nameOf_chars h c hc)).2.1⟩

/-! ## The tree -/

section tree

variable {scalarOf : Server.Node → Bytes}

theorem mem_self {pre : Bytes} (hpre : hasOther memberChars pre = false) (node : Server.Node) :
    (pre, node) ∈ listAllMember scalarOf pre node := by
  cases node <;> simp [listAllMember, hpre]

theorem mem_listEntries {pre : Bytes} {x : Bytes × Server.Node} {e : Server.Node × Server.Node}
    {entries : List (Server.Node × Server.Node)} (he : e ∈ entries)
    (hx : x ∈ listEntry scalarOf pre e) :
    x ∈ listEntries scalarOf pre entries := by
  induction entries with
  | nil => cases he
  | cons e' entries ih =>
    rw [listEntries, List.mem_append]
    rcases List.mem_cons.mp he with rfl | he
    · exact .inl hx
    · exact .inr (ih he)

theorem subset_nameFrom (pre : Bytes) (comps : List Bytes) : pre ⊆ nameFrom pre comps := by
  induction comps generalizing pre with
  | nil => exact List.Subset.refl _
  | cons comp comps ih =>
    refine List.Subset.trans ?_ (ih (memberName pre comp))
    unfold memberName
    split
    · next hnil => simp [List.isEmpty_iff.mp hnil]
    · exact fun c hc => by simp [hc]

/-- Where the components lead is listed under the name they make, however deep it is and
whatever else the maps on the way hold. -/
theorem mem_listAllMember {root v : Server.Node} {comps : List Bytes}
    (h : Leads scalarOf root comps v) {pre : Bytes}
    (hname : hasOther memberChars (nameFrom pre comps) = false) :
    (nameFrom pre comps, v) ∈ listAllMember scalarOf pre root := by
  induction h generalizing pre with
  | here v => exact mem_self hname v
  | @step entries key child v comps hmem _ ih =>
    have hpre : hasOther memberChars pre = false := by
      rw [hasOther_eq_false_iff] at hname ⊢
      exact fun c hc => hname c (subset_nameFrom pre (scalarOf key :: comps) hc)
    simp only [listAllMember, hpre, Bool.false_eq_true, if_false]
    exact List.mem_cons_of_mem _ (mem_listEntries hmem (by rw [listEntry]; exact ih hname))

/-- A variable with the name is told the text of the node that the components lead to. -/
theorem mem_loadFromYaml {τ ν : Type} (emit : Server.Node → Bytes) {datas : Datas τ ν}
    {var : Var τ ν} {comps : List Bytes} (hne : comps ≠ [])
    (h : ∀ comp ∈ comps, IsComponent comp) (hnine : 57 ∉ nameOf comps)
    (hvar : datas.lookup (nameOf comps) = some var) {root v : Server.Node}
    (hleads : Leads scalarOf root comps v) :
    (var, nodeText scalarOf emit v) ∈ loadFromYaml scalarOf emit datas root := by
  have hmember : hasOther memberChars (nameFrom [] comps) = false := by
    rw [nameFrom_nil h]
    exact (hasOther_nameOf h).2.mpr hnine
  have hlisted := mem_listAllMember hleads hmember
  rw [nameFrom_nil h] at hlisted
  have hlower : (nameOf comps).map Http.toLower = nameOf comps := by
    conv_rhs => rw [← List.map_id (nameOf comps)]
    exact List.map_congr_left fun c hc => (nameChar_table c (nameOf_chars h c hc)).2.2
  have hfound : datas.lookup ((nameOf comps).map Http.toLower) = some var := by
    rw [hlower]
    exact hvar
  have hempty : (nameOf comps).isEmpty = false := by
    cases comps with
    | nil => exact absurd rfl hne
    | cons comp comps => simp [nameOf_cons, (h comp (by simp)).1]
  rw [loadFromYaml, List.mem_filterMap]
  exact ⟨_, hlisted, by simp [hempty, hfound]⟩

end tree

/-! ## Registering and loading -/

section registry

variable {τ ν : Type} [DecidableEq τ]

/-- The arguments of a call of `Lookup`. -/
structure Registration (τ ν : Type) where
  name : Bytes
  type : τ
  defaultValue : ν
  description : Bytes

/-- The registry after a call. -/
def register (datas : Datas τ ν) (r : Registration τ ν) : Datas τ ν :=
  (lookup datas r.name r.type r.defaultValue r.description).1

/-- No call takes a variable away or puts another one in its place. -/
theorem register_keeps {datas : Datas τ ν} {name : Bytes} {var : Var τ ν}
    (h : datas.lookup name = some var) (r : Registration τ ν) :
    (register datas r).lookup name = some var := by
  unfold register lookup
  split
  · exact h
  · next hnone =>
    split
    · exact h
    · have hne : name ≠ r.name := by
        rintro rfl
        rw [hnone] at h
        cases h
      rw [AList.lookup_insert_ne hne]
      exact h

theorem registers_keep {datas : Datas τ ν} {name : Bytes} {var : Var τ ν}
    (h : datas.lookup name = some var) (rs : List (Registration τ ν)) :
    (rs.foldl register datas).lookup name = some var := by
  induction rs generalizing datas with
  | nil => exact h
  | cons r rs ih => exact ih (register_keeps h r)

variable (scalarOf emit : Server.Node → Bytes)

/-- The name can be registered where it is free, and from then on every tree that leads along
its components to a node has the variable told the text of that node. -/
def Loadable (type : τ) (defaultValue : ν) (comps : List Bytes) : Prop :=
  ∀ (datas : Datas τ ν) (description : Bytes), datas.lookup (nameOf comps) = none →
    ∃ datas' var, lookup datas (nameOf comps) type defaultValue description
        = (datas', .created var) ∧
      ∀ (later : List (Registration τ ν)) (root v : Server.Node), Leads scalarOf root comps v →
        (var, nodeText scalarOf emit v)
          ∈ loadFromYaml scalarOf emit (later.foldl register datas') root

/-- What the alphabet refuses cannot be registered. -/
theorem not_loadable_of_other {type : τ} {defaultValue : ν} {comps : List Bytes}
    (hother : hasOther lookupChars (nameOf comps) = true) :
    ¬ Loadable scalarOf emit type defaultValue comps := by
  intro hload
  obtain ⟨datas', var, hlookup, -⟩ := hload ∅ [] (AList.lookup_empty _)
  rw [lookup, AList.lookup_empty] at hlookup
  simp [hother] at hlookup

/-- A name is loadable unless it has the digit 9 in it. -/
theorem loadable_iff (type : τ) (defaultValue : ν) {comps : List Bytes} (hne : comps ≠ [])
    (h : ∀ comp ∈ comps, IsComponent comp) :
    Loadable scalarOf emit type defaultValue comps ↔ 57 ∉ nameOf comps := by
  constructor
  · intro hload
    by_contra hnine
    have hother : hasOther lookupChars (nameOf comps) = true := by
      rw [← Bool.not_eq_false, (hasOther_nameOf h).1, not_not]
      exact hnine
    exact not_loadable_of_other scalarOf emit hother hload
  · intro hnine datas description hfree
    have hother := (hasOther_nameOf h).1.mpr hnine
    refine ⟨_, _, by simp only [lookup, hfree, hother]; rfl, fun later root v hleads => ?_⟩
    exact mem_loadFromYaml emit hne h hnine
      (registers_keep (AList.lookup_insert datas) later) hleads

end registry

/-- The text of a scalar, as `Scalar()` gives it. -/
def scalarText : Server.Node → Bytes
  | .scalar text => text
  | _ => []

/-- The name `tcp.port`. -/
theorem loadable_iff_port :
    Loadable scalarText Server.Small.emit () () [ascii "tcp", ascii "port"] := by
  have hcomps : ∀ comp ∈ [ascii "tcp", ascii "port"], IsComponent comp := by
    simp only [List.forall_mem_cons, IsComponent, ← List.all_eq_true]
    decide
  exact (loadable_iff scalarText Server.Small.emit () () (by decide) hcomps).mpr (by decide)

/-- The name `tcp.port9` is refused. -/
theorem not_loadable_port9 :
    ¬ Loadable scalarText Server.Small.emit () () [ascii "tcp", ascii "port9"] :=
  not_loadable_of_other scalarText Server.Small.emit (by decide)

end Config

end HrServer
