/-
HrServer.Server.Yaml — what the casts of the configuration use of yaml-cpp.

yaml-cpp is a parameter (`YamlCpp`). What it reads and writes is a `Node`;
`Documented` says what the casts rely on. `smallYaml` is a yaml-cpp that
emits documents of two levels in block style and loads the documents of a
list, so that the casts can be run.
-/
import HrServer.Log.Pattern

namespace HrServer.Server

open Lib
open Http (Bytes ascii)

/-! ## YAML -/

/-- What a `YAML::Node` holds. -/
inductive Node where
  | undefined
  | null
  | scalar (text : Bytes)
  | sequence (items : List Node)
  | map (entries : List (Node × Node))

/-- A node that takes keys without losing what it holds. -/
def Node.Mapping : Node → Prop
  | .null | .map _ => True
  | .undefined | .scalar _ | .sequence _ => False

/-- The part of yaml-cpp that the casts use; `ε` is what it throws. -/
structure YamlCpp (ε : Type) where
  /-- `YAML::Load`. -/
  load : Bytes → Except ε Node
  /-- `ss << node`. -/
  emit : Node → Bytes
  /-- `node[key]`, to read. -/
  index : Node → Bytes → Except ε Node
  /-- The node after `node[key] = value`. -/
  assign : Node → Bytes → Node → Except ε Node
  /-- The node after `node.push_back(value)`. -/
  pushBack : Node → Node → Except ε Node
  isDefined : Node → Bool
  size : Node → Nat
  /-- `node[i]`. -/
  item : Node → Nat → Except ε Node
  /-- `it->first.Scalar()` and `it->second`, for all `it`. -/
  pairs : Node → Except ε (List (Bytes × Node))
  /-- `node.as<std::string>()`. -/
  asString : Node → Except ε Bytes
  /-- `node.as<std::string>(fallback)`. -/
  asStringOr : Node → Bytes → Bytes
  /-- `node.as<int>(fallback)`. -/
  asIntOr : Node → Int32 → Int32
  /-- The node of an `int`. -/
  ofInt : Int32 → Node

/-- What the casts rely on. -/
structure YamlCpp.Documented {ε : Type} (yaml : YamlCpp ε) : Prop where
  load_empty : yaml.load [] = .ok .null
  index_null : ∀ key, yaml.index .null key = .ok .undefined
  assign : ∀ node key value, node.Mapping → ∃ node', yaml.assign node key value = .ok node'
    ∧ node'.Mapping ∧ yaml.index node' key = .ok value
    ∧ ∀ key' ≠ key, yaml.index node' key' = yaml.index node key'
  pushBack_undefined : ∀ value, yaml.pushBack .undefined value = .ok (.sequence [value])
  pushBack_sequence : ∀ items value,
    yaml.pushBack (.sequence items) value = .ok (.sequence (items ++ [value]))
  isDefined_undefined : yaml.isDefined .undefined = false
  isDefined_sequence : ∀ items, yaml.isDefined (.sequence items) = true
  size_sequence : ∀ items, yaml.size (.sequence items) = items.length
  item_sequence : ∀ items i node, items[i]? = some node → yaml.item (.sequence items) i = .ok node
  pairs_null : yaml.pairs .null = .ok []
  asString_scalar : ∀ text, yaml.asString (.scalar text) = .ok text
  asStringOr_scalar : ∀ text fallback, yaml.asStringOr (.scalar text) fallback = text
  asStringOr_mapping : ∀ node fallback, node.Mapping → yaml.asStringOr node fallback = fallback
  asIntOr_ofInt : ∀ n fallback, yaml.asIntOr (yaml.ofInt n) fallback = n

/-! ## A yaml-cpp for small documents -/

namespace Small

def keyIs (key : Bytes) : Node → Bool
  | .scalar text => text == key
  | _ => false

def lookup (key : Bytes) : List (Node × Node) → Node
  | [] => .undefined
  | e :: entries => if keyIs key e.1 then e.2 else lookup key entries

def put (key : Bytes) (value : Node) : List (Node × Node) → List (Node × Node)
  | [] => [(.scalar key, value)]
  | e :: entries => if keyIs key e.1 then (e.1, value) :: entries else e :: put key value entries

def index : Node → Bytes → Except Unit Node
  | .scalar _, _ => .error ()
  | .map entries, key => .ok (lookup key entries)
  | _, _ => .ok .undefined

def assign : Node → Bytes → Node → Except Unit Node
  | .undefined, key, value | .null, key, value => .ok (.map [(.scalar key, value)])
  | .map entries, key, value => .ok (.map (put key value entries))
  | _, _, _ => .error ()

def pushBack : Node → Node → Except Unit Node
  | .undefined, value | .null, value => .ok (.sequence [value])
  | .sequence items, value => .ok (.sequence (items ++ [value]))
  | _, _ => .error ()

def isDefined : Node → Bool
  | .undefined => false
  | _ => true

def size : Node → Nat
  | .sequence items => items.length
  | .map entries => entries.length
  | _ => 0

def item : Node → Nat → Except Unit Node
  | .sequence items, i => .ok (items.getD i .undefined)
  | _, _ => .error ()

/-- `Scalar()`. -/
def text : Node → Bytes
  | .scalar text => text
  | _ => []

def pairs : Node → Except Unit (List (Bytes × Node))
  | .map entries => .ok (entries.map fun e => (text e.1, e.2))
  | .sequence _ => .error ()
  | _ => .ok []

def asString : Node → Except Unit Bytes
  | .scalar text => .ok text
  | _ => .error ()

def asStringOr : Node → Bytes → Bytes
  | .scalar text, _ => text
  | _, fallback => fallback

/-- An `int` in decimal. -/
def readInt : Bytes → Option Int32
  | 45 :: digits => (readNumeral 10 digits).map fun n : Nat => Int32.ofInt (-n)
  | digits => (readNumeral 10 digits).map fun n : Nat => Int32.ofInt n

def asIntOr : Node → Int32 → Int32
  | .scalar text, fallback => (readInt text).getD fallback
  | _, fallback => fallback

/-- A node without a line of its own. -/
def leaf : Node → Bytes
  | .null => ascii "~"
  | .scalar [] => ascii "\"\""
  | .scalar text => text
  | .sequence [] => ascii "[]"
  | .map [] => ascii "{}"
  | _ => []

/-- What stands behind a key. -/
def value : Node → Bytes
  | .sequence (item :: items) => (item :: items).flatMap fun n => ascii "\n  - " ++ leaf n
  | .map (e :: entries) =>
    (e :: entries).flatMap fun e => ascii "\n  " ++ leaf e.1 ++ ascii ": " ++ leaf e.2
  | node => ascii " " ++ leaf node

def emit : Node → Bytes
  | .map (e :: entries) =>
    (ascii "\n").intercalate ((e :: entries).map fun e => leaf e.1 ++ ascii ":" ++ value e.2)
  | node => leaf node

def load (documents : List Node) (v : Bytes) : Except Unit Node :=
  if v = [] then .ok .null
  else match documents.find? fun n => emit n == v with
    | some n => .ok n
    | none => .error ()

end Small

/-- yaml-cpp on the documents of a list. -/
def smallYaml (documents : List Node) : YamlCpp Unit where
  load := Small.load documents
  emit := Small.emit
  index := Small.index
  assign := Small.assign
  pushBack := Small.pushBack
  isDefined := Small.isDefined
  size := Small.size
  item := Small.item
  pairs := Small.pairs
  asString := Small.asString
  asStringOr := Small.asStringOr
  asIntOr := Small.asIntOr
  ofInt := fun n => .scalar (Log.FormatItem.int32Text n)

namespace Small

theorem lookup_put_self (key : Bytes) (v : Node) (entries : List (Node × Node)) :
    lookup key (put key v entries) = v := by
  induction entries with
  | nil => simp [put, lookup, keyIs]
  | cons e entries ih =>
    rw [put]
    split
    · next h => simp [lookup, h]
    · next h => simp [lookup, h, ih]

theorem keyIs_ne {key key' : Bytes} {n : Node} (hne : key' ≠ key) (h : keyIs key n = true) :
    keyIs key' n = false := by
  cases n with
  | scalar text => simp_all [keyIs, Ne.symm]
  | _ => rfl

theorem lookup_put_ne {key key' : Bytes} (hne : key' ≠ key) (v : Node)
    (entries : List (Node × Node)) : lookup key' (put key v entries) = lookup key' entries := by
  induction entries with
  | nil => simp [put, lookup, keyIs, hne.symm]
  | cons e entries ih =>
    rw [put]
    split
    · next h => simp [lookup, keyIs_ne hne h]
    · simp [lookup, ih]

theorem numeral_ne_sign (n : Nat) (digits : Bytes) : numeral 10 n ≠ 45 :: digits := by
  intro h
  have hmem : 45 ∈ numeral 10 n := h ▸ List.mem_cons_self
  obtain ⟨d, hd, hchar⟩ := mem_numeral (by decide) hmem
  have hall : ∀ d < 10, digitChar d ≠ 45 := by decide
  exact hall d hd hchar.symm

theorem readInt_int32Text (n : Int32) : readInt (Log.FormatItem.int32Text n) = some n := by
  have hread := readNumeral_numeral (b := 10) (n := n.toInt.natAbs) (by decide) (by decide)
  rw [Log.FormatItem.int32Text]
  split
  · next h =>
    have habs : -(n.toInt.natAbs : Int) = n.toInt := by omega
    rw [readInt, hread, Option.map_some, habs, Int32.ofInt_toInt]
  · next h =>
    have habs : (n.toInt.natAbs : Int) = n.toInt := by omega
    rw [readInt, hread, Option.map_some, habs, Int32.ofInt_toInt]
    exact fun digits => numeral_ne_sign _ digits

end Small

theorem smallYaml_documented (documents : List Node) : (smallYaml documents).Documented where
  load_empty := rfl
  index_null _ := rfl
  assign := by
    rintro (_ | _ | _ | _ | entries) key v hmap
    · cases hmap
    · exact ⟨_, rfl, trivial, by simp [smallYaml, Small.index, Small.lookup, Small.keyIs],
        fun key' hne => by simp [smallYaml, Small.index, Small.lookup, Small.keyIs, hne.symm]⟩
    · cases hmap
    · cases hmap
    · exact ⟨_, rfl, trivial, congrArg _ (Small.lookup_put_self key v entries),
        fun key' hne => congrArg _ (Small.lookup_put_ne hne v entries)⟩
  pushBack_undefined _ := rfl
  pushBack_sequence _ _ := rfl
  isDefined_undefined := rfl
  isDefined_sequence _ := rfl
  size_sequence _ := rfl
  item_sequence items i node h := by simp [smallYaml, Small.item, h]
  pairs_null := rfl
  asString_scalar _ := rfl
  asStringOr_scalar _ _ := rfl
  asStringOr_mapping := by
    rintro (_ | _ | _ | _ | entries) fallback hmap
    · cases hmap
    · rfl
    · cases hmap
    · cases hmap
    · rfl
  asIntOr_ofInt n fallback := by simp [smallYaml, Small.asIntOr, Small.readInt_int32Text]

end HrServer.Server
