/-
HrServer.Server.Conf — `TcpServerConf` of `tcp_server.h`, and the two casts
between it and YAML.

That a text is loaded as the node it was emitted for is a hypothesis on the
two documents of a configuration (`Preserved`), its `args` and the whole.

`args` is written as a map and read as a scalar. A configuration with
`args` comes back without them, and the others come back as they were
(`conf_survives_iff`).
-/
import HrServer.Lib.OrderedSet
import HrServer.Server.Yaml
import Mathlib.Data.List.Nodup

namespace HrServer.Server

open Lib
open Http (Bytes ascii)

/-! ## The configuration -/

/-- `std::less<std::string>`, on the entries of a map. -/
def byName (a b : Bytes × Bytes) : Bool := decide (a.1 < b.1)

theorem byName_strict : OrderedSet.Strict byName where
  irrefl x := by simp [byName]
  trans := by
    intro x y z hxy hyz
    simp only [byName, decide_eq_true_eq] at *
    exact List.lt_trans hxy hyz

/-- `std::map<std::string, std::string>`, in its order. -/
@[ext] structure StringMap where
  entries : List (Bytes × Bytes)
  sorted : OrderedSet.Sorted byName entries
  deriving DecidableEq

namespace StringMap

def empty : StringMap := ⟨[], List.Pairwise.nil⟩

/-- `insert`, which keeps the value of a key that is there. -/
def insert (m : StringMap) (e : Bytes × Bytes) : StringMap :=
  ⟨(OrderedSet.insert byName e m.entries).1, OrderedSet.sorted_insert byName_strict m.sorted e⟩

end StringMap

structure TcpServerConf where
  address : List Bytes := []
  keepalive : Int32 := 0
  timeout : Int32 := 1000 * 2 * 60
  ssl : Int32 := 0
  id : Bytes := []
  type : Bytes := ascii "http"
  name : Bytes := []
  certFile : Bytes := []
  keyFile : Bytes := []
  acceptWorker : Bytes := []
  ioWorker : Bytes := []
  processWorker : Bytes := []
  args : StringMap := .empty

/-- `TcpServerConf::operator==`. -/
def TcpServerConf.equals (conf oth : TcpServerConf) : Bool :=
  conf.address == oth.address
    && conf.keepalive == oth.keepalive
    && conf.timeout == oth.timeout
    && conf.name == oth.name
    && conf.ssl == oth.ssl
    && conf.certFile == oth.certFile
    && conf.keyFile == oth.keyFile
    && conf.acceptWorker == oth.acceptWorker
    && conf.ioWorker == oth.ioWorker
    && conf.processWorker == oth.processWorker
    && conf.args == oth.args
    && conf.id == oth.id
    && conf.type == oth.type

/-! ## The casts -/

section casts

variable {ε : Type} (yaml : YamlCpp ε)

/-- `LexicalCast<std::string, std::string>`. -/
def stringToString (v : Bytes) : Bytes := v

/-- The node that `LexicalCast<std::map<std::string, std::string>, std::string>` emits. -/
def mapNode (v : StringMap) : Except ε Node :=
  v.entries.foldlM
    (fun node i => do yaml.assign node i.1 (← yaml.load (stringToString i.2))) (.map [])

def mapToString (v : StringMap) : Except ε Bytes := return yaml.emit (← mapNode yaml v)

/-- `LexicalCast<std::string, std::map<std::string, std::string>>`. -/
def stringToMap (v : Bytes) : Except ε StringMap := do
  let node ← yaml.load v
  let pairs ← yaml.pairs node
  return pairs.foldl
    (fun vec it => vec.insert (it.1, stringToString (yaml.emit it.2))) .empty

/-- The assignments of `LexicalCast<TcpServerConf, std::string>` to single keys. -/
def confFields (conf : TcpServerConf) (args : Node) : List (Bytes × Node) :=
  [(ascii "id", .scalar conf.id),
    (ascii "type", .scalar conf.type),
    (ascii "name", .scalar conf.name),
    (ascii "keepalive", yaml.ofInt conf.keepalive),
    (ascii "timeout", yaml.ofInt conf.timeout),
    (ascii "ssl", yaml.ofInt conf.ssl),
    (ascii "cert_file", .scalar conf.certFile),
    (ascii "key_file", .scalar conf.keyFile),
    (ascii "accept_worker", .scalar conf.acceptWorker),
    (ascii "io_worker", .scalar conf.ioWorker),
    (ascii "process_worker", .scalar conf.processWorker),
    (ascii "args", args)]

/-- `node["address"].push_back(i)`. -/
def pushAddress (node : Node) (i : Bytes) : Except ε Node := do
  let address ← yaml.pushBack (← yaml.index node (ascii "address")) (.scalar i)
  yaml.assign node (ascii "address") address

/-- The node that `LexicalCast<TcpServerConf, std::string>` emits. -/
def confNode (conf : TcpServerConf) : Except ε Node := do
  let args ← yaml.load (← mapToString yaml conf.args)
  let node ← (confFields yaml conf args).foldlM (fun node f => yaml.assign node f.1 f.2) .null
  conf.address.foldlM (pushAddress yaml) node

def confToString (conf : TcpServerConf) : Except ε Bytes := return yaml.emit (← confNode yaml conf)

/-- The strings of a node, one after the other. -/
def strings (node : Node) : Except ε (List Bytes) :=
  (List.range (yaml.size node)).mapM fun i => do yaml.asString (← yaml.item node i)

/-- `LexicalCast<std::string, TcpServerConf>`. -/
def stringToConf (v : Bytes) : Except ε TcpServerConf := do
  let node ← yaml.load v
  let mut conf : TcpServerConf := {}
  conf := { conf with id := yaml.asStringOr (← yaml.index node (ascii "id")) conf.id }
  conf := { conf with type := yaml.asStringOr (← yaml.index node (ascii "type")) conf.type }
  conf := { conf with
    keepalive := yaml.asIntOr (← yaml.index node (ascii "keepalive")) conf.keepalive }
  conf := { conf with timeout := yaml.asIntOr (← yaml.index node (ascii "timeout")) conf.timeout }
  conf := { conf with name := yaml.asStringOr (← yaml.index node (ascii "name")) conf.name }
  conf := { conf with ssl := yaml.asIntOr (← yaml.index node (ascii "ssl")) conf.ssl }
  conf := { conf with
    certFile := yaml.asStringOr (← yaml.index node (ascii "cert_file")) conf.certFile }
  conf := { conf with
    keyFile := yaml.asStringOr (← yaml.index node (ascii "key_file")) conf.keyFile }
  conf := { conf with
    acceptWorker := ← yaml.asString (← yaml.index node (ascii "accept_worker")) }
  conf := { conf with ioWorker := ← yaml.asString (← yaml.index node (ascii "io_worker")) }
  conf := { conf with
    processWorker := ← yaml.asString (← yaml.index node (ascii "process_worker")) }
  conf := { conf with
    args := ← stringToMap yaml (yaml.asStringOr (← yaml.index node (ascii "args")) []) }
  let address ← yaml.index node (ascii "address")
  if yaml.isDefined address then
    conf := { conf with address := conf.address ++ (← strings yaml address) }
  return conf

end casts

theorem TcpServerConf.equals_iff {conf oth : TcpServerConf} :
    conf.equals oth = true ↔ conf = oth := by
  rw [TcpServerConf.mk.injEq]
  simp only [equals, Bool.and_eq_true, beq_iff_eq]
  tauto

/-! ## What is emitted -/

section roundTrip

variable {ε : Type} {yaml : YamlCpp ε}

/-- Assignments to different keys of a node. -/
theorem index_assigns (hyaml : yaml.Documented) {fields : List (Bytes × Node)}
    (hkeys : (fields.map Prod.fst).Nodup) {node : Node} (hnode : node.Mapping) :
    ∃ node', fields.foldlM (fun node f => yaml.assign node f.1 f.2) node = .ok node'
      ∧ node'.Mapping ∧ (∀ f ∈ fields, yaml.index node' f.1 = .ok f.2)
      ∧ ∀ key ∉ fields.map Prod.fst, yaml.index node' key = yaml.index node key := by
  induction fields generalizing node with
  | nil => exact ⟨node, rfl, hnode, by simp, by simp⟩
  | cons f fields ih =>
    obtain ⟨node₁, hassign, hmap₁, hself, hother⟩ := hyaml.assign node f.1 f.2 hnode
    rw [List.map_cons, List.nodup_cons] at hkeys
    obtain ⟨node', hfold, hmap, hfields, hrest⟩ := ih hkeys.2 hmap₁
    refine ⟨node', ?_, hmap, ?_, ?_⟩
    · rw [List.foldlM_cons, hassign]
      exact hfold
    · rw [List.forall_mem_cons]
      exact ⟨by rw [hrest f.1 hkeys.1, hself], hfields⟩
    · intro key hkey
      rw [List.map_cons, List.mem_cons, not_or] at hkey
      rw [hrest key hkey.2, hother key hkey.1]

/-- `node["address"]`, after some addresses have been pushed. -/
def addressNode (address : List Bytes) : Node :=
  if address = [] then .undefined else .sequence (address.map .scalar)

theorem pushBack_address (hyaml : yaml.Documented) (pushed : List Bytes) (i : Bytes) :
    yaml.pushBack (addressNode pushed) (.scalar i) = .ok (addressNode (pushed ++ [i])) := by
  cases pushed with
  | nil => exact hyaml.pushBack_undefined _
  | cons a pushed => simp [addressNode, hyaml.pushBack_sequence]

theorem index_pushes (hyaml : yaml.Documented) (address : List Bytes) {pushed : List Bytes}
    {node : Node} (hnode : node.Mapping)
    (hpushed : yaml.index node (ascii "address") = .ok (addressNode pushed)) :
    ∃ node', address.foldlM (pushAddress yaml) node = .ok node' ∧ node'.Mapping
      ∧ yaml.index node' (ascii "address") = .ok (addressNode (pushed ++ address))
      ∧ ∀ key ≠ ascii "address", yaml.index node' key = yaml.index node key := by
  induction address generalizing pushed node with
  | nil => exact ⟨node, rfl, hnode, by simpa using hpushed, fun _ _ => rfl⟩
  | cons i address ih =>
    obtain ⟨node₁, hassign, hmap₁, hself, hother⟩ :=
      hyaml.assign node (ascii "address") (addressNode (pushed ++ [i])) hnode
    have hpush : pushAddress yaml node i = .ok node₁ := by
      rw [pushAddress, hpushed]
      simp only [bind, Except.bind, pushBack_address hyaml, hassign]
    obtain ⟨node', hfold, hmap, haddress, hrest⟩ := ih hmap₁ hself
    refine ⟨node', ?_, hmap, ?_, ?_⟩
    · rw [List.foldlM_cons, hpush]
      exact hfold
    · simpa using haddress
    · intro key hkey
      rw [hrest key hkey, hother key hkey]

variable (yaml) in
theorem confKeys_nodup (conf : TcpServerConf) (args : Node) :
    ((confFields yaml conf args).map Prod.fst).Nodup ∧
      ascii "address" ∉ (confFields yaml conf args).map Prod.fst := by
  simp only [confFields, List.map_cons, List.map_nil]
  decide

/-- The node of a configuration, by its keys. -/
theorem confNode_index (hyaml : yaml.Documented) {conf : TcpServerConf} {text : Bytes}
    {args : Node} (htext : mapToString yaml conf.args = .ok text)
    (hargs : yaml.load text = .ok args) :
    ∃ node, confNode yaml conf = .ok node
      ∧ (∀ f ∈ confFields yaml conf args, yaml.index node f.1 = .ok f.2)
      ∧ yaml.index node (ascii "address") = .ok (addressNode conf.address) := by
  obtain ⟨hkeys, haddress⟩ := confKeys_nodup yaml conf args
  obtain ⟨node, hfold, hmap, hfields, hrest⟩ :=
    index_assigns hyaml hkeys (show Node.null.Mapping from trivial)
  have hnone : yaml.index node (ascii "address") = .ok (addressNode []) := by
    rw [hrest _ haddress, hyaml.index_null]
    rfl
  obtain ⟨node', hpush, -, hpushed, hother⟩ := index_pushes hyaml conf.address hmap hnone
  refine ⟨node', ?_, ?_, hpushed⟩
  · rw [confNode, htext]
    simp only [bind, Except.bind, hargs, hfold, hpush]
  · intro f hf
    have hne : f.1 ≠ ascii "address" := fun heq => haddress (heq ▸ List.mem_map_of_mem hf)
    rw [hother _ hne, hfields f hf]

/-! ## What is read -/

theorem mapM_ok {α β : Type} {f : α → Except ε β} {g : α → β} {xs : List α}
    (h : ∀ x ∈ xs, f x = .ok (g x)) : xs.mapM f = .ok (xs.map g) := by
  induction xs with
  | nil => rfl
  | cons x xs ih =>
    rw [List.forall_mem_cons] at h
    rw [List.mapM_cons, h.1, ih h.2]
    rfl

theorem strings_sequence (hyaml : yaml.Documented) (address : List Bytes) :
    strings yaml (.sequence (address.map .scalar)) = .ok address := by
  have hitem : ∀ i ∈ List.range address.length,
      (do yaml.asString (← yaml.item (.sequence (address.map .scalar)) i))
        = .ok (address.getD i []) := by
    intro i hi
    have hi := List.mem_range.mp hi
    have hget : (address.map Node.scalar)[i]? = some (.scalar address[i]) := by simp [hi]
    simp only [bind, Except.bind, hyaml.item_sequence _ _ _ hget, hyaml.asString_scalar]
    simp [hi]
  rw [strings, hyaml.size_sequence, List.length_map, mapM_ok hitem]
  refine congrArg _ (List.ext_getElem (by simp) fun i h _ => ?_)
  have hi : i < address.length := by simpa using h
  simp [hi]

theorem stringToMap_empty (hyaml : yaml.Documented) : stringToMap yaml [] = .ok .empty := by
  rw [stringToMap, hyaml.load_empty]
  simp only [bind, Except.bind, hyaml.pairs_null]
  rfl

/-- A configuration is read back without its `args`. -/
theorem stringToConf_emit (hyaml : yaml.Documented) {conf : TcpServerConf} {args node : Node}
    (hargs : args.Mapping) {v : Bytes} (hload : yaml.load v = .ok node)
    (hfields : ∀ f ∈ confFields yaml conf args, yaml.index node f.1 = .ok f.2)
    (haddress : yaml.index node (ascii "address") = .ok (addressNode conf.address)) :
    stringToConf yaml v = .ok { conf with args := .empty } := by
  simp only [confFields, List.forall_mem_cons] at hfields
  obtain ⟨hid, htype, hname, hkeepalive, htimeout, hssl, hcert, hkey, haccept, hio, hprocess,
    hargs', -⟩ := hfields
  simp only [stringToConf, bind, Except.bind, hload, hid, htype, hname, hkeepalive, htimeout, hssl,
    hcert, hkey, haccept, hio, hprocess, hargs', haddress, hyaml.asStringOr_scalar,
    hyaml.asString_scalar, hyaml.asIntOr_ofInt, hyaml.asStringOr_mapping args _ hargs,
    stringToMap_empty hyaml]
  cases h : conf.address with
  | nil => simp [addressNode, hyaml.isDefined_undefined, pure, Except.pure]
  | cons a address =>
    have hstrings := strings_sequence hyaml (a :: address)
    have haddr : addressNode (a :: address) = .sequence ((a :: address).map .scalar) := rfl
    simp only [haddr, hyaml.isDefined_sequence, if_true, hstrings]
    rfl

/-! ## The round trip -/

/-- The cast of a map starts from a mapping and keeps it one. -/
theorem mapNode_mapping (hyaml : yaml.Documented) {v : StringMap} {node : Node}
    (h : mapNode yaml v = .ok node) : node.Mapping := by
  have hstart : (Node.map []).Mapping := trivial
  rw [mapNode] at h
  generalize Node.map [] = start at hstart h
  generalize v.entries = entries at h
  induction entries generalizing start with
  | nil =>
    cases h
    exact hstart
  | cons e entries ih =>
    rw [List.foldlM_cons] at h
    cases hload : yaml.load (stringToString e.2) with
    | error e => simp [hload, bind, Except.bind] at h
    | ok value =>
      obtain ⟨next, hassign, hnext, -⟩ := hyaml.assign start e.1 value hstart
      simp only [bind, Except.bind, hload, hassign] at h
      exact ih next hnext h

/-- The two documents of a configuration are loaded as the nodes they were emitted for. -/
structure Preserved (yaml : YamlCpp ε) (conf : TcpServerConf) : Prop where
  args : ∀ node, mapNode yaml conf.args = .ok node → yaml.load (yaml.emit node) = .ok node
  conf : ∀ node, confNode yaml conf = .ok node → yaml.load (yaml.emit node) = .ok node

/-- The conversion to a string and back gives an equal configuration. -/
def Survives (yaml : YamlCpp ε) (conf : TcpServerConf) : Prop :=
  ∃ v conf', confToString yaml conf = .ok v ∧ stringToConf yaml v = .ok conf'
    ∧ conf'.equals conf = true

theorem confToString_error {conf : TcpServerConf} {e : ε} (h : mapNode yaml conf.args = .error e) :
    confToString yaml conf = .error e := by
  simp [confToString, confNode, mapToString, h, bind, Except.bind]

theorem confToString_ok (hyaml : yaml.Documented) {conf : TcpServerConf}
    (hpres : Preserved yaml conf) {args : Node} (h : mapNode yaml conf.args = .ok args) :
    ∃ v, confToString yaml conf = .ok v
      ∧ stringToConf yaml v = .ok { conf with args := .empty } := by
  have htext : mapToString yaml conf.args = .ok (yaml.emit args) := by rw [mapToString, h]; rfl
  obtain ⟨node, hnode, hfields, haddress⟩ := confNode_index hyaml htext (hpres.args args h)
  have hmap := mapNode_mapping hyaml h
  refine ⟨yaml.emit node, ?_, stringToConf_emit hyaml hmap (hpres.conf node hnode) hfields haddress⟩
  rw [confToString, hnode]
  rfl

theorem args_of_survives (hyaml : yaml.Documented) {conf : TcpServerConf}
    (hpres : Preserved yaml conf) (h : Survives yaml conf) : conf.args.entries = [] := by
  obtain ⟨v, conf', hv, hconf', hequals⟩ := h
  cases hargs : mapNode yaml conf.args with
  | error e =>
    rw [confToString_error hargs] at hv
    cases hv
  | ok args =>
    obtain ⟨v', hv', hback⟩ := confToString_ok hyaml hpres hargs
    obtain rfl : v' = v := by simpa [hv'] using hv
    rw [hback] at hconf'
    cases hconf'
    rw [← TcpServerConf.equals_iff.mp hequals]
    rfl

/-- A configuration survives the conversions exactly when it has no `args`. -/
theorem conf_survives_iff (hyaml : yaml.Documented) {conf : TcpServerConf}
    (hpres : Preserved yaml conf) : Survives yaml conf ↔ conf.args.entries = [] := by
  refine ⟨args_of_survives hyaml hpres, fun hnone => ?_⟩
  have hempty : StringMap.empty = conf.args := StringMap.ext hnone.symm
  have hargs : mapNode yaml conf.args = .ok (.map []) := by rw [← hempty]; rfl
  obtain ⟨v, hv, hback⟩ := confToString_ok hyaml hpres hargs
  refine ⟨v, _, hv, hback, TcpServerConf.equals_iff.mpr ?_⟩
  rw [hempty]

end roundTrip

/-! ## Two configurations -/

def plainConf : TcpServerConf := { address := [ascii "0.0.0.0:80"] }

def argsConf : TcpServerConf :=
  { address := [ascii "0.0.0.0:80"]
    args := ⟨[(ascii "a", ascii "b")], List.pairwise_singleton _ _⟩ }

/-- The document of a configuration with one address. -/
def document (conf : TcpServerConf) (args : Node) : Node :=
  .map (((confFields (smallYaml []) conf args) ++ [(ascii "address", addressNode conf.address)]).map
    fun f => (.scalar f.1, f.2))

def argsNode : Node := .map [(.scalar (ascii "a"), .scalar (ascii "b"))]

/-- yaml-cpp on the documents of the two. -/
def confYaml : YamlCpp Unit :=
  smallYaml [.map [], .scalar (ascii "b"), argsNode, document plainConf (.map []),
    document argsConf argsNode]

theorem plainConf_preserved : Preserved confYaml plainConf where
  args := by
    intro node h
    cases h
    rfl
  conf := by
    intro node h
    have hnode : confNode confYaml plainConf = .ok (document plainConf (.map [])) := rfl
    rw [hnode] at h
    cases h
    rfl

theorem argsConf_preserved : Preserved confYaml argsConf where
  args := by
    intro node h
    have hnode : mapNode confYaml argsConf.args = .ok argsNode := rfl
    rw [hnode] at h
    cases h
    rfl
  conf := by
    intro node h
    have hnode : confNode confYaml argsConf = .ok (document argsConf argsNode) := rfl
    rw [hnode] at h
    cases h
    rfl

set_option maxRecDepth 4000 in
example : Small.emit (document argsConf argsNode) = ascii "id: \"\"\ntype: http\nname: \"\"\n"
    ++ ascii "keepalive: 0\ntimeout: 120000\nssl: 0\ncert_file: \"\"\nkey_file: \"\"\n"
    ++ ascii "accept_worker: \"\"\nio_worker: \"\"\nprocess_worker: \"\"\n"
    ++ ascii "args:\n  a: b\naddress:\n  - 0.0.0.0:80" := by
  decide

theorem conf_survives_iff_plain : Survives confYaml plainConf :=
  (conf_survives_iff (smallYaml_documented _) plainConf_preserved).mpr rfl

/-- The argument `a` with the value `b` is lost. -/
theorem conf_survives_fails : ¬ Survives confYaml argsConf := fun h =>
  absurd (args_of_survives (smallYaml_documented _) argsConf_preserved h) (List.cons_ne_nil _ _)

end HrServer.Server
