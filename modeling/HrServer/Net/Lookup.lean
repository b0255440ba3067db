/-
HrServer.Net.Lookup — `Address::Lookup` of `address.cc`: how it cuts a host
into the node and the service that it asks `getaddrinfo` for.

`Splits` is what the header promises: `[address]` or `[address]:service`,
`name:service` with one colon, and everything else a node of its own, the
bare IPv6 literals with their many colons too. `lookup_split_iff` finds the
hosts that are cut so. The scan for a colon leaves `service` at the first
one even where it finds a second and gives the cut up, so an IPv6 literal
without brackets is looked up with a part of itself as the service.

A pointer into `host.c_str()` is an index. The bytes are 58 `:`, 91 `[`
and 93 `]`.
-/
import HrServer.Net.Address

namespace HrServer.Net

open Http (Bytes ascii cStr)

/-! ## The code -/

/-- What `str.c_str()` points to. -/
def withNul (str : Bytes) : Bytes := str ++ [0]

/-- `memchr(mem + start, c, n)`. -/
def memchr (mem : Bytes) (start : Nat) (c : UInt8) (n : Nat) : Option Nat :=
  (((mem.drop start).take n).findIdx? (· == c)).map (start + ·)

/-- The variables of `Lookup` that the scans set. -/
structure Cut where
  node : Bytes := []
  service : Option Nat := none

/-- The scan for an address in brackets. -/
def scanBrackets (host : Bytes) : Cut :=
  if host.head? = some 91 then
    match memchr (withNul host) 1 93 (host.length - 1) with
    | none => {}
    | some endipv6 =>
      { node := (host.drop 1).take (endipv6 - 1)
        service := if (withNul host)[endipv6 + 1]? = some 58 then some (endipv6 + 2) else none }
  else {}

/-- The scan for a colon. -/
def scanColon (host : Bytes) (cut : Cut) : Cut :=
  if cut.node = [] then
    match memchr (withNul host) 0 58 host.length with
    | none => { cut with service := none }
    | some service =>
      if memchr (withNul host) (service + 1) 58 (host.length - service - 1) = none then
        { node := host.take service, service := some (service + 1) }
      else { cut with service := some service }
  else cut

/-- The node and the service that `getaddrinfo` reads. -/
def lookupArgs (host : Bytes) : Bytes × Option Bytes :=
  let cut := scanColon host (scanBrackets host)
  let node := if cut.node = [] then host else cut.node
  (cStr (withNul node), cut.service.map fun p => cStr ((withNul host).drop p))

/-- The fields of `addrinfo` that are set for the hints; the rest are zero. -/
structure Hints where
  aiFamily : Int32
  aiSocktype : Int32
  aiProtocol : Int32

/-- `sockaddr`, by its family. -/
inductive Sockaddr where
  | inet (addr : SockaddrIn)
  | inet6 (addr : SockaddrIn6)
  | other (saFamily : UInt16) (saData : Bytes)

/-- The classes of addresses that `Create` makes. -/
inductive Address where
  | ipv4 (addr : SockaddrIn)
  | ipv6 (addr : SockaddrIn6)
  | unknown (saFamily : UInt16) (saData : Bytes)

def Address.create : Sockaddr → Address
  | .inet addr => .ipv4 addr
  | .inet6 addr => .ipv6 addr
  | .other saFamily saData => .unknown saFamily saData

section resolver

-- `getaddrinfo`, with its error or the list of its results.
variable (getaddrinfo : Bytes → Option Bytes → Hints → Except Int32 (List Sockaddr))

/-- `Address::Lookup`: what it returns, and `result`. -/
def lookup (result : List Address) (host : Bytes) (family type protocol : Int32) :
    Bool × List Address :=
  let (node, service) := lookupArgs host
  match getaddrinfo node service ⟨family, type, protocol⟩ with
  | .error _ => (false, result)
  | .ok results =>
    let result := result ++ results.map Address.create
    (!result.isEmpty, result)

/-- `Address::LookupAny`; the address of `result[0]` is none where there is no such entry. -/
def lookupAny (host : Bytes) (family type protocol : Int32) : Option Address :=
  let (found, result) := lookup getaddrinfo [] host family type protocol
  if found then result[0]? else none

variable (result : List Address) (host : Bytes) (family type protocol : Int32)

/-- What `result` held before stays in it. -/
theorem lookup_keeps : result <+: (lookup getaddrinfo result host family type protocol).2 := by
  simp only [lookup]
  split <;> simp

/-- `LookupAny` reads an entry that exists. -/
theorem lookupAny_isSome :
    (lookupAny getaddrinfo host family type protocol).isSome
      = (lookup getaddrinfo [] host family type protocol).1 := by
  have hfound : (lookup getaddrinfo [] host family type protocol).1 = true →
      (lookup getaddrinfo [] host family type protocol).2 ≠ [] := by
    simp only [lookup]
    split <;> simp
  cases h : (lookup getaddrinfo [] host family type protocol).1 with
  | false => simp [lookupAny, h]
  | true =>
    have hlen := List.length_pos_iff.mpr (hfound h)
    simp [lookupAny, h, hlen]

end resolver

/-! ## The scans -/

theorem cStr_withNul {str : Bytes} (h : 0 ∉ str) : cStr (withNul str) = str := by
  have hall : ∀ c ∈ str, (decide (c ≠ 0)) = true := fun c hc => by
    simpa using fun h0 : c = 0 => h (h0 ▸ hc)
  rw [cStr, withNul, List.takeWhile_append_of_pos hall]
  simp

/-- A pointer into a C string points to the rest of it. -/
theorem cStr_rest (front : Bytes) {host rest : Bytes} {p : Nat} (hhost : host = front ++ rest)
    (hp : p = front.length) (h : 0 ∉ rest) : cStr ((withNul host).drop p) = rest := by
  have hdrop : (withNul host).drop p = withNul rest := by simp [withNul, hhost, hp]
  rw [hdrop, cStr_withNul h]

/-- The search in the part `s` of the memory. -/
theorem memchr_part (front s rest : Bytes) (c : UInt8) :
    memchr (front ++ (s ++ rest)) front.length c s.length
      = (s.findIdx? (· == c)).map (front.length + ·) := by
  simp [memchr]

theorem memchr_absent (front rest : Bytes) {s : Bytes} {c : UInt8} (h : c ∉ s) :
    memchr (front ++ (s ++ rest)) front.length c s.length = none := by
  have hidx : s.findIdx? (· == c) = none := by
    rw [List.findIdx?_eq_none_iff]
    intro x hx
    simpa using fun heq : x = c => h (heq ▸ hx)
  rw [memchr_part, hidx]
  rfl

theorem memchr_first (front b rest : Bytes) {a : Bytes} {c : UInt8} (h : c ∉ a) :
    memchr (front ++ ((a ++ c :: b) ++ rest)) front.length c (a ++ c :: b).length
      = some (front.length + a.length) := by
  have hidx : (a ++ c :: b).findIdx? (· == c) = some a.length := by
    rw [List.findIdx?_append, List.findIdx?_eq_none_iff.mpr]
    · simp [List.findIdx?_cons]
    · intro x hx
      simpa using fun heq : x = c => h (heq ▸ hx)
  rw [memchr_part, hidx]
  rfl

theorem memchr_present (front rest : Bytes) {s : Bytes} {c : UInt8} (h : c ∈ s) :
    memchr (front ++ (s ++ rest)) front.length c s.length ≠ none := by
  rw [memchr_part]
  simpa [List.findIdx?_eq_none_iff] using h

/-! ## The cuts -/

/-- The node and the service that a host stands for. -/
inductive Splits : Bytes → Bytes → Option Bytes → Prop where
  | brackets {x : Bytes} : x ≠ [] → 93 ∉ x → Splits (91 :: (x ++ [93])) x none
  | bracketsPort {x s : Bytes} : x ≠ [] → 93 ∉ x → Splits (91 :: (x ++ 93 :: 58 :: s)) x (some s)
  | port {a s : Bytes} : a ≠ [] → a.head? ≠ some 91 → 58 ∉ a → 58 ∉ s →
      Splits (a ++ 58 :: s) a (some s)
  | whole {host : Bytes} : host.head? ≠ some 91 → host.count 58 ≠ 1 → Splits host host none

theorem scanBrackets_closed {x tail : Bytes} (hx : 93 ∉ x) :
    scanBrackets (91 :: (x ++ 93 :: tail))
      = { node := x
          service := if (withNul tail).head? = some 58 then some (x.length + 3) else none } := by
  have hmem : withNul (91 :: (x ++ 93 :: tail)) = [91] ++ ((x ++ 93 :: tail) ++ [0]) := rfl
  have hscan : memchr (withNul (91 :: (x ++ 93 :: tail))) 1 93 (x ++ 93 :: tail).length
      = some (1 + x.length) := by
    rw [hmem]
    exact memchr_first [91] tail [0] hx
  have hnext : (withNul (91 :: (x ++ 93 :: tail)))[1 + x.length + 1]? = (withNul tail).head? := by
    rw [hmem]
    cases tail <;> simp [withNul, Nat.add_comm 1]
  have hnode : ((91 :: (x ++ 93 :: tail)).drop 1).take (1 + x.length - 1) = x := by simp
  have hafter : 1 + x.length + 2 = x.length + 3 := by omega
  rw [scanBrackets, if_pos (List.head?_cons), List.length_cons, Nat.add_sub_cancel, hscan]
  simp only [hnext, hnode, hafter]

theorem scanBrackets_other {host : Bytes} (h : host.head? ≠ some 91) : scanBrackets host = {} := by
  rw [scanBrackets, if_neg h]

theorem scanColon_absent {host : Bytes} (h : 58 ∉ host) : scanColon host {} = {} := by
  have hscan := memchr_absent [] [0] h
  rw [List.nil_append, List.length_nil] at hscan
  simp [scanColon, withNul, hscan]

theorem scanColon_first {a s : Bytes} (h : 58 ∉ a) :
    scanColon (a ++ 58 :: s) {}
      = if 58 ∈ s then { node := [], service := some a.length }
        else { node := a, service := some (a.length + 1) } := by
  have hscan := memchr_first [] s [0] h
  rw [List.nil_append, List.length_nil, Nat.zero_add] at hscan
  have hmem : withNul (a ++ 58 :: s) = (a ++ [58]) ++ (s ++ [0]) := by simp [withNul]
  have hlen : (a ++ 58 :: s).length - a.length - 1 = s.length := by simp
  have hfront : a.length + 1 = (a ++ [58]).length := by simp
  have hnext : memchr (withNul (a ++ 58 :: s)) (a.length + 1) 58
      ((a ++ 58 :: s).length - a.length - 1) = none ↔ 58 ∉ s := by
    rw [hmem, hlen, hfront]
    exact ⟨fun hnone hs => memchr_present _ _ hs hnone, memchr_absent _ _⟩
  rw [withNul] at hnext
  simp only [scanColon, withNul, hscan, hnext, if_true]
  by_cases hs : 58 ∈ s <;> simp [hs]

/-- Hosts that are cut as the header has it. -/
theorem lookupArgs_splits {host node : Bytes} {service : Option Bytes} (hnul : 0 ∉ host)
    (h : Splits host node service) (hone : host.head? = some 91 ∨ host.count 58 ≤ 1) :
    lookupArgs host = (node, service) := by
  cases h with
  | brackets hne hx =>
    have hcut : scanBrackets (91 :: (node ++ [93])) = { node := node } := scanBrackets_closed hx
    have hnode : 0 ∉ node := fun h0 => hnul (by simp [h0])
    simp [lookupArgs, hcut, scanColon, hne, cStr_withNul hnode]
  | @bracketsPort _ s hne hx =>
    have hcut : scanBrackets (91 :: (node ++ 93 :: 58 :: s))
        = { node := node, service := some (node.length + 3) } := scanBrackets_closed hx
    have hnode : 0 ∉ node := fun h0 => hnul (by simp [h0])
    have hs : 0 ∉ s := fun h0 => hnul (by simp [h0])
    have hrest : cStr ((withNul (91 :: (node ++ 93 :: 58 :: s))).drop (node.length + 3)) = s :=
      cStr_rest (91 :: (node ++ [93, 58])) (by simp) (by simp) hs
    simp [lookupArgs, hcut, scanColon, hne, cStr_withNul hnode, hrest]
  | @port _ s hne hhead ha hcolon =>
    have hnode : 0 ∉ node := fun h0 => hnul (by simp [h0])
    have hs : 0 ∉ s := fun h0 => hnul (by simp [h0])
    have hrest : cStr ((withNul (node ++ 58 :: s)).drop (node.length + 1)) = s :=
      cStr_rest (node ++ [58]) (by simp) (by simp) hs
    have hcut : scanBrackets (node ++ 58 :: s) = {} := by
      refine scanBrackets_other ?_
      cases node with
      | nil => exact absurd rfl hne
      | cons c node => exact hhead
    simp [lookupArgs, hcut, scanColon_first ha, hcolon, hne, cStr_withNul hnode, hrest]
  | whole hhead hcount =>
    have hle := hone.resolve_left hhead
    have hcolon : 58 ∉ host := by
      rw [← List.count_eq_zero]
      omega
    simp [lookupArgs, scanBrackets_other hhead, scanColon_absent hcolon, cStr_withNul hnul]

/-- A host with a second colon. -/
theorem lookupArgs_colons {host : Bytes} (hnul : 0 ∉ host) (hhead : host.head? ≠ some 91)
    (hcount : 2 ≤ host.count 58) :
    ∃ s, lookupArgs host = (host, some (58 :: s)) := by
  have hcolon : 58 ∈ host := List.count_pos_iff.mp (by omega)
  obtain ⟨a, s, rfl, ha⟩ := List.eq_append_cons_of_mem hcolon
  have hs : 58 ∈ s := by
    rw [List.count_append, List.count_eq_zero.mpr ha, List.count_cons_self] at hcount
    exact List.count_pos_iff.mp (by omega)
  have hnul' : 0 ∉ 58 :: s := fun h0 => hnul (List.mem_append_right a h0)
  refine ⟨s, ?_⟩
  simp [lookupArgs, scanBrackets_other hhead, scanColon_first ha, hs, cStr_withNul hnul,
    cStr_rest a rfl rfl hnul']

/-- The hosts that `Lookup` cuts as the header has it: those in brackets, and those with at
most one colon. -/
theorem lookup_split_iff {host : Bytes} (hnul : 0 ∉ host) :
    (∀ node service, Splits host node service → lookupArgs host = (node, service))
      ↔ host.head? = some 91 ∨ host.count 58 ≤ 1 := by
  constructor
  · intro hsplits
    by_contra! hcolons
    obtain ⟨hhead, hcount⟩ := hcolons
    have hwhole := hsplits host none (.whole hhead (by omega))
    obtain ⟨s, hargs⟩ := lookupArgs_colons hnul hhead hcount
    rw [hargs] at hwhole
    cases hwhole
  · exact fun hone node service h => lookupArgs_splits hnul h hone

/-- The host `a.b` and the service `80`. -/
theorem lookup_split_iff_name :
    lookupArgs (ascii "a.b:80") = (ascii "a.b", some (ascii "80")) :=
  ((@lookup_split_iff (ascii "a.b:80") (by decide)).mpr (.inr (by decide))) _ _
    (@Splits.port (ascii "a.b") (ascii "80") (by decide) (by decide) (by decide) (by decide))

/-- The service of `fe80::1` is `::1`. -/
theorem lookup_split_fails : ¬ ∀ node service, Splits (ascii "fe80::1") node service →
    lookupArgs (ascii "fe80::1") = (node, service) := by
  intro h
  have hwhole := h (ascii "fe80::1") none (.whole (by decide) (by decide))
  exact absurd hwhole (by decide)

end HrServer.Net
