/-
HrServer.Net.Interfaces — `CountBytes` and both
`Address::GetInterfaceAddresses` of `address.cc`.

`CountBytes` clears the lowest one bit until none is left, so it counts the
ones (`countBytes_eq`), in whatever order the bytes stand. The prefix
length of an interface is that count over its netmask
(`entryOf_masked`). What `getifaddrs` returns is an argument: its pointers
may be null, and the loop follows some of them without asking
(`getInterfaceAddresses_defined_iff`).
-/
import HrServer.Lib.Checked
import HrServer.Lib.Ones
import HrServer.Net.Lookup

namespace HrServer.Net

open Http (Bytes ascii)
open Lib (ones onesOf ofLe FirstOnes)
open Lib.Checked (Defined)

/-! ## CountBytes -/

theorem toNat_pos {w : Nat} {value : BitVec w} (h : value ≠ 0) : 0 < value.toNat := by
  refine Nat.pos_of_ne_zero fun h0 => h ?_
  exact BitVec.eq_of_toNat_eq (by simpa using h0)

theorem toNat_and_pred {w : Nat} {value : BitVec w} (h : value ≠ 0) :
    (value &&& (value - 1)).toNat = value.toNat &&& (value.toNat - 1) := by
  have hpos := toNat_pos h
  have hlt := value.isLt
  have hone : (1 : BitVec w).toNat = 1 := by
    change (BitVec.ofNat w 1).toNat = 1
    rw [BitVec.toNat_ofNat, Nat.mod_eq_of_lt (by omega)]
  have hle : (1 : BitVec w) ≤ value := by
    rw [BitVec.le_def, hone]
    omega
  rw [BitVec.toNat_and, BitVec.toNat_sub_of_le hle, hone]

/-- The loop of `CountBytes`. A `T` that is narrower than `int` is widened for the subtraction,
which makes no difference to a `value` that is not zero. -/
def countLoop {w : Nat} (value : BitVec w) (result : UInt32) : UInt32 :=
  if _h : value = 0 then result else countLoop (value &&& (value - 1)) (result + 1)
termination_by value.toNat
decreasing_by
  have hpos := toNat_pos _h
  have hle : value.toNat &&& (value.toNat - 1) ≤ value.toNat - 1 := Nat.and_le_right
  rw [toNat_and_pred _h]
  omega

/-- `CountBytes(value)`, for an unsigned type of `w` bits. -/
def countBytes {w : Nat} (value : BitVec w) : UInt32 := countLoop value 0

theorem countLoop_eq {w : Nat} (value : BitVec w) (result : UInt32) :
    countLoop value result = result + UInt32.ofNat (ones w value.toNat) := by
  induction hn : value.toNat using Nat.strongRecOn generalizing value result with
  | ind n ih =>
    subst hn
    rw [countLoop]
    split
    · next h =>
      rw [h]
      simp [ones]
    · next h =>
      have hpos := toNat_pos h
      have hand := toNat_and_pred h
      have hle : value.toNat &&& (value.toNat - 1) ≤ value.toNat - 1 := Nat.and_le_right
      have hones := Lib.ones_and_pred hpos value.isLt
      rw [ih _ (by omega) (value &&& (value - 1)) (result + 1) rfl, hand, ← hones,
        UInt32.ofNat_add, UInt32.add_assoc, UInt32.add_comm 1]
      rfl

/-- `CountBytes` counts the ones. -/
theorem countBytes_eq {w : Nat} (value : BitVec w) :
    countBytes value = UInt32.ofNat (ones w value.toNat) := by
  rw [countBytes, countLoop_eq, UInt32.zero_add]

/-! ## The interfaces -/

def AF_UNSPEC : Int32 := 0
def AF_INET : Int32 := 2
def AF_INET6 : Int32 := 10

/-- `sa_family`. -/
def Sockaddr.saFamily : Sockaddr → Nat
  | .inet _ => 2
  | .inet6 _ => 10
  | .other saFamily _ => saFamily.toNat

/-- `ifaddrs`; `ifaNetmask` is the memory behind the pointer, which the loop casts. -/
structure Ifaddrs where
  ifaName : Bytes
  ifaAddr : Option Sockaddr
  ifaNetmask : Option Bytes

/-- A null pointer, or the end of the memory behind one. -/
inductive PointerFault where
  | null
  | beyond
  deriving DecidableEq, Repr

/-- `count` bytes at an offset behind a pointer. -/
def loadBytes (pointer : Option Bytes) (offset count : Nat) : Except PointerFault Bytes :=
  match pointer with
  | none => .error .null
  | some mem =>
    if offset + count ≤ mem.length then .ok ((mem.drop offset).take count) else .error .beyond

/-- `std::multimap` as the list of its insertions: the entries of a key stand in their order. -/
abbrev Multimap := List (Bytes × Address × UInt32)

/-- The prefix length of an IPv4 netmask. -/
def prefixLen4 (sinAddr : Bytes) : UInt32 := countBytes (UInt32.ofNat (ofLe sinAddr)).toBitVec

/-- The prefix length of an IPv6 netmask. -/
def prefixLen6 (s6Addr : Bytes) : UInt32 :=
  s6Addr.foldl (fun prefixLen b => prefixLen + countBytes b.toBitVec) 0

/-- The family of the address is the one that is asked for, or any is. -/
def selected (family : Int32) (addr : Sockaddr) : Bool :=
  family = AF_UNSPEC || family.toInt = addr.saFamily

/-- What the loop inserts for an interface. `sin_addr` stands at the offset 4, `sin6_addr` at 8. -/
def entryOf (family : Int32) (next : Ifaddrs) :
    Except PointerFault (Option (Bytes × Address × UInt32)) :=
  match next.ifaAddr with
  | none => .error .null
  | some addr =>
    if selected family addr = false then .ok none
    else match addr with
      | .inet _ => do
        let netmask ← loadBytes next.ifaNetmask 4 4
        return some (next.ifaName, Address.create addr, prefixLen4 netmask)
      | .inet6 _ => do
        let netmask ← loadBytes next.ifaNetmask 8 16
        return some (next.ifaName, Address.create addr, prefixLen6 netmask)
      | .other _ _ => .ok none

/-- The loop over the list of interfaces. -/
def interfaceLoop (family : Int32) : List Ifaddrs → Multimap → Except PointerFault Multimap
  | [], result => .ok result
  | next :: rest, result => do
    match ← entryOf family next with
    | none => interfaceLoop family rest result
    | some entry => interfaceLoop family rest (result ++ [entry])

/-- `GetInterfaceAddresses(result, family)`; `getifaddrs` gives its list, or none for an error. -/
def getInterfaceAddresses (getifaddrs : Option (List Ifaddrs)) (result : Multimap)
    (family : Int32) : Except PointerFault (Bool × Multimap) :=
  match getifaddrs with
  | none => .ok (false, result)
  | some results => do
    let result ← interfaceLoop family results result
    return (!result.isEmpty, result)

/-- `IPv4Address()`. -/
def anyIPv4 : Address := .ipv4 { sinFamily := 2, sinPort := 0, sAddr := 0 }

/-- `IPv6Address()`. -/
def anyIPv6 : Address :=
  .ipv6 { sin6Family := 10, sin6Port := 0, sin6Flowinfo := 0, s6Addr := Vector.replicate 16 0,
          sin6ScopeId := 0 }

/-- `GetInterfaceAddresses(result, iface, family)`. -/
def getInterfaceAddressesOf (getifaddrs : Option (List Ifaddrs)) (result : List (Address × UInt32))
    (iface : Bytes) (family : Int32) : Except PointerFault (Bool × List (Address × UInt32)) :=
  if iface = [] ∨ iface = ascii "*" then
    let result := if family = AF_INET ∨ family = AF_UNSPEC then result ++ [(anyIPv4, 0)] else result
    .ok (true,
      if family = AF_INET6 ∨ family = AF_UNSPEC then result ++ [(anyIPv6, 0)] else result)
  else do
    let (found, results) ← getInterfaceAddresses getifaddrs [] family
    if !found then return (false, result)
    let result := result ++ (results.filter fun entry => entry.1 == iface).map Prod.snd
    return (!result.isEmpty, result)

/-! ## The prefix length -/

/-- The count over a word is that over its bytes. -/
theorem prefixLen4_eq {sinAddr : Bytes} (hlen : sinAddr.length = 4) :
    prefixLen4 sinAddr = UInt32.ofNat (onesOf sinAddr) := by
  have hword : (UInt32.ofNat (ofLe sinAddr)).toBitVec.toNat = ofLe sinAddr := by
    have hlt := Lib.ofLe_lt sinAddr
    rw [hlen] at hlt
    exact Nat.mod_eq_of_lt hlt
  have hones := Lib.ones_toLe 4 (ofLe sinAddr)
  rw [← hlen, Lib.toLe_ofLe, hlen] at hones
  rw [prefixLen4, countBytes_eq, hword, ← hones]

theorem foldl_countBytes (bytes : Bytes) (prefixLen : UInt32) :
    bytes.foldl (fun prefixLen b => prefixLen + countBytes b.toBitVec) prefixLen
      = prefixLen + UInt32.ofNat (onesOf bytes) := by
  induction bytes generalizing prefixLen with
  | nil => exact (UInt32.add_zero prefixLen).symm
  | cons b bytes ih =>
    rw [List.foldl_cons, ih, countBytes_eq, Lib.onesOf_cons, UInt32.ofNat_add,
      ← UInt32.add_assoc]
    rfl

theorem prefixLen6_eq (s6Addr : Bytes) : prefixLen6 s6Addr = UInt32.ofNat (onesOf s6Addr) := by
  rw [prefixLen6, foldl_countBytes, UInt32.zero_add]

/-- An interface that is looked at, with its address and the bytes of its netmask. -/
inductive Masked (family : Int32) (next : Ifaddrs) : Address → Bytes → Prop
  | ipv4 (addr : SockaddrIn) (mem : Bytes) (haddr : next.ifaAddr = some (.inet addr))
      (hsel : selected family (.inet addr) = true) (hmem : next.ifaNetmask = some mem)
      (hlen : 8 ≤ mem.length) : Masked family next (.ipv4 addr) ((mem.drop 4).take 4)
  | ipv6 (addr : SockaddrIn6) (mem : Bytes) (haddr : next.ifaAddr = some (.inet6 addr))
      (hsel : selected family (.inet6 addr) = true) (hmem : next.ifaNetmask = some mem)
      (hlen : 24 ≤ mem.length) : Masked family next (.ipv6 addr) ((mem.drop 8).take 16)

/-- An interface with a netmask is reported with the number of ones in it. -/
theorem entryOf_masked {family : Int32} {next : Ifaddrs} {addr : Address} {netmask : Bytes}
    (h : Masked family next addr netmask) :
    entryOf family next = .ok (some (next.ifaName, addr, UInt32.ofNat (onesOf netmask))) := by
  cases h with
  | ipv4 a mem haddr hsel hmem hlen =>
    have hload : loadBytes next.ifaNetmask 4 4 = .ok ((mem.drop 4).take 4) := by
      rw [hmem, loadBytes, if_pos hlen]
    have hfour : ((mem.drop 4).take 4).length = 4 := by
      rw [List.length_take, List.length_drop]
      omega
    rw [← prefixLen4_eq hfour]
    simp [entryOf, haddr, hsel, hload, Address.create, bind, Except.bind, pure, Except.pure]
  | ipv6 a mem haddr hsel hmem hlen =>
    have hload : loadBytes next.ifaNetmask 8 16 = .ok ((mem.drop 8).take 16) := by
      rw [hmem, loadBytes, if_pos hlen]
    rw [← prefixLen6_eq]
    simp [entryOf, haddr, hsel, hload, Address.create, bind, Except.bind, pure, Except.pure]

/-! ## The loop -/

/-- The pointers that the loop follows for the interface lead to memory. -/
inductive Readable (family : Int32) (next : Ifaddrs) : Prop
  | masked (addr : Address) (netmask : Bytes) (h : Masked family next addr netmask)
  | skipped (addr : Sockaddr) (haddr : next.ifaAddr = some addr)
      (hskip : selected family addr = false)
  | other (saFamily : UInt16) (saData : Bytes)
      (haddr : next.ifaAddr = some (.other saFamily saData))

theorem loadBytes_eq_ok {pointer : Option Bytes} {offset count : Nat} {bytes : Bytes}
    (h : loadBytes pointer offset count = .ok bytes) :
    ∃ mem, pointer = some mem ∧ offset + count ≤ mem.length := by
  unfold loadBytes at h
  split at h
  · cases h
  · next mem =>
    split at h
    · next hlen => exact ⟨mem, rfl, hlen⟩
    · cases h

/-- What stops the loop is a pointer. -/
theorem entryOf_defined_iff {family : Int32} {next : Ifaddrs} :
    Defined (entryOf family next) ↔ Readable family next := by
  constructor
  · rintro ⟨entry, h⟩
    unfold entryOf at h
    split at h
    · cases h
    · next addr haddr =>
      split at h
      · next hskip => exact .skipped addr haddr hskip
      · next hsel =>
        rw [Bool.not_eq_false] at hsel
        split at h
        · next a =>
          obtain ⟨netmask, hload, -⟩ := Lib.Checked.bind_eq_ok h
          obtain ⟨mem, hmem, hlen⟩ := loadBytes_eq_ok hload
          exact .masked _ _ (.ipv4 a mem haddr hsel hmem hlen)
        · next a =>
          obtain ⟨netmask, hload, -⟩ := Lib.Checked.bind_eq_ok h
          obtain ⟨mem, hmem, hlen⟩ := loadBytes_eq_ok hload
          exact .masked _ _ (.ipv6 a mem haddr hsel hmem hlen)
        · next saFamily saData => exact .other saFamily saData haddr
  · intro h
    cases h with
    | masked addr netmask hm => exact ⟨_, entryOf_masked hm⟩
    | skipped addr haddr hskip => exact ⟨none, by simp [entryOf, haddr, hskip]⟩
    | other saFamily saData haddr => exact ⟨none, by simp [entryOf, haddr]⟩

/-- The loop goes through exactly when the pointers of every interface are readable. -/
theorem interfaceLoop_defined_iff {family : Int32} {results : List Ifaddrs} {result : Multimap} :
    Defined (interfaceLoop family results result) ↔ ∀ next ∈ results, Readable family next := by
  induction results generalizing result with
  | nil => exact iff_of_true ⟨result, rfl⟩ (by simp)
  | cons next rest ih =>
    rw [List.forall_mem_cons, ← entryOf_defined_iff, interfaceLoop]
    cases hentry : entryOf family next with
    | error e =>
      refine iff_of_false ?_ fun h => ?_
      · rintro ⟨r, hr⟩
        cases hr
      · obtain ⟨entry, he⟩ := h.1
        cases he
    | ok entry =>
      have hdef : Defined (.ok entry : Except PointerFault _) := ⟨entry, rfl⟩
      cases entry with
      | none => exact ih.trans (and_iff_right hdef).symm
      | some entry => exact ih.trans (and_iff_right hdef).symm

/-- What is in the map stays, and the entry of each interface comes in. -/
theorem interfaceLoop_mem {family : Int32} {results : List Ifaddrs} {result result' : Multimap}
    (h : interfaceLoop family results result = .ok result') :
    (∀ entry ∈ result, entry ∈ result') ∧
      ∀ next ∈ results, ∀ entry, entryOf family next = .ok (some entry) → entry ∈ result' := by
  induction results generalizing result with
  | nil =>
    cases h
    exact ⟨fun _ hentry => hentry, fun _ hnext => by cases hnext⟩
  | cons next rest ih =>
    obtain ⟨first, hfirst, hrest⟩ := Lib.Checked.bind_eq_ok h
    cases first with
    | none =>
      obtain ⟨hkept, hadded⟩ := ih hrest
      refine ⟨hkept, fun next' hnext entry hentry => ?_⟩
      rcases List.mem_cons.mp hnext with rfl | hnext
      · rw [hfirst] at hentry
        cases hentry
      · exact hadded next' hnext entry hentry
    | some e =>
      obtain ⟨hkept, hadded⟩ := ih hrest
      refine ⟨fun entry hentry => hkept entry (List.mem_append_left _ hentry),
        fun next' hnext entry hentry => ?_⟩
      rcases List.mem_cons.mp hnext with rfl | hnext
      · rw [hfirst] at hentry
        cases hentry
        exact hkept e (by simp)
      · exact hadded next' hnext entry hentry

/-! ## What is reported -/

/-- The netmasks that are ones in front and zeros behind, in either byte order, are reported by
the number of their ones. -/
def ReportsPrefixes (family : Int32) (results : List Ifaddrs) (result : Multimap) : Prop :=
  ∀ next ∈ results, ∀ addr netmask n, Masked family next addr netmask →
    FirstOnes n netmask ∨ FirstOnes n netmask.reverse →
      (next.ifaName, addr, UInt32.ofNat n) ∈ result

theorem onesOf_either {n : Nat} {bytes : Bytes}
    (h : FirstOnes n bytes ∨ FirstOnes n bytes.reverse) : onesOf bytes = n := by
  rcases h with h | h
  · exact h.onesOf_eq
  · rw [← Lib.onesOf_reverse, h.onesOf_eq]

theorem interfaceLoop_reports {family : Int32} {results : List Ifaddrs} {result result' : Multimap}
    (h : interfaceLoop family results result = .ok result') :
    ReportsPrefixes family results result' := by
  intro next hnext addr netmask n hmasked hfirst
  refine (interfaceLoop_mem h).2 next hnext _ ?_
  rw [entryOf_masked hmasked, onesOf_either hfirst]

theorem getInterfaceAddresses_defined_iff {family : Int32} {results : List Ifaddrs}
    {result : Multimap} : Defined (getInterfaceAddresses (some results) result family)
      ↔ ∀ next ∈ results, Readable family next :=
  Lib.Checked.defined_bind_pure_iff.trans interfaceLoop_defined_iff

theorem getInterfaceAddresses_reports {family : Int32} {results : List Ifaddrs}
    {result result' : Multimap} {found : Bool}
    (h : getInterfaceAddresses (some results) result family = .ok (found, result')) :
    ReportsPrefixes family results result' := by
  obtain ⟨r, hloop, hr⟩ := Lib.Checked.bind_eq_ok h
  cases hr
  exact interfaceLoop_reports hloop

/-- By the name of an interface the same prefix lengths are reported. -/
theorem getInterfaceAddressesOf_reports {family : Int32} {results : List Ifaddrs}
    {result result' : List (Address × UInt32)} {iface : Bytes} {found : Bool}
    (hname : ¬ (iface = [] ∨ iface = ascii "*"))
    (h : getInterfaceAddressesOf (some results) result iface family = .ok (found, result')) :
    ∀ next ∈ results, next.ifaName = iface → ∀ addr netmask n, Masked family next addr netmask →
      FirstOnes n netmask ∨ FirstOnes n netmask.reverse → (addr, UInt32.ofNat n) ∈ result' := by
  intro next hnext hiface addr netmask n hmasked hfirst
  rw [getInterfaceAddressesOf, if_neg hname] at h
  obtain ⟨⟨ok, all⟩, hall, h⟩ := Lib.Checked.bind_eq_ok h
  have hmem := getInterfaceAddresses_reports hall next hnext addr netmask n hmasked hfirst
  have hok : ok = true := by
    obtain ⟨r, -, hr⟩ := Lib.Checked.bind_eq_ok hall
    cases hr
    simpa using List.ne_nil_of_mem hmem
  subst hok
  cases h
  refine List.mem_append_right _ (List.mem_map.mpr ⟨_, List.mem_filter.mpr ⟨hmem, ?_⟩, rfl⟩)
  simp [hiface]

/-- The call returns, and has reported every prefix length. -/
def Reported (family : Int32) (results : List Ifaddrs) (result : Multimap) : Prop :=
  ∃ found result', getInterfaceAddresses (some results) result family = .ok (found, result')
    ∧ ReportsPrefixes family results result'

/-- The number of ones is counted for every value of every width. Every prefix length is
reported exactly when the pointers that the loop follows lead to memory, which it takes for
granted. -/
theorem prefixes_counted {w : Nat} (value : BitVec w) (family : Int32) (results : List Ifaddrs)
    (result : Multimap) :
    (countBytes value = UInt32.ofNat (ones w value.toNat) ∧
      (w < 2 ^ 32 → (countBytes value).toNat = ones w value.toNat)) ∧
    (Reported family results result ↔ ∀ next ∈ results, Readable family next) := by
  refine ⟨⟨countBytes_eq value, fun hw => ?_⟩, ?_⟩
  · have hle := Lib.ones_le w value.toNat
    rw [countBytes_eq, UInt32.toNat_ofNat', Nat.mod_eq_of_lt (by omega)]
  · refine Iff.trans ?_ (@getInterfaceAddresses_defined_iff family results result)
    constructor
    · rintro ⟨found, result', h, -⟩
      exact ⟨_, h⟩
    · rintro ⟨⟨found, result'⟩, h⟩
      exact ⟨found, result', h, getInterfaceAddresses_reports h⟩

/-- 192.168.1.1. -/
def eth0Addr : SockaddrIn := { sinFamily := 2, sinPort := 0, sAddr := 0x0101a8c0 }

/-- The memory of the netmask 255.255.255.0. -/
def eth0Mask : Bytes := [2, 0, 0, 0, 255, 255, 255, 0, 0, 0, 0, 0, 0, 0, 0, 0]

def eth0 : Ifaddrs :=
  { ifaName := ascii "eth0", ifaAddr := some (.inet eth0Addr), ifaNetmask := some eth0Mask }

theorem eth0_masked : Masked AF_INET eth0 (.ipv4 eth0Addr) [255, 255, 255, 0] :=
  .ipv4 eth0Addr eth0Mask rfl (by decide) rfl (by decide)

theorem eth0_firstOnes : FirstOnes 24 [255, 255, 255, 0] := by
  unfold FirstOnes
  decide

/-- The interface is reported with the prefix length 24. -/
theorem prefixes_counted_eth0 : ∃ found result',
    getInterfaceAddresses (some [eth0]) [] AF_INET = .ok (found, result') ∧
      (ascii "eth0", .ipv4 eth0Addr, 24) ∈ result' := by
  have hreadable : ∀ next ∈ [eth0], Readable AF_INET next := by
    simpa using Readable.masked _ _ eth0_masked
  obtain ⟨-, hiff⟩ := prefixes_counted (0xFF : BitVec 8) AF_INET [eth0] []
  obtain ⟨found, result', h, hreports⟩ := hiff.mpr hreadable
  exact ⟨found, result', h, hreports eth0 (by simp) _ _ 24 eth0_masked (.inl eth0_firstOnes)⟩

/-- An interface without an address. -/
def tun0 : Ifaddrs := { ifaName := ascii "tun0", ifaAddr := none, ifaNetmask := none }

/-- The loop follows the null pointer of a second interface: the netmask of the first, which
is 24 ones, is not reported. -/
theorem prefixes_lost_tun0 :
    ¬ ∀ (family : Int32) (results : List Ifaddrs) (result : Multimap),
      Reported family results result := by
  intro hall
  obtain ⟨found, result', h, -⟩ := hall AF_INET [eth0, tun0] []
  have hnull : getInterfaceAddresses (some [eth0, tun0]) [] AF_INET = .error .null := by rfl
  rw [hnull] at h
  cases h

end HrServer.Net
