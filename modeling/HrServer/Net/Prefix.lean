/-
HrServer.Net.Prefix — network, broadcast address and subnet mask of an IP
address, from `sylar/address.cc`.

`CreateMask` makes the mask of the host bits, and so `broadcastAddress`
and `subnetMask` are right. `networdAddress` keeps the bits of that mask
where it should clear them, so it agrees with the mask only where there
is nothing to keep: `agree_iff`. What the arithmetic may do without
leaving the bounds of C++ is in `prefix_safe_iff`: IPv4 shifts by the
width of `int` for the prefix 0 and overflows for 1, and IPv6 does not
check the length at all.

Addresses are compared bit by bit, in network order.
-/
import HrServer.Lib.Bits
import HrServer.Lib.Checked
import HrServer.Net.Address

namespace HrServer.Net

open Lib (bit toLe)
open Lib.Checked (Defined defined_bind_pure_iff not_defined_error)

/-- The four bytes of the address in memory. -/
def SockaddrIn.bytes (a : SockaddrIn) : List UInt8 := toLe 4 a.sAddr.toNat

/-- The sixteen bytes of the address. -/
def SockaddrIn6.bytes (a : SockaddrIn6) : List UInt8 := a.s6Addr.toList

/-- Mask, network and broadcast address of an address of `width` bits, for a prefix. -/
structure Agrees (width prefixLen : Nat) (addr net bcast mask : List UInt8) : Prop where
  /-- The mask is the first bits. -/
  mask_first : ∀ i < width, bit mask i = decide (i < prefixLen)
  /-- The network address keeps the bits of the mask. -/
  net_kept : ∀ i < width, bit net i = (bit addr i && bit mask i)
  /-- The broadcast address sets the others. -/
  bcast_set : ∀ i < width, bit bcast i = (bit addr i || !bit mask i)
  /-- Both share the first bits of the address. -/
  shared : ∀ i < prefixLen, bit net i = bit addr i ∧ bit bcast i = bit addr i

/-- With the mask and the broadcast address right, all depends on the network address. -/
theorem agrees_iff {width p : Nat} {addr net bcast mask : List UInt8} (hp : p ≤ width)
    (hmask : ∀ i < width, bit mask i = decide (i < p))
    (hbcast : ∀ i < width, bit bcast i = (bit addr i || decide (p ≤ i))) :
    Agrees width p addr net bcast mask
      ↔ ∀ i < width, bit net i = (bit addr i && decide (i < p)) := by
  constructor
  · intro h i hi
    rw [h.net_kept i hi, hmask i hi]
  · intro h
    refine ⟨hmask, fun i hi => ?_, fun i hi => ?_, fun i hi => ⟨?_, ?_⟩⟩
    · rw [h i hi, hmask i hi]
    · rw [hbcast i hi, hmask i hi, ← decide_not]
      simp only [Nat.not_lt]
    · rw [h i (by omega)]
      simp [hi]
    · rw [hbcast i (by omega)]
      simp [Nat.not_le.mpr hi]

/-! ## The mask -/

theorem shiftOne_lt {count : Nat} (h : count < 31) : shiftOne count = .ok (2 ^ count) := by
  have hpow : 2 ^ count < 2 ^ 31 := Nat.pow_lt_pow_right (by decide) h
  rw [shiftOne, if_neg (by omega), if_neg (by omega)]

/-- The mask of a prefix that the width of the type allows, and that leaves less than 31 bits. -/
theorem createMask_eq {T : Type} (size : Nat) (cast : Nat → T) {bits : UInt32}
    (h : bits.toNat ≤ size * 8) (hlt : size * 8 - bits.toNat < 31) :
    createMask size cast bits = .ok (cast (2 ^ (size * 8 - bits.toNat) - 1)) := by
  have hcount : (size * 8 + 2 ^ 64 - bits.toNat) % 2 ^ 64 = size * 8 - bits.toNat := by
    omega
  rw [createMask, hcount, shiftOne_lt hlt]
  rfl

/-- The bits of a mask of the low bits, from the top of a word of `k` bytes. -/
theorem testBit_lowMask {k p i : Nat} (hp : p ≤ k) (hi : i < k) :
    (2 ^ (k - p) - 1).testBit (k - 1 - i) = decide (p ≤ i) := by
  rw [Nat.testBit_two_pow_sub_one]
  congr 1
  rw [eq_iff_iff]
  omega

/-! ## IPv4 -/

section ipv4

variable {x y : UInt32} {i : Nat}

theorem bit_and (hi : i < 32) : bit (toLe 4 (x &&& y).toNat) i
    = (bit (toLe 4 x.toNat) i && bit (toLe 4 y.toNat) i) := by
  rw [Lib.bit_toLe _ hi, Lib.bit_toLe _ hi, Lib.bit_toLe _ hi, UInt32.toNat_and, Nat.testBit_and]

theorem bit_or (hi : i < 32) : bit (toLe 4 (x ||| y).toNat) i
    = (bit (toLe 4 x.toNat) i || bit (toLe 4 y.toNat) i) := by
  rw [Lib.bit_toLe _ hi, Lib.bit_toLe _ hi, Lib.bit_toLe _ hi, UInt32.toNat_or, Nat.testBit_or]

theorem bit_not (hi : i < 32) :
    bit (toLe 4 (~~~ x).toNat) i = !bit (toLe 4 x.toNat) i := by
  have hx : x.toNat < 2 ^ 32 := x.toNat_lt
  have hnot : (~~~ x).toNat = 2 ^ 32 - (x.toNat + 1) := by
    rw [UInt32.toNat_not]
    simp [UInt32.size]
  have hlt : 8 * (i / 8) + (7 - i % 8) < 32 := by omega
  rw [Lib.bit_toLe _ hi, Lib.bit_toLe _ hi, hnot, Nat.testBit_two_pow_sub_succ hx]
  simp [hlt]

/-- The mask of the host bits, swapped. -/
def hostMask (p : Nat) : UInt32 := byteswap32 (UInt32.ofNat (2 ^ (32 - p) - 1))

/-- In memory the mask is the last bits. -/
theorem bit_hostMask {p : Nat} (hp : p ≤ 32) (hi : i < 32) :
    bit (toLe 4 (hostMask p).toNat) i = decide (p ≤ i) := by
  have hpow : 2 ^ (32 - p) ≤ 2 ^ 32 := Nat.pow_le_pow_right (by decide) (by omega)
  have hmask : (UInt32.ofNat (2 ^ (32 - p) - 1)).toNat = 2 ^ (32 - p) - 1 := by
    rw [UInt32.toNat_ofNat']
    omega
  have hswap : (hostMask p).toNat = Lib.byteSwap 4 (2 ^ (32 - p) - 1) := by
    have hlt := Lib.ofLe_lt (toLe 4 (2 ^ (32 - p) - 1)).reverse
    rw [List.length_reverse, Lib.length_toLe] at hlt
    rw [hostMask, byteswap32, hmask, UInt32.toNat_ofNat']
    exact Nat.mod_eq_of_lt hlt
  rw [hswap, Lib.toLe_byteSwap, Lib.bit_reverse_toLe _ hi]
  exact testBit_lowMask hp hi

end ipv4

namespace IPv4Address

/-- The three addresses for a prefix are there, agree, and keep the port. -/
def Agree (a : SockaddrIn) (prefixLen : UInt32) : Prop :=
  ∃ net bcast mask, networdAddress a prefixLen = .ok (some net)
    ∧ broadcastAddress a prefixLen = .ok (some bcast)
    ∧ subnetMask prefixLen = .ok (some mask)
    ∧ Agrees 32 prefixLen.toNat a.bytes net.bytes bcast.bytes mask.bytes
    ∧ net.sinPort = a.sinPort ∧ bcast.sinPort = a.sinPort

section

variable {a : SockaddrIn} {p : UInt32}

theorem createMask_ok (h2 : 2 ≤ p) (h32 : p ≤ 32) :
    createMask 4 UInt32.ofNat p = .ok (UInt32.ofNat (2 ^ (32 - p.toNat) - 1)) := by
  rw [UInt32.le_iff_toNat_le] at h2 h32
  have h2' : (2 : UInt32).toNat = 2 := rfl
  have h32' : (32 : UInt32).toNat = 32 := rfl
  exact createMask_eq 4 _ (by omega) (by omega)

/-- For the prefix 1 the mask overflows. -/
theorem createMask_one : createMask 4 UInt32.ofNat 1 = .error .overflow := by decide

/-- `networdAddress` keeps the last bits. -/
theorem networdAddress_eq (a : SockaddrIn) (h2 : 2 ≤ p) (h32 : p ≤ 32) :
    ∃ net, networdAddress a p = .ok (some net) ∧ net.sinPort = a.sinPort
      ∧ ∀ i < 32, bit net.bytes i = (bit a.bytes i && decide (p.toNat ≤ i)) := by
  have hle : p.toNat ≤ 32 := UInt32.le_iff_toNat_le.mp h32
  refine ⟨{ a with sAddr := a.sAddr &&& hostMask p.toNat }, ?_, rfl, fun i hi => ?_⟩
  · rw [networdAddress, if_neg (UInt32.not_lt.mpr h32), createMask_ok h2 h32]
    rfl
  · rw [SockaddrIn.bytes, bit_and hi, bit_hostMask hle hi]
    rfl

theorem broadcastAddress_eq (a : SockaddrIn) (h2 : 2 ≤ p) (h32 : p ≤ 32) :
    ∃ bcast, broadcastAddress a p = .ok (some bcast) ∧ bcast.sinPort = a.sinPort
      ∧ ∀ i < 32, bit bcast.bytes i = (bit a.bytes i || decide (p.toNat ≤ i)) := by
  have hle : p.toNat ≤ 32 := UInt32.le_iff_toNat_le.mp h32
  refine ⟨{ a with sAddr := a.sAddr ||| hostMask p.toNat }, ?_, rfl, fun i hi => ?_⟩
  · rw [broadcastAddress, if_neg (UInt32.not_lt.mpr h32), createMask_ok h2 h32]
    rfl
  · rw [SockaddrIn.bytes, bit_or hi, bit_hostMask hle hi]
    rfl

theorem subnetMask_eq (h2 : 2 ≤ p) (h32 : p ≤ 32) :
    ∃ mask, subnetMask p = .ok (some mask)
      ∧ ∀ i < 32, bit mask.bytes i = decide (i < p.toNat) := by
  have hle : p.toNat ≤ 32 := UInt32.le_iff_toNat_le.mp h32
  refine ⟨{ sinFamily := 2, sinPort := 0, sAddr := ~~~ hostMask p.toNat }, ?_,
    fun i hi => ?_⟩
  · rw [subnetMask, createMask_ok h2 h32]
    rfl
  · rw [SockaddrIn.bytes, bit_not hi, bit_hostMask hle hi, ← decide_not]
    simp only [Nat.not_le]

/-- The address 0.0.0.0 is the only one without bits. -/
theorem sAddr_eq_zero : a.sAddr = 0 ↔ ∀ i < 32, bit a.bytes i = false := by
  constructor
  · intro h i hi
    rw [SockaddrIn.bytes, Lib.bit_toLe _ hi, h]
    simp
  · intro h
    have hlt : a.sAddr.toNat < 256 ^ 4 := a.sAddr.toNat_lt
    have hzero := Lib.eq_zero_of_bits hlt h
    exact UInt32.toNat_inj.mp hzero

/-- They agree for 0.0.0.0 alone, and not for the prefix 1, whose mask overflows. -/
theorem agree_iff (h1 : 1 ≤ p) (h32 : p ≤ 32) : Agree a p ↔ 2 ≤ p ∧ a.sAddr = 0 := by
  by_cases h2 : 2 ≤ p
  · obtain ⟨net, hnet, hnetPort, hnetBits⟩ := networdAddress_eq a h2 h32
    obtain ⟨bcast, hbcast, hbcastPort, hbcastBits⟩ := broadcastAddress_eq a h2 h32
    obtain ⟨mask, hmask, hmaskBits⟩ := subnetMask_eq h2 h32
    have hagree : Agree a p ↔ Agrees 32 p.toNat a.bytes net.bytes bcast.bytes mask.bytes := by
      simp [Agree, hnet, hbcast, hmask, hnetPort, hbcastPort]
    have hle : p.toNat ≤ 32 := UInt32.le_iff_toNat_le.mp h32
    rw [hagree, agrees_iff hle hmaskBits hbcastBits, and_iff_right h2, sAddr_eq_zero]
    refine forall₂_congr fun i hi => ?_
    rw [hnetBits i hi]
    by_cases hip : i < p.toNat
    · simp [hip, Nat.not_le.mpr hip]
    · simp [hip, Nat.not_lt.mp hip]
  · have hp : p = 1 := by
      have hone : (1 : UInt32).toNat = 1 := rfl
      have htwo : (2 : UInt32).toNat = 2 := rfl
      rw [UInt32.le_iff_toNat_le] at h1 h2
      exact UInt32.toNat_inj.mp (by omega)
    have hnet : networdAddress a p = .error .overflow := by
      rw [networdAddress, if_neg (UInt32.not_lt.mpr h32), hp, createMask_one]
      rfl
    simp [Agree, hnet, h2]

end

end IPv4Address

/-! ## IPv6 -/

theorem load_ok {v : Vector UInt8 16} {i : Nat} (h : i < 16) : load v i = .ok v[i] := by
  simp [load, h]

theorem store_ok {v : Vector UInt8 16} {i : Nat} {value : UInt8} (h : i < 16) :
    store v i value = .ok (v.set i value h) := by
  rw [store, dif_pos h]

/-- The loop of stores inside of the array. -/
theorem fill_eq (value : UInt8) (v : Vector UInt8 16) {i count : Nat} (h : i + count ≤ 16) :
    ∃ w, fill value i count v = .ok w
      ∧ ∀ j, (hj : j < 16) → w[j] = if i ≤ j ∧ j < i + count then value else v[j] := by
  induction count generalizing i v with
  | zero => exact ⟨v, rfl, fun j hj => by rw [if_neg (by omega)]⟩
  | succ count ih =>
    obtain ⟨w, hw, hget⟩ := ih (v.set i value (by omega)) (i := i + 1) (by omega)
    refine ⟨w, by rw [fill, store_ok (by omega)]; exact hw, fun j hj => ?_⟩
    rw [hget j hj, Vector.getElem_set]
    split_ifs <;> first | rfl | omega

theorem bit_toList {v : Vector UInt8 16} {i : Nat} (hi : i < 128) :
    bit v.toList i = (v[i / 8]).toNat.testBit (7 - i % 8) := by
  simp [bit, show i / 8 < 16 by omega]

/-- A byte that is stored at `q`, bit by bit. -/
theorem bit_set {v : Vector UInt8 16} {x : UInt8} {q i : Nat} (hq : q < 16) (hi : i < 128) :
    bit (v.set q x hq).toList i
      = if i / 8 = q then x.toNat.testBit (7 - i % 8) else bit v.toList i := by
  rw [bit_toList hi, bit_toList hi, Vector.getElem_set]
  split_ifs <;> first | rfl | omega

/-- What a loop of stores leaves, bit by bit. -/
theorem bit_fill {value : UInt8} {v w : Vector UInt8 16} {k count i : Nat}
    (hget : ∀ j, (hj : j < 16) → w[j] = if k ≤ j ∧ j < k + count then value else v[j])
    (hi : i < 128) :
    bit w.toList i
      = if k ≤ i / 8 ∧ i / 8 < k + count then value.toNat.testBit (7 - i % 8)
        else bit v.toList i := by
  rw [bit_toList hi, bit_toList hi, hget]
  split_ifs <;> rfl

theorem testBit_ff {k : Nat} (hk : k < 8) : (0xff : UInt8).toNat.testBit k = true := by
  have hall : ∀ k : Fin 8, (0xff : UInt8).toNat.testBit k = true := by decide
  exact hall ⟨k, hk⟩

theorem testBit_not {x : UInt8} {k : Nat} (hk : k < 8) :
    (~~~ x).toNat.testBit k = !x.toNat.testBit k := by
  have hx : x.toNat < 2 ^ 8 := x.toNat_lt
  have hnot : (~~~ x).toNat = 2 ^ 8 - (x.toNat + 1) := by
    rw [UInt8.toNat_not]
    simp [UInt8.size]
  rw [hnot, Nat.testBit_two_pow_sub_succ hx]
  simp [hk]

namespace IPv6Address

/-- The three addresses for a prefix are there, agree, and keep the port. -/
def Agree (a : SockaddrIn6) (prefixLen : UInt32) : Prop :=
  ∃ net bcast mask, networdAddress a prefixLen = .ok (some net)
    ∧ broadcastAddress a prefixLen = .ok (some bcast)
    ∧ subnetMask prefixLen = .ok (some mask)
    ∧ Agrees 128 prefixLen.toNat a.bytes net.bytes bcast.bytes mask.bytes
    ∧ net.sin6Port = a.sin6Port ∧ bcast.sin6Port = a.sin6Port

/-- The mask of the host bits of one byte. -/
def byteMask (r : Nat) : UInt8 := UInt8.ofNat (2 ^ (8 - r) - 1)

section

variable {p : UInt32} {i : Nat}

theorem createMask_ok (p : UInt32) :
    createMask 1 UInt8.ofNat (p % 8) = .ok (byteMask (p.toNat % 8)) := by
  have hmod : (p % 8).toNat = p.toNat % 8 := UInt32.toNat_mod p 8
  rw [createMask_eq 1 _ (by omega) (by omega), hmod]
  rfl

theorem testBit_byteMask {r k : Nat} (hr : r ≤ 8) (hk : k < 8) :
    (byteMask r).toNat.testBit (7 - k) = decide (r ≤ k) := by
  have hpow : 2 ^ (8 - r) ≤ 2 ^ 8 := Nat.pow_le_pow_right (by decide) (by omega)
  have hmask : (byteMask r).toNat = 2 ^ (8 - r) - 1 := by
    rw [byteMask, UInt8.toNat_ofNat']
    omega
  rw [hmask]
  exact testBit_lowMask hr hk

/-- `networdAddress` keeps the last bits of the byte the prefix ends in. -/
theorem networdAddress_eq (a : SockaddrIn6) (hp : p.toNat < 128) :
    ∃ net, networdAddress a p = .ok (some net) ∧ net.sin6Port = a.sin6Port
      ∧ ∀ i < 128, bit net.bytes i = (bit a.bytes i
        && decide (i / 8 < p.toNat / 8 ∨ i / 8 = p.toNat / 8 ∧ p.toNat ≤ i)) := by
  have hb : p.toNat / 8 < 16 := by omega
  obtain ⟨w, hw, hget⟩ := fill_eq 0x00
    (a.s6Addr.set (p.toNat / 8) (a.s6Addr[p.toNat / 8] &&& byteMask (p.toNat % 8)))
    (show p.toNat / 8 + 1 + (16 - (p.toNat / 8 + 1)) ≤ 16 by omega)
  refine ⟨{ a with s6Addr := w }, ?_, rfl, fun i hi => ?_⟩
  · simp only [networdAddress, createMask_ok, load_ok hb, store_ok hb, bind, Except.bind, hw]
    rfl
  · rw [SockaddrIn6.bytes, SockaddrIn6.bytes, bit_fill hget hi, bit_set hb hi]
    obtain hlt | heq | hgt := lt_trichotomy (i / 8) (p.toNat / 8)
    · rw [if_neg (by omega), if_neg (by omega)]
      simp [hlt]
    · have hle : p.toNat % 8 ≤ i % 8 ↔ p.toNat ≤ i := by omega
      rw [if_neg (by omega), if_pos heq, UInt8.toNat_and, Nat.testBit_and,
        testBit_byteMask (by omega) (by omega), bit_toList hi]
      simp [heq, hle]
    · rw [if_pos (by omega)]
      simp [show ¬ i / 8 < p.toNat / 8 by omega, show i / 8 ≠ p.toNat / 8 by omega]

theorem broadcastAddress_eq (a : SockaddrIn6) (hp : p.toNat < 128) :
    ∃ bcast, broadcastAddress a p = .ok (some bcast) ∧ bcast.sin6Port = a.sin6Port
      ∧ ∀ i < 128, bit bcast.bytes i = (bit a.bytes i || decide (p.toNat ≤ i)) := by
  have hb : p.toNat / 8 < 16 := by omega
  obtain ⟨w, hw, hget⟩ := fill_eq 0xff
    (a.s6Addr.set (p.toNat / 8) (a.s6Addr[p.toNat / 8] ||| byteMask (p.toNat % 8)))
    (show p.toNat / 8 + 1 + (16 - (p.toNat / 8 + 1)) ≤ 16 by omega)
  refine ⟨{ a with s6Addr := w }, ?_, rfl, fun i hi => ?_⟩
  · simp only [broadcastAddress, createMask_ok, load_ok hb, store_ok hb, bind, Except.bind, hw]
    rfl
  · rw [SockaddrIn6.bytes, SockaddrIn6.bytes, bit_fill hget hi, bit_set hb hi]
    obtain hlt | heq | hgt := lt_trichotomy (i / 8) (p.toNat / 8)
    · rw [if_neg (by omega), if_neg (by omega)]
      simp [show ¬ p.toNat ≤ i by omega]
    · have hle : p.toNat % 8 ≤ i % 8 ↔ p.toNat ≤ i := by omega
      rw [if_neg (by omega), if_pos heq, UInt8.toNat_or, Nat.testBit_or,
        testBit_byteMask (by omega) (by omega), bit_toList hi]
      simp [heq, hle]
    · rw [if_pos (by omega), testBit_ff (by omega)]
      simp [show p.toNat ≤ i by omega]

theorem subnetMask_eq (hp : p.toNat < 128) :
    ∃ mask, subnetMask p = .ok (some mask)
      ∧ ∀ i < 128, bit mask.bytes i = decide (i < p.toNat) := by
  have hb : p.toNat / 8 < 16 := by omega
  obtain ⟨w, hw, hget⟩ := fill_eq 0xff
    ((Vector.replicate 16 0).set (p.toNat / 8) (~~~ byteMask (p.toNat % 8)))
    (show 0 + p.toNat / 8 ≤ 16 by omega)
  refine ⟨{ sin6Family := 10, sin6Port := 0, sin6Flowinfo := 0, s6Addr := w, sin6ScopeId := 0 },
    ?_, fun i hi => ?_⟩
  · simp only [subnetMask, createMask_ok, store_ok hb, bind, Except.bind, hw]
    rfl
  · rw [SockaddrIn6.bytes, bit_fill hget hi, bit_set hb hi]
    obtain hlt | heq | hgt := lt_trichotomy (i / 8) (p.toNat / 8)
    · rw [if_pos (by omega), testBit_ff (by omega)]
      simp [show i < p.toNat by omega]
    · have hle : p.toNat % 8 ≤ i % 8 ↔ p.toNat ≤ i := by omega
      rw [if_neg (by omega), if_pos heq, testBit_not (by omega),
        testBit_byteMask (by omega) (by omega), ← decide_not]
      simp [hle]
    · rw [if_neg (by omega), if_neg (by omega), bit_toList hi]
      simp [show ¬ i < p.toNat by omega]

/-- A byte of an address is zero when its bits are. -/
theorem byte_eq_zero {a : SockaddrIn6} {q : Nat} (hq : q < 16) :
    (∀ i < 128, i / 8 = q → bit a.bytes i = false) ↔ a.s6Addr[q] = 0 := by
  constructor
  · intro h
    refine UInt8.toNat_inj.mp (Nat.eq_of_testBit_eq fun k => ?_)
    by_cases hk : k < 8
    · have hbit := h (8 * q + (7 - k)) (by omega) (by omega)
      rw [SockaddrIn6.bytes, bit_toList (by omega)] at hbit
      have hidx : (8 * q + (7 - k)) / 8 = q := by omega
      have hpos : 7 - (8 * q + (7 - k)) % 8 = k := by omega
      simp only [hidx, hpos] at hbit
      simp [hbit]
    · have hlt : (a.s6Addr[q]).toNat < 2 ^ k :=
        Nat.lt_of_lt_of_le (a.s6Addr[q]).toNat_lt (Nat.pow_le_pow_right (by decide) (by omega))
      simp [Nat.testBit_lt_two_pow hlt]
  · intro h i hi hiq
    subst hiq
    rw [SockaddrIn6.bytes, bit_toList hi, h]
    simp

/-- They agree where the byte the prefix ends in is zero. -/
theorem agree_iff (a : SockaddrIn6) (hp : p.toNat < 128) :
    Agree a p ↔ a.s6Addr[p.toNat / 8]? = some 0 := by
  have hb : p.toNat / 8 < 16 := by omega
  obtain ⟨net, hnet, hnetPort, hnetBits⟩ := networdAddress_eq a hp
  obtain ⟨bcast, hbcast, hbcastPort, hbcastBits⟩ := broadcastAddress_eq a hp
  obtain ⟨mask, hmask, hmaskBits⟩ := subnetMask_eq hp
  have hagree : Agree a p ↔ Agrees 128 p.toNat a.bytes net.bytes bcast.bytes mask.bytes := by
    simp [Agree, hnet, hbcast, hmask, hnetPort, hbcastPort]
  rw [hagree, agrees_iff (by omega) hmaskBits hbcastBits, Vector.getElem?_eq_getElem hb,
    Option.some.injEq, ← byte_eq_zero hb]
  constructor
  · intro h i hi hbyte
    have hbit := h i hi
    rw [hnetBits i hi] at hbit
    by_cases hip : p.toNat ≤ i
    · simpa [hbyte, hip, Nat.not_lt.mpr hip] using hbit
    · simpa [hbyte, hip, Nat.not_le.mp hip] using hbit.symm
  · intro h i hi
    rw [hnetBits i hi]
    obtain hlt | heq | hgt := lt_trichotomy (i / 8) (p.toNat / 8)
    · simp [hlt, show i < p.toNat by omega]
    · simp [h i hi heq]
    · simp [show ¬ i / 8 < p.toNat / 8 by omega, show i / 8 ≠ p.toNat / 8 by omega,
        show ¬ i < p.toNat by omega]

end

end IPv6Address

/-! ## Both families -/

/-- Network, mask and broadcast address agree only where no bit of the address is kept by
mistake: for 0.0.0.0, and where the byte the prefix ends in is zero. -/
theorem prefix_agree_iff (addr : SockaddrIn) (addr6 : SockaddrIn6) (prefixLen : UInt32) :
    (1 ≤ prefixLen → prefixLen ≤ 32 →
      (IPv4Address.Agree addr prefixLen ↔ 2 ≤ prefixLen ∧ addr.sAddr = 0))
    ∧ (prefixLen.toNat < 128 →
      (IPv6Address.Agree addr6 prefixLen ↔ addr6.s6Addr[prefixLen.toNat / 8]? = some 0)) :=
  ⟨IPv4Address.agree_iff, IPv6Address.agree_iff addr6⟩

/-- 192.168.1.17, port 80. -/
def host4 : SockaddrIn := { sinFamily := 2, sinPort := 0x5000, sAddr := 0x1101a8c0 }

/-- `::1`, port 80. -/
def host6 : SockaddrIn6 :=
  { sin6Family := 10, sin6Port := 0x5000, sin6Flowinfo := 0
    s6Addr := (Vector.replicate 16 0).set 15 1, sin6ScopeId := 0 }

/-- The address 0.0.0.0, and the prefix of `::1` that ends in a byte of zeros. -/
theorem prefix_agree_iff_host :
    IPv4Address.Agree { host4 with sAddr := 0 } 24 ∧ IPv6Address.Agree host6 64 :=
  ⟨((prefix_agree_iff { host4 with sAddr := 0 } host6 24).1 (by decide) (by decide)).mpr
      (by decide),
    ((prefix_agree_iff host4 host6 64).2 (by decide)).mpr (by decide)⟩

/-- The network address of 192.168.1.17/24 is 0.0.0.17. -/
theorem networdAddress_fails : ¬ IPv4Address.Agree host4 24 := by
  rw [IPv4Address.agree_iff (by decide) (by decide)]
  decide

/-- The mask of an IPv4 prefix that is too short or too long. -/
theorem createMask_fault {p : UInt32} (h : ¬ (2 ≤ p ∧ p ≤ 32)) :
    ∃ f, createMask 4 UInt32.ofNat p = .error f := by
  have htwo : (2 : UInt32).toNat = 2 := rfl
  have hmax : (32 : UInt32).toNat = 32 := rfl
  rw [UInt32.le_iff_toNat_le, UInt32.le_iff_toNat_le, htwo, hmax] at h
  have hp := p.toNat_lt
  rw [createMask]
  by_cases h1 : p.toNat = 1
  · exact ⟨.overflow, by rw [h1]; rfl⟩
  · have hcount : 32 ≤ (4 * 8 + 2 ^ 64 - p.toNat) % 2 ^ 64 := by omega
    exact ⟨.shift _, by rw [shiftOne, if_pos hcount]; rfl⟩

theorem store_fault {v : Vector UInt8 16} {i : Nat} {value : UInt8} (h : ¬ i < 16) :
    store v i value = .error (.index i) := by
  rw [store, dif_neg h]

theorem load_fault {v : Vector UInt8 16} {i : Nat} (h : ¬ i < 16) :
    load v i = .error (.index i) := by
  simp [load, Nat.not_lt.mp h]

theorem two_le_of_gt {p : UInt32} (h : p > 32) : 2 ≤ p := by
  have htwo : (2 : UInt32).toNat = 2 := rfl
  have hmax : (32 : UInt32).toNat = 32 := rfl
  rw [gt_iff_lt, UInt32.lt_iff_toNat_lt] at h
  rw [UInt32.le_iff_toNat_le]
  omega

namespace IPv4Address

theorem createMask_safe (p : UInt32) :
    Defined (createMask 4 UInt32.ofNat p) ↔ 2 ≤ p ∧ p ≤ 32 := by
  by_cases h : 2 ≤ p ∧ p ≤ 32
  · exact iff_of_true ⟨_, createMask_ok h.1 h.2⟩ h
  · obtain ⟨f, hf⟩ := createMask_fault h
    rw [hf]
    exact iff_of_false (not_defined_error f) h

/-- Where long prefixes are checked for, only the short ones are a fault. -/
theorem checked_safe (p : UInt32) (f : UInt32 → SockaddrIn) :
    Defined (if p > 32 then .ok none
      else createMask 4 UInt32.ofNat p >>= fun mask => pure (some (f mask))) ↔ 2 ≤ p := by
  by_cases h32 : p > 32
  · rw [if_pos h32]
    exact iff_of_true ⟨none, rfl⟩ (two_le_of_gt h32)
  · rw [if_neg h32]
    have hmask := (defined_bind_pure_iff (f := fun mask => some (f mask))).trans (createMask_safe p)
    exact hmask.trans (and_iff_left (UInt32.not_lt.mp h32))

theorem broadcastAddress_safe (a : SockaddrIn) (p : UInt32) :
    Defined (broadcastAddress a p) ↔ 2 ≤ p :=
  checked_safe p fun mask => { a with sAddr := a.sAddr ||| byteswap32 mask }

theorem networdAddress_safe (a : SockaddrIn) (p : UInt32) :
    Defined (networdAddress a p) ↔ 2 ≤ p :=
  checked_safe p fun mask => { a with sAddr := a.sAddr &&& byteswap32 mask }

/-- `subnetMask` has no check for long prefixes. -/
theorem subnetMask_safe (p : UInt32) : Defined (subnetMask p) ↔ 2 ≤ p ∧ p ≤ 32 :=
  defined_bind_pure_iff.trans (createMask_safe p)

end IPv4Address

namespace IPv6Address

theorem broadcastAddress_safe (a : SockaddrIn6) (p : UInt32) :
    Defined (broadcastAddress a p) ↔ p.toNat < 128 := by
  by_cases hp : p.toNat < 128
  · obtain ⟨bcast, h, -⟩ := broadcastAddress_eq a hp
    exact iff_of_true ⟨_, h⟩ hp
  · rw [broadcastAddress, createMask_ok, load_fault (by omega)]
    exact iff_of_false (not_defined_error _) hp

theorem networdAddress_safe (a : SockaddrIn6) (p : UInt32) :
    Defined (networdAddress a p) ↔ p.toNat < 128 := by
  by_cases hp : p.toNat < 128
  · obtain ⟨net, h, -⟩ := networdAddress_eq a hp
    exact iff_of_true ⟨_, h⟩ hp
  · rw [networdAddress, createMask_ok, load_fault (by omega)]
    exact iff_of_false (not_defined_error _) hp

theorem subnetMask_safe (p : UInt32) : Defined (subnetMask p) ↔ p.toNat < 128 := by
  by_cases hp : p.toNat < 128
  · obtain ⟨mask, h, -⟩ := subnetMask_eq hp
    exact iff_of_true ⟨_, h⟩ hp
  · have hstore : ∀ value, store (Vector.replicate 16 0) (p.toNat / 8) value
        = .error (.index (p.toNat / 8)) := fun _ => store_fault (by omega)
    rw [subnetMask, createMask_ok]
    exact iff_of_false (fun ⟨r, hr⟩ => by simp [bind, Except.bind, hstore] at hr) hp

end IPv6Address

/-- Which prefixes each of the six functions handles without a fault. -/
theorem prefix_safe_iff (p : UInt32) :
    (∀ a, Defined (IPv4Address.broadcastAddress a p) ↔ 2 ≤ p)
      ∧ (∀ a, Defined (IPv4Address.networdAddress a p) ↔ 2 ≤ p)
      ∧ (Defined (IPv4Address.subnetMask p) ↔ 2 ≤ p ∧ p ≤ 32)
      ∧ (∀ a, Defined (IPv6Address.broadcastAddress a p) ↔ p.toNat < 128)
      ∧ (∀ a, Defined (IPv6Address.networdAddress a p) ↔ p.toNat < 128)
      ∧ (Defined (IPv6Address.subnetMask p) ↔ p.toNat < 128) :=
  ⟨fun a => IPv4Address.broadcastAddress_safe a p, fun a => IPv4Address.networdAddress_safe a p,
    IPv4Address.subnetMask_safe p, fun a => IPv6Address.broadcastAddress_safe a p,
    fun a => IPv6Address.networdAddress_safe a p, IPv6Address.subnetMask_safe p⟩

/-- The prefix 0 shifts by 32, 33 by a huge number, and 128 stores behind the array. -/
theorem prefix_faults :
    ¬ Defined (IPv4Address.networdAddress host4 0) ∧ ¬ Defined (IPv4Address.subnetMask 33)
      ∧ ¬ Defined (IPv6Address.broadcastAddress host6 128) := by
  rw [IPv4Address.networdAddress_safe, IPv4Address.subnetMask_safe,
    IPv6Address.broadcastAddress_safe]
  decide

end HrServer.Net
