/-
HrServer.Net.Address — the IP addresses of `sylar/address.h` and
`address.cc`: their data, the text of an IPv6 address, and the arithmetic
of prefixes.

The machine is little-endian, so `byteswapOnLittleEndian` swaps. What C++
does not define is a fault: an index outside of an array, a shift count
that is not below the width of `int`, a signed overflow.
-/
import HrServer.Http.Request
import HrServer.Lib.Checked
import HrServer.Lib.Digits
import HrServer.Lib.Numerals

namespace HrServer.Net

open Http (Bytes)
open Lib

/-- `byteswapOnLittleEndian` of a `uint16_t`. -/
def byteswap16 (value : UInt16) : UInt16 := UInt16.ofNat (Lib.byteSwap 2 value.toNat)

/-- `byteswapOnLittleEndian` of a `uint32_t`. -/
def byteswap32 (value : UInt32) : UInt32 := UInt32.ofNat (Lib.byteSwap 4 value.toNat)

/-- `1 << count`, in `int`. -/
def shiftOne (count : Nat) : Except Checked.Fault Nat :=
  if count ≥ 32 then .error (.shift count)
  else if 2 ^ count ≥ 2 ^ 31 then .error .overflow
  else .ok (2 ^ count)

/-- `CreateMask<T>`, for a `T` of `size` bytes. The shift count is a `size_t`. -/
def createMask {T : Type} (size : Nat) (cast : Nat → T) (bits : UInt32) :
    Except Checked.Fault T := do
  let one ← shiftOne ((size * 8 + 2 ^ 64 - bits.toNat) % 2 ^ 64)
  return cast (one - 1)

/-! ## IPv4 -/

/-- `sockaddr_in`; the port and the address are in network order. -/
structure SockaddrIn where
  sinFamily : UInt16
  sinPort : UInt16
  sAddr : UInt32
  deriving DecidableEq

namespace IPv4Address

def broadcastAddress (addr : SockaddrIn) (prefixLen : UInt32) :
    Except Checked.Fault (Option SockaddrIn) := do
  if prefixLen > 32 then return none
  let mask ← createMask 4 UInt32.ofNat prefixLen
  return some { addr with sAddr := addr.sAddr ||| byteswap32 mask }

def networdAddress (addr : SockaddrIn) (prefixLen : UInt32) :
    Except Checked.Fault (Option SockaddrIn) := do
  if prefixLen > 32 then return none
  let mask ← createMask 4 UInt32.ofNat prefixLen
  return some { addr with sAddr := addr.sAddr &&& byteswap32 mask }

/-- `subnetMask`, which does not use the address; `AF_INET` is 2. -/
def subnetMask (prefixLen : UInt32) : Except Checked.Fault (Option SockaddrIn) := do
  let mask ← createMask 4 UInt32.ofNat prefixLen
  return some { sinFamily := 2, sinPort := 0, sAddr := ~~~ byteswap32 mask }

end IPv4Address

/-! ## IPv6 -/

/-- `sockaddr_in6`; `s6Addr` is in network order, and so is the port. -/
structure SockaddrIn6 where
  sin6Family : UInt16
  sin6Port : UInt16
  sin6Flowinfo : UInt32
  s6Addr : Vector UInt8 16
  sin6ScopeId : UInt32
  deriving DecidableEq

/-- `s6_addr[i]`. -/
def load (s6Addr : Vector UInt8 16) (i : Nat) : Except Checked.Fault UInt8 :=
  match s6Addr[i]? with
  | none => .error (.index i)
  | some b => .ok b

/-- `s6_addr[i] = value`. -/
def store (s6Addr : Vector UInt8 16) (i : Nat) (value : UInt8) :
    Except Checked.Fault (Vector UInt8 16) :=
  if h : i < 16 then .ok (s6Addr.set i value h) else .error (.index i)

/-- `count` turns of a loop that stores `value` at `i`, `i + 1` and so on. -/
def fill (value : UInt8) : Nat → Nat → Vector UInt8 16 → Except Checked.Fault (Vector UInt8 16)
  | _, 0, s6Addr => .ok s6Addr
  | i, count + 1, s6Addr => do fill value (i + 1) count (← store s6Addr i value)

namespace IPv6Address

def broadcastAddress (addr : SockaddrIn6) (prefixLen : UInt32) :
    Except Checked.Fault (Option SockaddrIn6) := do
  let byte := prefixLen.toNat / 8
  let mask ← createMask 1 UInt8.ofNat (prefixLen % 8)
  let s6Addr ← store addr.s6Addr byte ((← load addr.s6Addr byte) ||| mask)
  let s6Addr ← fill 0xff (byte + 1) (16 - (byte + 1)) s6Addr
  return some { addr with s6Addr := s6Addr }

def networdAddress (addr : SockaddrIn6) (prefixLen : UInt32) :
    Except Checked.Fault (Option SockaddrIn6) := do
  let byte := prefixLen.toNat / 8
  let mask ← createMask 1 UInt8.ofNat (prefixLen % 8)
  let s6Addr ← store addr.s6Addr byte ((← load addr.s6Addr byte) &&& mask)
  let s6Addr ← fill 0x00 (byte + 1) (16 - (byte + 1)) s6Addr
  return some { addr with s6Addr := s6Addr }

/-- `subnetMask`, which does not use the address; `AF_INET6` is 10. -/
def subnetMask (prefixLen : UInt32) : Except Checked.Fault (Option SockaddrIn6) := do
  let byte := prefixLen.toNat / 8
  let mask ← createMask 1 UInt8.ofNat (prefixLen % 8)
  let s6Addr ← store (Vector.replicate 16 0) byte (~~~ mask)
  let s6Addr ← fill 0xff 0 byte s6Addr
  return some { sin6Family := 10, sin6Port := 0, sin6Flowinfo := 0, s6Addr := s6Addr
                sin6ScopeId := 0 }

/-- `addr[i]` of `(uint16_t*)s6_addr`. -/
def word (addr : SockaddrIn6) (i : Nat) : UInt16 :=
  UInt16.ofNat (Lib.ofLe [addr.s6Addr.getD (2 * i) 0, addr.s6Addr.getD (2 * i + 1) 0])

/-- The variables of the loop of `insert`. -/
structure Insert where
  text : Bytes := []
  usedZeros : Bool := false

/-- One turn of the loop. -/
def insertTurn (addr : Nat → UInt16) (s : Insert) (i : Nat) : Insert :=
  if addr i = 0 ∧ s.usedZeros = false then s
  else
    let s : Insert :=
      if i ≠ 0 ∧ addr (i - 1) = 0 ∧ s.usedZeros = false then
        { text := s.text ++ [58], usedZeros := true }
      else s
    let text := if i ≠ 0 then s.text ++ [58] else s.text
    { s with text := text ++ numeral 16 (byteswap16 (addr i)).toNat }

/-- The variables after the turns for the indices below a number. -/
def insertLoop (addr : Nat → UInt16) : Nat → Insert
  | 0 => {}
  | i + 1 => insertTurn addr (insertLoop addr i) i

/-- What `insert` writes between the brackets. -/
def insertGroups (addr : Nat → UInt16) : Bytes :=
  let s := insertLoop addr 8
  if s.usedZeros = false ∧ addr 7 = 0 then s.text ++ [58, 58] else s.text

/-- `insert`. -/
def insert (addr : SockaddrIn6) : Bytes :=
  91 :: (insertGroups (word addr) ++ [93, 58] ++ numeral 10 (byteswap16 addr.sin6Port).toNat)

end IPv6Address

end HrServer.Net
