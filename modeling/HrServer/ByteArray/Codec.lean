/-
HrServer.ByteArray.Codec — the typed readers and writers of
`sylar/bytearray.cc`.

Every typed function ends in the raw `write` or `read` of
`ByteArray.Core`. The fixed-width family is `writeFixed`/`readFixed` at a
width in bytes, the varint family `writeVarint`/`readVarint` at a size of
the local buffer or a number of bits, the string families a length prefix
followed by the bytes. Each member of the source keeps its name here.

The build is for a little-endian machine. `float` and `double` are taken
as their bit patterns. Signed arithmetic wraps around.
-/
import HrServer.ByteArray.Core
import HrServer.Lib.Numerals

namespace HrServer

open Lib

namespace ByteArray

variable (fresh : Nat → Nat → UInt8)

/-- `SYLAR_BYTE_ORDER`. -/
def byteOrder : Endian := .little

/-! ## Fixed-width integers -/

/-- A `k`-byte integer, byte-swapped when the array's order is not the host's. -/
def writeFixed (k n : Nat) : Op Unit := do
  let ba ← get
  let value := if ba.endian ≠ byteOrder then byteSwap k n else n
  write fresh (toLe k value)

/-- The reader that `XX(type)` expands to. -/
def readFixed (k : Nat) : Op Nat := do
  let v ← read k
  let ba ← get
  return if ba.endian = byteOrder then ofLe v else byteSwap k (ofLe v)

def writeFint8 (value : Int8) : Op Unit := write fresh [value.toUInt8]
def writeFuint8 (value : UInt8) : Op Unit := write fresh [value]
def writeFint16 (value : Int16) : Op Unit := writeFixed fresh 2 value.toUInt16.toNat
def writeFuint16 (value : UInt16) : Op Unit := writeFixed fresh 2 value.toNat
def writeFint32 (value : Int32) : Op Unit := writeFixed fresh 4 value.toUInt32.toNat
def writeFuint32 (value : UInt32) : Op Unit := writeFixed fresh 4 value.toNat
def writeFint64 (value : Int64) : Op Unit := writeFixed fresh 8 value.toUInt64.toNat
def writeFuint64 (value : UInt64) : Op Unit := writeFixed fresh 8 value.toNat

/-- `readFuint8`; the one byte is read as it is, in either order. -/
def readFuint8 : Op UInt8 := do
  let v ← read 1
  return UInt8.ofNat (ofLe v)

def readFint8 : Op Int8 := do return (← readFuint8).toInt8
def readFuint16 : Op UInt16 := do return UInt16.ofNat (← readFixed 2)
def readFint16 : Op Int16 := do return (← readFuint16).toInt16
def readFuint32 : Op UInt32 := do return UInt32.ofNat (← readFixed 4)
def readFint32 : Op Int32 := do return (← readFuint32).toInt32
def readFuint64 : Op UInt64 := do return UInt64.ofNat (← readFixed 8)
def readFint64 : Op Int64 := do return (← readFuint64).toInt64

/-- `writeFloat`, on the bit pattern. -/
def writeFloat (value : UInt32) : Op Unit := writeFuint32 fresh value
/-- `writeDouble`, on the bit pattern. -/
def writeDouble (value : UInt64) : Op Unit := writeFuint64 fresh value
def readFloat : Op UInt32 := readFuint32
def readDouble : Op UInt64 := readFuint64

/-! ## Varints -/

def encodeZigzag32 (v : Int32) : UInt32 :=
  if v < 0 then (-v).toUInt32 * 2 - 1 else (v * 2).toUInt32

def encodeZigzag64 (v : Int64) : UInt64 :=
  if v < 0 then (-v).toUInt64 * 2 - 1 else (v * 2).toUInt64

def decodeZigzag32 (v : UInt32) : Int32 := ((v >>> 1) ^^^ -(v &&& 1)).toInt32

def decodeZigzag64 (v : UInt64) : Int64 := ((v >>> 1) ^^^ -(v &&& 1)).toInt64

/-- The loop of `writeUint32` and `writeUint64` into `tmp[room]`, and the write
of what it stored. Running past `tmp` is a memory fault. -/
def writeVarint (room n : Nat) : Op Unit :=
  match varint room n with
  | some tmp => write fresh tmp
  | none => throw .segv

/-- The loop `for (i = 0; i < bits; i += 7)` of `readUint32` and `readUint64`.
`passes` bounds the number of passes; `i` reaches `bits` before it runs out. -/
def readVarintLoop (bits : Nat) : (passes i result : Nat) → Op Nat
  | 0, _, result => return result
  | passes + 1, i, result =>
    if i < bits then do
      let b ← readFuint8
      if b.toNat < 0x80 then
        return result ||| (b.toNat <<< i) % 2 ^ bits
      else
        readVarintLoop bits passes (i + 7) (result ||| ((b.toNat &&& 0x7F) <<< i) % 2 ^ bits)
    else return result

def readVarint (bits : Nat) : Op Nat := readVarintLoop bits bits 0 0

def writeUint32 (value : UInt32) : Op Unit := writeVarint fresh 5 value.toNat
def writeUint64 (value : UInt64) : Op Unit := writeVarint fresh 10 value.toNat
def writeInt32 (value : Int32) : Op Unit := writeUint32 fresh (encodeZigzag32 value)
def writeInt64 (value : Int64) : Op Unit := writeUint64 fresh (encodeZigzag64 value)
def readUint32 : Op UInt32 := do return UInt32.ofNat (← readVarint 32)
def readUint64 : Op UInt64 := do return UInt64.ofNat (← readVarint 64)
def readInt32 : Op Int32 := do return decodeZigzag32 (← readUint32)
def readInt64 : Op Int64 := do return decodeZigzag64 (← readUint64)

/-! ## Strings -/

def writeStringF16 (value : List UInt8) : Op Unit := do
  writeFuint16 fresh (UInt16.ofNat value.length)
  write fresh value

def writeStringF32 (value : List UInt8) : Op Unit := do
  writeFuint32 fresh (UInt32.ofNat value.length)
  write fresh value

def writeStringF64 (value : List UInt8) : Op Unit := do
  writeFuint64 fresh (UInt64.ofNat value.length)
  write fresh value

def writeStringVint (value : List UInt8) : Op Unit := do
  writeUint64 fresh (UInt64.ofNat value.length)
  write fresh value

def writeStringWithoutLength (value : List UInt8) : Op Unit := write fresh value

/-- `read(&buff[0], len)` runs whatever `len` is, also for an empty string. -/
def readStringF16 : Op (List UInt8) := do
  let len ← readFuint16
  read len.toNat

def readStringF32 : Op (List UInt8) := do
  let len ← readFuint32
  read len.toNat

def readStringF64 : Op (List UInt8) := do
  let len ← readFuint64
  read len.toNat

def readStringVint : Op (List UInt8) := do
  let len ← readUint64
  read len.toNat

end ByteArray

end HrServer
