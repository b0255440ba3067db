/-
HrServer.Http.ClientParser — `httpclient_parser_execute` of
`sylar/http/httpclient_parser.cc`, the callbacks of `http_parser.cc` for a
response, and `HttpResponseParser::execute`.

As for the request parser, the lookup in the tables is `transition`, the
loop over the buffer `exec`, a failed `assert` and a string of negative
length are faults. The consistency checks behind the loop report -1, which
`execute` takes for a `size_t` and moves memory by.

`httpclient_parser_init` leaves `status` as it is; its first value is an
argument of `new`.
-/
import HrServer.Http.ClientTables
import HrServer.Http.Dump
import HrServer.Http.Parser
import HrServer.Lib.Run

namespace HrServer

open Lib

namespace Http

namespace Client

open ClientTables
open Tables (at8)

/-! ## The machine -/

/-- The tables of `httpclient_parser.cc`. -/
def httpclientParser : Machine where
  actions := actions
  keyOffsets := keyOffsets
  transKeys := transKeys
  singleLengths := singleLengths
  rangeLengths := rangeLengths
  indexOffsets := indexOffsets
  transOffsets := transOffsets
  transLengths := transLengths
  condKeys := condKeys
  condTargs := condTargs
  condActions := condActions

/-- `_trans` for the character `c` in state `cs`. -/
def transIndex (cs : Nat) (c : UInt8) : Nat := httpclientParser.transIndex cs c

/-- `_cond` for a transition, or `none` when there is none; `_cpc` is 0. -/
def condIndex (trans : Nat) : Option Nat := httpclientParser.condIndex 0 trans

inductive Action where
  | mark | startField | writeField | startValue | writeContentLen | writeConnectionClose
  | writeValue | reasonPhrase | statusCode | httpVersion | chunkSize | transChunked | done
  deriving DecidableEq

/-- The cases of the switch over `*_acts`. -/
def Action.ofCode : Nat → Option Action
  | 0 => some .mark
  | 1 => some .startField
  | 2 => some .writeField
  | 3 => some .startValue
  | 4 => some .writeContentLen
  | 5 => some .writeConnectionClose
  | 6 => some .writeValue
  | 7 => some .reasonPhrase
  | 8 => some .statusCode
  | 9 => some .httpVersion
  | 10 => some .chunkSize
  | 11 => some .transChunked
  | 12 => some .done
  | _ => none

/-- The actions at offset `acts` of the action table. -/
def actionList (acts : Nat) : List Action := httpclientParser.actionList Action.ofCode acts

/-- The next state and the actions on the way to it. -/
def transition (cs : Nat) (c : UInt8) : Nat × List Action :=
  match condIndex (transIndex cs c) with
  | some cond => (at8 condTargs cond, actionList (at8 condActions cond))
  | none => (error, [])

/-! ## Numbers -/

/-- `isspace` of the C locale. -/
def isspace (c : UInt8) : Bool := c = 32 || (9 ≤ c && c ≤ 13)

/-- The digits of `base` from the front on. -/
def digitsFrom (base acc : Nat) : Bytes → Nat
  | [] => acc
  | c :: text =>
    match (charDigit c).filter (· < base) with
    | some d => digitsFrom base (acc * base + d) text
    | none => acc

/-- The prefix `0x` in front of a digit, which base 16 allows. -/
def dropHexPrefix (text : Bytes) : Bytes :=
  if (text.getD 0 0 = 48 ∧ (text.getD 1 0 = 120 ∨ text.getD 1 0 = 88))
      ∧ (charDigit (text.getD 2 0)).isSome then text.drop 2
  else text

/-- `strtol(text, NULL, base)` with a `long` of 64 bits. -/
def strtol (text : Bytes) (base : Nat) : Int :=
  let text := text.dropWhile isspace
  let negative := text.headD 0 = 45
  let text := if negative ∨ text.headD 0 = 43 then text.drop 1 else text
  let text := if base = 16 then dropHexPrefix text else text
  let n := digitsFrom base 0 text
  if negative then max (-9223372036854775808) (-n) else min 9223372036854775807 n

/-- `strtol` stored in an `int`, and `atoi` with base 10. -/
def strtoi (text : Bytes) (base : Nat) : Int32 := Int32.ofInt (strtol text base)

/-! ## The parser -/

/-- `HttpResponseParser` with the `httpclient_parser` in it. -/
structure HttpResponseParser where
  cs : Nat
  bodyStart : Nat
  contentLen : Int32
  status : Int32
  chunked : Bool
  chunksDone : Bool
  close : Bool
  nread : Nat
  mark : Nat
  fieldStart : Nat
  fieldLen : Nat
  error : Nat
  data : HttpResponse
  deriving DecidableEq

namespace HttpResponseParser

/-- `httpclient_parser_init`. -/
def init (h : HttpResponseParser) : HttpResponseParser :=
  { h with
    cs := start, bodyStart := 0, contentLen := -1, chunked := false, chunksDone := false
    mark := 0, nread := 0, fieldLen := 0, fieldStart := 0, close := false }

/-- The constructor. -/
def new (status : Int32) : HttpResponseParser :=
  { cs := start, bodyStart := 0, contentLen := -1, status := status, chunked := false
    chunksDone := false, close := false, nread := 0, mark := 0, fieldStart := 0, fieldLen := 0
    error := 0, data := .new 0x11 true }

end HttpResponseParser

/-- `on_response_version`. -/
def onResponseVersion (h : HttpResponseParser) (at_ : Bytes) (length : Nat) :
    HttpResponseParser :=
  if strncmpEq at_ (ascii "HTTP/1.1") length then { h with data := { h.data with version := 0x11 } }
  else if strncmpEq at_ (ascii "HTTP/1.0") length then
    { h with data := { h.data with version := 0x10 } }
  else { h with error := 1001 }

/-- `on_response_http_field`. -/
def onResponseHttpField (h : HttpResponseParser) (field value : Bytes) : HttpResponseParser :=
  if field.isEmpty then h else { h with data := h.data.setHeader field value }

/-- One action with the current character at offset `p`. `done` ends the loop; the callbacks
for chunks and for the end of the header do nothing. -/
def runAction (buffer : Bytes) (p : Nat) (h : HttpResponseParser) :
    Action → Except Fault HttpResponseParser
  | .mark => .ok { h with mark := p }
  | .startField => .ok { h with fieldStart := p }
  | .writeField => .ok { h with fieldLen := p - h.fieldStart }
  | .startValue => .ok { h with mark := p }
  | .writeContentLen => .ok { h with contentLen := strtoi (buffer.drop h.mark) 10 }
  | .writeConnectionClose => .ok { h with close := true }
  | .writeValue => do
    let value ← token buffer h.mark p
    return onResponseHttpField h ((buffer.drop h.fieldStart).take h.fieldLen) value
  | .reasonPhrase => do
    let v ← token buffer h.mark p
    return { h with data := { h.data with reason := v } }
  | .statusCode =>
    let status := strtoi (buffer.drop h.mark) 10
    .ok { h with status := status, data := { h.data with status := ⟨status⟩ } }
  | .httpVersion => .ok (onResponseVersion h (buffer.drop h.mark) (p - h.mark))
  | .chunkSize =>
    let size := strtoi (buffer.drop h.mark) 16
    .ok { h with chunked := true, contentLen := size, chunksDone := size ≤ 0 }
  | .transChunked => .ok { h with chunked := true }
  | .done => .ok { h with bodyStart := p + 1 }

/-- The loop over `_acts`; `true` when an action left the machine by `fbreak`. -/
def runActions (buffer : Bytes) (p : Nat) :
    List Action → HttpResponseParser → Except Fault (HttpResponseParser × Bool)
  | [], h => .ok (h, false)
  | a :: acts, h => do
    let h ← runAction buffer p h a
    if a = .done then .ok (h, true) else runActions buffer p acts h

/-- The loop over the characters from offset `p` on, with the offset it ends at. -/
def exec (buffer : Bytes) :
    Bytes → Nat → HttpResponseParser → Except Fault (HttpResponseParser × Nat)
  | [], p, h => .ok (h, p)
  | c :: rest, p, h => do
    let (cs, acts) := transition h.cs c
    let (h, broke) ← runActions buffer p acts { h with cs := cs }
    if broke then .ok (h, p + 1)
    else if cs = error then .ok (h, p)
    else exec buffer rest (p + 1) h

/-- What `httpclient_parser_execute` resets in every call. -/
def HttpResponseParser.rewind (h : HttpResponseParser) : HttpResponseParser :=
  { h with nread := 0, mark := 0, fieldLen := 0, fieldStart := 0 }

/-- The machine. It does not start in an empty buffer or in the error state. -/
def machine (h : HttpResponseParser) (data : Bytes) : Except Fault (HttpResponseParser × Nat) :=
  if data = [] ∨ h.cs = error then .ok (h, 0) else exec data data 0 h

/-- The assertions and the checks behind the machine, which stopped at `p`. -/
def checked (data : Bytes) (h : HttpResponseParser) (p : Nat) :
    Except Fault (HttpResponseParser × Int) :=
  let h := { h with nread := p }
  if ¬ (h.nread ≤ data.length ∧ h.bodyStart ≤ data.length) then .error .assertion
  else if h.mark < data.length ∧ h.fieldLen ≤ data.length ∧ h.fieldStart < data.length then
    .ok (h, h.nread)
  else .ok (h, -1)

/-- `httpclient_parser_execute` with offset 0. The length is compared as an `int`, which one
of `2 ^ 31` or more does not survive. -/
def parserExecute (h : HttpResponseParser) (data : Bytes) :
    Except Fault (HttpResponseParser × Int) :=
  if ¬ data.length < 2 ^ 31 then .error .assertion
  else do
    let (h, p) ← machine h.rewind data
    checked data h p

/-- An `int` that is stored in a `size_t`. -/
def toSize (n : Int) : Nat := if n < 0 then (18446744073709551616 + n).toNat else n.toNat

/-- The buffer behind `memmove(data, data + offset, len - offset)`; `none` when that is not
inside of it. -/
def memmove (data : Bytes) (offset : Nat) : Option Bytes :=
  if offset ≤ data.length then some (data.drop offset ++ data.drop (data.length - offset))
  else none

/-- A call of `execute`: the bytes and `chunck`. -/
structure Call where
  data : Bytes
  chunck : Bool

/-- `HttpResponseParser::execute(data, len, chunck)`: the offset and the buffer. -/
def execute (h : HttpResponseParser) (c : Call) :
    Except Fault (HttpResponseParser × Nat × Option Bytes) := do
  let h := if c.chunck then h.init else h
  let (h, ret) ← parserExecute h c.data
  let offset := toSize ret
  return (h, offset, memmove c.data offset)

end Client

end Http

end HrServer
