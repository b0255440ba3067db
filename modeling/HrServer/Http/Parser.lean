/-
HrServer.Http.Parser — `http_parser_execute` of
`sylar/http/http11_parser.cc` and the callbacks of `http_parser.cc`.

`transition` is the table lookup of the generated code. `exec` is the loop
over the buffer; the actions read the marks, which are offsets into the
buffer of the current call. Making a string of negative length throws, and
a failed `assert` aborts: both are faults.

`uri_relaxed` and `query_start` are not initialised by `http_parser_init`;
their values are arguments of `new`.
-/
import HrServer.Http.Machine
import HrServer.Http.Request

namespace HrServer

open Lib

namespace Http

open Tables

/-! ## The machine -/

/-- The tables of `http11_parser.cc`. -/
def httpParser : Machine where
  actions := actions
  keyOffsets := keyOffsets
  transKeys := transKeys
  singleLengths := singleLengths
  rangeLengths := rangeLengths
  indexOffsets := indexOffsets
  transOffsets := transOffsets
  transLengths := transLengths
  condKeys := condKeys
  condTargs := condTargs
  condActions := condActions

/-- `_trans` for the character `c` in state `cs`. -/
def transIndex (cs : Nat) (c : UInt8) : Nat := httpParser.transIndex cs c

/-- `_cond` for a transition, or `none` when its condition fails. Condition 0 is
`parser->uri_relaxed`. -/
def condIndex (uriRelaxed : Bool) (trans : Nat) : Option Nat :=
  httpParser.condIndex (if at8 transCondSpaces trans = 0 ∧ uriRelaxed then 1 else 0) trans

inductive Action where
  | mark | startField | writeField | startValue | writeValue | requestMethod | requestUri
  | fragment | startQuery | queryString | httpVersion | requestPath | done | xml | json
  deriving DecidableEq

/-- The cases of the switch over `*_acts`. -/
def Action.ofCode : Nat → Option Action
  | 0 => some .mark
  | 1 => some .startField
  | 2 => some .writeField
  | 3 => some .startValue
  | 4 => some .writeValue
  | 5 => some .requestMethod
  | 6 => some .requestUri
  | 7 => some .fragment
  | 8 => some .startQuery
  | 9 => some .queryString
  | 10 => some .httpVersion
  | 11 => some .requestPath
  | 12 => some .done
  | 13 => some .xml
  | 14 => some .json
  | _ => none

/-- The actions at offset `acts` of the action table. -/
def actionList (acts : Nat) : List Action := httpParser.actionList Action.ofCode acts

/-- The next state and the actions on the way to it. -/
def transition (uriRelaxed : Bool) (cs : Nat) (c : UInt8) : Nat × List Action :=
  match condIndex uriRelaxed (transIndex cs c) with
  | some cond => (at8 condTargs cond, actionList (at8 condActions cond))
  | none => (error, [])

/-! ## The parser -/

/-- `HttpRequestParser` with the `http_parser` in it. -/
structure HttpRequestParser where
  cs : Nat
  bodyStart : Nat
  nread : Nat
  mark : Nat
  fieldStart : Nat
  fieldLen : Nat
  queryStart : Nat
  xmlSent : Bool
  jsonSent : Bool
  uriRelaxed : Bool
  error : Nat
  data : HttpRequest
  deriving DecidableEq

inductive Fault where
  /-- `std::length_error` of a string constructor. -/
  | lengthError
  /-- A failed `assert` of `http_parser_execute`. -/
  | assertion
  deriving DecidableEq

namespace HttpRequestParser

/-- The constructor with `http_parser_init`. -/
def new (uriRelaxed : Bool) (queryStart : Nat) : HttpRequestParser :=
  { cs := start, bodyStart := 0, nread := 0, mark := 0, fieldStart := 0, fieldLen := 0,
    queryStart := queryStart, xmlSent := false, jsonSent := false, uriRelaxed := uriRelaxed,
    error := 0, data := .new }

/-- `hasError`. -/
def hasError (h : HttpRequestParser) : Bool := h.error ≠ 0 || h.cs = Tables.error

/-- `isFinished`, by `http_parser_finish`. -/
def isFinished (h : HttpRequestParser) : Int :=
  if h.cs = Tables.error then -1 else if h.cs ≥ firstFinal then 1 else 0

end HttpRequestParser

/-- `std::string(PTR_TO(start), LEN(start, p))`. -/
def token (buffer : Bytes) (start p : Nat) : Except Fault Bytes :=
  if p < start then .error .lengthError else .ok ((buffer.drop start).take (p - start))

/-- `on_request_method`, given the memory from the mark on. -/
def onRequestMethod (h : HttpRequestParser) (at_ : Bytes) : HttpRequestParser :=
  let m := charsToHttpMethod at_
  if m = .INVALID_METHOD then { h with error := 1000 }
  else { h with data := { h.data with method := m } }

/-- `strncmp(a, b, n) == 0`. -/
def strncmpEq (a b : Bytes) : Nat → Bool
  | 0 => true
  | n + 1 =>
    if a.headD 0 ≠ b.headD 0 then false
    else if a.headD 0 = 0 then true
    else strncmpEq a.tail b.tail n

/-- `on_request_version`. -/
def onRequestVersion (h : HttpRequestParser) (at_ : Bytes) (length : Nat) : HttpRequestParser :=
  if strncmpEq at_ (ascii "HTTP/1.1") length then { h with data := { h.data with version := 0x11 } }
  else if strncmpEq at_ (ascii "HTTP/1.0") length then
    { h with data := { h.data with version := 0x10 } }
  else { h with error := 1001 }

/-- `on_request_http_field`. -/
def onRequestHttpField (h : HttpRequestParser) (field value : Bytes) : HttpRequestParser :=
  if field.isEmpty then h else { h with data := h.data.setHeader field value }

/-- One action with the current character at offset `p`. `done` ends the loop. -/
def runAction (buffer : Bytes) (p : Nat) (h : HttpRequestParser) :
    Action → Except Fault HttpRequestParser
  | .mark => .ok { h with mark := p }
  | .startField => .ok { h with fieldStart := p }
  | .writeField => .ok { h with fieldLen := p - h.fieldStart }
  | .startValue => .ok { h with mark := p }
  | .writeValue => do
    let value ← token buffer h.mark p
    return onRequestHttpField h ((buffer.drop h.fieldStart).take h.fieldLen) value
  | .requestMethod => .ok (onRequestMethod h (buffer.drop h.mark))
  | .requestUri => .ok h
  | .fragment => do
    let v ← token buffer h.mark p
    return { h with data := { h.data with fragment := v } }
  | .startQuery => .ok { h with queryStart := p }
  | .queryString => do
    let v ← token buffer h.queryStart p
    return { h with data := { h.data with query := v } }
  | .httpVersion => .ok (onRequestVersion h (buffer.drop h.mark) (p - h.mark))
  | .requestPath => do
    let v ← token buffer h.mark p
    return { h with data := { h.data with path := v } }
  | .done =>
    .ok { h with bodyStart := if h.xmlSent || h.jsonSent then h.mark else p + 1 }
  | .xml => .ok { h with xmlSent := true }
  | .json => .ok { h with jsonSent := true }

/-- The loop over `_acts`; `true` when an action left the machine by `fbreak`. -/
def runActions (buffer : Bytes) (p : Nat) :
    List Action → HttpRequestParser → Except Fault (HttpRequestParser × Bool)
  | [], h => .ok (h, false)
  | a :: acts, h => do
    let h ← runAction buffer p h a
    if a = .done then .ok (h, true) else runActions buffer p acts h

/-- The loop over the characters from offset `p` on, with the offset it ends at. -/
def exec (buffer : Bytes) : Bytes → Nat → HttpRequestParser → Except Fault (HttpRequestParser × Nat)
  | [], p, h => .ok (h, p)
  | c :: rest, p, h => do
    let (cs, acts) := transition h.uriRelaxed h.cs c
    let (h, broke) ← runActions buffer p acts { h with cs := cs }
    if broke then .ok (h, p + 1)
    else if cs = Tables.error then .ok (h, p)
    else exec buffer rest (p + 1) h

/-- `http_parser_execute` with offset 0. A length of `2 ^ 31` or more does not survive the
conversion to `int` in its second assertion. -/
def execute (h : HttpRequestParser) (data : Bytes) : Except Fault (HttpRequestParser × Nat) :=
  if data.length = 0 then .ok (h, 0)
  else do
    let h := { h with nread := 0, mark := 0, fieldLen := 0, fieldStart := 0 }
    if ¬ data.length < 2 ^ 31 then .error .assertion
    else
      let (h, p) ← if h.cs = Tables.error then .ok (h, 0) else exec data data 0 h
      let h := { h with nread := p }
      if h.nread ≤ data.length ∧ h.bodyStart ≤ data.length ∧ h.mark < data.length
          ∧ h.fieldLen ≤ data.length ∧ h.fieldStart < data.length then
        .ok (h, h.nread)
      else .error .assertion

/-- Pieces given to `execute` one after another, as `recvRequest` does: what a call does
not consume is moved to the front of the buffer of the next one. -/
def feed : HttpRequestParser → Bytes → List Bytes → Except Fault (HttpRequestParser × Bytes)
  | h, left, [] => .ok (h, left)
  | h, left, piece :: pieces => do
    let data := left ++ piece
    let (h, offset) ← execute h data
    feed h (data.drop offset) pieces

end Http

end HrServer
