/-
HrServer.Http.Session — `SocketStream::read` of
`sylar/streams/socket_stream.cc` and `HttpSession::recvRequest` of
`sylar/http/http_session.cc`.

A socket is what will arrive on it, in the portions in which it arrives:
a `recv` returns at most one portion. `recvRequest` reads into a buffer of
its own, which is gone when it returns.

`boost::lexical_cast<uint64_t>` is the parameter `lexicalCast`; a string
it does not accept gives `none`. What the constructor of the parser finds
in the members it does not initialise is an argument of each call.
-/
import HrServer.Http.Parser
import HrServer.Streams.FixSize

namespace HrServer

open Lib

namespace Http

open Lib.Checked (toInt32)
open Streams (readFixSize)

/-! ## Sockets -/

structure Socket where
  arrivals : List Bytes
  isConnected : Bool
  deriving DecidableEq

namespace Socket

/-- The most that one `recv` transfers. -/
def maxTransfer : Nat := 0x7ffff000

/-- `SocketStream::read`. -/
def read (length : Nat) (s : Socket) : Except Int Bytes × Socket :=
  if s.isConnected then
    match s.arrivals with
    | [] => (.error 0, s)
    | portion :: arrivals =>
      let n := min length maxTransfer
      let got := portion.take n
      let left := portion.drop n
      let s := { s with arrivals := if left.isEmpty then arrivals else left :: arrivals }
      (if got.isEmpty then .error 0 else .ok got, s)
  else (.error (-1), s)

def close (s : Socket) : Socket := { s with isConnected := false }

/-- A bound on the number of reads until nothing is left. -/
def size (s : Socket) : Nat := (s.arrivals.map fun portion => portion.length + 1).sum

end Socket

/-! ## Requests -/

/-- `HttpRequestParser::getContentLength`. -/
def HttpRequest.contentLength (lexicalCast : Bytes → Option UInt64) (r : HttpRequest) : UInt64 :=
  match r.headers.find (ascii "content-length") with
  | some i => (lexicalCast (r.headers.getD i ([], [])).2).getD 0
  | none => 0

/-- The first loop of `recvRequest`. `data` are the first `offset` bytes of the buffer. -/
def recvHead (buffSize : Nat) : (fuel : Nat) → HttpRequestParser → (data : Bytes) → Socket →
    Except Fault (Option (HttpRequestParser × Bytes)) × Socket
  | 0, _, _, s => (.ok none, s)
  | fuel + 1, parser, data, s =>
    match s.read (buffSize - data.length) with
    | (.error _, s) => (.ok none, s.close)
    | (.ok got, s) =>
      let data := data ++ got
      match execute parser data with
      | .error fault => (.error fault, s)
      | .ok (parser, nparse) =>
        if parser.hasError then (.ok none, s.close)
        else
          let data := data.drop nparse
          if data.length = toInt32 buffSize then (.ok none, s.close)
          else if parser.isFinished ≠ 0 then (.ok (some (parser, data)), s)
          else recvHead buffSize fuel parser data s

/-- What `recvRequest` does when `length` bytes of the body are not in the buffer: they are
read over the last of the zeros that `body` was filled with. -/
def recvRest (request : HttpRequest) (body : Bytes) (length : Nat) (s : Socket) :
    Option HttpRequest × Socket :=
  let read := readFixSize Socket.read (List.replicate length 0) length s
  if read.1 ≤ 0 then (none, read.2.2.close)
  else (some { request with body := body ++ read.2.1 }.init, read.2.2)

/-- The rest of `recvRequest`, with `offset` bytes behind the head in the buffer. -/
def recvBody (lexicalCast : Bytes → Option UInt64) (request : HttpRequest) (data : Bytes)
    (s : Socket) : Option HttpRequest × Socket :=
  let length : Int := (request.contentLength lexicalCast).toInt64.toInt
  if length > 0 then
    let body := if length ≥ data.length then data else data.take length.toNat
    let length := length - data.length
    if length > 0 then recvRest request body length.toNat s
    else (some { request with body := body }.init, s)
  else (some request.init, s)

/-- `HttpSession::recvRequest`. -/
def recvRequest (lexicalCast : Bytes → Option UInt64) (buffSize : Nat) (memory : Bool × Nat)
    (s : Socket) : Except Fault (Option HttpRequest) × Socket :=
  match recvHead buffSize (s.size + 1) (.new memory.1 memory.2) [] s with
  | (.error fault, s) => (.error fault, s)
  | (.ok none, s) => (.ok none, s)
  | (.ok (some (parser, data)), s) =>
    let (request, s) := recvBody lexicalCast parser.data data s
    (.ok request, s)

/-- Calls of `recvRequest` one after another on one session, as `handleClient` makes them. -/
def recvRequests (lexicalCast : Bytes → Option UInt64) (buffSize : Nat) :
    List (Bool × Nat) → Socket → Except Fault (List (Option HttpRequest)) × Socket
  | [], s => (.ok [], s)
  | memory :: calls, s =>
    match recvRequest lexicalCast buffSize memory s with
    | (.error fault, s) => (.error fault, s)
    | (.ok request, s) =>
      let (requests, s) := recvRequests lexicalCast buffSize calls s
      (requests.map (request :: ·), s)

end Http

end HrServer
