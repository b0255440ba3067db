/-
HrServer.Http.Request — `HttpRequest` of `sylar/http/http.h` and
`http.cc`: methods, the case-insensitive header map, and the fields the
request parser fills in.

Strings are lists of bytes. The map is the sequence of its entries in the
order of `CaseInsensitiveLess`, which compares C strings: it stops at a
zero byte.
-/
import HrServer.Lib.OrderedSet

namespace HrServer

open Lib

namespace Http

/-- A `std::string`. -/
abbrev Bytes := List UInt8

/-- The bytes of an ASCII literal. -/
def ascii (s : String) : Bytes := s.toList.map fun c => UInt8.ofNat c.toNat

/-- `HttpMethod`. -/
inductive HttpMethod where
  | DELETE | GET | HEAD | POST | PUT | CONNECT | OPTIONS | TRACE | COPY | LOCK | MKCOL | MOVE
  | PROPFIND | PROPPATCH | SEARCH | UNLOCK | BIND | REBIND | UNBIND | ACL | REPORT | MKACTIVITY
  | CHECKOUT | MERGE | MSEARCH | NOTIFY | SUBSCRIBE | UNSUBSCRIBE | PATCH | PURGE | MKCALENDAR
  | LINK | UNLINK | SOURCE | INVALID_METHOD
  deriving DecidableEq

/-- `HTTP_METHOD_MAP`. -/
def httpMethodMap : List (HttpMethod × Bytes) :=
  [(.DELETE, ascii "DELETE"), (.GET, ascii "GET"), (.HEAD, ascii "HEAD"), (.POST, ascii "POST"),
   (.PUT, ascii "PUT"), (.CONNECT, ascii "CONNECT"), (.OPTIONS, ascii "OPTIONS"),
   (.TRACE, ascii "TRACE"), (.COPY, ascii "COPY"), (.LOCK, ascii "LOCK"),
   (.MKCOL, ascii "MKCOL"), (.MOVE, ascii "MOVE"), (.PROPFIND, ascii "PROPFIND"),
   (.PROPPATCH, ascii "PROPPATCH"), (.SEARCH, ascii "SEARCH"), (.UNLOCK, ascii "UNLOCK"),
   (.BIND, ascii "BIND"), (.REBIND, ascii "REBIND"), (.UNBIND, ascii "UNBIND"),
   (.ACL, ascii "ACL"), (.REPORT, ascii "REPORT"), (.MKACTIVITY, ascii "MKACTIVITY"),
   (.CHECKOUT, ascii "CHECKOUT"), (.MERGE, ascii "MERGE"), (.MSEARCH, ascii "M-SEARCH"),
   (.NOTIFY, ascii "NOTIFY"), (.SUBSCRIBE, ascii "SUBSCRIBE"),
   (.UNSUBSCRIBE, ascii "UNSUBSCRIBE"), (.PATCH, ascii "PATCH"), (.PURGE, ascii "PURGE"),
   (.MKCALENDAR, ascii "MKCALENDAR"), (.LINK, ascii "LINK"), (.UNLINK, ascii "UNLINK"),
   (.SOURCE, ascii "SOURCE")]

/-- `CharsToHttpMethod`: the first name that the memory at `m` starts with. -/
def charsToHttpMethod (m : Bytes) : HttpMethod :=
  match httpMethodMap.find? fun entry => entry.2.isPrefixOf m with
  | some entry => entry.1
  | none => .INVALID_METHOD

/-! ## Headers -/

/-- The characters of a C string. -/
def cStr (s : Bytes) : Bytes := s.takeWhile (· ≠ 0)

def toLower (c : UInt8) : UInt8 := if 65 ≤ c ∧ c ≤ 90 then c + 32 else c

/-- The order of two byte strings that `strcasecmp` reports as negative. -/
def strcasecmpLess : Bytes → Bytes → Bool
  | _, [] => false
  | [], _ :: _ => true
  | a :: as, b :: bs =>
    if toLower a < toLower b then true
    else if toLower b < toLower a then false
    else strcasecmpLess as bs

/-- `CaseInsensitiveLess`. -/
def caseInsensitiveLess (lhs rhs : Bytes) : Bool := strcasecmpLess (cStr lhs) (cStr rhs)

/-- `std::map<std::string, std::string, CaseInsensitiveLess>`. -/
abbrev MapType := List (Bytes × Bytes)

def MapType.find (m : MapType) (key : Bytes) : Option Nat :=
  OrderedSet.find (fun a b => caseInsensitiveLess a.1 b.1) (key, []) m

/-- `m[key] = val`: an equivalent key keeps its spelling. -/
def MapType.assign (m : MapType) (key val : Bytes) : MapType :=
  match m.find key with
  | some i => m.modify i fun entry => (entry.1, val)
  | none => (OrderedSet.insert (fun a b => caseInsensitiveLess a.1 b.1) (key, val) m).1

/-! ## Requests -/

/-- `HttpRequest`, without the lazily parsed parameters and cookies. -/
structure HttpRequest where
  method : HttpMethod
  version : UInt8
  close : Bool
  path : Bytes
  query : Bytes
  fragment : Bytes
  body : Bytes
  headers : MapType
  deriving DecidableEq

namespace HttpRequest

/-- The constructor with its default arguments. -/
def new : HttpRequest :=
  { method := .GET, version := 0x11, close := true, path := ascii "/", query := [],
    fragment := [], body := [], headers := [] }

def setHeader (r : HttpRequest) (key val : Bytes) : HttpRequest :=
  { r with headers := r.headers.assign key val }

/-- `getHeader(key)` with the empty default. -/
def getHeader (r : HttpRequest) (key : Bytes) : Bytes :=
  match r.headers.find key with
  | some i => (r.headers.getD i ([], [])).2
  | none => []

/-- `strcasecmp(a, b) == 0`. -/
def strcasecmpEq (a b : Bytes) : Bool := !caseInsensitiveLess a b && !caseInsensitiveLess b a

def init (r : HttpRequest) : HttpRequest :=
  let conn := r.getHeader (ascii "connection")
  if conn.isEmpty then r
  else { r with close := !strcasecmpEq conn (ascii "keep-alive") }

end HttpRequest

end Http

end HrServer
