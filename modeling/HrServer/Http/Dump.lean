/-
HrServer.Http.Dump — `HttpRequest::dump` and `HttpResponse::dump` of
`sylar/http/http.cc`, with the calls that change what they write.

Both write the header map without a `connection` entry, a `connection` line
of their own, and behind the map a `content-length` line when there is a
body. `time2Str` stands for `hr::Time2Str` with the format of a cookie.
-/
import HrServer.Http.Params
import HrServer.Lib.Digits

namespace HrServer

open Lib

namespace Http

/-! ## Names and numbers -/

/-- `HttpMethodToString`. -/
def httpMethodToString (m : HttpMethod) : Bytes :=
  match httpMethodMap.find? fun entry => entry.1 == m with
  | some entry => entry.2
  | none => ascii "<unknown>"

/-- `HttpStatus`: the value of an enumerator, or the `int` that was cast to one. -/
structure HttpStatus where
  value : Int32
  deriving DecidableEq

/-- `HttpStatus::OK`. -/
def HttpStatus.OK : HttpStatus := ⟨200⟩

/-- `HTTP_STATUS_MAP`: the value and the text of each enumerator. -/
def httpStatusMap : List (Int32 × Bytes) :=
  [(100, ascii "Continue"), (101, ascii "Switching Protocols"), (102, ascii "Processing"),
   (200, ascii "OK"), (201, ascii "Created"), (202, ascii "Accepted"),
   (203, ascii "Non-Authoritative Information"), (204, ascii "No Content"),
   (205, ascii "Reset Content"), (206, ascii "Partial Content"), (207, ascii "Multi-Status"),
   (208, ascii "Already Reported"), (226, ascii "IM Used"), (300, ascii "Multiple Choices"),
   (301, ascii "Moved Permanently"), (302, ascii "Found"), (303, ascii "See Other"),
   (304, ascii "Not Modified"), (305, ascii "Use Proxy"), (307, ascii "Temporary Redirect"),
   (308, ascii "Permanent Redirect"), (400, ascii "Bad Request"), (401, ascii "Unauthorized"),
   (402, ascii "Payment Required"), (403, ascii "Forbidden"), (404, ascii "Not Found"),
   (405, ascii "Method Not Allowed"), (406, ascii "Not Acceptable"),
   (407, ascii "Proxy Authentication Required"), (408, ascii "Request Timeout"),
   (409, ascii "Conflict"), (410, ascii "Gone"), (411, ascii "Length Required"),
   (412, ascii "Precondition Failed"), (413, ascii "Payload Too Large"),
   (414, ascii "URI Too Long"), (415, ascii "Unsupported Media Type"),
   (416, ascii "Range Not Satisfiable"), (417, ascii "Expectation Failed"),
   (421, ascii "Misdirected Request"), (422, ascii "Unprocessable Entity"), (423, ascii "Locked"),
   (424, ascii "Failed Dependency"), (426, ascii "Upgrade Required"),
   (428, ascii "Precondition Required"), (429, ascii "Too Many Requests"),
   (431, ascii "Request Header Fields Too Large"), (451, ascii "Unavailable For Legal Reasons"),
   (500, ascii "Internal Server Error"), (501, ascii "Not Implemented"),
   (502, ascii "Bad Gateway"), (503, ascii "Service Unavailable"), (504, ascii "Gateway Timeout"),
   (505, ascii "HTTP Version Not Supported"), (506, ascii "Variant Also Negotiates"),
   (507, ascii "Insufficient Storage"), (508, ascii "Loop Detected"), (510, ascii "Not Extended"),
   (511, ascii "Network Authentication Required")]

/-- `HttpStatusToString`. -/
def httpStatusToString (s : HttpStatus) : Bytes :=
  match httpStatusMap.find? fun entry => entry.1 == s.value with
  | some entry => entry.2
  | none => ascii "<unknown>"

/-- `(m_version >> 4) . (m_version & 0x0F)`. -/
def versionText (version : UInt8) : Bytes :=
  numeral 10 (version >>> 4).toNat ++ ascii "." ++ numeral 10 (version &&& 0x0F).toNat

def crlf : Bytes := [13, 10]

/-! ## The parts of a dump -/

/-- The `connection` line. -/
def connectionText (websocket close : Bool) : Bytes :=
  if websocket then []
  else ascii "connection: " ++ (if close then ascii "close" else ascii "keep-alive") ++ crlf

/-- The loop over `m_headers`, which leaves out the `connection` entry. -/
def headersText (websocket : Bool) (headers : MapType) : Bytes :=
  headers.flatMap fun i =>
    if !websocket && HttpRequest.strcasecmpEq i.1 (ascii "connection") then []
    else i.1 ++ ascii ": " ++ i.2 ++ crlf

/-- The end of the header block and the body. -/
def bodyText (body : Bytes) : Bytes :=
  if body.isEmpty then crlf
  else ascii "content-length: " ++ numeral 10 body.length ++ crlf ++ crlf ++ body

/-! ## Requests -/

/-- `HttpRequest` with `m_websocket`. -/
structure DumpRequest extends HttpRequest where
  websocket : Bool
  deriving DecidableEq

namespace DumpRequest

/-- The constructor. -/
def new (version : UInt8) (close : Bool) : DumpRequest :=
  { toHttpRequest := { HttpRequest.new with version := version, close := close }
    websocket := false }

def setHeader (r : DumpRequest) (key val : Bytes) : DumpRequest :=
  { r with headers := r.headers.assign key val }

def delHeader (r : DumpRequest) (key : Bytes) : DumpRequest :=
  { r with headers := r.headers.erase key }

def setBody (r : DumpRequest) (v : Bytes) : DumpRequest := { r with body := v }

def setClose (r : DumpRequest) (v : Bool) : DumpRequest := { r with close := v }

/-- The first line. -/
def startLine (r : DumpRequest) : Bytes :=
  httpMethodToString r.method ++ ascii " " ++ r.path ++ (if r.query.isEmpty then [] else ascii "?")
    ++ r.query ++ (if r.fragment.isEmpty then [] else ascii "#") ++ r.fragment ++ ascii " HTTP/"
    ++ versionText r.version

def dump (r : DumpRequest) : Bytes :=
  r.startLine ++ crlf ++ connectionText r.websocket r.close ++ headersText r.websocket r.headers
    ++ bodyText r.body

end DumpRequest

/-- The calls on a request. -/
inductive RequestCall where
  | setHeader (key val : Bytes)
  | delHeader (key : Bytes)
  | setBody (v : Bytes)
  | setClose (v : Bool)

def DumpRequest.call (r : DumpRequest) : RequestCall → DumpRequest
  | .setHeader key val => r.setHeader key val
  | .delHeader key => r.delHeader key
  | .setBody v => r.setBody v
  | .setClose v => r.setClose v

/-! ## Responses -/

/-- The data members of `HttpResponse`. -/
structure HttpResponse where
  status : HttpStatus
  version : UInt8
  close : Bool
  websocket : Bool
  body : Bytes
  reason : Bytes
  headers : MapType
  cookies : List Bytes
  deriving DecidableEq

namespace HttpResponse

/-- The constructor. -/
def new (version : UInt8) (close : Bool) : HttpResponse :=
  { status := .OK, version := version, close := close, websocket := false, body := [],
    reason := [], headers := [], cookies := [] }

def setHeader (r : HttpResponse) (key val : Bytes) : HttpResponse :=
  { r with headers := r.headers.assign key val }

def delHeader (r : HttpResponse) (key : Bytes) : HttpResponse :=
  { r with headers := r.headers.erase key }

def setBody (r : HttpResponse) (v : Bytes) : HttpResponse := { r with body := v }

def setClose (r : HttpResponse) (v : Bool) : HttpResponse := { r with close := v }

/-- The text that `setCookie` appends. -/
def cookieText (time2Str : Int → Bytes) (key val : Bytes) (expired : Int) (path domain : Bytes)
    (secure : Bool) : Bytes :=
  key ++ ascii "=" ++ val
    ++ (if expired > 0 then ascii ";expires=" ++ time2Str expired ++ ascii " GMT" else [])
    ++ (if domain.isEmpty then [] else ascii ";domain=" ++ domain)
    ++ (if path.isEmpty then [] else ascii ";path=" ++ path)
    ++ (if secure then ascii ";secure" else [])

def setCookie (time2Str : Int → Bytes) (r : HttpResponse) (key val : Bytes) (expired : Int)
    (path domain : Bytes) (secure : Bool) : HttpResponse :=
  { r with cookies := r.cookies ++ [cookieText time2Str key val expired path domain secure] }

/-- The first line. -/
def startLine (r : HttpResponse) : Bytes :=
  ascii "HTTP/" ++ versionText r.version ++ ascii " "
    ++ numeral 10 r.status.value.toUInt32.toNat ++ ascii " "
    ++ (if r.reason.isEmpty then httpStatusToString r.status else r.reason)

def dump (r : HttpResponse) : Bytes :=
  r.startLine ++ crlf ++ headersText r.websocket r.headers
    ++ r.cookies.flatMap (fun i => ascii "Set-Cookie: " ++ i ++ crlf)
    ++ connectionText r.websocket r.close ++ bodyText r.body

end HttpResponse

/-- The calls on a response. -/
inductive ResponseCall where
  | setHeader (key val : Bytes)
  | delHeader (key : Bytes)
  | setBody (v : Bytes)
  | setClose (v : Bool)
  | setCookie (key val : Bytes) (expired : Int) (path domain : Bytes) (secure : Bool)

def HttpResponse.call (time2Str : Int → Bytes) (r : HttpResponse) : ResponseCall → HttpResponse
  | .setHeader key val => r.setHeader key val
  | .delHeader key => r.delHeader key
  | .setBody v => r.setBody v
  | .setClose v => r.setClose v
  | .setCookie key val expired path domain secure =>
    r.setCookie time2Str key val expired path domain secure

end Http

end HrServer
