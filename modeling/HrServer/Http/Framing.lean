/-
HrServer.Http.Framing — the header block that `dump` writes, as a reader
finds it.

A dump is a block of lines: the start line, the lines of the kept headers,
and the lines that `dump` adds. With texts that fit on a line the reader
finds exactly these (`fields_message`), so the fields that frame the
message can be counted. `dump` drops a header of the name `connection` and
none of the name `content-length`, which is what `framed_iff` comes to.
-/
import HrServer.Http.Dump
import HrServer.Http.Query
import HrServer.Lib.HeaderLines

namespace HrServer

open Lib HeaderLines

namespace Http

/-! ## Reading a message -/

/-- The fields of the header block, as name and value. -/
def fields (message : Bytes) : List (Bytes × Bytes) :=
  ((read message).drop 1).map fun line => (fieldName line, fieldValue line)

/-- Two names, ignoring case. -/
def sameName (a b : Bytes) : Bool := a.map toLower == b.map toLower

def connectionName : Bytes := ascii "connection"

def contentLengthName : Bytes := ascii "content-length"

/-- One `connection` field, at most one `content-length`, and for a body its size. -/
structure Framed (message body : Bytes) : Prop where
  connection : ((fields message).countP fun f => sameName f.1 connectionName) = 1
  once : ((fields message).countP fun f => sameName f.1 contentLengthName) ≤ 1
  length : body ≠ [] →
    ∃ f ∈ fields message, sameName f.1 contentLengthName = true ∧ f.2 = numeral 10 body.length

/-- No header has a name that reads as `connection` up to a colon, and the headers whose name
reads as `content-length` leave room for the one that `dump` writes for a body. -/
structure Unambiguous (headers : MapType) (body : Bytes) : Prop where
  connection : ∀ e ∈ headers, sameName (fieldName e.1) connectionName = true →
    sameName e.1 connectionName = true
  length : (headers.countP fun e => sameName (fieldName e.1) contentLengthName)
    + (if body = [] then 0 else 1) ≤ 1

/-! ## Messages by their entries -/

/-- A message: the start line, a line for each entry, and the body. -/
def message (start : Bytes) (entries : List (Bytes × Bytes)) (body : Bytes) : Bytes :=
  render (start :: entries.map fun e => fieldLine e.1 e.2) ++ body

/-- An entry whose key and value fit on a line. -/
def OneLineEntry (e : Bytes × Bytes) : Prop := OneLine e.1 ∧ OneLine e.2

theorem fields_message {start : Bytes} {entries : List (Bytes × Bytes)} (hstart : OneLine start)
    (hne : start ≠ []) (hentries : ∀ e ∈ entries, OneLineEntry e) (body : Bytes) :
    fields (message start entries body)
      = entries.map fun e => (fieldName e.1, fieldValue (fieldLine e.1 e.2)) := by
  have hlines : ∀ line ∈ start :: entries.map (fun e => fieldLine e.1 e.2),
      OneLine line ∧ line ≠ [] := by
    intro line hline
    rcases List.mem_cons.mp hline with rfl | hline
    · exact ⟨hstart, hne⟩
    · obtain ⟨e, he, rfl⟩ := List.mem_map.mp hline
      exact ⟨oneLine_fieldLine (hentries e he).1 (hentries e he).2, fieldLine_ne_nil _ _⟩
  rw [fields, message, read_render hlines]
  simp [Function.comp_def, fieldName_fieldLine]

/-- The lines of the kept headers. -/
def keptHeaders (headers : MapType) : MapType :=
  headers.filter fun e => !HttpRequest.strcasecmpEq e.1 (ascii "connection")

/-- The line of the body. -/
def ownLength (body : Bytes) : List (Bytes × Bytes) :=
  if body = [] then [] else [(contentLengthName, numeral 10 body.length)]

theorem connectionText_eq (close : Bool) : connectionText false close
    = fieldLine connectionName (if close then ascii "close" else ascii "keep-alive") ++ crlf := by
  cases close <;> rfl

theorem headersText_eq (headers : MapType) : headersText false headers
    = (keptHeaders headers).flatMap fun e => fieldLine e.1 e.2 ++ crlf := by
  induction headers with
  | nil => rfl
  | cons e headers ih =>
    rw [headersText, keptHeaders] at *
    rw [List.flatMap_cons, ih, List.filter_cons]
    cases h : HttpRequest.strcasecmpEq e.1 (ascii "connection") with
    | true => simp
    | false =>
      simp [fieldLine, crlf]
      rfl

theorem bodyText_eq (body : Bytes) : bodyText body
    = ((ownLength body).flatMap fun e => fieldLine e.1 e.2 ++ crlf) ++ crlf ++ body := by
  cases body with
  | nil => rfl
  | cons c body =>
    simp only [bodyText, ownLength, List.isEmpty_cons, reduceCtorEq, if_false, List.flatMap_cons,
      List.flatMap_nil, List.append_nil, fieldLine, Bool.false_eq_true, List.append_assoc]
    rfl

theorem message_eq (start : Bytes) (entries : List (Bytes × Bytes)) (body : Bytes) :
    message start entries body
      = start ++ crlf ++ (entries.flatMap fun e => fieldLine e.1 e.2 ++ crlf) ++ crlf ++ body := by
  simp [message, render, crlf, List.flatMap_map]

/-- The entries of a request, behind its start line. -/
def DumpRequest.entries (r : DumpRequest) : List (Bytes × Bytes) :=
  (connectionName, if r.close then ascii "close" else ascii "keep-alive")
    :: (keptHeaders r.headers ++ ownLength r.body)

theorem DumpRequest.dump_eq {r : DumpRequest} (hws : r.websocket = false) :
    r.dump = message r.startLine r.entries r.body := by
  simp only [dump, entries, message_eq, hws, connectionText_eq, headersText_eq, bodyText_eq,
    List.flatMap_cons, List.flatMap_append, List.append_assoc]

def setCookieName : Bytes := ascii "Set-Cookie"

/-- The entries of a response, behind its start line. -/
def HttpResponse.entries (r : HttpResponse) : List (Bytes × Bytes) :=
  keptHeaders r.headers ++ (r.cookies.map fun i => (setCookieName, i))
    ++ (connectionName, if r.close then ascii "close" else ascii "keep-alive") :: ownLength r.body

theorem HttpResponse.dump_eq {r : HttpResponse} (hws : r.websocket = false) :
    r.dump = message r.startLine r.entries r.body := by
  simp only [dump, entries, message_eq, hws, connectionText_eq, headersText_eq, bodyText_eq,
    List.flatMap_cons, List.flatMap_append, List.append_assoc, List.flatMap_map, fieldLine]
  rfl

/-! ## The names -/

@[simp] theorem connection_is_connection :
    sameName (fieldName connectionName) connectionName = true := by
  decide

@[simp] theorem contentLength_is_contentLength :
    sameName (fieldName contentLengthName) contentLengthName = true := by
  decide

@[simp] theorem connection_ne_contentLength :
    sameName (fieldName connectionName) contentLengthName = false := by
  decide

@[simp] theorem contentLength_ne_connection :
    sameName (fieldName contentLengthName) connectionName = false := by
  decide

@[simp] theorem setCookie_ne_connection :
    sameName (fieldName setCookieName) connectionName = false := by
  decide

@[simp] theorem setCookie_ne_contentLength :
    sameName (fieldName setCookieName) contentLengthName = false := by
  decide

/-- The names of the lines that `dump` writes by itself fit on a line. -/
theorem oneLine_names :
    OneLine connectionName ∧ OneLine contentLengthName ∧ OneLine setCookieName := by
  decide

/-! ## Counting the fields -/

/-- A text without CR, LF and zero bytes. -/
def Clean (text : Bytes) : Prop := OneLine text ∧ 0 ∉ text

instance (text : Bytes) : Decidable (Clean text) :=
  inferInstanceAs (Decidable (OneLine text ∧ 0 ∉ text))

/-- A header whose name and value are clean. -/
def CleanEntry (e : Bytes × Bytes) : Prop := Clean e.1 ∧ Clean e.2

theorem strcasecmpEq_clean {key : Bytes} (h : Clean key) :
    HttpRequest.strcasecmpEq key (ascii "connection") = sameName key connectionName := by
  rw [Bool.eq_iff_iff, strcasecmpEq_iff, cStr_of_not_mem h.2,
    cStr_of_not_mem (s := ascii "connection") (by decide)]
  simp [sameName, connectionName]

theorem countP_kept_connection {headers : MapType} (h : ∀ e ∈ headers, CleanEntry e) :
    (keptHeaders headers).countP (fun e => sameName (fieldName e.1) connectionName) = 0 ↔
      ∀ e ∈ headers, sameName (fieldName e.1) connectionName = true →
        sameName e.1 connectionName = true := by
  rw [keptHeaders, List.countP_filter, List.countP_eq_zero]
  refine forall₂_congr fun e he => ?_
  rw [strcasecmpEq_clean (h e he).1]
  cases sameName (fieldName e.1) connectionName <;> cases sameName e.1 connectionName <;> simp

/-- A name without a colon that is `connection` is not `content-length`. -/
theorem not_contentLength_of_connection {key : Bytes}
    (h : sameName key connectionName = true) :
    sameName (fieldName key) contentLengthName = false := by
  have hlower : key.map toLower = connectionName := by
    have hname : connectionName.map toLower = connectionName := by decide
    rw [sameName, beq_iff_eq, hname] at h
    exact h
  have hcolon : 58 ∉ key := by
    intro hmem
    have hmap := List.mem_map_of_mem (f := toLower) hmem
    rw [hlower] at hmap
    exact absurd hmap (by decide)
  rw [fieldName_of_not_mem hcolon, sameName, hlower]
  decide

theorem countP_kept_contentLength {headers : MapType} (h : ∀ e ∈ headers, CleanEntry e) :
    (keptHeaders headers).countP (fun e => sameName (fieldName e.1) contentLengthName)
      = headers.countP fun e => sameName (fieldName e.1) contentLengthName := by
  rw [keptHeaders, List.countP_filter]
  refine List.countP_congr fun e he => ?_
  rw [strcasecmpEq_clean (h e he).1]
  cases hconn : sameName e.1 connectionName with
  | false => simp
  | true => simp [not_contentLength_of_connection hconn]

/-- The entries of a message, in any order: the `connection` line, the kept headers, the
cookies and the line of the body. -/
def Entries (value : Bytes) (headers : MapType) (cookies : List Bytes) (body : Bytes) :
    List (Bytes × Bytes) :=
  (connectionName, value)
    :: (keptHeaders headers ++ (cookies.map (fun i => (setCookieName, i)) ++ ownLength body))

theorem countP_cookies {name : Bytes} (hname : sameName (fieldName setCookieName) name = false)
    (cookies : List Bytes) : (cookies.map fun i => (setCookieName, i)).countP
      (fun e => sameName (fieldName e.1) name) = 0 := by
  simp [List.countP_map, Function.comp_def, hname]

/-- Of the names that are not those of the cookies, `dump` adds its own two. -/
theorem countP_entries {name : Bytes} (hname : sameName (fieldName setCookieName) name = false)
    (value : Bytes) (headers : MapType) (cookies : List Bytes) (body : Bytes) :
    (Entries value headers cookies body).countP (fun e => sameName (fieldName e.1) name)
      = ((keptHeaders headers).countP fun e => sameName (fieldName e.1) name)
        + (if body ≠ [] ∧ sameName (fieldName contentLengthName) name = true then 1 else 0)
        + if sameName (fieldName connectionName) name = true then 1 else 0 := by
  have hown : (ownLength body).countP (fun e => sameName (fieldName e.1) name)
      = if body ≠ [] ∧ sameName (fieldName contentLengthName) name = true then 1 else 0 := by
    by_cases hbody : body = []
    · simp [ownLength, hbody]
    · simp [ownLength, hbody, List.countP_cons]
  rw [Entries, List.countP_cons, List.countP_append, List.countP_append, hown,
    countP_cookies hname, Nat.zero_add]

theorem countP_connection (value : Bytes) (headers : MapType) (cookies : List Bytes)
    (body : Bytes) :
    (Entries value headers cookies body).countP (fun e => sameName (fieldName e.1) connectionName)
      = ((keptHeaders headers).countP fun e => sameName (fieldName e.1) connectionName) + 1 := by
  simp [countP_entries setCookie_ne_connection]

theorem countP_contentLength (value : Bytes) (headers : MapType) (cookies : List Bytes)
    (body : Bytes) :
    (Entries value headers cookies body).countP
        (fun e => sameName (fieldName e.1) contentLengthName)
      = ((keptHeaders headers).countP fun e => sameName (fieldName e.1) contentLengthName)
        + if body = [] then 0 else 1 := by
  simp [countP_entries setCookie_ne_contentLength]

/-- A numeral has none of the characters that end a line or are skipped in front of a value. -/
theorem not_blank_of_mem_numeral {n : Nat} {c : UInt8} (h : c ∈ numeral 10 n) :
    c ≠ 13 ∧ c ≠ 10 ∧ c ≠ 32 := by
  have hdigit : ∀ d < 10, digitChar d ≠ 13 ∧ digitChar d ≠ 10 ∧ digitChar d ≠ 32 := by decide
  obtain ⟨d, hd, rfl⟩ := mem_numeral (by decide) h
  exact hdigit d hd

theorem oneLine_numeral (n : Nat) : OneLine (numeral 10 n) :=
  ⟨fun h => (not_blank_of_mem_numeral h).1 rfl, fun h => (not_blank_of_mem_numeral h).2.1 rfl⟩

theorem oneLine_entries {value body : Bytes} {headers : MapType} {cookies : List Bytes}
    (hheaders : ∀ e ∈ headers, CleanEntry e) (hcookies : ∀ i ∈ cookies, OneLine i)
    (hvalue : OneLine value) : ∀ e ∈ Entries value headers cookies body, OneLineEntry e := by
  intro e he
  simp only [Entries, List.mem_cons, List.mem_append, List.mem_map] at he
  rcases he with rfl | he | ⟨i, hi, rfl⟩ | he
  · exact ⟨oneLine_names.1, hvalue⟩
  · have hmem := hheaders e (List.mem_of_mem_filter he)
    exact ⟨hmem.1.1, hmem.2.1⟩
  · exact ⟨oneLine_names.2.2, hcookies i hi⟩
  · unfold ownLength at he
    split at he
    · cases he
    · rw [List.mem_singleton] at he
      subst he
      exact ⟨oneLine_names.2.1, oneLine_numeral _⟩

/-- The line that `dump` writes for a body. -/
theorem ownLength_field {body : Bytes} (hbody : body ≠ []) :
    ∃ e ∈ ownLength body, sameName (fieldName e.1) contentLengthName = true
      ∧ fieldValue (fieldLine e.1 e.2) = numeral 10 body.length := by
  refine ⟨(contentLengthName, numeral 10 body.length), by simp [ownLength, hbody], by simp, ?_⟩
  have hcolon : (58 : UInt8) ∉ contentLengthName := by decide
  refine fieldValue_fieldLine hcolon fun hhead => ?_
  exact (not_blank_of_mem_numeral (List.mem_of_head? hhead)).2.2 rfl

/-- The message is framed unless the headers make it ambiguous. -/
theorem framed_message_iff {start value body : Bytes} {entries : List (Bytes × Bytes)}
    {headers : MapType} {cookies : List Bytes} (hstart : OneLine start) (hne : start ≠ [])
    (hheaders : ∀ e ∈ headers, CleanEntry e) (hcookies : ∀ i ∈ cookies, OneLine i)
    (hvalue : OneLine value) (hperm : entries.Perm (Entries value headers cookies body)) :
    Framed (message start entries body) body ↔ Unambiguous headers body := by
  have hfields := fields_message hstart hne
    (fun e he => oneLine_entries hheaders hcookies hvalue e (hperm.subset he)) body
  have hcount (name : Bytes) :
      ((fields (message start entries body)).countP fun f => sameName f.1 name)
        = (Entries value headers cookies body).countP fun e => sameName (fieldName e.1) name := by
    rw [hfields, List.countP_map, ← hperm.countP_eq]
    rfl
  have hconn := (hcount connectionName).trans (countP_connection value headers cookies body)
  have hlen := (hcount contentLengthName).trans (countP_contentLength value headers cookies body)
  rw [countP_kept_contentLength hheaders] at hlen
  constructor
  · intro h
    have h1 := h.connection
    have h2 := h.once
    exact ⟨(countP_kept_connection hheaders).mp (by omega), by omega⟩
  · intro h
    have hzero := (countP_kept_connection hheaders).mpr h.connection
    have h2 := h.length
    refine ⟨by omega, by omega, fun hbody => ?_⟩
    obtain ⟨e, he, hname, hval⟩ := ownLength_field hbody
    rw [hfields]
    exact ⟨_, List.mem_map_of_mem (hperm.symm.subset (by simp [Entries, he])), hname, hval⟩

/-! ## Clean messages -/

theorem DumpRequest.entries_perm (r : DumpRequest) : r.entries.Perm
    (Entries (if r.close then ascii "close" else ascii "keep-alive") r.headers [] r.body) := by
  rw [entries, Entries, List.map_nil, List.nil_append]

theorem HttpResponse.entries_perm (r : HttpResponse) : r.entries.Perm
    (Entries (if r.close then ascii "close" else ascii "keep-alive") r.headers r.cookies
      r.body) := by
  rw [entries, Entries, ← List.append_assoc]
  exact List.perm_middle

theorem clean_assign {m : MapType} (h : ∀ e ∈ m, CleanEntry e) {key val : Bytes}
    (hkey : Clean key) (hval : Clean val) : ∀ e ∈ m.assign key val, CleanEntry e := by
  unfold MapType.assign
  split
  · next i _ =>
    intro e he
    obtain ⟨n, hn⟩ := List.mem_iff_getElem?.mp he
    rw [List.getElem?_modify] at hn
    obtain ⟨e', he', rfl⟩ := Option.map_eq_some_iff.mp hn
    have hmem := h e' (List.mem_of_getElem? he')
    by_cases hi : i = n
    · rw [if_pos hi]
      exact ⟨hmem.1, hval⟩
    · rw [if_neg hi]
      exact hmem
  · unfold OrderedSet.insert
    split
    · exact h
    · intro e he
      rcases List.mem_append.mp he with he | he
      · exact h e (List.mem_of_mem_take he)
      · rcases List.mem_cons.mp he with rfl | he
        · exact ⟨hkey, hval⟩
        · exact h e (List.mem_of_mem_drop he)

theorem clean_erase {m : MapType} (h : ∀ e ∈ m, CleanEntry e) (key : Bytes) :
    ∀ e ∈ m.erase key, CleanEntry e := by
  unfold MapType.erase
  split
  · exact fun e he => h e (List.mem_of_mem_eraseIdx he)
  · exact h

theorem oneLine_versionText (version : UInt8) : OneLine (versionText version) :=
  ((oneLine_numeral _).append (by decide)).append (oneLine_numeral _)

theorem versionText_ne_nil (version : UInt8) : versionText version ≠ [] :=
  List.append_ne_nil_of_right_ne_nil _ numeral_ne_nil

theorem oneLine_httpMethodToString (m : HttpMethod) : OneLine (httpMethodToString m) := by
  unfold httpMethodToString
  split
  · next entry h =>
    have hall : ∀ e ∈ httpMethodMap, 13 ∉ e.2 ∧ 10 ∉ e.2 := by decide
    exact hall entry (List.mem_of_find?_eq_some h)
  · decide

theorem oneLine_httpStatusToString (s : HttpStatus) : OneLine (httpStatusToString s) := by
  unfold httpStatusToString
  split
  · next entry h =>
    have hall : ∀ e ∈ httpStatusMap, 13 ∉ e.2 ∧ 10 ∉ e.2 := by decide +kernel
    exact hall entry (List.mem_of_find?_eq_some h)
  · decide

namespace DumpRequest

/-- The texts of a request fit on their lines. -/
structure Clean (r : DumpRequest) : Prop where
  websocket : r.websocket = false
  path : OneLine r.path
  query : OneLine r.query
  fragment : OneLine r.fragment
  headers : ∀ e ∈ r.headers, CleanEntry e

theorem clean_new (version : UInt8) (close : Bool) : (new version close).Clean where
  websocket := rfl
  path := show OneLine (ascii "/") by decide
  query := show OneLine [] by decide
  fragment := show OneLine [] by decide
  headers := by simp [new, HttpRequest.new]

theorem Clean.oneLine_startLine {r : DumpRequest} (h : r.Clean) : OneLine r.startLine := by
  have hmark (text mark : Bytes) (hm : OneLine mark) :
      OneLine (if text.isEmpty then [] else mark) := by
    split
    · decide
    · exact hm
  exact ((((((((oneLine_httpMethodToString _).append (by decide)).append h.path).append
    (hmark _ _ (by decide))).append h.query).append (hmark _ _ (by decide))).append
    h.fragment).append (by decide)).append (oneLine_versionText _)

theorem startLine_ne_nil (r : DumpRequest) : r.startLine ≠ [] :=
  List.append_ne_nil_of_right_ne_nil _ (versionText_ne_nil r.version)

/-- The dump of a clean request is framed unless its headers make it ambiguous. -/
theorem Clean.framed_iff {r : DumpRequest} (h : r.Clean) :
    Framed r.dump r.body ↔ Unambiguous r.headers r.body := by
  rw [dump_eq h.websocket]
  refine framed_message_iff h.oneLine_startLine r.startLine_ne_nil h.headers (by simp) ?_
    r.entries_perm
  split <;> decide

end DumpRequest

/-- The names and values in a call are clean. -/
def RequestCall.Clean : RequestCall → Prop
  | .setHeader key val => Http.Clean key ∧ Http.Clean val
  | .delHeader key => Http.Clean key
  | .setBody _ => True
  | .setClose _ => True

instance : (c : RequestCall) → Decidable c.Clean
  | .setHeader key val => inferInstanceAs (Decidable (Http.Clean key ∧ Http.Clean val))
  | .delHeader key => inferInstanceAs (Decidable (Http.Clean key))
  | .setBody _ => inferInstanceAs (Decidable True)
  | .setClose _ => inferInstanceAs (Decidable True)

namespace DumpRequest

theorem Clean.call {r : DumpRequest} (h : r.Clean) {c : RequestCall} (hc : c.Clean) :
    (r.call c).Clean := by
  cases c with
  | setHeader key val =>
    exact ⟨h.websocket, h.path, h.query, h.fragment, clean_assign h.headers hc.1 hc.2⟩
  | delHeader key =>
    exact ⟨h.websocket, h.path, h.query, h.fragment, clean_erase h.headers key⟩
  | setBody v => exact ⟨h.websocket, h.path, h.query, h.fragment, h.headers⟩
  | setClose v => exact ⟨h.websocket, h.path, h.query, h.fragment, h.headers⟩

theorem Clean.calls {r : DumpRequest} (h : r.Clean) {cs : List RequestCall}
    (hcs : ∀ c ∈ cs, c.Clean) : (cs.foldl DumpRequest.call r).Clean := by
  induction cs generalizing r with
  | nil => exact h
  | cons c cs ih => exact ih (h.call (hcs c (by simp))) fun c' hc' => hcs c' (by simp [hc'])

end DumpRequest

namespace HttpResponse

/-- The texts of a response fit on their lines. -/
structure Clean (r : HttpResponse) : Prop where
  websocket : r.websocket = false
  reason : OneLine r.reason
  headers : ∀ e ∈ r.headers, CleanEntry e
  cookies : ∀ i ∈ r.cookies, OneLine i

theorem clean_new (version : UInt8) (close : Bool) : (new version close).Clean where
  websocket := rfl
  reason := show OneLine [] by decide
  headers := by simp [new]
  cookies := by simp [new]

theorem Clean.oneLine_startLine {r : HttpResponse} (h : r.Clean) : OneLine r.startLine := by
  have hreason : OneLine (if r.reason.isEmpty then httpStatusToString r.status else r.reason) := by
    split
    · exact oneLine_httpStatusToString _
    · exact h.reason
  have hhttp : OneLine (ascii "HTTP/") := by decide
  exact ((((hhttp.append (oneLine_versionText _)).append (by decide)).append
    (oneLine_numeral _)).append (by decide)).append hreason

theorem startLine_ne_nil (r : HttpResponse) : r.startLine ≠ [] := by
  have hhttp : ascii "HTTP/" ≠ [] := by decide
  simp [startLine, hhttp]

/-- The dump of a clean response is framed unless its headers make it ambiguous. -/
theorem Clean.framed_iff {r : HttpResponse} (h : r.Clean) :
    Framed r.dump r.body ↔ Unambiguous r.headers r.body := by
  rw [dump_eq h.websocket]
  refine framed_message_iff h.oneLine_startLine r.startLine_ne_nil h.headers h.cookies ?_
    r.entries_perm
  split <;> decide

end HttpResponse

/-- The names and values in a call are clean. -/
def ResponseCall.Clean : ResponseCall → Prop
  | .setHeader key val => Http.Clean key ∧ Http.Clean val
  | .delHeader key => Http.Clean key
  | .setBody _ => True
  | .setClose _ => True
  | .setCookie key val _ path domain _ =>
    Http.Clean key ∧ Http.Clean val ∧ Http.Clean path ∧ Http.Clean domain

namespace HttpResponse

variable {time2Str : Int → Bytes}

theorem oneLine_cookieText (htime : ∀ t, OneLine (time2Str t)) {key val path domain : Bytes}
    (hkey : OneLine key) (hval : OneLine val) (hpath : OneLine path) (hdomain : OneLine domain)
    (expired : Int) (secure : Bool) :
    OneLine (cookieText time2Str key val expired path domain secure) := by
  have hopt (p : Prop) [Decidable p] {a b : Bytes} (ha : OneLine a) (hb : OneLine b) :
      OneLine (if p then a else b) := by
    split
    · exact ha
    · exact hb
  have hnil : OneLine [] := by decide
  have hexpires : OneLine (ascii ";expires=" ++ time2Str expired ++ ascii " GMT") :=
    (OneLine.append (by decide) (htime expired)).append (by decide)
  exact ((((((hkey.append (by decide)).append hval).append (hopt _ hexpires hnil)).append
    (hopt _ hnil (OneLine.append (by decide) hdomain))).append
    (hopt _ hnil (OneLine.append (by decide) hpath))).append (hopt _ (by decide) hnil))

theorem Clean.call (htime : ∀ t, OneLine (time2Str t)) {r : HttpResponse} (h : r.Clean)
    {c : ResponseCall} (hc : c.Clean) : (r.call time2Str c).Clean := by
  cases c with
  | setHeader key val =>
    exact ⟨h.websocket, h.reason, clean_assign h.headers hc.1 hc.2, h.cookies⟩
  | delHeader key => exact ⟨h.websocket, h.reason, clean_erase h.headers key, h.cookies⟩
  | setBody v => exact ⟨h.websocket, h.reason, h.headers, h.cookies⟩
  | setClose v => exact ⟨h.websocket, h.reason, h.headers, h.cookies⟩
  | setCookie key val expired path domain secure =>
    obtain ⟨hkey, hval, hpath, hdomain⟩ := hc
    refine ⟨h.websocket, h.reason, h.headers, fun i hi => ?_⟩
    rcases List.mem_append.mp hi with hi | hi
    · exact h.cookies i hi
    · rw [List.mem_singleton] at hi
      subst hi
      exact oneLine_cookieText htime hkey.1 hval.1 hpath.1 hdomain.1 expired secure

theorem Clean.calls (htime : ∀ t, OneLine (time2Str t)) {r : HttpResponse} (h : r.Clean)
    {cs : List ResponseCall} (hcs : ∀ c ∈ cs, c.Clean) :
    (cs.foldl (HttpResponse.call time2Str) r).Clean := by
  induction cs generalizing r with
  | nil => exact h
  | cons c cs ih =>
    exact ih (h.call htime (hcs c (by simp))) fun c' hc' => hcs c' (by simp [hc'])

end HttpResponse

/-! ## Runs -/

/-- After any calls with clean texts, the dump of a request and that of a response are framed
unless the headers make the message ambiguous. -/
theorem dump_framed_iff {time2Str : Int → Bytes} (htime : ∀ t, OneLine (time2Str t))
    {r : DumpRequest} (hr : r.Clean) {rcalls : List RequestCall} (hrcalls : ∀ c ∈ rcalls, c.Clean)
    {s : HttpResponse} (hs : s.Clean) {scalls : List ResponseCall}
    (hscalls : ∀ c ∈ scalls, c.Clean) :
    (Framed (rcalls.foldl DumpRequest.call r).dump (rcalls.foldl DumpRequest.call r).body ↔
      Unambiguous (rcalls.foldl DumpRequest.call r).headers
        (rcalls.foldl DumpRequest.call r).body) ∧
    (Framed (scalls.foldl (HttpResponse.call time2Str) s).dump
        (scalls.foldl (HttpResponse.call time2Str) s).body ↔
      Unambiguous (scalls.foldl (HttpResponse.call time2Str) s).headers
        (scalls.foldl (HttpResponse.call time2Str) s).body) :=
  ⟨(hr.calls hrcalls).framed_iff, (hs.calls htime hscalls).framed_iff⟩

/-- A body is set behind the length it came with. -/
def echoCalls : List RequestCall :=
  [.setHeader (ascii "Content-Length") (ascii "3"), .setBody (ascii "abc")]

/-- A response with a cookie that expires a second into 1970. -/
def cookieCalls : List ResponseCall :=
  [.setCookie (ascii "id") (ascii "7") 1 (ascii "/") [] false, .setBody (ascii "abc")]

/-- A request with a body, and the response with a cookie. -/
theorem dump_framed_iff_cookie :
    Framed ([.setBody (ascii "abc")].foldl DumpRequest.call (.new 0x11 true)).dump (ascii "abc") ∧
    Framed (cookieCalls.foldl (HttpResponse.call fun _ => ascii "Thu, 01 Jan 1970 00:00:01")
        (.new 0x11 true)).dump (ascii "abc") := by
  have hplain : Unambiguous [] (ascii "abc") := ⟨nofun, by decide⟩
  have hiff := @dump_framed_iff (fun _ => ascii "Thu, 01 Jan 1970 00:00:01") (fun _ => by decide)
    (.new 0x11 true) (DumpRequest.clean_new 0x11 true) [.setBody (ascii "abc")] (by decide)
    (.new 0x11 true) (HttpResponse.clean_new 0x11 true) cookieCalls
    (by simp [cookieCalls, ResponseCall.Clean]; decide)
  exact ⟨hiff.1.mpr hplain, hiff.2.mpr hplain⟩

/-- The echo has two lengths. -/
theorem echo_not_framed :
    ¬ Framed (echoCalls.foldl DumpRequest.call (.new 0x11 true)).dump
      (echoCalls.foldl DumpRequest.call (.new 0x11 true)).body := by
  intro h
  have hclean : (echoCalls.foldl DumpRequest.call (.new 0x11 true)).Clean :=
    (DumpRequest.clean_new 0x11 true).calls (by decide)
  exact absurd (hclean.framed_iff.mp h).length (by decide)

end Http

end HrServer
