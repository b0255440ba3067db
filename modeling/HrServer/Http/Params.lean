/-
HrServer.Http.Params — parameters and cookies of `HttpRequest`, from
`sylar/http/http.h` and `http.cc`.

Query, form body and cookie header are parsed at the first `getParam`,
`hasParam`, `getCookie` or `hasCookie`; a bit of `m_parserParamFlag` says
which of them have been. Parsing inserts into a map that may have been
edited before. `CaseInsensitiveLess` is a strict weak order
(`caseInsensitiveLess_strictWeak`), so the maps are what they should be: a
value for every key, up to case and up to the first zero byte.
-/
import HrServer.Http.Request
import HrServer.Util.StringUtil

namespace HrServer

open Lib Util

namespace Http

/-! ## The order of the keys -/

theorem strcasecmpLess_irrefl (a : Bytes) : strcasecmpLess a a = false := by
  induction a with
  | nil => rfl
  | cons x a ih => simp [strcasecmpLess, ih]

/-- Behind equal letters the rest decides. -/
theorem strcasecmpLess_cons {x y : UInt8} {a b : Bytes} :
    strcasecmpLess (x :: a) (y :: b) = true
      ↔ toLower x < toLower y ∨ (toLower x = toLower y ∧ strcasecmpLess a b = true) := by
  simp only [strcasecmpLess]
  split
  · next h => simp [h]
  · next h =>
    split
    · next h' => simp [h, (UInt8.ne_of_lt h').symm]
    · next h' =>
      have heq : toLower x = toLower y :=
        UInt8.le_antisymm (UInt8.not_lt.mp h') (UInt8.not_lt.mp h)
      simp [heq]

theorem strcasecmpLess_trans {a b c : Bytes} (hab : strcasecmpLess a b = true)
    (hbc : strcasecmpLess b c = true) : strcasecmpLess a c = true := by
  induction a generalizing b c with
  | nil =>
    cases c with
    | nil => cases b <;> simp [strcasecmpLess] at hbc
    | cons z c => rfl
  | cons x a ih =>
    cases b with
    | nil => simp [strcasecmpLess] at hab
    | cons y b =>
      cases c with
      | nil => simp [strcasecmpLess] at hbc
      | cons z c =>
        rw [strcasecmpLess_cons] at *
        rcases hab with hxy | ⟨hxy, hab⟩
        · rcases hbc with hyz | ⟨hyz, -⟩
          · exact .inl (UInt8.lt_trans hxy hyz)
          · exact .inl (hyz ▸ hxy)
        · rcases hbc with hyz | ⟨hyz, hbc⟩
          · exact .inl (hxy ▸ hyz)
          · exact .inr ⟨hxy.trans hyz, ih hab hbc⟩

/-- Between two strings there is room on one side of any third. -/
theorem strcasecmpLess_split {a c : Bytes} (b : Bytes) (hac : strcasecmpLess a c = true) :
    strcasecmpLess a b = true ∨ strcasecmpLess b c = true := by
  induction b generalizing a c with
  | nil =>
    cases c with
    | nil => cases a <;> simp [strcasecmpLess] at hac
    | cons z c => exact .inr rfl
  | cons y b ih =>
    cases c with
    | nil => cases a <;> simp [strcasecmpLess] at hac
    | cons z c =>
      cases a with
      | nil => exact .inl rfl
      | cons x a =>
        rw [strcasecmpLess_cons] at *
        rw [strcasecmpLess_cons]
        by_cases hxy : toLower x < toLower y
        · exact .inl (.inl hxy)
        · by_cases hyz : toLower y < toLower z
          · exact .inr (.inl hyz)
          · have hyx := UInt8.not_lt.mp hxy
            have hzy := UInt8.not_lt.mp hyz
            rcases hac with hxz | ⟨hxz, hac⟩
            · exact absurd hxz (UInt8.not_lt.mpr (UInt8.le_trans hzy hyx))
            · have hxy' : toLower x = toLower y := UInt8.le_antisymm (hxz ▸ hzy) hyx
              have hyz' : toLower y = toLower z := hxy'.symm.trans hxz
              rcases ih hac with hab | hbc
              · exact .inl (.inr ⟨hxy', hab⟩)
              · exact .inr (.inr ⟨hyz', hbc⟩)

/-- The order of the entries of a map. -/
def byKey (a b : Bytes × Bytes) : Bool := caseInsensitiveLess a.1 b.1

theorem caseInsensitiveLess_strictWeak : OrderedSet.StrictWeak byKey where
  irrefl _ := strcasecmpLess_irrefl _
  trans := strcasecmpLess_trans
  split y := strcasecmpLess_split (cStr y.1)

@[simp] theorem strcasecmpEq_self (a : Bytes) : HttpRequest.strcasecmpEq a a = true :=
  caseInsensitiveLess_strictWeak.equivalent_self (a, [])

theorem strcasecmpEq_comm (a b : Bytes) :
    HttpRequest.strcasecmpEq a b = HttpRequest.strcasecmpEq b a := by
  simp [HttpRequest.strcasecmpEq, Bool.and_comm]

/-- Equal keys are equal to the same ones. -/
theorem strcasecmpEq_congr {a b : Bytes} (h : HttpRequest.strcasecmpEq a b = true) (c : Bytes) :
    HttpRequest.strcasecmpEq a c = HttpRequest.strcasecmpEq b c :=
  caseInsensitiveLess_strictWeak.equivalent_congr (x := (a, [])) (y := (b, [])) h (c, [])

/-! ## Maps -/

/-- `m.insert({key, val})`: an equivalent key keeps its value. -/
def MapType.insert (m : MapType) (key val : Bytes) : MapType :=
  (OrderedSet.insert byKey (key, val) m).1

/-- `m.erase(key)`. -/
def MapType.erase (m : MapType) (key : Bytes) : MapType :=
  match m.find key with
  | some i => m.eraseIdx i
  | none => m

/-- A `MapType` in its order. -/
@[ext] structure ParamMap where
  entries : MapType
  sorted : OrderedSet.Sorted byKey entries
  deriving DecidableEq

section

variable {m : MapType}

theorem find_entry (m : MapType) (key : Bytes) :
    m.find key = OrderedSet.find byKey (key, []) m := rfl

/-- `m[key] = val` on a sorted map. -/
theorem assign_eq (hm : OrderedSet.Sorted byKey m) (key val : Bytes) :
    m.assign key val
      = if m.find key = none then m.insert key val
        else m.map fun e => if OrderedSet.equivalent byKey (key, []) e then (e.1, val) else e := by
  cases hfind : m.find key with
  | none =>
    simp only [MapType.assign, hfind, if_true]
    rfl
  | some i =>
    rw [find_entry] at hfind
    simp only [MapType.assign, find_entry, hfind, reduceCtorEq, if_false]
    exact OrderedSet.modify_find caseInsensitiveLess_strictWeak hm hfind _

/-- `m.erase(key)` on a sorted map. -/
theorem erase_eq (hm : OrderedSet.Sorted byKey m) (key : Bytes) :
    m.erase key = m.filter fun e => !OrderedSet.equivalent byKey (key, []) e := by
  cases hfind : m.find key with
  | none =>
    have hnone := (OrderedSet.find_eq_none_iff caseInsensitiveLess_strictWeak.toStrict hm).mp hfind
    simp only [MapType.erase, hfind]
    exact (List.filter_eq_self.mpr fun e he => by simp [hnone e he]).symm
  | some i =>
    simp only [MapType.erase, hfind]
    exact OrderedSet.eraseIdx_find caseInsensitiveLess_strictWeak hm hfind

theorem sorted_insert (hm : OrderedSet.Sorted byKey m) (key val : Bytes) :
    OrderedSet.Sorted byKey (m.insert key val) :=
  OrderedSet.sorted_insert caseInsensitiveLess_strictWeak.toStrict hm (key, val)

/-- The change of a value leaves the entry where it is. -/
theorem assign_equivalent (key val : Bytes) (e : Bytes × Bytes) :
    OrderedSet.equivalent byKey
      (if OrderedSet.equivalent byKey (key, []) e then (e.1, val) else e) e = true := by
  have hself : OrderedSet.equivalent byKey (e.1, val) e = true :=
    caseInsensitiveLess_strictWeak.equivalent_self e
  split
  · exact hself
  · exact caseInsensitiveLess_strictWeak.equivalent_self e

theorem sorted_assign (hm : OrderedSet.Sorted byKey m) (key val : Bytes) :
    OrderedSet.Sorted byKey (m.assign key val) := by
  rw [assign_eq hm]
  split
  · exact sorted_insert hm key val
  · exact OrderedSet.sorted_map caseInsensitiveLess_strictWeak hm (assign_equivalent key val)

theorem sorted_erase (hm : OrderedSet.Sorted byKey m) (key : Bytes) :
    OrderedSet.Sorted byKey (m.erase key) := by
  rw [erase_eq hm]
  exact hm.filter _

end

namespace ParamMap

/-- An empty map. -/
def empty : ParamMap := ⟨[], List.Pairwise.nil⟩

/-- `it->second` of `find(key)`. -/
def find (m : ParamMap) (key : Bytes) : Option Bytes :=
  (m.entries.find key).map fun i => (m.entries.getD i ([], [])).2

def insert (m : ParamMap) (e : Bytes × Bytes) : ParamMap :=
  ⟨m.entries.insert e.1 e.2, sorted_insert m.sorted e.1 e.2⟩

def assign (m : ParamMap) (key val : Bytes) : ParamMap :=
  ⟨m.entries.assign key val, sorted_assign m.sorted key val⟩

def erase (m : ParamMap) (key : Bytes) : ParamMap :=
  ⟨m.entries.erase key, sorted_erase m.sorted key⟩

/-- The entry of `key`. -/
def lookup (m : ParamMap) (key : Bytes) : Option (Bytes × Bytes) :=
  m.entries.find? fun e => HttpRequest.strcasecmpEq key e.1

theorem lookup_eq (m : ParamMap) (key val : Bytes) :
    m.lookup key = OrderedSet.lookup byKey (key, val) m.entries := rfl

theorem entries_find (m : ParamMap) (key : Bytes) :
    m.entries.find key = m.entries.findIdx? fun e => HttpRequest.strcasecmpEq key e.1 :=
  OrderedSet.find_eq_findIdx? caseInsensitiveLess_strictWeak.toStrict m.sorted

/-- `find` returns the value of the entry. -/
theorem find_eq (m : ParamMap) (key : Bytes) : m.find key = (m.lookup key).map Prod.snd := by
  rw [find, entries_find, lookup, List.find?_eq_bind_findIdx?_getElem?]
  cases hidx : m.entries.findIdx? fun e => HttpRequest.strcasecmpEq key e.1 with
  | none => rfl
  | some i =>
    obtain ⟨hlt, -, -⟩ := List.findIdx?_eq_some_iff_getElem.mp hidx
    simp [hlt]

theorem entries_find_eq_none_iff (m : ParamMap) (key : Bytes) :
    m.entries.find key = none ↔ m.lookup key = none := by
  simp [entries_find, lookup]

theorem ext_of_lookup {m m' : ParamMap} (h : ∀ key, m.lookup key = m'.lookup key) : m = m' := by
  obtain ⟨s, hs⟩ := m
  obtain ⟨s', hs'⟩ := m'
  have heq : s = s' :=
    OrderedSet.ext_of_lookup caseInsensitiveLess_strictWeak hs hs' fun x => h x.1
  subst heq
  rfl

@[simp] theorem lookup_insert (m : ParamMap) (e : Bytes × Bytes) (key : Bytes) :
    (m.insert e).lookup key
      = (m.lookup key).or (if HttpRequest.strcasecmpEq key e.1 then some e else none) :=
  OrderedSet.lookup_insert caseInsensitiveLess_strictWeak m.sorted e (key, [])

@[simp] theorem lookup_erase (m : ParamMap) (key key' : Bytes) :
    (m.erase key).lookup key'
      = if HttpRequest.strcasecmpEq key key' then none else m.lookup key' := by
  have hentries : (m.erase key).entries
      = m.entries.filter fun e => !OrderedSet.equivalent byKey (key, []) e :=
    erase_eq m.sorted key
  rw [lookup_eq _ _ [], hentries]
  exact OrderedSet.lookup_filter caseInsensitiveLess_strictWeak (key, []) (key', []) m.entries

theorem lookup_congr (m : ParamMap) {key key' : Bytes}
    (h : HttpRequest.strcasecmpEq key key' = true) : m.lookup key = m.lookup key' := by
  simp only [lookup, strcasecmpEq_congr h]

/-- The entry found is equivalent to the key. -/
theorem sameKey_of_lookup {m : ParamMap} {key : Bytes} {e : Bytes × Bytes}
    (h : m.lookup key = some e) : HttpRequest.strcasecmpEq key e.1 = true := by
  simpa using List.find?_some h

/-- `m[key] = val` for a new key. -/
theorem assign_of_none {m : ParamMap} {key : Bytes} (h : m.lookup key = none) (val : Bytes) :
    m.assign key val = m.insert (key, val) := by
  have hentries := assign_eq m.sorted key val
  rw [if_pos ((m.entries_find_eq_none_iff key).mpr h)] at hentries
  exact ParamMap.ext hentries

/-- `m[key] = val` for a key that has an entry. -/
theorem lookup_assign_of_some {m : ParamMap} {key : Bytes} {e : Bytes × Bytes}
    (h : m.lookup key = some e) (val key' : Bytes) :
    (m.assign key val).lookup key' = (m.lookup key').map
      fun e => if HttpRequest.strcasecmpEq key e.1 then (e.1, val) else e := by
  have hentries : (m.assign key val).entries = _ := assign_eq m.sorted key val
  rw [if_neg (by simp [m.entries_find_eq_none_iff, h])] at hentries
  rw [lookup_eq _ _ [], hentries]
  exact OrderedSet.lookup_map caseInsensitiveLess_strictWeak (assign_equivalent key val) _ _

/-- `m[key] = val`: the entry keeps the spelling of its key. -/
@[simp] theorem lookup_assign (m : ParamMap) (key val key' : Bytes) :
    (m.assign key val).lookup key'
      = if HttpRequest.strcasecmpEq key key' then
          some (((m.lookup key).map Prod.fst).getD key, val)
        else m.lookup key' := by
  cases hkey : m.lookup key with
  | none =>
    rw [assign_of_none hkey, lookup_insert, strcasecmpEq_comm key' key]
    cases hsame : HttpRequest.strcasecmpEq key key' with
    | true =>
      rw [← m.lookup_congr hsame, hkey]
      simp
    | false => simp
  | some e =>
    rw [lookup_assign_of_some hkey]
    cases hsame : HttpRequest.strcasecmpEq key key' with
    | true =>
      rw [← m.lookup_congr hsame, hkey]
      simp [sameKey_of_lookup hkey]
    | false =>
      cases hkey' : m.lookup key' with
      | none => simp
      | some e' =>
        have hne : HttpRequest.strcasecmpEq key e'.1 = false := by
          rw [strcasecmpEq_comm, ← strcasecmpEq_congr (sameKey_of_lookup hkey'),
            strcasecmpEq_comm, hsame]
        simp [hne]

/-- Insertions fill the keys that have no entry yet. -/
theorem lookup_insertAll (es : List (Bytes × Bytes)) (m : ParamMap) (key : Bytes) :
    (es.foldl insert m).lookup key
      = (m.lookup key).or (es.find? fun e => HttpRequest.strcasecmpEq key e.1) := by
  induction es generalizing m with
  | nil => simp
  | cons e es ih =>
    rw [List.foldl_cons, ih, lookup_insert, Option.or_assoc, List.find?_cons]
    cases HttpRequest.strcasecmpEq key e.1 with
    | true => simp
    | false => simp

end ParamMap

/-! ## Parsing -/

/-- The pairs that `PARSE_PARAM(str, m, flag, trim)` inserts into `m`, from `pos` on. -/
def parseParam (str : Bytes) (flag : UInt8) (trim : Bytes → Bytes) (pos : Nat) :
    List (Bytes × Bytes) :=
  match _hkey : findFrom str 61 pos with
  | none => []
  | some key =>
    let name := trim (substr str pos (key - pos))
    match _hpos : findFrom str flag key with
    | none => [(name, StringUtil.urlDecode (str.drop (key + 1)) true)]
    | some next =>
      (name, StringUtil.urlDecode (substr str (key + 1) (next - key - 1)) true)
        :: parseParam str flag trim (next + 1)
termination_by str.length - pos
decreasing_by
  have h1 := findFrom_bounds _hkey
  have h2 := findFrom_bounds _hpos
  omega

/-- `strcasestr(haystack, needle) != nullptr`. -/
def strcasestr (haystack needle : Bytes) : Bool :=
  (cStr haystack).tails.any fun rest => (needle.map toLower).isPrefixOf (rest.map toLower)

/-! ## Requests -/

/-- `HttpRequest` with the lazily parsed parameters and cookies. -/
structure ParamRequest extends HttpRequest where
  params : ParamMap
  cookies : ParamMap
  parserParamFlag : UInt8
  deriving DecidableEq

namespace ParamRequest

def initQueryParam (r : ParamRequest) : ParamRequest :=
  if r.parserParamFlag &&& 0x1 ≠ 0 then r
  else
    { r with
      params := (parseParam r.query 38 id 0).foldl .insert r.params
      parserParamFlag := r.parserParamFlag ||| 0x1 }

def initBodyParam (r : ParamRequest) : ParamRequest :=
  if r.parserParamFlag &&& 0x2 ≠ 0 then r
  else
    let contentType := r.getHeader (ascii "content-type")
    if strcasestr contentType (ascii "application/x-www-form-urlencoded") then
      { r with
        params := (parseParam r.body 38 id 0).foldl .insert r.params
        parserParamFlag := r.parserParamFlag ||| 0x2 }
    else { r with parserParamFlag := r.parserParamFlag ||| 0x2 }

def initCookies (r : ParamRequest) : ParamRequest :=
  if r.parserParamFlag &&& 0x4 ≠ 0 then r
  else
    let cookie := r.getHeader (ascii "cookie")
    if cookie.isEmpty then { r with parserParamFlag := r.parserParamFlag ||| 0x4 }
    else
      { r with
        cookies := (parseParam cookie 59 (StringUtil.trim · StringUtil.blanks) 0).foldl
          .insert r.cookies
        parserParamFlag := r.parserParamFlag ||| 0x4 }

def initParam (r : ParamRequest) : ParamRequest := r.initQueryParam.initBodyParam.initCookies

def getParam (r : ParamRequest) (key default : Bytes) : Bytes × ParamRequest :=
  let r := r.initQueryParam.initBodyParam
  ((r.params.find key).getD default, r)

/-- `hasParam(key, val)`: what is stored through `val`, or `none` when it returns false. -/
def hasParam (r : ParamRequest) (key : Bytes) : Option Bytes × ParamRequest :=
  let r := r.initQueryParam.initBodyParam
  (r.params.find key, r)

def setParam (r : ParamRequest) (key val : Bytes) : ParamRequest :=
  { r with params := r.params.assign key val }

def delParam (r : ParamRequest) (key : Bytes) : ParamRequest :=
  { r with params := r.params.erase key }

def getParams (r : ParamRequest) : MapType := r.params.entries

def getCookie (r : ParamRequest) (key default : Bytes) : Bytes × ParamRequest :=
  let r := r.initCookies
  ((r.cookies.find key).getD default, r)

/-- `hasCookie(key, val)`, as `hasParam`. -/
def hasCookie (r : ParamRequest) (key : Bytes) : Option Bytes × ParamRequest :=
  let r := r.initCookies
  (r.cookies.find key, r)

def setCookie (r : ParamRequest) (key val : Bytes) : ParamRequest :=
  { r with cookies := r.cookies.assign key val }

def delCookie (r : ParamRequest) (key : Bytes) : ParamRequest :=
  { r with cookies := r.cookies.erase key }

def getCookies (r : ParamRequest) : MapType := r.cookies.entries

end ParamRequest

end Http

end HrServer
