/-
HrServer.Http.QueryRoundTrip — a query that was put together with
`UrlEncode` is read back.

The encoder leaves no `&` in a value (`amp_not_mem_urlEncode`), so that the
segments of the query are the pairs as they were written, and the loop of
`PARSE_PARAM` gives exactly the list of pairs (`parseParam_buildQuery`). An
encoded value may have `=` in it, which the table counts as unreserved; it
stands behind the first one and does no harm.
-/
import Mathlib.Data.List.Nodup
import HrServer.Http.Query
import HrServer.Util.UrlCoding

namespace HrServer

open Lib Util

namespace Http

/-- `k=v`, with the value encoded. -/
def queryPair (p : Bytes × Bytes) : Bytes := p.1 ++ 61 :: StringUtil.urlEncode p.2 true

/-- The pairs, joined by `&`. -/
def buildQuery (pairs : List (Bytes × Bytes)) : Bytes := [38].intercalate (pairs.map queryPair)

/-! ## The list of pairs -/

theorem amp_not_mem_encoded {b : Bool} {s : Bytes} (h : StringUtil.Encoded b s) : 38 ∉ s := by
  induction h with
  | nil => exact List.not_mem_nil
  | @char c rest hc hrest ih =>
    have hne : 38 ≠ c := by
      rintro rfl
      simp [StringUtil.uriChars] at hc
    simp [hne, ih]
  | plus hb hrest ih => simp [ih]
  | @percent x y rest hx hy hrest ih =>
    have hne : ∀ d, StringUtil.IsUpperHex d → 38 ≠ d := by
      rintro d hd rfl
      exact absurd hd (by decide)
    simp [hne x hx, hne y hy, ih]

theorem amp_not_mem_urlEncode (s : Bytes) (b : Bool) : 38 ∉ StringUtil.urlEncode s b :=
  amp_not_mem_encoded (StringUtil.encoded_urlEncode s b)

theorem cut_queryPair {p : Bytes × Bytes} (h : 61 ∉ p.1) :
    beforeEquals (queryPair p) = p.1
      ∧ behindEquals (queryPair p) = StringUtil.urlEncode p.2 true := by
  have hall : ∀ c ∈ p.1, decide (c ≠ 61) = true := by
    intro c hc
    have hne : c ≠ 61 := fun heq => h (heq ▸ hc)
    simpa using hne
  rw [beforeEquals, behindEquals, queryPair, List.takeWhile_append_of_pos hall,
    List.dropWhile_append_of_pos hall]
  simp

theorem collect_queryPairs {pairs : List (Bytes × Bytes)} (h : ∀ p ∈ pairs, 61 ∉ p.1) :
    collect [] (pairs.map queryPair)
      = pairs.map fun p => ⟨[], p.1, StringUtil.urlEncode p.2 true⟩ := by
  induction pairs with
  | nil => rfl
  | cons p pairs ih =>
    rw [List.forall_mem_cons] at h
    have hmem : 61 ∈ queryPair p := by simp [queryPair]
    obtain ⟨hbefore, hbehind⟩ := cut_queryPair h.1
    rw [List.map_cons, collect, if_pos hmem, hbefore, hbehind, ih h.2, List.map_cons]

/-- The pairs come back in their order. -/
theorem parseParam_buildQuery {pairs : List (Bytes × Bytes)}
    (h : ∀ p ∈ pairs, 61 ∉ p.1 ∧ 38 ∉ p.1) : parseParam (buildQuery pairs) 38 id 0 = pairs := by
  have hsegs : ∀ s ∈ pairs.map queryPair, 38 ∉ s := by
    intro s hs
    obtain ⟨p, hp, rfl⟩ := List.mem_map.mp hs
    simp [queryPair, (h p hp).2, amp_not_mem_urlEncode]
  have hparse := parseParam_segments (by decide) id (pairs.map queryPair) hsegs [] [] (by simp)
  rw [collect_queryPairs fun p hp => (h p hp).1, List.map_map] at hparse
  refine Eq.trans hparse ?_
  conv_rhs => rw [← List.map_id pairs]
  refine List.map_congr_left ?_
  intro p hp
  simp [Segment.merged, StringUtil.urlDecode_encoded]

/-! ## Reading -/

/-- The calls that only read. -/
def ParamCall.reads : ParamCall → Bool
  | .param (.get ..) | .param (.has _) | .cookie (.get ..) | .cookie (.has _) => true
  | _ => false

/-- Reading does not change what a request holds. -/
theorem fill_after_reads (r : ParamRequest) {calls : List ParamCall}
    (h : ∀ c ∈ calls, c.reads = true) :
    (r.after calls).view.params.fill = r.view.params.fill := by
  induction calls generalizing r with
  | nil => rfl
  | cons c calls ih =>
    rw [List.forall_mem_cons] at h
    have hcall : (r.call c).2.view.params.fill = r.view.params.fill := by
      have hview := congrArg (fun x => x.2.params.fill) (r.view_call c)
      rw [← hview]
      cases c with
      | param c =>
        cases c with
        | get | has => rfl
        | set | del | all => simp [ParamCall.reads] at h
      | cookie c => rfl
    exact (ih (r.call c).2 h.2).trans hcall

theorem strcasecmpEq_of_nul_free {a b : Bytes} (ha : 0 ∉ a) (hb : 0 ∉ b) :
    HttpRequest.strcasecmpEq a b = true ↔ a.map toLower = b.map toLower := by
  rw [strcasecmpEq_iff, cStr_of_not_mem ha, cStr_of_not_mem hb]

section lookup

variable {pairs : List (Bytes × Bytes)}

/-- A listed key is found with its own value. -/
theorem find?_listed (hnul : ∀ p ∈ pairs, 0 ∉ p.1)
    (hdistinct : (pairs.map fun p => p.1.map toLower).Nodup) {p : Bytes × Bytes}
    (hp : p ∈ pairs) : (pairs.find? fun e => HttpRequest.strcasecmpEq p.1 e.1) = some p := by
  cases hfind : pairs.find? fun e => HttpRequest.strcasecmpEq p.1 e.1 with
  | none => exact absurd (strcasecmpEq_self p.1) (List.find?_eq_none.mp hfind p hp)
  | some e =>
    have he := List.mem_of_find?_eq_some hfind
    have hsame := List.find?_some hfind
    rw [strcasecmpEq_of_nul_free (hnul p hp) (hnul e he)] at hsame
    rw [List.inj_on_of_nodup_map hdistinct hp he hsame]

/-- A key that is not listed is not found. -/
theorem find?_not_listed (hnul : ∀ p ∈ pairs, 0 ∉ p.1) {key : Bytes} (hkey : 0 ∉ key)
    (hne : ∀ p ∈ pairs, key.map toLower ≠ p.1.map toLower) :
    (pairs.find? fun e => HttpRequest.strcasecmpEq key e.1) = none := by
  rw [List.find?_eq_none]
  intro p hp hsame
  exact hne p hp ((strcasecmpEq_of_nul_free hkey (hnul p hp)).mp hsame)

end lookup

/-- For every list of pairs whose keys are different up to case and without `=`, `&` and zero
bytes: in a request with the query that is built of them and no form body, whatever was read
before, `getParam` returns the value of a listed key and `hasParam` is false for a key that
is not listed. -/
theorem getParam_buildQuery (pairs : List (Bytes × Bytes)) (r : ParamRequest)
    (hkeys : ∀ p ∈ pairs, 61 ∉ p.1 ∧ 38 ∉ p.1 ∧ 0 ∉ p.1)
    (hdistinct : (pairs.map fun p => p.1.map toLower).Nodup) (hquery : r.query = buildQuery pairs)
    (hnew : r.params = .empty ∧ r.parserParamFlag &&& 0x1 = 0)
    (hbody : strcasestr (r.getHeader (ascii "content-type"))
        (ascii "application/x-www-form-urlencoded") = false ∨ r.body = [])
    (reads : List ParamCall) (hreads : ∀ c ∈ reads, c.reads = true) :
    (∀ p ∈ pairs, ∀ default, ((r.after reads).getParam p.1 default).1 = p.2)
      ∧ ∀ key, 0 ∉ key → (∀ p ∈ pairs, key.map toLower ≠ p.1.map toLower) →
        ((r.after reads).hasParam key).1 = none := by
  have hnul : ∀ p ∈ pairs, 0 ∉ p.1 := fun p hp => (hkeys p hp).2.2
  have hpairs := parseParam_buildQuery fun p hp => ⟨(hkeys p hp).1, (hkeys p hp).2.1⟩
  have hpending : r.pendingQuery = pairs := by
    simp [ParamRequest.pendingQuery, hnew.2, hquery, hpairs]
  have hform : r.pendingBody = [] := by
    rcases hbody with hbody | hbody
    · simp [ParamRequest.pendingBody, hbody]
    · have hnone : parseParam [] 38 id 0 = [] := @parseParam_buildQuery [] (by simp)
      simp [ParamRequest.pendingBody, hbody, hnone]
  -- the map that every read sees
  have hmap : (r.after reads).view.params.fill.map = inserted pairs := by
    rw [fill_after_reads r hreads]
    simp [ParamRequest.view, LazyMap.fill, hpending, hform, hnew.1, inserted]
  constructor
  · intro p hp default
    rw [ParamRequest.getParam, ParamRequest.params_initParams, hmap, ParamMap.find_eq,
      lookup_inserted, find?_listed hnul hdistinct hp]
    rfl
  · intro key hkey hne
    rw [ParamRequest.hasParam, ParamRequest.params_initParams, hmap, ParamMap.find_eq,
      lookup_inserted, find?_not_listed hnul hkey hne]
    rfl

/-- A value with every kind of special character, and one with a zero byte and a byte above
127. -/
theorem getParam_buildQuery_two :
    ((queryRequest (buildQuery [(ascii "q", ascii "a&b=c %+"), (ascii "Z", [0, 255])])).getParam
        (ascii "q") []).1 = ascii "a&b=c %+"
      ∧ ((queryRequest (buildQuery [(ascii "q", ascii "a&b=c %+"), (ascii "Z", [0, 255])])).hasParam
        (ascii "b")).1 = none := by
  obtain ⟨hget, hhas⟩ := getParam_buildQuery
    [(ascii "q", ascii "a&b=c %+"), (ascii "Z", [0, 255])]
    (queryRequest (buildQuery [(ascii "q", ascii "a&b=c %+"), (ascii "Z", [0, 255])]))
    (by decide) (by decide) rfl ⟨rfl, rfl⟩ (.inr rfl) [] (by simp)
  exact ⟨hget _ List.mem_cons_self [], hhas (ascii "b") (by decide) (by decide)⟩

end Http

end HrServer
