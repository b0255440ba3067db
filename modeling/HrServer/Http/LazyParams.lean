/-
HrServer.Http.LazyParams — when the lazy parsing of `HttpRequest` can be
seen.

A map that is still to be filled from a text is a `LazyMap`: the pairs
that are pending, and what is in the map already. Reading a key fills it;
writing, deleting and taking the whole map do not. A request is two of
them (`view`, `view_call`), whatever the bits of its flag are.

Filling first makes no difference to a call exactly when the call meets
`LazyMap.Keeps` (`fill_call_iff`): nothing pending has the key that is
deleted, or another spelling of the key that is written, and nothing is
missing from the map that is taken. From there `unobservable_iff` follows
for all sequences of calls.
-/
import HrServer.Http.Params
import HrServer.Lib.Run

namespace HrServer

open Lib

namespace Http

/-- The calls on the parameters, or on the cookies. -/
inductive MapCall where
  | get (key default : Bytes)
  | has (key : Bytes)
  | set (key val : Bytes)
  | del (key : Bytes)
  | all
  deriving DecidableEq

/-- What a call returns. -/
inductive Result where
  | done
  | text (val : Bytes)
  | found (val : Option Bytes)
  | entries (m : MapType)
  deriving DecidableEq

/-! ## One map -/

/-- A map, and the pairs that are still to be inserted into it. -/
structure LazyMap where
  pending : List (Bytes × Bytes)
  map : ParamMap

namespace LazyMap

/-- All pairs are inserted. -/
def fill (s : LazyMap) : LazyMap := ⟨[], s.pending.foldl .insert s.map⟩

def call (s : LazyMap) : MapCall → Result × LazyMap
  | .get key default => (.text ((s.fill.map.find key).getD default), s.fill)
  | .has key => (.found (s.fill.map.find key), s.fill)
  | .set key val => (.done, { s with map := s.map.assign key val })
  | .del key => (.done, { s with map := s.map.erase key })
  | .all => (.entries s.map.entries, s)

/-- The first pending pair of `key`. -/
def first (s : LazyMap) (key : Bytes) : Option (Bytes × Bytes) :=
  s.pending.find? fun e => HttpRequest.strcasecmpEq key e.1

/-- A key that is written is in the map, or pending in no other spelling; one that is
deleted is not pending; and a map that is taken has all keys that are. -/
def Keeps (s : LazyMap) : MapCall → Prop
  | .set key _ => (s.map.lookup key).isSome = true ∨ ∀ e, s.first key = some e → e.1 = key
  | .del key => s.first key = none
  | .all => ∀ e ∈ s.pending, (s.map.lookup e.1).isSome = true
  | _ => True

theorem lookup_fill (s : LazyMap) (key : Bytes) :
    s.fill.map.lookup key = (s.map.lookup key).or (s.first key) :=
  ParamMap.lookup_insertAll s.pending s.map key

theorem first_congr (s : LazyMap) {key key' : Bytes}
    (h : HttpRequest.strcasecmpEq key key' = true) : s.first key = s.first key' := by
  simp only [first, strcasecmpEq_congr h]

/-- What is pending does not depend on the map. -/
@[simp] theorem first_mk (s : LazyMap) (m : ParamMap) (key : Bytes) :
    first ⟨s.pending, m⟩ key = s.first key := rfl

theorem ext_iff_lookup {m m' : ParamMap} : m = m' ↔ ∀ key, m.lookup key = m'.lookup key := by
  constructor
  · rintro rfl key
    rfl
  · exact ParamMap.ext_of_lookup

theorem assign_fill_iff (s : LazyMap) (key val : Bytes) :
    s.fill.map.assign key val = (fill { s with map := s.map.assign key val }).map
      ↔ s.Keeps (.set key val) := by
  rw [ext_iff_lookup]
  simp only [ParamMap.lookup_assign, lookup_fill, first_mk]
  constructor
  · intro h
    have hkey := h key
    cases hmap : s.map.lookup key with
    | some e => exact .inl (by simp [hmap])
    | none =>
      refine .inr fun e he => ?_
      simpa [hmap, he] using hkey
  · intro h key'
    cases hsame : HttpRequest.strcasecmpEq key key' with
    | false => simp
    | true =>
      cases hmap : s.map.lookup key with
      | some e => simp
      | none =>
        cases hfirst : s.first key with
        | none => simp
        | some e =>
          have hspelling : e.1 = key := by
            rcases h with h | h
            · simp [hmap] at h
            · exact h e hfirst
          simp [hspelling]

theorem erase_fill_iff (s : LazyMap) (key : Bytes) :
    s.fill.map.erase key = (fill { s with map := s.map.erase key }).map ↔ s.Keeps (.del key) := by
  rw [ext_iff_lookup]
  simp only [ParamMap.lookup_erase, lookup_fill, first_mk]
  constructor
  · intro h
    have hkey := h key
    rw [strcasecmpEq_self, if_pos rfl, if_pos rfl, Option.none_or] at hkey
    exact hkey.symm
  · intro h key'
    cases hsame : HttpRequest.strcasecmpEq key key' with
    | false => simp
    | true =>
      have hnone : s.first key' = none := by
        rw [← s.first_congr hsame]
        exact h
      simp [hnone]

theorem entries_fill_iff (s : LazyMap) :
    s.fill.map.entries = s.map.entries ↔ s.Keeps .all := by
  constructor
  · intro h e he
    have hlookup : s.fill.map.lookup e.1 = s.map.lookup e.1 := by simp only [ParamMap.lookup, h]
    cases hmap : s.map.lookup e.1 with
    | some e' => rfl
    | none =>
      rw [lookup_fill, hmap, Option.none_or] at hlookup
      have := List.find?_eq_none.mp hlookup e he
      exact absurd (strcasecmpEq_self e.1) this
  · intro h
    have hmap : s.fill.map = s.map := by
      refine ParamMap.ext_of_lookup fun key => ?_
      rw [lookup_fill]
      cases hkey : s.map.lookup key with
      | some e => rfl
      | none =>
        cases hfirst : s.first key with
        | none => rfl
        | some e =>
          have hsame : HttpRequest.strcasecmpEq key e.1 = true := by
            simpa using List.find?_some hfirst
          have := h e (List.mem_of_find?_eq_some hfirst)
          rw [← s.map.lookup_congr hsame, hkey] at this
          cases this
    rw [hmap]

/-- Filling first makes no difference to the call, exactly when it meets `Keeps`. -/
theorem fill_call_iff (s : LazyMap) (c : MapCall) :
    s.fill.call c = ((s.call c).1, (s.call c).2.fill) ↔ s.Keeps c := by
  cases c with
  | get key default => exact iff_of_true rfl trivial
  | has key => exact iff_of_true rfl trivial
  | set key val =>
    rw [← assign_fill_iff]
    simp [call, fill]
  | del key =>
    rw [← erase_fill_iff]
    simp [call, fill]
  | all =>
    rw [← entries_fill_iff]
    simp [call]

end LazyMap

/-! ## Both maps -/

/-- A call on the parameters or on the cookies of a request. -/
inductive ParamCall where
  | param (c : MapCall)
  | cookie (c : MapCall)
  deriving DecidableEq

/-- The two maps of a request. -/
structure View where
  params : LazyMap
  cookies : LazyMap

namespace View

def fill (v : View) : View := ⟨v.params.fill, v.cookies.fill⟩

def call (v : View) : ParamCall → Result × View
  | .param c => ((v.params.call c).1, { v with params := (v.params.call c).2 })
  | .cookie c => ((v.cookies.call c).1, { v with cookies := (v.cookies.call c).2 })

def Keeps (v : View) : ParamCall → Prop
  | .param c => v.params.Keeps c
  | .cookie c => v.cookies.Keeps c

theorem fill_call_iff (v : View) (c : ParamCall) :
    v.fill.call c = ((v.call c).1, (v.call c).2.fill) ↔ v.Keeps c := by
  cases c with
  | param c =>
    refine Iff.trans ?_ (v.params.fill_call_iff c)
    simp [call, fill, Prod.ext_iff]
  | cookie c =>
    refine Iff.trans ?_ (v.cookies.fill_call_iff c)
    simp [call, fill, Prod.ext_iff]

end View

/-! ## Requests -/

namespace ParamRequest

/-- One call. -/
def call (r : ParamRequest) : ParamCall → Result × ParamRequest
  | .param (.get key default) => (.text (r.getParam key default).1, (r.getParam key default).2)
  | .param (.has key) => (.found (r.hasParam key).1, (r.hasParam key).2)
  | .param (.set key val) => (.done, r.setParam key val)
  | .param (.del key) => (.done, r.delParam key)
  | .param .all => (.entries r.getParams, r)
  | .cookie (.get key default) => (.text (r.getCookie key default).1, (r.getCookie key default).2)
  | .cookie (.has key) => (.found (r.hasCookie key).1, (r.hasCookie key).2)
  | .cookie (.set key val) => (.done, r.setCookie key val)
  | .cookie (.del key) => (.done, r.delCookie key)
  | .cookie .all => (.entries r.getCookies, r)

/-- What the calls return, one after the other. -/
def results (r : ParamRequest) (calls : List ParamCall) : List Result := outputs call r calls

/-- The request after the calls. -/
def after (r : ParamRequest) (calls : List ParamCall) : ParamRequest := final call r calls

/-- What `initQueryParam` would insert. -/
def pendingQuery (r : ParamRequest) : List (Bytes × Bytes) :=
  if r.parserParamFlag &&& 0x1 ≠ 0 then [] else parseParam r.query 38 id 0

/-- What `initBodyParam` would insert. -/
def pendingBody (r : ParamRequest) : List (Bytes × Bytes) :=
  if r.parserParamFlag &&& 0x2 ≠ 0 then []
  else if strcasestr (r.getHeader (ascii "content-type"))
      (ascii "application/x-www-form-urlencoded") then parseParam r.body 38 id 0
  else []

/-- What `initCookies` would insert. -/
def pendingCookies (r : ParamRequest) : List (Bytes × Bytes) :=
  if r.parserParamFlag &&& 0x4 ≠ 0 then []
  else if (r.getHeader (ascii "cookie")).isEmpty then []
  else
    parseParam (r.getHeader (ascii "cookie")) 59
      (Util.StringUtil.trim · Util.StringUtil.blanks) 0

/-- The two maps with what is pending for them. -/
def view (r : ParamRequest) : View :=
  ⟨⟨r.pendingQuery ++ r.pendingBody, r.params⟩, ⟨r.pendingCookies, r.cookies⟩⟩

/-! ## The flag -/

theorem flag_set (flag bit : UInt8) : (flag ||| bit) &&& bit = bit := by
  apply UInt8.toBitVec_inj.mp
  ext i hi
  simp only [UInt8.toBitVec_and, UInt8.toBitVec_or, BitVec.getElem_and, BitVec.getElem_or]
  cases bit.toBitVec[i] <;> simp

theorem flag_other {bit other : UInt8} (flag : UInt8) (h : bit &&& other = 0) :
    (flag ||| bit) &&& other = flag &&& other := by
  have hbits := congrArg UInt8.toBitVec h
  rw [UInt8.toBitVec_and] at hbits
  apply UInt8.toBitVec_inj.mp
  rw [UInt8.toBitVec_and, UInt8.toBitVec_or, BitVec.and_or_distrib_right, hbits]
  simp

/-- One bit of the flag, with the two others left alone. -/
theorem flag_bits (flag : UInt8) :
    ((flag ||| 0x1) &&& 0x2 = flag &&& 0x2 ∧ (flag ||| 0x1) &&& 0x4 = flag &&& 0x4)
      ∧ ((flag ||| 0x2) &&& 0x1 = flag &&& 0x1 ∧ (flag ||| 0x2) &&& 0x4 = flag &&& 0x4)
      ∧ ((flag ||| 0x4) &&& 0x1 = flag &&& 0x1 ∧ (flag ||| 0x4) &&& 0x2 = flag &&& 0x2) :=
  ⟨⟨flag_other flag (by decide), flag_other flag (by decide)⟩,
    ⟨flag_other flag (by decide), flag_other flag (by decide)⟩,
    ⟨flag_other flag (by decide), flag_other flag (by decide)⟩⟩

theorem initQueryParam_spec (r : ParamRequest) :
    r.initQueryParam.pendingQuery = [] ∧ r.initQueryParam.pendingBody = r.pendingBody
      ∧ r.initQueryParam.pendingCookies = r.pendingCookies
      ∧ r.initQueryParam.params = r.pendingQuery.foldl .insert r.params
      ∧ r.initQueryParam.cookies = r.cookies := by
  unfold initQueryParam
  split
  · next h => simp [pendingQuery, h]
  · next h => simp [pendingQuery, pendingBody, pendingCookies, h, flag_set, flag_bits]

theorem initBodyParam_spec (r : ParamRequest) :
    r.initBodyParam.pendingQuery = r.pendingQuery ∧ r.initBodyParam.pendingBody = []
      ∧ r.initBodyParam.pendingCookies = r.pendingCookies
      ∧ r.initBodyParam.params = r.pendingBody.foldl .insert r.params
      ∧ r.initBodyParam.cookies = r.cookies := by
  unfold initBodyParam
  split
  · next h => simp [pendingBody, h]
  · next h =>
    cases hform : strcasestr (r.getHeader (ascii "content-type"))
        (ascii "application/x-www-form-urlencoded") with
    | true => simp [pendingQuery, pendingBody, pendingCookies, h, hform, flag_set, flag_bits]
    | false => simp [pendingQuery, pendingBody, pendingCookies, h, hform, flag_set, flag_bits]

theorem initCookies_spec (r : ParamRequest) :
    r.initCookies.pendingQuery = r.pendingQuery ∧ r.initCookies.pendingBody = r.pendingBody
      ∧ r.initCookies.pendingCookies = [] ∧ r.initCookies.params = r.params
      ∧ r.initCookies.cookies = r.pendingCookies.foldl .insert r.cookies := by
  unfold initCookies
  split
  · next h => simp [pendingCookies, h]
  · next h =>
    cases hcookie : (r.getHeader (ascii "cookie")).isEmpty with
    | true => simp [pendingQuery, pendingBody, pendingCookies, h, hcookie, flag_set, flag_bits]
    | false => simp [pendingQuery, pendingBody, pendingCookies, h, hcookie, flag_set, flag_bits]

/-! ## The request is its view -/

theorem view_initParams (r : ParamRequest) :
    r.initQueryParam.initBodyParam.view = ⟨r.view.params.fill, r.view.cookies⟩ := by
  obtain ⟨hq, hb, hc, hp, hcookies⟩ := r.initQueryParam_spec
  obtain ⟨hq', hb', hc', hp', hcookies'⟩ := r.initQueryParam.initBodyParam_spec
  simp only [view, LazyMap.fill, hq', hb', hc', hp', hcookies', hq, hb, hc, hp, hcookies,
    List.append_nil, List.foldl_append]

theorem view_initCookies (r : ParamRequest) :
    r.initCookies.view = ⟨r.view.params, r.view.cookies.fill⟩ := by
  obtain ⟨hq, hb, hc, hp, hcookies⟩ := r.initCookies_spec
  simp only [view, LazyMap.fill, hq, hb, hc, hp, hcookies]

theorem view_initParam (r : ParamRequest) : r.initParam.view = r.view.fill := by
  rw [initParam, view_initCookies, view_initParams]
  rfl

theorem params_initParams (r : ParamRequest) :
    r.initQueryParam.initBodyParam.params = r.view.params.fill.map :=
  congrArg (fun v => v.params.map) r.view_initParams

theorem cookies_initCookies (r : ParamRequest) : r.initCookies.cookies = r.view.cookies.fill.map :=
  congrArg (fun v => v.cookies.map) r.view_initCookies

/-- A call does to a request what it does to its two maps. -/
theorem view_call (r : ParamRequest) (c : ParamCall) :
    r.view.call c = ((r.call c).1, (r.call c).2.view) := by
  cases c with
  | param c =>
    cases c with
    | get key default =>
      simp [View.call, LazyMap.call, call, getParam, view_initParams, params_initParams]
    | has key =>
      simp [View.call, LazyMap.call, call, hasParam, view_initParams, params_initParams]
    | set key val => rfl
    | del key => rfl
    | all => rfl
  | cookie c =>
    cases c with
    | get key default =>
      simp [View.call, LazyMap.call, call, getCookie, view_initCookies, cookies_initCookies]
    | has key =>
      simp [View.call, LazyMap.call, call, hasCookie, view_initCookies, cookies_initCookies]
    | set key val => rfl
    | del key => rfl
    | all => rfl

end ParamRequest

/-! ## A request that has been read -/

namespace View

/-- Nothing is pending. -/
structure Settled (v : View) : Prop where
  params : v.params.pending = []
  cookies : v.cookies.pending = []

theorem settled_fill (v : View) : v.fill.Settled := ⟨rfl, rfl⟩

theorem Settled.fill_eq {v : View} (h : v.Settled) : v.fill = v := by
  obtain ⟨⟨p, m⟩, ⟨p', m'⟩⟩ := v
  obtain ⟨rfl, rfl⟩ : p = [] ∧ p' = [] := ⟨h.params, h.cookies⟩
  rfl

theorem Settled.call {v : View} (h : v.Settled) (c : ParamCall) : (v.call c).2.Settled := by
  cases c with
  | param c =>
    refine ⟨?_, h.cookies⟩
    cases c with
    | get key default => rfl
    | has key => rfl
    | set key val => exact h.params
    | del key => exact h.params
    | all => exact h.params
  | cookie c =>
    refine ⟨h.params, ?_⟩
    cases c with
    | get key default => rfl
    | has key => rfl
    | set key val => exact h.cookies
    | del key => exact h.cookies
    | all => exact h.cookies

theorem Settled.final {v : View} (h : v.Settled) (calls : List ParamCall) :
    (final View.call v calls).Settled :=
  final_invariant (fun _ c _ hv => hv.call c) h

/-- Nothing is pending for `key`, and it is not in the map. -/
structure Gone (key : Bytes) (v : View) : Prop where
  pending : v.params.pending = []
  lookup : v.params.map.lookup key = none

/-- A deletion, once nothing is pending. -/
theorem Settled.gone {v : View} (h : v.Settled) (key : Bytes) :
    Gone key (v.call (.param (.del key))).2 :=
  ⟨h.params, by simp [View.call, LazyMap.call]⟩

theorem Gone.fill {key : Bytes} {v : View} (h : Gone key v) :
    v.params.fill.map.lookup key = none := by
  rw [LazyMap.lookup_fill, h.lookup, LazyMap.first, h.pending]
  rfl

/-- A key that is gone comes back by being set only. -/
theorem Gone.call {key : Bytes} {v : View} (h : Gone key v) {c : ParamCall}
    (hc : ∀ key' val, c = .param (.set key' val) → HttpRequest.strcasecmpEq key key' = false) :
    Gone key (v.call c).2 := by
  cases c with
  | cookie c => exact ⟨h.pending, h.lookup⟩
  | param c =>
    cases c with
    | get key' default => exact ⟨rfl, h.fill⟩
    | has key' => exact ⟨rfl, h.fill⟩
    | set key' val =>
      have hne := hc key' val rfl
      rw [strcasecmpEq_comm] at hne
      exact ⟨h.pending, by simp [View.call, LazyMap.call, hne, h.lookup]⟩
    | del key' => exact ⟨h.pending, by simp [View.call, LazyMap.call, h.lookup]⟩
    | all => exact h

/-- After a deletion the key is missing until it is set. -/
theorem Settled.deleted {v : View} (h : v.Settled) (before : List ParamCall) {mid : List ParamCall}
    {key : Bytes} (hmid : ∀ key' val, ParamCall.param (.set key' val) ∈ mid →
      HttpRequest.strcasecmpEq key key' = false) :
    Gone key (Lib.final View.call v (before ++ .param (.del key) :: mid)) := by
  have hdel : Gone key (Lib.final View.call v (before ++ [.param (.del key)])) := by
    rw [final_concat]
    exact (h.final before).gone key
  rw [List.append_cons, final_append]
  refine final_invariant (I := Gone key) ?_ hdel
  rintro w c hc hw
  refine hw.call ?_
  rintro key' val rfl
  exact hmid key' val hc

end View

/-! ## Laziness cannot be seen -/

namespace ParamRequest

/-- Up to here every call has returned what it returns after `initParam`, so will every
call once both maps have been read, and a deleted parameter that was not set again is
missing. -/
structure Unobservable (r : ParamRequest) (calls : List ParamCall) : Prop where
  results : r.results calls = r.initParam.results calls
  later : ∀ key key' rest,
    r.results (calls ++ .param (.has key) :: .cookie (.has key') :: rest)
      = r.initParam.results (calls ++ .param (.has key) :: .cookie (.has key') :: rest)
  deleted : ∀ before key mid, calls = before ++ .param (.del key) :: mid →
    (∀ key' val, ParamCall.param (.set key' val) ∈ mid →
      HttpRequest.strcasecmpEq key key' = false) →
    ((r.after calls).hasParam key).1 = none

theorem results_view (r : ParamRequest) (calls : List ParamCall) :
    r.results calls = outputs View.call r.view calls :=
  (outputs_view view_call r calls).1.symm

theorem after_view (r : ParamRequest) (calls : List ParamCall) :
    (r.after calls).view = final View.call r.view calls :=
  (outputs_view view_call r calls).2.symm

/-- Reading both maps shows what is in them. -/
theorem fill_of_reads {v w : View} (hw : w.Settled)
    (h : outputs View.call v [.param (.has []), .cookie (.has []), .param .all, .cookie .all]
      = outputs View.call w [.param (.has []), .cookie (.has []), .param .all, .cookie .all]) :
    w = v.fill := by
  simp only [outputs, View.call, LazyMap.call, List.cons.injEq, Result.entries.injEq] at h
  obtain ⟨-, -, hparams, hcookies, -⟩ := h
  have hparams' : w.params.fill = v.params.fill :=
    congrArg (LazyMap.mk []) (ParamMap.ext hparams.symm)
  have hcookies' : w.cookies.fill = v.cookies.fill :=
    congrArg (LazyMap.mk []) (ParamMap.ext hcookies.symm)
  rw [← hw.fill_eq, View.fill, hparams', hcookies']
  rfl

theorem unobservable_iff_agrees (r : ParamRequest) (calls : List ParamCall) :
    r.Unobservable calls ↔ Agrees View.call View.fill r.view calls := by
  constructor
  · intro h
    have hresults := h.results
    have hlater := h.later [] [] [.param .all, .cookie .all]
    rw [results_view, results_view, view_initParam] at hresults hlater
    rw [outputs_append, outputs_append, hresults] at hlater
    refine ⟨hresults, ?_⟩
    exact fill_of_reads (r.view.settled_fill.final calls) (List.append_cancel_left hlater)
  · intro h
    refine ⟨?_, ?_, ?_⟩
    · rw [results_view, results_view, view_initParam, h.outputs]
    · intro key key' rest
      rw [results_view, results_view, view_initParam, outputs_append, outputs_append, h.outputs,
        h.final]
      rfl
    · rintro before key mid rfl hmid
      have hgone := r.view.settled_fill.deleted before hmid
      rw [h.final, ← after_view] at hgone
      rw [hasParam, params_initParams, ParamMap.find_eq, Option.map_eq_none_iff]
      exact hgone.lookup

/-- The call can be made before the maps are read. -/
def Keeps (r : ParamRequest) (c : ParamCall) : Prop := r.view.Keeps c

/-- That parameters and cookies are parsed lazily cannot be seen, all along a sequence of
calls, if and only if each call meets `Keeps` where it is made. -/
theorem unobservable_iff (r : ParamRequest) (calls : List ParamCall) :
    (∀ before after, calls = before ++ after → r.Unobservable before)
      ↔ ∀ before c after, calls = before ++ c :: after → (r.after before).Keeps c := by
  have hcalls : (∀ before after, calls = before ++ after →
      Agrees View.call View.fill r.view before) ↔ _ := agrees_iff View.fill r.view calls
  simp only [← after_view, View.fill_call_iff, ← unobservable_iff_agrees] at hcalls
  exact hcalls

/-- A request for `/?a=1`. -/
def oneParam : ParamRequest :=
  { HttpRequest.new with
    query := ascii "a=1", params := .empty, cookies := .empty, parserParamFlag := 0 }

/-- A parameter that is deleted before the first read comes back with it, and the map of
all parameters is empty before. -/
theorem deleted_param_returns :
    oneParam.results [.param (.del (ascii "a")), .param (.has (ascii "a"))]
        = [.done, .found (some (ascii "1"))]
      ∧ oneParam.initParam.results [.param (.del (ascii "a")), .param (.has (ascii "a"))]
        = [.done, .found none]
      ∧ oneParam.results [.param .all] = [.entries []]
      ∧ oneParam.initParam.results [.param .all] = [.entries [(ascii "a", ascii "1")]] := by
  decide +kernel

end ParamRequest

end Http

end HrServer
