/-
HrServer.Http.Servlet — `ServletDispatch` of `sylar/http/servlet.cc`.

Exact paths are in a hash table whose entries are overwritten in place,
patterns in a vector where a new registration erases the old entry and
goes to the back. Against a history of calls, `HrServer.Lib.History` says
what each should hold: an entry stands when nothing has touched its key
since. `run_datas` and `run_globs` say that the two tables hold that;
`dispatch_reference` is what follows for a request.

`σ` is the type of `Servlet::ptr`, null included, and `γ` that of the
callbacks; `functionServlet` is `std::make_shared<FunctionServlet>`. A
creator is an object: `get` of the null creator is not modelled. `fnmatch`
is any fixed predicate on the two strings. Each function holds `m_mutex`
from its first line to its last.
-/
import HrServer.Lib.History
import Mathlib.Data.List.AList
import Mathlib.Data.List.Induction

namespace HrServer

open Lib History

namespace Http

/-- `IServletCreator`: a `HoldServletCreator`, or one that builds a servlet. -/
inductive Creator (σ : Type) where
  | hold (slt : σ)
  | make (build : Unit → σ)

variable {σ γ : Type}

def Creator.get : Creator σ → σ
  | hold slt => slt
  | make build => build ()

/-- The data members of `ServletDispatch`. -/
structure ServletDispatch (σ : Type) where
  datas : AList fun _ : String => Creator σ
  globs : List (String × Creator σ)
  fallback : σ

namespace ServletDispatch

/-- The constructor; `notFound` is its `NotFoundServlet`. -/
def new (notFound : σ) : ServletDispatch σ := { datas := ∅, globs := [], fallback := notFound }

/-- The loop that erases the first entry of a pattern. -/
def eraseGlob (uri : String) (globs : List (String × Creator σ)) : List (String × Creator σ) :=
  globs.eraseP fun p => p.1 == uri

variable (d : ServletDispatch σ)

def addServletCreator (uri : String) (creator : Creator σ) : ServletDispatch σ :=
  { d with datas := d.datas.insert uri creator }

def addServlet (uri : String) (slt : σ) : ServletDispatch σ := d.addServletCreator uri (.hold slt)

def addGlobServletCreator (uri : String) (creator : Creator σ) : ServletDispatch σ :=
  { d with globs := eraseGlob uri d.globs ++ [(uri, creator)] }

def addGlobServlet (uri : String) (slt : σ) : ServletDispatch σ :=
  d.addGlobServletCreator uri (.hold slt)

def delServlet (uri : String) : ServletDispatch σ := { d with datas := d.datas.erase uri }

def delGlobServlet (uri : String) : ServletDispatch σ :=
  { d with globs := eraseGlob uri d.globs }

def setDefault (v : σ) : ServletDispatch σ := { d with fallback := v }

def getServlet (uri : String) : Option σ := (d.datas.lookup uri).map Creator.get

def getGlobServlet (uri : String) : Option σ :=
  (d.globs.find? fun p => p.1 == uri).map fun p => p.2.get

/-- `getMatchedServlet`. `fnmatch` is true when the pattern matches. -/
def getMatchedServlet (fnmatch : String → String → Bool) (uri : String) : σ :=
  match d.datas.lookup uri with
  | some creator => creator.get
  | none =>
    match d.globs.find? fun p => fnmatch p.1 uri with
    | some p => p.2.get
    | none => d.fallback

end ServletDispatch

/-! ## Histories -/

/-- A call; the overloads that take a callback have their own names. -/
inductive Call (σ γ : Type) where
  | addServlet (uri : String) (slt : σ)
  | addServletFunction (uri : String) (cb : γ)
  | addServletCreator (uri : String) (creator : Creator σ)
  | addGlobServlet (uri : String) (slt : σ)
  | addGlobServletFunction (uri : String) (cb : γ)
  | addGlobServletCreator (uri : String) (creator : Creator σ)
  | delServlet (uri : String)
  | delGlobServlet (uri : String)
  | setDefault (v : σ)

variable (functionServlet : γ → σ) (notFound : σ)

def perform (d : ServletDispatch σ) : Call σ γ → ServletDispatch σ
  | .addServlet uri slt => d.addServlet uri slt
  | .addServletFunction uri cb => d.addServlet uri (functionServlet cb)
  | .addServletCreator uri creator => d.addServletCreator uri creator
  | .addGlobServlet uri slt => d.addGlobServlet uri slt
  | .addGlobServletFunction uri cb => d.addGlobServlet uri (functionServlet cb)
  | .addGlobServletCreator uri creator => d.addGlobServletCreator uri creator
  | .delServlet uri => d.delServlet uri
  | .delGlobServlet uri => d.delGlobServlet uri
  | .setDefault v => d.setDefault v

/-- A fresh dispatcher after a list of calls. -/
def dispatcher (calls : List (Call σ γ)) : ServletDispatch σ :=
  calls.foldl (perform functionServlet) (.new notFound)

/-- What a call does to the entry of an exact path. -/
def Call.exact : Call σ γ → Option (String × Option (Creator σ))
  | .addServlet uri slt => some (uri, some (.hold slt))
  | .addServletFunction uri cb => some (uri, some (.hold (functionServlet cb)))
  | .addServletCreator uri creator => some (uri, some creator)
  | .delServlet uri => some (uri, none)
  | _ => none

/-- What a call does to the entry of a pattern. -/
def Call.glob : Call σ γ → Option (String × Option (Creator σ))
  | .addGlobServlet uri slt => some (uri, some (.hold slt))
  | .addGlobServletFunction uri cb => some (uri, some (.hold (functionServlet cb)))
  | .addGlobServletCreator uri creator => some (uri, some creator)
  | .delGlobServlet uri => some (uri, none)
  | _ => none

/-- What a call does to the default. -/
def Call.fallback : Call σ γ → Option (Unit × Option σ)
  | .setDefault v => some ((), some v)
  | _ => none

/-! ## The tables hold what stands -/

section tables

variable {functionServlet} {notFound}

theorem dispatcher_concat (calls : List (Call σ γ)) (c : Call σ γ) :
    dispatcher functionServlet notFound (calls ++ [c])
      = perform functionServlet (dispatcher functionServlet notFound calls) c := by
  simp [dispatcher]

theorem lookup_insert (datas : AList fun _ : String => Creator σ) (uri u : String)
    (creator : Creator σ) :
    (datas.insert uri creator).lookup u = if uri = u then some creator else datas.lookup u := by
  split
  · next h => rw [← h, AList.lookup_insert]
  · next h => rw [AList.lookup_insert_ne (Ne.symm h)]

theorem lookup_erase (datas : AList fun _ : String => Creator σ) (uri u : String) :
    (datas.erase uri).lookup u = if uri = u then none else datas.lookup u := by
  split
  · next h => rw [← h, AList.lookup_erase]
  · next h => rw [AList.lookup_erase_ne (Ne.symm h)]

/-- The hash table has the registration that stands. -/
theorem run_datas (calls : List (Call σ γ)) (u : String) :
    (dispatcher functionServlet notFound calls).datas.lookup u
      = latest (Call.exact functionServlet) calls u := by
  induction calls using List.reverseRecOn with
  | nil => rfl
  | append_singleton calls c ih =>
    rw [dispatcher_concat, latest_concat, ← ih]
    cases c <;>
      simp only [perform, Call.exact, ServletDispatch.addServlet, ServletDispatch.addServletCreator,
        ServletDispatch.addGlobServlet, ServletDispatch.addGlobServletCreator,
        ServletDispatch.delServlet, ServletDispatch.delGlobServlet, ServletDispatch.setDefault,
        lookup_insert, lookup_erase]

/-- Where no pattern occurs twice, erasing the first entry erases all. -/
theorem eraseGlob_eq_filter {globs : List (String × Creator σ)} (h : (globs.map Prod.fst).Nodup)
    (uri : String) :
    ServletDispatch.eraseGlob uri globs = globs.filter fun p => !decide (uri = p.1) := by
  unfold ServletDispatch.eraseGlob
  induction globs with
  | nil => rfl
  | cons p globs ih =>
    obtain ⟨hp, hnd⟩ := List.nodup_cons.mp h
    by_cases hkey : p.1 = uri
    · rw [List.eraseP_cons_of_pos (by simp [hkey]), List.filter_cons_of_neg (by simp [hkey])]
      symm
      refine List.filter_eq_self.mpr ?_
      intro q hq
      have hne : uri ≠ q.1 := by
        rintro rfl
        exact hp (hkey ▸ List.mem_map_of_mem hq)
      simp [hne]
    · rw [List.eraseP_cons_of_neg (by simp [hkey]),
        List.filter_cons_of_pos (by simp [Ne.symm hkey]), ih hnd]

/-- The vector has the registrations that stand, the oldest first. -/
theorem run_globs (calls : List (Call σ γ)) :
    (dispatcher functionServlet notFound calls).globs
      = standing (Call.glob functionServlet) calls := by
  induction calls using List.reverseRecOn with
  | nil => rfl
  | append_singleton calls c ih =>
    have herase := eraseGlob_eq_filter
      (@standing_nodup _ _ _ _ (Call.glob functionServlet) calls)
    rw [dispatcher_concat, standing_concat]
    cases c <;>
      simp [perform, touches, entered, Call.glob, ServletDispatch.addServlet,
        ServletDispatch.addServletCreator, ServletDispatch.addGlobServlet,
        ServletDispatch.addGlobServletCreator, ServletDispatch.delServlet,
        ServletDispatch.delGlobServlet, ServletDispatch.setDefault, ih, herase]

theorem run_fallback (calls : List (Call σ γ)) :
    (dispatcher functionServlet notFound calls).fallback
      = (latest Call.fallback calls ()).getD notFound := by
  induction calls using List.reverseRecOn with
  | nil => rfl
  | append_singleton calls c ih =>
    rw [dispatcher_concat, latest_concat]
    cases c <;>
      simp [perform, Call.fallback, ServletDispatch.addServlet, ServletDispatch.addServletCreator,
        ServletDispatch.addGlobServlet, ServletDispatch.addGlobServletCreator,
        ServletDispatch.delServlet, ServletDispatch.delGlobServlet, ServletDispatch.setDefault, ih]

theorem getServlet_eq (calls : List (Call σ γ)) (u : String) :
    (dispatcher functionServlet notFound calls).getServlet u
      = (latest (Call.exact functionServlet) calls u).map Creator.get := by
  rw [ServletDispatch.getServlet, run_datas]

theorem getGlobServlet_eq (calls : List (Call σ γ)) (u : String) :
    (dispatcher functionServlet notFound calls).getGlobServlet u
      = (latest (Call.glob functionServlet) calls u).map Creator.get := by
  simp [ServletDispatch.getGlobServlet, run_globs, latest, Function.comp_def]
  rfl

end tables

/-! ## Requests -/

section requests

variable {functionServlet} {notFound} {calls : List (Call σ γ)} {u : String}

/-- No exact registration of `u` stands. -/
def NoExact (functionServlet : γ → σ) (calls : List (Call σ γ)) (u : String) : Prop :=
  ∀ t creator, ¬ Stands (Call.exact functionServlet) calls t u creator

theorem latest_exact_eq_none (h : NoExact functionServlet calls u) :
    latest (Call.exact functionServlet) calls u = none := by
  cases hlatest : latest (Call.exact functionServlet) calls u with
  | none => rfl
  | some creator =>
    obtain ⟨t, ht⟩ := latest_eq_some_iff.mp hlatest
    exact absurd ht (h t creator)

theorem getMatchedServlet_exact (fnmatch : String → String → Bool) {t : Nat} {creator : Creator σ}
    (h : Stands (Call.exact functionServlet) calls t u creator) :
    (dispatcher functionServlet notFound calls).getMatchedServlet fnmatch u = creator.get := by
  have hlatest := latest_eq_some_iff.mpr ⟨t, h⟩
  simp only [ServletDispatch.getMatchedServlet, run_datas, hlatest]

theorem getMatchedServlet_glob {fnmatch : String → String → Bool}
    (hexact : NoExact functionServlet calls u) {t : Nat} {p : String} {creator : Creator σ}
    (h : Stands (Call.glob functionServlet) calls t p creator) (hp : fnmatch p u = true)
    (hmin : ∀ t' p' creator', Stands (Call.glob functionServlet) calls t' p' creator' →
      fnmatch p' u = true → t ≤ t') :
    (dispatcher functionServlet notFound calls).getMatchedServlet fnmatch u = creator.get := by
  have hfind := find?_standing (p := fun q => fnmatch q.1 u) h hp hmin
  simp only [ServletDispatch.getMatchedServlet, run_datas, latest_exact_eq_none hexact, run_globs,
    hfind]

theorem getMatchedServlet_fallback {fnmatch : String → String → Bool}
    (hexact : NoExact functionServlet calls u)
    (hglob : ∀ t p creator, Stands (Call.glob functionServlet) calls t p creator →
      fnmatch p u = false) :
    (dispatcher functionServlet notFound calls).getMatchedServlet fnmatch u
      = (latest Call.fallback calls ()).getD notFound := by
  have hfind : (standing (Call.glob functionServlet) calls).find? (fun q => fnmatch q.1 u)
      = none := by
    refine List.find?_eq_none.mpr ?_
    rintro ⟨p, creator⟩ hmem
    obtain ⟨t, ht⟩ := mem_standing_iff.mp hmem
    simp [hglob t p creator ht]
  simp only [ServletDispatch.getMatchedServlet, run_datas, latest_exact_eq_none hexact, run_globs,
    hfind, run_fallback]

/-- The calls that do not concern the pattern `p`. -/
def without (functionServlet : γ → σ) (p : String) (calls : List (Call σ γ)) : List (Call σ γ) :=
  calls.filter fun c => !touches (Call.glob functionServlet) p c

theorem globs_deleted (p : String) :
    (dispatcher functionServlet notFound (calls ++ [.delGlobServlet p])).globs
      = (dispatcher functionServlet notFound (without functionServlet p calls)).globs := by
  rw [run_globs, run_globs, without, standing_filter, standing_concat]
  simp [touches, entered, Call.glob, eq_comm]

/-- A deleted pattern is gone: the dispatcher answers as if it had never been registered. -/
theorem getMatchedServlet_deleted (fnmatch : String → String → Bool) (p u : String) :
    (dispatcher functionServlet notFound (calls ++ [.delGlobServlet p])).getMatchedServlet fnmatch u
      = (dispatcher functionServlet notFound (without functionServlet p calls)).getMatchedServlet
          fnmatch u := by
  -- the calls that are left out say nothing about exact paths and the default
  have hother : ∀ c ∈ calls, (!touches (Call.glob functionServlet) p c) = false →
      Call.exact functionServlet c = none ∧ Call.fallback c = none := by
    intro c _ hc
    cases c <;> simp [touches, Call.glob, Call.exact, Call.fallback] at hc ⊢
  have hdatas : latest (Call.exact functionServlet) (without functionServlet p calls) u
      = latest (Call.exact functionServlet) calls u := by
    rw [latest, without, standing_filter_of_none fun c hc hk => (hother c hc hk).1, latest]
  have hfallback : latest Call.fallback (without functionServlet p calls) ()
      = latest Call.fallback calls () := by
    rw [latest, without, standing_filter_of_none fun c hc hk => (hother c hc hk).2, latest]
  simp only [ServletDispatch.getMatchedServlet, globs_deleted, run_datas, run_fallback, hdatas,
    hfallback, latest_concat, Call.exact, Call.fallback]

end requests

/-- The dispatcher against its history: no pattern twice; an exact registration that
stands wins, then the oldest standing pattern that matches, then the default; and a
deleted pattern is as if it had never been there. -/
theorem dispatch_reference (fnmatch : String → String → Bool) (calls : List (Call σ γ)) :
    ((dispatcher functionServlet notFound calls).globs.map Prod.fst).Nodup
      ∧ (∀ u t creator, Stands (Call.exact functionServlet) calls t u creator →
          (dispatcher functionServlet notFound calls).getMatchedServlet fnmatch u = creator.get)
      ∧ (∀ u, NoExact functionServlet calls u → ∀ t p creator,
          Stands (Call.glob functionServlet) calls t p creator → fnmatch p u = true →
          (∀ t' p' creator', Stands (Call.glob functionServlet) calls t' p' creator' →
            fnmatch p' u = true → t ≤ t') →
          (dispatcher functionServlet notFound calls).getMatchedServlet fnmatch u = creator.get)
      ∧ (∀ u, NoExact functionServlet calls u →
          (∀ t p creator, Stands (Call.glob functionServlet) calls t p creator →
            fnmatch p u = false) →
          (dispatcher functionServlet notFound calls).getMatchedServlet fnmatch u
            = (latest Call.fallback calls ()).getD notFound)
      ∧ ∀ p, p ∉ (dispatcher functionServlet notFound
            (calls ++ [.delGlobServlet p])).globs.map Prod.fst
          ∧ ∀ u, (dispatcher functionServlet notFound
              (calls ++ [.delGlobServlet p])).getMatchedServlet fnmatch u
            = (dispatcher functionServlet notFound
                (without functionServlet p calls)).getMatchedServlet fnmatch u := by
  refine ⟨?_, fun u t creator h => getMatchedServlet_exact fnmatch h,
    fun u hexact t p creator h hp hmin => getMatchedServlet_glob hexact h hp hmin,
    fun u hexact hglob => getMatchedServlet_fallback hexact hglob,
    fun p => ⟨?_, fun u => getMatchedServlet_deleted fnmatch p u⟩⟩
  · rw [run_globs]
    exact standing_nodup calls
  · rw [globs_deleted, run_globs, without, standing_filter]
    intro hmem
    obtain ⟨q, hq, hqp⟩ := List.mem_map.mp hmem
    have hne := (List.mem_filter.mp hq).2
    simp [hqp] at hne

/-- Registering a pattern again moves it behind the others. -/
example :
    (dispatcher (σ := Nat) (γ := Empty) Empty.elim 404
      [.addGlobServlet "/a/*" 1, .addGlobServlet "/*" 2,
        .addGlobServlet "/a/*" 3]).getMatchedServlet
        (fun _ _ => true) "/a/b" = 2 := by
  decide

end Http

end HrServer
