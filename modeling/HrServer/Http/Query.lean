/-
HrServer.Http.Query — `PARSE_PARAM` against the cutting of a string at its
delimiters.

`reference` is what the macro should insert: the string is cut at every
delimiter, segments without `=` are dropped, the others are cut at their
first `=`. The macro looks for the next `=` first and for the delimiter
behind it, so that the key of a segment begins where the last pair ended,
with every segment without `=` in between (`parseParam_eq`): `a&b=1` gives
the key `a&b`.

A key with a delimiter in it is none of the reference's, so the two maps
differ unless the key is hidden by an equal one before it, which takes a
zero byte. `inserted_merged_iff` is the exact condition, and
`harmless_iff_separated` what it comes to for strings without zero bytes.
-/
import HrServer.Http.LazyParams

namespace HrServer

open Lib Util

namespace Http

/-! ## Segments -/

/-- A segment with `=`, cut at the first one, and the segments without `=` that stand
directly before it. -/
structure Segment where
  skipped : List Bytes
  name : Bytes
  value : Bytes
  deriving DecidableEq

/-- The text before the first `=`. -/
def beforeEquals (seg : Bytes) : Bytes := seg.takeWhile (· ≠ 61)

/-- The text behind the first `=`. -/
def behindEquals (seg : Bytes) : Bytes := (seg.dropWhile (· ≠ 61)).tail

/-- The segments with `=` of a list of segments; `skipped` are those without since the last. -/
def collect (skipped : List Bytes) : List Bytes → List Segment
  | [] => []
  | seg :: segs =>
    if 61 ∈ seg then
      ⟨skipped, beforeEquals seg, behindEquals seg⟩ :: collect [] segs
    else collect (skipped ++ [seg]) segs

/-- The pair that a segment stands for. -/
def Segment.pair (trim : Bytes → Bytes) (g : Segment) : Bytes × Bytes :=
  (trim g.name, StringUtil.urlDecode g.value true)

/-- The pair that `PARSE_PARAM` makes of it. -/
def Segment.merged (flag : UInt8) (trim : Bytes → Bytes) (g : Segment) : Bytes × Bytes :=
  (trim ([flag].intercalate (g.skipped ++ [g.name])), StringUtil.urlDecode g.value true)

theorem cut_at_equals {seg : Bytes} (h : 61 ∈ seg) :
    61 ∉ beforeEquals seg ∧ beforeEquals seg ++ 61 :: behindEquals seg = seg := by
  induction seg with
  | nil => cases h
  | cons c seg ih =>
    by_cases hc : c = 61
    · simp [beforeEquals, behindEquals, hc]
    · have hmem : 61 ∈ seg := by simpa [Ne.symm hc] using h
      obtain ⟨h1, h2⟩ := ih hmem
      have htake : beforeEquals (c :: seg) = c :: beforeEquals seg := by simp [beforeEquals, hc]
      have hdrop : behindEquals (c :: seg) = behindEquals seg := by simp [behindEquals, hc]
      rw [htake, hdrop, List.cons_append, h2]
      exact ⟨by simp [Ne.symm hc, h1], rfl⟩

section cutting

variable {flag : UInt8}

/-- What stands behind a segment. -/
def behind (flag : UInt8) : List Bytes → Bytes
  | [] => []
  | seg :: segs => flag :: [flag].intercalate (seg :: segs)

theorem intercalate_cut (skipped : List Bytes) (name value : Bytes) (segs : List Bytes) :
    [flag].intercalate (skipped ++ (name ++ 61 :: value) :: segs)
      = [flag].intercalate (skipped ++ [name]) ++ 61 :: (value ++ behind flag segs) := by
  induction skipped with
  | nil => cases segs <;> simp [behind]
  | cons s skipped ih =>
    simp only [List.cons_append]
    rw [List.intercalate_cons_of_ne_nil (by simp), List.intercalate_cons_of_ne_nil (by simp), ih]
    simp

theorem not_mem_intercalate {c : UInt8} (hc : c ≠ flag) {segs : List Bytes}
    (h : ∀ s ∈ segs, c ∉ s) : c ∉ [flag].intercalate segs := by
  induction segs with
  | nil => simp
  | cons s segs ih =>
    cases segs with
    | nil => simpa using h
    | cons t segs =>
      rw [List.forall_mem_cons] at h
      simp [h.1, hc, ih h.2]

/-- The last pair of a string. -/
theorem parseParam_last (hflag : flag ≠ 61) (trim : Bytes → Bytes) {name value : Bytes}
    (hname : 61 ∉ name) (hvalue : flag ∉ value) (before : Bytes) :
    parseParam (before ++ (name ++ 61 :: value)) flag trim before.length
      = [(trim name, StringUtil.urlDecode value true)] := by
  have hkey := findFrom_append hname before value
  have hend : findFrom (before ++ (name ++ 61 :: value)) flag (before.length + name.length)
      = none := by
    have hnone := @findFrom_eq_none flag (61 :: value) (by simp [hflag, hvalue]) (before ++ name)
    simpa using hnone
  have hdrop : (before ++ (name ++ 61 :: value)).drop (before.length + name.length + 1)
      = value := by
    rw [← List.append_assoc, List.append_cons, ← List.length_append]
    exact List.drop_left' (by simp [Nat.add_assoc])
  rw [parseParam]
  split
  · next h => rw [hkey] at h; cases h
  · next key h =>
    rw [hkey] at h
    cases h
    split
    · simp [hdrop]
    · next next hnext => rw [hend] at hnext; cases hnext

/-- A pair and the delimiter behind it. -/
theorem parseParam_next (hflag : flag ≠ 61) (trim : Bytes → Bytes) {name value : Bytes}
    (hname : 61 ∉ name) (hvalue : flag ∉ value) (before rest : Bytes) :
    parseParam (before ++ (name ++ 61 :: (value ++ flag :: rest))) flag trim before.length
      = (trim name, StringUtil.urlDecode value true)
        :: parseParam (before ++ (name ++ 61 :: (value ++ [flag])) ++ rest) flag trim
          (before ++ (name ++ 61 :: (value ++ [flag]))).length := by
  have hkey := findFrom_append hname before (value ++ flag :: rest)
  have hnext : findFrom (before ++ (name ++ 61 :: (value ++ flag :: rest))) flag
      (before.length + name.length) = some (before.length + name.length + (value.length + 1)) := by
    have hsome := @findFrom_append flag (61 :: value) (by simp [hflag, hvalue]) (before ++ name)
      rest
    simpa using hsome
  have hval : substr (before ++ (name ++ 61 :: (value ++ flag :: rest)))
      (before.length + name.length + 1) value.length = value := by
    have hsub := substr_append (before ++ name ++ [61]) value (flag :: rest)
    simpa [Nat.add_assoc] using hsub
  rw [parseParam]
  split
  · next h => rw [hkey] at h; cases h
  · next key h =>
    rw [hkey] at h
    cases h
    split
    · next h => rw [hnext] at h; cases h
    · next next h =>
      rw [hnext] at h
      cases h
      have hlen : before.length + name.length + (value.length + 1)
          - (before.length + name.length) - 1 = value.length := by omega
      rw [hlen, hval]
      simp [Nat.add_assoc]

/-- The loop on a string that is given by its segments, from the first of `skipped` on. -/
theorem parseParam_segments (hflag : flag ≠ 61) (trim : Bytes → Bytes) (segs : List Bytes)
    (hsegs : ∀ s ∈ segs, flag ∉ s) (before : Bytes) (skipped : List Bytes)
    (hskipped : ∀ s ∈ skipped, 61 ∉ s) :
    parseParam (before ++ [flag].intercalate (skipped ++ segs)) flag trim before.length
      = (collect skipped segs).map (Segment.merged flag trim) := by
  induction segs generalizing before skipped with
  | nil =>
    have hnone : 61 ∉ [flag].intercalate (skipped ++ []) :=
      not_mem_intercalate hflag.symm (by simpa using hskipped)
    rw [parseParam]
    split
    · rfl
    · next key hkey =>
      rw [findFrom_eq_none hnone] at hkey
      cases hkey
  | cons seg segs ih =>
    rw [List.forall_mem_cons] at hsegs
    by_cases hseg : 61 ∈ seg
    · -- the name goes up to the first `=`, over all that was skipped
      obtain ⟨hname, hcut⟩ := cut_at_equals hseg
      have hvalue : flag ∉ behindEquals seg := by
        intro hmem
        exact hsegs.1 (hcut ▸ List.mem_append_right _ (List.mem_cons_of_mem _ hmem))
      have hmerged : 61 ∉ [flag].intercalate (skipped ++ [beforeEquals seg]) :=
        not_mem_intercalate hflag.symm (by simpa [or_imp, forall_and] using ⟨hskipped, hname⟩)
      rw [collect, if_pos hseg, List.map_cons]
      conv_lhs => rw [← hcut, intercalate_cut]
      cases segs with
      | nil =>
        rw [behind, List.append_nil, parseParam_last hflag trim hmerged hvalue]
        rfl
      | cons seg' segs =>
        rw [behind, parseParam_next hflag trim hmerged hvalue]
        have hrest := ih hsegs.2
          (before ++ ([flag].intercalate (skipped ++ [beforeEquals seg])
            ++ 61 :: (behindEquals seg ++ [flag]))) [] (by simp)
        rw [List.nil_append] at hrest
        rw [hrest]
        rfl
    · have hnext := ih hsegs.2 before (skipped ++ [seg])
        (by simpa [or_imp, forall_and, hseg] using hskipped)
      rw [collect, if_neg hseg, ← hnext]
      simp

theorem not_mem_of_mem_splitOn {str seg : Bytes} (h : seg ∈ str.splitOn flag) : flag ∉ seg := by
  induction str generalizing seg with
  | nil => simp_all [List.splitOn_nil]
  | cons c str ih =>
    rw [List.splitOn_cons_eq_if_modifyHead] at h
    split at h
    · rcases List.mem_cons.mp h with rfl | h
      · exact List.not_mem_nil
      · exact ih h
    · next hc =>
      cases hsegs : str.splitOn flag with
      | nil => exact absurd hsegs (List.splitOn_ne_nil flag str)
      | cons first segs =>
        rw [hsegs, List.modifyHead_cons, List.mem_cons] at h
        have hne : flag ≠ c := fun heq => hc (by simp [heq])
        rcases h with rfl | h
        · simp [hne, ih (hsegs ▸ List.mem_cons_self)]
        · exact ih (hsegs ▸ List.mem_cons_of_mem _ h)

/-- What `PARSE_PARAM` inserts, by the segments. -/
theorem parseParam_eq (hflag : flag ≠ 61) (trim : Bytes → Bytes) (str : Bytes) :
    parseParam str flag trim 0
      = (collect [] (str.splitOn flag)).map (Segment.merged flag trim) := by
  have hsegs := parseParam_segments hflag trim (str.splitOn flag)
    (fun _ => not_mem_of_mem_splitOn) [] [] (by simp)
  simpa using hsegs

/-- The names of the segments are without the delimiter. -/
theorem not_mem_name {skipped segs : List Bytes} (h : ∀ s ∈ segs, flag ∉ s) :
    ∀ g ∈ collect skipped segs, flag ∉ g.name := by
  induction segs generalizing skipped with
  | nil => simp [collect]
  | cons seg segs ih =>
    rw [List.forall_mem_cons] at h
    rw [collect]
    split
    · next hseg =>
      rw [List.forall_mem_cons]
      refine ⟨fun hmem => h.1 ?_, ih h.2⟩
      rw [← (cut_at_equals hseg).2]
      exact List.mem_append_left _ hmem
    · exact ih h.2

end cutting

/-! ## The reference -/

/-- The pairs of a string by the book: it is cut at every delimiter, the segments with `=` are
kept, and each is cut at its first `=`. -/
def reference (str : Bytes) (flag : UInt8) (trim : Bytes → Bytes) : List (Bytes × Bytes) :=
  ((str.splitOn flag).filter (61 ∈ ·)).map fun seg =>
    (trim (beforeEquals seg), StringUtil.urlDecode (behindEquals seg) true)

/-- The map that the pairs are inserted into; the first of equal keys wins. -/
def inserted (es : List (Bytes × Bytes)) : ParamMap := es.foldl .insert .empty

theorem map_collect_pair (trim : Bytes → Bytes) (skipped segs : List Bytes) :
    (collect skipped segs).map (Segment.pair trim)
      = (segs.filter (61 ∈ ·)).map fun seg =>
          (trim (beforeEquals seg), StringUtil.urlDecode (behindEquals seg) true) := by
  induction segs generalizing skipped with
  | nil => simp [collect]
  | cons seg segs ih =>
    rw [collect]
    split
    · next hseg =>
      rw [List.filter_cons_of_pos (by simpa using hseg), List.map_cons, List.map_cons, ih]
      rfl
    · next hseg => rw [List.filter_cons_of_neg (by simpa using hseg), ih]

theorem lookup_inserted (es : List (Bytes × Bytes)) (key : Bytes) :
    (inserted es).lookup key = es.find? fun e => HttpRequest.strcasecmpEq key e.1 := by
  rw [inserted, ParamMap.lookup_insertAll]
  rfl

theorem inserted_eq_iff {es es' : List (Bytes × Bytes)} :
    inserted es = inserted es' ↔ ∀ key,
      (es.find? fun e => HttpRequest.strcasecmpEq key e.1)
        = es'.find? fun e => HttpRequest.strcasecmpEq key e.1 := by
  simp only [LazyMap.ext_iff_lookup, lookup_inserted]

/-! ## When the two agree -/

/-- Nothing stands between the segment and the one with `=` before it. -/
def Segment.isPlain (g : Segment) : Bool := g.skipped.isEmpty

/-- A segment that was merged with skipped ones does no harm: a plain segment before it has
the merged key already, and in the reference its own key gets its value from a plain
segment, too. -/
def Harmless (flag : UInt8) (trim : Bytes → Bytes) (gs : List Segment) : Prop :=
  ∀ before g after, gs = before ++ g :: after → g.isPlain = false →
    (∃ g' ∈ before, g'.isPlain = true
      ∧ HttpRequest.strcasecmpEq (g.merged flag trim).1 (g'.pair trim).1 = true)
    ∧ ((gs.map (Segment.pair trim)).find? fun e =>
        HttpRequest.strcasecmpEq (g.pair trim).1 e.1)
      = ((gs.filter Segment.isPlain).map (Segment.pair trim)).find? fun e =>
        HttpRequest.strcasecmpEq (g.pair trim).1 e.1

/-- What the parsing needs of the delimiter and of what is done to the keys. -/
structure Cuts (flag : UInt8) (trim : Bytes → Bytes) : Prop where
  ne_equals : flag ≠ 61
  mem_trim : ∀ s, flag ∈ trim s ↔ flag ∈ s
  nul_trim : ∀ s, 0 ∈ trim s → 0 ∈ s
  lower : ∀ c, toLower c = flag ↔ c = flag

theorem Segment.merged_plain {flag : UInt8} {trim : Bytes → Bytes} {g : Segment}
    (h : g.isPlain = true) : g.merged flag trim = g.pair trim := by
  have hnil : g.skipped = [] := by simpa [isPlain] using h
  simp [merged, pair, hnil]

/-- The key of a segment that was merged has a delimiter in it. -/
theorem Segment.mem_merged {flag : UInt8} {trim : Bytes → Bytes} (hcuts : Cuts flag trim)
    {g : Segment} (h : g.isPlain = false) : flag ∈ (g.merged flag trim).1 := by
  rw [merged, hcuts.mem_trim]
  cases hs : g.skipped with
  | nil => simp [isPlain, hs] at h
  | cons s skipped => simp [List.intercalate_cons_of_ne_nil]

/-- Elements that are found only behind others like them may be left out. -/
theorem find?_map_filter {α β : Type} (f : α → β) (keep : α → Bool) (p : β → Bool) (gs : List α)
    (h : ∀ before g after, gs = before ++ g :: after → keep g = false → p (f g) = true →
      ∃ g' ∈ before, p (f g') = true) :
    (gs.map f).find? p = ((gs.filter keep).map f).find? p := by
  induction gs using List.reverseRecOn with
  | nil => rfl
  | append_singleton gs g ih =>
    have hgs := ih fun before g' after heq => h before g' (after ++ [g]) (by simp [heq])
    rw [List.map_append, List.find?_append, List.filter_append, List.map_append, List.find?_append,
      hgs]
    cases hkeep : keep g with
    | true => simp [hkeep]
    | false =>
      cases hp : p (f g) with
      | false => simp [hkeep, hp]
      | true =>
        obtain ⟨g', hg', hpg'⟩ := h gs g [] rfl hkeep hp
        have hsome : ((gs.map f).find? p).isSome = true := by
          rw [List.find?_isSome]
          exact ⟨f g', List.mem_map_of_mem hg', hpg'⟩
        rw [hgs] at hsome
        obtain ⟨e, he⟩ := Option.isSome_iff_exists.mp hsome
        simp [hkeep, he]

section harmless

variable {flag : UInt8} {trim : Bytes → Bytes} {gs : List Segment}

/-- With every merged key shadowed, the code inserts what the plain segments give. -/
theorem find?_merged
    (h : ∀ before g after, gs = before ++ g :: after → g.isPlain = false →
      ∃ g' ∈ before, g'.isPlain = true
        ∧ HttpRequest.strcasecmpEq (g.merged flag trim).1 (g'.pair trim).1 = true) (key : Bytes) :
    ((gs.map (Segment.merged flag trim)).find? fun e => HttpRequest.strcasecmpEq key e.1)
      = ((gs.filter Segment.isPlain).map (Segment.pair trim)).find? fun e =>
          HttpRequest.strcasecmpEq key e.1 := by
  rw [find?_map_filter (Segment.merged flag trim) Segment.isPlain]
  · congr 1
    refine List.map_congr_left ?_
    intro g hg
    exact Segment.merged_plain (List.mem_filter.mp hg).2
  · intro before g after heq hplain hkey
    obtain ⟨g', hg', hplain', hsame⟩ := h before g after heq hplain
    refine ⟨g', hg', ?_⟩
    rw [Segment.merged_plain hplain', strcasecmpEq_congr hkey]
    exact hsame

/-- The code inserts what the reference does exactly when no merged segment does harm. -/
theorem inserted_merged_iff (hcuts : Cuts flag trim) (hnames : ∀ g ∈ gs, flag ∉ g.name) :
    inserted (gs.map (Segment.merged flag trim)) = inserted (gs.map (Segment.pair trim))
      ↔ Harmless flag trim gs := by
  rw [inserted_eq_iff]
  constructor
  · intro heq
    -- the entry of a merged key cannot be the merged segment itself
    have hshadow : ∀ before g after, gs = before ++ g :: after → g.isPlain = false →
        ∃ g' ∈ before, g'.isPlain = true
          ∧ HttpRequest.strcasecmpEq (g.merged flag trim).1 (g'.pair trim).1 = true := by
      intro before g after hgs hplain
      have hkey := heq (g.merged flag trim).1
      have hpure : ∀ e, ((gs.map (Segment.pair trim)).find? fun e =>
          HttpRequest.strcasecmpEq (g.merged flag trim).1 e.1) = some e → flag ∉ e.1 := by
        intro e he
        obtain ⟨g0, hg0, rfl⟩ := List.mem_map.mp (List.mem_of_find?_eq_some he)
        rw [Segment.pair, hcuts.mem_trim]
        exact hnames g0 hg0
      rw [← hkey, hgs, List.map_append, List.find?_append] at hpure
      cases hbefore : (before.map (Segment.merged flag trim)).find? fun e =>
          HttpRequest.strcasecmpEq (g.merged flag trim).1 e.1 with
      | none =>
        have hself : flag ∉ (g.merged flag trim).1 := hpure _ (by simp [hbefore])
        exact absurd (Segment.mem_merged hcuts hplain) hself
      | some e =>
        have hnot : flag ∉ e.1 := hpure e (by simp [hbefore])
        obtain ⟨g0, hg0, rfl⟩ := List.mem_map.mp (List.mem_of_find?_eq_some hbefore)
        have hsame := List.find?_some hbefore
        have hplain0 : g0.isPlain = true := by
          cases hp : g0.isPlain with
          | true => rfl
          | false => exact absurd (Segment.mem_merged hcuts hp) hnot
        rw [Segment.merged_plain hplain0] at hsame
        exact ⟨g0, hg0, hplain0, hsame⟩
    intro before g after hgs hplain
    refine ⟨hshadow before g after hgs hplain, ?_⟩
    rw [← heq, find?_merged hshadow]
  · intro h key
    rw [find?_merged (fun before g after hgs hplain => (h before g after hgs hplain).1)]
    by_cases hex : ∃ g ∈ gs, g.isPlain = false
        ∧ HttpRequest.strcasecmpEq key (g.pair trim).1 = true
    · obtain ⟨g, hg, hplain, hkey⟩ := hex
      obtain ⟨before, after, hgs⟩ := List.append_of_mem hg
      have hclass := (h before g after hgs hplain).2
      simp only [strcasecmpEq_congr hkey]
      exact hclass.symm
    · refine (find?_map_filter (Segment.pair trim) Segment.isPlain _ gs ?_).symm
      intro before g after hgs hplain hkey
      exact absurd ⟨g, hgs ▸ List.mem_append_right _ List.mem_cons_self, hplain, hkey⟩ hex

end harmless

/-! ## Texts without zero bytes -/

theorem strcasecmpLess_none_iff (a b : Bytes) :
    strcasecmpLess a b = false ∧ strcasecmpLess b a = false ↔ a.map toLower = b.map toLower := by
  induction a generalizing b with
  | nil => cases b <;> simp [strcasecmpLess]
  | cons x a ih =>
    cases b with
    | nil => simp [strcasecmpLess]
    | cons y b =>
      rw [List.map_cons, List.map_cons, List.cons.injEq, ← ih b]
      simp only [strcasecmpLess]
      by_cases hxy : toLower x < toLower y
      · simp [hxy, UInt8.ne_of_lt hxy]
      · by_cases hyx : toLower y < toLower x
        · simp [hxy, hyx, (UInt8.ne_of_lt hyx).symm]
        · have heq := UInt8.le_antisymm (UInt8.not_lt.mp hyx) (UInt8.not_lt.mp hxy)
          simp [heq]

/-- Two keys are equal when their C strings are, up to case. -/
theorem strcasecmpEq_iff (a b : Bytes) :
    HttpRequest.strcasecmpEq a b = true ↔ (cStr a).map toLower = (cStr b).map toLower := by
  rw [← strcasecmpLess_none_iff, HttpRequest.strcasecmpEq, Bool.and_eq_true, Bool.not_eq_true',
    Bool.not_eq_true', caseInsensitiveLess, caseInsensitiveLess]

theorem cStr_of_not_mem {s : Bytes} (h : 0 ∉ s) : cStr s = s := by
  induction s with
  | nil => rfl
  | cons c s ih =>
    rw [List.mem_cons, not_or] at h
    have hs : s.takeWhile (· ≠ 0) = s := ih h.2
    rw [cStr, List.takeWhile_cons_of_pos (by simpa using Ne.symm h.1), hs]

/-- Only letters have another case. -/
theorem toLower_eq_iff {x : UInt8} (hx : x.toNat < 65) (c : UInt8) : toLower c = x ↔ c = x := by
  unfold toLower
  split
  · next h =>
    rw [UInt8.le_iff_toNat_le, UInt8.le_iff_toNat_le] at h
    have h65 : (65 : UInt8).toNat = 65 := rfl
    have h90 : (90 : UInt8).toNat = 90 := rfl
    have h32 : (32 : UInt8).toNat = 32 := rfl
    rw [← UInt8.toNat_inj, ← UInt8.toNat_inj, UInt8.toNat_add]
    omega
  · exact Iff.rfl

/-! ## The two delimiters -/

theorem cuts_query : Cuts 38 id where
  ne_equals := by decide
  mem_trim _ := Iff.rfl
  nul_trim _ := id
  lower := toLower_eq_iff (by decide)

theorem cuts_cookie : Cuts 59 (StringUtil.trim · StringUtil.blanks) where
  ne_equals := by decide
  mem_trim s := StringUtil.mem_trim (by decide) s
  nul_trim s := (StringUtil.mem_trim (by decide) s).mp
  lower := toLower_eq_iff (by decide)

/-! ## In plain words -/

/-- No segment without `=` stands anywhere before one with it. -/
def Separated (flag : UInt8) (str : Bytes) : Prop :=
  (str.splitOn flag).Pairwise fun seg seg' => 61 ∈ seg' → 61 ∈ seg

instance (flag : UInt8) (str : Bytes) : Decidable (Separated flag str) :=
  inferInstanceAs (Decidable (List.Pairwise _ _))

theorem collect_plain_iff (skipped segs : List Bytes) :
    (∀ g ∈ collect skipped segs, g.isPlain = true)
      ↔ (skipped = [] ∨ ∀ seg ∈ segs, 61 ∉ seg)
        ∧ segs.Pairwise fun seg seg' => 61 ∈ seg' → 61 ∈ seg := by
  induction segs generalizing skipped with
  | nil => simp [collect]
  | cons seg segs ih =>
    rw [collect, List.pairwise_cons, List.forall_mem_cons]
    by_cases hseg : 61 ∈ seg
    · rw [if_pos hseg, List.forall_mem_cons, ih]
      simp [hseg, Segment.isPlain]
    · rw [if_neg hseg, ih]
      simp only [hseg, not_false_eq_true, true_and, imp_false, List.append_eq_nil_iff,
        List.cons_ne_nil, and_false, false_or]
      tauto

/-- The names are free of what the string is free of. -/
theorem collect_free {c flag : UInt8} (hc : c ≠ flag) {skipped segs : List Bytes}
    (hskipped : ∀ s ∈ skipped, c ∉ s) (hsegs : ∀ s ∈ segs, c ∉ s) :
    ∀ g ∈ collect skipped segs, c ∉ [flag].intercalate (g.skipped ++ [g.name]) := by
  induction segs generalizing skipped with
  | nil => simp [collect]
  | cons seg segs ih =>
    rw [List.forall_mem_cons] at hsegs
    rw [collect]
    split
    · next hseg =>
      rw [List.forall_mem_cons]
      refine ⟨?_, ih (by simp) hsegs.2⟩
      have hname : c ∉ beforeEquals seg := by
        intro hmem
        refine hsegs.1 ?_
        rw [← (cut_at_equals hseg).2]
        exact List.mem_append_left _ hmem
      exact not_mem_intercalate hc (by simpa [or_imp, forall_and] using ⟨hskipped, hname⟩)
    · exact ih (by simpa [or_imp, forall_and, hsegs.1] using hskipped) hsegs.2

theorem mem_of_mem_splitOn {c flag : UInt8} {str seg : Bytes} (h : seg ∈ str.splitOn flag)
    (hc : c ∈ seg) : c ∈ str := by
  have hjoin : List.intercalate [flag] (str.splitOn flag) = str := List.intercalate_splitOn flag
  rw [← hjoin]
  obtain ⟨before, after, heq⟩ := List.append_of_mem h
  rw [heq]
  clear heq h
  induction before with
  | nil => cases after <;> simp [hc]
  | cons s before ih =>
    rw [List.cons_append, List.intercalate_cons_of_ne_nil (by simp)]
    exact List.mem_append_right _ ih

/-- Without zero bytes no merged key is shadowed. -/
theorem harmless_iff_separated {flag : UInt8} {trim : Bytes → Bytes} (hcuts : Cuts flag trim)
    (hflag : flag ≠ 0) {str : Bytes} (hnul : 0 ∉ str) :
    Harmless flag trim (collect [] (str.splitOn flag)) ↔ Separated flag str := by
  have hplain := collect_plain_iff [] (str.splitOn flag)
  simp only [true_or, true_and] at hplain
  rw [Separated, ← hplain]
  constructor
  · intro h g hg
    cases hp : g.isPlain with
    | true => rfl
    | false =>
      have hfree : ∀ g ∈ collect [] (str.splitOn flag), 0 ∉ (g.merged flag trim).1 := by
        intro g hg hmem
        exact collect_free hflag.symm (by simp)
          (fun s hs hc => hnul (mem_of_mem_splitOn hs hc)) g hg (hcuts.nul_trim _ hmem)
      obtain ⟨before, after, heq⟩ := List.append_of_mem hg
      obtain ⟨⟨g', hg', hplain', hsame⟩, -⟩ := h before g after heq hp
      have hmem' : g' ∈ collect [] (str.splitOn flag) := heq ▸ List.mem_append_left _ hg'
      have hnul' := hfree g' hmem'
      rw [Segment.merged_plain hplain'] at hnul'
      rw [strcasecmpEq_iff, cStr_of_not_mem (hfree g hg), cStr_of_not_mem hnul'] at hsame
      have hmerged : toLower flag ∈ (g.merged flag trim).1.map toLower :=
        List.mem_map_of_mem (Segment.mem_merged hcuts hp)
      rw [hsame, List.mem_map] at hmerged
      obtain ⟨c, hc, hlower⟩ := hmerged
      rw [(hcuts.lower flag).mpr rfl, hcuts.lower] at hlower
      subst hlower
      rw [Segment.pair, hcuts.mem_trim] at hc
      exact absurd hc (not_mem_name (fun _ => not_mem_of_mem_splitOn) g' hmem')
  · intro h before g after heq hp
    rw [h g (heq ▸ List.mem_append_right _ List.mem_cons_self)] at hp
    cases hp

/-! ## Requests -/

/-- The pairs that the macro inserts give the map of the reference exactly when no merged
segment does harm; without zero bytes, when no segment without `=` stands before one with
it. -/
theorem inserted_parseParam {flag : UInt8} {trim : Bytes → Bytes} (hcuts : Cuts flag trim)
    (hflag : flag ≠ 0) (str : Bytes) :
    (inserted (parseParam str flag trim 0) = inserted (reference str flag trim)
        ↔ Harmless flag trim (collect [] (str.splitOn flag)))
      ∧ (0 ∉ str → (inserted (parseParam str flag trim 0) = inserted (reference str flag trim)
        ↔ Separated flag str)) := by
  have hiff := inserted_merged_iff hcuts
    (@not_mem_name flag [] _ fun s (hs : s ∈ str.splitOn flag) => not_mem_of_mem_splitOn hs)
  rw [parseParam_eq hcuts.ne_equals, reference, ← map_collect_pair trim [] (str.splitOn flag)]
  exact ⟨hiff, fun hnul => hiff.trans (harmless_iff_separated hcuts hflag hnul)⟩

/-- For every query, form body and cookie header: the map that is made of it, from an empty
one, is that of the reference if and only if no segment that was merged with segments
without `=` does harm; and if there is no zero byte, if and only if no segment without `=`
stands before one with it. -/
theorem initParams_iff_reference (r : ParamRequest) :
    (r.params = .empty → r.parserParamFlag &&& 0x1 = 0 →
      (r.initQueryParam.params = inserted (reference r.query 38 id)
          ↔ Harmless 38 id (collect [] (r.query.splitOn 38)))
        ∧ (0 ∉ r.query → (r.initQueryParam.params = inserted (reference r.query 38 id)
          ↔ Separated 38 r.query)))
    ∧ (r.params = .empty → r.parserParamFlag &&& 0x2 = 0 →
      strcasestr (r.getHeader (ascii "content-type"))
        (ascii "application/x-www-form-urlencoded") = true →
      (r.initBodyParam.params = inserted (reference r.body 38 id)
          ↔ Harmless 38 id (collect [] (r.body.splitOn 38)))
        ∧ (0 ∉ r.body → (r.initBodyParam.params = inserted (reference r.body 38 id)
          ↔ Separated 38 r.body)))
    ∧ (r.cookies = .empty → r.parserParamFlag &&& 0x4 = 0 →
      (r.initCookies.cookies = inserted (reference (r.getHeader (ascii "cookie")) 59
            (StringUtil.trim · StringUtil.blanks))
          ↔ Harmless 59 (StringUtil.trim · StringUtil.blanks)
            (collect [] ((r.getHeader (ascii "cookie")).splitOn 59)))
        ∧ (0 ∉ r.getHeader (ascii "cookie") →
          (r.initCookies.cookies = inserted (reference (r.getHeader (ascii "cookie")) 59
              (StringUtil.trim · StringUtil.blanks))
            ↔ Separated 59 (r.getHeader (ascii "cookie"))))) := by
  refine ⟨?_, ?_, ?_⟩
  · intro hempty hflag
    have hparams : r.initQueryParam.params = inserted (parseParam r.query 38 id 0) := by
      rw [r.initQueryParam_spec.2.2.2.1, hempty]
      simp [ParamRequest.pendingQuery, hflag, inserted]
    rw [hparams]
    exact inserted_parseParam cuts_query (by decide) r.query
  · intro hempty hflag hform
    have hparams : r.initBodyParam.params = inserted (parseParam r.body 38 id 0) := by
      rw [r.initBodyParam_spec.2.2.2.1, hempty]
      simp [ParamRequest.pendingBody, hflag, hform, inserted]
    rw [hparams]
    exact inserted_parseParam cuts_query (by decide) r.body
  · intro hempty hflag
    have hcookies : r.initCookies.cookies
        = inserted (parseParam (r.getHeader (ascii "cookie")) 59
            (StringUtil.trim · StringUtil.blanks) 0) := by
      rw [r.initCookies_spec.2.2.2.2, hempty]
      cases hc : (r.getHeader (ascii "cookie")).isEmpty with
      | false => simp [ParamRequest.pendingCookies, hflag, hc, inserted]
      | true =>
        -- an empty header has no pairs either
        have hnil := List.isEmpty_iff.mp hc
        rw [hnil, parseParam_eq cuts_cookie.ne_equals]
        simp [ParamRequest.pendingCookies, hflag, hc, inserted, collect]
    rw [hcookies]
    exact inserted_parseParam cuts_cookie (by decide) _

/-- A request with this query and nothing else. -/
def queryRequest (query : Bytes) : ParamRequest :=
  { HttpRequest.new with query := query, params := .empty, cookies := .empty, parserParamFlag := 0 }

/-- A segment without `=` at the end is dropped by both. -/
theorem initParams_iff_reference_two :
    (queryRequest (ascii "b=1&a=2&b")).initQueryParam.params
      = inserted (reference (ascii "b=1&a=2&b") 38 id) :=
  (((initParams_iff_reference (queryRequest (ascii "b=1&a=2&b"))).1 rfl (by decide)).2
    (by decide)).mpr (by decide +kernel)

/-- From `a&b=1` the code takes the parameter `a&b`, and none named `b`. -/
theorem query_merges_segments :
    (queryRequest (ascii "a&b=1")).initQueryParam.params.entries = [(ascii "a&b", ascii "1")]
      ∧ (inserted (reference (ascii "a&b=1") 38 id)).entries = [(ascii "b", ascii "1")]
      ∧ (queryRequest (ascii "a&b=1")).initQueryParam.params
        ≠ inserted (reference (ascii "a&b=1") 38 id) := by
  decide +kernel

end Http

end HrServer
