/-
HrServer.Http.ParserTheorems — the request parser, one character at a
time.

What the lookup finds (`Machine.transIndex_spec`) lifts one fact about the
tables to the machine: a method ends at a space (`requestMethod_space`), so
that looking its name up does not depend on what follows in memory
(`charsToHttpMethod_space`).

`exec_cons` peels one character off a run of the machine that consumes
its whole buffer.
-/
import Mathlib.Data.List.Find
import HrServer.Http.Parser

namespace HrServer

open Lib

namespace Http

open Tables

/-! ## The table lookup -/

/-- A property of all entries of a table that was checked along its lines. -/
theorem at8_of_all (table : List (List Nat)) (P : Nat → Nat → Bool) (i : Nat)
    (h : (table.zipIdx.all fun row => row.1.zipIdx.all fun e => P (8 * row.2 + e.2) e.1) = true)
    (hdef : P i 0 = true) : P i (at8 table i) = true := by
  unfold at8
  cases hrow : table[i / 8]? with
  | none => simpa [List.getD, hrow] using hdef
  | some row =>
    cases he : row[i % 8]? with
    | none => simpa [List.getD, hrow, he] using hdef
    | some e =>
      have hr : (row, i / 8) ∈ table.zipIdx := by
        rw [List.mem_zipIdx_iff_getElem?]
        exact hrow
      have hx : (e, i % 8) ∈ row.zipIdx := by
        rw [List.mem_zipIdx_iff_getElem?]
        exact he
      have := List.all_eq_true.mp (List.all_eq_true.mp h _ hr) _ hx
      simpa [List.getD, hrow, he, Nat.div_add_mod] using this

/-- Behind the last line of a table. -/
theorem at8_beyond (table : List (List Nat)) {i : Nat} (h : table.length ≤ i / 8) :
    at8 table i = 0 := by
  simp [at8, List.getD, List.getElem?_eq_none h]

/-- The transitions with the action `requestMethod`. -/
def methodTrans : List Nat := 5 :: (List.range 19).map fun k => 1027 + 4 * k

theorem condActions_method {cond : Nat}
    (h : .requestMethod ∈ actionList (at8 condActions cond)) : cond ∈ methodTrans := by
  have key := at8_of_all condActions
    (fun i e => !(actionList e).contains .requestMethod || methodTrans.contains i) cond
    (by decide +kernel) (by rfl)
  rw [Bool.or_eq_true] at key
  rcases key with key | key
  · rw [Bool.not_eq_true', List.contains_eq_mem, decide_eq_false_iff_not] at key
    exact absurd h key
  · rwa [List.contains_eq_mem, decide_eq_true_eq] at key

theorem transOffsets_eq (trans : Nat) :
    at8 transOffsets trans = trans ∨ at8 transOffsets trans = 0 := by
  have key := at8_of_all transOffsets (fun i e => e == i || e == 0) trans (by decide +kernel)
    (by simp)
  simpa using key

theorem transLengths_le (trans : Nat) : at8 transLengths trans ≤ 1 := by
  have key := at8_of_all transLengths (fun _ e => e ≤ 1) trans (by decide +kernel) (by rfl)
  simpa using key

/-- In every state these transitions belong to the single key 32. -/
theorem methodTrans_space : ∀ cs < 352, ∀ trans ∈ methodTrans,
    at8 indexOffsets cs ≤ trans →
    trans ≤ at8 indexOffsets cs + at8 singleLengths cs + at8 rangeLengths cs →
    trans < at8 indexOffsets cs + at8 singleLengths cs
      ∧ at8 transKeys (at8 keyOffsets cs + (trans - at8 indexOffsets cs)) = 32 := by
  decide +kernel

/-- The transition of a character is one of its state; one of a single key is that
character's. -/
theorem transIndex_spec (cs : Nat) (c : UInt8) :
    at8 indexOffsets cs ≤ transIndex cs c
      ∧ transIndex cs c ≤ at8 indexOffsets cs + at8 singleLengths cs + at8 rangeLengths cs
      ∧ (transIndex cs c < at8 indexOffsets cs + at8 singleLengths cs →
        Int.ofNat (at8 transKeys (at8 keyOffsets cs + (transIndex cs c - at8 indexOffsets cs)))
          = c.toInt8.toInt) :=
  httpParser.transIndex_spec cs c

theorem condIndex_spec {r : Bool} {trans cond : Nat} (h : condIndex r trans = some cond) :
    cond = trans ∨ cond = 0 := by
  have hbounds : at8 transOffsets trans ≤ cond
      ∧ cond < at8 transOffsets trans + at8 transLengths trans := httpParser.condIndex_spec h
  have hlen := transLengths_le trans
  have heq : cond = at8 transOffsets trans := by omega
  rw [heq]
  exact transOffsets_eq trans

theorem eq_space_of_toInt {c : UInt8} (h : Int.ofNat 32 = c.toInt8.toInt) : c = 32 := by
  have h32 : c.toInt8 = (32 : UInt8).toInt8 := Int8.toInt_inj.mp (h.symm.trans rfl)
  have hc := congrArg Int8.toUInt8 h32
  rwa [UInt8.toUInt8_toInt8, UInt8.toUInt8_toInt8] at hc

/-- A method ends at a space. -/
theorem requestMethod_space {r : Bool} {cs cs' : Nat} {c : UInt8} {acts : List Action}
    (h : transition r cs c = (cs', acts)) (hm : .requestMethod ∈ acts) : c = 32 := by
  unfold transition at h
  cases hc : condIndex r (transIndex cs c) with
  | none =>
    rw [hc] at h
    cases h
    cases hm
  | some cond =>
    rw [hc] at h
    cases h
    have hmem := condActions_method hm
    have hcond : cond = transIndex cs c := by
      rcases condIndex_spec hc with h0 | h0
      · exact h0
      · rw [h0] at hmem
        exact absurd hmem (by decide)
    rw [hcond] at hmem
    obtain ⟨h1, h2, h3⟩ := transIndex_spec cs c
    by_cases hcs : cs < 352
    · obtain ⟨hlt, hkey⟩ := methodTrans_space cs hcs _ hmem h1 h2
      have := h3 hlt
      rw [hkey] at this
      exact eq_space_of_toInt this
    · -- outside the tables every lookup gives 0
      have hrow : 44 ≤ cs / 8 := by omega
      have h0 : transIndex cs c = 0 := by
        rw [at8_beyond indexOffsets hrow, at8_beyond singleLengths hrow,
          at8_beyond rangeLengths hrow] at h2
        omega
      rw [h0] at hmem
      exact absurd hmem (by decide)

/-- A property of all transitions of the machine that was checked in its tables. Outside
of the tables the first transition is found. -/
theorem transition_of_table (P : Nat → Nat → List Action → Bool)
    (herr : ∀ cs, P cs Tables.error [] = true) (hout : ∀ cs, P cs 194 [.mark] = true)
    (htab : ∀ cs < 352, ∀ i < at8 singleLengths cs + at8 rangeLengths cs + 1,
      P cs (at8 condTargs (at8 indexOffsets cs + i))
        (actionList (at8 condActions (at8 indexOffsets cs + i))) = true)
    {r : Bool} {cs cs' : Nat} {c : UInt8} {acts : List Action}
    (h : transition r cs c = (cs', acts)) : P cs cs' acts = true := by
  have hzero : ∀ cs, P cs (at8 condTargs 0) (actionList (at8 condActions 0)) = true := by
    intro cs
    rw [show at8 condTargs 0 = 194 by decide +kernel,
      show actionList (at8 condActions 0) = [.mark] by decide +kernel]
    exact hout cs
  unfold transition at h
  cases hc : condIndex r (transIndex cs c) with
  | none =>
    rw [hc] at h
    cases h
    exact herr cs
  | some cond =>
    rw [hc] at h
    cases h
    obtain ⟨h1, h2, -⟩ := transIndex_spec cs c
    rcases condIndex_spec hc with h0 | h0
    · by_cases hcs : cs < 352
      · have := htab cs hcs (transIndex cs c - at8 indexOffsets cs) (by omega)
        rw [Nat.add_sub_cancel' h1] at this
        rw [h0]
        exact this
      · have hrow : 44 ≤ cs / 8 := by omega
        rw [at8_beyond indexOffsets hrow, at8_beyond singleLengths hrow,
          at8_beyond rangeLengths hrow] at h2
        rw [h0, Nat.le_zero.mp h2]
        exact hzero cs
    · rw [h0]
      exact hzero cs

/-- The states between a field name and the end of its value. -/
def valueStates : List Nat := [15, 16]

/-- What the transitions of the machine have in common. -/
structure Sound (cs cs' : Nat) (acts : List Action) : Prop where
  /-- A final state is entered with the action `done`. -/
  final : firstFinal ≤ cs' → .done ∈ acts
  writeValue : .writeValue ∈ acts → cs ∈ valueStates
  enter : cs' ∈ valueStates → acts = [.writeField] ∨ cs ∈ valueStates
  stay : cs ∈ valueStates → .startField ∉ acts ∧ .writeField ∉ acts

/-- The table entries of a transition, as a test that is cheap to evaluate. -/
def soundEntry (cs cs' : Nat) (acts : List Action) : Bool :=
  (cs' < firstFinal || acts.contains .done)
    && (valueStates.contains cs || !acts.contains .writeValue)
    && (valueStates.contains cs || acts == [.writeField] || !valueStates.contains cs')
    && (!valueStates.contains cs || !acts.contains .startField && !acts.contains .writeField)

theorem sound_of_entry {cs cs' : Nat} {acts : List Action} (h : soundEntry cs cs' acts = true) :
    Sound cs cs' acts := by
  simp only [soundEntry, Bool.and_eq_true, Bool.or_eq_true, decide_eq_true_eq, Bool.not_eq_true',
    beq_iff_eq, List.contains_eq_mem, decide_eq_false_iff_not] at h
  obtain ⟨⟨⟨h1, h2⟩, h3⟩, h4⟩ := h
  refine ⟨fun hf => ?_, fun hw => ?_, fun hv => ?_, fun hv => ?_⟩
  · exact h1.resolve_left (Nat.not_lt_of_le hf)
  · exact h2.resolve_right (fun hn => hn hw)
  · rcases h3 with (h3 | h3) | h3
    · exact .inr h3
    · exact .inl h3
    · exact absurd hv h3
  · exact h4.resolve_left (fun hn => hn hv)

theorem transition_sound {r : Bool} {cs cs' : Nat} {c : UInt8} {acts : List Action}
    (h : transition r cs c = (cs', acts)) : Sound cs cs' acts :=
  sound_of_entry (transition_of_table soundEntry (by intro cs; simp [soundEntry, valueStates,
    Tables.error, firstFinal]) (by intro cs; simp [soundEntry, valueStates, firstFinal])
    (by decide +kernel) h)

/-! ## Method names -/

theorem isPrefixOf_before_space {m : Bytes} (hm : 32 ∉ m) (tok : Bytes) (rest : Bytes) :
    m.isPrefixOf (tok ++ 32 :: rest) = m.isPrefixOf tok := by
  induction m generalizing tok with
  | nil => simp
  | cons x m ih =>
    have hx : x ≠ 32 := fun h => hm (h ▸ List.mem_cons_self)
    cases tok with
    | nil => simp [List.isPrefixOf, hx]
    | cons y tok =>
      simp only [List.cons_append, List.isPrefixOf]
      rw [ih (fun h => hm (List.mem_cons_of_mem x h))]

theorem httpMethodMap_no_space : ∀ entry ∈ httpMethodMap, (32 : UInt8) ∉ entry.2 := by
  decide

/-- The name of a method is found without looking behind the space that ends it. -/
theorem charsToHttpMethod_space (tok rest rest' : Bytes) :
    charsToHttpMethod (tok ++ 32 :: rest) = charsToHttpMethod (tok ++ 32 :: rest') := by
  have hfind : (httpMethodMap.find? fun entry => entry.2.isPrefixOf (tok ++ 32 :: rest))
      = httpMethodMap.find? fun entry => entry.2.isPrefixOf (tok ++ 32 :: rest') := by
    refine List.find?_congr ?_
    intro entry hentry
    have hno := httpMethodMap_no_space entry hentry
    rw [isPrefixOf_before_space hno, isPrefixOf_before_space hno]
  rw [charsToHttpMethod, charsToHttpMethod, hfind]

/-! ## Actions -/

/-- The marks of the current buffer, with `n` of its characters read. -/
structure Bounded (n : Nat) (h : HttpRequestParser) : Prop where
  mark : h.mark < n
  fieldStart : h.fieldStart < n
  fieldLen : h.fieldLen ≤ n
  bodyStart : h.bodyStart ≤ n

theorem Bounded.mono {m n : Nat} {h : HttpRequestParser} (hb : Bounded m h) (hmn : m ≤ n) :
    Bounded n h :=
  ⟨by have := hb.mark; omega, by have := hb.fieldStart; omega, by have := hb.fieldLen; omega,
    by have := hb.bodyStart; omega⟩

/-- What actions at `q` leave of the parser. -/
structure Kept (q : Nat) (acts : List Action) (h h1 : HttpRequestParser) : Prop where
  cs : h1.cs = h.cs
  uriRelaxed : h1.uriRelaxed = h.uriRelaxed
  error : h1.error = 0 → h.error = 0
  body : h1.data.body = h.data.body
  bounded : Bounded (q + 1) h → Bounded (q + 1) h1
  fieldStart : .startField ∉ acts → h1.fieldStart = h.fieldStart
  fieldLen : .writeField ∉ acts → h1.fieldLen = h.fieldLen
  bodyStart : .done ∉ acts → h1.bodyStart = h.bodyStart

section kept

variable {buffer : Bytes} {q : Nat} {a : Action} {acts : List Action} {h h1 h2 : HttpRequestParser}

theorem Kept.refl : Kept q acts h h :=
  ⟨rfl, rfl, id, rfl, id, fun _ => rfl, fun _ => rfl, fun _ => rfl⟩

theorem Kept.cons (k1 : Kept q [a] h h1) (k2 : Kept q acts h1 h2) : Kept q (a :: acts) h h2 where
  cs := k2.cs.trans k1.cs
  uriRelaxed := k2.uriRelaxed.trans k1.uriRelaxed
  error h0 := k1.error (k2.error h0)
  body := k2.body.trans k1.body
  bounded hb := k2.bounded (k1.bounded hb)
  fieldStart hn := by
    rw [List.mem_cons, not_or] at hn
    rw [k2.fieldStart hn.2, k1.fieldStart (by simpa using hn.1)]
  fieldLen hn := by
    rw [List.mem_cons, not_or] at hn
    rw [k2.fieldLen hn.2, k1.fieldLen (by simpa using hn.1)]
  bodyStart hn := by
    rw [List.mem_cons, not_or] at hn
    rw [k2.bodyStart hn.2, k1.bodyStart (by simpa using hn.1)]

/-- A callback stores its result and leaves the rest alone. -/
theorem Kept.of_store {e : Nat} {d : HttpRequest} (he : e = 0 → h.error = 0)
    (hd : d.body = h.data.body) : Kept q acts h { h with error := e, data := d } :=
  ⟨rfl, rfl, he, hd, fun hb => ⟨hb.mark, hb.fieldStart, hb.fieldLen, hb.bodyStart⟩, fun _ => rfl,
    fun _ => rfl, fun _ => rfl⟩

theorem onRequestMethod_kept (h : HttpRequestParser) (m : Bytes) :
    Kept q acts h (onRequestMethod h m) := by
  unfold onRequestMethod
  dsimp only
  split
  · exact .of_store (by intro h0; cases h0) rfl
  · exact .of_store id rfl

theorem onRequestVersion_kept (h : HttpRequestParser) (m : Bytes) (n : Nat) :
    Kept q acts h (onRequestVersion h m n) := by
  unfold onRequestVersion
  split
  · exact .of_store id rfl
  · split
    · exact .of_store id rfl
    · exact .of_store (by intro h0; cases h0) rfl

theorem onRequestHttpField_kept (h : HttpRequestParser) (f v : Bytes) :
    Kept q acts h (onRequestHttpField h f v) := by
  unfold onRequestHttpField
  split
  · exact .refl
  · exact .of_store id rfl

/-- The callbacks that make a string. -/
theorem token_bind_ok {m : Nat} {f : Bytes → HttpRequestParser}
    (hr : (do let v ← token buffer m q; return f v : Except Fault HttpRequestParser) = .ok h1) :
    ∃ v, token buffer m q = .ok v ∧ f v = h1 := by
  cases ht : token buffer m q with
  | error e =>
    rw [ht] at hr
    cases hr
  | ok v =>
    rw [ht] at hr
    exact ⟨v, rfl, Except.ok.inj hr⟩

theorem runAction_kept (hr : runAction buffer q h a = .ok h1) : Kept q [a] h h1 := by
  cases a with
  | mark | startValue =>
    cases hr
    exact ⟨rfl, rfl, id, rfl, fun hb => ⟨Nat.lt_succ_self q, hb.fieldStart, hb.fieldLen,
      hb.bodyStart⟩, fun _ => rfl, fun _ => rfl, fun _ => rfl⟩
  | startField =>
    cases hr
    exact ⟨rfl, rfl, id, rfl, fun hb => ⟨hb.mark, Nat.lt_succ_self q, hb.fieldLen, hb.bodyStart⟩,
      fun hn => absurd List.mem_cons_self hn, fun _ => rfl, fun _ => rfl⟩
  | writeField =>
    cases hr
    exact ⟨rfl, rfl, id, rfl, fun hb => ⟨hb.mark, hb.fieldStart,
      Nat.le_succ_of_le (Nat.sub_le _ _), hb.bodyStart⟩, fun _ => rfl,
      fun hn => absurd List.mem_cons_self hn, fun _ => rfl⟩
  | done =>
    cases hr
    refine ⟨rfl, rfl, id, rfl, fun hb => ⟨hb.mark, hb.fieldStart, hb.fieldLen, ?_⟩, fun _ => rfl,
      fun _ => rfl, fun hn => absurd List.mem_cons_self hn⟩
    dsimp only
    split
    · exact hb.mark.le
    · exact Nat.le_refl _
  | requestMethod =>
    cases hr
    exact onRequestMethod_kept _ _
  | httpVersion =>
    cases hr
    exact onRequestVersion_kept _ _ _
  | requestUri | startQuery | xml | json =>
    cases hr
    exact ⟨rfl, rfl, id, rfl, fun hb => ⟨hb.mark, hb.fieldStart, hb.fieldLen, hb.bodyStart⟩,
      fun _ => rfl, fun _ => rfl, fun _ => rfl⟩
  | writeValue =>
    obtain ⟨v, -, rfl⟩ := token_bind_ok hr
    exact onRequestHttpField_kept _ _ _
  | fragment | requestPath | queryString =>
    obtain ⟨v, -, rfl⟩ := token_bind_ok hr
    exact .of_store id rfl

theorem runActions_cons (hr : runAction buffer q h a = .ok h1) :
    runActions buffer q (a :: acts) h
      = if a = .done then .ok (h1, true) else runActions buffer q acts h1 := by
  rw [runActions, hr]
  rfl

/-- The actions of a transition keep what each of them keeps, and leave the machine when
`done` is one of them. -/
theorem runActions_kept {broke : Bool} (hr : runActions buffer q acts h = .ok (h1, broke)) :
    Kept q acts h h1 ∧ (broke = true ↔ .done ∈ acts) := by
  induction acts generalizing h with
  | nil =>
    cases hr
    exact ⟨.refl, by simp⟩
  | cons a acts ih =>
    cases hra : runAction buffer q h a with
    | error f =>
      rw [runActions, hra] at hr
      cases hr
    | ok h2 =>
      rw [runActions_cons hra] at hr
      by_cases hd : a = .done
      · rw [if_pos hd] at hr
        cases hr
        exact ⟨(runAction_kept hra).cons .refl, by simp [hd]⟩
      · rw [if_neg hd] at hr
        obtain ⟨hk, hb⟩ := ih hr
        refine ⟨(runAction_kept hra).cons hk, hb.trans ?_⟩
        simp [Ne.symm hd]

end kept

/-! ## One character -/

/-- The character at `q`. -/
theorem drop_eq_cons {s rest : Bytes} {q : Nat} {c : UInt8} (h : s.drop q = c :: rest) :
    q < s.length ∧ s[q]? = some c ∧ s.drop (q + 1) = rest := by
  refine ⟨?_, ?_, ?_⟩
  · have := congrArg List.length h
    rw [List.length_drop, List.length_cons] at this
    omega
  · rw [← List.head?_drop, h]
    rfl
  · rw [← List.tail_drop, h]
    rfl

theorem exec_step {buffer rest : Bytes} {c : UInt8} {p cs : Nat} {acts : List Action}
    {h h1 : HttpRequestParser} {broke : Bool} (htr : transition h.uriRelaxed h.cs c = (cs, acts))
    (hacts : runActions buffer p acts { h with cs := cs } = .ok (h1, broke)) :
    exec buffer (c :: rest) p h
      = if broke = true then .ok (h1, p + 1) else if cs = Tables.error then .ok (h1, p)
        else exec buffer rest (p + 1) h1 := by
  rw [exec, htr]
  dsimp only
  rw [hacts]
  rfl

/-- A run that returned has run the actions of the first character. -/
theorem exec_ok {buffer rest : Bytes} {c : UInt8} {p : Nat} {h : HttpRequestParser}
    {r : HttpRequestParser × Nat} (hrun : exec buffer (c :: rest) p h = .ok r) :
    ∃ cs acts h1 broke, transition h.uriRelaxed h.cs c = (cs, acts)
      ∧ runActions buffer p acts { h with cs := cs } = .ok (h1, broke)
      ∧ (if broke = true then .ok (h1, p + 1) else if cs = Tables.error then .ok (h1, p)
        else exec buffer rest (p + 1) h1) = Except.ok r := by
  obtain ⟨⟨cs, acts⟩, htr⟩ : ∃ r, transition h.uriRelaxed h.cs c = r := ⟨_, rfl⟩
  cases hacts : runActions buffer p acts { h with cs := cs } with
  | error f =>
    rw [exec, htr] at hrun
    dsimp only at hrun
    rw [hacts] at hrun
    cases hrun
  | ok result =>
    obtain ⟨h1, broke⟩ := result
    rw [exec_step htr hacts] at hrun
    exact ⟨cs, acts, h1, broke, htr, hacts, hrun⟩

/-- A run that consumes all of a non-empty rest takes the first character without an
error; it stops there only when nothing is left. -/
theorem exec_cons {buffer rest : Bytes} {c : UInt8} {p : Nat} {h h' : HttpRequestParser}
    (hrun : exec buffer (c :: rest) p h = .ok (h', p + (c :: rest).length)) :
    ∃ cs acts h1 broke, transition h.uriRelaxed h.cs c = (cs, acts)
      ∧ runActions buffer p acts { h with cs := cs } = .ok (h1, broke)
      ∧ ((broke = true ∧ rest = [] ∧ h' = h1)
        ∨ (broke = false ∧ cs ≠ Tables.error
          ∧ exec buffer rest (p + 1) h1 = .ok (h', p + 1 + rest.length))) := by
  have hlen : p + (c :: rest).length = p + 1 + rest.length := by
    rw [List.length_cons]
    omega
  obtain ⟨cs, acts, h1, broke, htr, hacts, hstep⟩ := exec_ok hrun
  refine ⟨cs, acts, h1, broke, htr, hacts, ?_⟩
  rw [hlen] at hstep
  cases broke with
  | true =>
    rw [if_pos rfl] at hstep
    obtain ⟨hh, hp⟩ := Prod.mk.inj (Except.ok.inj hstep)
    exact .inl ⟨rfl, List.length_eq_zero_iff.mp (by omega), hh.symm⟩
  | false =>
    rw [if_neg (by decide)] at hstep
    split at hstep
    · obtain ⟨-, hp⟩ := Prod.mk.inj (Except.ok.inj hstep)
      omega
    · exact .inr ⟨rfl, by assumption, hstep⟩

/-! ## One call -/

/-- The parser as a call of `execute` starts with it. -/
def atCall (h : HttpRequestParser) : HttpRequestParser :=
  { h with nread := 0, mark := 0, fieldLen := 0, fieldStart := 0 }

theorem new_cs_ne_error (uriRelaxed : Bool) (queryStart : Nat) :
    (HttpRequestParser.new uriRelaxed queryStart).cs ≠ Tables.error := by
  show Tables.start ≠ Tables.error
  decide

/-- A call whose run keeps the marks in the buffer. -/
theorem execute_eq {h h1 : HttpRequestParser} {s : Bytes} {n : Nat} (hne : s ≠ [])
    (hlen : s.length < 2 ^ 31) (hcs : h.cs ≠ Tables.error)
    (hr : exec s s 0 (atCall h) = .ok (h1, n)) (hn : n ≤ s.length) (hb : Bounded s.length h1) :
    execute h s = .ok ({ h1 with nread := n }, n) := by
  unfold execute
  rw [if_neg (by rwa [List.length_eq_zero_iff])]
  dsimp only
  rw [if_neg (not_not.mpr hlen), if_neg hcs]
  unfold atCall at hr
  rw [hr]
  show (if _ then _ else _) = _
  rw [if_pos ⟨hn, hb.bodyStart, hb.mark, hb.fieldLen, hb.fieldStart⟩]

/-- What a call that returned did. -/
theorem execute_ok {h h' : HttpRequestParser} {s : Bytes} {n : Nat} (hne : s ≠ [])
    (hcs : h.cs ≠ Tables.error) (hr : execute h s = .ok (h', n)) :
    ∃ H', exec s s 0 (atCall h) = .ok (H', n) ∧ s.length < 2 ^ 31 ∧ Bounded s.length H'
      ∧ h' = { H' with nread := n } := by
  unfold execute at hr
  rw [if_neg (by rwa [List.length_eq_zero_iff])] at hr
  dsimp only at hr
  by_cases hlen : s.length < 2 ^ 31
  · rw [if_neg (not_not.mpr hlen), if_neg hcs] at hr
    cases hx : exec s s 0 (atCall h) with
    | error f =>
      unfold atCall at hx
      rw [hx] at hr
      cases hr
    | ok r =>
      obtain ⟨H', m⟩ := r
      unfold atCall at hx
      rw [hx] at hr
      change (if _ then _ else _) = _ at hr
      split at hr
      · rename_i hb
        cases hr
        obtain ⟨-, h1, h2, h3, h4⟩ := hb
        exact ⟨H', rfl, hlen, ⟨h2, h4, h3, h1⟩, rfl⟩
      · cases hr
  · rw [if_pos hlen] at hr
    cases hr

end Http

end HrServer
