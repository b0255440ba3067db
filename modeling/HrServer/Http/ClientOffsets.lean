/-
HrServer.Http.ClientOffsets — the offset that `HttpResponseParser::execute`
returns.

Within a call the marks lie between the front of the buffer and the
current character (`Marks`), whatever the tables say: no string has a
negative length, and in a buffer that is not empty no check behind the
loop fails. Two things are left. A buffer of length 0 fails the check of
the mark, and the -1 becomes the offset. And `body_start` is not reset
between calls: behind a header block that is complete, a shorter buffer
fails its assertion, unless the machine comes to an end of a header again.
-/
import HrServer.Http.ClientParser

namespace HrServer

open Lib

namespace Http

namespace Client

open ClientTables

/-! ## One action -/

/-- The marks do not lie behind offset `p`. -/
structure Marks (p : Nat) (h : HttpResponseParser) : Prop where
  mark : h.mark ≤ p
  fieldStart : h.fieldStart ≤ p
  fieldLen : h.fieldLen ≤ p

theorem Marks.mono {p q : Nat} {h : HttpResponseParser} (hm : Marks p h) (hpq : p ≤ q) :
    Marks q h :=
  ⟨Nat.le_trans hm.mark hpq, Nat.le_trans hm.fieldStart hpq, Nat.le_trans hm.fieldLen hpq⟩

theorem token_of_le {buffer : Bytes} {start p : Nat} (h : start ≤ p) :
    token buffer start p = .ok ((buffer.drop start).take (p - start)) :=
  if_neg (Nat.not_lt_of_le h)

/-- An action goes through, keeps the marks where they may be and the state where it is, and
only `done` touches the start of the body. -/
theorem runAction_spec (buffer : Bytes) {p : Nat} {h : HttpResponseParser} (hm : Marks p h)
    (a : Action) : ∃ h', runAction buffer p h a = .ok h' ∧ Marks p h' ∧ h'.cs = h.cs
      ∧ h'.bodyStart = if a = .done then p + 1 else h.bodyStart := by
  cases a with
  | mark => exact ⟨_, rfl, ⟨Nat.le_refl p, hm.fieldStart, hm.fieldLen⟩, rfl, rfl⟩
  | startField => exact ⟨_, rfl, ⟨hm.mark, Nat.le_refl p, hm.fieldLen⟩, rfl, rfl⟩
  | writeField => exact ⟨_, rfl, ⟨hm.mark, hm.fieldStart, Nat.sub_le p _⟩, rfl, rfl⟩
  | startValue => exact ⟨_, rfl, ⟨Nat.le_refl p, hm.fieldStart, hm.fieldLen⟩, rfl, rfl⟩
  | writeValue =>
    rw [runAction, token_of_le hm.mark]
    unfold onResponseHttpField
    refine ⟨_, rfl, ?_⟩
    split
    · exact ⟨hm, rfl, rfl⟩
    · exact ⟨⟨hm.mark, hm.fieldStart, hm.fieldLen⟩, rfl, rfl⟩
  | reasonPhrase =>
    rw [runAction, token_of_le hm.mark]
    exact ⟨_, rfl, ⟨hm.mark, hm.fieldStart, hm.fieldLen⟩, rfl, rfl⟩
  | httpVersion =>
    rw [runAction]
    unfold onResponseVersion
    refine ⟨_, rfl, ?_⟩
    split
    · exact ⟨⟨hm.mark, hm.fieldStart, hm.fieldLen⟩, rfl, rfl⟩
    · split
      · exact ⟨⟨hm.mark, hm.fieldStart, hm.fieldLen⟩, rfl, rfl⟩
      · exact ⟨⟨hm.mark, hm.fieldStart, hm.fieldLen⟩, rfl, rfl⟩
  | writeContentLen | writeConnectionClose | statusCode | chunkSize | transChunked | done =>
    exact ⟨_, rfl, ⟨hm.mark, hm.fieldStart, hm.fieldLen⟩, rfl, rfl⟩

/-- The actions of a transition. `done` ends them and the loop. -/
theorem runActions_spec (buffer : Bytes) {p : Nat} (acts : List Action)
    {h : HttpResponseParser} (hm : Marks p h) :
    ∃ h', runActions buffer p acts h = .ok (h', acts.contains .done)
      ∧ Marks p h' ∧ h'.cs = h.cs
      ∧ h'.bodyStart = if acts.contains .done then p + 1 else h.bodyStart := by
  induction acts generalizing h with
  | nil => exact ⟨h, rfl, hm, rfl, rfl⟩
  | cons a acts ih =>
    obtain ⟨h1, hrun, hm1, hcs1, hbody1⟩ := runAction_spec buffer hm a
    by_cases ha : a = .done
    · subst ha
      refine ⟨h1, ?_, hm1, hcs1, by simpa using hbody1⟩
      rw [runActions, hrun]
      simp
      rfl
    · obtain ⟨h2, hrest, hm2, hcs2, hbody2⟩ := ih hm1
      rw [if_neg ha] at hbody1
      have hcontains : (a :: acts).contains .done = acts.contains .done := by
        simp [Ne.symm ha]
      refine ⟨h2, ?_, hm2, hcs2.trans hcs1, by rw [hcontains, hbody2, hbody1]⟩
      rw [runActions, hrun, hcontains]
      simp only [bind, Except.bind, if_neg ha]
      exact hrest

/-! ## The loop -/

/-- The machine comes to the end of a header block within the characters. -/
def completes : Nat → Bytes → Bool
  | _, [] => false
  | cs, c :: rest =>
    decide (cs ≠ error)
      && ((transition cs c).2.contains .done || completes (transition cs c).1 rest)

/-- Nothing is completed from the error state. -/
theorem completes_error (data : Bytes) : completes error data = false := by
  cases data <;> simp [completes]

/-- Where the loop ends: in the buffer, with the marks inside of it. The start of the body is
in the buffer if the machine came to it, and else where it was. -/
structure Ended (buffer : Bytes) (done : Bool) (h h' : HttpResponseParser) (q : Nat) : Prop where
  offset : q ≤ buffer.length
  mark : h'.mark < buffer.length
  fieldStart : h'.fieldStart < buffer.length
  fieldLen : h'.fieldLen ≤ buffer.length
  bodyStart : if done then h'.bodyStart ≤ buffer.length else h'.bodyStart = h.bodyStart

theorem Marks.ended {buffer : Bytes} {p q : Nat} {done : Bool} {h h' : HttpResponseParser}
    (hm : Marks p h') (hp : p < buffer.length) (hq : q ≤ buffer.length)
    (hbody : if done then h'.bodyStart ≤ buffer.length else h'.bodyStart = h.bodyStart) :
    Ended buffer done h h' q :=
  ⟨hq, Nat.lt_of_le_of_lt hm.mark hp, Nat.lt_of_le_of_lt hm.fieldStart hp,
    Nat.le_of_lt (Nat.lt_of_le_of_lt hm.fieldLen hp), hbody⟩

theorem exec_cons {buffer : Bytes} {c : UInt8} {rest : Bytes} {p : Nat}
    {h h' : HttpResponseParser} {broke : Bool}
    (hrun : runActions buffer p (transition h.cs c).2 { h with cs := (transition h.cs c).1 }
      = .ok (h', broke)) :
    exec buffer (c :: rest) p h = if broke then .ok (h', p + 1)
      else if (transition h.cs c).1 = error then .ok (h', p) else exec buffer rest (p + 1) h' := by
  rw [exec]
  simp only [hrun, bind, Except.bind]

/-- The loop goes through, whatever the tables say. -/
theorem exec_spec {buffer : Bytes} (rest : Bytes) {p : Nat} {h : HttpResponseParser}
    (hcs : h.cs ≠ error) (hm : Marks p h)
    (hin : h.mark < buffer.length ∧ h.fieldStart < buffer.length)
    (hlen : p + rest.length = buffer.length) :
    ∃ h' q, exec buffer rest p h = .ok (h', q) ∧ Ended buffer (completes h.cs rest) h h' q := by
  induction rest generalizing p h with
  | nil =>
    rw [List.length_nil, Nat.add_zero] at hlen
    exact ⟨h, p, rfl, Nat.le_of_eq hlen, hin.1, hin.2, hlen ▸ hm.fieldLen, rfl⟩
  | cons c rest ih =>
    rw [List.length_cons] at hlen
    have hm0 : Marks p { h with cs := (transition h.cs c).1 } :=
      ⟨hm.mark, hm.fieldStart, hm.fieldLen⟩
    obtain ⟨h1, hrun, hm1, hcs1, hbody1⟩ :=
      runActions_spec buffer (transition h.cs c).2 hm0
    rw [exec_cons hrun, completes]
    cases hdone : (transition h.cs c).2.contains .done with
    | true =>
      rw [hdone] at hbody1
      refine ⟨h1, p + 1, rfl, hm1.ended (by omega) (by omega) ?_⟩
      simp [hbody1, hcs]
      omega
    | false =>
      rw [hdone] at hbody1
      by_cases herr : (transition h.cs c).1 = error
      · refine ⟨h1, p, by simp [herr], hm1.ended (by omega) (by omega) ?_⟩
        simpa [herr, completes_error] using hbody1
      · obtain ⟨h2, q, hexec, hend⟩ := ih (hcs1 ▸ herr) (hm1.mono (Nat.le_succ p))
          ⟨by have := hm1.mark; omega, by have := hm1.fieldStart; omega⟩ (by omega)
        refine ⟨h2, q, by simpa [herr] using hexec, hend.offset, hend.mark, hend.fieldStart,
          hend.fieldLen, ?_⟩
        have hbody2 := hend.bodyStart
        rw [hcs1, hbody1] at hbody2
        simpa [hcs] using hbody2

/-! ## A call -/

/-- The machine ends in a buffer with something in it. -/
theorem machine_spec {data : Bytes} (hpos : 0 < data.length) (h : HttpResponseParser) :
    ∃ h' q, machine h.rewind data = .ok (h', q) ∧ Ended data (completes h.cs data) h h' q := by
  have hne : data ≠ [] := List.ne_nil_of_length_pos hpos
  by_cases hcs : h.cs = error
  · refine ⟨_, 0, if_pos (.inr hcs), Nat.zero_le _, hpos, hpos, Nat.zero_le _, ?_⟩
    simp [hcs, completes_error, HttpResponseParser.rewind]
  · have hgo : ¬ (data = [] ∨ h.rewind.cs = error) := not_or.mpr ⟨hne, hcs⟩
    rw [machine, if_neg hgo]
    obtain ⟨h', q, hexec, hend⟩ := exec_spec data (show h.rewind.cs ≠ error from hcs)
      ⟨Nat.zero_le 0, Nat.zero_le 0, Nat.zero_le 0⟩ ⟨hpos, hpos⟩ (Nat.zero_add _)
    exact ⟨h', q, hexec, hend.offset, hend.mark, hend.fieldStart, hend.fieldLen, hend.bodyStart⟩

/-- Where the machine ended no check fails, and of the assertions that of the start of the
body only. -/
theorem checked_of_ended {data : Bytes} {done : Bool} {h h' : HttpResponseParser} {q : Nat}
    (hend : Ended data done h h' q) : checked data h' q
      = if h'.bodyStart ≤ data.length then .ok ({ h' with nread := q }, (q : Int))
        else .error .assertion := by
  by_cases hbody : h'.bodyStart ≤ data.length
  · simp [checked, hend.offset, hend.mark, hend.fieldStart, hend.fieldLen, hbody]
  · simp [checked, hbody]

theorem parserExecute_of_machine {data : Bytes} (hint : data.length < 2 ^ 31)
    {h h' : HttpResponseParser} {q : Nat} (hmachine : machine h.rewind data = .ok (h', q)) :
    parserExecute h data = checked data h' q := by
  rw [parserExecute, if_neg (not_not.mpr hint), hmachine]
  rfl

theorem parserExecute_eq {data : Bytes} (hpos : 0 < data.length) (hint : data.length < 2 ^ 31)
    (h : HttpResponseParser) : ∃ h' q, Ended data (completes h.cs data) h h' q ∧
      parserExecute h data = if h'.bodyStart ≤ data.length then
        .ok ({ h' with nread := q }, (q : Int)) else .error .assertion := by
  obtain ⟨h', q, hmachine, hend⟩ := machine_spec hpos h
  refine ⟨h', q, hend, ?_⟩
  rw [parserExecute_of_machine hint hmachine]
  exact checked_of_ended hend

theorem toSize_natCast (n : Nat) : toSize n = n := by
  simp [toSize]

/-- A call returns an offset in the buffer, and moves what it did not consume to the front. -/
def Safe (h : HttpResponseParser) (c : Call) : Prop :=
  ∃ h' offset buffer, execute h c = .ok (h', offset, some buffer) ∧ offset ≤ c.data.length
    ∧ buffer.take (c.data.length - offset) = c.data.drop offset

/-- There is something in the buffer, of a length that an `int` holds, and the start of the
body is reset, or lies in the buffer, or is set anew. -/
def Meets (h : HttpResponseParser) (c : Call) : Prop :=
  0 < c.data.length ∧ c.data.length < 2 ^ 31
    ∧ (c.chunck = true ∨ h.bodyStart ≤ c.data.length ∨ completes h.cs c.data = true)

/-- The parser that a call starts with. -/
def starting (h : HttpResponseParser) (c : Call) : HttpResponseParser :=
  if c.chunck then h.init else h

theorem execute_of_ok {h h' : HttpResponseParser} {c : Call} {ret : Int}
    (hret : parserExecute (starting h c) c.data = .ok (h', ret)) :
    execute h c = .ok (h', toSize ret, memmove c.data (toSize ret)) := by
  rw [starting] at hret
  simp only [execute, hret, bind, Except.bind]
  rfl

theorem execute_of_error {h : HttpResponseParser} {c : Call} {e : Fault}
    (herr : parserExecute (starting h c) c.data = .error e) : execute h c = .error e := by
  rw [starting] at herr
  simp only [execute, herr, bind, Except.bind]

theorem safe_of_offset {h h' : HttpResponseParser} {c : Call} {q : Nat}
    (hret : parserExecute (starting h c) c.data = .ok (h', (q : Int))) (hq : q ≤ c.data.length) :
    Safe h c := by
  refine ⟨h', q, c.data.drop q ++ c.data.drop (c.data.length - q), ?_, hq, ?_⟩
  · rw [execute_of_ok hret, toSize_natCast, memmove, if_pos hq]
  · exact List.take_left' (by rw [List.length_drop])

/-- A failed check makes the offset the greatest `size_t`. -/
theorem not_safe_of_check {h h' : HttpResponseParser} {c : Call}
    (hret : parserExecute (starting h c) c.data = .ok (h', -1))
    (hlen : c.data.length < 18446744073709551615) : ¬ Safe h c := by
  rintro ⟨h1, offset, buffer, hexec, hle, -⟩
  rw [execute_of_ok hret] at hexec
  simp only [Except.ok.injEq, Prod.mk.injEq] at hexec
  obtain ⟨-, rfl, -⟩ := hexec
  have hsize : toSize (-1) = 18446744073709551615 := rfl
  omega

theorem not_safe_of_error {h : HttpResponseParser} {c : Call} {e : Fault}
    (herr : parserExecute (starting h c) c.data = .error e) : ¬ Safe h c := by
  rintro ⟨h1, offset, buffer, hexec, -⟩
  rw [execute_of_error herr] at hexec
  cases hexec

/-- Without a byte in the buffer the mark is not in it. -/
theorem not_safe_of_empty {h : HttpResponseParser} {c : Call} (hempty : c.data.length = 0) :
    ¬ Safe h c := by
  have hnil : c.data = [] := List.length_eq_zero_iff.mp hempty
  have hmachine : machine (starting h c).rewind c.data = .ok ((starting h c).rewind, 0) :=
    if_pos (.inl hnil)
  have hret := parserExecute_of_machine (by omega) hmachine
  by_cases hbody : (starting h c).bodyStart = 0
  · have hchecked : checked c.data (starting h c).rewind 0 = .ok ((starting h c).rewind, -1) := by
      simp [checked, hempty, HttpResponseParser.rewind, hbody]
    exact not_safe_of_check (hret.trans hchecked) (by omega)
  · have hchecked : checked c.data (starting h c).rewind 0 = .error .assertion := by
      simp [checked, hempty, HttpResponseParser.rewind, hbody]
    exact not_safe_of_error (hret.trans hchecked)

theorem starting_bodyStart_le_iff (h : HttpResponseParser) (c : Call) :
    ((starting h c).bodyStart ≤ c.data.length ∨ completes (starting h c).cs c.data = true)
      ↔ (c.chunck = true ∨ h.bodyStart ≤ c.data.length ∨ completes h.cs c.data = true) := by
  cases hc : c.chunck with
  | true => simp [starting, hc, HttpResponseParser.init]
  | false => simp [starting, hc]

/-- A call is safe exactly when it meets the condition. -/
theorem safe_iff (h : HttpResponseParser) (c : Call) : Safe h c ↔ Meets h c := by
  by_cases hpos : 0 < c.data.length
  · by_cases hint : c.data.length < 2 ^ 31
    · obtain ⟨h', q, hend, hret⟩ := parserExecute_eq hpos hint (starting h c)
      have hbody := hend.bodyStart
      rw [Meets, ← starting_bodyStart_le_iff]
      simp only [hpos, hint, true_and]
      by_cases hle : h'.bodyStart ≤ c.data.length
      · rw [if_pos hle] at hret
        refine iff_of_true (safe_of_offset hret hend.offset) ?_
        cases hdone : completes (starting h c).cs c.data with
        | true => exact .inr rfl
        | false =>
          rw [hdone] at hbody
          exact .inl (hbody ▸ hle)
      · rw [if_neg hle] at hret
        refine iff_of_false (not_safe_of_error hret) ?_
        cases hdone : completes (starting h c).cs c.data with
        | true =>
          rw [hdone] at hbody
          exact absurd hbody hle
        | false =>
          rw [hdone] at hbody
          simpa [← show h'.bodyStart = (starting h c).bodyStart from hbody] using hle
    · refine iff_of_false (not_safe_of_error (e := .assertion) ?_) fun hm => hint hm.2.1
      rw [parserExecute, if_pos hint]
  · refine iff_of_false (not_safe_of_empty (by omega)) fun hm => hpos hm.1

/-! ## Runs -/

/-- A call as a step: the offset and the next state, or `none` for a fault. -/
def step (h : HttpResponseParser) (c : Call) : Option (Nat × HttpResponseParser) :=
  match execute h c with
  | .ok (h', offset, _) => some (offset, h')
  | .error _ => none

/-- In every run of calls from a new parser, each call is safe exactly when it meets the
condition in the state it is made in. -/
theorem execute_safe_along (status : Int32) (calls : List Call) :
    Along step (fun h c => Safe h c ↔ Meets h c) (.new status) calls :=
  along_of_forall safe_iff calls _

/-- A call with an empty buffer. -/
theorem execute_empty_not_safe : ¬ Safe (.new 0) ⟨[], false⟩ :=
  not_safe_of_empty rfl

end Client

end Http

end HrServer
