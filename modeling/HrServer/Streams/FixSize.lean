/-
HrServer.Streams.FixSize — `Stream::readFixSize` and `Stream::writeFixSize` of
`sylar/stream.cc`, on a buffer.

Both call the virtual `read` or `write` until everything is transferred or
a call fails, and return the length as an `int`. A `Script` is what these
calls do: the pieces that they transfer, then at most one failure.

The pieces lie side by side for every script (`Script.fixSize`). Whether
the result says that the transfer is complete depends on two conversions:
a length from 2^63 on is negative as `int64_t left`, and nothing is
transferred; a length whose lowest 32 bits are no positive `int` is
returned as a failure after it was transferred. `fixSize_reports` says
that these are the only exceptions.
-/
import HrServer.Lib.Checked
import HrServer.Lib.Splice

namespace HrServer

open Lib

namespace Streams

open Lib.Checked (toInt32 bmod_of_lt)

/-! ## The two functions -/

section functions

variable {σ : Type}

/-- The loop of `readFixSize` and `writeFixSize`, with the result of the call it fails with.
`call offset left` transfers up to `left` bytes at `buffer + offset`. -/
def fixSizeLoop (call : Nat → Nat → σ → Int × σ) (offset : Nat) (left : Int) (s : σ) :
    Option Int × σ :=
  if left > 0 then
    match call offset left.toNat s with
    | (len, s) =>
      if len ≤ 0 then (some len, s)
      else fixSizeLoop call (offset + len.toNat) (left - len) s
  else (none, s)
termination_by left.toNat

/-- What the two functions share: `int64_t left = length`, the loop, `return length`. -/
def fixSize (call : Nat → Nat → σ → Int × σ) (length : Nat) (s : σ) : Int × σ :=
  let failed := fixSizeLoop call 0 (Int.bmod length (2 ^ 64)) s
  (failed.1.getD (toInt32 length), failed.2)

/-- `read(buffer + offset, left)`, with the bytes going into the buffer. -/
def readCall (read : Nat → σ → Except Int (List UInt8) × σ) (offset left : Nat) :
    List UInt8 × σ → Int × List UInt8 × σ := fun (buffer, s) =>
  match read left s with
  | (.error len, s) => (len, buffer, s)
  | (.ok bytes, s) => (bytes.length, splice buffer offset bytes, s)

/-- `write(buffer + offset, left)`, which takes as many of the bytes as it returns. -/
def writeCall (write : List UInt8 → σ → Int × σ) (buffer : List UInt8) (offset left : Nat) :
    List UInt8 × σ → Int × List UInt8 × σ := fun (given, s) =>
  let offered := slice buffer offset left
  let (len, s) := write offered s
  (len, given ++ offered.take len.toNat, s)

/-- `Stream::readFixSize` with its result and the buffer it leaves. -/
def readFixSize (read : Nat → σ → Except Int (List UInt8) × σ) (buffer : List UInt8)
    (length : Nat) (s : σ) : Int × List UInt8 × σ :=
  fixSize (readCall read) length (buffer, s)

/-- `Stream::writeFixSize` with its result and what the peer was given. -/
def writeFixSize (write : List UInt8 → σ → Int × σ) (buffer : List UInt8) (length : Nat) (s : σ) :
    Int × List UInt8 × σ :=
  fixSize (writeCall write buffer) length ([], s)

theorem fixSizeLoop_done (call : Nat → Nat → σ → Int × σ) (offset : Nat) {left : Int} (s : σ)
    (h : left ≤ 0) : fixSizeLoop call offset left s = (none, s) := by
  rw [fixSizeLoop, if_neg (by omega)]

theorem fixSizeLoop_failed {call : Nat → Nat → σ → Int × σ} {offset : Nat} {left len : Int}
    {s s' : σ} (h : 0 < left) (hcall : call offset left.toNat s = (len, s')) (hlen : len ≤ 0) :
    fixSizeLoop call offset left s = (some len, s') := by
  rw [fixSizeLoop, if_pos h]
  simp only [hcall, if_pos hlen]

theorem fixSizeLoop_next {call : Nat → Nat → σ → Int × σ} {offset n : Nat} {left : Int}
    {s s' : σ} (h : 0 < left) (hcall : call offset left.toNat s = ((n : Int), s')) (hn : 0 < n) :
    fixSizeLoop call offset left s = fixSizeLoop call (offset + n) (left - n) s' := by
  rw [fixSizeLoop, if_pos h]
  simp only [hcall, if_neg (show ¬ (n : Int) ≤ 0 by omega), Int.toNat_natCast]

theorem fixSize_of_loop {call : Nat → Nat → σ → Int × σ} {length : Nat} {s s' : σ}
    {failure : Option Int}
    (h : fixSizeLoop call 0 (Int.bmod length (2 ^ 64)) s = (failure, s')) :
    fixSize call length s = (failure.getD (toInt32 length), s') := by
  simp only [fixSize, h]

/-- A piece that was read lies behind those that were read before. -/
theorem readCall_ok {read : Nat → σ → Except Int (List UInt8) × σ} (buffer got : List UInt8)
    {bytes : List UInt8} {left : Nat} {s s' : σ} (hread : read left s = (.ok bytes, s'))
    (hfit : got.length ≤ buffer.length) :
    readCall read got.length left (splice buffer 0 got, s)
      = ((bytes.length : Int), splice buffer 0 (got ++ bytes), s') := by
  have hjoin := splice_splice (m := buffer) (i := 0) (a := got) (b := bytes) (by omega)
  rw [Nat.zero_add] at hjoin
  simp only [readCall, hread, hjoin]

/-- A buffer that was filled to its end. -/
theorem splice_all {m bs : List UInt8} (h : bs.length = m.length) : splice m 0 bs = bs := by
  simp [splice, h]

end functions

/-- A `size_t` from 2^63 on is no positive `int64_t`. -/
theorem int64_nonpos {length : Nat} (h63 : ¬ length < 2 ^ 63) (h64 : length < 2 ^ 64) :
    Int.bmod length (2 ^ 64) ≤ 0 := by
  rw [Int.bmod_def]
  split <;> omega

/-! ## What the calls do -/

/-- The results of the calls of one transfer of `length` bytes: the pieces that they transfer,
one after the other, and the result of the one that fails. No call transfers more than is left. -/
structure Script (α : Type) (size : α → Nat) (length : Nat) where
  pieces : List α
  failure : Option Int
  positive : ∀ piece ∈ pieces, 0 < size piece ∧ size piece < 2 ^ 31
  failed : ∀ result, failure = some result → result ≤ 0
  total : if failure.isSome then (pieces.map size).sum < length
    else (pieces.map size).sum = length

namespace Script

variable {α : Type} {size : α → Nat} {length : Nat} (script : Script α size length)

/-- The result of call number `k`. -/
def result (k : Nat) : Int :=
  match script.pieces[k]? with
  | some piece => size piece
  | none => script.failure.getD 0

/-- The number of bytes that the first `calls` calls transfer. -/
def transferred (calls : Nat) : Nat := ((script.pieces.take calls).map size).sum

/-- The number of calls until the transfer is complete or a call fails. -/
def calls : Nat := script.pieces.length + script.failure.toList.length

/-- The result and the number of calls are what the two functions promise. -/
structure Reports (result : Int) (calls : Nat) : Prop where
  complete : 0 < result ↔ script.transferred calls = length
  failed : result ≤ 0 → 0 < calls ∧ script.result (calls - 1) = result

/-- The length survives its conversions. -/
def Carried : Prop := length < 2 ^ 63 ∧ (script.failure = none → 0 < toInt32 length)

end Script

/-- A stream that delivers the pieces of a script; the state is the number of calls. -/
def Script.read {length : Nat} (script : Script (List UInt8) List.length length) :
    Nat → Nat → Except Int (List UInt8) × Nat := fun _ k =>
  match script.pieces[k]? with
  | some piece => (.ok piece, k + 1)
  | none => (.error (script.failure.getD 0), k + 1)

/-- A stream that takes the numbers of bytes of a script. -/
def Script.write {length : Nat} (script : Script Nat id length) :
    List UInt8 → Nat → Int × Nat := fun _ k => (script.result k, k + 1)

/-- `readFixSize` is positive when all bytes were read, and else what the last call returned;
the pieces that were read lie side by side in the buffer. -/
def ReadReports (buffer : List UInt8) {length : Nat}
    (script : Script (List UInt8) List.length length) : Prop :=
  let transfer := readFixSize script.read buffer length 0
  script.Reports transfer.1 transfer.2.2
    ∧ transfer.2.1 = splice buffer 0 (script.pieces.take transfer.2.2).flatten

/-- `writeFixSize` is positive when all bytes were written, and else what the last call
returned; the peer was given the first bytes of the buffer. -/
def WriteReports (buffer : List UInt8) {length : Nat} (script : Script Nat id length) : Prop :=
  let transfer := writeFixSize script.write buffer length 0
  script.Reports transfer.1 transfer.2.2
    ∧ transfer.2.1 = buffer.take (script.transferred transfer.2.2)

/-! ## Runs of a script -/

namespace Script

variable {α : Type} {size : α → Nat} {length : Nat} (script : Script α size length)

@[simp] theorem transferred_zero : script.transferred 0 = 0 := by
  simp [transferred]

theorem transferred_succ {k : Nat} {piece : α} (h : script.pieces[k]? = some piece) :
    script.transferred (k + 1) = script.transferred k + size piece := by
  simp [transferred, List.take_add_one, h]

theorem transferred_of_le {k : Nat} (h : script.pieces.length ≤ k) :
    script.transferred k = (script.pieces.map size).sum := by
  rw [transferred, List.take_of_length_le h]

theorem size_of_getElem? {k : Nat} {piece : α} (h : script.pieces[k]? = some piece) :
    0 < size piece :=
  (script.positive piece (List.mem_of_getElem? h)).1

/-- Never more than what is left. -/
theorem transferred_le (k : Nat) : script.transferred k ≤ length := by
  have hsum : script.transferred k ≤ (script.pieces.map size).sum := by
    unfold transferred
    conv_rhs => rw [← List.take_append_drop k script.pieces, List.map_append, List.sum_append]
    omega
  have htotal := script.total
  split at htotal <;> omega

theorem transferred_lt {k : Nat} {piece : α} (h : script.pieces[k]? = some piece) :
    script.transferred k < length := by
  have hpos := script.size_of_getElem? h
  have hle := script.transferred_le (k + 1)
  rw [script.transferred_succ h] at hle
  omega

/-- What the two functions return, and after how many calls. -/
def outcome : Int × Nat :=
  if length < 2 ^ 63 then (script.failure.getD (toInt32 length), script.calls)
  else (toInt32 length, 0)

theorem outcome_of_lt (h63 : length < 2 ^ 63) :
    script.outcome = (script.failure.getD (toInt32 length), script.calls) :=
  if_pos h63

theorem outcome_of_ge (h63 : ¬ length < 2 ^ 63) : script.outcome = (toInt32 length, 0) :=
  if_neg h63

section run

variable {τ : Type} {call : Nat → Nat → τ × Nat → Int × τ × Nat} {Placed : Nat → τ → Prop}

/-- `call` plays the script, and `Placed k t` holds after `k` calls of what they made of `t`. -/
structure Plays (call : Nat → Nat → τ × Nat → Int × τ × Nat) (Placed : Nat → τ → Prop) :
    Prop where
  piece : ∀ k piece t, script.pieces[k]? = some piece → Placed k t → ∃ t',
    call (script.transferred k) (length - script.transferred k) (t, k)
      = ((size piece : Int), t', k + 1) ∧ Placed (k + 1) t'
  fail : ∀ k result t, script.pieces[k]? = none → script.failure = some result → Placed k t →
    ∃ t', call (script.transferred k) (length - script.transferred k) (t, k)
      = (result, t', k + 1) ∧ Placed (k + 1) t'

/-- The loop from call number `k` on. The induction is on the pieces that are left. -/
theorem Plays.loop {script : Script α size length} (h : script.Plays call Placed) {k : Nat}
    (hk : k ≤ script.pieces.length) {t : τ} (ht : Placed k t) :
    ∃ t', fixSizeLoop call (script.transferred k) ((length - script.transferred k : Nat) : Int)
        (t, k) = (script.failure, t', script.calls) ∧ Placed script.calls t' := by
  induction hrest : script.pieces.length - k generalizing k t with
  | zero =>
    obtain rfl : k = script.pieces.length := by omega
    have htotal := script.total
    rw [← script.transferred_of_le (Nat.le_refl _)] at htotal
    cases hf : script.failure with
    | none =>
      rw [hf, if_neg (by simp)] at htotal
      have hcalls : script.calls = script.pieces.length := by simp [calls, hf]
      rw [hcalls, htotal, fixSizeLoop_done _ _ _ (by omega)]
      exact ⟨t, rfl, ht⟩
    | some result =>
      rw [hf, if_pos (by simp)] at htotal
      have hcalls : script.calls = script.pieces.length + 1 := by simp [calls, hf]
      obtain ⟨t', hcall, ht'⟩ := h.fail _ result t (by simp) hf ht
      rw [hcalls, fixSizeLoop_failed (by omega) hcall (script.failed result hf)]
      exact ⟨t', rfl, ht'⟩
  | succ n ih =>
    have hpiece? : script.pieces[k]? = some script.pieces[k] := List.getElem?_eq_getElem (by omega)
    have hlt := script.transferred_lt hpiece?
    have hle := script.transferred_le (k + 1)
    rw [script.transferred_succ hpiece?] at hle
    obtain ⟨t', hcall, ht'⟩ := h.piece k _ t hpiece? ht
    rw [fixSizeLoop_next (by omega) hcall (script.size_of_getElem? hpiece?),
      ← script.transferred_succ hpiece?,
      show ((length - script.transferred k : Nat) : Int) - size script.pieces[k]
        = ((length - script.transferred (k + 1) : Nat) : Int) by
        rw [script.transferred_succ hpiece?]
        omega]
    exact ih (by omega) ht' (by omega)

/-- A whole transfer. -/
theorem Plays.fixSize {script : Script α size length} (h : script.Plays call Placed)
    (h64 : length < 2 ^ 64) {t : τ} (ht : Placed 0 t) :
    ∃ t', Streams.fixSize call length (t, 0) = (script.outcome.1, t', script.outcome.2)
      ∧ Placed script.outcome.2 t' := by
  by_cases h63 : length < 2 ^ 63
  · obtain ⟨t', hloop, ht'⟩ := h.loop (Nat.zero_le _) ht
    rw [transferred_zero, Nat.sub_zero] at hloop
    rw [script.outcome_of_lt h63]
    exact ⟨t', fixSize_of_loop (by rw [bmod_of_lt h63, hloop]), ht'⟩
  · have hneg := int64_nonpos h63 h64
    have hrun := fixSize_of_loop (fixSizeLoop_done call 0 (t, 0) hneg)
    rw [Option.getD_none] at hrun
    rw [script.outcome_of_ge h63]
    dsimp only
    exact ⟨t, hrun, ht⟩

end run

/-- The result is right exactly when the length survives its conversions. -/
theorem reports_outcome (hpos : length ≠ 0) :
    script.Reports script.outcome.1 script.outcome.2 ↔ script.Carried := by
  by_cases h63 : length < 2 ^ 63
  · have htotal := script.total
    rw [← script.transferred_of_le (k := script.calls) (by simp [calls])] at htotal
    cases hf : script.failure with
    | none =>
      rw [hf, if_neg (by simp)] at htotal
      rw [script.outcome_of_lt h63, hf, Option.getD_none]
      dsimp only
      constructor
      · intro h
        exact ⟨h63, fun _ => h.complete.mpr htotal⟩
      · intro h
        have hresult := h.2 hf
        exact ⟨⟨fun _ => htotal, fun _ => hresult⟩, fun hle => by omega⟩
    | some result =>
      rw [hf, if_pos (by simp)] at htotal
      have hle := script.failed result hf
      have hcalls : script.calls = script.pieces.length + 1 := by simp [calls, hf]
      rw [script.outcome_of_lt h63, hf, Option.getD_some]
      dsimp only
      constructor
      · intro _
        exact ⟨h63, fun hnone => by rw [hf] at hnone; cases hnone⟩
      · intro _
        refine ⟨⟨fun h => by omega, fun h => by omega⟩, fun _ => ⟨by omega, ?_⟩⟩
        simp [Script.result, hcalls, hf]
  · constructor
    · intro h
      rw [script.outcome_of_ge h63] at h
      dsimp only at h
      rcases Int.lt_or_le 0 (toInt32 length) with hresult | hresult
      · have := h.complete.mp hresult
        rw [transferred_zero] at this
        exact absurd this.symm hpos
      · exact absurd (h.failed hresult).1 (Nat.lt_irrefl 0)
    · intro h
      exact absurd h.1 h63

end Script

/-! ## Reading and writing -/

theorem readFixSize_script {buffer : List UInt8} {length : Nat} (h64 : length < 2 ^ 64)
    (hbuffer : length ≤ buffer.length) (script : Script (List UInt8) List.length length) :
    readFixSize script.read buffer length 0
      = (script.outcome.1, splice buffer 0 (script.pieces.take script.outcome.2).flatten,
        script.outcome.2) := by
  have hlen : ∀ k, (script.pieces.take k).flatten.length = script.transferred k := by
    simp [Script.transferred]
  have hplays : script.Plays (readCall script.read)
      fun k after => after = splice buffer 0 (script.pieces.take k).flatten := by
    constructor
    · rintro k piece _ hpiece rfl
      have hle := script.transferred_le k
      have hnext := splice_splice (m := buffer) (i := 0) (b := piece)
        (a := (script.pieces.take k).flatten) (by rw [hlen]; omega)
      rw [hlen, Nat.zero_add] at hnext
      simp [readCall, Script.read, hpiece, hnext, List.take_add_one]
    · rintro k result _ hpiece hf rfl
      simp [readCall, Script.read, hpiece, hf, List.take_add_one]
  obtain ⟨after, hrun, hafter⟩ := hplays.fixSize h64 (t := buffer) (by simp)
  rw [readFixSize, hrun, hafter]

theorem writeFixSize_script {buffer : List UInt8} {length : Nat} (h64 : length < 2 ^ 64)
    (script : Script Nat id length) :
    writeFixSize script.write buffer length 0
      = (script.outcome.1, buffer.take (script.transferred script.outcome.2),
        script.outcome.2) := by
  have hplays : script.Plays (writeCall script.write buffer)
      fun k given => given = buffer.take (script.transferred k) := by
    constructor
    · rintro k piece _ hpiece rfl
      have hle := script.transferred_le (k + 1)
      rw [script.transferred_succ hpiece, id_eq] at hle
      have hresult : script.result k = (piece : Nat) := by simp [Script.result, hpiece]
      simp only [writeCall, Script.write, hresult, slice, script.transferred_succ hpiece, id_eq,
        Int.toNat_natCast, List.take_add, List.take_take, exists_eq_right]
      rw [Nat.min_eq_left (by omega)]
    · rintro k result _ hpiece hf rfl
      have hnext : script.transferred (k + 1) = script.transferred k := by
        simp [Script.transferred, List.take_add_one, hpiece]
      have hzero : result.toNat = 0 := Int.toNat_of_nonpos (script.failed result hf)
      simp [writeCall, Script.write, Script.result, hpiece, hf, hnext, hzero]
  obtain ⟨given, hrun, hgiven⟩ := hplays.fixSize h64 (t := []) (by simp)
  rw [writeFixSize, hrun, hgiven]

theorem readReports_iff {buffer : List UInt8} {length : Nat} (hpos : 0 < length)
    (h64 : length < 2 ^ 64) (hbuffer : length ≤ buffer.length)
    (script : Script (List UInt8) List.length length) :
    ReadReports buffer script ↔ script.Carried := by
  rw [← script.reports_outcome hpos.ne']
  simp only [ReadReports, readFixSize_script h64 hbuffer script, and_true]

theorem writeReports_iff {buffer : List UInt8} {length : Nat} (hpos : 0 < length)
    (h64 : length < 2 ^ 64) (script : Script Nat id length) :
    WriteReports buffer script ↔ script.Carried := by
  rw [← script.reports_outcome hpos.ne']
  simp only [WriteReports, writeFixSize_script h64 script, and_true]

/-- A transfer of any size, in any pieces and with any failure, is reported as it went exactly
when the length is no negative `int64_t` and, if it is complete, a positive `int`. -/
theorem fixSize_reports (buffer : List UInt8) (length : Nat) (hpos : 0 < length)
    (h64 : length < 2 ^ 64) (hbuffer : length ≤ buffer.length) :
    (∀ script : Script (List UInt8) List.length length,
      ReadReports buffer script ↔ script.Carried)
    ∧ ∀ script : Script Nat id length, WriteReports buffer script ↔ script.Carried :=
  ⟨readReports_iff hpos h64 hbuffer, writeReports_iff hpos h64⟩

/-- A transfer of `n + 1` bytes, all but one of them in the first piece. -/
def Script.inTwo (n : Nat) (hn : 0 < n ∧ n < 2 ^ 31) :
    Script (List UInt8) List.length (n + 1) where
  pieces := [List.replicate n 0, [0]]
  failure := none
  positive := by simpa using hn
  failed := by simp
  total := by simp

/-- 2^31 bytes are read, and the result is -2^31. -/
theorem read_complete_but_negative :
    ¬ ∀ (buffer : List UInt8) (length : Nat), 0 < length → length < 2 ^ 64 →
      length ≤ buffer.length →
      (∀ script : Script (List UInt8) List.length length, ReadReports buffer script)
      ∧ ∀ script : Script Nat id length, WriteReports buffer script := by
  intro hall
  have hlen : ∀ n, n ≤ (List.replicate n (0 : UInt8)).length := by simp
  have h := (hall _ (2147483647 + 1) (by decide) (by decide) (hlen _)).1
    (.inTwo 2147483647 (by decide))
  have hcarried := (readReports_iff (by decide) (by decide) (hlen _) _).mp h
  exact absurd (hcarried.2 rfl) (by decide)

/-- Three bytes in two pieces. -/
def Script.three : Script (List UInt8) List.length 3 := .inTwo 2 (by decide)

/-- Two bytes of three, and then the end of the stream. -/
def Script.cutOff : Script Nat id 3 where
  pieces := [2]
  failure := some 0
  positive := by simp
  failed := by simp
  total := by simp

theorem fixSize_reports_three :
    ReadReports [0, 0, 0, 9] Script.three ∧ WriteReports [1, 2, 3, 9] Script.cutOff :=
  ⟨((fixSize_reports [0, 0, 0, 9] 3 (by decide) (by decide) (by decide)).1 _).mpr
      ⟨by decide, fun _ => by decide⟩,
    ((fixSize_reports [1, 2, 3, 9] 3 (by decide) (by decide) (by decide)).2 _).mpr
      ⟨by decide, fun _ => by decide⟩⟩

end Streams

end HrServer
