/-
HrServer.Streams.Tls — `SSLSocket::recv` and `SSLSocket::send` over `iovec`s
of `sylar/socket.cc`, and `SocketStream::read` on a `ByteArray` over them.

Both call `SSL_read` or `SSL_write` for one buffer after the other, until
one fails or moves less than its buffer. What OpenSSL answers is an
argument, with what its documentation promises as a hypothesis
(`Documented`).

A failure is returned as it is, also when earlier buffers have moved bytes
of the stream: these bytes are then reported to nobody, and a read into a
`ByteArray` leaves the position in front of them. `Clean` says when that
does not happen, with the two lengths that go through an `int` on the way.
-/
import HrServer.ByteArray.Stream
import HrServer.Lib.Checked

namespace HrServer

open Lib

namespace Streams

open Lib.Checked (toInt32)

/-! ## The loop over the buffers -/

section loop

variable {α β : Type} (iovLen : α → Nat) (tmp : β → Int)

/-- The loop of `recv` and `send` from `total` on. A call is a buffer and what OpenSSL answers
for it. Returns the result and the calls that moved bytes; `int total` wraps around. -/
def sslLoop : (total : Int) → List (α × β) → Int × List (α × β)
  | total, [] => (total, [])
  | total, c :: calls =>
    if tmp c.2 ≤ 0 then (tmp c.2, [])
    else
      let total := Int.bmod (total + tmp c.2) (2 ^ 32)
      if tmp c.2 ≠ toInt32 (iovLen c.1) then (total, [c])
      else
        let rest := sslLoop total calls
        (rest.1, c :: rest.2)

/-- The buffers with the answers of the first, the second, … call. -/
def calls (iovs : List α) (answers : Nat → β) : List (α × β) :=
  iovs.mapIdx fun k iov => (iov, answers k)

/-- `SSL_read` and `SSL_write` move at most as much as they are asked for. -/
def Documented (calls : List (α × β)) : Prop :=
  ∀ c ∈ calls, tmp c.2 ≤ 0 ∨ tmp c.2 ≤ toInt32 (iovLen c.1)

instance (calls : List (α × β)) : Decidable (Documented iovLen tmp calls) :=
  inferInstanceAs (Decidable (∀ c ∈ calls, tmp c.2 ≤ 0 ∨ tmp c.2 ≤ toInt32 (iovLen c.1)))

/-- The calls that are made: no further one after a failure or a short transfer. -/
def made : List (α × β) → List (α × β)
  | [] => []
  | c :: calls => if 0 < tmp c.2 ∧ tmp c.2 = toInt32 (iovLen c.1) then c :: made calls else [c]

/-- The number of bytes that calls moved. -/
def moved (calls : List (α × β)) : Nat := (calls.map fun c => (tmp c.2).toNat).sum

/-- No call fails after one that moved something, `int total` holds the number of bytes, and a
buffer whose length was taken for transferred was really filled. -/
structure Clean (calls : List (α × β)) : Prop where
  failure : ∀ c ∈ (made iovLen tmp calls).tail, 0 < tmp c.2
  total : moved tmp (made iovLen tmp calls) < 2 ^ 31
  filled : ∀ c ∈ (made iovLen tmp calls).dropLast, (tmp c.2).toNat = iovLen c.1

/-- The bytes of every call lie in the buffers directly behind those of the calls before. -/
def Contiguous (done : List (α × β)) : Prop :=
  ∀ before c after, done = before ++ c :: after →
    (before.map fun c => iovLen c.1).sum = moved tmp before

/-- The result speaks for the bytes that were moved, and they are contiguous. -/
structure Faithful (outcome : Int × List (α × β)) : Prop where
  nothing : outcome.1 ≤ 0 → outcome.2 = []
  number : 0 < outcome.1 → outcome.1 = moved tmp outcome.2
  contiguous : 0 < outcome.1 → Contiguous iovLen tmp outcome.2

end loop

/-! ## The result of the loop -/

section outcome

variable {α β : Type} {iovLen : α → Nat} {tmp : β → Int}

theorem moved_cons (c : α × β) (calls : List (α × β)) :
    moved tmp (c :: calls) = (tmp c.2).toNat + moved tmp calls := by
  simp [moved]

theorem made_of_full {c : α × β} {calls : List (α × β)} (hpos : 0 < tmp c.2)
    (hfull : tmp c.2 = toInt32 (iovLen c.1)) :
    made iovLen tmp (c :: calls) = c :: made iovLen tmp calls := by
  rw [made, if_pos ⟨hpos, hfull⟩]

/-- Only the last call can be one that failed. -/
theorem made_dropLast (calls : List (α × β)) :
    ∀ c ∈ (made iovLen tmp calls).dropLast, 0 < tmp c.2 := by
  induction calls with
  | nil => simp [made]
  | cons c calls ih =>
    by_cases hfull : 0 < tmp c.2 ∧ tmp c.2 = toInt32 (iovLen c.1)
    · rw [made_of_full hfull.1 hfull.2]
      intro d hd
      cases hrest : made iovLen tmp calls with
      | nil => simp [hrest] at hd
      | cons e rest =>
        rw [hrest, List.dropLast_cons_cons, List.mem_cons] at hd
        rcases hd with rfl | hd
        · exact hfull.1
        · exact ih d (by rw [hrest]; exact hd)
    · simp [made, hfull]

/-- No call failed: all made calls moved bytes, and the result is their number as an `int`. -/
theorem sslLoop_succeeded {calls : List (α × β)} {total : Int}
    (htotal : Int.bmod total (2 ^ 32) = total) (hall : ∀ c ∈ made iovLen tmp calls, 0 < tmp c.2) :
    sslLoop iovLen tmp total calls
      = (Int.bmod (total + moved tmp (made iovLen tmp calls)) (2 ^ 32), made iovLen tmp calls) := by
  induction calls generalizing total with
  | nil =>
    have hzero : (moved tmp ([] : List (α × β)) : Int) = 0 := by simp [moved]
    rw [sslLoop, made, hzero, Int.add_zero, htotal]
  | cons c calls ih =>
    by_cases hfull : 0 < tmp c.2 ∧ tmp c.2 = toInt32 (iovLen c.1)
    · rw [made_of_full hfull.1 hfull.2] at hall ⊢
      have hwrap : Int.bmod (Int.bmod (total + tmp c.2) (2 ^ 32)) (2 ^ 32)
          = Int.bmod (total + tmp c.2) (2 ^ 32) := Int.bmod_bmod
      have hrest := ih hwrap fun d hd => hall d (List.mem_cons_of_mem _ hd)
      have hsum : total + tmp c.2 + (moved tmp (made iovLen tmp calls) : Int)
          = total + (((tmp c.2).toNat + moved tmp (made iovLen tmp calls) : Nat) : Int) := by
        omega
      rw [sslLoop, if_neg (by omega)]
      dsimp only
      rw [if_neg (not_not.mpr hfull.2), hrest, moved_cons, Int.bmod_add_bmod, hsum]
    · have hmade : made iovLen tmp (c :: calls) = [c] := by simp [made, hfull]
      rw [hmade] at hall ⊢
      have hpos := hall c (List.mem_singleton.mpr rfl)
      rw [sslLoop, if_neg (by omega)]
      dsimp only
      rw [if_pos (fun h => hfull ⟨hpos, h⟩)]
      have hmoved : (moved tmp [c] : Int) = tmp c.2 := by
        simp [moved]
        omega
      rw [hmoved]

/-- The last call failed: its result is returned, whatever the others have moved. -/
theorem sslLoop_failed {calls : List (α × β)} (total : Int)
    (hsome : ∃ c ∈ made iovLen tmp calls, tmp c.2 ≤ 0) :
    (sslLoop iovLen tmp total calls).1 ≤ 0
      ∧ (sslLoop iovLen tmp total calls).2 = (made iovLen tmp calls).dropLast := by
  induction calls generalizing total with
  | nil => simp [made] at hsome
  | cons c calls ih =>
    by_cases hfull : 0 < tmp c.2 ∧ tmp c.2 = toInt32 (iovLen c.1)
    · rw [made_of_full hfull.1 hfull.2] at hsome ⊢
      have hsome' : ∃ d ∈ made iovLen tmp calls, tmp d.2 ≤ 0 := by
        obtain ⟨d, hd, hle⟩ := hsome
        rcases List.mem_cons.mp hd with rfl | hd
        · omega
        · exact ⟨d, hd, hle⟩
      obtain ⟨hresult, hdone⟩ := ih (Int.bmod (total + tmp c.2) (2 ^ 32)) hsome'
      have hne : made iovLen tmp calls ≠ [] := by
        obtain ⟨d, hd, -⟩ := hsome'
        exact List.ne_nil_of_mem hd
      rw [sslLoop, if_neg (by omega)]
      dsimp only
      rw [if_neg (not_not.mpr hfull.2)]
      exact ⟨hresult, by rw [hdone, List.dropLast_cons_of_ne_nil hne]⟩
    · have hmade : made iovLen tmp (c :: calls) = [c] := by simp [made, hfull]
      rw [hmade] at hsome ⊢
      have hle : tmp c.2 ≤ 0 := by simpa using hsome
      rw [sslLoop, if_pos hle]
      exact ⟨hle, rfl⟩

/-- Bytes are contiguous when every buffer but the last one is filled. -/
theorem contiguous_iff (done : List (α × β)) :
    Contiguous iovLen tmp done ↔ ∀ c ∈ done.dropLast, (tmp c.2).toNat = iovLen c.1 := by
  induction done with
  | nil => simp [Contiguous]
  | cons c done ih =>
    cases done with
    | nil =>
      simp only [List.dropLast_singleton, List.not_mem_nil, false_imp_iff, implies_true, iff_true]
      intro before d after h
      cases before with
      | nil => rfl
      | cons e before => simp at h
    | cons d rest =>
      rw [List.dropLast_cons_cons, List.forall_mem_cons, ← ih]
      constructor
      · intro h
        have hc : (tmp c.2).toNat = iovLen c.1 := by
          simpa [moved] using (h [c] d rest rfl).symm
        refine ⟨hc, ?_⟩
        intro before e after heq
        have := h (c :: before) e after (by rw [heq, List.cons_append])
        rw [moved_cons, List.map_cons, List.sum_cons] at this
        omega
      · rintro ⟨hc, hrest⟩ before e after heq
        cases before with
        | nil => rfl
        | cons f before =>
          obtain ⟨rfl, heq'⟩ := List.cons.inj heq
          rw [moved_cons, List.map_cons, List.sum_cons, hrest before e after heq', hc]

theorem moved_pos {calls : List (α × β)} (hne : calls ≠ []) (hall : ∀ c ∈ calls, 0 < tmp c.2) :
    0 < moved tmp calls := by
  cases calls with
  | nil => exact absurd rfl hne
  | cons c calls =>
    have hc := hall c List.mem_cons_self
    rw [moved_cons]
    omega

theorem faithful_mk {result : Int} {done : List (α × β)} :
    Faithful iovLen tmp (result, done) ↔ (result ≤ 0 → done = [])
      ∧ (0 < result → result = moved tmp done ∧ Contiguous iovLen tmp done) :=
  ⟨fun h => ⟨h.nothing, fun hpos => ⟨h.number hpos, h.contiguous hpos⟩⟩,
    fun h => ⟨h.1, fun hpos => (h.2 hpos).1, fun hpos => (h.2 hpos).2⟩⟩

/-- Where no call failed, the number of bytes has to fit in the result. -/
theorem faithful_succeeded {done : List (α × β)} (hall : ∀ c ∈ done, 0 < tmp c.2) :
    Faithful iovLen tmp (Int.bmod (moved tmp done) (2 ^ 32), done)
      ↔ moved tmp done < 2 ^ 31 ∧ ∀ c ∈ done.dropLast, (tmp c.2).toNat = iovLen c.1 := by
  have hlt : Int.bmod (moved tmp done) (2 ^ 32) < 2 ^ 31 := Int.bmod_lt (by decide)
  have hbmod : moved tmp done < 2 ^ 31 → Int.bmod (moved tmp done) (2 ^ 32) = moved tmp done := by
    intro h
    rw [Int.bmod_eq_of_le] <;> omega
  rw [faithful_mk, contiguous_iff]
  generalize Int.bmod (moved tmp done) (2 ^ 32) = result at hlt hbmod ⊢
  by_cases hnone : done = []
  · have hzero : moved tmp done = 0 := by simp [hnone, moved]
    have hresult := hbmod (by omega)
    simp only [hnone, List.dropLast_nil, List.not_mem_nil, false_imp_iff, implies_true, true_and,
      and_true]
    exact ⟨fun _ => by rw [← hnone]; omega, fun _ hpos => by omega⟩
  · have hpos := moved_pos hnone hall
    constructor
    · rintro ⟨hzero, hfit⟩
      have hresult : 0 < result := by
        by_contra hle
        exact hnone (hzero (by omega))
      exact ⟨by have := (hfit hresult).1; omega, (hfit hresult).2⟩
    · rintro ⟨hfit, hfilled⟩
      have hresult := hbmod hfit
      exact ⟨fun hle => by omega, fun _ => ⟨hresult, hfilled⟩⟩

/-- The loop speaks for what it moved exactly when it goes clean. -/
theorem faithful_iff (calls : List (α × β)) :
    Faithful iovLen tmp (sslLoop iovLen tmp 0 calls) ↔ Clean iovLen tmp calls := by
  by_cases hall : ∀ c ∈ made iovLen tmp calls, 0 < tmp c.2
  · rw [sslLoop_succeeded (by decide) hall, Int.zero_add, faithful_succeeded hall]
    exact ⟨fun h => ⟨fun c hc => hall c (List.mem_of_mem_tail hc), h.1, h.2⟩,
      fun h => ⟨h.total, h.filled⟩⟩
  · obtain ⟨c, hc, hle⟩ : ∃ c ∈ made iovLen tmp calls, tmp c.2 ≤ 0 := by simpa using hall
    obtain ⟨hresult, hdone⟩ := sslLoop_failed 0 ⟨c, hc, hle⟩
    have hfirst : ∀ c ∈ (made iovLen tmp calls).dropLast, 0 < tmp c.2 := made_dropLast calls
    -- the failed call is the only one, or it comes after another
    rcases hmade : made iovLen tmp calls with _ | ⟨d, _ | ⟨e, rest⟩⟩
    · simp [hmade] at hc
    · rw [hmade] at hc hdone
      obtain rfl := List.mem_singleton.mp hc
      have hmoved : moved tmp [c] = 0 := by simp [moved, hle]
      constructor
      · intro _
        exact ⟨by simp [hmade], by rw [hmade, hmoved]; decide, by simp [hmade]⟩
      · intro _
        exact ⟨fun _ => hdone, fun hpos => by omega, fun hpos => by omega⟩
    · rw [hmade] at hc hdone hfirst
      constructor
      · intro h
        have := h.nothing hresult
        rw [hdone] at this
        simp at this
      · intro h
        have htail := h.failure
        rw [hmade] at htail
        have hd := hfirst d (by simp)
        rcases List.mem_cons.mp hc with rfl | hc
        · omega
        · have := htail c hc
          omega

theorem faithful_nothing {result : Int} (h : result ≤ 0) :
    Faithful iovLen tmp (result, ([] : List (α × β))) :=
  faithful_mk.mpr ⟨fun _ => rfl, fun hpos => by omega⟩

/-! ## Where the bytes are -/

/-- The calls that moved bytes are those for the first buffers, and they fill all of these but
the last one. -/
structure Placed (iovLen : α → Nat) (tmp : β → Int) (iovs : List α) (done : List (α × β)) :
    Prop where
  first : done.map Prod.fst <+: iovs
  moves : ∀ c ∈ done, 0 < tmp c.2
  fits : ∀ c ∈ done, (tmp c.2).toNat ≤ iovLen c.1
  filled : ∀ c ∈ done.dropLast, (tmp c.2).toNat = iovLen c.1

/-- The first of the calls, and the others. -/
theorem Placed.cons {iovs : List α} {c : α × β} {done : List (α × β)}
    (h : Placed iovLen tmp iovs (c :: done)) :
    ∃ rest, iovs = c.1 :: rest ∧ Placed iovLen tmp rest done ∧ 0 < tmp c.2
      ∧ (tmp c.2).toNat ≤ iovLen c.1 ∧ (done = [] ∨ (tmp c.2).toNat = iovLen c.1) := by
  obtain ⟨⟨rest, hrest⟩, hmoves, hfits, hfilled⟩ := h
  obtain ⟨hmove, hmoves⟩ := List.forall_mem_cons.mp hmoves
  obtain ⟨hfit, hfits⟩ := List.forall_mem_cons.mp hfits
  refine ⟨done.map Prod.fst ++ rest, hrest.symm, ?_, hmove, hfit, ?_⟩
  · refine ⟨List.prefix_append _ _, hmoves, hfits, ?_⟩
    intro d hd
    cases done with
    | nil => simp at hd
    | cons e done => exact hfilled d (List.mem_cons_of_mem _ hd)
  · cases done with
    | nil => exact .inl rfl
    | cons e done => exact .inr (hfilled c (by simp))

theorem Placed.moved_le {iovs : List α} {done : List (α × β)} (h : Placed iovLen tmp iovs done) :
    moved tmp done ≤ (iovs.map iovLen).sum := by
  induction done generalizing iovs with
  | nil => simp [moved]
  | cons c done ih =>
    obtain ⟨rest, rfl, hrest, -, hfit, -⟩ := h.cons
    have := ih hrest
    rw [moved_cons, List.map_cons, List.sum_cons]
    omega

theorem sslLoop_prefix (total : Int) (calls : List (α × β)) :
    (sslLoop iovLen tmp total calls).2 <+: calls := by
  induction calls generalizing total with
  | nil => exact List.nil_prefix
  | cons c calls ih =>
    rw [sslLoop]
    split
    · exact List.nil_prefix
    · dsimp only
      split
      · simp
      · simpa using ih _

theorem sslLoop_moves (total : Int) (calls : List (α × β)) :
    ∀ c ∈ (sslLoop iovLen tmp total calls).2, 0 < tmp c.2 := by
  induction calls generalizing total with
  | nil => simp [sslLoop]
  | cons c calls ih =>
    rw [sslLoop]
    split
    · simp
    · next hpos =>
      dsimp only
      split
      · simp only [List.mem_singleton, forall_eq]
        omega
      · rw [List.forall_mem_cons]
        exact ⟨by omega, ih _⟩

theorem toInt32_le (n : Nat) : toInt32 n ≤ n := by
  unfold toInt32
  rw [Int.bmod_def]
  split <;> omega

theorem calls_cons (iov : α) (iovs : List α) (answers : Nat → β) :
    calls (iov :: iovs) answers = (iov, answers 0) :: calls iovs fun k => answers (k + 1) := by
  simp [calls]

theorem map_fst_calls (iovs : List α) (answers : Nat → β) :
    (calls iovs answers).map Prod.fst = iovs := by
  induction iovs generalizing answers with
  | nil => rfl
  | cons iov iovs ih => rw [calls_cons, List.map_cons, ih]

/-- A result that speaks for its bytes also says where they are. -/
theorem Faithful.placed {iovs : List α} {answers : Nat → β}
    (h : Faithful iovLen tmp (sslLoop iovLen tmp 0 (calls iovs answers)))
    (hssl : Documented iovLen tmp (calls iovs answers))
    (hpos : 0 < (sslLoop iovLen tmp 0 (calls iovs answers)).1) :
    Placed iovLen tmp iovs (sslLoop iovLen tmp 0 (calls iovs answers)).2 := by
  have hpre : (sslLoop iovLen tmp 0 (calls iovs answers)).2 <+: calls iovs answers :=
    sslLoop_prefix 0 _
  refine ⟨?_, sslLoop_moves 0 _, ?_, (contiguous_iff _).mp (h.contiguous hpos)⟩
  · have := hpre.map Prod.fst
    rwa [map_fst_calls] at this
  · intro c hc
    have hle := toInt32_le (iovLen c.1)
    rcases hssl c (hpre.subset hc) with h | h <;> omega

end outcome

/-! ## Receiving and sending -/

/-- What `SSL_read` returns, with the bytes that it puts at the start of the buffer. -/
structure SslRead where
  tmp : Int
  bytes : List UInt8
  length_eq : bytes.length = tmp.toNat

/-- `SSLSocket::recv(buffers, length)`, with the calls that took bytes of the stream. -/
def recv {α : Type} (iovLen : α → Nat) (ssl : Bool) (buffers : List α)
    (answers : Nat → SslRead) : Int × List (α × SslRead) :=
  if ssl then sslLoop iovLen SslRead.tmp 0 (calls buffers answers) else (-1, [])

/-- `SSLSocket::send(buffers, length)`; `SSL_write` returns how many bytes of the buffer it has
given to the stream. -/
def send (ssl : Bool) (buffers : List (List UInt8)) (answers : Nat → Int) :
    Int × List (List UInt8 × Int) :=
  if ssl then sslLoop List.length id 0 (calls buffers answers) else (-1, [])

/-- The bytes that were taken from the stream. -/
def taken {α : Type} (done : List (α × SslRead)) : List UInt8 :=
  (done.map fun c => c.2.bytes).flatten

/-- The bytes that were given to the stream. -/
def given (done : List (List UInt8 × Int)) : List UInt8 :=
  (done.map fun c => c.1.take c.2.toNat).flatten

/-- The buffers after the calls. -/
def filledBuffers (buffers : List (List UInt8)) (done : List (List UInt8 × SslRead)) :
    List (List UInt8) :=
  (done.map fun c => splice c.1 0 c.2.bytes) ++ buffers.drop done.length

/-- The result of `recv` speaks for the bytes it took, and they lie in the buffers from the
start on. -/
def RecvFaithful (ssl : Bool) (buffers : List (List UInt8)) (answers : Nat → SslRead) : Prop :=
  let outcome := recv List.length ssl buffers answers
  Faithful List.length SslRead.tmp outcome
    ∧ (0 < outcome.1 → (filledBuffers buffers outcome.2).flatten
      = splice buffers.flatten 0 (taken outcome.2))

/-- The result of `send` speaks for the bytes it gave, which are the first of the buffers. -/
def SendFaithful (ssl : Bool) (buffers : List (List UInt8)) (answers : Nat → Int) : Prop :=
  let outcome := send ssl buffers answers
  Faithful List.length id outcome
    ∧ (0 < outcome.1 → given outcome.2 = buffers.flatten.take outcome.1.toNat)

theorem taken_cons {α : Type} (c : α × SslRead) (done : List (α × SslRead)) :
    taken (c :: done) = c.2.bytes ++ taken done := by
  simp [taken]

theorem length_taken {α : Type} (done : List (α × SslRead)) :
    (taken done).length = moved SslRead.tmp done := by
  simp [taken, moved, SslRead.length_eq, Function.comp_def]

/-- Contiguous pieces are one write over the buffers one after the other. -/
theorem Placed.flatten_filledBuffers {buffers : List (List UInt8)}
    {done : List (List UInt8 × SslRead)} (h : Placed List.length SslRead.tmp buffers done) :
    (filledBuffers buffers done).flatten = splice buffers.flatten 0 (taken done) := by
  induction done generalizing buffers with
  | nil => simp [filledBuffers, taken]
  | cons c done ih =>
    obtain ⟨rest, rfl, hrest, -, hfit, hfull⟩ := h.cons
    rw [← c.2.length_eq] at hfit hfull
    have hstep : filledBuffers (c.1 :: rest) (c :: done)
        = splice c.1 0 c.2.bytes :: filledBuffers rest done := by
      simp [filledBuffers]
    have hlast : taken done = [] ∨ c.2.bytes.length = c.1.length :=
      hfull.imp_left fun hnil => by simp [hnil, taken]
    rw [hstep, List.flatten_cons, ih hrest, List.flatten_cons, taken_cons,
      splice_append_pair hfit hlast]

/-- Contiguous pieces are the first bytes of the buffers one after the other. -/
theorem Placed.given_eq_take {buffers : List (List UInt8)} {done : List (List UInt8 × Int)}
    (h : Placed List.length id buffers done) :
    given done = buffers.flatten.take (moved id done) := by
  induction done generalizing buffers with
  | nil => simp [given, moved]
  | cons c done ih =>
    obtain ⟨rest, rfl, hrest, -, hfit, hfull⟩ := h.cons
    have hstep : given (c :: done) = c.1.take c.2.toNat ++ given done := by simp [given]
    rw [id_eq] at hfit hfull
    rw [hstep, ih hrest, moved_cons, List.flatten_cons, id_eq]
    rcases hfull with rfl | hfull
    · simp [moved, List.take_append_of_le_length hfit]
    · rw [hfull, List.take_length, List.take_length_add_append]

theorem recv_faithful_iff {α : Type} {iovLen : α → Nat} (ssl : Bool) (buffers : List α)
    (answers : Nat → SslRead) :
    Faithful iovLen SslRead.tmp (recv iovLen ssl buffers answers)
      ↔ (ssl = true → Clean iovLen SslRead.tmp (calls buffers answers)) := by
  cases ssl with
  | false => simp [recv, faithful_nothing]
  | true => simp [recv, faithful_iff]

theorem recvFaithful_iff {buffers : List (List UInt8)} {answers : Nat → SslRead} (ssl : Bool)
    (hssl : Documented List.length SslRead.tmp (calls buffers answers)) :
    RecvFaithful ssl buffers answers
      ↔ (ssl = true → Clean List.length SslRead.tmp (calls buffers answers)) := by
  rw [← recv_faithful_iff]
  constructor
  · exact fun h => h.1
  · intro h
    refine ⟨h, fun hpos => ?_⟩
    cases ssl with
    | false => simp [recv] at hpos
    | true => exact (Faithful.placed h hssl hpos).flatten_filledBuffers

theorem sendFaithful_iff {buffers : List (List UInt8)} {answers : Nat → Int} (ssl : Bool)
    (hssl : Documented List.length id (calls buffers answers)) :
    SendFaithful ssl buffers answers
      ↔ (ssl = true → Clean List.length id (calls buffers answers)) := by
  cases ssl with
  | false => simp [SendFaithful, send, faithful_nothing]
  | true =>
    simp only [SendFaithful, send, if_true, faithful_iff, true_imp_iff]
    constructor
    · exact fun h => h.1
    · intro h
      refine ⟨h, fun hpos => ?_⟩
      have hfaithful := (faithful_iff _).mpr h
      rw [(hfaithful.placed hssl hpos).given_eq_take, hfaithful.number hpos, Int.toNat_natCast]

/-! ## A byte array over TLS -/

section array

variable (fresh : Nat → Nat → UInt8)

/-- The bytes that the calls put into the blocks. -/
def storeAll : List (Iovec × SslRead) → List Node → Option (List Node)
  | [], nodes => some nodes
  | c :: done, nodes => do
    let node ← nodes[c.1.node]?
    let node' ← node.store c.1.offset c.2.bytes
    storeAll done (nodes.set c.1.node node')

/-- `SSLSocket::recv(buffers, length)` into the blocks of an array. -/
def recvBlocks (ssl : Bool) (answers : Nat → SslRead) (iovs : List Iovec) :
    Op Int := fun ba =>
  let outcome := recv Iovec.len ssl iovs answers
  match storeAll outcome.2 ba.root with
  | none => .error .segv ba
  | some root => .ok outcome.1 { ba with root := root }

/-- `SocketStream::read(ba, length)` on an `SSLSocket`. -/
def streamRead (isConnected ssl : Bool) (answers : Nat → SslRead) (length : Nat) :
    Op Int :=
  if isConnected then do
    let (iovs, _) ← ByteArray.getWriteBuffers fresh length
    let rt ← recvBlocks ssl answers iovs
    if rt > 0 then
      let ba ← get
      ByteArray.setPosition (ba.position + rt.toNat)
    pure rt
  else pure (-1)

/-- A use of the array: one of those over plain sockets, or a read over TLS. -/
inductive TlsUse where
  | plain (u : ByteArray.Use)
  | streamRead (isConnected ssl : Bool) (answers : Nat → SslRead) (length : Nat)

/-- The use itself. -/
def TlsUse.invoke : TlsUse → Op Unit
  | plain u => u.invoke fresh
  | streamRead isConnected ssl answers length =>
    ByteArray.void (Streams.streamRead fresh isConnected ssl answers length)

/-- One use: whether it threw and the array it left; `none` is a crash. -/
def callTlsUse (ba : ByteArray) (u : TlsUse) : Option (Option Fault × ByteArray) :=
  match u.invoke fresh ba with
  | .ok _ ba' => some (none, ba')
  | .error (.outOfRange what) ba' => some (some (.outOfRange what), ba')
  | .error .segv _ => none

/-- The read moves the position behind the bytes that it took from the stream, and these are
the bytes of the array there. -/
def Kept (ba : ByteArray) (outcome : EStateM.Result Fault ByteArray Int) (bytes : List UInt8) :
    Prop :=
  ∃ rt ba', outcome = .ok rt ba' ∧ ba'.position = ba.position + bytes.length
    ∧ ba'.contents = ba.overlaid bytes

theorem storeAll_blocks {B : Nat} {done : List (Iovec × SslRead)} {nodes nodes' : List Node}
    (hb : ByteArray.Blocks B nodes) (h : storeAll done nodes = some nodes') :
    ByteArray.Blocks B nodes' ∧ nodes'.length = nodes.length := by
  induction done generalizing nodes with
  | nil =>
    obtain rfl : nodes = nodes' := by simpa [storeAll] using h
    exact ⟨hb, rfl⟩
  | cons c done ih =>
    simp only [storeAll, Option.bind_eq_bind, Option.bind_eq_some_iff] at h
    obtain ⟨node, hnode, node', hstore, hrest⟩ := h
    have hsize : node'.size = B := by
      rw [ByteArray.Node.store_size hstore, hb node (List.mem_of_getElem? hnode)]
    obtain ⟨h1, h2⟩ := ih (hb.set c.1.node hsize) hrest
    exact ⟨h1, by rw [h2, List.length_set]⟩

theorem preserves_recvBlocks (ssl : Bool) (answers : Nat → SslRead) (iovs : List Iovec) :
    ByteArray.Preserves (recvBlocks ssl answers iovs) := by
  rintro B ba ⟨h, rfl⟩
  cases hs : storeAll (recv Iovec.len ssl iovs answers).2 ba.root with
  | none => simp [recvBlocks, hs, ByteArray.Raised]
  | some root =>
    obtain ⟨hb, hlen⟩ := storeAll_blocks h.blocks hs
    simpa [recvBlocks, hs] using ⟨h.refilled hb hlen, rfl⟩

theorem callTlsUse_wellFormed {B : Nat} {ba ba' : ByteArray} {u : TlsUse} {f : Option Fault}
    (h : ByteArray.WellFormed B ba) (hc : callTlsUse fresh ba u = some (f, ba')) :
    ByteArray.WellFormed B ba' := by
  cases u with
  | plain u => exact ByteArray.callUse_wellFormed fresh h hc
  | streamRead isConnected ssl answers length =>
    have hread : ByteArray.Preserves (streamRead fresh isConnected ssl answers length) := by
      cases isConnected with
      | false => exact ByteArray.Preserves.pure _
      | true =>
        exact (ByteArray.preserves_getWriteBuffers fresh length).bind fun r =>
          (preserves_recvBlocks ssl answers r.1).bind fun rt => ByteArray.preserves_moveOn rt rt
    exact hread.void.called h hc

/-- Contiguous pieces are put where one delivery of all of them would put them. -/
theorem Placed.storeAll_eq {iovs : List Iovec} {done : List (Iovec × SslRead)}
    (h : Placed Iovec.len SslRead.tmp iovs done) (nodes : List Node) :
    storeAll done nodes = (scatter iovs (taken done) nodes).map Prod.fst := by
  induction done generalizing iovs nodes with
  | nil =>
    cases iovs with
    | nil => rfl
    | cons iov iovs => simp [storeAll, scatter, taken]
  | cons c done ih =>
    obtain ⟨rest, rfl, hrest, hmove, hfit, hfull⟩ := h.cons
    rw [← c.2.length_eq] at hfit hfull
    have hne : ¬ (c.2.bytes ++ taken done).length = 0 := by
      rw [List.length_append, c.2.length_eq]
      omega
    have htake : (c.2.bytes ++ taken done).take c.1.len = c.2.bytes := by
      rcases hfull with rfl | hfull
      · simp [taken, List.take_of_length_le hfit]
      · rw [← hfull, List.take_left]
    have hdrop : (c.2.bytes ++ taken done).drop c.1.len = taken done := by
      rcases hfull with rfl | hfull
      · simp [taken, hfit]
      · rw [← hfull, List.drop_left]
    rw [taken_cons, storeAll, scatter, if_neg hne, htake, hdrop]
    cases hnode : nodes[c.1.node]? with
    | none => rfl
    | some node =>
      cases hstore : node.store c.1.offset c.2.bytes with
      | none => simp [hstore]
      | some node' =>
        simp only [hstore, ih hrest, Option.bind_eq_bind, Option.bind_some]
        cases scatter rest (taken done) (nodes.set c.1.node node') <;> rfl

/-- What one delivery of all the bytes does to the blocks. -/
theorem recvBlocks_eq {ba g : ByteArray} {ssl : Bool} {answers : Nat → SslRead} {length : Nat}
    {iovs : List Iovec} (hg : ByteArray.Grown ba length g)
    (hcov : ByteArray.Covers ba.baseSize ba.position iovs (ba.position + length))
    (hplaced : Placed Iovec.len SslRead.tmp iovs (recv Iovec.len ssl iovs answers).2)
    (hnumber : (recv Iovec.len ssl iovs answers).1
      = moved SslRead.tmp (recv Iovec.len ssl iovs answers).2) :
    recvBlocks ssl answers iovs g
      = ByteArray.recv true (some (taken (recv Iovec.len ssl iovs answers).2)) iovs g := by
  have hblocks : ByteArray.Blocks ba.baseSize g.root := hg.baseSize_eq ▸ hg.inv.blocks
  have hstop : ba.position + length ≤ g.root.length * ba.baseSize := by
    rw [← hg.baseSize_eq, ← hg.inv.capacity_eq]
    exact hg.room
  have hfit := hplaced.moved_le
  rw [← length_taken] at hnumber hfit
  have hsum := hcov.sum_len
  have hfit' : ba.position + (taken (recv Iovec.len ssl iovs answers).2).length
      ≤ ba.position + length := by omega
  obtain ⟨root, hscatter, -⟩ := ByteArray.scatter_spec hblocks hcov hfit' hstop
  have hstore := hplaced.storeAll_eq g.root
  rw [hscatter, Option.map_some] at hstore
  simp [recvBlocks, ByteArray.recv, hstore, hscatter, hnumber]

/-- A read over TLS that goes clean keeps all bytes that it takes from the stream. -/
theorem streamRead_kept {ba g : ByteArray} (h : ByteArray.Inv ba) {isConnected ssl : Bool}
    {answers : Nat → SslRead} {length n : Nat} {iovs : List Iovec}
    (hget : ByteArray.getWriteBuffers fresh length ba = .ok (iovs, n) g)
    (hssl : Documented Iovec.len SslRead.tmp (calls iovs answers))
    (hfaithful : Faithful Iovec.len SslRead.tmp
      (recv Iovec.len (isConnected && ssl) iovs answers)) :
    Kept ba (streamRead fresh isConnected ssl answers length ba)
      (taken (recv Iovec.len (isConnected && ssl) iovs answers).2) := by
  cases isConnected with
  | false => exact ⟨-1, ba, rfl, rfl, (ByteArray.overlaid_nil h).symm⟩
  | true =>
    rw [Bool.true_and] at hfaithful ⊢
    obtain ⟨iovs', g', hget', hg, hcov⟩ := ByteArray.getWriteBuffers_spec fresh h length
    obtain ⟨⟨rfl, rfl⟩, rfl⟩ : (iovs' = iovs ∧ length = n) ∧ g' = g := by
      simpa using hget'.symm.trans hget
    by_cases hpos : 0 < (recv Iovec.len ssl iovs' answers).1
    · have hnumber := hfaithful.number hpos
      have hplaced : Placed Iovec.len SslRead.tmp iovs' (recv Iovec.len ssl iovs' answers).2 := by
        cases ssl with
        | false => simp [recv] at hpos
        | true => exact hfaithful.placed hssl hpos
      have hrecv := recvBlocks_eq hg hcov hplaced hnumber
      have hfit := hplaced.moved_le
      have hsum := hcov.sum_len
      rw [← length_taken] at hfit hnumber
      obtain ⟨ba', hread, hposition, -, hcontents, -⟩ :=
        ByteArray.streamRead_spec fresh h
          (show 0 < (taken (recv Iovec.len ssl iovs' answers).2).length by omega)
          (show (taken (recv Iovec.len ssl iovs' answers).2).length ≤ length by omega)
      refine ⟨(taken (recv Iovec.len ssl iovs' answers).2).length, ba', ?_, hposition, hcontents⟩
      rw [← hread]
      simp only [streamRead, ByteArray.streamRead, if_true, bind_ok hget]
      show EStateM.bind _ _ g' = EStateM.bind _ _ g'
      simp only [EStateM.bind, hrecv]
    · have hnone := hfaithful.nothing (by omega)
      have hrecv : recvBlocks ssl answers iovs' g'
          = .ok (recv Iovec.len ssl iovs' answers).1 g' := by
        simp [recvBlocks, hnone, storeAll]
      refine ⟨(recv Iovec.len ssl iovs' answers).1, g', ?_, ?_, ?_⟩
      · simp only [streamRead, if_true, bind_ok hget, bind_ok hrecv, if_neg hpos]
        rfl
      · rw [hnone, hg.position_eq]
        rfl
      · rw [hnone, hg.contents_eq h]
        exact (ByteArray.overlaid_nil h).symm

end array

/-- Scatter and gather over TLS report and keep every byte they move exactly when no call fails
after one that moved something, the number of bytes is an `int`, and no buffer but the last is
longer than its length as an `int`. So does a read into an array that any uses have left. -/
theorem tls_keeps_data (fresh : Nat → Nat → UInt8) :
    (∀ (ssl : Bool) (buffers : List (List UInt8)) (answers : Nat → SslRead),
      Documented List.length SslRead.tmp (calls buffers answers) →
      (RecvFaithful ssl buffers answers
        ↔ (ssl = true → Clean List.length SslRead.tmp (calls buffers answers))))
    ∧ (∀ (ssl : Bool) (buffers : List (List UInt8)) (answers : Nat → Int),
      Documented List.length id (calls buffers answers) →
      (SendFaithful ssl buffers answers
        ↔ (ssl = true → Clean List.length id (calls buffers answers))))
    ∧ ∀ (B : Nat) (uses : List TlsUse) (thrown : List (Option Fault)) (ba : ByteArray), 0 < B →
      run (callTlsUse fresh) (ByteArray.new fresh B) uses = some (thrown, ba) →
      ∀ (isConnected ssl : Bool) (answers : Nat → SslRead) (length n : Nat) (iovs : List Iovec)
        (g : ByteArray), ByteArray.getWriteBuffers fresh length ba = .ok (iovs, n) g →
      Documented Iovec.len SslRead.tmp (calls iovs answers) →
      ((Faithful Iovec.len SslRead.tmp (recv Iovec.len (isConnected && ssl) iovs answers)
          ∧ Kept ba (streamRead fresh isConnected ssl answers length ba)
            (taken (recv Iovec.len (isConnected && ssl) iovs answers).2))
        ↔ ((isConnected && ssl) = true → Clean Iovec.len SslRead.tmp (calls iovs answers))) := by
  refine ⟨fun ssl _ _ hssl => recvFaithful_iff ssl hssl,
    fun ssl _ _ hssl => sendFaithful_iff ssl hssl, ?_⟩
  intro B uses thrown ba hB hrun isConnected ssl answers length n iovs g hget hssl
  obtain ⟨h, -⟩ : ByteArray.WellFormed B ba :=
    run_invariant (fun _ _ _ _ hs hc => callTlsUse_wellFormed fresh hs hc) uses
      ⟨ByteArray.inv_new fresh hB, rfl⟩ hrun
  rw [← recv_faithful_iff]
  exact ⟨fun hkept => hkept.1, fun hfaithful =>
    ⟨hfaithful, streamRead_kept fresh h hget hssl hfaithful⟩⟩

/-- The answer of the first call, and that of all others. -/
def firstThen (first second : SslRead) : Nat → SslRead
  | 0 => first
  | _ => second

/-- One byte is taken from the stream, then the connection fails: the result is -1. -/
theorem tls_loses_byte :
    ¬ ∀ (ssl : Bool) (buffers : List (List UInt8)) (answers : Nat → SslRead),
      Documented List.length SslRead.tmp (calls buffers answers) →
      RecvFaithful ssl buffers answers := by
  intro hall
  have h := hall true [[0], [0]] (firstThen ⟨1, [7], rfl⟩ ⟨-1, [], rfl⟩) (by decide)
  have hnone := congrArg List.length (h.1.nothing (by decide))
  exact absurd hnone (by decide)

/-- Two buffers, the first of them filled; and an array in blocks of two. -/
theorem tls_keeps_data_two :
    RecvFaithful true [[0, 0], [0]] (firstThen ⟨2, [1, 2], rfl⟩ ⟨1, [3], rfl⟩)
      ∧ SendFaithful true [[1, 2], [3]] (fun k => if k = 0 then 2 else 1)
      ∧ Kept (ByteArray.new (fun _ _ => 0) 2)
        (streamRead (fun _ _ => 0) true true (firstThen ⟨2, [1, 2], rfl⟩ ⟨1, [3], rfl⟩) 3
          (ByteArray.new (fun _ _ => 0) 2)) [1, 2, 3] := by
  obtain ⟨hrecv, hsend, hread⟩ := tls_keeps_data fun _ _ => 0
  refine ⟨(hrecv true _ _ (by decide)).mpr fun _ => ⟨by decide, by decide, by decide⟩,
    (hsend true _ _ (by decide)).mpr fun _ => ⟨by decide, by decide, by decide⟩, ?_⟩
  exact ((hread 2 [] [] _ (by decide) rfl true true (firstThen ⟨2, [1, 2], rfl⟩ ⟨1, [3], rfl⟩) 3 3
    [⟨0, 0, 2⟩, ⟨1, 0, 1⟩] _ rfl (by decide)).mpr
      fun _ => ⟨by decide, by decide, by decide⟩).2

end Streams
end HrServer
