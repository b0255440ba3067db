/-
HrServer.Http.Body — the body that `HttpSession::recvRequest` returns.

`recvRequest` takes the head off the stream, keeps what it has read behind
it, and reads the rest of the announced length. Every byte that arrives is
in exactly one place: taken by the parser, in the buffer, or still to
arrive (`recvHead_split`, `readFixSize_split`).

The announced length is a `uint64_t`, and `recvRequest` computes with it
as an `int64_t`. From 2^63 on it is negative there, no body is read, and
the request is returned with an empty one. Below 2^63 the body is the
announced number of bytes behind the head (`recvRequest_body`).
-/
import HrServer.Http.KeepAlive

namespace HrServer

open Lib

namespace Http

open Lib.Checked (toInt32 toInt32_of_lt bmod_of_lt)
open Streams

/-! ## What a read takes -/

theorem Socket.read_ok {s s' : Socket} {length : Nat} {got : Bytes}
    (h : s.read length = (.ok got, s')) :
    got.length ≤ length ∧ s.arrivals.flatten = got ++ s'.arrivals.flatten := by
  obtain ⟨arrivals, isConnected⟩ := s
  unfold read at h
  split at h
  · cases arrivals with
    | nil => simp at h
    | cons portion arrivals =>
      dsimp only at h
      split at h
      · simp at h
      · obtain ⟨hgot, hs⟩ := Prod.mk.inj h
        cases hgot
        cases hs
        refine ⟨by rw [List.length_take]; omega, ?_⟩
        have hleft : (if (portion.drop (min length maxTransfer)).isEmpty then arrivals
            else portion.drop (min length maxTransfer) :: arrivals).flatten
            = portion.drop (min length maxTransfer) ++ arrivals.flatten := by
          split
          · next hempty => rw [List.isEmpty_iff.mp hempty, List.nil_append]
          · rw [List.flatten_cons]
        show (portion :: arrivals).flatten = _ ++ (if _ then arrivals else _ :: arrivals).flatten
        rw [hleft, ← List.append_assoc, List.take_append_drop, List.flatten_cons]
  · simp at h

theorem Socket.read_error {s s' : Socket} {length : Nat} {len : Int}
    (h : s.read length = (.error len, s')) : len ≤ 0 := by
  unfold read at h
  grind

/-- The loop of `readFixSize` takes all bytes that it is to read, or fails. -/
theorem readLoop_split {buffer : Bytes} {left : Nat} :
    ∀ {got buffer' : Bytes} {s s' : Socket} {failure : Option Int},
    got.length + left ≤ buffer.length →
    fixSizeLoop (readCall Socket.read) got.length left (splice buffer 0 got, s)
      = (failure, buffer', s') →
    (∃ len, failure = some len ∧ len ≤ 0) ∨ ∃ bytes, failure = none
      ∧ buffer' = splice buffer 0 (got ++ bytes) ∧ bytes.length = left
      ∧ s.arrivals.flatten = bytes ++ s'.arrivals.flatten := by
  induction left using Nat.strongRecOn with
  | ind left ih =>
    intro got buffer' s s' failure hfit h
    by_cases h0 : left = 0
    · rw [fixSizeLoop_done _ _ _ (by omega)] at h
      obtain ⟨rfl, rfl, rfl⟩ : none = failure ∧ splice buffer 0 got = buffer' ∧ s = s' := by
        simpa using h
      exact .inr ⟨[], rfl, by simp, by simp [h0], rfl⟩
    · cases hread : s.read left with
      | mk answer t =>
        cases answer with
        | error len =>
          have hlen := Socket.read_error hread
          have hcall : readCall Socket.read got.length (left : Int).toNat (splice buffer 0 got, s)
              = (len, splice buffer 0 got, t) := by
            simp only [readCall, Int.toNat_natCast, hread]
          rw [fixSizeLoop_failed (by omega) hcall hlen] at h
          obtain ⟨rfl, -⟩ := Prod.mk.inj h
          exact .inl ⟨len, rfl, hlen⟩
        | ok bytes =>
          obtain ⟨hlen, hsplit⟩ := Socket.read_ok hread
          have hcall := readCall_ok buffer got hread (by omega)
          rw [← Int.toNat_natCast left] at hcall
          by_cases hnil : bytes.length = 0
          · rw [fixSizeLoop_failed (by omega) hcall (by omega)] at h
            obtain ⟨rfl, -⟩ := Prod.mk.inj h
            exact .inl ⟨bytes.length, rfl, by omega⟩
          · rw [fixSizeLoop_next (by omega) hcall (by omega),
              show (left : Int) - bytes.length = ((left - bytes.length : Nat) : Int) by omega,
              ← List.length_append] at h
            rcases ih (left - bytes.length) (by omega) (by rw [List.length_append]; omega) h with
              hfail | ⟨rest, hnone, hbuffer, hrest, hflat⟩
            · exact .inl hfail
            · refine .inr ⟨bytes ++ rest, hnone, by rw [hbuffer, List.append_assoc], ?_, ?_⟩
              · rw [List.length_append]
                omega
              · rw [hsplit, hflat, List.append_assoc]

/-- A positive result of `readFixSize` comes with all the bytes. -/
theorem readFixSize_split {buffer got : Bytes} {s s' : Socket} {result : Int}
    (h63 : buffer.length < 2 ^ 63)
    (h : readFixSize Socket.read buffer buffer.length s = (result, got, s')) (hpos : 0 < result) :
    got.length = buffer.length ∧ s.arrivals.flatten = got ++ s'.arrivals.flatten := by
  cases hloop : fixSizeLoop (readCall Socket.read) 0 (buffer.length : Int) (buffer, s) with
  | mk failure transfer =>
    obtain ⟨buffer', t⟩ := transfer
    have hrun : fixSize (readCall Socket.read) buffer.length (buffer, s)
        = (failure.getD (toInt32 buffer.length), buffer', t) :=
      fixSize_of_loop (by rw [bmod_of_lt h63, hloop])
    rw [readFixSize, hrun] at h
    have hfront : fixSizeLoop (readCall Socket.read) ([] : Bytes).length (buffer.length : Int)
        (splice buffer 0 [], s) = (failure, buffer', t) := by
      rw [splice_nil, List.length_nil, hloop]
    rcases readLoop_split (by simp) hfront with
      ⟨len, rfl, hle⟩ | ⟨bytes, rfl, hbytes, hlen, hflat⟩
    · obtain ⟨rfl, -⟩ := Prod.mk.inj h
      rw [Option.getD_some] at hpos
      omega
    · obtain ⟨-, hmem⟩ := Prod.mk.inj h
      obtain ⟨rfl, rfl⟩ := Prod.mk.inj hmem
      rw [List.nil_append, splice_all hlen] at hbytes
      rw [hbytes]
      exact ⟨hlen, hflat⟩

/-! ## The head -/

/-- The number of bytes that the parser takes in the first loop of `recvRequest`, which are the
head: `data` is what it has left in the buffer. -/
def headLength (buffSize : Nat) : (fuel : Nat) → HttpRequestParser → (data : Bytes) → Socket → Nat
  | 0, _, _, _ => 0
  | fuel + 1, parser, data, s =>
    match s.read (buffSize - data.length) with
    | (.error _, _) => 0
    | (.ok got, s) =>
      match execute parser (data ++ got) with
      | .error _ => 0
      | .ok (parser, nparse) =>
        if parser.isFinished ≠ 0 then nparse
        else nparse + headLength buffSize fuel parser ((data ++ got).drop nparse) s

/-- Behind the head there is what it left in the buffer, and what is still to arrive. The
induction is on the reads. -/
theorem recvHead_split {buffSize : Nat} (fuel : Nat) :
    ∀ {h parser : HttpRequestParser} {data extra : Bytes} {s t : Socket},
    recvHead buffSize fuel h data s = (.ok (some (parser, extra)), t) →
    parser.data.body = h.data.body
      ∧ (data ++ s.arrivals.flatten).drop (headLength buffSize fuel h data s)
        = extra ++ t.arrivals.flatten := by
  induction fuel with
  | zero =>
    intro h parser data extra s t hr
    simp [recvHead] at hr
  | succ fuel ih =>
    intro h parser data extra s t hr
    rw [recvHead] at hr
    rw [headLength]
    cases hread : s.read (buffSize - data.length) with
    | mk answer s' =>
      rw [hread] at hr
      cases answer with
      | error len => simp at hr
      | ok got =>
        obtain ⟨-, hflat⟩ := Socket.read_ok hread
        dsimp only at hr ⊢
        cases hex : execute h (data ++ got) with
        | error fault => simp [hex] at hr
        | ok result =>
          obtain ⟨h1, nparse⟩ := result
          obtain ⟨hle, hbody⟩ := execute_body hex
          have hrest : (data ++ s.arrivals.flatten).drop nparse
              = (data ++ got).drop nparse ++ s'.arrivals.flatten := by
            rw [hflat, ← List.append_assoc, List.drop_append_of_le_length hle]
          rw [hex] at hr
          dsimp only at hr ⊢
          split at hr
          · simp at hr
          · split at hr
            · simp at hr
            · split at hr
              · next hfin =>
                obtain ⟨⟨rfl, rfl⟩, rfl⟩ : (h1 = parser ∧ (data ++ got).drop nparse = extra)
                    ∧ s' = t := by simpa using hr
                rw [if_pos hfin]
                exact ⟨hbody, hrest⟩
              · next hfin =>
                obtain ⟨hbody', hsplit⟩ := ih hr
                rw [if_neg hfin, ← List.drop_drop, hrest]
                exact ⟨hbody'.trans hbody, hsplit⟩

/-! ## The body -/

/-- From 2^63 on the announced length is negative as an `int64_t`. -/
theorem int64_of_ge {n : UInt64} (h : ¬ n.toNat < 2 ^ 63) : n.toInt64.toInt < 0 := by
  have hge : 2 ^ 64 ≤ 2 * n.toBitVec.toNat := by
    show 2 ^ 64 ≤ 2 * n.toNat
    omega
  exact BitVec.toInt_neg_iff.mpr hge

/-- What `init` leaves. -/
theorem HttpRequest.init_body (r : HttpRequest) : r.init.body = r.body := by
  unfold HttpRequest.init
  dsimp only
  split <;> rfl

/-- The bytes that are not in the buffer are the next of the stream. -/
theorem recvRest_split {r request : HttpRequest} {extra : Bytes} {n : Nat} {s t : Socket}
    (h63 : n < 2 ^ 63) (h : recvRest r extra n s = (some request, t)) :
    ∃ rest : Bytes, rest.length = n ∧ s.arrivals.flatten = rest ++ t.arrivals.flatten
      ∧ request.body = extra ++ rest := by
  have hcount : (List.replicate n (0 : UInt8)).length = n := List.length_replicate
  unfold recvRest at h
  cases hread : readFixSize Socket.read (List.replicate n 0) n s with
  | mk result transfer =>
    obtain ⟨rest, s'⟩ := transfer
    rw [hread] at h
    dsimp only at h
    split at h
    · simp at h
    · obtain ⟨rfl, rfl⟩ : _ = request ∧ s' = t := by simpa using h
      have hfull : readFixSize Socket.read (List.replicate n 0)
          (List.replicate n (0 : UInt8)).length s = (result, rest, s') := by rw [hcount, hread]
      obtain ⟨hlen, hflat⟩ := readFixSize_split (by rwa [hcount]) hfull (by omega)
      rw [hcount] at hlen
      exact ⟨rest, hlen, hflat, HttpRequest.init_body _⟩

/-- The body of a length that is a positive `int64_t`. -/
theorem recvBody_split {lexicalCast : Bytes → Option UInt64} {r request : HttpRequest}
    {extra : Bytes} {s t : Socket} (hempty : r.body = [])
    (h63 : (r.contentLength lexicalCast).toNat < 2 ^ 63)
    (h : recvBody lexicalCast r extra s = (some request, t)) :
    request.body.length = (r.contentLength lexicalCast).toNat
      ∧ request.body <+: extra ++ s.arrivals.flatten := by
  have hint := int64_of_lt h63
  generalize (r.contentLength lexicalCast).toNat = n at h63 hint ⊢
  unfold recvBody at h
  rw [hint] at h
  dsimp only at h
  by_cases h0 : n = 0
  · rw [if_neg (by omega)] at h
    obtain ⟨rfl, -⟩ : r.init = request ∧ _ := by simpa using h
    rw [HttpRequest.init_body, hempty, h0]
    exact ⟨rfl, List.nil_prefix⟩
  · rw [if_pos (show (n : Int) > 0 by omega)] at h
    by_cases hlast : (n : Int) - extra.length > 0
    · -- the rest of the body is read behind what is in the buffer
      rw [if_pos (show (n : Int) ≥ extra.length by omega), if_pos hlast,
        show ((n : Int) - extra.length).toNat = n - extra.length by omega] at h
      obtain ⟨rest, hlen, hflat, hbody⟩ := recvRest_split (by omega) h
      rw [hbody, hflat, ← List.append_assoc, List.length_append, hlen]
      exact ⟨by omega, List.prefix_append _ _⟩
    · -- the buffer has all of it
      rw [if_neg hlast] at h
      obtain ⟨hrequest, -⟩ := Prod.mk.inj h
      cases hrequest
      have htake : (if (n : Int) ≥ extra.length then extra else extra.take (n : Int).toNat)
          = extra.take n := by
        rw [Int.toNat_natCast]
        split
        · rw [List.take_of_length_le (by omega)]
        · rfl
      rw [HttpRequest.init_body, htake, List.length_take]
      exact ⟨by omega, (List.take_prefix _ _).trans (List.prefix_append _ _)⟩

/-- A length from 2^63 on is negative, and nothing is read. -/
theorem recvBody_negative {lexicalCast : Bytes → Option UInt64} {r request : HttpRequest}
    {extra : Bytes} {s t : Socket} (hempty : r.body = [])
    (h63 : ¬ (r.contentLength lexicalCast).toNat < 2 ^ 63)
    (h : recvBody lexicalCast r extra s = (some request, t)) : request.body = [] := by
  have hneg := int64_of_ge h63
  unfold recvBody at h
  dsimp only at h
  rw [if_neg (by omega)] at h
  obtain ⟨rfl, -⟩ : r.init = request ∧ _ := by simpa using h
  rw [HttpRequest.init_body, hempty]

/-- A request comes with the announced number of bytes behind the head exactly when that number
is less than 2^63. -/
theorem recvRequest_body (lexicalCast : Bytes → Option UInt64) (buffSize : Nat)
    (memory : Bool × Nat) (s t s' : Socket) (parser : HttpRequestParser) (extra : Bytes)
    (request : HttpRequest)
    (hhead : recvHead buffSize (s.size + 1) (.new memory.1 memory.2) [] s
      = (.ok (some (parser, extra)), t))
    (h : recvRequest lexicalCast buffSize memory s = (.ok (some request), s')) :
    (request.body.length = (parser.data.contentLength lexicalCast).toNat
        ∧ request.body <+: s.arrivals.flatten.drop
          (headLength buffSize (s.size + 1) (.new memory.1 memory.2) [] s))
      ↔ (parser.data.contentLength lexicalCast).toNat < 2 ^ 63 := by
  obtain ⟨hempty, hsplit⟩ := recvHead_split _ hhead
  rw [List.nil_append] at hsplit
  unfold recvRequest at h
  rw [hhead] at h
  obtain ⟨hbody, -⟩ : (recvBody lexicalCast parser.data extra t).1 = some request ∧ _ := by
    simpa using h
  have hrecv : recvBody lexicalCast parser.data extra t = (some request, _) :=
    Prod.ext hbody rfl
  rw [hsplit]
  constructor
  · rintro ⟨hlen, -⟩
    by_contra h63
    rw [recvBody_negative hempty h63 hrecv, List.length_nil] at hlen
    omega
  · intro h63
    exact recvBody_split hempty h63 hrecv

/-- A body of two bytes, the second of which comes with the next request. -/
def twoReads : Socket :=
  ⟨[ascii "POST /a HTTP/1.1\r\nContent-Length: 2\r\n\r\nx", ascii "yGET"], true⟩

theorem recvRequest_body_two :
    post.request.body.length = (post.parser.data.contentLength castDigits).toNat
      ∧ post.request.body <+: twoReads.arrivals.flatten.drop
        (headLength 4096 (twoReads.size + 1) (.new false 0) [] twoReads) :=
  (recvRequest_body castDigits 4096 (false, 0) twoReads ⟨[ascii "yGET"], true⟩
    ⟨[ascii "GET"], true⟩ post.parser (ascii "x") post.request (by decide +kernel)
    (by decide +kernel)).mpr (by decide +kernel)

/-- The parser behind a head that announces 2^63 bytes. -/
def longParser : HttpRequestParser :=
  { post.parser with
    mark := 16
    data := { post.parser.data with
      headers := [(ascii "Content-Length", ascii "9223372036854775808")] } }

/-- 2^63 bytes are announced, and the request is returned at once, without a body. -/
theorem recvRequest_without_body :
    ¬ ∀ (lexicalCast : Bytes → Option UInt64) (buffSize : Nat) (memory : Bool × Nat)
        (s t s' : Socket) (parser : HttpRequestParser) (extra : Bytes) (request : HttpRequest),
      recvHead buffSize (s.size + 1) (.new memory.1 memory.2) [] s
        = (.ok (some (parser, extra)), t) →
      recvRequest lexicalCast buffSize memory s = (.ok (some request), s') →
      request.body.length = (parser.data.contentLength lexicalCast).toNat
        ∧ request.body <+: s.arrivals.flatten.drop
          (headLength buffSize (s.size + 1) (.new memory.1 memory.2) [] s) := by
  intro hall
  have h := hall castDigits 4096 (false, 0)
    ⟨[ascii "POST /a HTTP/1.1\r\n", ascii "Content-Length: 9223372036854775808\r\n\r\nx"], true⟩
    ⟨[], true⟩ ⟨[], true⟩ longParser (ascii "x") longParser.data.init (by decide +kernel)
    (by decide +kernel)
  exact absurd h.1 (by decide +kernel)

end Http

end HrServer
