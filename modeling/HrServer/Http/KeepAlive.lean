/-
HrServer.Http.KeepAlive — several requests on one connection.

`recvRequest` reads a portion of at most the size of its buffer at a time.
What it has read behind the end of a message is dropped with the buffer:
when two messages arrive together, the second one is lost
(`recvRequests_two_in_one_read`).

`recvRequests_apart` says that the messages are received one after another
when the read that completes a head does not go past the end of its
message. It rests on two facts about the parser: a head that is cut
between its tokens is parsed as in one piece (`fed_between_tokens`), and
bytes behind a head do not change what is made of it (`execute_append`).
-/
import HrServer.Http.Chunking
import HrServer.Http.Session

namespace HrServer

open Lib

namespace Http

open Lib.Checked (toInt32 toInt32_of_lt bmod_of_lt)
open Streams

/-! ## Bytes behind the head -/

section behind

variable {piece extra : Bytes} {q : Nat} {h h1 : HttpRequestParser}

/-- The value of a field ends where it was read. -/
def FieldRead (q : Nat) (h : HttpRequestParser) : Prop :=
  h.cs ∈ valueStates → h.fieldStart + h.fieldLen ≤ q

theorem runAction_append {a : Action} (hq : q < piece.length) (hm : h.mark ≤ q)
    (hsp : a = .requestMethod → piece[q]? = some 32)
    (hf : a = .writeValue → h.fieldStart + h.fieldLen ≤ piece.length) :
    runAction (piece ++ extra) q h a = runAction piece q h a := by
  have htok : ∀ m, token (piece ++ extra) m q = token piece m q := by
    intro m
    simpa using @token_piece [] piece extra m q hq.le
  cases a with
  | mark | startValue | startField | writeField | requestUri | startQuery | done | xml | json => rfl
  | fragment | requestPath | queryString => simp only [runAction, htok]
  | requestMethod =>
    have hc : charsToHttpMethod ((piece ++ extra).drop h.mark)
        = charsToHttpMethod (piece.drop h.mark) := by
      simpa using @charsToHttpMethod_piece [] piece extra _ _ hm hq (hsp rfl)
    simp only [runAction, onRequestMethod, hc]
  | httpVersion =>
    have hv : onRequestVersion h ((piece ++ extra).drop h.mark) (q - h.mark)
        = onRequestVersion h (piece.drop h.mark) (q - h.mark) := by
      simpa using @onRequestVersion_piece [] piece extra h.mark q hq.le h
    simp only [runAction, hv]
  | writeValue =>
    have hfield : ((piece ++ extra).drop h.fieldStart).take h.fieldLen
        = (piece.drop h.fieldStart).take h.fieldLen := by
      simpa using @take_drop_piece [] piece extra _ _ (.inl (hf rfl))
    simp only [runAction, htok, hfield]

theorem runActions_append {acts : List Action} (hq : q < piece.length) (hb : Bounded (q + 1) h)
    (hsp : .requestMethod ∈ acts → piece[q]? = some 32)
    (hf : .writeValue ∈ acts → h.fieldStart + h.fieldLen ≤ piece.length
      ∧ .startField ∉ acts ∧ .writeField ∉ acts) :
    runActions (piece ++ extra) q acts h = runActions piece q acts h := by
  induction acts generalizing h with
  | nil => rfl
  | cons a acts ih =>
    have ha : runAction (piece ++ extra) q h a = runAction piece q h a :=
      runAction_append hq (Nat.le_of_lt_succ hb.mark) (fun h => hsp (h ▸ List.mem_cons_self))
        (fun h => (hf (h ▸ List.mem_cons_self)).1)
    cases hra : runAction piece q h a with
    | error f =>
      rw [runActions, runActions, ha, hra]
      rfl
    | ok h1 =>
      have hk := runAction_kept hra
      rw [hra] at ha
      rw [runActions_cons ha, runActions_cons hra]
      rw [ih (hk.bounded hb) (fun h => hsp (List.mem_cons_of_mem a h)) ?_]
      intro hw
      obtain ⟨hle, hs, hl⟩ := hf (List.mem_cons_of_mem a hw)
      rw [List.mem_cons, not_or] at hs hl
      rw [hk.fieldStart (by simpa using hs.1), hk.fieldLen (by simpa using hl.1)]
      exact ⟨hle, hs.2, hl.2⟩

/-- Along a transition the field stays read. -/
theorem FieldRead.step {buffer : Bytes} {cs cs' : Nat} {acts : List Action} {broke : Bool}
    (hf : FieldRead q h) (hcs : h.cs = cs) (hs : Sound cs cs' acts) (hb : Bounded (q + 1) h)
    (hr : runActions buffer q acts { h with cs := cs' } = .ok (h1, broke)) :
    FieldRead (q + 1) h1 := by
  intro hv
  obtain ⟨hk, -⟩ := runActions_kept hr
  have hv' : cs' ∈ valueStates := by
    have := hk.cs
    rwa [this] at hv
  rcases hs.enter hv' with hacts | hcs'
  · rw [hacts] at hr
    cases hr
    have := hb.fieldStart
    show h.fieldStart + (q - h.fieldStart) ≤ q + 1
    omega
  · obtain ⟨hn1, hn2⟩ := hs.stay hcs'
    rw [hk.fieldStart hn1, hk.fieldLen hn2]
    exact Nat.le_succ_of_le (hf (hcs ▸ hcs'))

/-- A run that ends in a final state at the end of the piece ends there too when more
bytes follow. -/
theorem exec_append {rest : Bytes} (hdrop : piece.drop q = rest) (hne : rest ≠ [])
    (hb : Bounded (max q 1) h) (hf : FieldRead q h)
    (hr : exec piece rest q h = .ok (h1, q + rest.length)) (hfin : Tables.firstFinal ≤ h1.cs) :
    exec (piece ++ extra) (rest ++ extra) q h = .ok (h1, q + rest.length) := by
  induction rest generalizing q h with
  | nil => exact absurd rfl hne
  | cons c rest ih =>
    obtain ⟨hlt, hc, hrest⟩ := drop_eq_cons hdrop
    obtain ⟨cs, acts, h2, broke, htr, hacts, hcont⟩ := exec_cons hr
    have hs := transition_sound htr
    have hb1 := hb.mono (show max q 1 ≤ q + 1 by omega)
    have hb' : Bounded (q + 1) { h with cs := cs } :=
      ⟨hb1.mark, hb1.fieldStart, hb1.fieldLen, hb1.bodyStart⟩
    have happ : runActions (piece ++ extra) q acts { h with cs := cs } = .ok (h2, broke) := by
      rw [← hacts]
      refine runActions_append hlt hb' (fun hm => ?_) (fun hw => ?_)
      · rw [hc, requestMethod_space htr hm]
      · obtain ⟨hn1, hn2⟩ := hs.stay (hs.writeValue hw)
        have := hf (hs.writeValue hw)
        exact ⟨by show h.fieldStart + h.fieldLen ≤ _; omega, hn1, hn2⟩
    rw [List.cons_append, exec_step htr happ]
    rcases hcont with ⟨rfl, rfl, rfl⟩ | ⟨rfl, hcs', hr'⟩
    · rfl
    · rw [if_neg (by decide), if_neg hcs']
      obtain ⟨hk, hbr⟩ := runActions_kept hacts
      have hrest' : rest ≠ [] := by
        intro hnil
        rw [hnil] at hr'
        cases hr'
        have : cs = h1.cs := hk.cs.symm
        exact Bool.noConfusion (hbr.mpr (hs.final (this ▸ hfin)))
      have := ih hrest hrest' ((hk.bounded hb').mono (by omega)) (hf.step rfl hs hb1 hacts) hr'
      rw [this, List.length_cons]
      congr 2
      omega

/-- A call that finishes at the end of the piece does so too when more bytes follow. -/
theorem execute_append (hne : piece ≠ []) (hcs : h.cs ≠ Tables.error) (hbody : h.bodyStart = 0)
    (hr : execute h piece = .ok (h1, piece.length)) (hfin : h1.isFinished = 1)
    (hlen : (piece ++ extra).length < 2 ^ 31) :
    execute h (piece ++ extra) = .ok (h1, piece.length) := by
  obtain ⟨h2, hx, -, hb2, rfl⟩ := execute_ok hne hcs hr
  have hb : Bounded (max 0 1) (atCall h) :=
    ⟨Nat.one_pos, Nat.one_pos, Nat.zero_le _, by show h.bodyStart ≤ 1; omega⟩
  have hff : Tables.firstFinal ≤ h2.cs := by
    unfold HttpRequestParser.isFinished at hfin
    split at hfin
    · cases hfin
    · split at hfin
      · assumption
      · cases hfin
  have hx' : exec (piece ++ extra) (piece ++ extra) 0 (atCall h) = .ok (h2, 0 + piece.length) :=
    exec_append (q := 0) rfl hne hb (fun _ => Nat.zero_le _) (by rw [Nat.zero_add]; exact hx) hff
  rw [Nat.zero_add] at hx'
  have hle : piece.length ≤ (piece ++ extra).length := by
    rw [List.length_append]
    omega
  exact execute_eq (fun h => hne (List.append_eq_nil_iff.mp h).1) hlen hcs hx' hle (hb2.mono hle)

end behind

/-! ## Reading from a socket -/

/-- What is left to arrive when `n` bytes have been read. -/
def dropBytes : Nat → List Bytes → List Bytes
  | _, [] => []
  | n, portion :: rest =>
    if n < portion.length then portion.drop n :: rest else dropBytes (n - portion.length) rest

/-- The results of the next `k` reads of at most `n` bytes. -/
def reads (n : Nat) : Nat → List Bytes → List Bytes
  | 0, _ => []
  | _ + 1, [] => []
  | k + 1, portion :: rest =>
    portion.take n :: reads n k (dropBytes (portion.take n).length (portion :: rest))

/-- Something arrives with every portion. -/
def NonEmpty (arrivals : List Bytes) : Prop := ∀ portion ∈ arrivals, portion ≠ []

theorem dropBytes_zero {arrivals : List Bytes} (hne : NonEmpty arrivals) :
    dropBytes 0 arrivals = arrivals := by
  cases arrivals with
  | nil => rfl
  | cons portion rest =>
    rw [dropBytes, if_pos (List.length_pos_iff.mpr (hne portion List.mem_cons_self)),
      List.drop_zero]

theorem dropBytes_add (a b : Nat) (arrivals : List Bytes) :
    dropBytes (a + b) arrivals = dropBytes b (dropBytes a arrivals) := by
  induction arrivals generalizing a with
  | nil => rfl
  | cons portion rest ih =>
    by_cases ha : a < portion.length
    · simp only [dropBytes, if_pos ha, List.length_drop, List.drop_drop]
      by_cases hb : a + b < portion.length
      · rw [if_pos hb, if_pos (by omega)]
      · rw [if_neg hb, if_neg (by omega)]
        congr 1
        omega
    · rw [dropBytes, dropBytes, if_neg (by omega), if_neg ha, ← ih]
      congr 1
      omega

theorem NonEmpty.dropBytes {arrivals : List Bytes} (hne : NonEmpty arrivals) (n : Nat) :
    NonEmpty (dropBytes n arrivals) := by
  induction arrivals generalizing n with
  | nil => exact hne
  | cons portion rest ih =>
    have hrest : NonEmpty rest := fun p hp => hne p (List.mem_cons_of_mem _ hp)
    rw [Http.dropBytes]
    split
    · intro p hp
      rcases List.mem_cons.mp hp with rfl | hp
      · exact List.ne_nil_of_length_pos (by rw [List.length_drop]; omega)
      · exact hrest p hp
    · exact ih hrest _

theorem flatten_dropBytes (n : Nat) (arrivals : List Bytes) :
    (dropBytes n arrivals).flatten = arrivals.flatten.drop n := by
  induction arrivals generalizing n with
  | nil => simp [dropBytes]
  | cons portion rest ih =>
    rw [dropBytes, List.flatten_cons, List.drop_append]
    split
    · rw [List.flatten_cons, Nat.sub_eq_zero_of_le (by omega), List.drop_zero]
    · rw [ih, show portion.drop n = [] from List.drop_eq_nil_of_le (by omega), List.nil_append]

/-- One read: it takes some bytes of the next portion. -/
theorem Socket.read_spec {s : Socket} {length : Nat} (hc : s.isConnected = true)
    (hne : NonEmpty s.arrivals) (hsome : s.arrivals ≠ []) (hl : 0 < length) :
    ∃ got, s.read length = (.ok got, { s with arrivals := dropBytes got.length s.arrivals })
      ∧ got ≠ [] ∧ got.length ≤ length ∧ got = s.arrivals.flatten.take got.length
      ∧ ∀ k, reads (min length maxTransfer) (k + 1) s.arrivals
        = got :: reads (min length maxTransfer) k (dropBytes got.length s.arrivals) := by
  obtain ⟨arrivals, conn⟩ := s
  cases arrivals with
  | nil => exact absurd rfl hsome
  | cons portion rest =>
    have hpos : 0 < portion.length := List.length_pos_iff.mpr (hne portion List.mem_cons_self)
    have hmin : 0 < min length maxTransfer := by
      have : 0 < maxTransfer := by decide
      omega
    have hrest : NonEmpty rest := fun p hp => hne p (List.mem_cons_of_mem _ hp)
    have hlen : (portion.take (min length maxTransfer)).length
        = min (min length maxTransfer) portion.length := List.length_take
    have hgot : portion.take (min length maxTransfer) ≠ [] :=
      List.ne_nil_of_length_pos (by omega)
    refine ⟨portion.take (min length maxTransfer), ?_, hgot, by omega, ?_, fun k => rfl⟩
    · have hleft : (if (portion.drop (min length maxTransfer)).isEmpty = true then rest
          else portion.drop (min length maxTransfer) :: rest)
          = dropBytes (portion.take (min length maxTransfer)).length (portion :: rest) := by
        rw [hlen, dropBytes]
        by_cases h : portion.length ≤ min length maxTransfer
        · rw [if_pos (by rwa [List.isEmpty_iff, List.drop_eq_nil_iff]), if_neg (by omega),
            Nat.min_eq_right h, Nat.sub_self, dropBytes_zero hrest]
        · rw [if_neg (by rwa [List.isEmpty_iff, List.drop_eq_nil_iff]), if_pos (by omega),
            show min (min length maxTransfer) portion.length = min length maxTransfer by omega]
      rw [read, if_pos hc]
      dsimp only
      rw [hleft, if_neg (by rwa [List.isEmpty_iff])]
    · rw [List.flatten_cons, hlen, List.take_append_of_le_length (by omega)]
      exact List.take_eq_take_min

/-- The loop of `readFixSize` reads what it is to read when that much arrives. The induction is
on the bytes that are left, and the buffer holds those that were read in front. -/
theorem readLoop_socket (buffer : Bytes) {left : Nat} : ∀ (got : Bytes) {s : Socket},
    s.isConnected = true → NonEmpty s.arrivals → left ≤ s.arrivals.flatten.length →
    got.length + left ≤ buffer.length →
    fixSizeLoop (readCall Socket.read) got.length left (splice buffer 0 got, s)
      = (none, splice buffer 0 (got ++ s.arrivals.flatten.take left),
        { s with arrivals := dropBytes left s.arrivals }) := by
  induction left using Nat.strongRecOn with
  | ind left ih =>
    intro got s hc hne hle hfit
    by_cases h0 : left = 0
    · rw [h0, fixSizeLoop_done _ _ _ (by simp), List.take_zero, List.append_nil,
        dropBytes_zero hne]
    · have hsome : s.arrivals ≠ [] := by
        intro hnil
        rw [hnil] at hle
        exact h0 (Nat.le_zero.mp hle)
      obtain ⟨bytes, hr, hb, hbl, htake, -⟩ := Socket.read_spec hc hne hsome (Nat.pos_of_ne_zero h0)
      have hpos : 0 < bytes.length := List.length_pos_iff.mpr hb
      have hcall := readCall_ok buffer got hr (by omega)
      rw [fixSizeLoop_next (by omega) (by rw [Int.toNat_natCast]; exact hcall) hpos,
        show (left : Int) - bytes.length = ((left - bytes.length : Nat) : Int) by omega,
        ← List.length_append]
      rw [ih (left - bytes.length) (by omega) (got ++ bytes)
        (s := { s with arrivals := dropBytes bytes.length s.arrivals }) hc (hne.dropBytes _)
        (by
          show _ ≤ (dropBytes _ _).flatten.length
          rw [flatten_dropBytes, List.length_drop]
          omega)
        (by rw [List.length_append]; omega)]
      dsimp only
      rw [← dropBytes_add, Nat.add_sub_cancel' hbl, flatten_dropBytes, List.append_assoc]
      congr 4
      conv_lhs => rw [htake]
      rw [List.length_take]
      have hmin : min bytes.length s.arrivals.flatten.length = bytes.length := by omega
      rw [hmin, ← List.take_add, Nat.add_sub_cancel' hbl]

/-- `readFixSize` on a socket, for a length that fits in an `int64_t`. -/
theorem readFixSize_socket (buffer : Bytes) {s : Socket} (hc : s.isConnected = true)
    (hne : NonEmpty s.arrivals) (hle : buffer.length ≤ s.arrivals.flatten.length)
    (h63 : buffer.length < 2 ^ 63) :
    readFixSize Socket.read buffer buffer.length s
      = (toInt32 buffer.length, s.arrivals.flatten.take buffer.length,
        { s with arrivals := dropBytes buffer.length s.arrivals }) := by
  have hloop := readLoop_socket buffer [] hc hne hle (by simp)
  rw [splice_nil, List.nil_append, List.length_nil, ← bmod_of_lt h63] at hloop
  rw [readFixSize, fixSize_of_loop hloop, Option.getD_none,
    splice_all (by rw [List.length_take]; omega)]

/-- The same into zeros. -/
theorem readZeros_socket {n : Nat} {s : Socket} (hc : s.isConnected = true)
    (hne : NonEmpty s.arrivals) (hle : n ≤ s.arrivals.flatten.length) (h63 : n < 2 ^ 63) :
    readFixSize Socket.read (List.replicate n 0) n s
      = (toInt32 n, s.arrivals.flatten.take n, { s with arrivals := dropBytes n s.arrivals }) := by
  have hread := readFixSize_socket (List.replicate n 0) hc hne
    (by rwa [List.length_replicate]) (by rwa [List.length_replicate])
  rwa [List.length_replicate] at hread

/-! ## Receiving a message -/

/-- A parser without an error. -/
theorem cs_of_hasError {h : HttpRequestParser} (herr : h.hasError = false) :
    h.cs ≠ Tables.error := by
  simp only [HttpRequestParser.hasError, Bool.or_eq_false_iff, decide_eq_false_iff_not] at herr
  exact herr.2

/-- The first loop of `recvRequest` takes in the head, and what follows it in the last
read. The induction is on the reads before that one. -/
theorem recvHead_fed {buffSize : Nat} (hpos : 0 < buffSize) (hmax : buffSize < 2 ^ 31)
    {last extra : Bytes} (hlast : last ≠ []) {h' : HttpRequestParser} (hfin : h'.isFinished = 1)
    (pieces : List Bytes) : ∀ {fuel : Nat} {h : HttpRequestParser} {s : Socket},
    s.isConnected = true → NonEmpty s.arrivals → pieces.length < fuel → h.cs ≠ Tables.error →
    h.bodyStart = 0 → Fed h (pieces ++ [last]) h' →
    reads (min buffSize Socket.maxTransfer) (pieces.length + 1) s.arrivals
      = pieces ++ [last ++ extra] →
    recvHead buffSize fuel h [] s = (.ok (some (h', extra)),
      { s with arrivals := dropBytes (pieces.flatten ++ last ++ extra).length s.arrivals }) := by
  have h32 : toInt32 buffSize = buffSize := toInt32_of_lt hmax
  induction pieces with
  | nil =>
    intro fuel h s hc hne hfuel hcs hbody hfed hreads
    cases fuel with
    | zero => exact absurd hfuel (Nat.not_lt_zero _)
    | succ fuel =>
      have hsome : s.arrivals ≠ [] := by
        intro hnil
        rw [hnil] at hreads
        cases hreads
      obtain ⟨got, hr, -, hgl, -, hk⟩ := Socket.read_spec hc hne hsome hpos
      rw [hk, List.nil_append] at hreads
      obtain ⟨rfl, -⟩ := List.cons.inj hreads
      cases hfed with
      | cons hex herr _ htail =>
        cases htail
        rw [List.length_append] at hgl
        have hlp : 0 < last.length := List.length_pos_iff.mpr hlast
        have hex' : execute h (last ++ extra) = .ok (h', last.length) :=
          execute_append hlast hcs hbody hex hfin (by rw [List.length_append]; omega)
        rw [recvHead, List.length_nil, Nat.sub_zero, hr]
        dsimp only
        rw [List.nil_append, hex']
        dsimp only
        rw [herr, if_neg (by decide), List.drop_left, if_neg (by omega),
          if_pos (by rw [hfin]; decide)]
        rfl
  | cons piece pieces ih =>
    intro fuel h s hc hne hfuel hcs hbody hfed hreads
    cases fuel with
    | zero => exact absurd hfuel (Nat.not_lt_zero _)
    | succ fuel =>
      have hsome : s.arrivals ≠ [] := by
        intro hnil
        rw [hnil] at hreads
        cases hreads
      obtain ⟨got, hr, -, -, -, hk⟩ := Socket.read_spec hc hne hsome hpos
      rw [hk, List.cons_append] at hreads
      obtain ⟨rfl, hreads⟩ := List.cons.inj hreads
      cases hfed with
      | cons hex herr hcont htail =>
        obtain ⟨hnot, hbody1⟩ := hcont (by simp)
        rw [recvHead, List.length_nil, Nat.sub_zero, hr]
        dsimp only
        rw [List.nil_append, hex]
        dsimp only
        rw [herr, if_neg (by decide), List.drop_length, if_neg (by rw [h32]; simp; omega),
          if_neg (by rw [hnot]; decide)]
        rw [ih (s := { s with arrivals := dropBytes got.length s.arrivals }) hc (hne.dropBytes _)
          (by rw [List.length_cons] at hfuel; omega) (cs_of_hasError herr) hbody1 htail hreads]
        dsimp only
        rw [← dropBytes_add, List.flatten_cons, List.append_assoc, List.append_assoc,
          List.append_assoc, @List.length_append _ got]

/-- The announced length as an `int64_t`. -/
theorem int64_of_lt {n : UInt64} (h : n.toNat < 2 ^ 63) : n.toInt64.toInt = n.toNat := by
  have hlt : 2 * n.toBitVec.toNat < 2 ^ 64 := by
    show 2 * n.toNat < 2 ^ 64
    omega
  exact BitVec.toInt_eq_toNat_of_lt hlt

/-- The bytes that are not in the buffer are read behind the others. -/
theorem recvRest_spec {request : HttpRequest} {extra : Bytes} {n : Nat} {s : Socket}
    (hc : s.isConnected = true) (hne : NonEmpty s.arrivals) (hle : n ≤ s.arrivals.flatten.length)
    (h63 : n < 2 ^ 63) (hpos : 0 < toInt32 n) :
    recvRest request extra n s
      = (some { request with body := extra ++ s.arrivals.flatten.take n }.init,
        { s with arrivals := dropBytes n s.arrivals }) := by
  rw [recvRest, readZeros_socket hc hne hle h63, if_neg (by dsimp only; omega)]

/-- The rest of `recvRequest` takes in the body. -/
theorem recvBody_spec {lexicalCast : Bytes → Option UInt64} {request : HttpRequest}
    {extra body : Bytes} {s : Socket} (hc : s.isConnected = true) (hne : NonEmpty s.arrivals)
    (hlen : (request.contentLength lexicalCast).toNat = body.length) (hempty : request.body = [])
    (h63 : body.length < 2 ^ 63) (hle : extra.length ≤ body.length)
    (hbody : extra ++ s.arrivals.flatten.take (body.length - extra.length) = body)
    (hrest : extra.length = body.length ∨ 0 < toInt32 (body.length - extra.length)) :
    recvBody lexicalCast request extra s = (some { request with body := body }.init,
      { s with arrivals := dropBytes (body.length - extra.length) s.arrivals }) := by
  have hint : (request.contentLength lexicalCast).toInt64.toInt = body.length := by
    rw [int64_of_lt (by omega), hlen]
  unfold recvBody
  rw [hint]
  dsimp only
  by_cases h0 : body.length = 0
  · have hb0 : body = [] := List.length_eq_zero_iff.mp h0
    rw [if_neg (by omega), h0, Nat.zero_sub, dropBytes_zero hne, hb0, ← hempty]
  · have hge : (body.length : Int) ≥ extra.length := by omega
    rw [if_pos (show (body.length : Int) > 0 by omega), if_pos hge]
    by_cases hall : extra.length = body.length
    · rw [if_neg (show ¬ (body.length : Int) - extra.length > 0 by omega)]
      rw [hall, Nat.sub_self, List.take_zero, List.append_nil] at hbody
      rw [hall, Nat.sub_self, dropBytes_zero hne, hbody]
    · have hpos := hrest.resolve_left hall
      have hnat : ((body.length : Int) - extra.length).toNat = body.length - extra.length := by
        omega
      have hfl : body.length - extra.length ≤ s.arrivals.flatten.length := by
        have := congrArg List.length hbody
        rw [List.length_append, List.length_take] at this
        omega
      rw [if_pos (show (body.length : Int) - extra.length > 0 by omega), hnat,
        recvRest_spec hc hne hfl (by omega) hpos, hbody]

/-! ## Messages one after another -/

/-- A request as it is sent: a head that the parser accepts, and the body whose length the
head announces. `memory` is what the parser that receives it finds uninitialised. -/
structure Message (lexicalCast : Bytes → Option UInt64) where
  memory : Bool × Nat
  head : Bytes
  body : Bytes
  parser : HttpRequestParser
  accepted : execute (.new memory.1 memory.2) head = .ok (parser, head.length)
  noError : parser.hasError = false
  finished : parser.isFinished = 1
  length : (parser.data.contentLength lexicalCast).toNat = body.length

section messages

variable {lexicalCast : Bytes → Option UInt64}

def Message.bytes (m : Message lexicalCast) : Bytes := m.head ++ m.body

def Message.request (m : Message lexicalCast) : HttpRequest :=
  { m.parser.data with body := m.body }.init

/-- The reads that take in the head of a message are `pieces` and `last ++ extra`; no read
ends in a token of the head, and the last one does not go past the end of the message. -/
structure Message.ReadApart (m : Message lexicalCast) (buffSize : Nat)
    (arrivals pieces : List Bytes)
    (last extra : Bytes) : Prop where
  reads : reads (min buffSize Socket.maxTransfer) (pieces.length + 1) arrivals
    = pieces ++ [last ++ extra]
  head : (pieces ++ [last]).flatten = m.head
  ends : last ≠ []
  between : ∀ c ∈ cuts 0 (pieces ++ [last]), ∀ t ∈ tokens m.memory.1 m.head, Uncut c t
  within : extra.length ≤ m.body.length
  /-- The length of the body, and of what `readFixSize` has to read of it, survive their
  conversions. -/
  body : m.body.length < 2 ^ 63
  rest : extra.length = m.body.length ∨ 0 < toInt32 (m.body.length - extra.length)

/-- Every message is read apart from the next one. -/
def Apart (buffSize : Nat) : List (Message lexicalCast) → List Bytes → Prop
  | [], _ => True
  | m :: messages, arrivals =>
    (∃ pieces last extra, m.ReadApart buffSize arrivals pieces last extra)
      ∧ Apart buffSize messages (dropBytes m.bytes.length arrivals)

/-- The results of reads have bytes in them. -/
theorem reads_nonEmpty {n : Nat} (hn : 0 < n) (k : Nat) {arrivals : List Bytes}
    (hne : NonEmpty arrivals) : NonEmpty (reads n k arrivals) := by
  induction k generalizing arrivals with
  | zero =>
    intro p hp
    cases hp
  | succ k ih =>
    cases arrivals with
    | nil =>
      intro p hp
      cases hp
    | cons portion rest =>
      have hpos : 0 < portion.length := List.length_pos_iff.mpr (hne portion List.mem_cons_self)
      intro p hp
      rcases List.mem_cons.mp hp with rfl | hp
      · exact List.ne_nil_of_length_pos (by rw [List.length_take]; omega)
      · exact ih (hne.dropBytes _) p hp

/-- Reads return the first bytes that arrive. -/
theorem flatten_reads (n k : Nat) (arrivals : List Bytes) :
    (reads n k arrivals).flatten <+: arrivals.flatten := by
  induction k generalizing arrivals with
  | zero => exact List.nil_prefix
  | succ k ih =>
    cases arrivals with
    | nil => exact List.nil_prefix
    | cons portion rest =>
      have htake : portion.take n = (portion :: rest).flatten.take (portion.take n).length := by
        rw [List.flatten_cons, List.length_take, List.take_append_of_le_length (by omega)]
        exact List.take_eq_take_min
      rw [reads, List.flatten_cons]
      conv_rhs => rw [← List.take_append_drop (portion.take n).length (portion :: rest).flatten]
      rw [← htake, List.prefix_append_right_inj, ← flatten_dropBytes]
      exact ih _

theorem length_le_flatten {l : List Bytes} (hne : NonEmpty l) : l.length ≤ l.flatten.length := by
  induction l with
  | nil => exact Nat.le_refl _
  | cons p l ih =>
    have hpos : 0 < p.length := List.length_pos_iff.mpr (hne p List.mem_cons_self)
    have := ih fun q hq => hne q (List.mem_cons_of_mem _ hq)
    rw [List.length_cons, List.flatten_cons, List.length_append]
    omega

theorem Socket.flatten_le_size (s : Socket) : s.arrivals.flatten.length ≤ s.size := by
  unfold Socket.size
  induction s.arrivals with
  | nil => exact Nat.le_refl _
  | cons p l ih =>
    rw [List.flatten_cons, List.length_append, List.map_cons, List.sum_cons]
    omega

/-- The parser does not touch the body. -/
theorem Message.data_body (m : Message lexicalCast) : m.parser.data.body = [] :=
  (execute_body m.accepted).2

/-- One message that is read apart from what follows it. -/
theorem recvRequest_apart {buffSize : Nat} (hpos : 0 < buffSize) (hmax : buffSize < 2 ^ 31)
    (m : Message lexicalCast) {s : Socket} (hc : s.isConnected = true)
    (hne : NonEmpty s.arrivals) {tail : Bytes} (hflat : s.arrivals.flatten = m.bytes ++ tail)
    {pieces : List Bytes} {last extra : Bytes}
    (ha : m.ReadApart buffSize s.arrivals pieces last extra) :
    recvRequest lexicalCast buffSize m.memory s = (.ok (some m.request),
      { s with arrivals := dropBytes m.bytes.length s.arrivals }) := by
  have hn : 0 < min buffSize Socket.maxTransfer := by
    have : 0 < Socket.maxTransfer := by decide
    omega
  have hpieces : NonEmpty (pieces ++ [last]) := by
    have := reads_nonEmpty hn (pieces.length + 1) hne
    rw [ha.reads] at this
    intro p hp
    rcases List.mem_append.mp hp with hp | hp
    · exact this p (List.mem_append_left _ hp)
    · rw [List.mem_singleton.mp hp]
      exact ha.ends
  obtain ⟨h', hfed, -, hfin, hdata⟩ :=
    fed_between_tokens hpieces ha.head m.accepted m.noError m.finished ha.between
  have hhead : pieces.flatten ++ last = m.head := by
    have := ha.head
    rwa [List.flatten_append, List.flatten_singleton] at this
  -- what the last read has of the body
  have hextra : extra = m.body.take extra.length := by
    have hpre := flatten_reads (min buffSize Socket.maxTransfer) (pieces.length + 1) s.arrivals
    rw [ha.reads, List.flatten_append, List.flatten_singleton, ← List.append_assoc, hhead, hflat,
      Message.bytes, List.append_assoc, List.prefix_append_right_inj] at hpre
    have := List.prefix_iff_eq_take.mp hpre
    rwa [List.take_append_of_le_length ha.within] at this
  have htotal : m.head.length + m.body.length ≤ s.arrivals.flatten.length := by
    rw [hflat, Message.bytes, List.length_append, List.length_append]
    omega
  have hfuel : pieces.length < s.size + 1 := by
    have h1 := length_le_flatten fun p hp => hpieces p (List.mem_append_left _ hp)
    have h2 := congrArg List.length hhead
    have h3 := s.flatten_le_size
    rw [List.length_append] at h2
    omega
  have hcs := new_cs_ne_error m.memory.1 m.memory.2
  have hrecv := recvHead_fed hpos hmax ha.ends hfin pieces hc hne hfuel hcs rfl hfed ha.reads
  rw [hhead, List.length_append] at hrecv
  have hbody : extra ++ (dropBytes (m.head.length + extra.length) s.arrivals).flatten.take
      (m.body.length - extra.length) = m.body := by
    rw [flatten_dropBytes, hflat, Message.bytes, List.append_assoc, List.drop_append,
      List.drop_eq_nil_of_le (by omega), List.nil_append, Nat.add_sub_cancel_left,
      List.drop_append_of_le_length ha.within, List.take_append_of_le_length
      (by rw [List.length_drop]), ← List.length_drop, List.take_length]
    conv_lhs => rw [hextra]
    rw [List.length_take, Nat.min_eq_left ha.within]
    exact List.take_append_drop _ _
  have hrest := recvBody_spec
    (s := { s with arrivals := dropBytes (m.head.length + extra.length) s.arrivals }) hc
    (hne.dropBytes _) m.length m.data_body ha.body ha.within hbody ha.rest
  unfold recvRequest
  rw [hrecv]
  dsimp only
  rw [hdata, hrest]
  dsimp only
  rw [← dropBytes_add, Message.bytes, List.length_append, Nat.add_assoc,
    Nat.add_sub_cancel' ha.within]
  rfl

/-- Messages that are read apart are received one after another, each with its body, and
nothing of what arrived is left over. -/
theorem recvRequests_apart {buffSize : Nat} (hpos : 0 < buffSize) (hmax : buffSize < 2 ^ 31)
    (messages : List (Message lexicalCast)) (arrivals : List Bytes)
    (hne : ∀ portion ∈ arrivals, portion ≠ [])
    (hflat : arrivals.flatten = (messages.map Message.bytes).flatten)
    (ha : Apart buffSize messages arrivals) :
    recvRequests lexicalCast buffSize (messages.map Message.memory) ⟨arrivals, true⟩
      = (.ok (messages.map fun m => some m.request), ⟨[], true⟩) := by
  induction messages generalizing arrivals with
  | nil =>
    cases arrivals with
    | nil => rfl
    | cons portion rest =>
      have := List.flatten_eq_nil_iff.mp hflat portion List.mem_cons_self
      exact absurd this (hne portion List.mem_cons_self)
  | cons m messages ih =>
    obtain ⟨⟨pieces, last, extra, hm⟩, hrest⟩ := ha
    rw [List.map_cons, List.flatten_cons] at hflat
    have hflat' : (dropBytes m.bytes.length arrivals).flatten
        = (messages.map Message.bytes).flatten := by
      rw [flatten_dropBytes, hflat, List.drop_left]
    have hone := recvRequest_apart (s := ⟨arrivals, true⟩) hpos hmax m rfl hne hflat hm
    rw [List.map_cons, recvRequests, hone]
    dsimp only
    rw [ih _ (NonEmpty.dropBytes hne _) hflat' hrest]
    rfl

end messages

/-- `boost::lexical_cast<uint64_t>` of decimal digits. -/
def castDigits (s : Bytes) : Option UInt64 :=
  if s.isEmpty || !s.all (fun c => 48 ≤ c && c ≤ 57) then none
  else
    let n := s.foldl (fun n c => 10 * n + (c.toNat - 48)) 0
    if n < 2 ^ 64 then some (UInt64.ofNat n) else none

/-- A message with a body of two bytes. -/
def post : Message castDigits where
  memory := (false, 0)
  head := ascii "POST /a HTTP/1.1\r\nContent-Length: 2\r\n\r\n"
  body := ascii "xy"
  parser :=
    { cs := 348, bodyStart := 39, nread := 39, mark := 34, fieldStart := 37, fieldLen := 14,
      queryStart := 0, xmlSent := false, jsonSent := false, uriRelaxed := false, error := 0,
      data := { HttpRequest.new with
        method := .POST, path := ascii "/a", headers := [(ascii "Content-Length", ascii "2")] } }
  accepted := by decide +kernel
  noError := by decide +kernel
  finished := by decide +kernel
  length := by decide +kernel

/-- A message without a body. -/
def get : Message castDigits where
  memory := (false, 0)
  head := ascii "GET / HTTP/1.1\r\n\r\n"
  body := []
  parser :=
    { cs := 348, bodyStart := 18, nread := 18, mark := 6, fieldStart := 16, fieldLen := 0,
      queryStart := 0, xmlSent := false, jsonSent := false, uriRelaxed := false, error := 0,
      data := { HttpRequest.new with path := ascii "/" } }
  accepted := by decide +kernel
  noError := by decide +kernel
  finished := by decide +kernel
  length := by decide +kernel

/-- The second message arrives together with the end of the first one, which is read by
`readFixSize`. -/
theorem recvRequests_apart_two :
    recvRequests castDigits 4096 [(false, 0), (false, 0)]
        ⟨[ascii "POST /a HTTP/1.1\r\n", ascii "Content-Length: 2\r\n\r\nx",
          ascii "yGET / HTTP/1.1\r\n\r\n"], true⟩
      = (.ok [some post.request, some get.request], ⟨[], true⟩) := by
  refine recvRequests_apart (by decide) (by decide) [post, get] _ (by decide +kernel)
    (by decide +kernel) ⟨⟨[ascii "POST /a HTTP/1.1\r\n"], ascii "Content-Length: 2\r\n\r\n",
      ascii "x", ?_⟩, ⟨[], ascii "GET / HTTP/1.1\r\n\r\n", [], ?_⟩, trivial⟩
  · constructor <;> decide +kernel
  · constructor <;> decide +kernel

/-- Two messages in one read: the bytes of the second one are dropped with the buffer. -/
theorem recvRequests_two_in_one_read :
    ¬ ∀ (lexicalCast : Bytes → Option UInt64) (buffSize : Nat)
        (messages : List (Message lexicalCast)) (arrivals : List Bytes),
      0 < buffSize → buffSize < 2 ^ 31 → (∀ portion ∈ arrivals, portion ≠ []) →
      arrivals.flatten = (messages.map Message.bytes).flatten →
      (recvRequests lexicalCast buffSize (messages.map Message.memory) ⟨arrivals, true⟩).1
        = .ok (messages.map fun m => some m.request) := by
  intro hall
  have h := hall castDigits 4096 [get, get] [ascii "GET / HTTP/1.1\r\n\r\nGET / HTTP/1.1\r\n\r\n"]
    (by decide) (by decide) (by decide +kernel) (by decide +kernel)
  have hlost : (recvRequests castDigits 4096 [(false, 0), (false, 0)]
      ⟨[ascii "GET / HTTP/1.1\r\n\r\nGET / HTTP/1.1\r\n\r\n"], true⟩).1
      = .ok [some get.request, none] := by decide +kernel
  rw [show [get, get].map Message.memory = [(false, 0), (false, 0)] from rfl, hlost] at h
  cases h

end Http

end HrServer
