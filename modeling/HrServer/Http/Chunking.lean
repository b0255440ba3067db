/-
HrServer.Http.Chunking — a request head that arrives in pieces.

`execute` keeps the state of the machine between calls but not the marks
of the token it is in the middle of: `mark`, `field_start` and `field_len`
are set to 0 and `query_start` keeps an offset of the old buffer. A
request that is cut inside a token is parsed wrongly
(`feed_method_cut`).

`tokens s` are the stretches of `s` in which a cut does harm: from the
first byte a callback reads, or whose offset it needs, to the byte at
which it is called. `feed_between_tokens` says that a request cut outside
of them is parsed as if it had arrived in one piece. The proof runs the
machine over the whole string and over the pieces side by side: a mark
set since the last cut differs by the offset of the piece, and a callback
outside of a cut token reads only such marks.
-/
import HrServer.Http.ParserTheorems

namespace HrServer

open Lib

namespace Http

/-! ## Tokens -/

/-- Where the values of the marks come from. `lenFrom` is the start of the field that
`field_len` was computed for. -/
structure Origins where
  mark : Nat
  fieldStart : Nat
  fieldLen : Nat
  lenFrom : Nat
  queryStart : Nat

namespace Origins

def zero : Origins := ⟨0, 0, 0, 0, 0⟩

def act (p : Nat) (o : Origins) : Action → Origins
  | .mark => { o with mark := p }
  | .startValue => { o with mark := p }
  | .startField => { o with fieldStart := p }
  | .writeField => { o with fieldLen := p - o.fieldStart, lenFrom := o.fieldStart }
  | .startQuery => { o with queryStart := p }
  | _ => o

/-- The stretch that a callback at `p` depends on. -/
def span (p : Nat) (o : Origins) : Action → List (Nat × Nat)
  | .requestMethod => [(o.mark, p)]
  | .fragment => [(o.mark, p)]
  | .httpVersion => [(o.mark, p)]
  | .requestPath => [(o.mark, p)]
  | .queryString => [(o.queryStart, p)]
  | .writeValue =>
    [(min o.mark (min o.fieldStart o.lenFrom), max p (o.fieldStart + o.fieldLen))]
  | _ => []

end Origins

/-- The origins after the actions of one transition, and the stretches of its callbacks. -/
def actionSpans (p : Nat) : List Action → Origins → Origins × List (Nat × Nat)
  | [], o => (o, [])
  | a :: acts, o =>
    if a = .done then (o.act p a, o.span p a)
    else
      let (o', spans) := actionSpans p acts (o.act p a)
      (o', o.span p a ++ spans)

def tokenSpans (uriRelaxed : Bool) : Nat → Bytes → Nat → Origins → List (Nat × Nat)
  | _, [], _, _ => []
  | cs, c :: rest, p, o =>
    let (cs', acts) := transition uriRelaxed cs c
    let (o', spans) := actionSpans p acts o
    spans ++ tokenSpans uriRelaxed cs' rest (p + 1) o'

/-- The tokens of a request head: method, path, query, fragment, version, and each header
from its name to the end of its value, with the offset at which each is complete. -/
def tokens (uriRelaxed : Bool) (s : Bytes) : List (Nat × Nat) :=
  tokenSpans uriRelaxed Tables.start s 0 .zero

/-- The offsets at which a string that arrives in pieces is cut. -/
def cuts : Nat → List Bytes → List Nat
  | _, [] => []
  | _, [_] => []
  | n, piece :: pieces => (n + piece.length) :: cuts (n + piece.length) pieces

/-- The cut `c` is not behind the start of the token and at or before its end. -/
def Uncut (c : Nat) (t : Nat × Nat) : Prop := ¬ (t.1 < c ∧ c ≤ t.2)

instance (c : Nat) (t : Nat × Nat) : Decidable (Uncut c t) :=
  inferInstanceAs (Decidable (¬ (t.1 < c ∧ c ≤ t.2)))

/-! ## Two runs side by side -/

/-- A state `H` of the run over the whole string, and a state `h` of the run over a piece
that starts at `base`. -/
structure Agree (base : Nat) (o : Origins) (H h : HttpRequestParser) : Prop where
  cs : h.cs = H.cs
  uriRelaxed : h.uriRelaxed = H.uriRelaxed
  xmlSent : h.xmlSent = H.xmlSent
  jsonSent : h.jsonSent = H.jsonSent
  error : h.error = H.error
  data : h.data = H.data
  fieldStart_eq : H.fieldStart = o.fieldStart
  fieldLen_eq : H.fieldLen = o.fieldLen
  mark : base ≤ o.mark → H.mark = base + h.mark
  fieldStart : base ≤ o.fieldStart → H.fieldStart = base + h.fieldStart
  fieldLen : base ≤ o.lenFrom → H.fieldLen = h.fieldLen
  queryStart : base ≤ o.queryStart → H.queryStart = base + h.queryStart

/-- The origins lie among the first `n` characters. -/
structure Origins.Below (n : Nat) (o : Origins) : Prop where
  mark : o.mark < n
  fieldStart : o.fieldStart < n
  lenFrom : o.lenFrom < n
  queryStart : o.queryStart < n

theorem Origins.Below.mono {m n : Nat} {o : Origins} (hb : o.Below m) (hmn : m ≤ n) : o.Below n :=
  ⟨by have := hb.mark; omega, by have := hb.fieldStart; omega, by have := hb.lenFrom; omega,
    by have := hb.queryStart; omega⟩

theorem Origins.Below.act {p : Nat} {o : Origins} (hb : o.Below (p + 1)) (a : Action) :
    (o.act p a).Below (p + 1) := by
  obtain ⟨h1, h2, h3, h4⟩ := hb
  cases a <;> exact ⟨by simp only [Origins.act]; omega, by simp only [Origins.act]; omega,
    by simp only [Origins.act]; omega, by simp only [Origins.act]; omega⟩

/-! ## Reading the buffer -/

section memory

variable {pre piece post : Bytes}

/-- A stretch of the string that lies in the piece, or in the last piece. -/
theorem take_drop_piece {m k : Nat} (h : m + k ≤ piece.length ∨ post = []) :
    ((pre ++ (piece ++ post)).drop (pre.length + m)).take k = (piece.drop m).take k := by
  rw [List.drop_append]
  rw [List.drop_eq_nil_of_le (by omega), List.nil_append, Nat.add_sub_cancel_left]
  rcases h with h | h
  · rw [List.drop_append_of_le_length (by omega)]
    exact List.take_append_of_le_length (by rw [List.length_drop]; omega)
  · rw [h, List.append_nil]

theorem token_piece {m q : Nat} (hq : q ≤ piece.length) :
    token (pre ++ (piece ++ post)) (pre.length + m) (pre.length + q) = token piece m q := by
  unfold token
  by_cases h : q < m
  · rw [if_pos (by omega), if_pos h]
  · rw [if_neg (by omega), if_neg h, take_drop_piece (.inl (by omega))]
    congr 2
    omega

/-- The comparison looks at `n` characters. -/
theorem strncmpEq_take (n : Nat) : ∀ (a b : Bytes), strncmpEq (a.take n) b n = strncmpEq a b n := by
  induction n with
  | zero =>
    intro a b
    rfl
  | succ n ih =>
    intro a b
    cases a with
    | nil => rfl
    | cons x a =>
      simp only [List.take_succ_cons, strncmpEq, List.headD_cons, List.tail_cons, ih]
      rfl

/-- The method at a space in the piece is the one of the whole string. -/
theorem charsToHttpMethod_piece {m q : Nat} (hm : m ≤ q) (hq : q < piece.length)
    (hsp : piece[q]? = some 32) :
    charsToHttpMethod ((pre ++ (piece ++ post)).drop (pre.length + m))
      = charsToHttpMethod (piece.drop m) := by
  have hpiece : piece.drop m = (piece.drop m).take (q - m) ++ 32 :: piece.drop (q + 1) := by
    have hq' : piece.drop q = 32 :: piece.drop (q + 1) := by
      rw [List.drop_eq_getElem?_toList_append, hsp]
      rfl
    conv_lhs => rw [← List.take_append_drop (q - m) (piece.drop m)]
    rw [List.drop_drop, Nat.add_sub_cancel' hm, hq']
  have hdrop : (pre ++ (piece ++ post)).drop (pre.length + m) = piece.drop m ++ post := by
    rw [List.drop_append, List.drop_eq_nil_of_le (by omega), List.nil_append,
      Nat.add_sub_cancel_left, List.drop_append_of_le_length (by omega)]
  rw [hdrop, hpiece, List.append_assoc, List.cons_append]
  exact charsToHttpMethod_space _ _ _

theorem onRequestVersion_piece {m q : Nat} (hq : q ≤ piece.length) (h : HttpRequestParser) :
    onRequestVersion h ((pre ++ (piece ++ post)).drop (pre.length + m)) (q - m)
      = onRequestVersion h (piece.drop m) (q - m) := by
  have hcmp : ∀ b, strncmpEq ((pre ++ (piece ++ post)).drop (pre.length + m)) b (q - m)
      = strncmpEq (piece.drop m) b (q - m) := by
    intro b
    by_cases hqm : q ≤ m
    · rw [Nat.sub_eq_zero_of_le hqm]
      rfl
    · rw [← strncmpEq_take, take_drop_piece (.inl (by omega)), strncmpEq_take]
  simp only [onRequestVersion, hcmp]

end memory

/-! ## One action -/

section simulation

variable {pre piece post : Bytes} {q : Nat} {o : Origins} {H H1 h : HttpRequestParser}

/-- A token that lies in the piece, or begins in it when it is the last one. -/
def Inside (pre piece post : Bytes) (t : Nat × Nat) : Prop :=
  pre.length ≤ t.1 ∧ (t.2 < pre.length + piece.length ∨ post = [])

/-- A callback that stores the same result on both sides. -/
theorem Agree.store {base : Nat} (ha : Agree base o H h) {E e : Nat} {D d : HttpRequest}
    (he : e = E) (hd : d = D) :
    Agree base o { H with error := E, data := D } { h with error := e, data := d } :=
  ⟨ha.cs, ha.uriRelaxed, ha.xmlSent, ha.jsonSent, he, hd, ha.fieldStart_eq, ha.fieldLen_eq,
    ha.mark, ha.fieldStart, ha.fieldLen, ha.queryStart⟩

theorem Agree.onRequestMethod {base : Nat} (ha : Agree base o H h) {M m : Bytes}
    (hm : charsToHttpMethod M = charsToHttpMethod m) :
    Agree base o (onRequestMethod H M) (onRequestMethod h m) := by
  simp only [Http.onRequestMethod, hm]
  split
  · exact ha.store rfl ha.data
  · exact ha.store ha.error (by rw [ha.data])

theorem Agree.onRequestVersion {base : Nat} (ha : Agree base o H h) (m : Bytes) (n : Nat) :
    Agree base o (onRequestVersion H m n) (onRequestVersion h m n) := by
  unfold Http.onRequestVersion
  split
  · exact ha.store ha.error (by rw [ha.data])
  · split
    · exact ha.store ha.error (by rw [ha.data])
    · exact ha.store rfl ha.data

theorem Agree.onRequestHttpField {base : Nat} (ha : Agree base o H h) (f v : Bytes) :
    Agree base o (onRequestHttpField H f v) (onRequestHttpField h f v) := by
  unfold Http.onRequestHttpField
  split
  · exact ha
  · exact ha.store ha.error (by rw [ha.data])

/-- An action of the run over the whole string that depends on nothing outside of the piece
is taken in the run over the piece too. -/
theorem runAction_agree {a : Action} (ha : Agree pre.length o H h) (hm : h.mark ≤ q)
    (hq : q < piece.length) (hsp : a = .requestMethod → piece[q]? = some 32)
    (hin : ∀ t ∈ o.span (pre.length + q) a, Inside pre piece post t)
    (hr : runAction (pre ++ (piece ++ post)) (pre.length + q) H a = .ok H1) :
    ∃ h1, runAction piece q h a = .ok h1 ∧ Agree pre.length (o.act (pre.length + q) a) H1 h1 := by
  obtain ⟨acs, ar, ax, aj, ae, ad, as, al, am, asp, alp, aq⟩ := ha
  have ha : Agree pre.length o H h := ⟨acs, ar, ax, aj, ae, ad, as, al, am, asp, alp, aq⟩
  cases a with
  | mark | startValue =>
    cases hr
    exact ⟨_, rfl, acs, ar, ax, aj, ae, ad, as, al, fun _ => rfl, asp, alp, aq⟩
  | startField =>
    cases hr
    exact ⟨_, rfl, acs, ar, ax, aj, ae, ad, rfl, al, am, fun _ => rfl, alp, aq⟩
  | startQuery =>
    cases hr
    exact ⟨_, rfl, acs, ar, ax, aj, ae, ad, as, al, am, asp, alp, fun _ => rfl⟩
  | writeField =>
    cases hr
    refine ⟨_, rfl, acs, ar, ax, aj, ae, ad, as, ?_, am, asp, ?_, aq⟩
    · show pre.length + q - H.fieldStart = pre.length + q - o.fieldStart
      rw [as]
    · intro hle
      show pre.length + q - H.fieldStart = q - h.fieldStart
      rw [asp hle]
      omega
  | requestUri =>
    cases hr
    exact ⟨_, rfl, ha⟩
  | xml =>
    cases hr
    exact ⟨_, rfl, acs, ar, rfl, aj, ae, ad, as, al, am, asp, alp, aq⟩
  | json =>
    cases hr
    exact ⟨_, rfl, acs, ar, ax, rfl, ae, ad, as, al, am, asp, alp, aq⟩
  | done =>
    cases hr
    exact ⟨_, rfl, acs, ar, ax, aj, ae, ad, as, al, am, asp, alp, aq⟩
  | requestMethod =>
    cases hr
    obtain ⟨h1, -⟩ := hin _ List.mem_cons_self
    refine ⟨_, rfl, ha.onRequestMethod ?_⟩
    rw [am h1]
    exact charsToHttpMethod_piece hm hq (hsp rfl)
  | httpVersion =>
    cases hr
    obtain ⟨h1, -⟩ := hin _ List.mem_cons_self
    refine ⟨_, rfl, ?_⟩
    have hlen : pre.length + q - H.mark = q - h.mark := by
      rw [am h1]
      omega
    rw [hlen, am h1, onRequestVersion_piece hq.le]
    exact ha.onRequestVersion _ _
  | fragment | requestPath =>
    obtain ⟨h1, -⟩ := hin _ List.mem_cons_self
    obtain ⟨v, hv, rfl⟩ := token_bind_ok hr
    rw [am h1, token_piece hq.le] at hv
    refine ⟨_, by simp only [runAction, hv]; rfl, ha.store ha.error (by rw [ha.data])⟩
  | queryString =>
    obtain ⟨h1, -⟩ := hin _ List.mem_cons_self
    obtain ⟨v, hv, rfl⟩ := token_bind_ok hr
    rw [aq h1, token_piece hq.le] at hv
    refine ⟨_, by simp only [runAction, hv]; rfl, ha.store ha.error (by rw [ha.data])⟩
  | writeValue =>
    obtain ⟨h1, h2⟩ := hin _ List.mem_cons_self
    obtain ⟨v, hv, rfl⟩ := token_bind_ok hr
    dsimp only at h1 h2
    have hmark := am (by omega)
    have hstart := asp (by omega)
    have hlen := alp (by omega)
    rw [hmark, token_piece hq.le] at hv
    have hfield : ((pre ++ (piece ++ post)).drop H.fieldStart).take H.fieldLen
        = (piece.drop h.fieldStart).take h.fieldLen := by
      rw [hlen, hstart]
      refine take_drop_piece ?_
      rcases h2 with h2 | h2
      · exact .inl (by omega)
      · exact .inr h2
    refine ⟨_, by simp only [runAction, hv]; rfl, ?_⟩
    rw [hfield]
    exact ha.onRequestHttpField _ _

/-- The stretches of the callbacks at `p` include `p`. -/
theorem Origins.Below.span_around {p : Nat} {a : Action} (hb : o.Below (p + 1)) :
    ∀ t ∈ o.span p a, t.1 ≤ p ∧ p ≤ t.2 := by
  intro t ht
  obtain ⟨h1, h2, h3, h4⟩ := hb
  cases a <;> simp only [Origins.span, List.mem_singleton, List.not_mem_nil] at ht <;>
    (rw [ht]; dsimp only; omega)

theorem actionSpans_around {p : Nat} (acts : List Action) (hb : o.Below (p + 1)) :
    (actionSpans p acts o).1.Below (p + 1) ∧ ∀ t ∈ (actionSpans p acts o).2, t.1 ≤ p ∧ p ≤ t.2 := by
  induction acts generalizing o with
  | nil => exact ⟨hb, by simp [actionSpans]⟩
  | cons a acts ih =>
    simp only [actionSpans]
    split
    · exact ⟨hb.act a, hb.span_around⟩
    · obtain ⟨h1, h2⟩ := ih (hb.act a)
      refine ⟨h1, ?_⟩
      intro t ht
      rcases List.mem_append.mp ht with ht | ht
      · exact hb.span_around t ht
      · exact h2 t ht

theorem runActions_agree {acts : List Action} {broke : Bool} (ha : Agree pre.length o H h)
    (hb : Bounded (q + 1) h) (hq : q < piece.length)
    (hsp : .requestMethod ∈ acts → piece[q]? = some 32)
    (hin : ∀ t ∈ (actionSpans (pre.length + q) acts o).2, Inside pre piece post t)
    (hr : runActions (pre ++ (piece ++ post)) (pre.length + q) acts H = .ok (H1, broke)) :
    ∃ h1, runActions piece q acts h = .ok (h1, broke)
      ∧ Agree pre.length (actionSpans (pre.length + q) acts o).1 H1 h1 := by
  induction acts generalizing o H h with
  | nil =>
    cases hr
    exact ⟨h, rfl, ha⟩
  | cons a acts ih =>
    cases hra : runAction (pre ++ (piece ++ post)) (pre.length + q) H a with
    | error f =>
      rw [runActions, hra] at hr
      cases hr
    | ok H2 =>
      rw [runActions_cons hra] at hr
      simp only [actionSpans] at hin ⊢
      by_cases hd : a = .done
      · rw [if_pos hd] at hr hin ⊢
        cases hr
        obtain ⟨h2, hr2, ha2⟩ := runAction_agree ha (Nat.le_of_lt_succ hb.mark) hq
          (fun h => hsp (h ▸ List.mem_cons_self)) hin hra
        refine ⟨h2, ?_, ha2⟩
        rw [runActions_cons hr2, if_pos hd]
      · rw [if_neg hd] at hr hin ⊢
        obtain ⟨h2, hr2, ha2⟩ := runAction_agree ha (Nat.le_of_lt_succ hb.mark) hq
          (fun h => hsp (h ▸ List.mem_cons_self))
          (fun t ht => hin t (List.mem_append_left _ ht)) hra
        obtain ⟨h3, hr3, ha3⟩ := ih ha2 ((runAction_kept hr2).bounded hb)
          (fun h => hsp (List.mem_cons_of_mem a h))
          (fun t ht => hin t (List.mem_append_right _ ht)) hr
        refine ⟨h3, ?_, ha3⟩
        rw [runActions_cons hr2, if_neg hd]
        exact hr3

/-- A token that no cut touches lies in the piece in which it is completed. -/
theorem inside_of_uncut {t : Nat × Nat} (hq : q < piece.length)
    (ht : t.1 ≤ pre.length + q ∧ pre.length + q ≤ t.2) (hu : Uncut pre.length t)
    (hu' : post ≠ [] → Uncut (pre.length + piece.length) t) : Inside pre piece post t := by
  unfold Uncut at hu hu'
  refine ⟨by omega, ?_⟩
  by_cases hp : post = []
  · exact .inr hp
  · have := hu' hp
    exact .inl (by omega)

/-- The machine goes on with the next character. -/
def Running (h : HttpRequestParser) : Prop := h.cs ≠ Tables.error ∧ h.cs < Tables.firstFinal

/-- The run over the piece follows the run over the whole string to the end of the piece.
The induction is on the rest of the piece. -/
theorem exec_agree {H' : HttpRequestParser} {rest : Bytes} (hdrop : piece.drop q = rest)
    (hq : q ≤ piece.length) (ha : Agree pre.length o H h) (hb : Bounded (max q 1) h)
    (hbody : h.bodyStart = 0) (hcs : Running H) (ho : o.Below (pre.length + max q 1))
    (hu : ∀ t ∈ tokenSpans H.uriRelaxed H.cs (rest ++ post) (pre.length + q) o,
      Uncut pre.length t ∧ (post ≠ [] → Uncut (pre.length + piece.length) t))
    (hr : exec (pre ++ (piece ++ post)) (rest ++ post) (pre.length + q) H
      = .ok (H', pre.length + q + (rest ++ post).length)) :
    ∃ h1 H1 o1, exec piece rest q h = .ok (h1, piece.length) ∧ Agree pre.length o1 H1 h1
      ∧ Bounded (max piece.length 1) h1
      ∧ ((post = [] ∧ H' = H1) ∨ (h1.bodyStart = 0 ∧ Running H1
        ∧ o1.Below (pre.length + max piece.length 1)
        ∧ exec (pre ++ (piece ++ post)) post (pre.length + piece.length) H1
          = .ok (H', pre.length + piece.length + post.length)
        ∧ tokenSpans H1.uriRelaxed H1.cs post (pre.length + piece.length) o1
          ⊆ tokenSpans H.uriRelaxed H.cs (rest ++ post) (pre.length + q) o)) := by
  induction rest generalizing q o H h with
  | nil =>
    have hlen : q = piece.length := by
      have := List.drop_eq_nil_iff.mp hdrop
      omega
    subst hlen
    exact ⟨h, H, o, rfl, ha, hb, .inr ⟨hbody, hcs, ho, hr, List.Subset.refl _⟩⟩
  | cons c rest ih =>
    obtain ⟨hlt, hc, hrest⟩ := drop_eq_cons hdrop
    obtain ⟨cs, acts, H2, broke, htr, hacts, hcont⟩ := exec_cons hr
    have hb' : Bounded (q + 1) { h with cs := cs } :=
      let b := hb.mono (show max q 1 ≤ q + 1 by omega)
      ⟨b.mark, b.fieldStart, b.fieldLen, b.bodyStart⟩
    have ha' : Agree pre.length o { H with cs := cs } { h with cs := cs } :=
      ⟨rfl, ha.uriRelaxed, ha.xmlSent, ha.jsonSent, ha.error, ha.data, ha.fieldStart_eq,
        ha.fieldLen_eq, ha.mark, ha.fieldStart, ha.fieldLen, ha.queryStart⟩
    have ho' : o.Below (pre.length + q + 1) := ho.mono (by omega)
    obtain ⟨ho2, haround⟩ := actionSpans_around acts ho'
    have hspans : tokenSpans H.uriRelaxed H.cs (c :: rest ++ post) (pre.length + q) o
        = (actionSpans (pre.length + q) acts o).2 ++ tokenSpans H.uriRelaxed cs (rest ++ post)
          (pre.length + q + 1) (actionSpans (pre.length + q) acts o).1 := by
      rw [List.cons_append, tokenSpans, htr]
    rw [hspans] at hu ⊢
    have hin : ∀ t ∈ (actionSpans (pre.length + q) acts o).2, Inside pre piece post t := by
      intro t ht
      obtain ⟨hu1, hu2⟩ := hu t (List.mem_append_left _ ht)
      exact inside_of_uncut hlt (haround t ht) hu1 hu2
    have hsp : .requestMethod ∈ acts → piece[q]? = some 32 := by
      intro hm
      rw [hc, requestMethod_space htr hm]
    obtain ⟨h2, hr2, ha2⟩ := runActions_agree ha' hb' hlt hsp hin hacts
    obtain ⟨hk, hbr⟩ := runActions_kept hr2
    have hb2 := hk.bounded hb'
    rw [exec_step (by rw [ha.uriRelaxed, ha.cs, htr]) hr2]
    rcases hcont with ⟨rfl, hnil, rfl⟩ | ⟨rfl, hcs', hr'⟩
    · -- `done` ends the run over the whole string, so this was its last character
      obtain ⟨hrest0, hpost⟩ := List.append_eq_nil_iff.mp hnil
      have hlen : piece.length = q + 1 := by
        have := List.drop_eq_nil_iff.mp (hrest.trans hrest0)
        omega
      refine ⟨h2, H', _, ?_, ha2, hb2.mono (by omega), .inl ⟨hpost, rfl⟩⟩
      rw [if_pos rfl, hlen]
    · rw [if_neg (by decide), if_neg hcs']
      have hHcs : H2.cs = cs := by rw [← ha2.cs, hk.cs]
      have hHu : H2.uriRelaxed = H.uriRelaxed := by
        rw [← ha2.uriRelaxed, hk.uriRelaxed]
        exact ha.uriRelaxed
      have hnd : .done ∉ acts := fun hd => Bool.noConfusion (hbr.mpr hd)
      have hrun : Running H2 := by
        refine ⟨hHcs ▸ hcs', ?_⟩
        rw [hHcs]
        exact Nat.lt_of_not_le fun hf => hnd ((transition_sound htr).final hf)
      obtain ⟨h3, H3, o3, hr3, ha3, hb3, hend⟩ := ih (q := q + 1) hrest hlt ha2
        (hb2.mono (by omega)) ((hk.bodyStart hnd).trans hbody) hrun (ho2.mono (by omega))
        (fun t ht => hu t (List.mem_append_right _ (by rwa [hHcs, hHu] at ht))) hr'
      refine ⟨h3, H3, o3, hr3, ha3, hb3, ?_⟩
      rcases hend with hend | ⟨e1, e2, e3, e4, e5⟩
      · exact .inl hend
      · rw [hHcs, hHu] at e5
        exact .inr ⟨e1, e2, e3, e4, fun t ht => List.mem_append_right _ (e5 ht)⟩

end simulation

/-! ## All pieces -/

/-- After a cut no mark of the old piece is used any more. -/
theorem Agree.next {base stop : Nat} {o : Origins} {H h : HttpRequestParser}
    (ha : Agree base o H h) (ho : o.Below stop) (n : Nat) :
    Agree stop o H (atCall { h with nread := n }) :=
  ⟨ha.cs, ha.uriRelaxed, ha.xmlSent, ha.jsonSent, ha.error, ha.data, ha.fieldStart_eq,
    ha.fieldLen_eq, fun h => absurd ho.mark (by omega), fun h => absurd ho.fieldStart (by omega),
    fun h => absurd ho.lenFrom (by omega), fun h => absurd ho.queryStart (by omega)⟩

/-- Calls of `execute` that consume the pieces without an error. Only the last one
finishes. -/
inductive Fed : HttpRequestParser → List Bytes → HttpRequestParser → Prop where
  | nil (h : HttpRequestParser) : Fed h [] h
  | cons {h h1 h' : HttpRequestParser} {piece : Bytes} {pieces : List Bytes} :
    execute h piece = .ok (h1, piece.length) → h1.hasError = false →
    (pieces ≠ [] → h1.isFinished = 0 ∧ h1.bodyStart = 0) → Fed h1 pieces h' →
    Fed h (piece :: pieces) h'

theorem Fed.feed {h h' : HttpRequestParser} {pieces : List Bytes} (hf : Fed h pieces h') :
    feed h [] pieces = .ok (h', []) := by
  induction hf with
  | nil h => rfl
  | @cons h h1 h' piece pieces hex herr hfin _ ih =>
    rw [Http.feed, List.nil_append, hex]
    show Http.feed _ (piece.drop piece.length) pieces = _
    rw [List.drop_length]
    exact ih

/-- An error of a callback stays, the parser does not touch the body, and it stops at the
end of the buffer at the latest. -/
theorem exec_kept {buffer : Bytes} {H' : HttpRequestParser} {q : Nat} (rest : Bytes) :
    ∀ {p : Nat} {H : HttpRequestParser}, exec buffer rest p H = .ok (H', q) →
      (H'.error = 0 → H.error = 0) ∧ H'.data.body = H.data.body ∧ q ≤ p + rest.length := by
  induction rest with
  | nil =>
    intro p H hr
    cases hr
    exact ⟨id, rfl, Nat.le_refl _⟩
  | cons c rest ih =>
    intro p H hr
    obtain ⟨cs, acts, H2, broke, -, hacts, hstep⟩ := exec_ok hr
    obtain ⟨hk, -⟩ := runActions_kept hacts
    rw [List.length_cons]
    split at hstep
    · cases hstep
      exact ⟨hk.error, hk.body, by omega⟩
    · split at hstep
      · cases hstep
        exact ⟨hk.error, hk.body, by omega⟩
      · obtain ⟨he, hb, hq⟩ := ih hstep
        exact ⟨fun h0 => hk.error (he h0), hb.trans hk.body, by omega⟩

/-- A call consumes at most what it is given, and does not touch the body. -/
theorem execute_body {h h' : HttpRequestParser} {data : Bytes} {n : Nat}
    (hr : execute h data = .ok (h', n)) : n ≤ data.length ∧ h'.data.body = h.data.body := by
  by_cases hnil : data = []
  · rw [hnil] at hr ⊢
    cases hr
    exact ⟨Nat.le_refl 0, rfl⟩
  · by_cases hcs : h.cs = Tables.error
    · unfold execute at hr
      rw [if_neg (by rwa [List.length_eq_zero_iff])] at hr
      dsimp only at hr
      rw [if_pos hcs] at hr
      split at hr
      · cases hr
      · change (if _ then _ else _) = _ at hr
        split at hr
        · cases hr
          exact ⟨Nat.zero_le _, rfl⟩
        · cases hr
    · obtain ⟨H', hx, -, -, rfl⟩ := execute_ok hnil hcs hr
      obtain ⟨-, hbody, hle⟩ := exec_kept data hx
      exact ⟨by omega, hbody⟩

/-- The pieces one after another follow the run over the whole string. -/
theorem feed_agree {s : Bytes} {H' : HttpRequestParser} (hs : s.length < 2 ^ 31)
    (herr : H'.hasError = false) (pieces : List Bytes) :
    ∀ (pre : Bytes) {o : Origins} {H h : HttpRequestParser},
    (∀ piece ∈ pieces, piece ≠ []) → s = pre ++ pieces.flatten →
    Agree pre.length o H (atCall h) → h.bodyStart = 0 → Running H → o.Below (pre.length + 1) →
    (∀ t ∈ tokenSpans H.uriRelaxed H.cs pieces.flatten pre.length o,
      Uncut pre.length t ∧ ∀ c ∈ cuts pre.length pieces, Uncut c t) →
    exec s pieces.flatten pre.length H = .ok (H', pre.length + pieces.flatten.length) →
    ∃ h', Fed h pieces h' ∧ h'.cs = H'.cs ∧ h'.error = H'.error ∧ h'.data = H'.data := by
  induction pieces with
  | nil =>
    intro pre o H h hne hs' ha hbody hcs ho hu hr
    cases hr
    exact ⟨h, .nil h, ha.cs, ha.error, ha.data⟩
  | cons piece pieces ih =>
    intro pre o H h hne hs' ha hbody hcs ho hu hr
    have hpne : piece ≠ [] := hne piece List.mem_cons_self
    have hpos : 0 < piece.length := List.length_pos_iff.mpr hpne
    have hmax : max piece.length 1 = piece.length := by omega
    have hcuts : pieces ≠ [] → cuts pre.length (piece :: pieces)
        = (pre.length + piece.length) :: cuts (pre.length + piece.length) pieces := by
      intro hp
      cases pieces with
      | nil => exact absurd rfl hp
      | cons x xs => rfl
    have hb : Bounded (max 0 1) (atCall h) :=
      ⟨Nat.one_pos, Nat.one_pos, Nat.zero_le _, by show h.bodyStart ≤ 1; omega⟩
    have hfl : pieces.flatten ≠ [] → pieces ≠ [] := fun h0 h1 => h0 (by rw [h1]; rfl)
    rw [List.flatten_cons] at hs' hu hr
    rw [hs'] at hr
    obtain ⟨h1, H1, o1, hr1, ha1, hb1, hend⟩ := exec_agree (q := 0) rfl (Nat.zero_le _) ha hb hbody
      hcs ho (fun t ht => ⟨(hu t ht).1, fun hp =>
        (hu t ht).2 _ (by rw [hcuts (hfl hp)]; exact List.mem_cons_self)⟩) hr
    have hlen : piece.length < 2 ^ 31 := by
      rw [hs', List.length_append, List.length_append] at hs
      omega
    have hex := execute_eq hpne hlen (by rw [show h.cs = H.cs from ha.cs]; exact hcs.1) hr1
      (Nat.le_refl _) (hmax ▸ hb1)
    rcases hend with ⟨hpost, rfl⟩ | ⟨hbody1, hcs1, ho1, hr2, hsub⟩
    · have hnil : pieces = [] := by
        cases pieces with
        | nil => rfl
        | cons x xs =>
          have := List.flatten_eq_nil_iff.mp hpost x List.mem_cons_self
          exact absurd this (hne x (List.mem_cons_of_mem _ List.mem_cons_self))
      rw [hnil]
      refine ⟨_, .cons hex ?_ (fun h0 => absurd rfl h0) (.nil _), ha1.cs, ha1.error, ha1.data⟩
      rw [← herr]
      simp only [HttpRequestParser.hasError, ha1.cs, ha1.error]
    · rw [hmax] at ho1
      have hpre : (pre ++ piece).length = pre.length + piece.length := List.length_append
      have herr1 : H1.error = 0 := by
        refine (exec_kept _ hr2).1 ?_
        simp only [HttpRequestParser.hasError, Bool.or_eq_false_iff,
          decide_eq_false_iff_not] at herr
        exact not_not.mp herr.1
      have hun : ∀ t ∈ tokenSpans H1.uriRelaxed H1.cs pieces.flatten (pre.length + piece.length) o1,
          Uncut (pre.length + piece.length) t
            ∧ ∀ c ∈ cuts (pre.length + piece.length) pieces, Uncut c t := by
        intro t ht
        obtain ⟨hu1, hu2⟩ := hu t (hsub ht)
        by_cases hp : pieces = []
        · rw [hp] at ht
          cases ht
        · rw [hcuts hp] at hu2
          exact ⟨hu2 _ List.mem_cons_self, fun c hc => hu2 c (List.mem_cons_of_mem _ hc)⟩
      rw [← hpre] at hun
      obtain ⟨h', hf, hh'⟩ := ih (pre ++ piece) (o := o1) (H := H1)
        (h := { h1 with nread := piece.length })
        (fun x hx => hne x (List.mem_cons_of_mem _ hx)) (by rw [hs', List.append_assoc])
        (by rw [hpre]; exact ha1.next ho1 _) hbody1 hcs1 (by rw [hpre]; exact ho1.mono (by omega))
        hun (by rw [hpre, hs']; exact hr2)
      refine ⟨h', .cons hex ?_ (fun _ => ⟨?_, hbody1⟩) hf, hh'⟩
      · simp only [HttpRequestParser.hasError, ha1.cs, ha1.error, herr1]
        simpa using hcs1.1
      · simp only [HttpRequestParser.isFinished, ha1.cs]
        rw [if_neg hcs1.1, if_neg (Nat.not_le_of_lt hcs1.2)]

/-- A request head that is accepted in one call, and is cut outside of its tokens. -/
theorem fed_between_tokens {uriRelaxed : Bool} {queryStart : Nat} {s : Bytes}
    {pieces : List Bytes} {h : HttpRequestParser} (hne : ∀ piece ∈ pieces, piece ≠ [])
    (hs : pieces.flatten = s) (hr : execute (.new uriRelaxed queryStart) s = .ok (h, s.length))
    (herr : h.hasError = false) (hfin : h.isFinished = 1)
    (hcut : ∀ c ∈ cuts 0 pieces, ∀ t ∈ tokens uriRelaxed s, Uncut c t) :
    ∃ h', Fed (.new uriRelaxed queryStart) pieces h' ∧ h'.hasError = false
      ∧ h'.isFinished = 1 ∧ h'.data = h.data := by
  by_cases hnil : s = []
  · rw [hnil] at hr
    cases hr
    cases hfin
  · have hcs : Running (.new uriRelaxed queryStart) := by
      show Tables.start ≠ Tables.error ∧ Tables.start < Tables.firstFinal
      decide
    obtain ⟨H', hx, hlen, -, rfl⟩ := execute_ok hnil hcs.1 hr
    have herr' : H'.hasError = false := herr
    have hagree : Agree ([] : Bytes).length .zero (atCall (.new uriRelaxed queryStart))
        (atCall (.new uriRelaxed queryStart)) :=
      ⟨rfl, rfl, rfl, rfl, rfl, rfl, rfl, rfl, fun _ => (Nat.zero_add _).symm,
        fun _ => (Nat.zero_add _).symm, fun _ => rfl, fun _ => (Nat.zero_add _).symm⟩
    have hbelow : Origins.zero.Below (([] : Bytes).length + 1) := ⟨Nat.one_pos, Nat.one_pos,
      Nat.one_pos, Nat.one_pos⟩
    obtain ⟨h', hf, h1, h2, h3⟩ := feed_agree hlen herr' pieces [] hne hs.symm hagree rfl hcs hbelow
      (fun t ht => ⟨fun h => absurd h.1 (Nat.not_lt_zero _), fun c hc => hcut c hc t (hs ▸ ht)⟩)
      (by rw [hs]; simpa using hx)
    refine ⟨h', hf, ?_, ?_, h3⟩
    · rw [← herr]
      simp only [HttpRequestParser.hasError, h1, h2]
    · rw [← hfin]
      simp only [HttpRequestParser.isFinished, h1]

/-- A request head that is accepted in one call is accepted in pieces, with the same
request, when no cut falls into one of its tokens. -/
theorem feed_between_tokens {uriRelaxed : Bool} {queryStart : Nat} {s : Bytes}
    {pieces : List Bytes} {h : HttpRequestParser} (hne : ∀ piece ∈ pieces, piece ≠ [])
    (hs : pieces.flatten = s) (hr : execute (.new uriRelaxed queryStart) s = .ok (h, s.length))
    (herr : h.hasError = false) (hfin : h.isFinished = 1)
    (hcut : ∀ c ∈ cuts 0 pieces, ∀ t ∈ tokens uriRelaxed s, Uncut c t) :
    ∃ h', feed (.new uriRelaxed queryStart) [] pieces = .ok (h', []) ∧ h'.hasError = false
      ∧ h'.isFinished = 1 ∧ h'.data = h.data := by
  obtain ⟨h', hf, hrest⟩ := fed_between_tokens hne hs hr herr hfin hcut
  exact ⟨h', hf.feed, hrest⟩

/-- A request that is cut behind the method and behind the request line. -/
theorem feed_between_tokens_three :
    ∃ h h', execute (.new false 0) (ascii "GET /a?b HTTP/1.1\r\nHost: c\r\n\r\n") = .ok (h, 30)
      ∧ feed (.new false 0) [] [ascii "GET ", ascii "/a?b HTTP/1.1\r\n", ascii "Host: c\r\n\r\n"]
        = .ok (h', [])
      ∧ h'.hasError = false ∧ h'.isFinished = 1 ∧ h'.data = h.data := by
  obtain ⟨h, hr, herr, hfin⟩ : ∃ h, execute (.new false 0)
      (ascii "GET /a?b HTTP/1.1\r\nHost: c\r\n\r\n") = .ok (h, 30) ∧ h.hasError = false
      ∧ h.isFinished = 1 := by
    refine ⟨{ cs := 348, bodyStart := 30, nread := 30, mark := 25, fieldStart := 28, fieldLen := 4,
              queryStart := 7, xmlSent := false, jsonSent := false, uriRelaxed := false, error := 0,
              data := { HttpRequest.new with
                path := ascii "/a", query := ascii "b", headers := [(ascii "Host", ascii "c")] } },
      ?_, ?_, ?_⟩ <;> decide +kernel
  have hs : [ascii "GET ", ascii "/a?b HTTP/1.1\r\n", ascii "Host: c\r\n\r\n"].flatten
      = ascii "GET /a?b HTTP/1.1\r\nHost: c\r\n\r\n" := by decide +kernel
  obtain ⟨h', hf⟩ := feed_between_tokens (by decide +kernel) hs hr herr hfin (by decide +kernel)
  exact ⟨h, h', hr, hf⟩

/-- A cut inside of the method: the second call looks up `T`. -/
theorem feed_method_cut :
    ¬ ∀ (uriRelaxed : Bool) (queryStart : Nat) (s : Bytes) (pieces : List Bytes)
        (h : HttpRequestParser),
      (∀ piece ∈ pieces, piece ≠ []) → pieces.flatten = s →
      execute (.new uriRelaxed queryStart) s = .ok (h, s.length) → h.hasError = false →
      h.isFinished = 1 →
      ∃ h', feed (.new uriRelaxed queryStart) [] pieces = .ok (h', []) ∧ h'.hasError = false
        ∧ h'.isFinished = 1 ∧ h'.data = h.data := by
  intro hall
  obtain ⟨h', hf, herr, -⟩ := hall false 0 (ascii "GET / HTTP/1.1\r\n\r\n")
    [ascii "GE", ascii "T / HTTP/1.1\r\n\r\n"]
    { cs := 348, bodyStart := 18, nread := 18, mark := 6, fieldStart := 16, fieldLen := 0,
      queryStart := 0, xmlSent := false, jsonSent := false, uriRelaxed := false, error := 0,
      data := { HttpRequest.new with path := ascii "/" } }
    (by decide +kernel) (by decide +kernel) (by decide +kernel) (by decide +kernel)
    (by decide +kernel)
  have hbad : (feed (.new false 0) [] [ascii "GE", ascii "T / HTTP/1.1\r\n\r\n"]).toOption.map
      (fun r => r.1.error) = some 1000 := by decide +kernel
  rw [hf] at hbad
  simp only [Except.toOption, Option.map_some, Option.some.injEq] at hbad
  simp [HttpRequestParser.hasError, hbad] at herr

end Http

end HrServer
