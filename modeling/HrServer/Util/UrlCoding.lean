/-
HrServer.Util.UrlCoding — `UrlDecode` undoes `UrlEncode`.

Both functions copy the string only from the first character on that they
change. `urlEncode_eq` and `urlDecode_eq` say that this makes no
difference: the results are those of `encodeByte` and `decodeBytes`, which
always copy. The round trip is then a matter of one byte and what follows
it (`decodeBytes_encodeByte`).
-/
import HrServer.Lib.Nibbles
import HrServer.Util.StringUtil

namespace HrServer.Util

open Lib

namespace StringUtil

/-! ## Without the lazy copy -/

/-- What `UrlEncode` makes of one byte. -/
def encodeByte (spaceAsPlus : Bool) (c : UInt8) : List UInt8 :=
  if uriChars c = true then [c]
  else if c = 32 ∧ spaceAsPlus = true then [43]
  else [37, hexdigits (c >>> 4), hexdigits (c &&& 0xf)]

/-- `UrlDecode` on a string that is copied throughout. -/
def decodeBytes (spaceAsPlus : Bool) : List UInt8 → List UInt8
  | [] => []
  | c :: cs =>
    if c = 43 ∧ spaceAsPlus = true then 32 :: decodeBytes spaceAsPlus cs
    else
      match cs with
      | x :: y :: rest =>
        if c = 37 ∧ isxdigit x = true ∧ isxdigit y = true then
          (xdigitChars x <<< 4 ||| xdigitChars y) :: decodeBytes spaceAsPlus rest
        else c :: decodeBytes spaceAsPlus (x :: y :: rest)
      | cs => c :: decodeBytes spaceAsPlus cs

section lazy

variable (b : Bool)

/-- The copy is the text before it as long as there is none. -/
theorem getD_map_concat (ss : Option (List UInt8)) (before : List UInt8) (c : UInt8) :
    (ss.map (· ++ [c])).getD (before ++ [c]) = ss.getD before ++ [c] := by
  cases ss <;> simp

theorem urlEncodeLoop_eq (before : List UInt8) (ss : Option (List UInt8)) (cs : List UInt8) :
    (urlEncodeLoop b before ss cs).getD (before ++ cs)
      = ss.getD before ++ cs.flatMap (encodeByte b) := by
  induction cs generalizing before ss with
  | nil => simp [urlEncodeLoop]
  | cons c cs ih =>
    have hbefore : before ++ c :: cs = (before ++ [c]) ++ cs := by simp
    rw [urlEncodeLoop, List.flatMap_cons, encodeByte, hbefore]
    cases hc : uriChars c with
    | true =>
      simp only [Bool.true_eq_false, if_false, if_true, ih, getD_map_concat]
      simp
    | false =>
      by_cases hsp : c = 32 ∧ b = true
      · simp only [if_pos hsp, if_true, ih]
        simp
      · simp only [if_neg hsp, if_true, ih]
        simp

theorem urlEncode_eq (s : List UInt8) : urlEncode s b = s.flatMap (encodeByte b) := by
  simpa [urlEncode] using urlEncodeLoop_eq b [] none s

theorem urlDecodeLoop_eq (before : List UInt8) (ss : Option (List UInt8)) (cs : List UInt8) :
    (urlDecodeLoop b before ss cs).getD (before ++ cs) = ss.getD before ++ decodeBytes b cs := by
  fun_induction urlDecodeLoop b before ss cs with
  | case1 before ss => simp [decodeBytes]
  | case2 before ss c cs hplus ih =>
    unfold decodeBytes
    rw [if_pos hplus]
    simpa using ih
  | case3 before ss c hplus x y rest hpct ih =>
    unfold decodeBytes
    rw [if_neg hplus]
    simp only [if_pos hpct]
    simpa using ih
  | case4 before ss c hplus x y rest hpct ih =>
    unfold decodeBytes
    rw [if_neg hplus]
    simp only [if_neg hpct]
    rw [getD_map_concat] at ih
    simpa using ih
  | case5 before ss c hplus cs hshort ih =>
    unfold decodeBytes
    rw [if_neg hplus]
    rw [getD_map_concat] at ih
    split
    · next x y rest => exact absurd rfl (hshort x y rest)
    · simpa using ih

theorem urlDecode_eq (s : List UInt8) : urlDecode s b = decodeBytes b s := by
  simpa [urlDecode] using urlDecodeLoop_eq b [] none s

end lazy

/-! ## The tables -/

/-- A hexadecimal digit as `UrlEncode` writes it. -/
def IsUpperHex (c : UInt8) : Prop := 48 ≤ c ∧ c ≤ 57 ∨ 65 ≤ c ∧ c ≤ 70

instance (c : UInt8) : Decidable (IsUpperHex c) :=
  inferInstanceAs (Decidable (48 ≤ c ∧ c ≤ 57 ∨ 65 ≤ c ∧ c ≤ 70))

theorem hexdigits_lt {n : UInt8} (h : n.toNat < 16) :
    xdigitChars (hexdigits n) = n ∧ isxdigit (hexdigits n) = true ∧ IsUpperHex (hexdigits n) :=
  Nibbles.forall_nibble (P := fun n =>
    xdigitChars (hexdigits n) = n ∧ isxdigit (hexdigits n) = true ∧ IsUpperHex (hexdigits n))
    (by decide) h

/-! ## The round trip -/

section roundTrip

variable {b : Bool}

/-- A character that stands for itself. -/
theorem decodeBytes_cons {c : UInt8} (hplus : ¬ (c = 43 ∧ b = true)) (hpct : c ≠ 37)
    (rest : List UInt8) : decodeBytes b (c :: rest) = c :: decodeBytes b rest := by
  match rest with
  | [] | [_] | _ :: _ :: _ => simp [decodeBytes, hplus, hpct]

theorem decodeBytes_plus (rest : List UInt8) :
    decodeBytes true (43 :: rest) = 32 :: decodeBytes true rest := by
  match rest with
  | [] | [_] | _ :: _ :: _ => simp [decodeBytes]

/-- One byte is read back, whatever follows it. -/
theorem decodeBytes_encodeByte (c : UInt8) (rest : List UInt8) :
    decodeBytes b (encodeByte b c ++ rest) = c :: decodeBytes b rest := by
  unfold encodeByte
  split
  · next hc =>
    have hplus : c ≠ 43 := by rintro rfl; simp [uriChars] at hc
    have hpct : c ≠ 37 := by rintro rfl; simp [uriChars] at hc
    exact decodeBytes_cons (fun h => hplus h.1) hpct rest
  · split
    · next hsp => simp [hsp, decodeBytes_plus]
    · obtain ⟨hhi, hxhi, -⟩ := hexdigits_lt (Nibbles.high_lt c)
      obtain ⟨hlo, hxlo, -⟩ := hexdigits_lt (Nibbles.low_lt c)
      simp [decodeBytes, hxhi, hxlo, hhi, hlo, Nibbles.high_or_low]

/-- A string is read back, whatever follows it. -/
theorem decodeBytes_encode (s rest : List UInt8) :
    decodeBytes b (s.flatMap (encodeByte b) ++ rest) = s ++ decodeBytes b rest := by
  induction s with
  | nil => simp
  | cons c s ih => simp [List.append_assoc, decodeBytes_encodeByte, ih]

theorem urlDecode_encoded (s : List UInt8) (b : Bool) : urlDecode (urlEncode s b) b = s := by
  have h := decodeBytes_encode (b := b) s []
  simpa [urlDecode_eq, urlEncode_eq, decodeBytes] using h

end roundTrip

/-! ## The alphabet -/

/-- The strings of unreserved characters, of `%` with two upper-case hexadecimal digits, and
of `+` if a space is written so. -/
inductive Encoded (spaceAsPlus : Bool) : List UInt8 → Prop where
  | nil : Encoded spaceAsPlus []
  | char {c rest} (h : uriChars c = true) (hrest : Encoded spaceAsPlus rest) :
      Encoded spaceAsPlus (c :: rest)
  | plus {rest} (h : spaceAsPlus = true) (hrest : Encoded spaceAsPlus rest) :
      Encoded spaceAsPlus (43 :: rest)
  | percent {x y rest} (hx : IsUpperHex x) (hy : IsUpperHex y)
      (hrest : Encoded spaceAsPlus rest) : Encoded spaceAsPlus (37 :: x :: y :: rest)

theorem encoded_encodeByte {b : Bool} (c : UInt8) {rest : List UInt8} (h : Encoded b rest) :
    Encoded b (encodeByte b c ++ rest) := by
  unfold encodeByte
  split
  · next hc => exact .char hc h
  · split
    · next hsp => exact .plus hsp.2 h
    · exact .percent (hexdigits_lt (Nibbles.high_lt c)).2.2 (hexdigits_lt (Nibbles.low_lt c)).2.2 h

theorem encoded_urlEncode (s : List UInt8) (b : Bool) : Encoded b (urlEncode s b) := by
  rw [urlEncode_eq]
  induction s with
  | nil => exact .nil
  | cons c s ih => exact encoded_encodeByte c ih

/-- Every byte string comes back from its encoding, which has no other characters than it
should. -/
theorem urlEncode_roundTrip (s : List UInt8) (b : Bool) :
    urlDecode (urlEncode s b) b = s ∧ Encoded b (urlEncode s b) :=
  ⟨urlDecode_encoded s b, encoded_urlEncode s b⟩

/-- `"a b+%"`, with the last two bytes of the decoder's look-ahead at the end. -/
example : urlEncode [97, 32, 98, 43, 37] true = [97, 43, 98, 37, 50, 66, 37, 50, 53] := by decide

end StringUtil

end HrServer.Util
