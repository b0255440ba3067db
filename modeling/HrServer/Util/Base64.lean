/-
HrServer.Util.Base64 — `base64encode` and `base64decode` of
`sylar/util/hash_util.cc`.

The decoder stores into a buffer of `src.size() * 3 / 4` bytes before it has
looked at the whole input, and gives up with the empty string in the
middle. `decodeLoop` therefore returns the bytes stored so far in either
case. `packed` has 24 bits at most, so that it is a natural number here.
-/
import HrServer.Lib.Nibbles

namespace HrServer.Util

open Lib

namespace Base64

/-! ## Encoding -/

/-- The string `base64`. -/
def table : List UInt8 :=
  [65, 66, 67, 68, 69, 70, 71, 72, 73, 74, 75, 76, 77, 78, 79, 80, 81, 82, 83, 84, 85, 86, 87, 88,
    89, 90, 97, 98, 99, 100, 101, 102, 103, 104, 105, 106, 107, 108, 109, 110, 111, 112, 113, 114,
    115, 116, 117, 118, 119, 120, 121, 122, 48, 49, 50, 51, 52, 53, 54, 55, 56, 57, 43, 47]

/-- `base64[k]`, at an index below 64. -/
def char (k : Nat) : UInt8 := table.getD k 0

/-- The loop that packs up to three bytes, with the bytes behind them. -/
def packLoop (i packed : Nat) : List UInt8 → Nat × Nat × List UInt8
  | [] => (i, packed, [])
  | b :: rest =>
    if i < 3 then packLoop (i + 1) (packed <<< 8 ||| b.toNat) rest else (i, packed, b :: rest)

theorem packLoop_length (i packed : Nat) (data : List UInt8) :
    (packLoop i packed data).2.2.length ≤ data.length := by
  induction data generalizing i packed with
  | nil => simp [packLoop]
  | cons b rest ih =>
    rw [packLoop]
    split
    · exact Nat.le_succ_of_le (ih _ _)
    · exact Nat.le_refl _

/-- The characters of one group. The loop `for(; i < 3; ++i) packed <<= 8` is one shift. -/
def encodeGroup (i packed : Nat) : List UInt8 :=
  let padding := if i = 2 then 1 else if i = 1 then 2 else 0
  let packed := packed <<< (8 * (3 - i))
  [char (packed >>> 18), char ((packed >>> 12) &&& 0x3f)]
    ++ (if padding ≠ 2 then [char ((packed >>> 6) &&& 0x3f)] else [])
    ++ (if padding = 0 then [char (packed &&& 0x3f)] else [])
    ++ List.replicate padding 61

def encode (data : List UInt8) : List UInt8 :=
  match data with
  | [] => []
  | b :: data =>
    encodeGroup (packLoop 0 0 (b :: data)).1 (packLoop 0 0 (b :: data)).2.1
      ++ encode (packLoop 0 0 (b :: data)).2.2
termination_by data.length
decreasing_by
  rw [packLoop, if_pos (by decide)]
  exact Nat.lt_succ_of_le (packLoop_length _ _ _)

/-! ## Decoding -/

/-- The value of a character. -/
def sextet (c : UInt8) : Option Nat :=
  if 65 ≤ c ∧ c ≤ 90 then some (c.toNat - 65)
  else if 97 ≤ c ∧ c ≤ 122 then some (c.toNat - 97 + 26)
  else if 48 ≤ c ∧ c ≤ 57 then some (c.toNat - 48 + 52)
  else if c = 43 then some 62
  else if c = 47 then some 63
  else none

/-- A group of up to four characters: `i`, `padding`, `packed` and what is behind it, or
`none` where the source returns the empty string. -/
def groupLoop (i padding packed : Nat) : List UInt8 → Option (Nat × Nat × Nat × List UInt8)
  | [] => some (i, padding, packed, [])
  | c :: rest =>
    if i < 4 then
      if c = 61 then groupLoop (i + 1) (padding + 1) (packed <<< 6) rest
      else if padding > 0 then none
      else
        match sextet c with
        | none => none
        | some val => groupLoop (i + 1) padding (packed <<< 6 ||| val) rest
    else some (i, padding, packed, c :: rest)

/-- The bytes of one group. -/
def groupBytes (padding packed : Nat) : List UInt8 :=
  [UInt8.ofNat ((packed >>> 16) &&& 0xff)]
    ++ (if padding ≠ 2 then [UInt8.ofNat ((packed >>> 8) &&& 0xff)] else [])
    ++ (if padding = 0 then [UInt8.ofNat (packed &&& 0xff)] else [])

theorem groupLoop_length {i padding packed i' padding' packed' : Nat} {src rest : List UInt8}
    (h : groupLoop i padding packed src = some (i', padding', packed', rest)) :
    i' + rest.length ≤ i + src.length := by
  induction src generalizing i padding packed with
  | nil =>
    simp only [groupLoop, Option.some.injEq, Prod.mk.injEq] at h
    obtain ⟨rfl, -, -, rfl⟩ := h
    simp
  | cons c src ih =>
    rw [groupLoop] at h
    split at h
    · split at h
      · have := ih h
        simp only [List.length_cons]
        omega
      · split at h
        · cases h
        · split at h
          · cases h
          · have := ih h
            simp only [List.length_cons]
            omega
    · simp only [Option.some.injEq, Prod.mk.injEq] at h
      obtain ⟨rfl, -, -, rfl⟩ := h
      simp

/-- The loop over the groups. `stored` are the bytes in the buffer; the flag says whether the
input was accepted. -/
def decodeLoop (src stored : List UInt8) : Bool × List UInt8 :=
  match src with
  | [] => (true, stored)
  | c :: src =>
    match _h : groupLoop 0 0 0 (c :: src) with
    | none => (false, stored)
    | some (i, padding, packed, rest) =>
      if _hi : i ≠ 4 then (false, stored)
      else if padding > 0 ∧ rest ≠ [] then (false, stored)
      else if padding > 2 then (false, stored)
      else decodeLoop rest (stored ++ groupBytes padding packed)
termination_by src.length
decreasing_by
  have hlen := groupLoop_length _h
  omega

/-- `base64decode`. -/
def decode (src : List UInt8) : List UInt8 :=
  if (decodeLoop src []).1 = true then (decodeLoop src []).2 else []

/-! ## Packing -/

theorem shift_six {k v : Nat} (hv : v < 64) : k <<< 6 ||| v = k * 64 + v := by
  rw [← Nat.shiftLeft_add_eq_or_of_lt (show v < 2 ^ 6 from hv), Nat.shiftLeft_eq]

theorem shift_eight {k v : Nat} (hv : v < 256) : k <<< 8 ||| v = k * 256 + v := by
  rw [← Nat.shiftLeft_add_eq_or_of_lt (show v < 2 ^ 8 from hv), Nat.shiftLeft_eq]

theorem and_six (k : Nat) : k &&& 0x3f = k % 64 := Nat.and_two_pow_sub_one_eq_mod k 6

theorem and_eight (k : Nat) : k &&& 0xff = k % 256 := Nat.and_two_pow_sub_one_eq_mod k 8

/-- The four sextets of 24 bits. -/
theorem sextets_eq {p : Nat} (hp : p < 16777216) :
    ((p / 262144 * 64 + p / 4096 % 64) * 64 + p / 64 % 64) * 64 + p % 64 = p := by
  omega

theorem sextet_char {k : Nat} (hk : k < 64) : sextet (char k) = some k := by
  have hall : ∀ n : Fin 64, sextet (char n) = some n.val := by decide
  exact hall ⟨k, hk⟩

theorem sextet_spec (c : UInt8) : ∀ v, sextet c = some v → v < 64 ∧ c ≠ 61 :=
  Nibbles.forall_byte (P := fun c => ∀ v, sextet c = some v → v < 64 ∧ c ≠ 61) (by
    have hall : ∀ n : Fin 256, ∀ v ∈ sextet (UInt8.ofNat n), v < 64 ∧ UInt8.ofNat n ≠ 61 := by
      decide +kernel
    exact hall) c

/-- The alphabet is the table of the encoder. -/
theorem sextet_isSome_iff (c : UInt8) : (sextet c).isSome = true ↔ c ∈ table :=
  Nibbles.forall_byte (P := fun c => (sextet c).isSome = true ↔ c ∈ table) (by decide +kernel) c

/-! ## One group -/

theorem groupLoop_done (padding packed : Nat) (rest : List UInt8) :
    groupLoop 4 padding packed rest = some (4, padding, packed, rest) := by
  cases rest <;> simp [groupLoop]

theorem groupLoop_char {i packed v : Nat} (hi : i < 4) {c : UInt8} (hc : sextet c = some v)
    (rest : List UInt8) :
    groupLoop i 0 packed (c :: rest) = groupLoop (i + 1) 0 (packed * 64 + v) rest := by
  obtain ⟨hv, hne⟩ := sextet_spec c v hc
  simp [groupLoop, hi, hne, hc, shift_six hv]

theorem groupLoop_pad {i padding packed : Nat} (hi : i < 4) (rest : List UInt8) :
    groupLoop i padding packed (61 :: rest)
      = groupLoop (i + 1) (padding + 1) (packed * 64) rest := by
  simp [groupLoop, hi, Nat.shiftLeft_eq]

/-- A group that is accepted. -/
theorem decodeLoop_group {src rest : List UInt8} {padding packed : Nat} (hne : src ≠ [])
    (h : groupLoop 0 0 0 src = some (4, padding, packed, rest)) (hlast : padding = 0 ∨ rest = [])
    (hpadding : padding ≤ 2) (stored : List UInt8) :
    decodeLoop src stored = decodeLoop rest (stored ++ groupBytes padding packed) := by
  cases src with
  | nil => exact absurd rfl hne
  | cons c src =>
    rw [decodeLoop]
    split
    · next h' => rw [h] at h'; cases h'
    · next h' =>
      rw [h] at h'
      cases h'
      have hend : ¬ (padding > 0 ∧ rest ≠ []) := by
        rintro ⟨h1, h2⟩
        rcases hlast with h0 | h0
        · omega
        · exact h2 h0
      rw [dif_neg (by decide), if_neg hend, if_neg (by omega)]

section group

variable {a b c d : UInt8} {p q r t : Nat}

theorem groupLoop_full (ha : sextet a = some p) (hb : sextet b = some q) (hc : sextet c = some r)
    (hd : sextet d = some t) (rest : List UInt8) :
    groupLoop 0 0 0 (a :: b :: c :: d :: rest)
      = some (4, 0, ((p * 64 + q) * 64 + r) * 64 + t, rest) := by
  rw [groupLoop_char (by decide) ha, groupLoop_char (by decide) hb, groupLoop_char (by decide) hc,
    groupLoop_char (by decide) hd, groupLoop_done]
  simp

theorem groupLoop_one_pad (ha : sextet a = some p) (hb : sextet b = some q)
    (hc : sextet c = some r) :
    groupLoop 0 0 0 [a, b, c, 61] = some (4, 1, ((p * 64 + q) * 64 + r) * 64, []) := by
  rw [groupLoop_char (by decide) ha, groupLoop_char (by decide) hb, groupLoop_char (by decide) hc,
    groupLoop_pad (by decide), groupLoop_done]
  simp

theorem groupLoop_two_pads (ha : sextet a = some p) (hb : sextet b = some q) :
    groupLoop 0 0 0 [a, b, 61, 61] = some (4, 2, (p * 64 + q) * 64 * 64, []) := by
  rw [groupLoop_char (by decide) ha, groupLoop_char (by decide) hb, groupLoop_pad (by decide),
    groupLoop_pad (by decide), groupLoop_done]
  simp

theorem decodeLoop_full (ha : sextet a = some p) (hb : sextet b = some q) (hc : sextet c = some r)
    (hd : sextet d = some t) (rest stored : List UInt8) :
    decodeLoop (a :: b :: c :: d :: rest) stored
      = decodeLoop rest (stored ++ groupBytes 0 (((p * 64 + q) * 64 + r) * 64 + t)) := by
  exact decodeLoop_group (by simp) (groupLoop_full ha hb hc hd rest) (.inl rfl) (by decide) stored

theorem decodeLoop_one_pad (ha : sextet a = some p) (hb : sextet b = some q)
    (hc : sextet c = some r) (stored : List UInt8) :
    decodeLoop [a, b, c, 61] stored
      = (true, stored ++ groupBytes 1 (((p * 64 + q) * 64 + r) * 64)) := by
  rw [decodeLoop_group (by simp) (groupLoop_one_pad ha hb hc) (.inr rfl) (by decide), decodeLoop]

theorem decodeLoop_two_pads (ha : sextet a = some p) (hb : sextet b = some q)
    (stored : List UInt8) :
    decodeLoop [a, b, 61, 61] stored
      = (true, stored ++ groupBytes 2 ((p * 64 + q) * 64 * 64)) := by
  rw [decodeLoop_group (by simp) (groupLoop_two_pads ha hb) (.inr rfl) (by decide), decodeLoop]

end group

/-! ## The round trip -/

section roundTrip

variable (a b c : UInt8)

theorem encode_three (rest : List UInt8) (p : Nat)
    (hp : p = (a.toNat * 256 + b.toNat) * 256 + c.toNat) :
    encode (a :: b :: c :: rest)
      = char (p / 262144) :: char (p / 4096 % 64) :: char (p / 64 % 64) :: char (p % 64)
        :: encode rest := by
  have hpack : packLoop 0 0 (a :: b :: c :: rest) = (3, p, rest) := by
    have hdone : ∀ k, packLoop 3 k rest = (3, k, rest) := by
      intro k
      cases rest <;> simp [packLoop]
    simp [packLoop, hdone, shift_eight (UInt8.toNat_lt _), hp]
  rw [encode, hpack]
  simp [encodeGroup, and_six, Nat.shiftRight_eq_div_pow]

theorem encode_two (p : Nat) (hp : p = (a.toNat * 256 + b.toNat) * 256) :
    encode [a, b]
      = [char (p / 262144), char (p / 4096 % 64), char (p / 64 % 64), 61] := by
  have hpack : packLoop 0 0 [a, b] = (2, a.toNat * 256 + b.toNat, []) := by
    simp [packLoop, shift_eight (UInt8.toNat_lt _)]
  rw [encode, hpack]
  simp [encodeGroup, encode, and_six, Nat.shiftRight_eq_div_pow, Nat.shiftLeft_eq, hp]

theorem encode_one (p : Nat) (hp : p = a.toNat * 65536) :
    encode [a] = [char (p / 262144), char (p / 4096 % 64), 61, 61] := by
  have hpack : packLoop 0 0 [a] = (1, a.toNat, []) := by simp [packLoop]
  rw [encode, hpack]
  simp [encodeGroup, encode, and_six, Nat.shiftRight_eq_div_pow, Nat.shiftLeft_eq, hp]

/-- Every group is read back, by induction on the bytes, three at a time. -/
theorem decodeLoop_encode : ∀ (data stored : List UInt8),
    decodeLoop (encode data) stored = (true, stored ++ data)
  | [], stored => by simp [encode, decodeLoop]
  | [a], stored => by
    have ha := a.toNat_lt
    rw [encode_one a _ rfl, decodeLoop_two_pads (sextet_char (by omega)) (sextet_char (by omega))]
    have hp : (a.toNat * 65536 / 262144 * 64 + a.toNat * 65536 / 4096 % 64) * 64 * 64
        = a.toNat * 65536 := by omega
    simp [hp, groupBytes, and_eight, Nat.shiftRight_eq_div_pow]
  | [a, b], stored => by
    have ha := a.toNat_lt
    have hb := b.toNat_lt
    rw [encode_two a b _ rfl, decodeLoop_one_pad (sextet_char (by omega)) (sextet_char (by omega))
      (sextet_char (by omega))]
    have hp := sextets_eq (p := (a.toNat * 256 + b.toNat) * 256) (by omega)
    have hlast : (a.toNat * 256 + b.toNat) * 256 % 64 = 0 := by omega
    rw [hlast, Nat.add_zero] at hp
    have h1 : (a.toNat * 256 + b.toNat) * 256 / 65536 % 256 = a.toNat := by omega
    simp [hp, groupBytes, and_eight, Nat.shiftRight_eq_div_pow, h1]
  | a :: b :: c :: rest, stored => by
    have ha := a.toNat_lt
    have hb := b.toNat_lt
    have hc := c.toNat_lt
    rw [encode_three a b c rest _ rfl, decodeLoop_full (sextet_char (by omega))
      (sextet_char (by omega)) (sextet_char (by omega)) (sextet_char (by omega)),
      sextets_eq (by omega), decodeLoop_encode rest]
    have h1 : ((a.toNat * 256 + b.toNat) * 256 + c.toNat) / 65536 % 256 = a.toNat := by omega
    have h2 : ((a.toNat * 256 + b.toNat) * 256 + c.toNat) / 256 % 256 = b.toNat := by omega
    have h3 : ((a.toNat * 256 + b.toNat) * 256 + c.toNat) % 256 = c.toNat := by omega
    simp [groupBytes, and_eight, Nat.shiftRight_eq_div_pow, h1, h2, h3]

theorem decode_encode (data : List UInt8) : decode (encode data) = data := by
  simp [decode, decodeLoop_encode]

end roundTrip

/-! ## The grammar -/

/-- Groups of four characters of the alphabet, of which the last may end in one or two `=`. -/
inductive Groups : List UInt8 → Prop where
  | full {a b c d} (ha : a ∈ table) (hb : b ∈ table) (hc : c ∈ table) (hd : d ∈ table) :
      Groups [a, b, c, d]
  | onePad {a b c} (ha : a ∈ table) (hb : b ∈ table) (hc : c ∈ table) : Groups [a, b, c, 61]
  | twoPads {a b} (ha : a ∈ table) (hb : b ∈ table) : Groups [a, b, 61, 61]
  | cons {a b c d rest} (ha : a ∈ table) (hb : b ∈ table) (hc : c ∈ table) (hd : d ∈ table)
      (hrest : Groups rest) : Groups (a :: b :: c :: d :: rest)

theorem sextet_of_mem {c : UInt8} (h : c ∈ table) : ∃ v, sextet c = some v :=
  Option.isSome_iff_exists.mp ((sextet_isSome_iff c).mpr h)

/-- A group that the decoder lets pass. -/
def Accepted (src : List UInt8) (padding packed : Nat) (rest : List UInt8) : Prop :=
  groupLoop 0 0 0 src = some (4, padding, packed, rest) ∧ (padding = 0 ∨ rest = []) ∧ padding ≤ 2

theorem Groups.accepted {src : List UInt8} (h : Groups src) :
    ∃ padding packed rest, Accepted src padding packed rest := by
  cases h with
  | full ha hb hc hd | cons ha hb hc hd hrest =>
    obtain ⟨p, hp⟩ := sextet_of_mem ha
    obtain ⟨q, hq⟩ := sextet_of_mem hb
    obtain ⟨r, hr⟩ := sextet_of_mem hc
    obtain ⟨t, ht⟩ := sextet_of_mem hd
    exact ⟨_, _, _, groupLoop_full hp hq hr ht _, .inl rfl, by decide⟩
  | onePad ha hb hc =>
    obtain ⟨p, hp⟩ := sextet_of_mem ha
    obtain ⟨q, hq⟩ := sextet_of_mem hb
    obtain ⟨r, hr⟩ := sextet_of_mem hc
    exact ⟨_, _, _, groupLoop_one_pad hp hq hr, .inr rfl, by decide⟩
  | twoPads ha hb =>
    obtain ⟨p, hp⟩ := sextet_of_mem ha
    obtain ⟨q, hq⟩ := sextet_of_mem hb
    exact ⟨_, _, _, groupLoop_two_pads hp hq, .inr rfl, by decide⟩

/-- What the loop over a group has read: characters of the alphabet, then `=`. -/
theorem groupLoop_spec {i padding packed i' padding' packed' : Nat} {src rest : List UInt8}
    (h : groupLoop i padding packed src = some (i', padding', packed', rest)) :
    ∃ text n, src = text ++ List.replicate n 61 ++ rest ∧ (∀ c ∈ text, c ∈ table)
      ∧ (0 < padding → text = []) ∧ i' = i + text.length + n ∧ padding' = padding + n := by
  induction src generalizing i padding packed with
  | nil =>
    simp only [groupLoop, Option.some.injEq, Prod.mk.injEq] at h
    obtain ⟨rfl, rfl, -, rfl⟩ := h
    exact ⟨[], 0, by simp⟩
  | cons c src ih =>
    rw [groupLoop] at h
    split at h
    · split at h
      · next hc =>
        obtain ⟨text, n, hsrc, -, hnil, hi, hpad⟩ := ih h
        rw [hnil (by omega)] at hsrc hi
        refine ⟨[], n + 1, ?_, by simp, by simp, ?_, by omega⟩
        · simp [hsrc, hc, List.replicate_succ]
        · simp only [List.length_nil] at hi ⊢
          omega
      · split at h
        · cases h
        · next hpos =>
          split at h
          · cases h
          · next v hv =>
            obtain ⟨text, n, hsrc, htext, -, hi, hpad⟩ := ih h
            have hc : c ∈ table := (sextet_isSome_iff c).mp (by simp [hv])
            refine ⟨c :: text, n, by simp [hsrc], by simpa [hc] using htext,
              fun hp => absurd hp hpos, ?_, hpad⟩
            simp only [List.length_cons]
            omega
    · simp only [Option.some.injEq, Prod.mk.injEq] at h
      obtain ⟨rfl, rfl, -, rfl⟩ := h
      exact ⟨[], 0, by simp⟩

/-- The groups that pass. -/
theorem Accepted.shape {src rest : List UInt8} {padding packed : Nat}
    (h : Accepted src padding packed rest) :
    (padding = 0 ∧ ∃ a b c d, (a ∈ table ∧ b ∈ table ∧ c ∈ table ∧ d ∈ table)
        ∧ src = a :: b :: c :: d :: rest)
      ∨ (padding = 1 ∧ rest = [] ∧ ∃ a b c, (a ∈ table ∧ b ∈ table ∧ c ∈ table)
        ∧ src = [a, b, c, 61])
      ∨ (padding = 2 ∧ rest = [] ∧ ∃ a b, (a ∈ table ∧ b ∈ table) ∧ src = [a, b, 61, 61]) := by
  obtain ⟨hgroup, hlast, hle⟩ := h
  obtain ⟨text, n, hsrc, htext, -, hi, hpad⟩ := groupLoop_spec hgroup
  obtain rfl : padding = n := by omega
  obtain rfl | rfl | rfl : padding = 0 ∨ padding = 1 ∨ padding = 2 := by omega
  · obtain ⟨a, b, c, d, rfl⟩ := List.length_eq_four.mp (show text.length = 4 by omega)
    exact .inl ⟨rfl, a, b, c, d, by simpa using htext, by simpa using hsrc⟩
  · obtain ⟨a, b, c, rfl⟩ := List.length_eq_three.mp (show text.length = 3 by omega)
    obtain rfl : rest = [] := by simpa using hlast
    exact .inr (.inl ⟨rfl, rfl, a, b, c, by simpa using htext, by simpa using hsrc⟩)
  · obtain ⟨a, b, rfl⟩ := List.length_eq_two.mp (show text.length = 2 by omega)
    obtain rfl : rest = [] := by simpa using hlast
    exact .inr (.inr ⟨rfl, rfl, a, b, by simpa using htext, by simpa using hsrc⟩)

/-! ## Every input -/

/-- The runs of the decoder: it is through, it gives up at a group, or a group passes. -/
inductive Decodes : List UInt8 → List UInt8 → Bool × List UInt8 → Prop where
  | done (stored) : Decodes [] stored (true, stored)
  | reject {src} (stored) (hne : src ≠ [])
      (h : ∀ padding packed rest, ¬ Accepted src padding packed rest) :
      Decodes src stored (false, stored)
  | group {src rest stored result padding packed} (h : Accepted src padding packed rest)
      (hrest : Decodes rest (stored ++ groupBytes padding packed) result) :
      Decodes src stored result

theorem decodeLoop_decodes (src stored : List UInt8) :
    Decodes src stored (decodeLoop src stored) := by
  fun_induction decodeLoop src stored with
  | case1 stored => exact .done stored
  | case2 stored c src h =>
    refine .reject stored (by simp) ?_
    rintro padding packed rest ⟨hgroup, -⟩
    rw [h] at hgroup
    cases hgroup
  | case3 stored c src i padding packed rest h hi =>
    refine .reject stored (by simp) ?_
    rintro padding' packed' rest' ⟨hgroup, -⟩
    rw [h] at hgroup
    cases hgroup
    exact hi rfl
  | case4 stored c src i padding packed rest h hi hlast =>
    refine .reject stored (by simp) ?_
    rintro padding' packed' rest' ⟨hgroup, hlast', -⟩
    rw [h] at hgroup
    cases hgroup
    rcases hlast' with h0 | h0
    · omega
    · exact hlast.2 h0
  | case5 stored c src i padding packed rest h hi hlast hpadding =>
    refine .reject stored (by simp) ?_
    rintro padding' packed' rest' ⟨hgroup, -, hle⟩
    rw [h] at hgroup
    cases hgroup
    omega
  | case6 stored c src i padding packed rest h hi hlast hpadding ih =>
    obtain rfl : i = 4 := by simpa using hi
    refine .group ⟨h, ?_, by omega⟩ ih
    by_cases h0 : padding = 0
    · exact .inl h0
    · exact .inr (by simpa [Nat.pos_of_ne_zero h0] using hlast)

section decodes

variable {src stored : List UInt8} {result : Bool × List UInt8}

theorem groups_cons_iff {a b c d : UInt8} {rest : List UInt8}
    (h : a ∈ table ∧ b ∈ table ∧ c ∈ table ∧ d ∈ table) :
    Groups (a :: b :: c :: d :: rest) ↔ rest = [] ∨ Groups rest := by
  obtain ⟨ha, hb, hc, hd⟩ := h
  constructor
  · intro hgroups
    cases hgroups with
    | full | onePad | twoPads => exact .inl rfl
    | cons _ _ _ _ hrest => exact .inr hrest
  · rintro (rfl | hrest)
    · exact .full ha hb hc hd
    · exact .cons ha hb hc hd hrest

/-- The decoder accepts the empty string and the strings of groups. -/
theorem Decodes.accepts_iff (h : Decodes src stored result) :
    result.1 = true ↔ src = [] ∨ Groups src := by
  induction h with
  | done stored => simp
  | @reject src stored hne h =>
    have hnot : ¬ Groups src := by
      intro hgroups
      obtain ⟨padding, packed, rest, hacc⟩ := hgroups.accepted
      exact h padding packed rest hacc
    simp [hne, hnot]
  | group hacc hrest ih =>
    rw [ih]
    rcases hacc.shape with ⟨-, a, b, c, d, habcd, rfl⟩ | ⟨-, rfl, a, b, c, habc, rfl⟩ |
      ⟨-, rfl, a, b, hab, rfl⟩
    · rw [groups_cons_iff habcd]
      simp
    · exact iff_of_true (.inl rfl) (.inr (.onePad habc.1 habc.2.1 habc.2.2))
    · exact iff_of_true (.inl rfl) (.inr (.twoPads hab.1 hab.2))

theorem count_cons_of_mem {c : UInt8} (h : c ∈ table) (rest : List UInt8) :
    (c :: rest).count 61 = rest.count 61 := by
  have hne : c ≠ 61 := by
    rintro rfl
    exact absurd h (by decide)
  exact List.count_cons_of_ne hne

/-- A group gives three bytes less one for each `=`. -/
theorem Accepted.length_eq {rest : List UInt8} {padding packed : Nat}
    (h : Accepted src padding packed rest) :
    (groupBytes padding packed).length + padding = 3 ∧ src.length = 4 + rest.length
      ∧ src.count 61 = padding + rest.count 61 := by
  rcases h.shape with ⟨rfl, a, b, c, d, ⟨ha, hb, hc, hd⟩, rfl⟩ |
    ⟨rfl, rfl, a, b, c, ⟨ha, hb, hc⟩, rfl⟩ | ⟨rfl, rfl, a, b, ⟨ha, hb⟩, rfl⟩
  · simp [groupBytes, count_cons_of_mem, ha, hb, hc, hd, Nat.add_comm 4]
  · simp [groupBytes, count_cons_of_mem, ha, hb, hc]
  · simp [groupBytes, count_cons_of_mem, ha, hb]

/-- The bytes stored, on any input. -/
theorem Decodes.stored_le (h : Decodes src stored result) :
    4 * result.2.length ≤ 4 * stored.length + 3 * src.length := by
  induction h with
  | done stored => simp
  | reject stored => simp
  | group hacc hrest ih =>
    obtain ⟨hbytes, hlen, -⟩ := hacc.length_eq
    rw [List.length_append] at ih
    omega

/-- The bytes of an accepted input. -/
theorem Decodes.stored_eq (h : Decodes src stored result) (hok : result.1 = true) :
    4 * (result.2.length + src.count 61) = 4 * stored.length + 3 * src.length := by
  induction h with
  | done stored => simp
  | reject stored => cases hok
  | group hacc hrest ih =>
    obtain ⟨hbytes, hlen, hcount⟩ := hacc.length_eq
    have hrest := ih hok
    rw [List.length_append] at hrest
    omega

theorem Groups.count_lt (h : Groups src) : 4 * src.count 61 < 3 * src.length := by
  induction h with
  | full ha hb hc hd => simp [count_cons_of_mem, ha, hb, hc, hd]
  | onePad ha hb hc => simp [count_cons_of_mem, ha, hb, hc]
  | twoPads ha hb => simp [count_cons_of_mem, ha, hb]
  | cons ha hb hc hd hrest ih =>
    simp only [count_cons_of_mem, ha, hb, hc, hd, List.length_cons]
    omega

end decodes

theorem decode_of_groups {src : List UInt8} (h : Groups src) :
    4 * ((decode src).length + src.count 61) = 3 * src.length := by
  have hrun := decodeLoop_decodes src []
  have hok := hrun.accepts_iff.mpr (.inr h)
  have hlen := hrun.stored_eq hok
  rw [decode, if_pos hok]
  simpa using hlen

/-- Base64 is read back. The decoder returns bytes exactly for the strings of groups, three
for every four characters less one for each `=`, and on no input does it store more than the
buffer has room for. -/
theorem base64_roundTrip :
    (∀ data, decode (encode data) = data)
      ∧ (∀ s, decode s ≠ [] ↔ Groups s)
      ∧ (∀ s, Groups s → 4 * ((decode s).length + s.count 61) = 3 * s.length)
      ∧ ∀ s, (decodeLoop s []).2.length ≤ s.length * 3 / 4 := by
  refine ⟨decode_encode, ?_, fun s => decode_of_groups, ?_⟩
  · intro s
    constructor
    · intro hne
      by_cases hok : (decodeLoop s []).1 = true
      · rcases (decodeLoop_decodes s []).accepts_iff.mp hok with rfl | h
        · simp [decode, decodeLoop] at hne
        · exact h
      · exact absurd (if_neg hok) hne
    · intro h hnil
      have hlen := decode_of_groups h
      have hlt := h.count_lt
      rw [hnil, List.length_nil] at hlen
      omega
  · intro s
    have hle := (decodeLoop_decodes s []).stored_le
    rw [List.length_nil] at hle
    omega

/-- `"Zg=="` is `"f"`; padding before the last group is refused. -/
example : decode [90, 103, 61, 61] = [102] ∧ decode [90, 103, 61, 61, 90, 103, 61, 61] = [] := by
  decide +kernel

end Base64

end HrServer.Util
