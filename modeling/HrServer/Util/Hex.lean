/-
HrServer.Util.Hex — `hexstring_from_data` and `data_from_hexstring` of
`sylar/util/hash_util.cc`.

The decoder takes two characters in a pass, each with a `switch` of its
own. The loop reads the character behind a first one without a test of the
length; on an odd length that would be the zero byte at the end of the
string, but the length is tested before.
-/
import HrServer.Lib.Nibbles
import HrServer.Util.StringUtil

namespace HrServer.Util

open Lib StringUtil

namespace Hex

/-- `std::invalid_argument`. -/
structure InvalidArgument where
  what : String
  deriving DecidableEq

/-! ## Encoding -/

/-- `(c > 9) ? c + 'a' - 10 : c + '0'`. -/
def digit (c : UInt8) : UInt8 := if c > 9 then c + 97 - 10 else c + 48

/-- The loop over the bytes of `buf`. -/
def hexstringLoop : List UInt8 → List UInt8
  | [] => []
  | b :: buf => digit ((b >>> 4) &&& 0xf) :: digit (b &&& 0xf) :: hexstringLoop buf

def hexstringFromData (data : List UInt8) : List UInt8 :=
  if data.length = 0 then [] else hexstringLoop data

/-! ## Decoding -/

def invalidLength : InvalidArgument := ⟨"data_from_hexstring length % 2 != 0"⟩

def invalidHexstring : InvalidArgument := ⟨"data_from_hexstring invalid hexstring"⟩

/-- The first `switch`: the high half of `byte`. -/
def highDigit (c : UInt8) : Except InvalidArgument UInt8 :=
  if 97 ≤ c ∧ c ≤ 102 then .ok ((c - 97 + 10) <<< 4)
  else if 65 ≤ c ∧ c ≤ 70 then .ok ((c - 65 + 10) <<< 4)
  else if 48 ≤ c ∧ c ≤ 57 then .ok ((c - 48) <<< 4)
  else .error invalidHexstring

/-- The second `switch`: the low half is or-ed to `byte`. -/
def lowDigit (byte c : UInt8) : Except InvalidArgument UInt8 :=
  if 97 ≤ c ∧ c ≤ 102 then .ok (byte ||| (c - 97 + 10))
  else if 65 ≤ c ∧ c ≤ 70 then .ok (byte ||| (c - 65 + 10))
  else if 48 ≤ c ∧ c ≤ 57 then .ok (byte ||| (c - 48))
  else .error invalidHexstring

/-- The loop. Behind a single character stands the zero byte of `c_str`. -/
def dataLoop : List UInt8 → Except InvalidArgument (List UInt8)
  | [] => .ok []
  | [c] => do
    let byte ← highDigit c
    let byte ← lowDigit byte 0
    return [byte]
  | c :: d :: rest => do
    let byte ← highDigit c
    let byte ← lowDigit byte d
    let bytes ← dataLoop rest
    return byte :: bytes

def dataFromHexstring (hexstring : List UInt8) : Except InvalidArgument (List UInt8) :=
  if hexstring.length % 2 ≠ 0 then .error invalidLength
  else if hexstring.length = 0 then .ok []
  else dataLoop hexstring

/-- Lower case. -/
def lower (c : UInt8) : UInt8 := if 65 ≤ c ∧ c ≤ 90 then c + 32 else c

/-! ## One character -/

/-- The value of a hexadecimal digit. -/
def value (c : UInt8) : UInt8 :=
  if 97 ≤ c ∧ c ≤ 102 then c - 97 + 10 else if 65 ≤ c ∧ c ≤ 70 then c - 65 + 10 else c - 48

theorem highDigit_eq (c : UInt8) :
    highDigit c = if isxdigit c = true then .ok (value c <<< 4) else .error invalidHexstring := by
  unfold highDigit value isxdigit
  grind

theorem lowDigit_eq (byte c : UInt8) :
    lowDigit byte c
      = if isxdigit c = true then .ok (byte ||| value c) else .error invalidHexstring := by
  unfold lowDigit value isxdigit
  grind

theorem value_spec (c : UInt8) :
    isxdigit c = true → (value c).toNat < 16 ∧ digit (value c) = lower c :=
  Nibbles.forall_byte (P := fun c =>
    isxdigit c = true → (value c).toNat < 16 ∧ digit (value c) = lower c) (by decide +kernel) c

theorem digit_spec {n : UInt8} (h : n.toNat < 16) :
    isxdigit (digit n) = true ∧ value (digit n) = n :=
  Nibbles.forall_nibble (P := fun n => isxdigit (digit n) = true ∧ value (digit n) = n)
    (by decide) h

/-! ## Strings -/

/-- Two characters. -/
theorem dataLoop_pair (c d : UInt8) (rest : List UInt8) :
    dataLoop (c :: d :: rest)
      = if isxdigit c = true ∧ isxdigit d = true then
          (dataLoop rest).map ((value c <<< 4 ||| value d) :: ·)
        else .error invalidHexstring := by
  rw [dataLoop, highDigit_eq]
  by_cases hc : isxdigit c = true
  · by_cases hd : isxdigit d = true
    · simp only [hc, hd, lowDigit_eq, and_self, if_true]
      cases dataLoop rest <;> rfl
    · rw [if_pos hc, if_neg (fun h => hd h.2)]
      simp only [lowDigit_eq, if_neg hd]
      rfl
  · rw [if_neg hc, if_neg (fun h => hc h.1)]
    rfl

/-- Every pair of digits is read back. -/
theorem dataLoop_hexstringLoop (data : List UInt8) : dataLoop (hexstringLoop data) = .ok data := by
  induction data with
  | nil => rfl
  | cons b data ih =>
    have hmask : (b >>> 4) &&& (0xf : UInt8) = b >>> 4 :=
      Nibbles.forall_byte (P := fun b => (b >>> 4) &&& (0xf : UInt8) = b >>> 4)
        (by decide +kernel) b
    obtain ⟨hhi, hvhi⟩ := digit_spec (Nibbles.high_lt b)
    obtain ⟨hlo, hvlo⟩ := digit_spec (Nibbles.low_lt b)
    rw [hexstringLoop, dataLoop_pair, hmask, if_pos ⟨hhi, hlo⟩, ih, hvhi, hvlo,
      Nibbles.high_or_low]
    rfl

theorem even_tail {c d : UInt8} {rest : List UInt8} (h : (c :: d :: rest).length % 2 = 0) :
    rest.length % 2 = 0 := by
  simp only [List.length_cons] at h
  omega

/-- What is read is written in lower case. -/
theorem hexstringLoop_of_dataLoop {h data : List UInt8} (heven : h.length % 2 = 0)
    (hok : dataLoop h = .ok data) : hexstringLoop data = h.map lower := by
  induction h using dataLoop.induct generalizing data with
  | case1 =>
    cases hok
    rfl
  | case2 c => simp at heven
  | case3 c d rest ih =>
    rw [dataLoop_pair] at hok
    split at hok
    · next hdigits =>
      cases hrest : dataLoop rest with
      | error e => simp [hrest, Except.map] at hok
      | ok bytes =>
        simp only [hrest, Except.map, Except.ok.injEq] at hok
        subst hok
        obtain ⟨hlt, hc⟩ := value_spec c hdigits.1
        obtain ⟨hlt', hd⟩ := value_spec d hdigits.2
        obtain ⟨hhi, hlo⟩ := Nibbles.halves_of_or hlt hlt'
        have hmask : value c &&& (0xf : UInt8) = value c := Nibbles.forall_nibble
          (P := fun n => n &&& (0xf : UInt8) = n) (by decide) hlt
        have heven' := even_tail heven
        rw [hexstringLoop, hhi, hlo, hmask, hc, hd, ih heven' hrest]
        rfl
    · cases hok

/-- The loop fails at the first character that is no digit. -/
theorem dataLoop_eq_error_iff {h : List UInt8} (heven : h.length % 2 = 0) (e : InvalidArgument) :
    dataLoop h = .error e ↔ e = invalidHexstring ∧ ∃ c ∈ h, isxdigit c = false := by
  induction h using dataLoop.induct with
  | case1 => simp [dataLoop]
  | case2 c => simp at heven
  | case3 c d rest ih =>
    have heven' := even_tail heven
    rw [dataLoop_pair]
    split
    · next hdigits =>
      have hmap : (dataLoop rest).map ((value c <<< 4 ||| value d) :: ·) = .error e
          ↔ dataLoop rest = .error e := by
        cases dataLoop rest <;> simp [Except.map]
      rw [hmap, ih heven']
      simp [hdigits]
    · next hdigits =>
      have hex : ∃ x ∈ c :: d :: rest, isxdigit x = false := by
        cases hc : isxdigit c with
        | false => exact ⟨c, by simp, hc⟩
        | true => exact ⟨d, by simp, by simpa [hc] using hdigits⟩
      simp only [Except.error.injEq, hex, and_true]
      exact eq_comm

theorem dataFromHexstring_eq_error_iff (h : List UInt8) (e : InvalidArgument) :
    dataFromHexstring h = .error e
      ↔ (h.length % 2 = 1 ∧ e = invalidLength)
        ∨ (h.length % 2 = 0 ∧ e = invalidHexstring ∧ ∃ c ∈ h, isxdigit c = false) := by
  unfold dataFromHexstring
  rcases Nat.mod_two_eq_zero_or_one h.length with heven | hodd
  · rw [if_neg (by omega)]
    split
    · next hnil =>
      obtain rfl := List.length_eq_zero_iff.mp hnil
      simp
    · rw [dataLoop_eq_error_iff heven]
      simp [heven]
  · rw [if_pos (by omega)]
    simp [hodd, @eq_comm _ invalidLength]

/-- Every byte string is read back from its hexadecimal text. `data_from_hexstring` throws
exactly for an odd length and for a character that is no digit; otherwise the text of the
result is the argument in lower case. -/
theorem hexstring_roundTrip :
    (∀ data, dataFromHexstring (hexstringFromData data) = .ok data)
      ∧ (∀ h, (∃ e, dataFromHexstring h = .error e)
          ↔ h.length % 2 = 1 ∨ ∃ c ∈ h, isxdigit c = false)
      ∧ ∀ h data, dataFromHexstring h = .ok data → hexstringFromData data = h.map lower := by
  refine ⟨?_, ?_, ?_⟩
  · intro data
    cases data with
    | nil => rfl
    | cons b data =>
      have hloop := dataLoop_hexstringLoop (b :: data)
      have heven : ∀ l, (hexstringLoop l).length % 2 = 0 := by
        intro l
        induction l with
        | nil => rfl
        | cons x l ih =>
          simp only [hexstringLoop, List.length_cons]
          omega
      rw [hexstringFromData, if_neg (by simp), dataFromHexstring, heven, if_neg (by simp),
        if_neg (by simp [hexstringLoop]), hloop]
  · intro h
    simp only [dataFromHexstring_eq_error_iff]
    rcases Nat.mod_two_eq_zero_or_one h.length with heven | hodd
    · simp [heven]
    · simp [hodd]
  · intro h data hok
    unfold dataFromHexstring at hok
    split at hok
    · cases hok
    · next heven =>
      split at hok
      · next hnil =>
        cases hok
        rw [List.length_eq_zero_iff.mp hnil]
        rfl
      · next hne =>
        have hloop := hexstringLoop_of_dataLoop (by omega) hok
        cases data with
        | nil =>
          rw [hexstringLoop] at hloop
          rw [← hloop]
          rfl
        | cons b data => rw [hexstringFromData, if_neg (by simp), hloop]

/-- Both cases of the digits. -/
example : dataFromHexstring [97, 66, 57, 70] = .ok [0xab, 0x9f]
    ∧ hexstringFromData [0xab, 0x9f] = [97, 98, 57, 102] := ⟨rfl, rfl⟩

end Hex

end HrServer.Util
