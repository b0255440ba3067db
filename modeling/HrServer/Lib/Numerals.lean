/-
HrServer.Lib.Numerals — integers as byte strings.

`toLe k n` is the `k`-byte little-endian image of `n` and `ofLe` reads one
back; `byteSwap` reverses the image of a `k`-byte integer. `varint` is the
base-128 code: seven payload bits a byte, low group first, the top bit set
on every byte but the last. `zigzag` folds a signed integer into an
unsigned one, so that small magnitudes get small codes.
-/
import Mathlib.Data.Nat.Bitwise
import Mathlib.Data.BitVec
import Mathlib.Data.List.Basic

namespace HrServer.Lib

/-! ## Fixed width -/

/-- The low `k` bytes of `n`, lowest first. -/
def toLe : Nat → Nat → List UInt8
  | 0, _ => []
  | k + 1, n => UInt8.ofNat (n % 256) :: toLe k (n / 256)

/-- The integer whose bytes, lowest first, are given. -/
def ofLe : List UInt8 → Nat
  | [] => 0
  | b :: bs => b.toNat + 256 * ofLe bs

/-- A `k`-byte integer with its bytes in the opposite order. -/
def byteSwap (k n : Nat) : Nat := ofLe (toLe k n).reverse

@[simp] theorem length_toLe (k n : Nat) : (toLe k n).length = k := by
  induction k generalizing n with
  | zero => rfl
  | succ k ih => simp [toLe, ih]

theorem ofLe_toLe (k n : Nat) (h : n < 256 ^ k) : ofLe (toLe k n) = n := by
  induction k generalizing n with
  | zero => simp at h; simp [toLe, ofLe, h]
  | succ k ih =>
    have hq : n / 256 < 256 ^ k := by
      rw [Nat.div_lt_iff_lt_mul (by decide), ← Nat.pow_succ]; exact h
    have hb : (UInt8.ofNat (n % 256)).toNat = n % 256 := by
      rw [UInt8.toNat_ofNat']; omega
    rw [toLe, ofLe, ih _ hq, hb]
    exact Nat.mod_add_div n 256

theorem toLe_ofLe (bs : List UInt8) : toLe bs.length (ofLe bs) = bs := by
  induction bs with
  | nil => rfl
  | cons b bs ih =>
    have hlt := b.toNat_lt
    have hb : (b.toNat + 256 * ofLe bs) % 256 = b.toNat := by omega
    have hq : (b.toNat + 256 * ofLe bs) / 256 = ofLe bs := by omega
    rw [List.length_cons, ofLe, toLe, hb, hq, ih, UInt8.ofNat_toNat]

theorem ofLe_lt (bs : List UInt8) : ofLe bs < 256 ^ bs.length := by
  induction bs with
  | nil => simp [ofLe]
  | cons b bs ih =>
    have hb := b.toNat_lt
    rw [ofLe, List.length_cons, Nat.pow_succ]
    omega

/-- The image of a swapped integer is the reversed image. -/
theorem toLe_byteSwap (k n : Nat) : toLe k (byteSwap k n) = (toLe k n).reverse := by
  have h := toLe_ofLe (toLe k n).reverse
  rwa [List.length_reverse, length_toLe] at h

/-- Swapping what was read is reading the reversed bytes. -/
theorem byteSwap_ofLe (bs : List UInt8) : byteSwap bs.length (ofLe bs) = ofLe bs.reverse := by
  rw [byteSwap, toLe_ofLe]

/-! ## Base 128 -/

/-- The base-128 code of `n` when it needs at most `room` bytes. -/
def varint : Nat → Nat → Option (List UInt8)
  | 0, _ => none
  | room + 1, n =>
    if n ≥ 0x80 then
      (varint room (n >>> 7)).map (UInt8.ofNat ((n &&& 0x7F) ||| 0x80) :: ·)
    else some [UInt8.ofNat n]

theorem shiftRight_seven (n : Nat) : n >>> 7 = n / 128 := Nat.shiftRight_eq_div_pow n 7

/-- The payload of a byte with the top bit set. -/
theorem or_0x80 (n : Nat) : (n &&& 0x7F) ||| 0x80 = n % 128 + 128 := by
  have hand : n &&& 0x7F = n % 128 := Nat.and_two_pow_sub_one_eq_mod n 7
  rw [hand, Nat.or_comm]
  have h := Nat.two_pow_add_eq_or_of_lt (i := 7) (Nat.mod_lt n (by decide : 0 < 2 ^ 7)) 1
  rw [Nat.mul_one] at h
  rw [← h]
  omega

/-- `room` bytes are enough below `128 ^ room`, and at least one is used. -/
theorem varint_isSome (room n : Nat) (h : n < 128 ^ (room + 1)) :
    ∃ bs, varint (room + 1) n = some bs ∧ bs ≠ [] := by
  induction room generalizing n with
  | zero =>
    have : ¬ n ≥ 0x80 := by omega
    exact ⟨_, by rw [varint, if_neg this], by simp⟩
  | succ room ih =>
    by_cases hn : n ≥ 0x80
    · have hq : n >>> 7 < 128 ^ (room + 1) := by
        rw [shiftRight_seven, Nat.div_lt_iff_lt_mul (by decide), ← Nat.pow_succ]; exact h
      obtain ⟨bs, hbs, -⟩ := ih _ hq
      exact ⟨_, by rw [varint, if_pos hn, hbs, Option.map_some], by simp⟩
    · exact ⟨_, by rw [varint, if_neg hn], by simp⟩

/-- The number whose groups of seven bits, lowest first, are given; the top bits of the
bytes are not looked at. -/
def base128 : List UInt8 → Nat
  | [] => 0
  | b :: bs => b.toNat % 128 + 128 * base128 bs

theorem base128_concat (init : List UInt8) (last : UInt8) :
    base128 (init ++ [last]) = base128 init + last.toNat % 128 * 2 ^ (7 * init.length) := by
  induction init with
  | nil => simp [base128]
  | cons b init ih =>
    have hpow : 2 ^ (7 * (init.length + 1)) = 128 * 2 ^ (7 * init.length) := by
      rw [Nat.mul_succ, Nat.pow_add, Nat.mul_comm]
    rw [List.cons_append, base128, ih, base128, List.length_cons, hpow, Nat.mul_add,
      ← Nat.add_assoc, Nat.mul_left_comm]

/-- A complete code: the top bit is set on every byte but the last. -/
def Terminated (bs : List UInt8) : Prop :=
  ∃ init last, bs = init ++ [last] ∧ (∀ b ∈ init, 0x80 ≤ b.toNat) ∧ last.toNat < 0x80

/-- A byte string starts with a complete code of at most `room` bytes, or with `room`
bytes that all want another one, or it ends too early. -/
theorem terminated_or (room : Nat) (bs : List UInt8) :
    (∃ code rest, bs = code ++ rest ∧ code.length ≤ room ∧ Terminated code)
      ∨ (∃ code rest, bs = code ++ rest ∧ code.length = room ∧ ∀ b ∈ code, 0x80 ≤ b.toNat)
      ∨ (bs.length < room ∧ ∀ b ∈ bs, 0x80 ≤ b.toNat) := by
  induction room generalizing bs with
  | zero => exact .inr (.inl ⟨[], bs, rfl, rfl, by simp⟩)
  | succ room ih =>
    cases bs with
    | nil => exact .inr (.inr ⟨by simp, by simp⟩)
    | cons b bs =>
      by_cases hb : b.toNat < 0x80
      · exact .inl ⟨[b], bs, rfl, by simp, [], b, rfl, by simp, hb⟩
      · have hall : ∀ {code : List UInt8}, (∀ c ∈ code, 0x80 ≤ c.toNat) →
            ∀ c ∈ b :: code, 0x80 ≤ c.toNat := by
          intro code hcode c hc
          rcases List.mem_cons.mp hc with rfl | hc
          · omega
          · exact hcode c hc
        rcases ih bs with ⟨code, rest, rfl, hlen, init, last, rfl, hinit, hlast⟩
          | ⟨code, rest, rfl, hlen, hcode⟩ | ⟨hlen, hcode⟩
        · refine .inl ⟨b :: (init ++ [last]), rest, rfl, by simpa using hlen, b :: init, last, rfl,
            hall hinit, hlast⟩
        · exact .inr (.inl ⟨b :: code, rest, rfl, by simp [hlen], hall hcode⟩)
        · exact .inr (.inr ⟨by simpa using hlen, hall hcode⟩)

/-- A code in its shortest form: the top bit is set on every byte but the last, and the
last group of seven bits is zero only when it is the only one. -/
def Canonical (bs : List UInt8) : Prop :=
  ∃ init last, bs = init ++ [last] ∧ (∀ b ∈ init, 0x80 ≤ b.toNat) ∧ last.toNat < 0x80
    ∧ (init ≠ [] → last.toNat ≠ 0)

theorem varint_length_le {room n : Nat} {bs : List UInt8} (h : varint room n = some bs) :
    bs.length ≤ room := by
  induction room generalizing n bs with
  | zero => simp [varint] at h
  | succ room ih =>
    rw [varint] at h
    split at h
    · obtain ⟨tail, htail, rfl⟩ := Option.map_eq_some_iff.mp h
      simpa using ih htail
    · cases h
      simp

/-- The last group of a positive number is not zero. -/
theorem varint_canonical {room n : Nat} {bs : List UInt8} (h : varint room n = some bs) :
    Canonical bs ∧ (0 < n → ∃ init last, bs = init ++ [last] ∧ last.toNat ≠ 0) := by
  induction room generalizing n bs with
  | zero => simp [varint] at h
  | succ room ih =>
    rw [varint] at h
    split at h
    · next hn =>
      obtain ⟨tail, htail, rfl⟩ := Option.map_eq_some_iff.mp h
      obtain ⟨⟨init, last, rfl, htop, hlast, -⟩, hpos⟩ := ih htail
      have hbyte : (UInt8.ofNat ((n &&& 0x7F) ||| 0x80)).toNat = n % 128 + 128 := by
        rw [or_0x80, UInt8.toNat_ofNat']
        omega
      have hne : last.toNat ≠ 0 := by
        obtain ⟨init', last', heq, hne⟩ := hpos (by rw [shiftRight_seven]; omega)
        rw [(List.append_inj' heq rfl).2 |> List.singleton_inj.mp]
        exact hne
      refine ⟨⟨_ :: init, last, rfl, ?_, hlast, fun _ => hne⟩, fun _ => ⟨_ :: init, last, rfl, hne⟩⟩
      intro b hb
      rcases List.mem_cons.mp hb with rfl | hb
      · rw [hbyte]
        omega
      · exact htop b hb
    · next hn =>
      cases h
      have hbyte : (UInt8.ofNat n).toNat = n := by
        rw [UInt8.toNat_ofNat']
        omega
      exact ⟨⟨[], _, rfl, by simp, by omega, by simp⟩, fun hpos => ⟨[], _, rfl, by omega⟩⟩

/-! ## Zigzag -/

/-- Non-negative integers to the even numbers, negative ones to the odd. -/
def zigzag {w : Nat} (x : BitVec w) : BitVec w := if x.msb then -x * 2#w - 1#w else x * 2#w

/-- The inverse of `zigzag`: halve, and complement when the code is odd. -/
def unzigzag {w : Nat} (e : BitVec w) : BitVec w := (e >>> 1) ^^^ -(e &&& 1#w)

theorem unzigzag_even {w : Nat} {e : BitVec w} {y : Nat} (hw : 1 < w) (he : e.toNat = 2 * y) :
    (unzigzag e).toNat = y := by
  have h1 : (1#w).toNat = 1 := by
    rw [BitVec.toNat_ofNat, Nat.mod_eq_of_lt (Nat.one_lt_two_pow (by omega))]
  have hand : e &&& 1#w = 0#w := by
    apply BitVec.eq_of_toNat_eq
    rw [BitVec.toNat_and, h1, he, Nat.and_one_is_mod]
    simp
  rw [unzigzag, hand]
  simp [he, Nat.shiftRight_eq_div_pow]

theorem unzigzag_odd {w : Nat} {e : BitVec w} {y : Nat} (hw : 1 < w) (he : e.toNat = 2 * y + 1) :
    (unzigzag e).toNat = 2 ^ w - 1 - y := by
  have h1 : (1#w).toNat = 1 := by
    rw [BitVec.toNat_ofNat, Nat.mod_eq_of_lt (Nat.one_lt_two_pow (by omega))]
  have hand : e &&& 1#w = 1#w := by
    apply BitVec.eq_of_toNat_eq
    rw [BitVec.toNat_and, h1, he, Nat.and_one_is_mod]
    omega
  rw [unzigzag, hand, BitVec.neg_one_eq_allOnes, BitVec.xor_allOnes, BitVec.toNat_not]
  simp only [BitVec.toNat_ushiftRight, he, Nat.shiftRight_eq_div_pow]
  congr 1
  omega

/-- Folding and unfolding returns the integer, the minimum included. -/
theorem unzigzag_zigzag {w : Nat} (hw : 1 < w) (x : BitVec w) : unzigzag (zigzag x) = x := by
  have hlt := x.isLt
  have hpow : 2 ^ w = 2 * 2 ^ (w - 1) := by rw [← Nat.pow_succ']; congr 1; omega
  have hbig : 2 ≤ 2 ^ (w - 1) := by
    calc 2 = 2 ^ 1 := rfl
      _ ≤ 2 ^ (w - 1) := Nat.pow_le_pow_right (by decide) (by omega)
  have h2 : (2#w).toNat = 2 := by
    rw [BitVec.toNat_ofNat, Nat.mod_eq_of_lt (by omega)]
  have h1 : (1#w).toNat = 1 := by
    rw [BitVec.toNat_ofNat, Nat.mod_eq_of_lt (by omega)]
  apply BitVec.eq_of_toNat_eq
  unfold zigzag
  cases hm : x.msb with
  | false =>
    have hx : x.toNat < 2 ^ (w - 1) := by
      have := BitVec.msb_eq_false_iff_two_mul_lt.mp hm
      omega
    rw [if_neg (by simp), unzigzag_even hw]
    rw [BitVec.toNat_mul, h2, Nat.mod_eq_of_lt (by omega), Nat.mul_comm]
  | true =>
    have hx : 2 ^ (w - 1) ≤ x.toNat := by
      have := BitVec.msb_eq_true_iff_two_mul_ge.mp hm
      omega
    have hneg : (-x).toNat = 2 ^ w - x.toNat := by
      rw [BitVec.toNat_neg, Nat.mod_eq_of_lt (by omega)]
    rw [if_pos rfl, unzigzag_odd (y := 2 ^ w - x.toNat - 1) hw]
    · omega
    · rw [BitVec.toNat_sub, BitVec.toNat_mul, h1, h2, hneg]
      have hc : (2 ^ w - x.toNat) * 2 ≤ 2 ^ w := by omega
      rcases Nat.lt_or_eq_of_le hc with hc | hc
      · have hsum : 2 ^ w - 1 + (2 ^ w - x.toNat) * 2 = (2 ^ w - x.toNat) * 2 - 1 + 2 ^ w := by
          omega
        rw [Nat.mod_eq_of_lt hc, hsum, Nat.add_mod_right, Nat.mod_eq_of_lt (by omega)]
        omega
      · rw [hc, Nat.mod_self, Nat.add_zero, Nat.mod_eq_of_lt (by omega)]
        omega

end HrServer.Lib
