/-
HrServer.Lib.Ipv6 — IPv6 addresses as text, by the grammar of RFC 4291.

An address is eight groups of one to four hexadecimal digits between
colons. `::`, at most once, stands for one or more groups that are zero,
and the last two groups may be written as a dotted quad. `readIpv6` reads
such a text. `joinGroups` writes groups without compression;
`readIpv6_join` and `readIpv6_compressed` read it back alone and on the
two sides of a `::`.
-/
import HrServer.Lib.Digits

namespace HrServer.Lib.Ipv6

/-! ## The grammar -/

/-- One to four hexadecimal digits. -/
def hexPiece (piece : List UInt8) : Option Nat :=
  if piece.length ≤ 4 then readNumeral 16 piece else none

/-- One to three decimal digits, up to 255. -/
def decimalByte (piece : List UInt8) : Option Nat :=
  if piece.length ≤ 3 then (readNumeral 10 piece).filter (· ≤ 255) else none

/-- `d.d.d.d`, which stands for two groups. -/
def dottedQuad (piece : List UInt8) : Option (List Nat) :=
  match (piece.splitOn 46).mapM decimalByte with
  | some [a, b, c, d] => some [a * 256 + b, c * 256 + d]
  | _ => none

/-- The groups of the pieces between the colons; the last piece may be a dotted quad. -/
def readPieces : List (List UInt8) → Option (List Nat)
  | [] => some []
  | [piece] =>
    match hexPiece piece with
    | some g => some [g]
    | none => dottedQuad piece
  | piece :: piece' :: pieces => do
    let g ← hexPiece piece
    let gs ← readPieces (piece' :: pieces)
    some (g :: gs)

/-- What is before and behind the first `::`. -/
def splitDouble : List UInt8 → Option (List UInt8 × List UInt8)
  | [] | [_] => none
  | c :: d :: rest =>
    if c = 58 ∧ d = 58 then some ([], rest)
    else (splitDouble (d :: rest)).map fun sides => (c :: sides.1, sides.2)

/-- The number of places where `::` stands. -/
def doubleColons : List UInt8 → Nat
  | [] | [_] => 0
  | c :: d :: rest => (if c = 58 ∧ d = 58 then 1 else 0) + doubleColons (d :: rest)

/-- The groups before a `::`. -/
def readLeft (text : List UInt8) : Option (List Nat) :=
  if text = [] then some [] else (text.splitOn 58).mapM hexPiece

/-- The groups behind a `::`. -/
def readRight (text : List UInt8) : Option (List Nat) :=
  if text = [] then some [] else readPieces (text.splitOn 58)

/-- The groups a text denotes. -/
def readIpv6 (text : List UInt8) : Option (List Nat) :=
  match splitDouble text with
  | none => (readPieces (text.splitOn 58)).filter (·.length = 8)
  | some (left, right) => do
    let ls ← readLeft left
    let rs ← readRight right
    if ls.length + rs.length < 8 then
      some (ls ++ List.replicate (8 - (ls.length + rs.length)) 0 ++ rs)
    else none

/-! ## Groups between colons -/

/-- The groups in hexadecimal, with colons between them. -/
def joinGroups (gs : List Nat) : List UInt8 := [58].intercalate (gs.map (numeral 16))

section join

variable {g : Nat} {gs : List Nat}

@[simp] theorem joinGroups_nil : joinGroups [] = [] := rfl

theorem joinGroups_cons (hne : gs ≠ []) :
    joinGroups (g :: gs) = numeral 16 g ++ 58 :: joinGroups gs := by
  rw [joinGroups, List.map_cons, List.intercalate_cons_of_ne_nil (by simpa using hne)]
  simp [joinGroups]

@[simp] theorem joinGroups_singleton (g : Nat) : joinGroups [g] = numeral 16 g := by
  simp [joinGroups]

theorem joinGroups_concat (hne : gs ≠ []) (g : Nat) :
    joinGroups (gs ++ [g]) = joinGroups gs ++ 58 :: numeral 16 g := by
  induction gs with
  | nil => exact absurd rfl hne
  | cons h gs ih =>
    cases gs with
    | nil => simp [joinGroups_cons]
    | cons k gs =>
      rw [List.cons_append, joinGroups_cons (by simp), ih (by simp),
        joinGroups_cons (show k :: gs ≠ [] by simp)]
      simp

theorem numeral_no_colon (g : Nat) : 58 ∉ numeral 16 g := by
  intro h
  obtain ⟨d, hd, hc⟩ := mem_numeral (by decide) h
  have hall : ∀ d : Fin 16, (58 : UInt8) ≠ digitChar d := by decide
  exact hall ⟨d, hd⟩ hc

/-- The text of some groups starts with a digit. -/
theorem joinGroups_head (hne : gs ≠ []) : ∃ c rest, joinGroups gs = c :: rest ∧ c ≠ 58 := by
  obtain ⟨g, gs, rfl⟩ := List.exists_cons_of_ne_nil hne
  obtain ⟨c, cs, hcs⟩ := List.exists_cons_of_ne_nil (numeral_ne_nil (b := 16) (n := g))
  have hc : c ≠ 58 := fun h => numeral_no_colon g (by rw [hcs, h]; exact List.mem_cons_self)
  cases gs with
  | nil => exact ⟨c, cs, by rw [joinGroups_singleton, hcs], hc⟩
  | cons h gs => exact ⟨c, _, by rw [joinGroups_cons (by simp), hcs, List.cons_append], hc⟩

/-- The text of some groups is made of digits and colons. -/
theorem not_mem_joinGroups {c : UInt8} (hc : charDigit c = none) (hcolon : c ≠ 58)
    (gs : List Nat) : c ∉ joinGroups gs := by
  induction gs with
  | nil => simp
  | cons g gs ih =>
    have hg : c ∉ numeral 16 g := fun h => by
      obtain ⟨d, hd, rfl⟩ := mem_numeral (by decide) h
      rw [charDigit_digitChar hd] at hc
      cases hc
    cases gs with
    | nil => rwa [joinGroups_singleton]
    | cons h gs =>
      rw [joinGroups_cons (by simp), List.mem_append, List.mem_cons]
      tauto

theorem hexPiece_numeral (hg : g < 2 ^ 16) : hexPiece (numeral 16 g) = some g := by
  have hlen : (numeral 16 g).length ≤ 4 :=
    length_numeral_le (by decide) (by decide) (by simpa using hg)
  rw [hexPiece, if_pos hlen, readNumeral_numeral (by decide) (by decide)]

theorem splitOn_joinGroups (hne : gs ≠ []) :
    (joinGroups gs).splitOn 58 = gs.map (numeral 16) := by
  refine List.splitOn_intercalate 58 (fun piece h => ?_) (by simpa using hne)
  obtain ⟨g, -, rfl⟩ := List.mem_map.mp h
  exact numeral_no_colon g

theorem readPieces_numerals (hgs : ∀ g ∈ gs, g < 2 ^ 16) :
    readPieces (gs.map (numeral 16)) = some gs := by
  induction gs with
  | nil => rfl
  | cons g gs ih =>
    rw [List.forall_mem_cons] at hgs
    cases gs with
    | nil => simp [readPieces, hexPiece_numeral hgs.1]
    | cons h gs =>
      have hrest := ih hgs.2
      rw [List.map_cons] at hrest
      simp only [List.map_cons, readPieces, hexPiece_numeral hgs.1, hrest]
      rfl

theorem mapM_hexPiece (hgs : ∀ g ∈ gs, g < 2 ^ 16) :
    (gs.map (numeral 16)).mapM hexPiece = some gs := by
  induction gs with
  | nil => rfl
  | cons g gs ih =>
    rw [List.forall_mem_cons] at hgs
    rw [List.map_cons, List.mapM_cons, hexPiece_numeral hgs.1, ih hgs.2]
    rfl

/-! ## Texts with `::` -/

theorem splitDouble_append {piece : List UInt8} (h : 58 ∉ piece) (rest : List UInt8) :
    splitDouble (piece ++ rest)
      = (splitDouble rest).map fun sides => (piece ++ sides.1, sides.2) := by
  induction piece with
  | nil => simp
  | cons c piece ih =>
    rw [List.mem_cons, not_or] at h
    have hrest := ih h.2
    rw [List.cons_append]
    cases hpr : piece ++ rest with
    | nil =>
      obtain ⟨-, rfl⟩ := List.append_eq_nil_iff.mp hpr
      rfl
    | cons d tail =>
      rw [splitDouble, if_neg fun hc => h.1 hc.1.symm, ← hpr, hrest, Option.map_map]
      rfl

theorem splitDouble_colon {d : UInt8} (hd : d ≠ 58) (rest : List UInt8) :
    splitDouble (58 :: d :: rest)
      = (splitDouble (d :: rest)).map fun sides => (58 :: sides.1, sides.2) := by
  rw [splitDouble, if_neg fun hc => hd hc.2]

/-- The first `::` is not inside groups without compression, nor at their end. -/
theorem splitDouble_join (gs : List Nat) (rest : List UInt8) :
    splitDouble (joinGroups gs ++ rest)
      = (splitDouble rest).map fun sides => (joinGroups gs ++ sides.1, sides.2) := by
  induction gs with
  | nil => simp
  | cons g gs ih =>
    cases gs with
    | nil => rw [joinGroups_singleton, splitDouble_append (numeral_no_colon g)]
    | cons h gs =>
      obtain ⟨c, tail, hjoin, hc⟩ := joinGroups_head (show h :: gs ≠ [] by simp)
      have hcolon := splitDouble_colon hc (tail ++ rest)
      rw [← List.cons_append, ← hjoin, ih, Option.map_map] at hcolon
      rw [joinGroups_cons (by simp), List.append_assoc, List.cons_append,
        splitDouble_append (numeral_no_colon g), hcolon, Option.map_map]
      simp [Function.comp_def]

theorem doubleColons_append {piece : List UInt8} (h : 58 ∉ piece) (rest : List UInt8) :
    doubleColons (piece ++ rest) = doubleColons rest := by
  induction piece with
  | nil => simp
  | cons c piece ih =>
    rw [List.mem_cons, not_or] at h
    have hrest := ih h.2
    rw [List.cons_append]
    cases hpr : piece ++ rest with
    | nil =>
      obtain ⟨-, rfl⟩ := List.append_eq_nil_iff.mp hpr
      rfl
    | cons d tail =>
      rw [doubleColons, if_neg fun hc => h.1 hc.1.symm, ← hpr, hrest, Nat.zero_add]

theorem doubleColons_colon {d : UInt8} (hd : d ≠ 58) (rest : List UInt8) :
    doubleColons (58 :: d :: rest) = doubleColons (d :: rest) := by
  rw [doubleColons, if_neg fun hc => hd hc.2, Nat.zero_add]

theorem doubleColons_join (gs : List Nat) (rest : List UInt8) :
    doubleColons (joinGroups gs ++ rest) = doubleColons rest := by
  induction gs with
  | nil => simp
  | cons g gs ih =>
    cases gs with
    | nil => rw [joinGroups_singleton, doubleColons_append (numeral_no_colon g)]
    | cons h gs =>
      obtain ⟨c, tail, hjoin, hc⟩ := joinGroups_head (show h :: gs ≠ [] by simp)
      have hcolon := doubleColons_colon hc (tail ++ rest)
      rw [← List.cons_append, ← hjoin, ih] at hcolon
      rw [joinGroups_cons (by simp), List.append_assoc, List.cons_append,
        doubleColons_append (numeral_no_colon g), hcolon]

/-- Groups without compression have no `::`. -/
theorem doubleColons_joinGroups (gs : List Nat) : doubleColons (joinGroups gs) = 0 := by
  have h := doubleColons_join gs []
  rwa [List.append_nil] at h

/-- Groups on the two sides of a `::` have one. -/
theorem doubleColons_compressed (ls rs : List Nat) :
    doubleColons (joinGroups ls ++ 58 :: 58 :: joinGroups rs) = 1 := by
  have htail : doubleColons (58 :: joinGroups rs) = 0 := by
    cases rs with
    | nil => rfl
    | cons r rs =>
      obtain ⟨c, tail, hjoin, hc⟩ := joinGroups_head (show r :: rs ≠ [] by simp)
      rw [hjoin, doubleColons_colon hc, ← hjoin, doubleColons_joinGroups]
  rw [doubleColons_join, doubleColons, htail]
  rfl

/-- Eight groups without compression read back. -/
theorem readIpv6_join (hlen : gs.length = 8) (hgs : ∀ g ∈ gs, g < 2 ^ 16) :
    readIpv6 (joinGroups gs) = some gs := by
  have hne : gs ≠ [] := List.ne_nil_of_length_eq_add_one hlen
  have hsplit := splitDouble_join gs []
  rw [List.append_nil] at hsplit
  rw [readIpv6, hsplit]
  simp [splitDouble, splitOn_joinGroups hne, readPieces_numerals hgs, hlen]

theorem joinGroups_eq_nil : joinGroups gs = [] ↔ gs = [] := by
  constructor
  · intro h
    by_contra hne
    obtain ⟨c, rest, hjoin, -⟩ := joinGroups_head hne
    rw [hjoin] at h
    cases h
  · rintro rfl
    rfl

theorem readLeft_join (hgs : ∀ g ∈ gs, g < 2 ^ 16) : readLeft (joinGroups gs) = some gs := by
  by_cases hne : gs = []
  · subst hne
    rfl
  · rw [readLeft, if_neg (joinGroups_eq_nil.not.mpr hne), splitOn_joinGroups hne,
      mapM_hexPiece hgs]

theorem readRight_join (hgs : ∀ g ∈ gs, g < 2 ^ 16) : readRight (joinGroups gs) = some gs := by
  by_cases hne : gs = []
  · subst hne
    rfl
  · rw [readRight, if_neg (joinGroups_eq_nil.not.mpr hne), splitOn_joinGroups hne,
      readPieces_numerals hgs]

/-- Groups on the two sides of a `::` read back, with zeros for the missing ones. -/
theorem readIpv6_compressed {ls rs : List Nat} (hlen : ls.length + rs.length < 8)
    (hls : ∀ g ∈ ls, g < 2 ^ 16) (hrs : ∀ g ∈ rs, g < 2 ^ 16) :
    readIpv6 (joinGroups ls ++ 58 :: 58 :: joinGroups rs)
      = some (ls ++ List.replicate (8 - (ls.length + rs.length)) 0 ++ rs) := by
  rw [readIpv6, splitDouble_join]
  simp [splitDouble, readLeft_join hls, readRight_join hrs, hlen]

end join

end HrServer.Lib.Ipv6
