/-
HrServer.Net.Ipv6Text — the text of an IPv6 address, from
`IPv6Address::insert` and `IPv6Address::Create` of `sylar/address.cc`.

The loop of `insert` leaves out zero groups until it has written the
colons of a `::`. So it goes through three phases: the groups before the
first zero, the run of zeros that starts there, and, when something
follows the run, the rest of the groups, zeros among them. `insert_phases`
gives the text of each; a run at the end is written behind the loop.
`insert_denotes` reads the text back by the grammar of RFC 4291, as
`inet_pton` does.
-/
import HrServer.Lib.Ipv6
import HrServer.Net.Address

namespace HrServer.Net.IPv6Address

open Http (Bytes)
open Lib (numeral)
open Lib.Ipv6

/-! ## The loop -/

section loop

variable (addr : Nat → UInt16)

/-- The value of a group, in the order of the host. -/
def group (i : Nat) : Nat := (byteswap16 (addr i)).toNat

/-- The groups from `i` on, `n` of them. -/
def groupsFrom (i n : Nat) : List Nat := (List.range' i n).map (group addr)

variable {addr} {i k m n : Nat}

theorem groupsFrom_succ (i n : Nat) :
    groupsFrom addr i (n + 1) = groupsFrom addr i n ++ [group addr (i + n)] := by
  simp [groupsFrom, List.range'_concat]

theorem groupsFrom_ne_nil (h : 0 < n) : groupsFrom addr i n ≠ [] := by
  simp [groupsFrom]
  omega

/-- Before the first zero, the groups are written with colons between them. -/
theorem insertLoop_nonzero (h : ∀ j < n, addr j ≠ 0) :
    insertLoop addr n = { text := joinGroups (groupsFrom addr 0 n), usedZeros := false } := by
  induction n with
  | zero => rfl
  | succ n ih =>
    rw [insertLoop, ih fun j hj => h j (by omega)]
    have hn := h n (by omega)
    cases n with
    | zero => simp [insertTurn, hn, groupsFrom, group]
    | succ n =>
      have hprev := h n (by omega)
      rw [groupsFrom_succ 0 (n + 1), joinGroups_concat (groupsFrom_ne_nil (by omega))]
      simp [insertTurn, hn, hprev, group]

/-- The first run of zeros writes nothing. -/
theorem insertLoop_zeros (h : ∀ j < k, addr j ≠ 0) (hzero : ∀ j, k ≤ j → j < k + n → addr j = 0) :
    insertLoop addr (k + n)
      = { text := joinGroups (groupsFrom addr 0 k), usedZeros := false } := by
  induction n with
  | zero => exact insertLoop_nonzero h
  | succ n ih =>
    rw [← Nat.add_assoc, insertLoop, ih fun j hj hj' => hzero j hj (by omega)]
    simp [insertTurn, hzero (k + n) (by omega) (by omega)]

/-- Behind the run, two colons and all the groups are written. -/
theorem insertLoop_behind (h : ∀ j < k, addr j ≠ 0)
    (hzero : ∀ j, k ≤ j → j < k + n → addr j = 0) (hn : 0 < n) (hm : addr (k + n) ≠ 0) (m : Nat) :
    insertLoop addr (k + n + (m + 1))
      = { text := joinGroups (groupsFrom addr 0 k) ++ 58 :: 58
            :: joinGroups (groupsFrom addr (k + n) (m + 1)), usedZeros := true } := by
  induction m with
  | zero =>
    have hprev : addr (k + n - 1) = 0 := hzero _ (by omega) (by omega)
    rw [← Nat.add_assoc, Nat.add_zero, insertLoop, insertLoop_zeros h hzero]
    have hpos : ¬ (k = 0 ∧ n = 0) := by omega
    simp [insertTurn, hm, hprev, hpos, groupsFrom, group]
  | succ m ih =>
    rw [← Nat.add_assoc, insertLoop, ih, groupsFrom_succ (k + n) (m + 1),
      joinGroups_concat (groupsFrom_ne_nil (by omega))]
    simp [insertTurn, group]

/-- A number below 8 is where the first run of zeros starts, if there is one; the run ends
before the next group that is not zero. -/
theorem zero_run (h : ∃ j, j < 8 ∧ addr j = 0) :
    ∃ k n, (∀ j < k, addr j ≠ 0) ∧ (∀ j, k ≤ j → j < k + n → addr j = 0) ∧ 0 < n ∧ k + n ≤ 8
      ∧ (k + n < 8 → addr (k + n) ≠ 0) := by
  classical
  let k := Nat.find h
  obtain ⟨hk, hzero⟩ : k < 8 ∧ addr k = 0 := Nat.find_spec h
  have hbefore : ∀ j < k, addr j ≠ 0 := fun j hj hz =>
    Nat.find_min h hj ⟨by omega, hz⟩
  have hend : ∃ n, 0 < n ∧ (k + n = 8 ∨ addr (k + n) ≠ 0) := ⟨8 - k, by omega, Or.inl (by omega)⟩
  let n := Nat.find hend
  obtain ⟨hn, hstop⟩ : 0 < n ∧ (k + n = 8 ∨ addr (k + n) ≠ 0) := Nat.find_spec hend
  have hrun : ∀ i, 0 < i → i < n → k + i ≠ 8 ∧ addr (k + i) = 0 := fun i hi hin => by
    have hmin := Nat.find_min hend hin
    tauto
  have hle : k + n ≤ 8 := by
    by_contra hgt
    exact (hrun (8 - k) (by omega) (by omega)).1 (by omega)
  refine ⟨k, n, hbefore, fun j hj hj' => ?_, hn, hle, fun hlt => hstop.resolve_left (by omega)⟩
  obtain ⟨i, rfl⟩ := Nat.exists_eq_add_of_le hj
  by_cases hi : i = 0
  · rw [hi]
    exact hzero
  · exact (hrun i (by omega) (by omega)).2

/-- What is written for the eight groups: all of them, or those on the two sides of a run of
zeros, with `::` between. -/
theorem insert_phases (addr : Nat → UInt16) :
    insertGroups addr = joinGroups (groupsFrom addr 0 8)
      ∨ ∃ k n r, k + n + r = 8 ∧ 0 < n ∧ (∀ j, k ≤ j → j < k + n → addr j = 0)
        ∧ insertGroups addr = joinGroups (groupsFrom addr 0 k) ++ 58 :: 58
            :: joinGroups (groupsFrom addr (k + n) r) := by
  by_cases h : ∃ j, j < 8 ∧ addr j = 0
  · obtain ⟨k, n, hbefore, hzero, hn, hle, hstop⟩ := zero_run h
    refine Or.inr ⟨k, n, 8 - (k + n), by omega, hn, hzero, ?_⟩
    by_cases hend : k + n = 8
    · -- the run is at the end
      have hlast : addr 7 = 0 := hzero 7 (by omega) (by omega)
      have hloop := insertLoop_zeros hbefore hzero
      rw [hend] at hloop
      simp [insertGroups, hloop, hlast, hend, groupsFrom]
    · obtain ⟨m, hm⟩ : ∃ m, 8 = k + n + (m + 1) := ⟨7 - (k + n), by omega⟩
      have hloop := insertLoop_behind hbefore hzero hn (hstop (by omega)) m
      rw [← hm] at hloop
      rw [insertGroups, hloop, show 8 - (k + n) = m + 1 by omega]
      rfl
  · have hall : ∀ j < 8, addr j ≠ 0 := fun j hj hz => h ⟨j, hj, hz⟩
    left
    rw [insertGroups, insertLoop_nonzero hall]
    simp [hall 7 (by omega)]

/-! ## Reading it back -/

theorem group_lt (addr : Nat → UInt16) (i : Nat) : group addr i < 2 ^ 16 :=
  (byteswap16 (addr i)).toNat_lt

theorem groupsFrom_lt (addr : Nat → UInt16) (i n : Nat) : ∀ g ∈ groupsFrom addr i n, g < 2 ^ 16 :=
  List.forall_mem_map.mpr fun j _ => group_lt addr j

/-- A run of zeros. -/
theorem groupsFrom_zeros (h : ∀ j, k ≤ j → j < k + n → addr j = 0) :
    groupsFrom addr k n = List.replicate n 0 := by
  rw [List.eq_replicate_iff]
  refine ⟨by simp [groupsFrom], List.forall_mem_map.mpr fun j hj => ?_⟩
  rw [List.mem_range'_1] at hj
  rw [group, h j hj.1 hj.2]
  rfl

theorem groupsFrom_append (addr : Nat → UInt16) (i m n : Nat) :
    groupsFrom addr i m ++ groupsFrom addr (i + m) n = groupsFrom addr i (m + n) := by
  simp [groupsFrom, ← List.map_append, List.range'_append_1]

/-- The text has at most one `::` and denotes the eight groups. -/
theorem insertGroups_reads (addr : Nat → UInt16) :
    doubleColons (insertGroups addr) ≤ 1
      ∧ readIpv6 (insertGroups addr) = some (groupsFrom addr 0 8) := by
  obtain h | ⟨k, n, r, hsum, hn, hzero, h⟩ := insert_phases addr
  · rw [h, doubleColons_joinGroups]
    exact ⟨by omega, readIpv6_join (by simp [groupsFrom]) (groupsFrom_lt addr 0 8)⟩
  · rw [h, doubleColons_compressed]
    have hlen : (groupsFrom addr 0 k).length + (groupsFrom addr (k + n) r).length = k + r := by
      simp [groupsFrom]
    refine ⟨Nat.le_refl 1, ?_⟩
    rw [readIpv6_compressed (by omega) (groupsFrom_lt addr 0 k) (groupsFrom_lt addr (k + n) r),
      hlen, show 8 - (k + r) = n by omega, ← groupsFrom_zeros hzero]
    have hfront := groupsFrom_append addr 0 k n
    have hall := groupsFrom_append addr 0 (k + n) r
    rw [Nat.zero_add] at hfront hall
    rw [hfront, hall, hsum]

theorem bracket_not_mem (addr : Nat → UInt16) : 93 ∉ insertGroups addr := by
  obtain h | ⟨k, n, r, -, -, -, h⟩ := insert_phases addr
  · rw [h]
    exact not_mem_joinGroups (by decide) (by decide) _
  · have hside := not_mem_joinGroups (show Lib.charDigit 93 = none by decide) (by decide)
    rw [h]
    simp [hside]

end loop

/-! ## Addresses -/

/-- The eight groups of an address. -/
def groups (a : SockaddrIn6) : List Nat :=
  (List.range 8).map fun i =>
    (a.s6Addr.getD (2 * i) 0).toNat * 256 + (a.s6Addr.getD (2 * i + 1) 0).toNat

/-- The bytes of eight groups. -/
def ofGroups (gs : List Nat) : Vector UInt8 16 :=
  Vector.ofFn fun i =>
    UInt8.ofNat (if i.val % 2 = 0 then gs.getD (i.val / 2) 0 / 256 else gs.getD (i.val / 2) 0 % 256)

/-- `Create`; `inet_pton` reads a text by the grammar. -/
def create (address : Bytes) (port : UInt16) : Option SockaddrIn6 :=
  (readIpv6 address).map fun gs =>
    { sin6Family := 10, sin6Port := byteswap16 port, sin6Flowinfo := 0, s6Addr := ofGroups gs
      sin6ScopeId := 0 }

theorem group_word (a : SockaddrIn6) (i : Nat) :
    group (word a) i
      = (a.s6Addr.getD (2 * i) 0).toNat * 256 + (a.s6Addr.getD (2 * i + 1) 0).toNat := by
  generalize hx : a.s6Addr.getD (2 * i) 0 = x
  generalize hy : a.s6Addr.getD (2 * i + 1) 0 = y
  have hxlt := x.toNat_lt
  have hylt := y.toNat_lt
  have hword : (word a i).toNat = Lib.ofLe [x, y] := by
    rw [word, hx, hy, UInt16.toNat_ofNat']
    simp only [Lib.ofLe]
    omega
  have hswap := Lib.byteSwap_ofLe [x, y]
  simp only [List.length_cons, List.length_nil, Nat.zero_add, List.reverse_cons,
    List.reverse_nil, List.nil_append, List.cons_append, Nat.reduceAdd] at hswap
  rw [group, byteswap16, hword, hswap, UInt16.toNat_ofNat']
  simp only [Lib.ofLe]
  omega

theorem groupsFrom_word (a : SockaddrIn6) : groupsFrom (word a) 0 8 = groups a := by
  rw [groupsFrom, groups, List.range_eq_range']
  exact List.map_congr_left fun i _ => group_word a i

theorem ofGroups_groups (a : SockaddrIn6) : ofGroups (groups a) = a.s6Addr := by
  ext i hi
  have hget : (groups a).getD (i / 2) 0 = (a.s6Addr.getD (2 * (i / 2)) 0).toNat * 256
      + (a.s6Addr.getD (2 * (i / 2) + 1) 0).toNat := by
    have hlt : i / 2 < 8 := by omega
    simp [groups, hlt]
  have hx := (a.s6Addr.getD (2 * (i / 2)) 0).toNat_lt
  have hy := (a.s6Addr.getD (2 * (i / 2) + 1) 0).toNat_lt
  rw [ofGroups, Vector.getElem_ofFn, hget]
  split
  case isTrue heven =>
    have hi2 : 2 * (i / 2) = i := by simp at heven; omega
    rw [hi2] at hy hx ⊢
    rw [show ((a.s6Addr.getD i 0).toNat * 256 + (a.s6Addr.getD (i + 1) 0).toNat) / 256
      = (a.s6Addr.getD i 0).toNat by omega, UInt8.ofNat_toNat]
    simp [Vector.getD, hi]
  case isFalse hodd =>
    have hi2 : 2 * (i / 2) + 1 = i := by simp at hodd; omega
    rw [hi2] at hy ⊢
    rw [show ((a.s6Addr.getD (2 * (i / 2)) 0).toNat * 256 + (a.s6Addr.getD i 0).toNat) % 256
      = (a.s6Addr.getD i 0).toNat by omega, UInt8.ofNat_toNat]
    simp [Vector.getD, hi]

/-- The text behind the brackets tells nothing of what is between them. -/
theorem insert_inj {a b : SockaddrIn6} (h : insert a = insert b) :
    insertGroups (word a) = insertGroups (word b) := by
  have h' := (List.cons.inj h).2
  rw [List.append_assoc, List.append_assoc] at h'
  have hport : 93 ∉ 58 :: numeral 10 (byteswap16 a.sin6Port).toNat := fun hmem => by
    have hdigits := (List.mem_cons.mp hmem).resolve_left (by decide)
    obtain ⟨d, hd, hc⟩ := Lib.mem_numeral (by decide) hdigits
    have hall : ∀ d : Fin 10, (93 : UInt8) ≠ Lib.digitChar d := by decide
    exact hall ⟨d, hd⟩ hc
  exact ((List.append_cons_inj_of_notMem (bracket_not_mem _) hport).mp h').1

/-- The text between the brackets has at most one `::` and denotes the groups of the address,
`Create` makes the address of it, and two addresses have two texts. -/
theorem insert_denotes :
    (∀ a : SockaddrIn6, doubleColons (insertGroups (word a)) ≤ 1
      ∧ readIpv6 (insertGroups (word a)) = some (groups a)
      ∧ ∀ port, (create (insertGroups (word a)) port).map SockaddrIn6.s6Addr = some a.s6Addr)
    ∧ ∀ a b : SockaddrIn6,
      insertGroups (word a) = insertGroups (word b) ∨ insert a = insert b
        → a.s6Addr = b.s6Addr := by
  have hread : ∀ a : SockaddrIn6, readIpv6 (insertGroups (word a)) = some (groups a) := fun a =>
    (insertGroups_reads (word a)).2.trans (congrArg some (groupsFrom_word a))
  refine ⟨fun a => ⟨(insertGroups_reads (word a)).1, hread a, fun port => ?_⟩, fun a b h => ?_⟩
  · rw [create, hread a, Option.map_some, Option.map_some, ofGroups_groups]
  · have htext : insertGroups (word a) = insertGroups (word b) := h.elim id insert_inj
    have hgroups : groups a = groups b := Option.some.inj (by rw [← hread a, htext, hread b])
    rw [← ofGroups_groups a, hgroups, ofGroups_groups b]

/-- `::1` with a port. -/
def loopback (port : UInt16) : SockaddrIn6 :=
  { sin6Family := 10, sin6Port := byteswap16 port, sin6Flowinfo := 0
    s6Addr := ofGroups [0, 0, 0, 0, 0, 0, 0, 1], sin6ScopeId := 0 }

theorem insert_denotes_loopback :
    readIpv6 (insertGroups (word (loopback 80))) = some (groups (loopback 80))
      ∧ (loopback 80).s6Addr = (loopback 443).s6Addr :=
  ⟨(insert_denotes.1 (loopback 80)).2.1,
    insert_denotes.2 (loopback 80) (loopback 443) (Or.inl rfl)⟩

end HrServer.Net.IPv6Address
