/-
HrServer.Timers.CoreTheorems — what one call does to the set of timers.

`Ordered tm out` is what the set needs to be one in the middle of a call, whatever
the callbacks are; `out` are the timers that were taken out and are on their way
back. Every function of `Timers.Core` is followed from one `Ordered` to the next; the
searches of the set succeed because it is sorted by the keys as they are now.
`Inv tm` adds that the timers of the set are those with a callback. It is what a
manager keeps that is given no empty callback.

Each `…_spec` gives the state a call ends in and that no fault occurs.
-/
import HrServer.Lib.Program
import HrServer.Timers.Core

namespace HrServer

open Lib

namespace Timers

variable {γ : Type}

/-! ## The comparator -/

theorem comparator_strict : OrderedSet.Strict (Comparator (γ := γ)) where
  irrefl x := by
    cases x with
    | none => rfl
    | some t => simp [Comparator]
  trans := by
    intro x y z hxy hyz
    cases x with
    | none =>
      cases z with
      | none => cases y <;> simp [Comparator] at hxy hyz
      | some c => rfl
    | some a =>
      cases y with
      | none => simp [Comparator] at hxy
      | some b =>
        cases z with
        | none => simp [Comparator] at hyz
        | some c =>
          simp only [Comparator, UInt64.lt_iff_toNat_lt] at hxy hyz ⊢
          split_ifs at hxy hyz ⊢ <;> simp_all <;> omega

theorem less_strict (tm : TimerManager γ) : OrderedSet.Strict tm.less where
  irrefl _ := comparator_strict.irrefl _
  trans := comparator_strict.trans

/-- Objects at different addresses are comparable. -/
theorem comparable_of_addr_ne {a b : Timer γ} (h : a.addr ≠ b.addr) :
    Comparator (some a) (some b) = true ∨ Comparator (some b) (some a) = true := by
  simp only [Comparator]
  split_ifs <;> simp only [decide_eq_true_eq, true_or, or_true]
  omega

/-! ## The invariant -/

/-- The timer has a callback. -/
def TimerManager.Live (tm : TimerManager γ) (i : Nat) : Prop :=
  ∃ t, tm.objects[i]? = some t ∧ t.cb.isSome = true

/-- The invariant while the timers `out` are taken out of the set. -/
structure Pending (tm : TimerManager γ) (out : List Nat) : Prop where
  live_iff : ∀ i, tm.Live i ↔ i ∈ tm.timers ∨ i ∈ out
  sorted : OrderedSet.Sorted tm.less tm.timers
  not_mem : ∀ i ∈ out, i ∉ tm.timers
  nodup : out.Nodup
  addr_inj : ∀ (i j : Nat) (a b : Timer γ), tm.objects[i]? = some a → tm.objects[j]? = some b →
    a.cb.isSome = true → b.cb.isSome = true → a.addr = b.addr → i = j

/-- A timer is in the set exactly when it has a callback, and the set is in order. -/
abbrev Inv (tm : TimerManager γ) : Prop := Pending tm []

theorem inv_new (now : UInt64) : Inv (new now : TimerManager γ) where
  live_iff i := by simp [new, TimerManager.Live]
  sorted := List.Pairwise.nil
  not_mem _ hi := absurd hi List.not_mem_nil
  nodup := List.nodup_nil
  addr_inj _ _ _ _ ha := by simp [new] at ha

theorem Inv.mem_iff {tm : TimerManager γ} (h : Inv tm) (i : Nat) : i ∈ tm.timers ↔ tm.Live i := by
  rw [h.live_iff]
  simp

/-! ## Changing an object -/

/-- The same manager with other timers in the set. -/
def TimerManager.holding (tm : TimerManager γ) (timers : List Nat) : TimerManager γ :=
  { tm with timers := timers }

@[simp] theorem holding_timers (tm : TimerManager γ) (timers : List Nat) :
    (tm.holding timers).timers = timers := rfl

@[simp] theorem update_timers (tm : TimerManager γ) (i : Nat) (f : Timer γ → Timer γ) :
    (tm.update i f).timers = tm.timers := rfl

section objects

variable {tm : TimerManager γ} {i : Nat} {f : Timer γ → Timer γ}

theorem objects_update_self {t : Timer γ} (h : tm.objects[i]? = some t) :
    (tm.update i f).objects[i]? = some (f t) := by
  simp [TimerManager.update, h]

theorem objects_update_ne {j : Nat} (h : j ≠ i) :
    (tm.update i f).objects[j]? = tm.objects[j]? := by
  simp [TimerManager.update, Ne.symm h]

/-- Two changes of one object. -/
theorem update_update {t : Timer γ} {g k : Timer γ → Timer γ} (h : tm.objects[i]? = some t)
    (hk : g (f t) = k t) : (tm.update i f).update i g = tm.update i k := by
  have hobj : (tm.objects.modify i f).modify i g = tm.objects.modify i k := by
    apply List.ext_getElem?
    intro j
    by_cases hj : i = j
    · subst hj
      simp [h, hk]
    · simp [hj]
  simp only [TimerManager.update, hobj]

/-- The order among the timers in the set does not read an object outside of it. -/
theorem sorted_update {s : List Nat} (hs : OrderedSet.Sorted tm.less s) (hi : i ∉ s) :
    OrderedSet.Sorted (tm.update i f).less s := by
  refine List.Pairwise.imp_of_mem ?_ hs
  intro a b ha hb hab
  have hai : a ≠ i := fun h => hi (h ▸ ha)
  have hbi : b ≠ i := fun h => hi (h ▸ hb)
  rw [TimerManager.less, objects_update_ne hai, objects_update_ne hbi]
  exact hab

/-- Nor does it read the callbacks. -/
theorem less_update_of_key (hf : ∀ t, (f t).next = t.next ∧ (f t).addr = t.addr) :
    (tm.update i f).less = tm.less := by
  have hcmp : ∀ (j : Nat) (x : Option (Timer γ)),
      Comparator (tm.update i f).objects[j]? x = Comparator tm.objects[j]? x
        ∧ Comparator x (tm.update i f).objects[j]? = Comparator x tm.objects[j]? := by
    intro j x
    by_cases hj : j = i
    · subst hj
      cases ht : tm.objects[j]? with
      | none => simp [TimerManager.update, ht]
      | some t =>
        rw [objects_update_self ht]
        obtain ⟨h1, h2⟩ := hf t
        cases x <;> simp [Comparator, h1, h2]
    · rw [objects_update_ne hj]
      exact ⟨rfl, rfl⟩
  funext a b
  rw [TimerManager.less, (hcmp a _).1, (hcmp b _).2]
  rfl

end objects

/-! ## The set as a container -/

/-- What the set needs to be one, whatever the callbacks are: `tm.timers` is in order,
and it and the timers `out` taken out of it are distinct objects. -/
structure Ordered (tm : TimerManager γ) (out : List Nat) : Prop where
  valid : ∀ i, i ∈ tm.timers ∨ i ∈ out → ∃ t, tm.objects[i]? = some t
  sorted : OrderedSet.Sorted tm.less tm.timers
  not_mem : ∀ i ∈ out, i ∉ tm.timers
  nodup : out.Nodup
  addr_inj : ∀ (i j : Nat) (a b : Timer γ), i ∈ tm.timers ∨ i ∈ out → j ∈ tm.timers ∨ j ∈ out →
    tm.objects[i]? = some a → tm.objects[j]? = some b → a.addr = b.addr → i = j

section ordered

variable {tm : TimerManager γ} {i : Nat} {out : List Nat}

theorem Ordered.valid_out (h : Ordered tm (i :: out)) : ∃ t, tm.objects[i]? = some t :=
  h.valid i (.inr List.mem_cons_self)

/-- A change of a timer outside the set that keeps its address. -/
theorem Ordered.update (h : Ordered tm (i :: out)) {f : Timer γ → Timer γ}
    (hf : ∀ t, (f t).addr = t.addr) : Ordered (tm.update i f) (i :: out) := by
  have hobj : ∀ {j : Nat} {a : Timer γ}, (tm.update i f).objects[j]? = some a →
      ∃ a', tm.objects[j]? = some a' ∧ a.addr = a'.addr := by
    intro j a ha
    by_cases hj : j = i
    · obtain ⟨t, ht⟩ := h.valid_out
      subst hj
      rw [objects_update_self ht] at ha
      cases ha
      exact ⟨t, ht, hf t⟩
    · rw [objects_update_ne hj] at ha
      exact ⟨a, ha, rfl⟩
  refine
    { valid := ?_
      sorted := sorted_update h.sorted (h.not_mem i List.mem_cons_self)
      not_mem := h.not_mem
      nodup := h.nodup
      addr_inj := ?_ }
  · intro j hj
    obtain ⟨t, ht⟩ := h.valid j hj
    by_cases hji : j = i
    · subst hji
      exact ⟨f t, objects_update_self ht⟩
    · exact ⟨t, by rw [objects_update_ne hji]; exact ht⟩
  · intro j k a b hj hk ha hb hab
    obtain ⟨a', ha', haa⟩ := hobj ha
    obtain ⟨b', hb', hbb⟩ := hobj hb
    exact h.addr_inj j k a' b' hj hk ha' hb' (haa ▸ hbb ▸ hab)

/-- A timer outside the set is forgotten. -/
theorem Ordered.leave (h : Ordered tm (i :: out)) : Ordered tm out where
  valid j hj := h.valid j (hj.imp_right (List.mem_cons_of_mem i))
  sorted := h.sorted
  not_mem j hj := h.not_mem j (List.mem_cons_of_mem i hj)
  nodup := (List.nodup_cons.mp h.nodup).2
  addr_inj j k a b hj hk :=
    h.addr_inj j k a b (hj.imp_right (List.mem_cons_of_mem i))
      (hk.imp_right (List.mem_cons_of_mem i))

/-- Putting a timer back. -/
theorem Ordered.insert (h : Ordered tm (i :: out)) :
    ∃ timers it, Timers.insert i tm = .ok it (tm.holding timers)
      ∧ Ordered (tm.holding timers) out ∧ OrderedSet.Inserted tm.less i tm.timers timers it := by
  have hnd := List.nodup_cons.mp h.nodup
  have hi := h.not_mem i List.mem_cons_self
  obtain ⟨t, ht⟩ := h.valid_out
  have hcmp : ∀ j ∈ tm.timers, tm.less i j = true ∨ tm.less j i = true := by
    intro j hj
    obtain ⟨t', ht'⟩ := h.valid j (.inl hj)
    have hne : t.addr ≠ t'.addr := by
      intro haddr
      have := h.addr_inj i j t t' (.inr List.mem_cons_self) (.inl hj) ht ht' haddr
      exact hi (this ▸ hj)
    unfold TimerManager.less
    rw [ht, ht']
    exact comparable_of_addr_ne hne
  have spec := OrderedSet.insert_spec (less_strict tm) h.sorted hcmp
  refine ⟨(OrderedSet.insert tm.less i tm.timers).1, (OrderedSet.insert tm.less i tm.timers).2,
    rfl, ?_, spec⟩
  have hmem : ∀ j, j ∈ (OrderedSet.insert tm.less i tm.timers).1 ↔ j = i ∨ j ∈ tm.timers :=
    fun j => spec.perm.mem_iff.trans List.mem_cons
  have hback : ∀ j, j ∈ (OrderedSet.insert tm.less i tm.timers).1 ∨ j ∈ out →
      j ∈ tm.timers ∨ j ∈ i :: out := by
    intro j
    rw [hmem, List.mem_cons]
    tauto
  refine
    { valid := fun j hj => h.valid j (hback j hj)
      sorted := spec.sorted
      not_mem := ?_
      nodup := hnd.2
      addr_inj := fun j k a b hj hk => h.addr_inj j k a b (hback j hj) (hback k hk) }
  intro j hj hj'
  rcases (hmem j).mp hj' with rfl | hj'
  · exact hnd.1 hj
  · exact h.not_mem j (List.mem_cons_of_mem i hj) hj'

/-- Taking a prefix of the set out. -/
theorem Ordered.take (h : Ordered tm []) (n : Nat) :
    Ordered (tm.holding (tm.timers.drop n)) (tm.timers.take n) := by
  have hnd := h.sorted.nodup (less_strict tm)
  have hsplit := List.take_append_drop n tm.timers
  have hmem : ∀ j, j ∈ tm.timers.drop n ∨ j ∈ tm.timers.take n → j ∈ tm.timers ∨ j ∈ [] := by
    intro j hj
    rw [← List.mem_append, List.mem_append, or_comm, ← List.mem_append, hsplit] at hj
    exact .inl hj
  refine
    { valid := fun j hj => h.valid j (hmem j hj)
      sorted := h.sorted.sublist (List.drop_sublist n _)
      not_mem := ?_
      nodup := hnd.sublist (List.take_sublist n _)
      addr_inj := fun j k a b hj hk => h.addr_inj j k a b (hmem j hj) (hmem k hk) }
  intro j hj hj'
  rw [← hsplit] at hnd
  exact (List.nodup_append.mp hnd).2.2 j hj j hj' rfl

/-- A timer of the set is found and can be erased. -/
theorem Ordered.erase (h : Ordered tm []) (hi : i ∈ tm.timers) :
    find i tm = .ok (some (tm.timers.idxOf i)) tm
      ∧ Timers.erase (some (tm.timers.idxOf i)) tm = .ok () (tm.holding (tm.timers.erase i))
      ∧ Ordered (tm.holding (tm.timers.erase i)) [i] := by
  have hnd := h.sorted.nodup (less_strict tm)
  have hfind := OrderedSet.find_of_mem (less_strict tm) h.sorted hi
  have hback : ∀ j, j ∈ tm.timers.erase i ∨ j ∈ [i] → j ∈ tm.timers ∨ j ∈ [] := by
    rintro j (hj | hj)
    · exact .inl (List.mem_of_mem_erase hj)
    · exact .inl (List.mem_singleton.mp hj ▸ hi)
  refine ⟨congrArg (EStateM.Result.ok · tm) hfind, ?_, ?_⟩
  · rw [← List.eraseIdx_idxOf_eq_erase]
    rfl
  · refine
      { valid := fun j hj => h.valid j (hback j hj)
        sorted := h.sorted.sublist List.erase_sublist
        not_mem := ?_
        nodup := by simp
        addr_inj := fun j k a b hj hk => h.addr_inj j k a b (hback j hj) (hback k hk) }
    intro j hj
    rw [List.mem_singleton.mp hj, holding_timers, hnd.mem_erase_iff]
    exact fun hne => hne.1 rfl

/-- Taking a timer out, changing it, and putting it back. -/
theorem Ordered.rearm (h : Ordered tm []) (hi : i ∈ tm.timers) {f : Timer γ → Timer γ}
    (hf : ∀ t, (f t).addr = t.addr) :
    ∃ timers it,
      Timers.insert i ((tm.holding (tm.timers.erase i)).update i f)
        = .ok it ((tm.update i f).holding timers)
      ∧ Ordered ((tm.update i f).holding timers) []
      ∧ timers.Perm tm.timers
      ∧ (it = 0 ↔ ∀ j ∈ tm.timers, j ≠ i → (tm.update i f).less i j = true) := by
  obtain ⟨-, -, hout⟩ := h.erase hi
  have hnd := h.sorted.nodup (less_strict tm)
  obtain ⟨timers, it, hins, hord, spec⟩ := (hout.update hf).insert
  refine ⟨timers, it, hins, hord, ?_, ?_⟩
  · exact spec.perm.trans (List.perm_cons_erase hi).symm
  · refine spec.front.trans ?_
    constructor
    · intro hall j hj hne
      exact hall j (hnd.mem_erase_iff.mpr ⟨hne, hj⟩)
    · intro hall j hj
      obtain ⟨hne, hj'⟩ := hnd.mem_erase_iff.mp hj
      exact hall j hj' hne

end ordered

/-! ## The timers with a callback -/

section live

variable {tm : TimerManager γ} {i : Nat}

theorem Pending.ordered {out : List Nat} (h : Pending tm out) : Ordered tm out where
  valid i hi := by
    obtain ⟨t, ht, -⟩ := (h.live_iff i).mpr hi
    exact ⟨t, ht⟩
  sorted := h.sorted
  not_mem := h.not_mem
  nodup := h.nodup
  addr_inj i j a b hi hj ha hb := by
    obtain ⟨a', ha', hca⟩ := (h.live_iff i).mpr hi
    obtain ⟨b', hb', hcb⟩ := (h.live_iff j).mpr hj
    cases ha.symm.trans ha'
    cases hb.symm.trans hb'
    exact h.addr_inj i j a b ha hb hca hcb

/-- The invariant, from what holds whatever the callbacks are. -/
theorem Ordered.inv (h : Ordered tm []) (hlive : ∀ i, tm.Live i ↔ i ∈ tm.timers) : Inv tm where
  live_iff i := (hlive i).trans (by simp)
  sorted := h.sorted
  not_mem := h.not_mem
  nodup := h.nodup
  addr_inj i j a b ha hb hca hcb :=
    h.addr_inj i j a b (.inl ((hlive i).mp ⟨a, ha, hca⟩)) (.inl ((hlive j).mp ⟨b, hb, hcb⟩)) ha hb

/-- A change that keeps the callback. -/
theorem live_update {f : Timer γ → Timer γ} (hf : ∀ t, (f t).cb = t.cb) (j : Nat) :
    (tm.update i f).Live j ↔ tm.Live j := by
  by_cases hj : j = i
  · subst hj
    cases ht : tm.objects[j]? with
    | none => simp [TimerManager.Live, TimerManager.update, ht]
    | some t => simp [TimerManager.Live, objects_update_self ht, ht, hf]
  · simp only [TimerManager.Live, objects_update_ne hj]

/-- A timer that loses its callback leaves the invariant, wherever it was. -/
theorem live_assignCb_none (j : Nat) :
    (tm.update i fun t => { t with cb := none }).Live j ↔ j ≠ i ∧ tm.Live j := by
  by_cases hj : j = i
  · subst hj
    cases ht : tm.objects[j]? with
    | none => simp [TimerManager.Live, TimerManager.update, ht]
    | some t => simp [TimerManager.Live, objects_update_self ht]
  · simp only [TimerManager.Live, objects_update_ne hj]
    exact ⟨fun h => ⟨hj, h⟩, fun h => h.2⟩

/-- The invariant after a timer was taken out, changed and put back. -/
theorem Inv.rearmed (h : Inv tm) {f : Timer γ → Timer γ} {timers : List Nat}
    (hord : Ordered ((tm.update i f).holding timers) []) (hperm : timers.Perm tm.timers)
    (hf : ∀ t, (f t).cb = t.cb) : Inv ((tm.update i f).holding timers) := by
  refine hord.inv ?_
  intro j
  exact (live_update hf j).trans ((h.mem_iff j).symm.trans hperm.mem_iff.symm)

end live

/-! ## The operations of a timer -/

section operations

variable {tm : TimerManager γ} {i : Nat} {t : Timer γ} {c : γ}

theorem get_eq (tm : TimerManager γ) : (get : Op γ (TimerManager γ)) tm = .ok tm tm := rfl

theorem deref_eq (ht : tm.objects[i]? = some t) : deref i tm = .ok t tm := by
  rw [deref, bind_ok (get_eq tm), ht]
  rfl

theorem live_of (ht : tm.objects[i]? = some t) (hcb : t.cb = some c) : tm.Live i :=
  ⟨t, ht, by rw [hcb]; rfl⟩

theorem assignNext_eq (hi : i ∉ tm.timers) (next : UInt64) :
    assignNext i next tm = .ok () (tm.update i fun t => { t with next := next }) := by
  rw [assignNext, bind_ok (get_eq tm), if_neg hi]
  rfl

theorem cancel_dead (ht : tm.objects[i]? = some t) (hcb : t.cb = none) :
    cancel i tm = .ok false tm := by
  rw [cancel, bind_ok (deref_eq ht), hcb]
  rfl

/-- A cancelled timer loses its callback and its place in the set. -/
def TimerManager.cancelled (tm : TimerManager γ) (i : Nat) : TimerManager γ :=
  (tm.update i fun t => { t with cb := none }).holding (tm.timers.erase i)

theorem cancel_mem (h : Ordered tm []) (hi : i ∈ tm.timers) (ht : tm.objects[i]? = some t)
    (hcb : t.cb = some c) :
    cancel i tm = .ok true (tm.cancelled i) ∧ Ordered (tm.cancelled i) [] := by
  obtain ⟨-, -, hout⟩ := h.erase hi
  refine ⟨?_, (hout.update (f := fun t => { t with cb := none }) fun _ => rfl).leave⟩
  have hassign : assignCb i none tm = .ok () (tm.update i fun t => { t with cb := none }) := rfl
  have hfind : find i (tm.update i fun t => { t with cb := none })
      = .ok (some (tm.timers.idxOf i)) (tm.update i fun t => { t with cb := none }) := by
    have hless := @less_update_of_key _ tm i (fun t => { t with cb := none }) fun _ => ⟨rfl, rfl⟩
    have hf := OrderedSet.find_of_mem (less_strict tm) h.sorted hi
    rw [← hless] at hf
    exact congrArg (EStateM.Result.ok · _) hf
  rw [cancel, bind_ok (deref_eq ht), hcb, Option.isSome_some, if_pos rfl, bind_ok hassign,
    bind_ok hfind, TimerManager.cancelled, ← List.eraseIdx_idxOf_eq_erase]
  rfl

theorem cancel_live (h : Inv tm) (ht : tm.objects[i]? = some t) (hcb : t.cb = some c) :
    cancel i tm = .ok true (tm.cancelled i) ∧ Inv (tm.cancelled i) := by
  have hi := (h.mem_iff i).mpr (live_of ht hcb)
  have hnd := h.sorted.nodup (less_strict tm)
  obtain ⟨hok, hord⟩ := cancel_mem h.ordered hi ht hcb
  refine ⟨hok, hord.inv fun j => ?_⟩
  refine (live_assignCb_none j).trans ?_
  simp only [TimerManager.cancelled, holding_timers, hnd.mem_erase_iff, h.mem_iff]

theorem refresh_dead (ht : tm.objects[i]? = some t) (hcb : t.cb = none) (now : UInt64) :
    refresh i now tm = .ok false tm := by
  rw [refresh, bind_ok (deref_eq ht), hcb]
  rfl

theorem refresh_mem (h : Ordered tm []) (hi : i ∈ tm.timers) (ht : tm.objects[i]? = some t)
    (hcb : t.cb = some c) (now : UInt64) :
    ∃ timers, refresh i now tm
        = .ok true ((tm.update i fun t' => { t' with next := now + t.ms }).holding timers)
      ∧ Ordered ((tm.update i fun t' => { t' with next := now + t.ms }).holding timers) []
      ∧ timers.Perm tm.timers := by
  obtain ⟨hfind, herase, hout⟩ := h.erase hi
  obtain ⟨timers, it, hins, hord, hperm, -⟩ :=
    h.rearm hi (f := fun t' => { t' with next := now + t.ms }) fun _ => rfl
  refine ⟨timers, ?_, hord, hperm⟩
  rw [refresh, bind_ok (deref_eq ht), if_neg (by simp [hcb]), bind_ok hfind, if_neg (by simp),
    bind_ok herase, bind_ok (assignNext_eq (hout.not_mem i List.mem_cons_self) _), bind_ok hins]
  rfl

theorem refresh_live (h : Inv tm) (ht : tm.objects[i]? = some t) (hcb : t.cb = some c)
    (now : UInt64) :
    ∃ timers, refresh i now tm
        = .ok true ((tm.update i fun t' => { t' with next := now + t.ms }).holding timers)
      ∧ Inv ((tm.update i fun t' => { t' with next := now + t.ms }).holding timers)
      ∧ timers.Perm tm.timers := by
  obtain ⟨timers, hok, hord, hperm⟩ :=
    refresh_mem h.ordered ((h.mem_iff i).mpr (live_of ht hcb)) ht hcb now
  exact ⟨timers, hok, h.rearmed hord hperm (fun _ => rfl), hperm⟩

/-- The end of `addTimer(val, lock)`: `onTimerInsertedAtFront` is called once for each
time the waiter looks. -/
def TimerManager.notify (tm : TimerManager γ) (it : Nat) : TimerManager γ :=
  if it = 0 ∧ tm.tickled = false then
    { tm with tickled := true, insertedAtFront := tm.insertedAtFront + 1 }
  else tm

theorem addTimerLocked_eq {tm' : TimerManager γ} {it : Nat} (h : insert i tm = .ok it tm') :
    addTimerLocked i tm = .ok () (tm'.notify it) := by
  rw [addTimerLocked, bind_ok h, bind_ok (get_eq tm')]
  simp only [TimerManager.notify, Bool.and_eq_true, beq_iff_eq, Bool.not_eq_true']
  split <;> rfl

theorem Pending.notify {out : List Nat} (h : Pending tm out) (it : Nat) :
    Pending (tm.notify it) out := by
  unfold TimerManager.notify
  split
  · exact { h with }
  · exact h

theorem reset_same (ht : tm.objects[i]? = some t) (now : UInt64) :
    reset i t.ms false now tm = .ok true tm := by
  rw [reset, bind_ok (deref_eq ht), if_pos ⟨rfl, rfl⟩]
  rfl

theorem reset_dead (ht : tm.objects[i]? = some t) (hcb : t.cb = none) {ms : UInt64}
    {fromNow : Bool} (hne : ¬ (ms = t.ms ∧ fromNow = false)) (now : UInt64) :
    reset i ms fromNow now tm = .ok false tm := by
  rw [reset, bind_ok (deref_eq ht), if_neg hne, hcb]
  rfl

/-- What `reset` makes of the object. -/
def Timer.resetTo (t : Timer γ) (ms : UInt64) (fromNow : Bool) (now : UInt64) : Timer γ :=
  { t with ms := ms, next := (if fromNow then now else t.next - t.ms) + ms }

theorem reset_mem (h : Ordered tm []) (hi : i ∈ tm.timers) (ht : tm.objects[i]? = some t)
    (hcb : t.cb = some c) {ms : UInt64} {fromNow : Bool} (hne : ¬ (ms = t.ms ∧ fromNow = false))
    (now : UInt64) :
    ∃ timers it, reset i ms fromNow now tm
        = .ok true (((tm.update i (·.resetTo ms fromNow now)).holding timers).notify it)
      ∧ Ordered ((tm.update i (·.resetTo ms fromNow now)).holding timers) []
      ∧ timers.Perm tm.timers
      ∧ (it = 0 ↔ ∀ j ∈ tm.timers, j ≠ i →
          (tm.update i (·.resetTo ms fromNow now)).less i j = true) := by
  obtain ⟨hfind, herase, hout⟩ := h.erase hi
  obtain ⟨timers, it, hins, hord, hperm, hfront⟩ :=
    h.rearm hi (f := (·.resetTo ms fromNow now)) fun _ => rfl
  refine ⟨timers, it, ?_, hord, hperm, hfront⟩
  have hms : assignMs i ms (tm.holding (tm.timers.erase i))
      = .ok () ((tm.holding (tm.timers.erase i)).update i fun t => { t with ms := ms }) := rfl
  have hnext : assignNext i ((if fromNow then now else t.next - t.ms) + ms)
        ((tm.holding (tm.timers.erase i)).update i fun t => { t with ms := ms })
      = .ok () ((tm.holding (tm.timers.erase i)).update i (·.resetTo ms fromNow now)) := by
    refine (assignNext_eq ?_ _).trans (congrArg (EStateM.Result.ok ()) (update_update ht rfl))
    exact hout.not_mem i List.mem_cons_self
  rw [reset, bind_ok (deref_eq ht), if_neg hne, if_neg (by simp [hcb]), bind_ok hfind,
    if_neg (by simp), bind_ok herase, bind_ok hms, bind_ok hnext,
    bind_ok (addTimerLocked_eq hins)]
  rfl

theorem reset_live (h : Inv tm) (ht : tm.objects[i]? = some t) (hcb : t.cb = some c) {ms : UInt64}
    {fromNow : Bool} (hne : ¬ (ms = t.ms ∧ fromNow = false)) (now : UInt64) :
    ∃ timers it, reset i ms fromNow now tm
        = .ok true (((tm.update i (·.resetTo ms fromNow now)).holding timers).notify it)
      ∧ Inv ((tm.update i (·.resetTo ms fromNow now)).holding timers)
      ∧ timers.Perm tm.timers
      ∧ (it = 0 ↔ ∀ j ∈ tm.timers, j ≠ i →
          (tm.update i (·.resetTo ms fromNow now)).less i j = true) := by
  obtain ⟨timers, it, hok, hord, hperm, hfront⟩ :=
    reset_mem h.ordered ((h.mem_iff i).mpr (live_of ht hcb)) ht hcb hne now
  exact ⟨timers, it, hok, h.rearmed hord hperm (fun _ => rfl), hperm, hfront⟩

/-! ## The operations of the manager -/

/-- The manager with a new object. -/
def TimerManager.created (tm : TimerManager γ) (t : Timer γ) : TimerManager γ :=
  { tm with objects := tm.objects ++ [t] }

theorem objects_created_lt {j : Nat} {a : Timer γ} (h : tm.objects[j]? = some a) :
    (tm.created t).objects[j]? = some a := by
  obtain ⟨hlt, -⟩ := List.getElem?_eq_some_iff.mp h
  rw [TimerManager.created, List.getElem?_append_left hlt, h]

theorem objects_created {j : Nat} {a : Timer γ} (h : (tm.created t).objects[j]? = some a) :
    tm.objects[j]? = some a ∨ (j = tm.objects.length ∧ a = t) := by
  rw [TimerManager.created, List.getElem?_append] at h
  split at h
  · exact .inl h
  · obtain ⟨h0, h1⟩ := List.getElem?_eq_some_iff.mp h
    simp only [List.length_singleton, List.getElem_singleton] at h0 h1
    exact .inr ⟨by omega, h1.symm⟩

/-- A new timer, at an address that no timer of the set has, is on its way in. -/
theorem Ordered.created (h : Ordered tm [])
    (haddr : ∀ j ∈ tm.timers, ∀ a, tm.objects[j]? = some a → a.addr ≠ t.addr) :
    Ordered (tm.created t) [tm.objects.length] := by
  have hlast : (tm.created t).objects[tm.objects.length]? = some t := by
    simp [TimerManager.created]
  have hlt : ∀ j ∈ tm.timers, j < tm.objects.length := by
    intro j hj
    obtain ⟨a, ha⟩ := h.valid j (.inl hj)
    exact (List.getElem?_eq_some_iff.mp ha).1
  -- what a timer of the set or the new one can be
  have hcases : ∀ (j : Nat) (a : Timer γ), j ∈ tm.timers ∨ j ∈ [tm.objects.length] →
      (tm.created t).objects[j]? = some a →
      (j ∈ tm.timers ∧ tm.objects[j]? = some a) ∨ (j = tm.objects.length ∧ a = t) := by
    intro j a hj ha
    rcases hj with hj | hj
    · obtain ⟨b, hb⟩ := h.valid j (.inl hj)
      have hab := (objects_created_lt (t := t) hb).symm.trans ha
      exact .inl ⟨hj, by rw [hb, hab]⟩
    · rw [List.mem_singleton] at hj
      subst hj
      rw [hlast] at ha
      exact .inr ⟨rfl, (Option.some.inj ha).symm⟩
  refine
    { valid := ?_
      sorted := ?_
      not_mem := ?_
      nodup := by simp
      addr_inj := ?_ }
  · rintro j (hj | hj)
    · obtain ⟨a, ha⟩ := h.valid j (.inl hj)
      exact ⟨a, objects_created_lt ha⟩
    · exact ⟨t, by rw [List.mem_singleton.mp hj]; exact hlast⟩
  · refine List.Pairwise.imp_of_mem ?_ h.sorted
    intro a b ha hb hab
    obtain ⟨x, hx⟩ := h.valid a (.inl ha)
    obtain ⟨y, hy⟩ := h.valid b (.inl hb)
    rw [TimerManager.less, hx, hy] at hab
    rw [TimerManager.less, objects_created_lt hx, objects_created_lt hy]
    exact hab
  · intro j hj hmem
    have := hlt j hmem
    rw [List.mem_singleton] at hj
    omega
  · intro j k a b hj hk ha hb hab
    rcases hcases j a hj ha with ⟨hj, ha⟩ | ⟨hj, hat⟩ <;>
      rcases hcases k b hk hb with ⟨hk, hb⟩ | ⟨hk, hbt⟩
    · exact h.addr_inj j k a b (.inl hj) (.inl hk) ha hb hab
    · exact absurd (hbt ▸ hab) (haddr j hj a ha)
    · exact absurd (hat ▸ hab.symm) (haddr k hk b hb)
    · rw [hj, hk]

theorem live_created (j : Nat) :
    (tm.created t).Live j ↔ tm.Live j ∨ (j = tm.objects.length ∧ t.cb.isSome = true) := by
  constructor
  · rintro ⟨a, ha, hca⟩
    rcases objects_created ha with ha | ⟨hj, rfl⟩
    · exact .inl ⟨a, ha, hca⟩
    · exact .inr ⟨hj, hca⟩
  · rintro (⟨a, ha, hca⟩ | ⟨rfl, hcb⟩)
    · exact ⟨a, objects_created_lt ha, hca⟩
    · exact ⟨t, by simp [TimerManager.created], hcb⟩

/-- The callback may be the null function. -/
theorem addTimer_ordered (h : Ordered tm []) {addr : Nat} {ms : UInt64} {cb : Option γ}
    {recurring : Bool} (now : UInt64)
    (haddr : ∀ j ∈ tm.timers, ∀ a, tm.objects[j]? = some a → a.addr ≠ addr) :
    ∃ timers it, addTimer addr now ms cb recurring tm
        = .ok tm.objects.length
            (((tm.created ⟨addr, recurring, ms, now + ms, cb⟩).holding timers).notify it)
      ∧ Ordered ((tm.created ⟨addr, recurring, ms, now + ms, cb⟩).holding timers) []
      ∧ OrderedSet.Inserted (tm.created ⟨addr, recurring, ms, now + ms, cb⟩).less
          tm.objects.length tm.timers timers it := by
  have hout := @Ordered.created _ _ ⟨addr, recurring, ms, now + ms, cb⟩ h haddr
  obtain ⟨timers, it, hins, hord, spec⟩ := hout.insert
  refine ⟨timers, it, ?_, hord, spec⟩
  have hadd := addTimerLocked_eq hins
  rw [addTimer, bind_ok (get_eq tm)]
  exact bind_ok hadd

theorem addTimer_spec (h : Inv tm) {addr : Nat} {ms : UInt64} {recurring : Bool} (now : UInt64)
    (haddr : ∀ j ∈ tm.timers, ∀ a, tm.objects[j]? = some a → a.addr ≠ addr) :
    ∃ timers it, addTimer addr now ms (some c) recurring tm
        = .ok tm.objects.length
            (((tm.created ⟨addr, recurring, ms, now + ms, some c⟩).holding timers).notify it)
      ∧ Inv ((tm.created ⟨addr, recurring, ms, now + ms, some c⟩).holding timers)
      ∧ OrderedSet.Inserted (tm.created ⟨addr, recurring, ms, now + ms, some c⟩).less
          tm.objects.length tm.timers timers it := by
  obtain ⟨timers, it, hok, hord, spec⟩ := addTimer_ordered h.ordered now haddr
  refine ⟨timers, it, hok, hord.inv fun j => ?_, spec⟩
  refine (live_created j).trans ?_
  rw [holding_timers, spec.perm.mem_iff, List.mem_cons, h.mem_iff, or_comm]
  simp

theorem getNextTimer_spec (h : Ordered tm []) (now : UInt64) :
    ∃ wait, getNextTimer now tm = .ok wait { tm with tickled := false } := by
  have hset : (modify fun tm => { tm with tickled := false } : Op γ PUnit) tm
      = .ok () { tm with tickled := false } := rfl
  rw [getNextTimer, bind_ok hset, bind_ok (get_eq _)]
  cases htm : tm.timers with
  | nil => exact ⟨_, rfl⟩
  | cons i is =>
    obtain ⟨t, ht⟩ := h.valid i (.inl (by rw [htm]; exact List.mem_cons_self))
    exact ⟨_, bind_ok (deref_eq ht)⟩

/-! ## Expiry -/

/-- What the loop over `expired` makes of an object. -/
def Timer.expire (t : Timer γ) (now : UInt64) : Timer γ :=
  if t.recurring then { t with next := now + t.ms } else { t with cb := none }

/-- The callback behind a handle. -/
def TimerManager.cbOf (tm : TimerManager γ) (i : Nat) : Option γ := tm.objects[i]?.bind Timer.cb

/-- The manager after the timers `expired` left the set `tm.timers`: the recurring ones
are back, the others are without a callback. -/
structure Elapsed (tm : TimerManager γ) (now : UInt64) (expired : List Nat)
    (tm' : TimerManager γ) : Prop where
  ordered : Ordered tm' []
  objects_eq : ∀ j, tm'.objects[j]?
    = tm.objects[j]?.map fun t => if j ∈ expired then t.expire now else t
  mem_timers : ∀ j, j ∈ tm'.timers ↔ (j ∈ tm.timers ∧ j ∉ expired)
    ∨ (j ∈ expired ∧ ∃ t, tm.objects[j]? = some t ∧ t.recurring = true)
  tickled_eq : tm'.tickled = tm.tickled
  insertedAtFront_eq : tm'.insertedAtFront = tm.insertedAtFront
  previousTime_eq : tm'.previousTime = tm.previousTime

/-- The same for a manager without empty callbacks, which stays one. -/
structure Expired (tm : TimerManager γ) (now : UInt64) (expired : List Nat)
    (tm' : TimerManager γ) : Prop extends Elapsed tm now expired tm' where
  inv : Inv tm'

/-- One pass of the loop: the timer goes back into the set with a new deadline, or
loses its callback. -/
theorem Ordered.expireOne {out : List Nat} (h : Ordered tm (i :: out))
    (ht : tm.objects[i]? = some t) (now : UInt64) :
    ∃ tm', Timers.expireOne now i t tm = .ok () tm'
      ∧ Ordered tm' out ∧ tm'.objects = (tm.update i (·.expire now)).objects
      ∧ (∀ j, j ∈ tm'.timers ↔ j ∈ tm.timers ∨ (j = i ∧ t.recurring = true))
      ∧ tm'.tickled = tm.tickled ∧ tm'.insertedAtFront = tm.insertedAtFront
      ∧ tm'.previousTime = tm.previousTime := by
  cases hrec : t.recurring with
  | true =>
    have hobj : (tm.update i fun t' => { t' with next := now + t.ms })
        = tm.update i (·.expire now) := by
      have := @update_update _ tm i id t (fun t' => { t' with next := now + t.ms })
        (·.expire now) ht (by simp [Timer.expire, hrec])
      simpa [TimerManager.update] using this
    have hnext := assignNext_eq (h.not_mem i List.mem_cons_self) (now + t.ms)
    obtain ⟨timers, it, hins, hord, spec⟩ :=
      (h.update (f := fun t' => { t' with next := now + t.ms }) fun _ => rfl).insert
    refine ⟨_, ?_, hord, ?_, ?_, rfl, rfl, rfl⟩
    · rw [Timers.expireOne, if_pos hrec, bind_ok hnext, bind_ok hins]
      rfl
    · rw [← hobj]
      rfl
    · intro j
      simp [spec.perm.mem_iff, or_comm]
  | false =>
    have hobj : (tm.update i fun t' => { t' with cb := none }) = tm.update i (·.expire now) := by
      have := @update_update _ tm i id t (fun t' => { t' with cb := none })
        (·.expire now) ht (by simp [Timer.expire, hrec])
      simpa [TimerManager.update] using this
    have hassign : Timers.expireOne now i t tm
        = .ok () (tm.update i fun t' => { t' with cb := none }) := by
      rw [Timers.expireOne, if_neg (by simp [hrec])]
      rfl
    have hord := (h.update (f := fun t' => { t' with cb := none }) fun _ => rfl).leave
    exact ⟨_, hassign, hord, by rw [← hobj], by simp, rfl, rfl, rfl⟩

/-- The loop: by induction on the timers that are still to be handled. -/
theorem expireLoop_spec (now : UInt64) (expired : List Nat) {tm : TimerManager γ}
    (h : Ordered tm expired) :
    ∃ tm', expireLoop now expired tm = .ok (expired.map fun i => (i, tm.cbOf i)) tm'
      ∧ Elapsed tm now expired tm' := by
  induction expired generalizing tm with
  | nil => exact ⟨tm, rfl, h, by simp, by simp, rfl, rfl, rfl⟩
  | cons i expired ih =>
    obtain ⟨t, ht⟩ := h.valid_out
    have hnd := List.nodup_cons.mp h.nodup
    obtain ⟨tm1, h1, hord, hobj, hmem, e1, e2, e3⟩ := h.expireOne ht now
    obtain ⟨tm2, h2, spec⟩ := ih hord
    have hne : ∀ j ∈ expired, j ≠ i := fun j hj heq => hnd.1 (heq ▸ hj)
    have hsame : ∀ j ∈ expired, tm1.objects[j]? = tm.objects[j]? := by
      intro j hj
      rw [hobj, objects_update_ne (hne j hj)]
    have hcbs : expired.map (fun j => (j, tm1.cbOf j)) = expired.map fun j => (j, tm.cbOf j) := by
      refine List.map_congr_left ?_
      intro j hj
      simp only [TimerManager.cbOf, hsame j hj]
    refine ⟨tm2, ?_, spec.ordered, ?_, ?_, spec.tickled_eq.trans e1,
      spec.insertedAtFront_eq.trans e2, spec.previousTime_eq.trans e3⟩
    · have hcb : tm.cbOf i = t.cb := by rw [TimerManager.cbOf, ht, Option.bind_some]
      rw [expireLoop, bind_ok (deref_eq ht), bind_ok h1, bind_ok h2, hcbs, List.map_cons, hcb]
      rfl
    · intro j
      rw [spec.objects_eq, hobj]
      by_cases hj : j = i
      · subst hj
        rw [objects_update_self ht, ht]
        simp [hnd.1]
      · rw [objects_update_ne hj]
        simp [hj]
    · intro j
      rw [spec.mem_timers, hmem]
      by_cases hj : j = i
      · subst hj
        simp [hnd.1, h.not_mem j List.mem_cons_self, ht]
      · by_cases hje : j ∈ expired
        · simp [hj, hje, hsame j hje]
        · simp [hj, hje]

/-- What `detectClockRollover` returns. -/
def TimerManager.rolledOver (tm : TimerManager γ) (now : UInt64) : Bool :=
  now < tm.previousTime && now < tm.previousTime - 60 * 60 * 1000

/-- The timers `listExpiredCb` hands out. -/
def TimerManager.expiredAt (tm : TimerManager γ) (now : UInt64) (dummy : Nat) : List Nat :=
  match tm.timers with
  | [] => []
  | i :: _ =>
    if tm.rolledOver now = false ∧ tm.objects[i]?.any (fun t => t.next > now) = true then []
    else tm.timers.take (tm.expiredEnd now dummy (tm.rolledOver now))

/-- Every expired timer comes from the set. -/
theorem expiredAt_sublist (tm : TimerManager γ) (now : UInt64) (dummy : Nat) :
    (tm.expiredAt now dummy).Sublist tm.timers := by
  unfold TimerManager.expiredAt
  split
  · exact List.nil_sublist _
  · split
    · exact List.nil_sublist _
    · exact List.take_sublist _ _

/-- The call as a whole, on any set. -/
theorem listExpiredCb_elapsed (h : Ordered tm []) (now : UInt64) (dummy : Nat) :
    ∃ tm', listExpiredCb now dummy tm
        = .ok ((tm.expiredAt now dummy).map fun i => (i, tm.cbOf i)) tm'
      ∧ Elapsed { tm with previousTime := tm'.previousTime } now (tm.expiredAt now dummy) tm'
      ∧ (tm'.previousTime = tm.previousTime ∨ tm'.previousTime = now) := by
  have hroll : detectClockRollover now tm
      = .ok (tm.rolledOver now) { tm with previousTime := now } := rfl
  have hord : Ordered { tm with previousTime := now } [] := { h with }
  cases htm : tm.timers with
  | nil =>
    have hexp : tm.expiredAt now dummy = [] := by rw [TimerManager.expiredAt, htm]
    rw [hexp, listExpiredCb, bind_ok (get_eq tm), htm]
    exact ⟨tm, rfl, ⟨h, by simp, by simp [htm], rfl, rfl, rfl⟩, .inl rfl⟩
  | cons i is =>
    obtain ⟨t, ht⟩ := h.valid i (.inl (by rw [htm]; exact List.mem_cons_self))
    have hderef : deref i { tm with previousTime := now } = .ok t { tm with previousTime := now } :=
      deref_eq ht
    have hexp : tm.expiredAt now dummy
        = if tm.rolledOver now = false ∧ t.next > now then []
          else tm.timers.take (tm.expiredEnd now dummy (tm.rolledOver now)) := by
      simp [TimerManager.expiredAt, htm, ht]
    rw [hexp, listExpiredCb, bind_ok (get_eq tm), htm]
    dsimp only
    rw [bind_ok hroll, bind_ok hderef, ← htm]
    split
    · exact ⟨_, rfl, ⟨hord, by simp, by simp, rfl, rfl, rfl⟩, .inr rfl⟩
    · have hout := hord.take (tm.expiredEnd now dummy (tm.rolledOver now))
      obtain ⟨tm', hloop, spec⟩ := expireLoop_spec now _ hout
      refine ⟨tm', hloop, ⟨spec.ordered, spec.objects_eq, ?_, spec.tickled_eq,
        spec.insertedAtFront_eq, rfl⟩, .inr spec.previousTime_eq⟩
      intro j
      refine (spec.mem_timers j).trans (or_congr_left (and_congr_left ?_))
      intro hj
      -- outside of the prefix, the rest of the set is the set
      constructor
      · exact List.mem_of_mem_drop
      · intro hmem
        rw [← List.take_append_drop (tm.expiredEnd now dummy (tm.rolledOver now)) tm.timers] at hmem
        exact (List.mem_append.mp hmem).resolve_left hj

/-- The timers that kept their callback are those of the set. -/
theorem Elapsed.inv {expired : List Nat} {tm' : TimerManager γ} (h : Inv tm)
    (hsub : ∀ j ∈ expired, j ∈ tm.timers) {now : UInt64} (spec : Elapsed tm now expired tm') :
    Inv tm' := by
  have hlive : ∀ j, tm'.Live j ↔ j ∈ tm'.timers := by
    intro j
    rw [spec.mem_timers, TimerManager.Live]
    simp only [spec.objects_eq j, Option.map_eq_some_iff]
    by_cases hj : j ∈ expired
    · obtain ⟨t, ht, hcb⟩ := (h.mem_iff j).mp (hsub j hj)
      cases hrec : t.recurring <;> simp [hj, ht, Timer.expire, hrec, hcb]
    · simp [hj, h.mem_iff, TimerManager.Live]
  exact spec.ordered.inv hlive

theorem listExpiredCb_spec (h : Inv tm) (now : UInt64) (dummy : Nat) :
    ∃ tm', listExpiredCb now dummy tm
        = .ok ((tm.expiredAt now dummy).map fun i => (i, tm.cbOf i)) tm'
      ∧ Expired { tm with previousTime := tm'.previousTime } now (tm.expiredAt now dummy) tm'
      ∧ (tm'.previousTime = tm.previousTime ∨ tm'.previousTime = now) := by
  obtain ⟨tm', hok, spec, hprev⟩ := listExpiredCb_elapsed h.ordered now dummy
  have hinv : Inv { tm with previousTime := tm'.previousTime } := { h with }
  exact ⟨tm', hok, ⟨spec, spec.inv hinv (expiredAt_sublist tm now dummy).subset⟩, hprev⟩

end operations

end Timers

end HrServer
