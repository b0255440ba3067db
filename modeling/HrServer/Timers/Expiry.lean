/-
HrServer.Timers.Expiry — which timers `listExpiredCb` takes.

The end of the expired prefix is found by `lower_bound` with a dummy timer
whose deadline is `now` and whose address is whatever the allocator gave,
and moved on over the timers whose deadline is exactly `now`. Wherever the
dummy falls among those, the prefix is the timers that are due
(`expiredAt_eq_filter`): before the lower bound the deadlines are at most
`now`, from it on they are at least `now`, and the loop passes the equal
ones.

`listExpiredCb_exact` is about any set, with or without callbacks, and any
reading of the clock.
-/
import HrServer.Timers.CoreTheorems

namespace HrServer

open Lib

namespace Timers

variable {γ : Type}

/-! ## Deadlines -/

theorem comparator_iff {a b : Timer γ} :
    Comparator (some a) (some b) = true
      ↔ a.next < b.next ∨ (a.next = b.next ∧ a.addr < b.addr) := by
  simp only [Comparator, UInt64.lt_iff_toNat_lt, ← UInt64.toNat_inj]
  split_ifs <;> simp <;> omega

theorem next_le_of_less {a b : Timer γ} (h : Comparator (some a) (some b) = true) :
    a.next ≤ b.next := by
  rcases comparator_iff.mp h with hlt | ⟨heq, -⟩
  · exact UInt64.le_of_lt hlt
  · rw [heq]
    exact UInt64.le_refl _

theorem next_le_of_not_less {a b : Timer γ} (h : Comparator (some a) (some b) = false) :
    b.next ≤ a.next := by
  refine UInt64.not_lt.mp fun hlt => ?_
  rw [comparator_iff.mpr (.inl hlt)] at h
  cases h

/-- The timer exists and its deadline has come. -/
def TimerManager.due (tm : TimerManager γ) (now : UInt64) (i : Nat) : Bool :=
  tm.objects[i]?.any fun t => t.next ≤ now

theorem due_iff {tm : TimerManager γ} {now : UInt64} {i : Nat} {t : Timer γ}
    (ht : tm.objects[i]? = some t) : tm.due now i = true ↔ t.next ≤ now := by
  simp [TimerManager.due, ht]

/-! ## The end of the expired prefix -/

/-- `skipEqual` passes over timers whose deadline is `now`. -/
theorem next_of_mem_skipEqual {objects : List (Timer γ)} {now : UInt64} {is : List Nat} {i : Nat}
    (h : i ∈ is.take (skipEqual objects now is)) : objects[i]?.map Timer.next = some now := by
  induction is with
  | nil => cases h
  | cons j is ih =>
    rw [skipEqual] at h
    split at h
    · next heq =>
      rw [List.take_succ_cons] at h
      rcases List.mem_cons.mp h with rfl | h
      · exact heq
      · exact ih h
    · cases h

/-- Behind the timers it passes over, a sorted sequence has only later deadlines. -/
theorem lt_next_of_mem_skipEqual {tm : TimerManager γ} {now : UInt64} {is : List Nat}
    (hs : OrderedSet.Sorted tm.less is)
    (hge : ∀ i ∈ is, ∃ t, tm.objects[i]? = some t ∧ now ≤ t.next) {i : Nat}
    (hi : i ∈ is.drop (skipEqual tm.objects now is)) :
    ∃ t, tm.objects[i]? = some t ∧ now < t.next := by
  induction is with
  | nil => cases hi
  | cons j is ih =>
    obtain ⟨hj, hs⟩ := List.pairwise_cons.mp hs
    obtain ⟨a, ha, hage⟩ := hge j List.mem_cons_self
    rw [skipEqual] at hi
    split at hi
    · rw [List.drop_succ_cons] at hi
      exact ih hs (fun k hk => hge k (List.mem_cons_of_mem j hk)) hi
    · next hne =>
      -- the first deadline behind the loop is later than `now`, and so are all behind it
      have hlt : now < a.next := by
        refine UInt64.lt_of_le_of_ne hage fun heq => hne ?_
        rw [ha, Option.map_some, heq]
      rw [List.drop_zero] at hi
      rcases List.mem_cons.mp hi with rfl | hi
      · exact ⟨a, ha, hlt⟩
      · obtain ⟨t, ht, -⟩ := hge i (List.mem_cons_of_mem j hi)
        have hless := hj i hi
        rw [TimerManager.less, ha, ht] at hless
        exact ⟨t, ht, UInt64.lt_of_lt_of_le hlt (next_le_of_less hless)⟩

section cut

variable {tm : TimerManager γ} {now : UInt64} {dummy : Nat}

theorem due_of_mem_take {i : Nat} {t : Timer γ} (ht : tm.objects[i]? = some t)
    (hi : i ∈ tm.timers.take (tm.expiredEnd now dummy false)) : t.next ≤ now := by
  rw [TimerManager.expiredEnd, if_neg (by simp), List.take_add] at hi
  rcases List.mem_append.mp hi with hi | hi
  · have hmap := List.mem_map_of_mem (f := fun i => tm.objects[i]?) hi
    rw [List.map_take, ht] at hmap
    exact next_le_of_less (OrderedSet.lt_of_mem_take hmap)
  · have hnext := next_of_mem_skipEqual hi
    rw [ht] at hnext
    cases hnext
    exact UInt64.le_refl _

theorem not_due_of_mem_drop (h : Ordered tm []) {i : Nat}
    (hi : i ∈ tm.timers.drop (tm.expiredEnd now dummy false)) :
    ∃ t, tm.objects[i]? = some t ∧ now < t.next := by
  rw [TimerManager.expiredEnd, if_neg (by simp), ← List.drop_drop] at hi
  refine lt_next_of_mem_skipEqual (h.sorted.sublist (List.drop_sublist _ _)) ?_ hi
  intro j hj
  obtain ⟨t, ht⟩ := h.valid j (.inl (List.mem_of_mem_drop hj))
  have hsorted : OrderedSet.Sorted Comparator (tm.timers.map fun i => tm.objects[i]?) :=
    List.pairwise_map.mpr h.sorted
  have hmap := List.mem_map_of_mem (f := fun i => tm.objects[i]?) hj
  rw [List.map_drop, ht] at hmap
  exact ⟨t, ht, next_le_of_not_less (OrderedSet.not_lt_of_mem_drop comparator_strict hsorted hmap)⟩

/-- The expired prefix is the timers that are due. -/
theorem take_expiredEnd (h : Ordered tm []) :
    tm.timers.take (tm.expiredEnd now dummy false) = tm.timers.filter (tm.due now) := by
  conv_rhs => rw [← List.take_append_drop (tm.expiredEnd now dummy false) tm.timers]
  have htake : (tm.timers.take (tm.expiredEnd now dummy false)).filter (tm.due now)
      = tm.timers.take (tm.expiredEnd now dummy false) := by
    refine List.filter_eq_self.mpr ?_
    intro i hi
    obtain ⟨t, ht⟩ := h.valid i (.inl (List.mem_of_mem_take hi))
    exact (due_iff ht).mpr (due_of_mem_take ht hi)
  have hdrop : (tm.timers.drop (tm.expiredEnd now dummy false)).filter (tm.due now) = [] := by
    refine List.filter_eq_nil_iff.mpr ?_
    intro i hi
    obtain ⟨t, ht, hlt⟩ := not_due_of_mem_drop h hi
    rw [due_iff ht]
    exact UInt64.not_le.mpr hlt
  rw [List.filter_append, htake, hdrop, List.append_nil]

/-- The early return is taken only when no timer is due. -/
theorem expiredAt_eq_filter (h : Ordered tm []) (hroll : tm.rolledOver now = false) :
    tm.expiredAt now dummy = tm.timers.filter (tm.due now) := by
  unfold TimerManager.expiredAt
  split
  · next hnil => simp [hnil]
  · next i is hcons =>
    split
    · next hearly =>
      symm
      refine List.filter_eq_nil_iff.mpr ?_
      intro j hj
      obtain ⟨a, ha⟩ := h.valid i (.inl (by rw [hcons]; exact List.mem_cons_self))
      obtain ⟨t, ht⟩ := h.valid j (.inl hj)
      have hlt : now < a.next := by simpa [ha] using hearly.2
      rw [due_iff ht]
      refine UInt64.not_le.mpr ?_
      rw [hcons] at hj
      rcases List.mem_cons.mp hj with rfl | hj
      · cases ha.symm.trans ht
        exact hlt
      · have hsorted := h.sorted
        rw [hcons] at hsorted
        have hless := (List.pairwise_cons.mp hsorted).1 j hj
        rw [TimerManager.less, ha, ht] at hless
        exact UInt64.lt_of_lt_of_le hlt (next_le_of_less hless)
    · rw [hroll]
      exact take_expiredEnd h

theorem expiredAt_rolledOver (hroll : tm.rolledOver now = true) :
    tm.expiredAt now dummy = tm.timers := by
  unfold TimerManager.expiredAt
  split
  · next hnil => exact hnil.symm
  · rw [if_neg (by simp [hroll]), hroll, TimerManager.expiredEnd, if_pos rfl]
    simp [skipEqual]

end cut

/-! ## The call -/

/-- What a call at `now` does to the set of timers, in the words of a specification. -/
structure TakesDue (tm : TimerManager γ) (now : UInt64) (rollover : Bool)
    (cbs : List (Nat × Option γ)) (tm' : TimerManager γ) : Prop where
  taken : cbs.map Prod.fst = if rollover then tm.timers else tm.timers.filter (tm.due now)
  callbacks : ∀ p ∈ cbs, p.2 = tm.cbOf p.1
  once : (cbs.map Prod.fst).Nodup
  in_order : (cbs.map Prod.fst).Pairwise fun i j => ∀ a b, tm.objects[i]? = some a →
    tm.objects[j]? = some b → a.next < b.next ∨ (a.next = b.next ∧ a.addr < b.addr)
  others : ∀ i, i ∉ cbs.map Prod.fst →
    (i ∈ tm'.timers ↔ i ∈ tm.timers) ∧ tm'.objects[i]? = tm.objects[i]?
  recurring : ∀ i ∈ cbs.map Prod.fst, ∀ t, tm.objects[i]? = some t → t.recurring = true →
    i ∈ tm'.timers ∧ tm'.objects[i]? = some { t with next := now + t.ms }
  oneShot : ∀ i ∈ cbs.map Prod.fst, ∀ t, tm.objects[i]? = some t → t.recurring = false →
    i ∉ tm'.timers ∧ tm'.objects[i]? = some { t with cb := none }
  ordered : Ordered tm' []
  left_due : (∀ i ∈ cbs.map Prod.fst, ∀ t, tm.objects[i]? = some t → t.recurring = true →
      now.toNat + t.ms.toNat < UInt64.size) →
    ∀ i ∈ tm'.timers, ∀ t, tm'.objects[i]? = some t → t.next ≤ now →
      t.recurring = true ∧ t.ms = 0

/-- A deadline that is not later than `now`, a period after it, is no period. -/
theorem ms_eq_zero {now ms : UInt64} (hover : now.toNat + ms.toNat < UInt64.size)
    (h : now + ms ≤ now) : ms = 0 := by
  rw [UInt64.le_iff_toNat_le, UInt64.toNat_add, Nat.mod_eq_of_lt hover] at h
  exact UInt64.toNat_inj.mp (by rw [UInt64.toNat_zero]; omega)

theorem Elapsed.left_due {tm tm' : TimerManager γ} {now : UInt64} {expired : List Nat}
    (spec : Elapsed tm now expired tm')
    (hlater : ∀ i ∈ tm.timers, i ∉ expired → ∀ t, tm.objects[i]? = some t → now < t.next)
    (hover : ∀ i ∈ expired, ∀ t, tm.objects[i]? = some t → t.recurring = true →
      now.toNat + t.ms.toNat < UInt64.size)
    {i : Nat} (hi : i ∈ tm'.timers) {t' : Timer γ} (ht' : tm'.objects[i]? = some t')
    (hdue : t'.next ≤ now) : t'.recurring = true ∧ t'.ms = 0 := by
  rw [spec.objects_eq] at ht'
  obtain ⟨t, ht, hexp⟩ := Option.map_eq_some_iff.mp ht'
  rcases (spec.mem_timers i).mp hi with ⟨hmem, hni⟩ | ⟨hmem, t1, ht1, hrec⟩
  · rw [if_neg hni] at hexp
    subst hexp
    exact absurd hdue (UInt64.not_le.mpr (hlater i hmem hni t ht))
  · cases ht.symm.trans ht1
    rw [if_pos hmem, Timer.expire, if_pos hrec] at hexp
    subst hexp
    exact ⟨hrec, ms_eq_zero (hover i hmem t ht hrec) hdue⟩

/-- `listExpiredCb` takes the timers that are due, all of them after a rollover, and
leaves every other timer alone, wherever the allocator puts its dummy. -/
theorem listExpiredCb_exact {tm : TimerManager γ} (h : Ordered tm []) (now : UInt64)
    (dummy : Nat) :
    ∃ rollover tm1 cbs tm', detectClockRollover now tm = .ok rollover tm1
      ∧ listExpiredCb now dummy tm = .ok cbs tm' ∧ TakesDue tm now rollover cbs tm' := by
  obtain ⟨tm', hok, spec, -⟩ := listExpiredCb_elapsed h now dummy
  refine ⟨tm.rolledOver now, _, _, tm', rfl, hok, ?_⟩
  have hfst : ((tm.expiredAt now dummy).map fun i => (i, tm.cbOf i)).map Prod.fst
      = tm.expiredAt now dummy := by
    simp [Function.comp_def]
  have htaken : tm.expiredAt now dummy
      = if tm.rolledOver now then tm.timers else tm.timers.filter (tm.due now) := by
    cases hroll : tm.rolledOver now with
    | true => exact expiredAt_rolledOver hroll
    | false => exact expiredAt_eq_filter h hroll
  have hsub := expiredAt_sublist tm now dummy
  have hlater : ∀ i ∈ tm.timers, i ∉ tm.expiredAt now dummy → ∀ t, tm.objects[i]? = some t →
      now < t.next := by
    intro i hi hni t ht
    refine UInt64.not_le.mp fun hdue => hni ?_
    rw [htaken]
    split
    · exact hi
    · exact List.mem_filter.mpr ⟨hi, (due_iff ht).mpr hdue⟩
  refine
    { taken := hfst.trans htaken
      callbacks := ?_
      once := by rw [hfst]; exact (h.sorted.nodup (less_strict tm)).sublist hsub
      in_order := ?_
      others := ?_
      recurring := ?_
      oneShot := ?_
      ordered := spec.ordered
      left_due := ?_ }
  · intro p hp
    obtain ⟨i, -, rfl⟩ := List.mem_map.mp hp
    rfl
  · rw [hfst]
    refine List.Pairwise.imp ?_ (h.sorted.sublist hsub)
    intro i j hij a b ha hb
    rw [TimerManager.less, ha, hb] at hij
    exact comparator_iff.mp hij
  · intro i hi
    rw [hfst] at hi
    refine ⟨?_, by simp [spec.objects_eq, hi]⟩
    rw [spec.mem_timers]
    simp [hi]
  · intro i hi t ht hrec
    rw [hfst] at hi
    refine ⟨(spec.mem_timers i).mpr (.inr ⟨hi, t, ht, hrec⟩), ?_⟩
    simp [spec.objects_eq, ht, hi, Timer.expire, hrec]
  · intro i hi t ht hrec
    rw [hfst] at hi
    refine ⟨?_, by simp [spec.objects_eq, ht, hi, Timer.expire, hrec]⟩
    rw [spec.mem_timers]
    simp [hi, ht, hrec]
  · intro hover i hi t ht hdue
    rw [hfst] at hover
    exact spec.left_due hlater hover hi ht hdue

/-- Two timers due at 10, on both sides of the dummy, and one that is not. -/
def threeTimers : TimerManager Nat :=
  { objects := [⟨8, false, 5, 10, some 0⟩, ⟨4, true, 0, 10, some 1⟩, ⟨6, true, 7, 20, some 2⟩]
    timers := [1, 0, 2], tickled := false, previousTime := 3, insertedAtFront := 0 }

theorem threeTimers_ordered : Ordered threeTimers [] where
  valid i hi := by
    simp only [threeTimers, List.mem_cons, List.not_mem_nil, or_false] at hi
    rcases hi with rfl | rfl | rfl <;> exact ⟨_, rfl⟩
  sorted := by unfold OrderedSet.Sorted; decide
  not_mem i hi := absurd hi List.not_mem_nil
  nodup := List.nodup_nil
  addr_inj i j a b hi hj ha hb hab := by
    simp only [threeTimers, List.mem_cons, List.not_mem_nil, or_false] at hi hj
    rcases hi with rfl | rfl | rfl <;> rcases hj with rfl | rfl | rfl <;>
      first | rfl | (cases ha; cases hb; cases hab)

theorem listExpiredCb_exact_three :
    ∃ rollover tm1 cbs tm', detectClockRollover 10 threeTimers = .ok rollover tm1
      ∧ listExpiredCb 10 6 threeTimers = .ok cbs tm' ∧ TakesDue threeTimers 10 rollover cbs tm' :=
  listExpiredCb_exact threeTimers_ordered 10 6

end Timers

end HrServer
