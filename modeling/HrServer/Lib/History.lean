/-
HrServer.Lib.History — what stands after a history of edits.

An event may enter a value under a key, take a key out, or say nothing:
`touch e` is `some (k, some b)`, `some (k, none)` or `none`. An entry
stands when no later event touched its key. `Stands` says so with the
time of the event; `standing` computes the entries that stand, the oldest
first.

* `standing_concat` — one more event drops what it touches and appends what
  it enters, which is how a table that is kept in this order is updated;
* `find?_standing` — the first entry that passes a test is the oldest of
  those that stand and pass it;
* `latest_concat` — a table that is kept by key is updated by key.
-/
import Mathlib.Data.List.Basic

namespace HrServer.Lib.History

variable {ε κ β : Type} [DecidableEq κ] (touch : ε → Option (κ × Option β))

/-- The event edits the entry of `k`. -/
def touches (k : κ) (e : ε) : Bool := (touch e).any fun r => decide (r.1 = k)

/-- The entries that stand, in the order in which they were entered. -/
def standing : List ε → List (κ × β)
  | [] => []
  | e :: es =>
    match touch e with
    | some (k, some b) => if es.any (touches touch k) then standing es else (k, b) :: standing es
    | _ => standing es

/-- The event at time `t` entered `b` under `k`, and none has touched `k` since. -/
def Stands (es : List ε) (t : Nat) (k : κ) (b : β) : Prop :=
  es[t]?.bind touch = some (k, some b)
    ∧ ∀ t', t < t' → ∀ e, es[t']? = some e → touches touch k e = false

variable {touch}

theorem touches_of_eq {e : ε} {k : κ} {r : Option β} (h : touch e = some (k, r)) (k' : κ) :
    touches touch k' e = decide (k = k') := by
  simp [touches, h]

theorem touches_of_none {e : ε} (h : touch e = none) (k : κ) : touches touch k e = false := by
  simp [touches, h]

/-- An event that enters something is the oldest entry, unless it is touched later. -/
theorem standing_cons {e : ε} {es : List ε} {k : κ} {b : β} (h : touch e = some (k, some b)) :
    standing touch (e :: es)
      = if es.any (touches touch k) then standing touch es else (k, b) :: standing touch es := by
  simp [standing, h]

/-- An event that enters nothing. -/
theorem standing_cons_of_ne {e : ε} {es : List ε} (h : ∀ k b, touch e ≠ some (k, some b)) :
    standing touch (e :: es) = standing touch es := by
  rw [standing]
  split
  · next k b heq => exact absurd heq (h k b)
  · rfl

omit [DecidableEq κ] in
theorem enters_or (touch : ε → Option (κ × Option β)) (e : ε) :
    (∃ k b, touch e = some (k, some b)) ∨ ∀ k b, touch e ≠ some (k, some b) := by
  by_cases h : ∃ k b, touch e = some (k, some b)
  · exact .inl h
  · push Not at h
    exact .inr h

/-! ## One more event -/

/-- The entry that an event makes. -/
def entered (touch : ε → Option (κ × Option β)) (e : ε) : List (κ × β) :=
  match touch e with
  | some (k, some b) => [(k, b)]
  | _ => []

omit [DecidableEq κ] in
theorem entered_of_ne {e : ε} (h : ∀ k b, touch e ≠ some (k, some b)) : entered touch e = [] := by
  rw [entered]
  split
  · next k b heq => exact absurd heq (h k b)
  · rfl

/-- The last event drops what it touches and appends what it enters. -/
theorem standing_concat (es : List ε) (e : ε) :
    standing touch (es ++ [e])
      = (standing touch es).filter (fun p => !touches touch p.1 e) ++ entered touch e := by
  induction es with
  | nil =>
    rcases enters_or touch e with ⟨k, b, h⟩ | h
    · simp [standing, entered, h]
    · rw [List.nil_append, standing_cons_of_ne h, entered_of_ne h]
      simp [standing]
  | cons e' es ih =>
    rcases enters_or touch e' with ⟨k, b, h⟩ | h
    · rw [List.cons_append, standing_cons h, standing_cons h, ih, List.any_append]
      cases hes : es.any (touches touch k) with
      | true => simp
      | false =>
        cases he : touches touch k e <;> simp [he]
    · rw [List.cons_append, standing_cons_of_ne h, standing_cons_of_ne h, ih]

theorem not_touches_of_mem {es : List ε} {k : κ} (h : es.any (touches touch k) = false) {p : κ × β}
    (hp : p ∈ standing touch es) : p.1 ≠ k := by
  induction es with
  | nil => cases hp
  | cons e es ih =>
    rw [List.any_cons, Bool.or_eq_false_iff] at h
    rcases enters_or touch e with ⟨k', b, he⟩ | he
    · rw [standing_cons he] at hp
      rw [touches_of_eq he] at h
      split at hp
      · exact ih h.2 hp
      · rcases List.mem_cons.mp hp with rfl | hp
        · simpa using h.1
        · exact ih h.2 hp
    · rw [standing_cons_of_ne he] at hp
      exact ih h.2 hp

/-- A key has at most one standing entry. -/
theorem standing_nodup (es : List ε) : ((standing touch es).map Prod.fst).Nodup := by
  induction es with
  | nil => simp [standing]
  | cons e es ih =>
    rcases enters_or touch e with ⟨k, b, h⟩ | h
    · rw [standing_cons h]
      split
      · exact ih
      · next hany =>
        refine List.nodup_cons.mpr ⟨?_, ih⟩
        intro hmem
        obtain ⟨p, hp, hpk⟩ := List.mem_map.mp hmem
        exact not_touches_of_mem (by simpa using hany) hp hpk
    · rw [standing_cons_of_ne h]
      exact ih

/-- Without the events that touch `k`, everything stands but the entry of `k`. -/
theorem standing_filter (es : List ε) (k : κ) :
    standing touch (es.filter fun e => !touches touch k e)
      = (standing touch es).filter fun p => !decide (p.1 = k) := by
  have hany : ∀ (k' : κ) (es : List ε), k' ≠ k →
      (es.filter fun e => !touches touch k e).any (touches touch k')
        = es.any (touches touch k') := by
    intro k' es hne
    rw [List.any_filter]
    congr 1
    funext e
    cases hk' : touches touch k' e with
    | false => simp
    | true =>
      obtain ⟨r, hr, hrk⟩ : ∃ r, touch e = some r ∧ r.1 = k' := by
        simpa [touches, Option.any_eq_true] using hk'
      simp [touches, hr, hrk, hne]
  induction es with
  | nil => rfl
  | cons e es ih =>
    rw [List.filter_cons]
    rcases enters_or touch e with ⟨k', b, h⟩ | h
    · rw [touches_of_eq h, standing_cons h]
      by_cases hk : k' = k
      · subst hk
        rw [if_neg (by simp), ih]
        split
        · rfl
        · simp
      · rw [if_pos (by simp [hk]), standing_cons h, ih, hany k' es hk]
        split
        · rfl
        · simp [hk]
    · rw [standing_cons_of_ne h]
      split
      · rw [standing_cons_of_ne h, ih]
      · exact ih

/-- Events that edit nothing can be left out. -/
theorem standing_filter_of_none {es : List ε} {keep : ε → Bool}
    (h : ∀ e ∈ es, keep e = false → touch e = none) :
    standing touch (es.filter keep) = standing touch es := by
  induction es with
  | nil => rfl
  | cons e es ih =>
    have hrest := ih fun e' he' => h e' (List.mem_cons_of_mem e he')
    cases hkeep : keep e with
    | false =>
      have hnone := h e List.mem_cons_self hkeep
      rw [List.filter_cons_of_neg (by simp [hkeep]), hrest, standing_cons_of_ne (by simp [hnone])]
    | true =>
      rw [List.filter_cons_of_pos hkeep]
      rcases enters_or touch e with ⟨k, b, he⟩ | he
      · have hany : (es.filter keep).any (touches touch k) = es.any (touches touch k) := by
          rw [List.any_filter, Bool.eq_iff_iff]
          simp only [List.any_eq_true, Bool.and_eq_true]
          refine exists_congr fun e' => and_congr_right fun he' => ?_
          refine ⟨And.right, fun ht => ⟨?_, ht⟩⟩
          cases hk' : keep e' with
          | true => rfl
          | false =>
            rw [touches_of_none (h e' (List.mem_cons_of_mem e he') hk')] at ht
            cases ht
        rw [standing_cons he, standing_cons he, hany, hrest]
      · rw [standing_cons_of_ne he, standing_cons_of_ne he, hrest]

/-! ## By time -/

theorem stands_succ {e : ε} {es : List ε} {t : Nat} {k : κ} {b : β} :
    Stands touch (e :: es) (t + 1) k b ↔ Stands touch es t k b := by
  unfold Stands
  simp only [List.getElem?_cons_succ]
  refine and_congr_right fun _ => ⟨fun h t' ht' e' he' => ?_, fun h t' ht' e' he' => ?_⟩
  · exact h (t' + 1) (by omega) e' (by simpa using he')
  · obtain ⟨t'', rfl⟩ : ∃ t'', t' = t'' + 1 := ⟨t' - 1, by omega⟩
    exact h t'' (by omega) e' (by simpa using he')

theorem stands_zero {e : ε} {es : List ε} {k : κ} {b : β} :
    Stands touch (e :: es) 0 k b
      ↔ touch e = some (k, some b) ∧ es.any (touches touch k) = false := by
  unfold Stands
  simp only [List.getElem?_cons_zero, Option.bind_some, List.any_eq_false, Bool.not_eq_true]
  refine and_congr_right fun _ => ⟨fun h e' he' => ?_, fun h t' ht' e' he' => ?_⟩
  · obtain ⟨i, hi⟩ := List.mem_iff_getElem?.mp he'
    exact h (i + 1) (by omega) e' (by simpa using hi)
  · obtain ⟨t'', rfl⟩ : ∃ t'', t' = t'' + 1 := ⟨t' - 1, by omega⟩
    rw [List.getElem?_cons_succ] at he'
    exact h e' (List.mem_of_getElem? he')

theorem mem_standing_iff {es : List ε} {k : κ} {b : β} :
    (k, b) ∈ standing touch es ↔ ∃ t, Stands touch es t k b := by
  induction es with
  | nil => simp [standing, Stands]
  | cons e es ih =>
    have hcases : (∃ t, Stands touch (e :: es) t k b)
        ↔ Stands touch (e :: es) 0 k b ∨ ∃ t, Stands touch es t k b := by
      constructor
      · rintro ⟨t, ht⟩
        cases t with
        | zero => exact .inl ht
        | succ t => exact .inr ⟨t, stands_succ.mp ht⟩
      · rintro (h | ⟨t, ht⟩)
        · exact ⟨0, h⟩
        · exact ⟨t + 1, stands_succ.mpr ht⟩
    rw [hcases, stands_zero, ← ih]
    rcases enters_or touch e with ⟨k', b', h⟩ | h
    · rw [standing_cons h, h]
      cases hany : es.any (touches touch k') with
      | true =>
        constructor
        · exact .inr
        · rintro (⟨heq, hnot⟩ | hmem)
          · cases heq
            rw [hany] at hnot
            cases hnot
          · exact hmem
      | false =>
        simp only [Bool.false_eq_true, if_false, List.mem_cons, Prod.mk.injEq, Option.some.injEq]
        constructor
        · rintro (⟨rfl, rfl⟩ | hmem)
          · exact .inl ⟨⟨rfl, rfl⟩, hany⟩
          · exact .inr hmem
        · rintro (⟨⟨rfl, rfl⟩, -⟩ | hmem)
          · exact .inl ⟨rfl, rfl⟩
          · exact .inr hmem
    · rw [standing_cons_of_ne h]
      simp [h]

/-- The first entry that passes a test is the oldest one. -/
theorem find?_standing {es : List ε} {t : Nat} {k : κ} {b : β} {p : κ × β → Bool}
    (h : Stands touch es t k b) (hp : p (k, b) = true)
    (hmin : ∀ t' k' b', Stands touch es t' k' b' → p (k', b') = true → t ≤ t') :
    (standing touch es).find? p = some (k, b) := by
  induction es generalizing t with
  | nil => simp [Stands] at h
  | cons e es ih =>
    cases t with
    | zero =>
      obtain ⟨he, hany⟩ := stands_zero.mp h
      rw [standing_cons he, hany]
      simp [hp]
    | succ t =>
      have hrest : (standing touch es).find? p = some (k, b) := by
        refine ih (stands_succ.mp h) ?_
        intro t' k' b' ht' hp'
        have := hmin (t' + 1) k' b' (stands_succ.mpr ht') hp'
        omega
      rcases enters_or touch e with ⟨k', b', he⟩ | he
      · rw [standing_cons he]
        split
        · exact hrest
        · next hany =>
          -- an older entry that passes would be the minimum
          have hnot : p (k', b') = false := by
            cases hp' : p (k', b') with
            | false => rfl
            | true =>
              have := hmin 0 k' b' (stands_zero.mpr ⟨he, by simpa using hany⟩) hp'
              omega
          rw [List.find?_cons_of_neg (by simp [hnot]), hrest]
      · rw [standing_cons_of_ne he, hrest]

/-! ## Look-up -/

variable (touch) in
/-- The value that stands under `k`. -/
def latest (es : List ε) (k : κ) : Option β :=
  ((standing touch es).find? fun p => decide (p.1 = k)).map Prod.snd

theorem latest_eq_some_iff {es : List ε} {k : κ} {b : β} :
    latest touch es k = some b ↔ ∃ t, Stands touch es t k b := by
  rw [← mem_standing_iff, latest, Option.map_eq_some_iff]
  constructor
  · rintro ⟨⟨k', b'⟩, hfind, rfl⟩
    have hk : k' = k := by simpa using List.find?_some hfind
    rw [← hk]
    exact List.mem_of_find?_eq_some hfind
  · intro hmem
    obtain ⟨t, ht⟩ := mem_standing_iff.mp hmem
    refine ⟨(k, b), find?_standing ht (by simp) ?_, rfl⟩
    -- two entries of one key are one: the later of two would have touched the other
    rintro t' k' b' ht' hk'
    have hkk : k' = k := by simpa using hk'
    subst hkk
    by_contra hlt
    obtain ⟨e, he, htouch⟩ := Option.bind_eq_some_iff.mp ht.1
    have := ht'.2 t (by omega) e he
    rw [touches_of_eq htouch] at this
    simp at this

/-- One more event settles its own key and leaves the others. -/
theorem latest_concat (es : List ε) (e : ε) (k : κ) :
    latest touch (es ++ [e]) k
      = match touch e with
        | some (k', r) => if k' = k then r else latest touch es k
        | none => latest touch es k := by
  unfold latest
  rw [standing_concat, List.find?_append, List.find?_filter]
  cases htouch : touch e with
  | none => simp [touches, entered, htouch]
  | some r =>
    obtain ⟨k', r⟩ := r
    have hfilter : (fun p : κ × β => decide ((!touches touch p.1 e) = true
          ∧ decide (p.1 = k) = true))
        = fun p => decide (p.1 = k) && !decide (k' = k) := by
      funext p
      rw [touches_of_eq htouch]
      by_cases hp : p.1 = k
      · simp [hp]
      · simp [hp]
    rw [hfilter]
    by_cases hk : k' = k
    · subst hk
      have hnone : (standing touch es).find? (fun p => decide (p.1 = k') && !decide (k' = k'))
          = none := List.find?_eq_none.mpr (by simp)
      rw [hnone]
      cases r <;> simp [entered, htouch]
    · cases r <;> simp [entered, htouch, hk]

end HrServer.Lib.History
