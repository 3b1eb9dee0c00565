import TraceRelay.Proofs.Dict
import TraceRelay.Proofs.Sampling.Interval
import TraceRelay.Proofs.Sampling.Text
import TraceRelay.Sampling.Backfill

/-!
# What a backfill leaves behind

A usable value stays; else a drawn value is written, or, where the interval is empty, the value is
taken out (`backfill?_cases`). The rate stays as it was.
-/

namespace TraceRelay

open Binary64

def incomingRand? (items : Items) : Option Binary64 := (items.get? ItemKey.sampleRand).bind fraction?

theorem isFraction_of_fraction? {text : String} {v : Binary64} (h : fraction? text = some v) :
    v.isFraction = true := (Option.filter_eq_some_iff.1 h).2

theorem isFraction_of_incomingRand? {items : Items} {v : Binary64} (h : incomingRand? items = some v) :
    v.isFraction = true := by
  obtain ⟨text, -, ht⟩ := Option.bind_eq_some_iff.1 h
  exact isFraction_of_fraction? ht

theorem isRate_of_incomingRate? {items : Items} {r : Binary64} (h : incomingRate? items = some r) :
    r.isRate = true := by
  obtain ⟨text, -, ht⟩ := Option.bind_eq_some_iff.1 h
  exact (Option.filter_eq_some_iff.1 ht).2

theorem incomingRand?_empty : incomingRand? .empty = none := rfl

theorem incomingRate?_empty : incomingRate? .empty = none := rfl

theorem incomingRand?_insert (items : Items) (v : Binary64) :
    incomingRand? (items.insert ItemKey.sampleRand (randText v)) = some (quantize v) := by
  rw [incomingRand?, Dict.get?_insert, if_pos rfl, Option.bind_some, fraction?_randText]

theorem incomingRand?_erase (items : Items) : incomingRand? (items.erase ItemKey.sampleRand) = none := by
  rw [incomingRand?, Dict.get?_erase, if_pos rfl]; rfl

theorem sampleRate_ne_sampleRand : ItemKey.sampleRate ≠ ItemKey.sampleRand := by decide

theorem isUsable_eq (text : String) : isUsable text = (fraction? text).isSome := by
  unfold isUsable rate? fraction?
  cases number? text with
  | none => rfl
  | some v =>
    by_cases hv : v.isFraction = true
    · have hlt := lt_one_of_isFraction hv
      have hrate : v.isRate = true := by
        rw [isFraction, Bool.and_eq_true] at hv
        exact Bool.and_eq_true_iff.2 ⟨hv.1, le_of_lt hlt⟩
      simp [Option.filter, hv, hrate, lt_def.1 hlt]
    · have hn : ¬(v.isRate = true ∧ v.lt one = true) := fun ⟨hr, hlt⟩ =>
        hv (isFraction_of_le_of_lt (zero_le_of_isRate hr) hlt)
      by_cases hr : v.isRate = true <;> simp_all [Option.filter]

theorem usableRand?_eq_none {items : Items} : usableRand? items = none ↔ incomingRand? items = none := by
  unfold usableRand? incomingRand?
  cases items.get? ItemKey.sampleRand with
  | none => simp
  | some text => rw [Option.filter_some, isUsable_eq]; cases h : fraction? text <;> simp [h]

variable {limit : Nat} {traceId : String} {sampled : Option Bool} {items items' : Items} {text : Option String}

theorem backfill?_cases (h : backfill? limit traceId sampled items = some (text, items')) :
    ((incomingRand? items).isSome ∧ items' = items) ∨
      (incomingRand? items = none ∧ ∃ v, drawFrom limit traceId (backfillInterval sampled items) = .value v ∧
        items' = items.insert ItemKey.sampleRand (randText v)) ∨
      (incomingRand? items = none ∧ (backfillInterval sampled items).isEmpty = true ∧
        items' = items.erase ItemKey.sampleRand) := by
  unfold backfill? at h
  split at h
  · rename_i hu
    cases h
    refine .inl ⟨Option.isSome_iff_ne_none.2 fun hn => ?_, rfl⟩
    rw [usableRand?_eq_none.2 hn] at hu; cases hu
  · rename_i hu
    have hn := usableRand?_eq_none.1 hu
    split at h <;> cases h
    · rename_i hv
      exact .inr (.inl ⟨hn, _, hv, rfl⟩)
    · rename_i i he
      exact .inr (.inr ⟨hn, Interval.isEmpty_iff.2 (drawFrom_eq_emptyInterval_iff.1 he).2, rfl⟩)

theorem get?_backfill_of_ne (h : backfill? limit traceId sampled items = some (text, items')) {k : String}
    (hk : k ≠ ItemKey.sampleRand) : items'.get? k = items.get? k := by
  obtain ⟨-, rfl⟩ | ⟨-, v, -, rfl⟩ | ⟨-, -, rfl⟩ := backfill?_cases h
  · rfl
  · rw [Dict.get?_insert, if_neg hk]
  · rw [Dict.get?_erase, if_neg hk]

theorem incomingRate?_backfill (h : backfill? limit traceId sampled items = some (text, items')) :
    incomingRate? items' = incomingRate? items := by
  rw [incomingRate?, get?_backfill_of_ne h sampleRate_ne_sampleRand]; rfl

def Usable (items : Items) : Prop := ∀ text, items.get? ItemKey.sampleRand = some text → (fraction? text).isSome

theorem usable_empty : Usable .empty := fun _ h => nomatch h

theorem usable_of_backfill (h : backfill? limit traceId sampled items = some (text, items')) : Usable items' := by
  intro written hw
  obtain ⟨hs, rfl⟩ | ⟨-, v, -, rfl⟩ | ⟨-, -, rfl⟩ := backfill?_cases h
  · rwa [incomingRand?, hw] at hs
  · rw [Dict.get?_insert, if_pos rfl, Option.some_inj] at hw
    rw [← hw, fraction?_randText]; rfl
  · rw [Dict.get?_erase, if_pos rfl] at hw; cases hw

theorem backfill?_unique {limit' : Nat} {r r' : Option String × Items}
    (h : backfill? limit traceId sampled items = some r) (h' : backfill? limit' traceId sampled items = some r') :
    r = r' := by
  unfold backfill? at h h'
  cases hu : usableRand? items with
  | some text =>
    rw [hu] at h h'
    exact Option.some_inj.1 (h.symm.trans h')
  | none =>
    rw [hu] at h h'
    simp only at h h'
    have hne : drawFrom limit traceId (backfillInterval sampled items) ≠ .exhausted := fun he => by simp [he] at h
    have hne' : drawFrom limit' traceId (backfillInterval sampled items) ≠ .exhausted := fun he => by simp [he] at h'
    rw [drawFrom_unique hne hne'] at h
    exact Option.some_inj.1 (h.symm.trans h')

/-! ## One value for a trace -/

def IsExtreme (r : Binary64) : Prop := ¬zero < r ∨ ¬r < one

theorem isExtreme_of_isEmpty (h : (backfillInterval sampled items).isEmpty = true) :
    ∃ r f, incomingRate? items = some r ∧ sampled = some f ∧ (if f then ¬zero < r else ¬r < one) := by
  rw [Interval.isEmpty_iff] at h
  unfold backfillInterval at h
  cases hr : incomingRate? items with
  | none => rcases sampled with _ | _ | _ <;> simp [hr, Interval.agreeing, zero_lt_one] at h
  | some r =>
    rcases sampled with _ | _ | _ <;> simp only [hr, Interval.agreeing] at h
    · exact absurd zero_lt_one h
    · exact ⟨r, false, rfl, rfl, by simpa using h⟩
    · exact ⟨r, true, rfl, rfl, by simpa using h⟩

/-- At the ends of its range a rate leaves all of `[0, 1)` to the draw. -/
theorem derive_of_drawFrom {v : Binary64} (he : ∀ r, incomingRate? items = some r → IsExtreme r)
    (h : drawFrom limit traceId (backfillInterval sampled items) = .value v) : v = derive traceId := by
  have hwhole : ∀ {w}, drawFrom limit traceId ⟨.zero, .one⟩ = .value w → w = derive traceId :=
    derive_of_drawFrom_unit (z := .zero false) rfl
  have hlt := (drawFrom_eq_value_iff.1 h).1
  unfold backfillInterval at h hlt
  cases hr : incomingRate? items with
  | none => rcases sampled with _ | _ | _ <;> simp only [hr, Interval.agreeing] at h <;> exact hwhole h
  | some r =>
    have hrate := isRate_of_incomingRate? hr
    rcases sampled with _ | _ | _ <;> simp only [hr, Interval.agreeing] at h hlt
    · exact hwhole h
    · -- above `r` there is something, so `r` is zero
      obtain ⟨z, rfl, -, -⟩ := isRate_iff.1 hrate
      have hz := units_eq_zero_of_isRate hrate ((he _ hr).resolve_right fun h1 => h1 hlt)
      exact derive_of_drawFrom_unit (Finite.magnitude_eq_zero hz) h
    · -- below `r` there is something, so `r` is one
      rw [eq_one_of_isRate hrate ((he _ hr).resolve_left fun h0 => h0 hlt)] at h
      exact hwhole h

/-- The random value of a trace is the one that its items hold; or they hold none, and a backfill
could only write the derived one. -/
inductive RandKept (traceId : String) (items : Items) (rand : Binary64) : Prop where
  | held (h : incomingRand? items = some rand)
  | derived (h : incomingRand? items = none) (hd : rand = quantize (derive traceId))
    (he : ∀ r, incomingRate? items = some r → IsExtreme r)

theorem randKept_empty (traceId : String) : RandKept traceId .empty (quantize (derive traceId)) :=
  .derived incomingRand?_empty rfl fun r hr => by rw [incomingRate?_empty] at hr; cases hr

theorem RandKept.getD {rand : Binary64} (h : RandKept traceId items rand) :
    (incomingRand? items).getD (quantize (derive traceId)) = rand := by
  cases h with
  | held h => rw [h, Option.getD_some]
  | derived h hd => rw [h, hd, Option.getD_none]

theorem randKept_of_backfill (h : backfill? limit traceId sampled items = some (text, items')) :
    RandKept traceId items' ((incomingRand? items').getD (quantize (derive traceId))) := by
  have hrate := incomingRate?_backfill h
  obtain ⟨hs, rfl⟩ | ⟨-, v, -, rfl⟩ | ⟨-, hempty, rfl⟩ := backfill?_cases h
  · obtain ⟨v, hv⟩ := Option.isSome_iff_exists.1 hs
    exact .held (by rw [hv, Option.getD_some])
  · exact .held (by rw [incomingRand?_insert, Option.getD_some])
  · obtain ⟨r, f, hr, -, hf⟩ := isExtreme_of_isEmpty hempty
    refine .derived (incomingRand?_erase _) (by rw [incomingRand?_erase, Option.getD_none]) fun r' hr' => ?_
    rw [hrate, hr] at hr'
    cases hr'
    cases f
    · exact .inr (by simpa using hf)
    · exact .inl (by simpa using hf)

theorem RandKept.backfill {rand : Binary64} (hk : RandKept traceId items rand)
    (h : backfill? limit traceId sampled items = some (text, items')) : RandKept traceId items' rand := by
  have hrate := incomingRate?_backfill h
  obtain ⟨hs, rfl⟩ | ⟨hn, v, hv, rfl⟩ | ⟨hn, -, rfl⟩ := backfill?_cases h
  · exact hk
  · cases hk with
    | held hr => rw [hn] at hr; cases hr
    | derived _ hd he => exact .held (by rw [incomingRand?_insert, derive_of_drawFrom he hv, hd])
  · cases hk with
    | held hr => rw [hn] at hr; cases hr
    | derived _ hd he => exact .derived (incomingRand?_erase _) hd fun r hr => he r (hrate ▸ hr)

/-! ## Backfilling twice -/

/-- Items that a further backfill leaves as they are: they hold a usable random value, or none where
none can be had. -/
inductive Completed (sampled : Option Bool) (items : Items) : Prop where
  | usable (h : (incomingRand? items).isSome)
  | impossible (hn : items.get? ItemKey.sampleRand = none) (he : (backfillInterval sampled items).isEmpty = true)

theorem completed_of_backfill (h : backfill? limit traceId sampled items = some (text, items')) :
    Completed sampled items' := by
  have hrate := incomingRate?_backfill h
  obtain ⟨hs, rfl⟩ | ⟨-, v, -, rfl⟩ | ⟨-, he, rfl⟩ := backfill?_cases h
  · exact .usable hs
  · exact .usable (by rw [incomingRand?_insert]; rfl)
  · refine .impossible (by rw [Dict.get?_erase, if_pos rfl]) ?_
    rwa [backfillInterval, hrate]

/-- No draw is made for completed items, so none is searched for in vain. -/
theorem Completed.backfill (h : Completed sampled items) (limit : Nat) (traceId : String) :
    ∃ text, backfill? limit traceId sampled items = some (text, items) := by
  unfold backfill?
  cases h with
  | usable h =>
    cases hu : usableRand? items with
    | none => rw [usableRand?_eq_none.1 hu] at h; cases h
    | some text => exact ⟨some text, rfl⟩
  | impossible hn he =>
    have hu : usableRand? items = none := usableRand?_eq_none.2 (by rw [incomingRand?, hn]; rfl)
    rw [hu, drawFrom_of_isEmpty he]
    exact ⟨none, by rw [Dict.erase_eq_self hn]⟩

theorem Completed.isEmpty_eq_false (h : Completed sampled items) : items.isEmpty = false := by
  refine Bool.eq_false_iff.2 fun hempty => ?_
  have hget := Dict.get?_of_isEmpty hempty
  cases h with
  | usable h => rw [incomingRand?, hget] at h; cases h
  | impossible hn he =>
    obtain ⟨r, f, hr, -⟩ := isExtreme_of_isEmpty he
    rw [incomingRate?, hget] at hr
    cases hr

end TraceRelay
