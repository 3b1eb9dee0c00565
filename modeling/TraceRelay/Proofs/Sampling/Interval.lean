import TraceRelay.Proofs.Draw.Stream
import TraceRelay.Sampling.Interval

/-!
# What is drawn from an interval

The draws of a trace are tried in order until one is placed below the upper end of the interval
(`firstBelow_eq_some_iff`). A drawn value lies in its interval, whatever the ends: below the upper one by
the search, not below the lower one since nothing negative is added to it (`mem_of_drawFrom`). From all
of `[0, 1)` the first draw is taken (`drawFrom_unit`).
-/

namespace TraceRelay

open Binary64

namespace Interval

theorem place_eq (i : Interval) (d : Binary64) : i.place d = i.lower + (i.upper - i.lower) * d := rfl

theorem not_place_lt_of_infinite {x d : Finite} {upper : Binary64} (hd : d.negative = false)
    (hw : upper - .finite x = .infinite false) : ¬place ⟨.finite x, upper⟩ (.finite d) < upper := by
  have hmul : Binary64.infinite false * .finite d =
      if d.magnitude = 0 then .nan else .infinite (false != d.negative) := rfl
  rw [place_eq]
  simp only
  rw [hw, hmul, hd]
  split
  · intro h
    cases h
  · intro h
    cases upper <;> cases h

theorem le_place {x y d : Finite} (hxy : x.units < y.units) (hd : d.negative = false)
    (h : place ⟨.finite x, .finite y⟩ (.finite d) < .finite y) :
    Binary64.finite x ≤ place ⟨.finite x, .finite y⟩ (.finite d) := by
  rcases sub_cases hxy with ⟨z, hz, hzs⟩ | hz
  · rw [place_eq] at h ⊢
    simp only [hz] at h ⊢
    rcases mul_cases hzs hd with ⟨w, hw, hws⟩ | hw <;> rw [hw] at h ⊢
    · exact le_add (by rw [Finite.units_of_nonneg hws]; omega)
    · cases h
  · exact absurd h (not_place_lt_of_infinite hd hz)

theorem place_from_zero {z x d w : Finite} (hz : z.magnitude = 0) (hx : x.negative = false)
    (hmul : Binary64.finite x * .finite d = .finite w) (hw : w.negative = false) :
    place ⟨.finite z, .finite x⟩ (.finite d) = .finite w := by
  rw [place_eq]
  simp only
  rw [sub_zero hz hx, hmul, zero_add hz hw]

theorem place_unit {z d : Finite} (hz : z.magnitude = 0) (hd : d.negative = false) :
    place ⟨.finite z, .one⟩ (.finite d) = .finite d := by
  have hmul := one_mul hd
  rw [one_eq] at hmul ⊢
  exact place_from_zero hz rfl hmul hd

/-- Whatever the ends, what is placed below the upper one does not lie below the lower one. -/
theorem lower_le_place {i : Interval} {d : Finite} (hi : i.lower < i.upper) (hd : d.negative = false)
    (h : i.place (.finite d) < i.upper) : i.lower ≤ i.place (.finite d) := by
  obtain ⟨lower, upper⟩ := i
  cases lower with
  | nan => cases upper <;> cases hi
  | infinite negative =>
    cases negative with
    | false => cases upper <;> cases hi
    | true =>
      -- only what is not a number does not lie above this end
      generalize place ⟨.infinite true, upper⟩ (.finite d) = v at h ⊢
      cases v with
      | nan => cases h
      | infinite negative => rfl
      | finite v => rfl
  | finite x =>
    cases upper with
    | nan => cases hi
    | infinite negative =>
      cases negative with
      | true => cases hi
      | false => exact absurd h (not_place_lt_of_infinite hd rfl)
    | finite y => exact le_place (finite_lt_finite.1 hi) hd h

/-! ## The search -/

/-- `d` is the first draw that is placed below the upper end; the draws before it were tried in vain. -/
structure FirstPlaced (i : Interval) (t : Twister) (tried : List Binary64) (d : Binary64) : Prop where
  draws : t.draws 0 (tried.length + 1) = tried ++ [d]
  rejected : ∀ e ∈ tried, ¬i.place e < i.upper
  accepted : i.place d < i.upper

section
variable {i : Interval} {t : Twister} {tried : List Binary64} {e d v : Binary64}

theorem draws_zero_succ (t : Twister) (count : Nat) :
    t.draws 0 (count + 1) = t.draw.1 :: t.draw.2.draws 0 count := by
  rw [Twister.draws]

theorem firstPlaced_nil : i.FirstPlaced t [] d ↔ d = t.draw.1 ∧ i.place d < i.upper := by
  constructor
  · intro h
    have hd := h.draws
    rw [List.length_nil, draws_zero_succ, List.nil_append] at hd
    exact ⟨(List.cons.inj hd).1.symm, h.accepted⟩
  · rintro ⟨rfl, h⟩
    refine ⟨?_, fun _ he => absurd he List.not_mem_nil, h⟩
    rw [List.length_nil, draws_zero_succ, Twister.draws]
    rfl

theorem firstPlaced_cons : i.FirstPlaced t (e :: tried) d ↔
    e = t.draw.1 ∧ ¬i.place e < i.upper ∧ i.FirstPlaced t.draw.2 tried d := by
  constructor
  · intro h
    have hd := h.draws
    rw [List.length_cons, draws_zero_succ, List.cons_append] at hd
    obtain ⟨he, hd⟩ := List.cons.inj hd
    exact ⟨he.symm, h.rejected e List.mem_cons_self, hd,
      fun e' he' => h.rejected e' (List.mem_cons_of_mem _ he'), h.accepted⟩
  · rintro ⟨rfl, he, h⟩
    refine ⟨?_, List.forall_mem_cons.2 ⟨he, h.rejected⟩, h.accepted⟩
    rw [List.length_cons, draws_zero_succ, h.draws, List.cons_append]

theorem firstBelow_eq_some_iff {limit : Nat} : i.firstBelow limit t = some v ↔
    ∃ tried d, i.FirstPlaced t tried d ∧ tried.length < limit ∧ v = i.place d := by
  induction limit generalizing t with
  | zero => simp [firstBelow]
  | succ limit ih =>
    rw [firstBelow]
    by_cases hlt : i.place t.draw.1 < i.upper
    · -- the next draw is taken, and none is tried in vain
      rw [if_pos hlt, Option.some_inj]
      constructor
      · rintro rfl
        exact ⟨[], t.draw.1, firstPlaced_nil.2 ⟨rfl, hlt⟩, Nat.succ_pos limit, rfl⟩
      · rintro ⟨tried, d, h, -, rfl⟩
        cases tried with
        | nil => rw [(firstPlaced_nil.1 h).1]
        | cons e tried =>
          obtain ⟨rfl, he, -⟩ := firstPlaced_cons.1 h
          exact absurd hlt he
    · rw [if_neg hlt, ih]
      constructor
      · rintro ⟨tried, d, h, hlen, rfl⟩
        exact ⟨t.draw.1 :: tried, d, firstPlaced_cons.2 ⟨rfl, hlt, h⟩, Nat.succ_lt_succ hlen, rfl⟩
      · rintro ⟨tried, d, h, hlen, rfl⟩
        cases tried with
        | nil =>
          obtain ⟨rfl, hd⟩ := firstPlaced_nil.1 h
          exact absurd hd hlt
        | cons e tried => exact ⟨tried, d, (firstPlaced_cons.1 h).2.2, Nat.lt_of_succ_lt_succ hlen, rfl⟩

theorem FirstPlaced.exists_draw (h : i.FirstPlaced t tried d) : ∃ u : Twister, d = u.draw.1 := by
  induction tried generalizing t with
  | nil => exact ⟨t, (firstPlaced_nil.1 h).1⟩
  | cons e tried ih => exact ih (firstPlaced_cons.1 h).2.2

end

/-- How many draws are allowed does not matter to a search that ends. -/
theorem firstBelow_unique {i : Interval} {v v' : Binary64} {limit limit' : Nat} {t : Twister}
    (h : i.firstBelow limit t = some v) (h' : i.firstBelow limit' t = some v') : v = v' := by
  induction limit generalizing limit' t with
  | zero => cases h
  | succ limit ih =>
    cases limit' with
    | zero => cases h'
    | succ limit' =>
      rw [firstBelow] at h h'
      by_cases hlt : i.place t.draw.1 < i.upper
      · rw [if_pos hlt, Option.some_inj] at h h'
        rw [← h, ← h']
      · rw [if_neg hlt] at h h'
        exact ih h h'

theorem isEmpty_iff {i : Interval} : i.isEmpty = true ↔ ¬i.lower < i.upper := by
  rw [isEmpty, lt_def, Bool.not_eq_true, Bool.not_eq_true']

end Interval

/-! ## Drawing -/

variable {limit : Nat} {traceId : String}

theorem drawFrom_eq_value_iff {i : Interval} {v : Binary64} : drawFrom limit traceId i = .value v ↔
    i.lower < i.upper ∧ ∃ tried d, i.FirstPlaced (drawsOf traceId) tried d ∧ tried.length < limit ∧
      v = i.place d := by
  rw [← Interval.firstBelow_eq_some_iff, drawFrom]
  by_cases he : i.isEmpty = true
  · rw [if_pos he]
    have hn := Interval.isEmpty_iff.1 he
    simp [hn]
  · rw [if_neg he]
    have hi : i.lower < i.upper := Decidable.not_not.1 fun hn => he (Interval.isEmpty_iff.2 hn)
    cases i.firstBelow limit (drawsOf traceId) <;> simp [hi]

theorem drawFrom_eq_emptyInterval_iff {i j : Interval} :
    drawFrom limit traceId i = .emptyInterval j ↔ j = i ∧ ¬i.lower < i.upper := by
  rw [← Interval.isEmpty_iff, drawFrom]
  by_cases he : i.isEmpty = true
  · rw [if_pos he]
    simp [he, eq_comm]
  · rw [if_neg he]
    cases i.firstBelow limit (drawsOf traceId) <;> simp [he]

theorem drawFrom_of_isEmpty {i : Interval} (h : i.isEmpty = true) : drawFrom limit traceId i = .emptyInterval i := by
  rw [drawFrom, if_pos h]

theorem drawFrom_unique {limit' : Nat} {i : Interval} (h : drawFrom limit traceId i ≠ .exhausted)
    (h' : drawFrom limit' traceId i ≠ .exhausted) : drawFrom limit traceId i = drawFrom limit' traceId i := by
  unfold drawFrom at h h' ⊢
  by_cases he : i.isEmpty = true
  · rw [if_pos he, if_pos he]
  · rw [if_neg he] at h h' ⊢
    rw [if_neg he]
    cases hv : i.firstBelow limit (drawsOf traceId) with
    | none => simp [hv] at h
    | some v =>
      cases hv' : i.firstBelow limit' (drawsOf traceId) with
      | none => simp [hv'] at h'
      | some v' => rw [Interval.firstBelow_unique hv hv']

theorem mem_of_drawFrom {l u v : Binary64} (h : drawFrom limit traceId ⟨l, u⟩ = .value v) : l ≤ v ∧ v < u := by
  obtain ⟨hi, tried, d, hfirst, -, rfl⟩ := drawFrom_eq_value_iff.1 h
  refine ⟨?_, hfirst.accepted⟩
  have haccepted := hfirst.accepted
  obtain ⟨t, rfl⟩ := hfirst.exists_draw
  obtain ⟨x, hx, hs⟩ := draw_eq_finite t
  rw [hx] at haccepted ⊢
  exact Interval.lower_le_place hi hs haccepted

theorem isFraction_of_drawFrom {l u v : Binary64} (hl : l.isRate = true) (hu : u.isRate = true)
    (h : drawFrom limit traceId ⟨l, u⟩ = .value v) : v.isFraction = true := by
  obtain ⟨hlv, hvu⟩ := mem_of_drawFrom h
  exact isFraction_of_le_of_lt (le_trans (zero_le_of_isRate hl) hlv) (lt_of_lt_of_le hvu (le_one_of_isRate hu))

theorem drawFrom_unit {z : Finite} (hz : z.magnitude = 0) :
    drawFrom limit traceId ⟨.finite z, .one⟩ =
      if limit = 0 then .exhausted else .value (derive traceId) := by
  obtain ⟨d, hd, hs⟩ := draw_eq_finite (drawsOf traceId)
  have hne : Interval.isEmpty ⟨.finite z, .one⟩ = false := by
    rw [Bool.eq_false_iff, ne_eq, Interval.isEmpty_iff, Decidable.not_not, one_eq, finite_lt_finite,
      Finite.units_one, Finite.units_eq_zero hz]
    have := unitsPerOne_pos; omega
  cases limit with
  | zero => simp [drawFrom, hne, Interval.firstBelow]
  | succ limit =>
    have hp : Interval.place ⟨.finite z, .one⟩ (drawsOf traceId).draw.1 = derive traceId := by
      rw [hd, Interval.place_unit hz hs, ← hd]; rfl
    have hlt : derive traceId < one := lt_one_of_isFraction (derive_isFraction traceId)
    simp [drawFrom, hne, Interval.firstBelow, hp, hlt]

theorem derive_of_drawFrom_unit {z : Finite} (hz : z.magnitude = 0) {v : Binary64}
    (h : drawFrom limit traceId ⟨.finite z, .one⟩ = .value v) : v = derive traceId := by
  rw [drawFrom_unit hz] at h
  split at h <;> cases h
  rfl

/-- A search fails exactly if an end of the interval is not a number or there is no room between the ends.
Else it gives the place of the first draw that is placed below the upper end, if that one is allowed, and
this place lies in the interval. So a value that is drawn to agree with a decision agrees with it. -/
theorem drawFrom_outcome (limit : Nat) (traceId : String) (i : Interval) :
    (∀ j, drawFrom limit traceId i = .emptyInterval j ↔
      j = i ∧ (i.lower = .nan ∨ i.upper = .nan ∨ i.upper ≤ i.lower)) ∧
    (∀ v, drawFrom limit traceId i = .value v ↔ i.lower < i.upper ∧
      ∃ tried d, i.FirstPlaced (drawsOf traceId) tried d ∧ tried.length < limit ∧
        v = i.lower + (i.upper - i.lower) * d) ∧
    (∀ v, drawFrom limit traceId i = .value v → i.lower ≤ v ∧ v < i.upper) ∧
    ∀ f r v, drawFrom limit traceId (.agreeing (some f) (some r)) = .value v → shouldSample v r = f := by
  refine ⟨fun j => ?_, fun v => drawFrom_eq_value_iff, fun v => mem_of_drawFrom, fun f r v hv => ?_⟩
  · rw [drawFrom_eq_emptyInterval_iff, not_lt_iff]
  · cases f with
    | true => exact (mem_of_drawFrom hv).2
    | false => exact Bool.eq_false_iff.2 (not_lt_of_le (mem_of_drawFrom hv).1)

def Interval.narrow : Interval := ⟨.one, .ofBits 0x3ff0000000000001⟩

theorem second_draw_is_taken : drawFrom 1 "00000000000000000000000000000000" .narrow = .exhausted ∧
    drawFrom 2 "00000000000000000000000000000000" .narrow = .value .one ∧ one < Interval.narrow.upper ∧
    ∃ tried d, Interval.narrow.FirstPlaced (drawsOf "00000000000000000000000000000000") tried d := by
  have h : drawFrom 2 "00000000000000000000000000000000" .narrow = .value .one := by decide +kernel
  obtain ⟨-, hfirst, hmem, -⟩ := drawFrom_outcome 2 "00000000000000000000000000000000" .narrow
  obtain ⟨-, tried, d, hd, -, -⟩ := (hfirst .one).1 h
  exact ⟨by decide +kernel, h, (hmem .one h).2, tried, d, hd⟩

end TraceRelay
