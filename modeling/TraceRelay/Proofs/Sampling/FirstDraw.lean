import TraceRelay.Proofs.Binary64.Nearest
import TraceRelay.Proofs.Sampling.Interval

/-!
# The first draw is taken where the interval starts at zero

The product of a draw with a number of full precision is never rounded up onto that number, since the
number below it is nearer (`exists_mul_draw`). So a search from zero up to such an end takes the first
draw it tries, and no rate from `10 ^ -300` on is too small for that (`two_pow_lt_magnitude`).
-/

namespace TraceRelay

theorem ten_pow_le (n : Nat) : 10 ^ (3 * n) ≤ 2 ^ (10 * n) := by
  rw [Nat.pow_mul, Nat.pow_mul]
  exact Nat.pow_le_pow_left (by decide) n

theorem two_pow_mul_ten_pow_lt {n k : Nat} (hk : k = 3 * n) (h : 52 + 10 * n < 1074) :
    2 ^ 52 * 10 ^ k < unitsPerOne := by
  subst hk
  calc 2 ^ 52 * 10 ^ (3 * n) ≤ 2 ^ 52 * 2 ^ (10 * n) := Nat.mul_le_mul_left _ (ten_pow_le n)
    _ = 2 ^ (52 + 10 * n) := (Nat.pow_add 2 52 (10 * n)).symm
    _ < unitsPerOne := two_pow_lt_unitsPerOne h

theorem two_pow_lt_magnitude {x : Finite} (hx : 0 ≤ x.units) (h : 1 / (10 ^ 300 : Nat) ≤ x.toRat) :
    2 ^ 52 < x.magnitude := by
  have hten : (0 : ℚ) < (10 ^ 300 : Nat) := Nat.cast_pos.2 (@Nat.pow_pos 10 300 (by decide))
  rw [Finite.toRat_of_nonneg hx, div_le_div_iff₀ hten unitsPerOne_cast_pos, one_mul] at h
  have hunits : unitsPerOne ≤ x.magnitude * 10 ^ 300 := by exact_mod_cast h
  by_contra hle
  have hmul := Nat.mul_le_mul_right (10 ^ 300) (Nat.le_of_not_lt hle)
  have hlt := @two_pow_mul_ten_pow_lt 100 300 rfl (by decide)
  exact absurd (Nat.le_trans hunits hmul) (Nat.not_le_of_lt hlt)

open Binary64

theorem exists_mul_draw {x : Finite} (hx : x.negative = false) (hbig : 2 ^ 52 < x.magnitude) (t : Twister) :
    ∃ w : Finite, Binary64.finite x * t.draw.1 = .finite w ∧ w.negative = false ∧ w.magnitude < x.magnitude := by
  obtain ⟨d, hd, hds, hdm⟩ := unitDraw_exact t.next.1 t.next.2.next.1
  have hbits := drawBits_lt t.next.1 t.next.2.next.1
  generalize drawBits t.next.1 t.next.2.next.1 = bits at hdm hbits
  obtain ⟨n, hn, hlt, hgap⟩ := Finite.exists_below hbig
  have hmiddle : 2 * (x.magnitude * bits) < (n + x.magnitude) * 2 ^ 53 := by
    have hmul := Nat.mul_le_mul_left x.magnitude (Nat.le_sub_one_of_lt hbits)
    omega
  have hround : roundedUnits (x.magnitude * d.magnitude) unitsPerOne < x.magnitude := by
    refine roundedUnits_lt unitsPerOne_pos hn hlt ?_
    calc 2 * (x.magnitude * d.magnitude) = 2 * (x.magnitude * bits) * drawGap := by rw [hdm]; ring
      _ < (n + x.magnitude) * 2 ^ 53 * drawGap := Nat.mul_lt_mul_of_pos_right hmiddle drawGap_pos
      _ = (n + x.magnitude) * unitsPerOne := by rw [← drawGap_mul]; ring
  rw [Twister.draw, hd, mul_finite, hx, hds, bne_self_eq_false]
  rcases ofUnits_cases false (x.magnitude * d.magnitude) unitsPerOne with ⟨w, hw, hws, hwm⟩ | ⟨-, hinf⟩
  · exact ⟨w, hw, hws, hwm ▸ hround⟩
  · have := x.magnitude_lt
    omega

namespace Interval

/-- Up to a number of full precision, each draw is placed at its product with that number, and below it. -/
theorem place_of_draw {x : Finite} (hx : x.negative = false) (hbig : 2 ^ 52 < x.magnitude) (t : Twister) :
    place ⟨.zero, .finite x⟩ t.draw.1 = .finite x * t.draw.1 ∧ Binary64.finite x * t.draw.1 < .finite x := by
  obtain ⟨d, hd, -⟩ := draw_eq_finite t
  obtain ⟨w, hw, hws, hlt⟩ := exists_mul_draw hx hbig t
  rw [hd] at hw ⊢
  rw [hw, finite_lt_finite, Finite.units_of_nonneg hws, Finite.units_of_nonneg hx]
  exact ⟨place_from_zero rfl hx hw hws, Int.ofNat_lt.2 hlt⟩

theorem firstPlaced_of_draw {x : Finite} (hx : x.negative = false) (hbig : 2 ^ 52 < x.magnitude) (t : Twister) :
    FirstPlaced ⟨.zero, .finite x⟩ t [] t.draw.1 := by
  obtain ⟨hplace, hlt⟩ := place_of_draw hx hbig t
  exact firstPlaced_nil.2 ⟨rfl, by rwa [hplace]⟩

end Interval

/-! ## The search -/

theorem Interval.agreeing_from_zero {flag : Option Bool} {rate : Option Binary64} (hflag : flag ≠ some false)
    (hrate : ∀ r, rate = some r → r.isRate = true ∧ 1 / (10 ^ 300 : Nat) ≤ r.toRat) :
    ∃ x : Finite, agreeing flag rate = ⟨.zero, .finite x⟩ ∧ x.negative = false ∧ 2 ^ 52 < x.magnitude := by
  have hone : ∃ x : Finite, Interval.mk .zero .one = ⟨.zero, .finite x⟩ ∧ x.negative = false ∧ 2 ^ 52 < x.magnitude :=
    ⟨.one, by rw [one_eq], rfl, by rw [Finite.magnitude_one]; exact two_pow_lt_unitsPerOne (by decide)⟩
  cases flag with
  | none => exact hone
  | some sampled =>
    cases sampled with
    | false => exact absurd rfl hflag
    | true =>
      cases rate with
      | none => exact hone
      | some r =>
        obtain ⟨hr, hlow⟩ := hrate r rfl
        obtain ⟨x, rfl, h0, -⟩ := isRate_iff.1 hr
        have hbig := two_pow_lt_magnitude h0 hlow
        have hpos : 0 < x.units := by
          rw [Finite.units_eq_magnitude h0]
          omega
        exact ⟨x, rfl, Finite.negative_of_units_pos hpos, hbig⟩

theorem Interval.upper_agreeing {flag : Option Bool} {rate : Option Binary64} (hflag : flag ≠ some false)
    (h : flag = none ∨ rate = none ∨ rate = some .one) : (agreeing flag rate).upper = .one := by
  rcases flag with _ | _ | _
  · simp only [agreeing]
  · exact absurd rfl hflag
  · rcases h with h | rfl | rfl
    · cases h
    · simp only [agreeing]
    · simp only [agreeing]

/-- Where the decision is not to the contrary and the rate is not tiny, one draw is enough: it is the
first one of the trace, scaled to the rate. -/
theorem first_draw_is_taken (traceId : String) {flag : Option Bool} {rate : Option Binary64} (hflag : flag ≠ some false)
    (hrate : ∀ r, rate = some r → r.isRate = true ∧ 1 / (10 ^ 300 : Nat) ≤ r.toRat) :
    (Interval.agreeing flag rate).lower = .zero ∧
    (Interval.agreeing flag rate).FirstPlaced (drawsOf traceId) [] (derive traceId) ∧
    (∀ limit, 0 < limit → drawFrom limit traceId (.agreeing flag rate) =
      .value ((Interval.agreeing flag rate).upper * derive traceId)) ∧
    (flag = none ∨ rate = none ∨ rate = some .one →
      (Interval.agreeing flag rate).upper * derive traceId = derive traceId) := by
  obtain ⟨x, hx, hs, hbig⟩ := Interval.agreeing_from_zero hflag hrate
  have hfirst := Interval.firstPlaced_of_draw hs hbig (drawsOf traceId)
  obtain ⟨hplace, -⟩ := Interval.place_of_draw hs hbig (drawsOf traceId)
  refine ⟨by rw [hx], by rw [hx]; exact hfirst, fun limit hlimit => ?_, fun h => ?_⟩
  · rw [hx, drawFrom_eq_value_iff]
    refine ⟨?_, [], derive traceId, hfirst, hlimit, hplace.symm⟩
    rw [zero, finite_lt_finite, Finite.units_zero, Finite.units_of_nonneg hs]
    omega
  · have hupper := Interval.upper_agreeing hflag h
    obtain ⟨d, hd, hds⟩ := draw_eq_finite (drawsOf traceId)
    rw [hupper, derive, hd, Binary64.one_mul hds]

def tinyRate : Binary64 := .ofBits 0x1a56e1fc2f8f359

theorem tinyRate_needs_one_draw : (some true ≠ some false) ∧ tinyRate.isRate = true ∧
    1 / (10 ^ 300 : Nat) ≤ tinyRate.toRat ∧ drawFrom 1 "00000000000000000000000000000000"
      (.agreeing (some true) (some tinyRate)) = .value (tinyRate * derive "00000000000000000000000000000000") := by
  have hrate : tinyRate.isRate = true := by decide +kernel
  have hlow : 1 / (10 ^ 300 : Nat) ≤ tinyRate.toRat := by decide +kernel
  have hflag : some true ≠ some false := by decide
  obtain ⟨-, -, hdrawn, -⟩ := first_draw_is_taken "00000000000000000000000000000000" hflag
    fun r (hr : some tinyRate = some r) => Option.some_inj.1 hr ▸ ⟨hrate, hlow⟩
  exact ⟨hflag, hrate, hlow, hdrawn 1 Nat.one_pos⟩

end TraceRelay
