import TraceRelay.Draw.Stream
import TraceRelay.Proofs.Binary64.Arithmetic

/-!
# Draws are fractions

Nothing is rounded when a draw is put together (`unitDraw_exact`), so each draw lies in `[0, 1)`.
-/

namespace TraceRelay

open Binary64

theorem shiftRight_five_lt (a : UInt32) : (a >>> 5).toNat < 2 ^ 27 := by
  rw [UInt32.toNat_shiftRight, Nat.shiftRight_eq_div_pow]
  have := a.toNat_lt
  exact Nat.div_lt_of_lt_mul (by simpa using this)

theorem shiftRight_six_lt (b : UInt32) : (b >>> 6).toNat < 2 ^ 26 := by
  rw [UInt32.toNat_shiftRight, Nat.shiftRight_eq_div_pow]
  have := b.toNat_lt
  exact Nat.div_lt_of_lt_mul (by simpa using this)

/-- The distance between draws that follow one another, in units. -/
def drawGap : Nat := 2 ^ 1021

theorem drawGap_mul : drawGap * 2 ^ 53 = unitsPerOne := by
  unfold drawGap
  rw [two_pow_mul_two_pow (a := 1021) (b := 53) rfl]

theorem drawGap_pos : 0 < drawGap := by
  unfold drawGap
  generalize 1021 = k
  exact Nat.two_pow_pos k

theorem representable_mul_drawGap {m : Nat} (hm : m < 2 ^ 53) : Representable (m * drawGap) := by
  unfold drawGap
  generalize 1021 = k
  exact ⟨m, k, hm, rfl⟩

theorem mul_drawGap_lt {m : Nat} (hm : m < 2 ^ 53) : m * drawGap < unitsPerOne := by
  rw [← drawGap_mul, Nat.mul_comm]
  exact Nat.mul_lt_mul_of_pos_left hm drawGap_pos

theorem exists_twoPowNeg :
    ∃ z : Finite, twoPowNeg 53 = .finite z ∧ z.negative = false ∧ z.magnitude = drawGap := by
  have hr := representable_mul_drawGap (m := 1) (by decide)
  have hlt := mul_drawGap_lt (m := 1) (by decide)
  rw [Nat.one_mul] at hr hlt
  have h := drawGap_mul.symm
  have hbig := Nat.lt_trans hlt unitsPerOne_lt
  unfold twoPowNeg
  generalize drawGap = gap, unitsPerOne = units at *
  exact exists_ofUnits false h hr hbig (Nat.two_pow_pos 53)

def drawBits (a b : UInt32) : Nat := (a >>> 5).toNat * 67108864 + (b >>> 6).toNat

theorem drawBits_lt (a b : UInt32) : drawBits a b < 2 ^ 53 := by
  have ha := shiftRight_five_lt a
  have hb := shiftRight_six_lt b
  unfold drawBits; omega

theorem unitDraw_exact (a b : UInt32) : ∃ x : Finite, unitDraw a b = .finite x ∧ x.negative = false ∧
    x.magnitude = drawBits a b * drawGap := by
  have ha := shiftRight_five_lt a
  have hb := shiftRight_six_lt b
  have hbits := drawBits_lt a b
  obtain ⟨high, ehigh, shigh, mhigh⟩ := exists_ofNat (n := (a >>> 5).toNat) (by omega)
  obtain ⟨low, elow, slow, mlow⟩ := exists_ofNat (n := (b >>> 6).toNat) (by omega)
  obtain ⟨scale, escale, sscale, mscale⟩ := exists_ofNat (n := 67108864) (by decide)
  obtain ⟨last, elast, slast, mlast⟩ := exists_twoPowNeg
  unfold unitDraw
  rw [ehigh, elow, escale, elast]
  -- the higher bits moved up
  have hup : high.magnitude * scale.magnitude = (a >>> 5).toNat * 67108864 * unitsPerOne * unitsPerOne := by
    rw [mhigh, mscale]; ring
  obtain ⟨up, eup, sup, mup⟩ := exists_mul shigh sscale hup (representable_mul_unitsPerOne (by omega))
    (mul_unitsPerOne_lt (by omega))
  -- all bits
  have hall : up.magnitude + low.magnitude = drawBits a b * unitsPerOne := by
    rw [mup, mlow]; unfold drawBits; ring
  obtain ⟨all, eall, sall, mall⟩ := exists_add sup slow (hall ▸ representable_mul_unitsPerOne hbits)
    (hall ▸ mul_unitsPerOne_lt hbits)
  -- brought below one
  have hdown : all.magnitude * last.magnitude = drawBits a b * drawGap * unitsPerOne := by
    rw [mall, hall, mlast]; ring
  rw [eup, eall]
  exact exists_mul sall slast hdown (representable_mul_drawGap hbits)
    (Nat.lt_trans (mul_drawGap_lt hbits) unitsPerOne_lt)

theorem unitDraw_isFraction (a b : UInt32) : (unitDraw a b).isFraction = true := by
  obtain ⟨x, hx, hs, hm⟩ := unitDraw_exact a b
  have hlt := mul_drawGap_lt (drawBits_lt a b)
  have hu := Finite.units_of_nonneg hs
  exact isFraction_iff.2 ⟨x, hx, by omega, by omega⟩

theorem draw_isFraction (t : Twister) : t.draw.1.isFraction = true := unitDraw_isFraction ..

theorem draw_eq_finite (t : Twister) : ∃ x : Finite, t.draw.1 = .finite x ∧ x.negative = false :=
  (unitDraw_exact ..).imp fun _ h => ⟨h.1, h.2.1⟩

theorem derive_isFraction (traceId : String) : (derive traceId).isFraction = true := draw_isFraction _

end TraceRelay
