import TraceRelay.Proofs.Binary64.Value
import TraceRelay.Proofs.Draw.Stream

/-!
# Draws are exact

A value that 53 bits hold is the value of one number without a sign (`HasValue.eq_iff`), and an operation whose
exact result is such a value has that result (`HasValue.add`, `HasValue.mul`, `HasValue.div`). All results on the way
to a draw are such values, so a draw is the fraction that its 53 bits spell, and the stream of draws is made from
the outputs of the generator two by two (`draws_are_exact`).
-/

namespace TraceRelay

namespace Binary64

/-- A value that 53 bits hold at some place, below the infinite ones. -/
def Fits (q : ℚ) : Prop := ∃ n, Representable n ∧ n < 2 ^ (53 + 2045) ∧ q = n / unitsPerOne

/-- A number without a sign, of this value. -/
def HasValue (x : Binary64) (q : ℚ) : Prop := ∃ z : Finite, x = .finite z ∧ z.negative = false ∧ z.toRat = q

variable {x y : Binary64} {p q : ℚ} {n k : Nat}

theorem representable_of_lt (h : n < 2 ^ 53) : Representable n := ⟨n, 0, h, (Nat.mul_one n).symm⟩

theorem fits_div_two_pow (hn : Representable n) (hlt : n < 2 ^ 54) (hk : k ≤ 1074) : Fits (n / 2 ^ k) := by
  have hpos := Nat.two_pow_pos (1074 - k)
  have hsplit : unitsPerOne = 2 ^ (1074 - k) * 2 ^ k := (two_pow_mul_two_pow (by omega)).symm
  refine ⟨2 ^ (1074 - k) * n, ?_, ?_, ?_⟩
  · obtain ⟨m, j, hm, rfl⟩ := hn
    exact ⟨m, 1074 - k + j, hm, by rw [Nat.pow_add, Nat.mul_left_comm]⟩
  · calc 2 ^ (1074 - k) * n < 2 ^ (1074 - k) * 2 ^ 54 := Nat.mul_lt_mul_of_pos_left hlt hpos
      _ = 2 ^ (1074 - k + 54) := (Nat.pow_add ..).symm
      _ ≤ 2 ^ (53 + 2045) := Nat.pow_le_pow_right (by decide) (by omega)
  · rw [hsplit, Nat.cast_mul, Nat.cast_mul, mul_div_mul_left _ _ (Nat.cast_ne_zero.2 hpos.ne'), Nat.cast_pow,
      Nat.cast_ofNat]

theorem fits_natCast (hn : Representable n) (hlt : n < 2 ^ 54) : Fits n := by
  simpa using fits_div_two_pow (k := 0) hn hlt (Nat.zero_le _)

theorem fits_of_lt (h : n < 2 ^ 53) : Fits n := fits_natCast (representable_of_lt h) (by omega)

theorem HasValue.exists_magnitude (h : x.HasValue q) :
    ∃ z : Finite, x = .finite z ∧ z.negative = false ∧ q = z.magnitude / unitsPerOne := by
  obtain ⟨z, hz, hs, rfl⟩ := h
  refine ⟨z, hz, hs, ?_⟩
  rw [Finite.toRat, Finite.units_of_nonneg hs, Int.cast_natCast]

theorem hasValue_of_magnitude {z : Finite} (hs : z.negative = false) (h : q = z.magnitude / unitsPerOne) :
    HasValue (.finite z) q := by
  refine ⟨z, rfl, hs, ?_⟩
  rw [h, Finite.toRat, Finite.units_of_nonneg hs, Int.cast_natCast]

theorem hasValue_ofUnits {num den : Nat} (hd : 0 < den) (h : Fits (num / den / unitsPerOne)) :
    (ofUnits false num den).HasValue (num / den / unitsPerOne) := by
  obtain ⟨n, hn, hlt, hq⟩ := h
  have hden : (0 : ℚ) < den := Nat.cast_pos.2 hd
  have hnum : num = n * den := by
    rw [div_left_inj' unitsPerOne_cast_pos.ne', div_eq_iff hden.ne'] at hq
    exact_mod_cast hq
  obtain ⟨z, hz, hs, hm⟩ := exists_ofUnits false hnum hn hlt hd
  rw [hz, hq, ← hm]
  exact hasValue_of_magnitude hs rfl

theorem HasValue.eq_iff (hx : x.HasValue p) (hy : y.HasValue q) : x = y ↔ p = q := by
  obtain ⟨z, rfl, hs, rfl⟩ := hx.exists_magnitude
  obtain ⟨w, rfl, ht, rfl⟩ := hy.exists_magnitude
  rw [div_left_inj' unitsPerOne_cast_pos.ne', Nat.cast_inj]
  constructor
  · intro h
    rw [(finite.inj h)]
  · intro h
    rw [Finite.eq_of_magnitude (hs.trans ht.symm) h]

theorem HasValue.toRat (h : x.HasValue q) : x.toRat = q := by
  obtain ⟨z, rfl, -, hz⟩ := h
  exact hz

theorem HasValue.sameValue_iff (hx : x.HasValue p) (hy : y.HasValue q) : x.sameValue y = true ↔ p = q := by
  obtain ⟨z, rfl, -, rfl⟩ := hx
  obtain ⟨w, rfl, -, rfl⟩ := hy
  rw [sameValue, Bool.and_eq_true, ← le_def, ← le_def, finite_le_finite, finite_le_finite, ← Finite.toRat_le_toRat,
    ← Finite.toRat_le_toRat, le_antisymm_iff]

theorem hasValue_ofNat (h : Fits n) : (ofNat n).HasValue n := by
  have e : (n : ℚ) = (n * unitsPerOne : Nat) / (1 : Nat) / unitsPerOne := by
    rw [Nat.cast_one, div_one, Nat.cast_mul, mul_div_cancel_right₀ _ unitsPerOne_cast_pos.ne']
  rw [e] at h ⊢
  exact hasValue_ofUnits Nat.one_pos h

/-! ## Operations that round nothing -/

theorem HasValue.mul (hx : x.HasValue p) (hy : y.HasValue q) (h : Fits (p * q)) : (x * y).HasValue (p * q) := by
  obtain ⟨z, rfl, hs, rfl⟩ := hx.exists_magnitude
  obtain ⟨w, rfl, ht, rfl⟩ := hy.exists_magnitude
  have e : (z.magnitude : ℚ) / unitsPerOne * (w.magnitude / unitsPerOne) =
      (z.magnitude * w.magnitude : Nat) / unitsPerOne / unitsPerOne := by
    rw [Nat.cast_mul]
    ring
  rw [e] at h ⊢
  rw [mul_finite, hs, ht, bne_self_eq_false]
  exact hasValue_ofUnits unitsPerOne_pos h

theorem HasValue.add (hx : x.HasValue p) (hy : y.HasValue q) (h : Fits (p + q)) : (x + y).HasValue (p + q) := by
  obtain ⟨z, rfl, hs, rfl⟩ := hx.exists_magnitude
  obtain ⟨w, rfl, ht, rfl⟩ := hy.exists_magnitude
  obtain ⟨n, hn, hlt, hq⟩ := h
  have e : z.magnitude + w.magnitude = n := by
    rw [← add_div, div_left_inj' unitsPerOne_cast_pos.ne'] at hq
    exact_mod_cast hq
  subst e
  obtain ⟨v, hv, hvs, hvm⟩ := exists_add hs ht hn hlt
  rw [hv, hq, ← hvm]
  exact hasValue_of_magnitude hvs rfl

theorem div_finite (x y : Finite) (h : y.magnitude ≠ 0) : Binary64.finite x / .finite y =
    ofUnits (x.negative != y.negative) (x.magnitude * unitsPerOne) y.magnitude := by
  change div _ _ = _
  rw [div, if_neg h]

theorem HasValue.div (hx : x.HasValue p) (hy : y.HasValue q) (hq : q ≠ 0) (h : Fits (p / q)) :
    (x / y).HasValue (p / q) := by
  obtain ⟨z, rfl, hs, rfl⟩ := hx.exists_magnitude
  obtain ⟨w, rfl, ht, rfl⟩ := hy.exists_magnitude
  have hw : w.magnitude ≠ 0 := by
    intro h0
    rw [h0, Nat.cast_zero, zero_div] at hq
    exact hq rfl
  have hone := unitsPerOne_cast_pos.ne'
  have e : (z.magnitude : ℚ) / unitsPerOne / (w.magnitude / unitsPerOne) =
      (z.magnitude * unitsPerOne : Nat) / w.magnitude / unitsPerOne := by
    have hwq : (w.magnitude : ℚ) ≠ 0 := Nat.cast_ne_zero.2 hw
    rw [Nat.cast_mul]
    field_simp
  rw [e] at h ⊢
  rw [div_finite z w hw, hs, ht, bne_self_eq_false]
  exact hasValue_ofUnits (Nat.pos_of_ne_zero hw) h

end Binary64

/-! ## Draws -/

open Binary64

def Twister.output (t : Twister) : Nat → UInt32
  | 0 => t.next.1
  | n + 1 => t.next.2.output n

def Twister.drawAt (t : Twister) (n : Nat) : Binary64 := unitDraw (t.output (2 * n)) (t.output (2 * n + 1))

theorem drawAt_zero (t : Twister) : t.drawAt 0 = t.draw.1 := rfl

theorem drawAt_succ (t : Twister) (n : Nat) : t.drawAt (n + 1) = t.draw.2.drawAt n := rfl

theorem draws_eq (t : Twister) (skip count : Nat) :
    t.draws skip count = (List.range count).map fun i => t.drawAt (skip + i) := by
  fun_induction Twister.draws t skip count with
  | case1 => rfl
  | case2 t count ih =>
    rw [ih, List.range_succ_eq_map, List.map_cons, List.map_map, drawAt_zero]
    simp only [Function.comp_def, Nat.zero_add, drawAt_succ]
  | case3 t skip count _ ih =>
    rw [ih]
    simp only [Nat.succ_add, drawAt_succ]

theorem drawBits_inj {a b a' b' : UInt32} :
    drawBits a b = drawBits a' b' ↔ a >>> 5 = a' >>> 5 ∧ b >>> 6 = b' >>> 6 := by
  have hb := shiftRight_six_lt b
  have hb' := shiftRight_six_lt b'
  unfold drawBits
  rw [← UInt32.toNat_inj, ← UInt32.toNat_inj]
  omega

section
variable (a b : UInt32)

theorem cast_drawBits : (drawBits a b : ℚ) = (a >>> 5).toNat * 2 ^ 26 + (b >>> 6).toNat := by
  unfold drawBits
  push_cast
  norm_num

theorem hasValue_high : (ofNat (a >>> 5).toNat).HasValue (a >>> 5).toNat := by
  have h := shiftRight_five_lt a
  exact hasValue_ofNat (fits_of_lt (by omega))

theorem hasValue_low : (ofNat (b >>> 6).toNat).HasValue (b >>> 6).toNat := by
  have h := shiftRight_six_lt b
  exact hasValue_ofNat (fits_of_lt (by omega))

theorem hasValue_raised : (ofNat (a >>> 5).toNat * ofNat 67108864).HasValue ((a >>> 5).toNat * 2 ^ 26) := by
  have h := shiftRight_five_lt a
  have escale : (2 : ℚ) ^ 26 = (67108864 : Nat) := by norm_num
  have hscale : (ofNat 67108864).HasValue (67108864 : Nat) := hasValue_ofNat (fits_of_lt (by decide))
  have hfits : Fits ((a >>> 5).toNat * 67108864 : Nat) := fits_of_lt (by omega)
  rw [Nat.cast_mul] at hfits
  rw [escale]
  exact (hasValue_high a).mul hscale hfits

theorem hasValue_bits :
    (ofNat (a >>> 5).toNat * ofNat 67108864 + ofNat (b >>> 6).toNat).HasValue (drawBits a b) := by
  have hfits := fits_of_lt (drawBits_lt a b)
  rw [cast_drawBits] at hfits ⊢
  exact (hasValue_raised a).add (hasValue_low b) hfits

theorem fits_gap : Fits (1 / 2 ^ 53) := by
  simpa using fits_div_two_pow (n := 1) (representable_of_lt (by decide)) (by decide) (k := 53) (by decide)

theorem hasValue_quotient : (one / ofNat 9007199254740992).HasValue (1 / 2 ^ 53) := by
  have ewhole : (2 : ℚ) ^ 53 = (9007199254740992 : Nat) := by norm_num
  have hone : one.HasValue (1 : Nat) := hasValue_ofNat (fits_of_lt (by decide))
  have hwhole : (ofNat 9007199254740992).HasValue (9007199254740992 : Nat) :=
    hasValue_ofNat (fits_natCast ⟨1, 53, by decide, rfl⟩ (by decide))
  have hfits := fits_gap
  rw [Nat.cast_one] at hone
  rw [ewhole] at hfits ⊢
  exact hone.div hwhole (by positivity) hfits

theorem hasValue_twoPowNeg : (twoPowNeg 53).HasValue (1 / 2 ^ 53) := by
  have e : (1 : ℚ) / 2 ^ 53 = unitsPerOne / (2 ^ 53 : Nat) / unitsPerOne := by
    rw [div_right_comm, div_self unitsPerOne_cast_pos.ne', Nat.cast_pow, Nat.cast_ofNat]
  have hfits := fits_gap
  rw [e] at hfits ⊢
  exact hasValue_ofUnits (Nat.two_pow_pos 53) hfits

theorem hasValue_unitDraw : (unitDraw a b).HasValue (drawBits a b / 2 ^ 53) := by
  have hlt := drawBits_lt a b
  have hfits : Fits (drawBits a b / 2 ^ 53) := fits_div_two_pow (representable_of_lt hlt) (by omega) (by decide)
  rw [← mul_one_div] at hfits ⊢
  exact (hasValue_bits a b).mul hasValue_twoPowNeg hfits

theorem toRat_unitDraw_le : (unitDraw a b).toRat ≤ 1 - 1 / 2 ^ 53 := by
  have hle : (drawBits a b : ℚ) + 1 ≤ 2 ^ 53 := by exact_mod_cast drawBits_lt a b
  rw [(hasValue_unitDraw a b).toRat]
  linarith

end

/-- The stream of draws takes the outputs of a generator two by two. Each operation on the way from two outputs to
their draw gives the exact result, up to the quotient that a draw is multiplied with. So a draw is the fraction that
27 bits of one output and 26 of the other spell, it is less than one, and it gives these bits back. -/
theorem draws_are_exact :
    (∀ (t : Twister) (skip count : Nat), t.draws skip count =
      (List.range count).map fun i => unitDraw (t.output (2 * (skip + i))) (t.output (2 * (skip + i) + 1))) ∧
    ∀ a b : UInt32,
      ((ofNat (a >>> 5).toNat).HasValue (a >>> 5).toNat ∧
        (ofNat (b >>> 6).toNat).HasValue (b >>> 6).toNat ∧
        (ofNat (a >>> 5).toNat * ofNat 67108864).HasValue ((a >>> 5).toNat * 2 ^ 26) ∧
        (ofNat (a >>> 5).toNat * ofNat 67108864 + ofNat (b >>> 6).toNat).HasValue
          ((a >>> 5).toNat * 2 ^ 26 + (b >>> 6).toNat) ∧
        (one / ofNat 9007199254740992).HasValue (1 / 2 ^ 53)) ∧
      unitDraw a b =
        (ofNat (a >>> 5).toNat * ofNat 67108864 + ofNat (b >>> 6).toNat) * (one / ofNat 9007199254740992) ∧
      (unitDraw a b).HasValue (((a >>> 5).toNat * 2 ^ 26 + (b >>> 6).toNat) / 2 ^ 53) ∧
      0 ≤ (unitDraw a b).toRat ∧ (unitDraw a b).toRat ≤ 1 - 1 / 2 ^ 53 ∧
      ∀ a' b' : UInt32,
        (unitDraw a b = unitDraw a' b' ↔ a >>> 5 = a' >>> 5 ∧ b >>> 6 = b' >>> 6) ∧
        ((unitDraw a b).sameValue (unitDraw a' b') = true ↔ a >>> 5 = a' >>> 5 ∧ b >>> 6 = b' >>> 6) := by
  refine ⟨draws_eq, fun a b => ?_⟩
  have hbits := hasValue_bits a b
  have hdraw := hasValue_unitDraw a b
  have hquot : twoPowNeg 53 = one / ofNat 9007199254740992 := (hasValue_twoPowNeg.eq_iff hasValue_quotient).2 rfl
  have hinj : ∀ a' b', (drawBits a b : ℚ) / 2 ^ 53 = drawBits a' b' / 2 ^ 53 ↔
      a >>> 5 = a' >>> 5 ∧ b >>> 6 = b' >>> 6 := by
    intro a' b'
    rw [div_left_inj' (by positivity), Nat.cast_inj, drawBits_inj]
  have hnonneg : 0 ≤ (unitDraw a b).toRat := by
    rw [hdraw.toRat]
    positivity
  refine ⟨⟨hasValue_high a, hasValue_low b, hasValue_raised a, ?_, hasValue_quotient⟩, ?_, ?_, hnonneg,
    toRat_unitDraw_le a b, fun a' b' => ⟨?_, ?_⟩⟩
  · rwa [← cast_drawBits]
  · rw [← hquot]
    rfl
  · rwa [← cast_drawBits]
  · exact (hdraw.eq_iff (hasValue_unitDraw a' b')).trans (hinj a' b')
  · exact (hdraw.sameValue_iff (hasValue_unitDraw a' b')).trans (hinj a' b')

end TraceRelay
