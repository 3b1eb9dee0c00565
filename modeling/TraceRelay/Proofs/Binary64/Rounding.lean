import Mathlib.Tactic.Ring
import TraceRelay.Binary64.Basic

/-!
# Rounding a quotient

Whatever is rounded is a quotient of whole numbers of units. Rounding it gives a whole number of
units again (`roundedUnits`): it is monotone in the value of the quotient (`roundedUnits_mono`), so
it depends on that value alone, and it keeps what has a significand of 53 bits (`roundedUnits_exact`).
Together these bound a rounded quotient by every number that bounds the exact one.
-/

namespace TraceRelay

theorem roundHalfEven_lower (num den : Nat) :
    2 * (roundHalfEven num den * den) ≤ 2 * num + den := by
  have hdm := Nat.div_add_mod num den
  rw [Nat.mul_comm] at hdm
  unfold roundHalfEven
  split
  · omega
  · rw [Nat.succ_mul (num / den)]; omega

theorem roundHalfEven_upper (num : Nat) {den : Nat} (hd : 0 < den) :
    2 * num ≤ 2 * (roundHalfEven num den * den) + den := by
  have hdm := Nat.div_add_mod num den
  have hr := Nat.mod_lt num hd
  rw [Nat.mul_comm] at hdm
  unfold roundHalfEven
  split
  · omega
  · rw [Nat.succ_mul (num / den)]; omega

theorem roundHalfEven_even_of_tie (num : Nat) {den : Nat} (hd : 0 < den)
    (h : 2 * (roundHalfEven num den * den) = 2 * num + den ∨
      2 * num = 2 * (roundHalfEven num den * den) + den) : roundHalfEven num den % 2 = 0 := by
  have hdm := Nat.div_add_mod num den
  have hr := Nat.mod_lt num hd
  rw [Nat.mul_comm] at hdm
  unfold roundHalfEven at h ⊢
  split at h <;> rename_i hc
  · rw [if_pos hc]; omega
  · rw [if_neg hc]; rw [Nat.succ_mul (num / den)] at h; omega

/-- Rounding goes up to `n` at most if the quotient lies at most a half above `n`, and a half only
above an even `n`. -/
theorem roundHalfEven_le_of {num den n : Nat} (hd : 0 < den) (h : 2 * num ≤ (2 * n + 1) * den)
    (ht : 2 * num = (2 * n + 1) * den → n % 2 = 0) : roundHalfEven num den ≤ n := by
  rcases Nat.lt_or_ge n (roundHalfEven num den) with hlt | hge
  · have hlow := roundHalfEven_lower num den
    have hmul : (n + 1) * den ≤ roundHalfEven num den * den := Nat.mul_le_mul_right den hlt
    have e : (2 * n + 1) * den = 2 * (n * den) + den := by ring
    have hs : (n + 1) * den = n * den + den := Nat.succ_mul ..
    have heq : roundHalfEven num den * den = (n + 1) * den := by omega
    have hn : roundHalfEven num den = n + 1 := Nat.eq_of_mul_eq_mul_right hd heq
    have := roundHalfEven_even_of_tie num hd (.inl (by omega))
    have := ht (by omega)
    omega
  · exact hge

theorem le_roundHalfEven_of {num den n : Nat} (hd : 0 < den) (h : 2 * n * den ≤ 2 * num + den)
    (ht : 2 * n * den = 2 * num + den → n % 2 = 0) : n ≤ roundHalfEven num den := by
  rcases Nat.lt_or_ge (roundHalfEven num den) n with hlt | hge
  · have hup := roundHalfEven_upper num hd
    have hmul : (roundHalfEven num den + 1) * den ≤ n * den := Nat.mul_le_mul_right den hlt
    have e : 2 * n * den = 2 * (n * den) := Nat.mul_assoc ..
    have hs : (roundHalfEven num den + 1) * den = roundHalfEven num den * den + den :=
      Nat.succ_mul ..
    have heq : (roundHalfEven num den + 1) * den = n * den := by omega
    have hn : roundHalfEven num den + 1 = n := Nat.eq_of_mul_eq_mul_right hd heq
    have := roundHalfEven_even_of_tie num hd (.inr (by omega))
    have := ht (by omega)
    omega
  · exact hge

theorem roundHalfEven_mono {a b c d : Nat} (hb : 0 < b) (hd : 0 < d) (h : a * d ≤ c * b) :
    roundHalfEven a b ≤ roundHalfEven c d := by
  have hup := roundHalfEven_upper c hd
  have e : (2 * roundHalfEven c d + 1) * d = 2 * (roundHalfEven c d * d) + d := by ring
  have key : 2 * a * d ≤ (2 * roundHalfEven c d + 1) * b * d := calc
    2 * a * d = 2 * (a * d) := Nat.mul_assoc ..
    _ ≤ 2 * (c * b) := Nat.mul_le_mul_left 2 h
    _ = 2 * c * b := (Nat.mul_assoc ..).symm
    _ ≤ (2 * roundHalfEven c d + 1) * d * b := Nat.mul_le_mul_right b (by omega)
    _ = (2 * roundHalfEven c d + 1) * b * d := Nat.mul_right_comm ..
  refine roundHalfEven_le_of hb (Nat.le_of_mul_le_mul_right key hd) fun ht => ?_
  -- a tie of the smaller quotient is one of the greater
  have hc : (2 * roundHalfEven c d + 1) * d * b ≤ 2 * c * b := calc
    (2 * roundHalfEven c d + 1) * d * b = 2 * a * d := by rw [Nat.mul_right_comm, ← ht]
    _ = 2 * (a * d) := Nat.mul_assoc ..
    _ ≤ 2 * (c * b) := Nat.mul_le_mul_left 2 h
    _ = 2 * c * b := (Nat.mul_assoc ..).symm
  have := Nat.le_of_mul_le_mul_right hc hb
  exact roundHalfEven_even_of_tie c hd (.inr (by omega))

theorem roundHalfEven_mul (n : Nat) {den : Nat} (hd : 0 < den) : roundHalfEven (n * den) den = n := by
  unfold roundHalfEven
  simp [Nat.mul_mod_left, Nat.mul_div_cancel n hd, hd]

/-! ## To 53 bits -/

/-- The magnitude that a quotient is rounded to, in units, as if there were no last binade. -/
def roundedUnits (num den : Nat) : Nat :=
  roundHalfEven num (den * 2 ^ excessBits (num / den)) * 2 ^ excessBits (num / den)

/-- What 53 bits can hold at some place. -/
def Representable (n : Nat) : Prop := ∃ m k, m < 2 ^ 53 ∧ n = m * 2 ^ k

theorem excessBits_mono {m n : Nat} (h : m ≤ n) : excessBits m ≤ excessBits n := by
  unfold excessBits
  rcases Nat.eq_zero_or_pos m with rfl | hm
  · simp
  · have : m.log2 ≤ n.log2 := (Nat.le_log2 (by omega)).2 (Nat.le_trans (Nat.log2_self_le (by omega)) h)
    omega

theorem excessBits_le {n k : Nat} (h : n < 2 ^ (53 + k)) : excessBits n ≤ k := by
  unfold excessBits
  rcases Nat.eq_zero_or_pos n with rfl | hn
  · simp
  · have : n.log2 < 53 + k := (Nat.log2_lt (by omega)).2 h
    omega

theorem roundedUnits_le_two_pow (num den : Nat) :
    roundedUnits num den ≤ 2 ^ (53 + excessBits (num / den)) := by
  rw [roundedUnits, Nat.pow_add]
  exact Nat.mul_le_mul_right _ (Nat.le_trans (roundHalfEven_le _ _) (div_lt_of_excessBits num den))

theorem two_pow_le_roundedUnits {num den : Nat} (h : excessBits (num / den) ≠ 0) :
    2 ^ (52 + excessBits (num / den)) ≤ roundedUnits num den := by
  rw [roundedUnits, Nat.pow_add]
  exact Nat.mul_le_mul_right _ (Nat.le_trans (le_div_of_excessBits num den h) (le_roundHalfEven _ _))

theorem div_le_div_of_cross {a b c d : Nat} (hb : 0 < b) (hd : 0 < d) (h : a * d ≤ c * b) :
    a / b ≤ c / d := by
  rw [Nat.le_div_iff_mul_le hd]
  refine Nat.le_of_mul_le_mul_right ?_ hb
  calc a / b * d * b = a / b * b * d := Nat.mul_right_comm ..
    _ ≤ a * d := Nat.mul_le_mul_right d (Nat.div_mul_le_self a b)
    _ ≤ c * b := h

theorem roundedUnits_mono {a b c d : Nat} (hb : 0 < b) (hd : 0 < d) (h : a * d ≤ c * b) :
    roundedUnits a b ≤ roundedUnits c d := by
  have he := excessBits_mono (div_le_div_of_cross hb hd h)
  rcases Nat.lt_or_eq_of_le he with hlt | heq
  · calc roundedUnits a b ≤ 2 ^ (53 + excessBits (a / b)) := roundedUnits_le_two_pow a b
      _ ≤ 2 ^ (52 + excessBits (c / d)) := Nat.pow_le_pow_right (by decide) (by omega)
      _ ≤ roundedUnits c d := two_pow_le_roundedUnits (by omega)
  · unfold roundedUnits
    rw [heq]
    refine Nat.mul_le_mul_right _ (roundHalfEven_mono ?_ ?_ ?_)
    · exact Nat.mul_pos hb (Nat.two_pow_pos _)
    · exact Nat.mul_pos hd (Nat.two_pow_pos _)
    · rw [← Nat.mul_assoc, ← Nat.mul_assoc]; exact Nat.mul_le_mul_right _ h

theorem roundedUnits_congr {a b c d : Nat} (hb : 0 < b) (hd : 0 < d) (h : a * d = c * b) :
    roundedUnits a b = roundedUnits c d :=
  Nat.le_antisymm (roundedUnits_mono hb hd (Nat.le_of_eq h))
    (roundedUnits_mono hd hb (Nat.le_of_eq h.symm))

theorem roundedUnits_exact {n den : Nat} (hn : Representable n) (hd : 0 < den) :
    roundedUnits (n * den) den = n := by
  obtain ⟨m, k, hm, rfl⟩ := hn
  have he : excessBits (m * 2 ^ k) ≤ k := excessBits_le <| by
    rw [Nat.pow_add]; exact Nat.mul_lt_mul_of_pos_right hm (Nat.two_pow_pos k)
  have hk : m * 2 ^ k = m * 2 ^ (k - excessBits (m * 2 ^ k)) * 2 ^ excessBits (m * 2 ^ k) := by
    rw [Nat.mul_assoc, ← Nat.pow_add, Nat.sub_add_cancel he]
  rw [roundedUnits, Nat.mul_div_cancel _ hd]
  generalize excessBits (m * 2 ^ k) = e at hk ⊢
  have e' : m * 2 ^ k * den = m * 2 ^ (k - e) * (den * 2 ^ e) := by rw [hk]; ring
  rw [e', roundHalfEven_mul _ (Nat.mul_pos hd (Nat.two_pow_pos e)), ← hk]

theorem roundedUnits_le {num den n : Nat} (hn : Representable n) (hd : 0 < den) (h : num ≤ n * den) :
    roundedUnits num den ≤ n := by
  have := roundedUnits_mono hd hd (Nat.mul_le_mul_right den h)
  rwa [roundedUnits_exact hn hd] at this

theorem le_roundedUnits {num den n : Nat} (hn : Representable n) (hd : 0 < den) (h : n * den ≤ num) :
    n ≤ roundedUnits num den := by
  have := roundedUnits_mono hd hd (Nat.mul_le_mul_right den h)
  rwa [roundedUnits_exact hn hd] at this

/-! ## The number that results -/

namespace Finite

theorem magnitude_lt (x : Finite) : x.magnitude < 2 ^ (53 + 2045) := calc
  x.magnitude < 2 ^ 53 * 2 ^ x.shift :=
    Nat.mul_lt_mul_of_pos_right x.significand_lt (Nat.two_pow_pos _)
  _ ≤ 2 ^ 53 * 2 ^ 2045 := Nat.mul_le_mul_left _ (Nat.pow_le_pow_right (by decide) x.shift_le)
  _ = 2 ^ (53 + 2045) := (Nat.pow_add 2 53 2045).symm

theorem representable (x : Finite) : Representable x.magnitude :=
  ⟨x.significand, x.shift, x.significand_lt, rfl⟩

theorem shift_le_of_magnitude_eq {x y : Finite} (h : x.magnitude = y.magnitude) : y.shift ≤ x.shift := by
  rcases Nat.lt_or_ge x.shift y.shift with hlt | hge
  · have hc : 2 ^ 52 ≤ y.significand := y.canonical.resolve_left (by omega)
    have hx := Nat.mul_lt_mul_of_pos_right x.significand_lt (Nat.two_pow_pos x.shift)
    have hy : 2 ^ 53 * 2 ^ x.shift ≤ y.magnitude := calc
      2 ^ 53 * 2 ^ x.shift = 2 ^ (53 + x.shift) := (Nat.pow_add ..).symm
      _ ≤ 2 ^ (52 + y.shift) := Nat.pow_le_pow_right (by decide) (by omega)
      _ = 2 ^ 52 * 2 ^ y.shift := Nat.pow_add ..
      _ ≤ y.magnitude := Nat.mul_le_mul_right _ hc
    unfold magnitude at h hy
    omega
  · exact hge

theorem eq_of_magnitude {x y : Finite} (hs : x.negative = y.negative) (h : x.magnitude = y.magnitude) :
    x = y := by
  have hshift : x.shift = y.shift :=
    Nat.le_antisymm (shift_le_of_magnitude_eq h.symm) (shift_le_of_magnitude_eq h)
  have hsig : x.significand = y.significand := by
    unfold magnitude at h
    rw [hshift] at h
    exact Nat.eq_of_mul_eq_mul_right (Nat.two_pow_pos _) h
  cases x; cases y
  simp_all

end Finite

namespace Binary64

theorem ofRounded_cases (negative : Bool) (m k : Nat) (hm : m ≤ 2 ^ 53) (hc : k = 0 ∨ 2 ^ 52 ≤ m) :
    (∃ x : Finite, ofRounded negative m k hm hc = .finite x ∧ x.negative = negative ∧
      x.magnitude = m * 2 ^ k) ∨
    (ofRounded negative m k hm hc = .infinite negative ∧ 2 ^ (53 + 2045) ≤ m * 2 ^ k) := by
  have big : ∀ j, 2045 < j → 2 ^ (53 + 2045) ≤ 2 ^ 52 * 2 ^ j := by
    intro j hj
    have hle := @Nat.pow_le_pow_right 2 (by decide) (53 + 2045) (52 + j) (by omega)
    rwa [Nat.pow_add 2 52] at hle
  unfold ofRounded
  split
  · rename_i h
    have e : m * 2 ^ k = 2 ^ 52 * 2 ^ (k + 1) := by
      rw [h, ← Nat.pow_add, ← Nat.pow_add]; congr 1; omega
    split
    · exact .inl ⟨_, rfl, rfl, e.symm⟩
    · exact .inr ⟨rfl, e ▸ big (k + 1) (by omega)⟩
  · split
    · exact .inl ⟨_, rfl, rfl, rfl⟩
    · exact .inr ⟨rfl, Nat.le_trans (big k (by omega)) (Nat.mul_le_mul_right _ (hc.resolve_left (by omega)))⟩

/-- Rounding gives the number of the rounded magnitude, or an infinity if that is too great. -/
theorem ofUnits_cases (negative : Bool) (num den : Nat) :
    (∃ x : Finite, ofUnits negative num den = .finite x ∧ x.negative = negative ∧
      x.magnitude = roundedUnits num den) ∨
    (ofUnits negative num den = .infinite negative ∧ 2 ^ (53 + 2045) ≤ roundedUnits num den) :=
  ofRounded_cases ..

theorem ofUnits_eq_finite {x : Finite} {num den : Nat} (h : roundedUnits num den = x.magnitude) :
    ofUnits x.negative num den = .finite x := by
  rcases ofUnits_cases x.negative num den with ⟨y, hy, hs, hm⟩ | ⟨-, hbig⟩
  · rw [hy, Finite.eq_of_magnitude hs (hm.trans h)]
  · have := x.magnitude_lt; omega

theorem ofUnits_congr (negative : Bool) {a b c d : Nat} (hb : 0 < b) (hd : 0 < d) (h : a * d = c * b) :
    ofUnits negative a b = ofUnits negative c d := by
  have e := roundedUnits_congr hb hd h
  rcases ofUnits_cases negative a b with ⟨x, hx, rfl, hm⟩ | ⟨hx, hbig⟩
  · rw [hx, ofUnits_eq_finite (e.symm.trans hm.symm)]
  · rcases ofUnits_cases negative c d with ⟨y, hy, -, hm⟩ | ⟨hy, -⟩
    · have := y.magnitude_lt; omega
    · rw [hx, hy]

theorem ofUnits_magnitude (x : Finite) {den : Nat} (hd : 0 < den) :
    ofUnits x.negative (x.magnitude * den) den = .finite x :=
  ofUnits_eq_finite (roundedUnits_exact x.representable hd)

theorem exists_ofUnits (negative : Bool) {num den n : Nat} (h : num = n * den) (hn : Representable n)
    (hlt : n < 2 ^ (53 + 2045)) (hd : 0 < den) :
    ∃ z : Finite, ofUnits negative num den = .finite z ∧ z.negative = negative ∧ z.magnitude = n := by
  have e := roundedUnits_exact hn hd
  rw [← h] at e
  rcases ofUnits_cases negative num den with ⟨z, hz, hs, hm⟩ | ⟨-, hbig⟩
  · exact ⟨z, hz, hs, hm.trans e⟩
  · omega

end Binary64

end TraceRelay
