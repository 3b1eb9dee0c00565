import Mathlib.Tactic.Ring
import TraceRelay.Binary64.Fixed
import TraceRelay.Proofs.Binary64.Order

/-!
# What decimal text denotes

A decimal is rounded once, whatever its exponent (`ofDecimal_eq_ofUnits`), so that zeros at its end
do not count (`ofDecimal_scale`). Text in digits with a point denotes the decimal of these digits
(`ofText?_point`), and so the written form of `n` steps of `10 ^ -places` is read as that many steps
(`ofText?_pointed`).
-/

namespace TraceRelay

theorem roundedUnits_eq_zero {num den : Nat} (h : 2 * num < den) : roundedUnits num den = 0 := by
  have hdiv : num / den = 0 := Nat.div_eq_of_lt (by omega)
  have hmod : num % den = num := Nat.mod_eq_of_lt (by omega)
  have hb : excessBits 0 = 0 := rfl
  simp [roundedUnits, roundHalfEven, hdiv, hmod, hb, h]

theorem two_pow_mul_le_ten_pow (k : Nat) : 2 ^ (3 * k) ≤ 10 ^ k := by
  rw [Nat.pow_mul]; exact Nat.pow_le_pow_left (by decide) k

namespace Binary64

theorem ofUnits_zero (negative : Bool) {den : Nat} (hd : 0 < den) :
    ofUnits negative 0 den = .finite (.zero negative) := by
  have h : roundedUnits 0 den = (Finite.zero negative).magnitude := roundedUnits_eq_zero (by omega)
  exact ofUnits_eq_finite h

theorem ofUnits_infinite (negative : Bool) {num den : Nat} (hd : 0 < den)
    (h : 2 ^ (53 + 2045) * den ≤ num) : ofUnits negative num den = .infinite negative := by
  have hr : Representable (2 ^ (53 + 2045)) := ⟨1, 53 + 2045, by decide, (Nat.one_mul _).symm⟩
  have := le_roundedUnits hr hd h
  rcases ofUnits_cases negative num den with ⟨x, -, -, hm⟩ | ⟨hx, -⟩
  · have := x.magnitude_lt; omega
  · exact hx

/-- The cases of `ofDecimal` that do not round agree with rounding. -/
theorem ofDecimal_eq_ofUnits (negative : Bool) (n : Nat) (e : Int) :
    ofDecimal negative n e =
      ofUnits negative (n * 10 ^ e.toNat * unitsPerOne) (10 ^ (-e).toNat) := by
  have hden : 0 < 10 ^ (-e).toNat := Nat.pow_pos (by decide)
  unfold ofDecimal
  split
  · rename_i hn
    rw [hn, Nat.zero_mul, Nat.zero_mul, ofUnits_zero negative hden]
  · rename_i hn
    split
    · rename_i he
      have hz : (-e).toNat = 0 := by omega
      have hbig : 2 ^ (53 + 2045) ≤ 10 ^ e.toNat * unitsPerOne := calc
        2 ^ (53 + 2045) ≤ 2 ^ (3 * e.toNat + 1074) := Nat.pow_le_pow_right (by decide) (by omega)
        _ = 2 ^ (3 * e.toNat) * unitsPerOne := two_pow_add_unitsPerOne _
        _ ≤ 10 ^ e.toNat * unitsPerOne := Nat.mul_le_mul_right _ (two_pow_mul_le_ten_pow _)
      rw [hz, Nat.pow_zero, ofUnits_infinite negative Nat.one_pos]
      generalize 2 ^ (53 + 2045) = big at hbig ⊢
      rw [Nat.mul_one, Nat.mul_assoc]
      exact Nat.le_trans hbig (Nat.le_mul_of_pos_left _ (Nat.pos_of_ne_zero hn))
    · split
      · rename_i he
        have hz : e.toNat = 0 := by omega
        have hlow : 2 * (n * unitsPerOne) < 10 ^ (-e).toNat := calc
          2 * (n * unitsPerOne) < 2 * (2 ^ (n.log2 + 1) * unitsPerOne) :=
            Nat.mul_lt_mul_of_pos_left
              (Nat.mul_lt_mul_of_pos_right Nat.lt_log2_self unitsPerOne_pos) (by decide)
          _ = 2 ^ (n.log2 + 2 + 1074) := by
            rw [two_pow_add_unitsPerOne, ← Nat.mul_assoc, ← Nat.pow_succ']
          _ ≤ 2 ^ (3 * (-e).toNat) := Nat.pow_le_pow_right (by decide) (by omega)
          _ ≤ 10 ^ (-e).toNat := two_pow_mul_le_ten_pow _
        have h0 := roundedUnits_eq_zero hlow
        rw [hz, Nat.pow_zero, Nat.mul_one]
        exact (ofUnits_eq_finite (x := .zero negative) h0).symm
      · rfl

theorem ofDecimal_scale (negative : Bool) (n j : Nat) (e : Int) :
    ofDecimal negative (n * 10 ^ j) (e - j) = ofDecimal negative n e := by
  rw [ofDecimal_eq_ofUnits, ofDecimal_eq_ofUnits]
  apply ofUnits_congr _ (Nat.pow_pos (by decide)) (Nat.pow_pos (by decide))
  have key : 10 ^ j * 10 ^ (e - j).toNat * 10 ^ (-e).toNat = 10 ^ e.toNat * 10 ^ (-(e - j)).toNat := by
    rw [← Nat.pow_add, ← Nat.pow_add, ← Nat.pow_add]; congr 1; omega
  calc n * 10 ^ j * 10 ^ (e - j).toNat * unitsPerOne * 10 ^ (-e).toNat
      = n * (10 ^ j * 10 ^ (e - j).toNat * 10 ^ (-e).toNat) * unitsPerOne := by ring
    _ = n * 10 ^ e.toNat * unitsPerOne * 10 ^ (-(e - j)).toNat := by rw [key]; ring

end Binary64

/-! ## Text in digits -/

theorem takeWhile_append_of_all {α : Type} {p : α → Bool} {l r : List α} (hl : ∀ a ∈ l, p a = true)
    (hr : r.head?.all fun a => !p a) : (l ++ r).takeWhile p = l ∧ (l ++ r).dropWhile p = r := by
  rw [List.takeWhile_append_of_pos hl, List.dropWhile_append_of_pos hl]
  cases r with
  | nil => simp
  | cons a r => simp_all

namespace Binary64

theorem ofDigits?_point (negative : Bool) {ds ps : List Char} (hd : ∀ c ∈ ds, c.isDigit = true)
    (hp : ∀ c ∈ ps, c.isDigit = true) (hne : ds ≠ []) :
    ofDigits? negative (ds ++ '.' :: ps) =
      some (ofDecimal negative (Nat.ofDigitChars 10 (ds ++ ps) 0) (-ps.length)) := by
  obtain ⟨h1, h2⟩ := takeWhile_append_of_all (r := '.' :: ps) hd rfl
  have h3 : ps.takeWhile Char.isDigit = ps ∧ ps.dropWhile Char.isDigit = [] := by
    simpa using takeWhile_append_of_all (r := []) hp rfl
  unfold ofDigits?
  simp [h1, h2, h3.1, h3.2, hne, exponent?]

theorem ofText?_signText (negative : Bool) {text : List Char} (h : text.head?.any Char.isDigit) :
    ofText? (signText negative ++ text) = ofUnsigned? negative text := by
  cases text with
  | nil => simp at h
  | cons c text =>
    have hc : c.isDigit = true := by simpa using h
    cases negative with
    | true => rfl
    | false =>
      simp only [signText, Bool.false_eq_true, if_false, List.nil_append]
      unfold ofText?
      split
      · simp_all [show ('-').isDigit = false by decide]
      · simp_all [show ('+').isDigit = false by decide]
      · rfl

theorem ofText?_point (negative : Bool) {ds ps : List Char} (hd : ∀ c ∈ ds, c.isDigit = true)
    (hp : ∀ c ∈ ps, c.isDigit = true) (hne : ds ≠ []) :
    ofText? (signText negative ++ (ds ++ '.' :: ps)) =
      some (ofDecimal negative (Nat.ofDigitChars 10 (ds ++ ps) 0) (-ps.length)) := by
  have hhead : (ds ++ '.' :: ps).head?.any Char.isDigit := by
    cases ds with
    | nil => exact absurd rfl hne
    | cons c ds => simpa using hd c (by simp)
  rw [ofText?_signText negative hhead, ofUnsigned?, ofDigits?_point negative hd hp hne]
  rfl

end Binary64

theorem isDigit_of_mem_toDigits {n : Nat} {c : Char} (h : c ∈ Nat.toDigits 10 n) : c.isDigit = true :=
  Nat.isDigit_of_mem_toDigits (by decide) (by decide) h

/-- The places behind the point: so many digits, with the value of the rest. -/
theorem places_spec (n : Nat) {places : Nat} (hp : 0 < places) :
    let ps := (Nat.toDigits 10 (n % 10 ^ places)).leftpad places '0'
    (∀ c ∈ ps, c.isDigit = true) ∧ ps.length = places ∧ Nat.ofDigitChars 10 ps 0 = n % 10 ^ places := by
  have hlen : (Nat.toDigits 10 (n % 10 ^ places)).length ≤ places :=
    (Nat.length_toDigits_le_iff (by decide) hp).2 (Nat.mod_lt _ (Nat.pow_pos (by decide)))
  refine ⟨fun c hc => ?_, ?_, ?_⟩
  · rcases List.mem_append.1 hc with h | h
    · rw [List.eq_of_mem_replicate h]; decide
    · exact isDigit_of_mem_toDigits h
  · rw [List.length_leftpad]; omega
  · rw [List.leftpad, Nat.ofDigitChars_append, Nat.ofDigitChars_replicate_zero, Nat.mul_zero,
      Nat.ofDigitChars_ten_toDigits]

theorem ofText?_pointed (negative : Bool) (n places : Nat) (hp : 0 < places) :
    Binary64.ofText? (signText negative ++ pointed n places) =
      some (.ofDecimal negative n (-places)) := by
  obtain ⟨hdig, hlen, hval⟩ := places_spec n hp
  unfold pointed
  rw [Binary64.ofText?_point negative (fun _ => isDigit_of_mem_toDigits) hdig Nat.toDigits_ne_nil,
    Nat.ofDigitChars_append, Nat.ofDigitChars_ten_toDigits, Nat.ofDigitChars_eq_ofDigitChars_zero, hval,
    hlen, Nat.div_add_mod]

end TraceRelay
