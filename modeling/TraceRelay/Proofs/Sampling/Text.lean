import TraceRelay.Proofs.Sampling.Grid

/-!
# Written rates and random values are read back

The six places of a random value denote what it was cut off to (`fraction?_randText`). A value that
was cut off before is written without needless zeros and denotes itself (`fraction?_trimmedRandText`),
and so does every rate (`rate?_rateText`).
-/

namespace TraceRelay

theorem isBlank_of_mem_point {ds ps : List Char} (hd : ∀ c ∈ ds, c.isDigit = true)
    (hp : ∀ c ∈ ps, c.isDigit = true) : ∀ c ∈ ds ++ '.' :: ps, isBlank c = false := by
  intro c hc
  rcases List.mem_append.1 hc with h | h
  · exact isBlank_of_isDigit (hd c h)
  · rcases List.mem_cons.1 h with rfl | h
    · decide
    · exact isBlank_of_isDigit (hp c h)

theorem number?_ofList {text : List Char} (h : ∀ c ∈ text, isBlank c = false) :
    number? (String.ofList text) = Binary64.ofText? text := by
  rw [number?, String.toList_ofList, trim_eq_self (isTrimmed_of_forall h)]

theorem isBlank_of_mem_pointed {n places : Nat} (hp : 0 < places) :
    ∀ c ∈ pointed n places, isBlank c = false :=
  isBlank_of_mem_point (fun _ => isDigit_of_mem_toDigits) (places_spec n hp).1

theorem ofText?_randChars (x : Binary64) : Binary64.ofText? (randChars x) = some (quantize x) := by
  rw [quantize_eq_gridPoint, randChars, ofText?_pointed_randPlaces]

theorem fraction?_randText (x : Binary64) : fraction? (randText x) = some (quantize x) := by
  have hb : ∀ c ∈ randChars x, isBlank c = false := isBlank_of_mem_pointed (by decide)
  rw [fraction?, randText, number?_ofList hb, ofText?_randChars]
  exact Option.filter_eq_some_iff.2 ⟨rfl, quantize_isFraction x⟩

theorem trimZeros_append_zero (text : List Char) : trimZeros (text ++ ['0']) = trimZeros text := by
  simp [trimZeros]

theorem trimZeros_eq_self {text : List Char} {c : Char} (h0 : c ≠ '0') (h1 : c ≠ '.') :
    trimZeros (text ++ [c]) = text ++ [c] := by
  simp [trimZeros, h0, h1]

theorem trimZeros_point (ds : List Char) : ∀ ps : List Char, ps ≠ [] → (∀ c ∈ ps, c.isDigit = true) →
    ∃ qs j, qs ≠ [] ∧ (qs.getLast? = some '0' → qs = ['0']) ∧ ps = qs ++ List.replicate j '0' ∧
      trimZeros (ds ++ '.' :: ps) = ds ++ '.' :: qs := by
  intro ps
  induction ps using List.reverseRecOn with
  | nil => exact fun h => absurd rfl h
  | append_singleton ps c ih =>
    intro _ hd
    have e : ds ++ '.' :: (ps ++ [c]) = (ds ++ '.' :: ps) ++ [c] := by simp
    by_cases hc : c = '0'
    · -- a zero at the end goes, unless it is the only place
      subst hc
      rcases List.eq_nil_or_concat ps with rfl | ⟨ps', c', rfl⟩
      · exact ⟨['0'], 0, by simp, fun _ => rfl, rfl, by simp [trimZeros]⟩
      · obtain ⟨qs, j, hq, hlast, hps, ht⟩ := ih (by simp) fun c hc => hd c (List.mem_append_left _ hc)
        refine ⟨qs, j + 1, hq, hlast, ?_, ?_⟩
        · rw [hps, List.replicate_succ', List.append_assoc]
        · rw [e, trimZeros_append_zero, ht]
    · have h1 : c ≠ '.' := by rintro rfl; exact absurd (hd '.' (by simp)) (by decide)
      exact ⟨ps ++ [c], 0, by simp, by simp [hc], by simp, by rw [e, trimZeros_eq_self hc h1]⟩

theorem ofText?_trimZeros_pointed (n places : Nat) (hp : 0 < places) :
    Binary64.ofText? (trimZeros (pointed n places)) = some (.ofDecimal false n (-places)) := by
  obtain ⟨hdig, hlen, hval⟩ := places_spec n hp
  have hfull := ofText?_pointed false n places hp
  have hne : (Nat.toDigits 10 (n % 10 ^ places)).leftpad places '0' ≠ [] := by
    intro h; rw [h] at hlen; simp at hlen; omega
  have hd : ∀ c ∈ Nat.toDigits 10 (n / 10 ^ places), c.isDigit = true := fun _ => isDigit_of_mem_toDigits
  unfold pointed at hfull ⊢
  obtain ⟨qs, j, -, -, hps, ht⟩ := trimZeros_point (Nat.toDigits 10 (n / 10 ^ places)) _ hne hdig
  rw [hps] at hdig hfull
  have hq : ∀ c ∈ qs, c.isDigit = true := fun c hc => hdig c (List.mem_append_left _ hc)
  rw [Binary64.ofText?_point false hd hdig Nat.toDigits_ne_nil] at hfull
  have hread := Binary64.ofText?_point false hd hq Nat.toDigits_ne_nil
  rw [signText, if_neg (by decide), List.nil_append] at hread
  have hval' : Nat.ofDigitChars 10 (Nat.toDigits 10 (n / 10 ^ places) ++ (qs ++ List.replicate j '0')) 0 =
      Nat.ofDigitChars 10 (Nat.toDigits 10 (n / 10 ^ places) ++ qs) 0 * 10 ^ j := by
    rw [← List.append_assoc]
    generalize Nat.toDigits 10 (n / 10 ^ places) ++ qs = l
    rw [Nat.ofDigitChars_append, Nat.ofDigitChars_replicate_zero, Nat.mul_comm]
  have hexp : (-((qs ++ List.replicate j '0').length : Int)) = -qs.length - j := by
    rw [List.length_append, List.length_replicate]; omega
  rw [ht, hread, ← hfull, hval', hexp, Binary64.ofDecimal_scale]

theorem isBlank_of_mem_trimZeros {text : List Char} (h : ∀ c ∈ text, isBlank c = false) :
    ∀ c ∈ trimZeros text, isBlank c = false := by
  have hsub : ∀ c ∈ (text.reverse.dropWhile (· == '0')).reverse, isBlank c = false := fun c hc =>
    h c (List.mem_reverse.1 ((List.dropWhile_sublist _).subset (List.mem_reverse.1 hc)))
  intro c hc
  unfold trimZeros at hc
  simp only at hc
  split at hc
  · rcases List.mem_append.1 hc with h | h
    · exact hsub c h
    · rw [List.mem_singleton.1 h]; decide
  · exact hsub c hc

theorem sameValue_self (x : Finite) : (Binary64.finite x).sameValue (.finite x) = true := by
  simp [Binary64.sameValue, Binary64.le]

theorem fixedRandChars_gridPoint {k : Nat} (hk : k < 10 ^ randPlaces) :
    fixedRandChars (gridPoint k) = pointed k randPlaces := by
  obtain ⟨f, hf, hn, -⟩ := exists_gridPoint hk
  have hfix : f.fixed randPlaces = pointed k randPlaces := by
    rw [Finite.fixed, roundedSteps_of_gridPoint hk hf, hn, signText, if_neg Bool.false_ne_true, List.nil_append]
  have hread : (Binary64.ofText? (f.fixed randPlaces)).any (·.sameValue (.finite f)) = true := by
    rw [hfix, ofText?_pointed_randPlaces, hf]
    exact sameValue_self f
  have hfrac : (Binary64.finite f).isFraction = true := hf ▸ gridPoint_isFraction hk
  rw [hf]
  show (if (Binary64.finite f).isFraction && _ then f.fixed randPlaces else _) = pointed k randPlaces
  rw [hfrac, hread, Bool.true_and, if_pos rfl, hfix]

theorem fixedRandChars_quantize (x : Binary64) : fixedRandChars (quantize x) = randChars x := by
  rw [quantize_eq_gridPoint, fixedRandChars_gridPoint (randSteps_lt x), randChars]

/-- A value that was cut off before is written so that it is read back. -/
theorem fraction?_trimmedRandText (x : Binary64) :
    fraction? (trimmedRandText (quantize x)) = some (quantize x) := by
  have hb : ∀ c ∈ randChars x, isBlank c = false := isBlank_of_mem_pointed (by decide)
  have h : Binary64.ofText? (trimZeros (randChars x)) = some (quantize x) := by
    rw [quantize_eq_gridPoint]
    exact ofText?_trimZeros_pointed (randSteps x) randPlaces (by decide)
  rw [fraction?, trimmedRandText, fixedRandChars_quantize, number?_ofList (isBlank_of_mem_trimZeros hb), h]
  exact Option.filter_eq_some_iff.2 ⟨rfl, quantize_isFraction x⟩

/-! ## Rates -/

theorem isBlank_of_mem_positional (n : Nat) (e : Int) :
    ∀ c ∈ Layout.positional true n e, isBlank c = false := by
  unfold Layout.positional
  split
  · exact isBlank_of_mem_point (fun _ => isDigit_of_mem_toDigits) (by simp)
  · exact isBlank_of_mem_pointed (by omega)

theorem isBlank_of_mem_text_rate (x : Finite) :
    ∀ c ∈ (Binary64.finite x).text .rate, isBlank c = false := by
  intro c hc
  rw [Binary64.text_rate_eq] at hc
  rcases List.mem_append.1 hc with h | h
  · unfold signText at h
    split at h
    · rw [List.mem_singleton.1 h]; decide
    · cases h
  · exact isBlank_of_mem_positional _ _ c h

theorem rate?_rateText {r : Binary64} (h : r.isRate = true) : rate? (rateText r) = some r := by
  obtain ⟨x, rfl, -, -⟩ := Binary64.isRate_iff.1 h
  rw [rate?, rateText, Binary64.write, number?_ofList (isBlank_of_mem_text_rate x), Binary64.ofText?_text_rate]
  exact Option.filter_eq_some_iff.2 ⟨rfl, h⟩

end TraceRelay
