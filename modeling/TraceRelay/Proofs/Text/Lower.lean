import TraceRelay.Text.Lower

/-!
# Text in lower case

A text in lower case is so character by character (`isLower_of_mem_lowerChars`). So it stays as it is when
it is lowered once more, whole or taken apart (`lowerChars_eq_self`), and no capital letter of ASCII is left
in it (`toLower_of_isLower`).
-/

namespace TraceRelay

/-- A character that is its own lower case form, wherever it stands. -/
def IsLower (c : Char) : Prop := c.toNat ≠ 0x3A3 ∧ lowerChar c = [c]

instance (c : Char) : Decidable (IsLower c) := inferInstanceAs (Decidable (_ ∧ _))

/-- No form that run `r` gives is a character of run `s`: it lies before or behind all of them, or among
those that `s` steps over. -/
def LowerRun.avoids (r s : LowerRun) : Bool :=
  (r.target + (r.last - r.first)).blt s.first || s.last.blt r.target ||
    (s.step == 2 && (r.step == 2 || r.first == r.last) && (r.target + s.first) % 2 == 1)

theorem avoids_lowerRuns : (lowerRuns.all fun r => lowerRuns.all fun s => r.avoids s) = true := by decide +kernel

theorem LowerRun.contains_iff {r : LowerRun} {n : Nat} :
    r.contains n = true ↔ r.first ≤ n ∧ n ≤ r.last ∧ (n - r.first) % r.step = 0 := by
  simp [contains, and_assoc]

theorem LowerRun.contains_eq_false_of_avoids {r s : LowerRun} (h : r.avoids s = true) {n : Nat}
    (hn : r.contains n = true) : s.contains (r.target + (n - r.first)) = false := by
  obtain ⟨hfirst, hlast, hstep⟩ := contains_iff.1 hn
  refine Bool.eq_false_iff.2 fun hs => ?_
  obtain ⟨hfirst', hlast', hstep'⟩ := contains_iff.1 hs
  simp only [avoids, Bool.or_eq_true, Bool.and_eq_true, Nat.blt_eq, beq_iff_eq] at h
  obtain (h | h) | ⟨⟨htwo, hr⟩, hodd⟩ := h
  · omega
  · omega
  · -- the form is an odd distance away from the first character of `s`
    rw [htwo] at hstep'
    rcases hr with hr | hr
    · rw [hr] at hstep
      omega
    · omega

/-- The run of the one character whose lower case form has two characters. -/
def dottedRun : LowerRun := ⟨0x130, 0x130, 1, 0⟩

theorem forms_lowerRuns : ∀ r ∈ lowerRuns, r.avoids dottedRun = true ∧ 0x5A < r.target ∧
    (r.target + (r.last - r.first) < 0xD800 ∨ 0xDFFF < r.target ∧ r.target + (r.last - r.first) < 0x110000) := by
  decide +kernel

/-! ## Single characters -/

theorem lowerChar_of_lt {c : Char} (h : c.toNat < 0x80) : lowerChar c = [c.toLower] := if_pos h

theorem toLower_of_lt {c : Char} (h : 0x5A < c.toNat) : c.toLower = c := by
  refine dif_neg fun hc => ?_
  have hle : c.toNat ≤ 0x5A := UInt32.le_iff_toNat_le.1 hc.2
  omega

theorem isLower_toLower {c : Char} (h : c.toNat < 0x80) : IsLower c.toLower := by
  have hall : ∀ n < 0x80, IsLower (Char.ofNat n).toLower := by decide +kernel
  have hc := hall c.toNat h
  rwa [Char.ofNat_toNat] at hc

theorem lowerChar_of_not_contained {c : Char} (h0 : 0x5A < c.toNat) (h1 : c.toNat ≠ 0x130)
    (h : ∀ r ∈ lowerRuns, r.contains c.toNat = false) : lowerChar c = [c] := by
  have hnone : lowerRuns.find? (fun r => r.contains c.toNat) = none :=
    List.find?_eq_none.2 fun r hr => by simp [h r hr]
  unfold lowerChar
  rw [if_neg h1, hnone]
  split
  · rw [toLower_of_lt h0]
  · rfl

theorem toNat_form {r : LowerRun} (hr : r ∈ lowerRuns) {n : Nat} (hn : r.contains n = true) :
    (Char.ofNat (r.target + (n - r.first))).toNat = r.target + (n - r.first) := by
  obtain ⟨-, hlast, -⟩ := LowerRun.contains_iff.1 hn
  obtain ⟨-, -, hvalid⟩ := forms_lowerRuns r hr
  have h : (r.target + (n - r.first)).isValidChar := by
    unfold Nat.isValidChar
    omega
  rw [Char.ofNat, dif_pos h]
  rfl

theorem isLower_form {r : LowerRun} (hr : r ∈ lowerRuns) {n : Nat} (hn : r.contains n = true) :
    IsLower (Char.ofNat (r.target + (n - r.first))) := by
  obtain ⟨hdotted, hcapital, -⟩ := forms_lowerRuns r hr
  have hform := toNat_form hr hn
  have hnone : ∀ s ∈ lowerRuns, s.contains (r.target + (n - r.first)) = false := fun s hs =>
    LowerRun.contains_eq_false_of_avoids (List.all_eq_true.1 (List.all_eq_true.1 avoids_lowerRuns r hr) s hs) hn
  constructor
  · -- a run starts with the capital sigma
    obtain ⟨s, hs, hsigma⟩ : ∃ s ∈ lowerRuns, s.contains 0x3A3 = true := by decide +kernel
    intro he
    rw [← he, hform, hnone s hs] at hsigma
    cases hsigma
  · refine lowerChar_of_not_contained (by omega) ?_ (by rwa [hform])
    intro he
    have hno := LowerRun.contains_eq_false_of_avoids hdotted hn
    rw [← hform, he] at hno
    revert hno
    decide

theorem isLower_of_mem_lowerChar {c d : Char} (hc : c.toNat ≠ 0x3A3) (h : d ∈ lowerChar c) : IsLower d := by
  unfold lowerChar at h
  split at h
  · rename_i hlt
    rw [List.mem_singleton.1 h]
    exact isLower_toLower hlt
  · rename_i hge
    split at h
    · have hboth : IsLower 'i' ∧ IsLower '\u0307' := by decide +kernel
      rcases List.mem_cons.1 h with rfl | h
      · exact hboth.1
      · rw [List.mem_singleton.1 h]
        exact hboth.2
    · rename_i hdotted
      split at h
      · rename_i r hr
        rw [List.mem_singleton.1 h]
        exact isLower_form (List.mem_of_find?_eq_some hr) (List.find?_some (p := (LowerRun.contains · c.toNat)) hr)
      · rename_i hnone
        rw [List.mem_singleton.1 h]
        refine ⟨hc, lowerChar_of_not_contained (by omega) hdotted fun r hr => ?_⟩
        simpa using List.find?_eq_none.1 hnone r hr

theorem toLower_of_isLower {c : Char} (h : IsLower c) : c.toLower = c := by
  rcases Nat.lt_or_ge c.toNat 0x80 with hlt | hge
  · have hself := h.2
    rw [lowerChar_of_lt hlt] at hself
    exact List.head_eq_of_cons_eq hself
  · exact toLower_of_lt (by omega)

theorem isLower_of_mem_lowerAfter {before text : List Char} {c : Char} (h : c ∈ lowerAfter before text) :
    IsLower c := by
  induction text generalizing before with
  | nil => cases h
  | cons d rest ih =>
    rw [lowerAfter, List.mem_append] at h
    rcases h with h | h
    · split at h
      · have hboth : IsLower '\u03C2' ∧ IsLower '\u03C3' := by decide +kernel
        rw [List.mem_singleton.1 h]
        split
        · exact hboth.1
        · exact hboth.2
      · rename_i hd
        exact isLower_of_mem_lowerChar hd h
    · exact ih h

theorem isLower_of_mem_lowerChars {text : List Char} {c : Char} (h : c ∈ lowerChars text) : IsLower c :=
  isLower_of_mem_lowerAfter h

theorem lowerAfter_eq_self {before text : List Char} (h : ∀ c ∈ text, IsLower c) : lowerAfter before text = text := by
  induction text generalizing before with
  | nil => rfl
  | cons c rest ih =>
    obtain ⟨hc, hrest⟩ := List.forall_mem_cons.1 h
    rw [lowerAfter, if_neg hc.1, hc.2, ih hrest]
    rfl

theorem lowerChars_eq_self {text : List Char} (h : ∀ c ∈ text, IsLower c) : lowerChars text = text :=
  lowerAfter_eq_self h

theorem map_toLower_lowerChars (text : List Char) : (lowerChars text).map Char.toLower = lowerChars text := by
  rw [List.map_congr_left fun c hc => toLower_of_isLower (isLower_of_mem_lowerChars hc), List.map_id']

end TraceRelay
