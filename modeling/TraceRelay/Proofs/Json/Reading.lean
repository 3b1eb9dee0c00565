import TraceRelay.Json.Reading

/-!
# Readings of the same text

A value is read with fuel, in a depth that is left, and is kept or skipped. What is kept somewhere in a text does not
depend on how much fuel there is, and it can be skipped up to the same place (`kept_and_skipped`), so a text that is
read as a whole can be read member by member as well. Skipping is not the same reading with the results left out: half
of a surrogate pair is a character of its own there (`inner_cases`).

All readers of values are treated at once (`resumes`), by the fuel of the reading that is given. The other reading has
enough fuel with twice the number of characters that are taken, since every value takes one at least.
-/

namespace TraceRelay

theorem bind_eq_ok_iff {ε α β : Type} {m : Except ε α} {f : α → Except ε β} {b : β} :
    (m >>= f) = .ok b ↔ ∃ a, m = .ok a ∧ f a = .ok b := by
  cases m with
  | ok a => exact ⟨fun h => ⟨a, rfl, h⟩, fun ⟨_, ha, h⟩ => by cases ha; exact h⟩
  | error e => exact ⟨nofun, fun ⟨_, ha, _⟩ => by cases ha⟩

theorem length_dropWhile_le {α : Type} (p : α → Bool) (l : List α) : (l.dropWhile p).length ≤ l.length :=
  (List.dropWhile_suffix p).length_le

namespace NumberText

variable {short short' : JsonFault} {text rest : List Char}

/-! ## Numbers -/

theorem digits_again {ds : List Char} (h : digits short text = .ok (ds, rest)) :
    digits short' text = .ok (ds, rest) ∧ rest.length < text.length := by
  unfold digits at h ⊢
  split at h
  · cases h
  · rename_i c tail
    split at h
    · rename_i hc
      cases h
      rw [List.dropWhile_cons_of_pos hc, if_pos hc]
      have := length_dropWhile_le Char.isDigit tail
      exact ⟨rfl, Nat.lt_succ_of_le this⟩
    · cases h

theorem scanWhole_again {ds : List Char} (h : scanWhole short text = .ok (ds, rest)) :
    scanWhole short' text = .ok (ds, rest) ∧ rest.length < text.length := by
  unfold scanWhole at h ⊢
  obtain ⟨⟨ds', rest'⟩, hd, h⟩ := bind_eq_ok_iff.1 h
  obtain ⟨hd', hlen⟩ := digits_again hd
  rw [hd']
  dsimp only at h
  split at h
  · cases h
  · rename_i hzero
    cases h
    exact ⟨if_neg hzero, hlen⟩

theorem scanPlaces_again {ds : Option (List Char)} (h : scanPlaces short text = .ok (ds, rest)) :
    scanPlaces short' text = .ok (ds, rest) ∧ rest.length ≤ text.length := by
  unfold scanPlaces at h ⊢
  split at h
  · obtain ⟨⟨ds', rest'⟩, hd, h⟩ := bind_eq_ok_iff.1 h
    obtain ⟨hd', hlen⟩ := digits_again hd
    cases h
    rw [hd']
    exact ⟨rfl, by rw [List.length_cons]; omega⟩
  · cases h
    exact ⟨rfl, Nat.le_refl _⟩

theorem scanExponent_again {e : Option (Bool × List Char)} (h : scanExponent short text = .ok (e, rest)) :
    scanExponent short' text = .ok (e, rest) ∧ rest.length ≤ text.length := by
  unfold scanExponent at h ⊢
  split at h
  · cases h
    exact ⟨rfl, Nat.le_refl _⟩
  · rename_i c tail
    dsimp only
    split at h
    · rename_i hc
      rw [if_pos hc]
      dsimp only at h
      obtain ⟨⟨ds', rest'⟩, hd, h⟩ := bind_eq_ok_iff.1 h
      obtain ⟨hd', hlen⟩ := digits_again hd
      cases h
      rw [hd']
      have htail : rest'.length ≤ tail.length := by
        split at hlen <;> simp only [List.length_cons] at hlen ⊢ <;> omega
      exact ⟨rfl, Nat.le_succ_of_le htail⟩
    · rename_i hc
      cases h
      rw [if_neg hc]
      exact ⟨rfl, Nat.le_refl _⟩

theorem scan_again {t : NumberText} (h : scan short text = .ok (t, rest)) :
    scan short' text = .ok (t, rest) ∧ rest.length < text.length := by
  unfold scan at h ⊢
  dsimp only at h
  obtain ⟨⟨whole, rest1⟩, hwhole, h⟩ := bind_eq_ok_iff.1 h
  obtain ⟨⟨places, rest2⟩, hplaces, h⟩ := bind_eq_ok_iff.1 h
  obtain ⟨⟨exponent, rest3⟩, hexponent, h⟩ := bind_eq_ok_iff.1 h
  cases h
  obtain ⟨hwhole', hlen1⟩ := scanWhole_again hwhole
  obtain ⟨hplaces', hlen2⟩ := scanPlaces_again hplaces
  obtain ⟨hexponent', hlen3⟩ := scanExponent_again hexponent
  dsimp only at hwhole hwhole' hplaces hplaces' hexponent hexponent' hlen1 hlen2 hlen3 ⊢
  have htext : rest1.length < text.length := by
    split at hlen1 <;> simp only [List.length_cons] at hlen1 ⊢ <;> omega
  refine ⟨?_, by omega⟩
  rw [hwhole']
  dsimp only [bind, Except.bind]
  rw [hplaces']
  dsimp only [bind, Except.bind]
  rw [hexponent']

end NumberText

namespace Json

variable {cs rest : List Char}

theorem length_skipGaps_le (cs : List Char) : (skipGaps cs).length ≤ cs.length := length_dropWhile_le _ _

theorem length_of_word {ws : List Char} (h : word ws cs = .ok rest) : rest.length ≤ cs.length := by
  fun_induction word ws cs with
  | case1 => cases h; exact Nat.le_refl _
  | case2 => cases h
  | case3 w ws tail ih => exact Nat.le_succ_of_le (ih h)
  | case4 => cases h

/-! ## Texts -/

theorem length_of_hexUnit {n : Nat} (h : hexUnit cs = .ok (n, rest)) : rest.length ≤ cs.length := by
  unfold hexUnit at h
  split at h
  · cases h
  · split at h
    · cases h
      rw [List.length_drop]
      omega
    · cases h

theorem secondHalf_cases {n : Nat} (h : secondHalf cs = .ok (n, rest)) :
    ∃ tail, cs = '\\' :: 'u' :: tail ∧ hexUnit tail = .ok (n, rest) := by
  unfold secondHalf at h
  split at h
  · cases h
  · split at h
    · cases h
    · rename_i tail
      obtain ⟨⟨m, rest'⟩, hm, h⟩ := bind_eq_ok_iff.1 h
      dsimp only at h
      split at h
      · cases h
        exact ⟨tail, rfl, hm⟩
      · cases h
    · cases h
  · cases h

theorem numbered_false {n : Nat} (h : hexUnit cs = .ok (n, rest)) : numbered false cs = .ok (Char.ofNat n, rest) := by
  unfold numbered
  rw [h]
  rfl

/-- Half of a surrogate pair is skipped by itself, and the other half after it. -/
theorem numbered_cases {c : Char} (h : numbered true cs = .ok (c, rest)) :
    ∃ c' rest', numbered false cs = .ok (c', rest') ∧ rest'.length ≤ cs.length ∧
      (rest' = rest ∨ ∃ tail n, rest' = '\\' :: 'u' :: tail ∧ hexUnit tail = .ok (n, rest)) := by
  unfold numbered at h
  obtain ⟨⟨n, rest'⟩, hn, h⟩ := bind_eq_ok_iff.1 h
  refine ⟨_, rest', numbered_false hn, length_of_hexUnit hn, ?_⟩
  dsimp only at h
  split at h
  · split at h
    · cases h
    · obtain ⟨⟨m, rest2⟩, hm, h⟩ := bind_eq_ok_iff.1 h
      obtain ⟨-, rfl⟩ := Prod.mk.inj (Except.ok.inj h)
      obtain ⟨tail, rfl, htail⟩ := secondHalf_cases hm
      exact .inr ⟨tail, m, rfl, htail⟩
  · cases h
    exact .inl rfl

theorem escaped_cases {c : Char} (h : escaped true cs = .ok (c, rest)) :
    ∃ c' rest', escaped false cs = .ok (c', rest') ∧ rest'.length < cs.length ∧
      (rest' = rest ∨ ∃ tail n, rest' = '\\' :: 'u' :: tail ∧ hexUnit tail = .ok (n, rest)) := by
  cases cs with
  | nil => cases h
  | cons e tail =>
    by_cases hu : e = 'u'
    · subst hu
      obtain ⟨c', rest', hskip, hlen, hcases⟩ := numbered_cases h
      exact ⟨c', rest', hskip, Nat.lt_succ_of_le hlen, hcases⟩
    · -- any other sign is one character, whether it is kept or not
      have hsame : escaped false (e :: tail) = escaped true (e :: tail) ∧ rest.length < (e :: tail).length := by
        unfold escaped at h ⊢
        split at h <;> grind
      exact ⟨c, rest, hsame.1.trans h, hsame.2, .inl rfl⟩

def inner (keep : Bool) (c : Char) : Reader Char := fun cs => if c = '\\' then escaped keep cs else .ok (c, cs)

theorem quotedBody_cons {c : Char} (hquote : c ≠ '"') (hcontrol : ¬c.toNat < 0x20) (keep : Bool) (fuel : Nat)
    (cs : List Char) : quotedBody keep (fuel + 1) (c :: cs) =
      inner keep c cs >>= fun x => quotedBody keep fuel x.2 >>= fun y => .ok (x.1 :: y.1, y.2) := by
  rw [quotedBody, if_neg hquote, if_neg hcontrol, inner]
  split <;> rfl

theorem inner_cases {c d : Char} (h : inner true c cs = .ok (d, rest)) :
    ∃ d' rest', inner false c cs = .ok (d', rest') ∧ rest'.length ≤ cs.length ∧
      (rest' = rest ∨ ∃ tail n, rest' = '\\' :: 'u' :: tail ∧ hexUnit tail = .ok (n, rest)) := by
  unfold inner at h ⊢
  split at h
  · rename_i hescape
    obtain ⟨d', rest', hskip, hlen, hcases⟩ := escaped_cases h
    exact ⟨d', rest', by rw [if_pos hescape, hskip], Nat.le_of_lt hlen, hcases⟩
  · rename_i hescape
    cases h
    exact ⟨c, cs, if_neg hescape, Nat.le_refl _, .inl rfl⟩

theorem quotedBody_again {fuel fuel' : Nat} {ds : List Char} (h : quotedBody true fuel cs = .ok (ds, rest))
    (hfuel : cs.length < fuel') : rest.length < cs.length ∧ ∃ ds', quotedBody false fuel' cs = .ok (ds', rest) := by
  induction fuel generalizing cs rest ds fuel' with
  | zero => cases h
  | succ fuel ih =>
    obtain ⟨fuel', rfl⟩ := Nat.exists_eq_succ_of_ne_zero (Nat.ne_of_gt (Nat.zero_lt_of_lt hfuel))
    cases cs with
    | nil => cases h
    | cons c tail =>
      rw [Nat.succ_eq_add_one] at hfuel ⊢
      rw [List.length_cons] at hfuel ⊢
      by_cases hquote : c = '"'
      · rw [quotedBody, if_pos hquote] at h ⊢
        cases h
        exact ⟨Nat.lt_succ_self _, [], rfl⟩
      by_cases hcontrol : c.toNat < 0x20
      · rw [quotedBody, if_neg hquote, if_pos hcontrol] at h
        cases h
      rw [quotedBody_cons hquote hcontrol] at h ⊢
      obtain ⟨⟨d, rest1⟩, hd, h⟩ := bind_eq_ok_iff.1 h
      obtain ⟨⟨ds1, rest2⟩, hds, h⟩ := bind_eq_ok_iff.1 h
      cases h
      dsimp only at hds ⊢
      obtain ⟨d', rest', hskip, hlen, rfl | ⟨half, n, rfl, hhex⟩⟩ := inner_cases hd
      · obtain ⟨hlt, ds', hds'⟩ := ih hds (show rest'.length < fuel' by omega)
        exact ⟨by omega, _, bind_eq_ok_iff.2 ⟨_, hskip, bind_eq_ok_iff.2 ⟨_, hds', rfl⟩⟩⟩
      · -- the second half of a pair comes as a character of its own
        have hhalf := length_of_hexUnit hhex
        rw [List.length_cons, List.length_cons] at hlen
        obtain ⟨fuel', rfl⟩ := Nat.exists_eq_succ_of_ne_zero (n := fuel') (by omega)
        obtain ⟨hlt, ds', hds'⟩ := ih hds (show rest1.length < fuel' by omega)
        have hnext : inner false '\\' ('u' :: half) = .ok (Char.ofNat n, rest1) := numbered_false hhex
        have hbody : quotedBody false (fuel' + 1) ('\\' :: 'u' :: half) = .ok (Char.ofNat n :: ds', rest2) := by
          rw [quotedBody_cons (by decide) (by decide)]
          exact bind_eq_ok_iff.2 ⟨_, hnext, bind_eq_ok_iff.2 ⟨_, hds', rfl⟩⟩
        exact ⟨by omega, _, bind_eq_ok_iff.2 ⟨_, hskip, bind_eq_ok_iff.2 ⟨_, hbody, rfl⟩⟩⟩

theorem quotedText_again {s : String} (h : quotedText true cs = .ok (s, rest)) :
    rest.length < cs.length ∧ ∃ s', quotedText false cs = .ok (s', rest) := by
  obtain ⟨⟨ds, rest'⟩, hds, h⟩ := bind_eq_ok_iff.1 h
  cases h
  obtain ⟨hlt, ds', hds'⟩ := quotedBody_again hds (Nat.lt_succ_self _)
  exact ⟨hlt, _, bind_eq_ok_iff.2 ⟨_, hds', rfl⟩⟩

/-! ## Values -/

/-- What is kept is read in the same way again, and it is skipped up to the same place. It takes one character at
least, and fuel twice as long as what it takes is enough. -/
def Resumes {α : Type} (read : (keep : Bool) → (fuel depth : Nat) → Reader α) (fuel : Nat) : Prop :=
  ∀ depth cs a rest, read true fuel depth cs = .ok (a, rest) → rest.length < cs.length ∧
    ∀ keep fuel' depth', (keep = true → depth' = depth) → 2 * cs.length ≤ fuel' + 2 * rest.length →
      ∃ a', read keep fuel' depth' cs = .ok (a', rest) ∧ (keep = true → a' = a)

theorem Resumes.succ {α : Type} {read : Bool → Nat → Nat → Reader α} {fuel : Nat}
    (h : ∀ depth cs a rest, read true (fuel + 1) depth cs = .ok (a, rest) → rest.length < cs.length ∧
      ∀ keep fuel' depth', (keep = true → depth' = depth) → 2 * cs.length ≤ fuel' + 1 + 2 * rest.length →
        ∃ a', read keep (fuel' + 1) depth' cs = .ok (a', rest) ∧ (keep = true → a' = a)) :
    Resumes read (fuel + 1) := by
  intro depth cs a rest hread
  obtain ⟨hlen, hagain⟩ := h depth cs a rest hread
  refine ⟨hlen, fun keep fuel' depth' hd hfuel => ?_⟩
  obtain ⟨fuel', rfl⟩ := Nat.exists_eq_succ_of_ne_zero (n := fuel') (by omega)
  exact hagain keep fuel' depth' hd hfuel

theorem numberValue_again {j : Json} (h : numberValue true cs = .ok (j, rest)) :
    rest.length < cs.length ∧ ∃ j', numberValue false cs = .ok (j', rest) := by
  obtain ⟨⟨t, rest'⟩, hscan, h⟩ := bind_eq_ok_iff.1 h
  dsimp only at h
  rw [if_pos rfl] at h
  split at h
  · cases h
    obtain ⟨hscan', hlen⟩ := NumberText.scan_again hscan
    exact ⟨hlen, .null, bind_eq_ok_iff.2 ⟨_, hscan', rfl⟩⟩
  · cases h

theorem number_of_numberValue {j : Json} (h : numberValue true cs = .ok (j, rest)) : ∃ n, j = .number n := by
  obtain ⟨⟨t, rest'⟩, -, h⟩ := bind_eq_ok_iff.1 h
  dsimp only at h
  rw [if_pos rfl] at h
  split at h
  · rename_i n hn
    cases h
    exact ⟨n, rfl⟩
  · cases h

theorem key_again {k : String} (h : key true cs = .ok (k, rest)) :
    rest.length < cs.length ∧ ∃ k', key false cs = .ok (k', rest) := by
  unfold key at h ⊢
  split at h
  · cases h
  · obtain ⟨hlt, hskip⟩ := quotedText_again h
    exact ⟨Nat.lt_succ_of_lt hlt, hskip⟩
  · cases h

theorem length_of_colon (h : colon cs = .ok rest) : rest.length < cs.length := by
  have hle := length_skipGaps_le cs
  unfold colon at h
  split at h
  · cases h
  · rename_i tail heq
    cases h
    rw [heq, List.length_cons] at hle
    exact hle
  · cases h

theorem length_of_itemStart {first : Bool} (h : itemStart first cs = .ok rest) : rest.length ≤ cs.length := by
  unfold itemStart at h
  split at h
  · cases h
    exact Nat.le_refl _
  · rename_i tail
    cases h
    have := length_skipGaps_le tail
    rw [List.length_cons]
    omega
  · cases h

section
variable {keep first : Bool} {fuel depth : Nat} {j : Json}

def words : List (Char × List Char × Json) :=
  [('n', "ull".toList, .null), ('t', "rue".toList, .bool true), ('f', "alse".toList, .bool false)]

theorem exists_cons_eq {c : Char} {cs : List Char} {P : Char → List Char → Prop} :
    (∃ c' cs', c :: cs = c' :: cs' ∧ P c' cs') ↔ P c cs := by
  constructor
  · rintro ⟨c', cs', h, hP⟩
    cases h
    exact hP
  · intro hP
    exact ⟨c, cs, rfl, hP⟩

theorem bind_pair_eq_ok_iff {α β : Type} {m : Except JsonFault (α × List Char)} {f : α → β} {b : β} :
    (m >>= fun x => .ok (f x.1, x.2)) = .ok (b, rest) ↔ ∃ a, m = .ok (a, rest) ∧ b = f a := by
  rw [bind_eq_ok_iff]
  constructor
  · rintro ⟨⟨a, _⟩, hm, h⟩
    cases h
    exact ⟨a, hm, rfl⟩
  · rintro ⟨a, hm, rfl⟩
    exact ⟨_, hm, rfl⟩

theorem bind_word_eq_ok_iff {w tail : List Char} {v : Json} :
    (word w tail >>= fun rest => .ok (v, rest)) = .ok (j, rest) ↔ word w tail = .ok rest ∧ j = v := by
  rw [bind_eq_ok_iff]
  constructor
  · rintro ⟨_, hw, h⟩
    cases h
    exact ⟨hw, rfl⟩
  · rintro ⟨hw, rfl⟩
    exact ⟨_, hw, rfl⟩

/-- What is nested is read as long as there is depth left for it, which only matters where it is kept. -/
theorem nested_eq_ok_iff {α : Type} {m : Except JsonFault (α × List Char)} {f : α → Json} :
    (if keep ∧ depth ≤ 1 then .error .malformed else m >>= fun x => .ok (f x.1, x.2)) = .ok (j, rest) ↔
      (keep = true → 1 < depth) ∧ ∃ a, m = .ok (a, rest) ∧ j = f a := by
  have hdepth : (keep = true → 1 < depth) ↔ ¬(keep = true ∧ depth ≤ 1) := by
    rw [not_and, Nat.not_le]
  rw [hdepth]
  by_cases hd : keep = true ∧ depth ≤ 1
  · rw [if_pos hd]
    exact ⟨nofun, fun h => absurd hd h.1⟩
  · rw [if_neg hd, bind_pair_eq_ok_iff]
    exact ⟨fun h => ⟨hd, h⟩, fun h => h.2⟩

theorem value_eq_ok_iff : value keep (fuel + 1) depth cs = .ok (j, rest) ↔ ∃ c tail, skipGaps cs = c :: tail ∧
    ((∃ w ∈ words, c = w.1 ∧ word w.2.1 tail = .ok rest ∧ j = w.2.2) ∨
      (c = '"' ∧ ∃ s, quotedText keep tail = .ok (s, rest) ∧ j = .text s) ∨
      (c = '[' ∧ (keep = true → 1 < depth) ∧
        ∃ js, arrayItems keep fuel (depth - 1) true tail = .ok (js, rest) ∧ j = .array js) ∨
      (c = '\x7b' ∧ (keep = true → 1 < depth) ∧
        ∃ ms, objectMembers keep fuel (depth - 1) true tail = .ok (ms, rest) ∧ j = ofMembers ms) ∨
      ((c = '-' ∨ c.isDigit = true) ∧ numberValue keep (c :: tail) = .ok (j, rest))) := by
  rw [value]
  cases skipGaps cs with
  | nil => simp
  | cons c tail =>
    rw [exists_cons_eq]
    dsimp only
    by_cases hn : c = 'n'
    · subst hn
      rw [if_pos rfl]
      refine bind_word_eq_ok_iff.trans ?_
      simp [words]
    by_cases ht : c = 't'
    · subst ht
      rw [if_neg hn, if_pos rfl]
      refine bind_word_eq_ok_iff.trans ?_
      simp [words]
    by_cases hf : c = 'f'
    · subst hf
      rw [if_neg hn, if_neg ht, if_pos rfl]
      refine bind_word_eq_ok_iff.trans ?_
      simp [words]
    by_cases hq : c = '"'
    · subst hq
      rw [if_neg hn, if_neg ht, if_neg hf, if_pos rfl]
      refine bind_pair_eq_ok_iff.trans ?_
      simp [words]
    by_cases ha : c = '['
    · subst ha
      rw [if_neg hn, if_neg ht, if_neg hf, if_neg hq, if_pos rfl]
      refine nested_eq_ok_iff.trans ?_
      simp [words]
    by_cases ho : c = '\x7b'
    · subst ho
      rw [if_neg hn, if_neg ht, if_neg hf, if_neg hq, if_neg ha, if_pos rfl]
      refine nested_eq_ok_iff.trans ?_
      simp [words]
    rw [if_neg hn, if_neg ht, if_neg hf, if_neg hq, if_neg ha, if_neg ho]
    by_cases hnum : c = '-' ∨ c.isDigit = true
    · simp [words, hn, ht, hf, hq, ha, ho, hnum]
    · simp [words, hn, ht, hf, hq, ha, ho, hnum]

theorem arrayItems_eq_ok_iff {js : List Json} : arrayItems keep (fuel + 1) depth first cs = .ok (js, rest) ↔
    ∃ c tail, skipGaps cs = c :: tail ∧
      ((c = ']' ∧ tail = rest ∧ js = []) ∨
        (c ≠ ']' ∧ ∃ start j rest' js', itemStart first (c :: tail) = .ok start ∧
          value keep fuel depth start = .ok (j, rest') ∧
          arrayItems keep fuel depth false rest' = .ok (js', rest) ∧ js = j :: js')) := by
  rw [arrayItems]
  cases skipGaps cs with
  | nil => simp
  | cons c tail =>
    rw [exists_cons_eq]
    dsimp only
    by_cases hc : c = ']'
    · rw [if_pos hc]
      simp [hc, eq_comm, and_comm]
    · rw [if_neg hc]
      constructor
      · intro h
        obtain ⟨start, hstart, h⟩ := bind_eq_ok_iff.1 h
        obtain ⟨⟨j, rest'⟩, hj, h⟩ := bind_eq_ok_iff.1 h
        obtain ⟨⟨js', rest''⟩, hjs, h⟩ := bind_eq_ok_iff.1 h
        cases h
        exact .inr ⟨hc, start, j, rest', js', hstart, hj, hjs, rfl⟩
      · rintro (⟨h, -⟩ | ⟨-, start, j, rest', js', hstart, hj, hjs, rfl⟩)
        · exact absurd h hc
        · exact bind_eq_ok_iff.2 ⟨_, hstart, bind_eq_ok_iff.2 ⟨_, hj, bind_eq_ok_iff.2 ⟨_, hjs, rfl⟩⟩⟩

theorem objectMembers_eq_ok_iff {ms : List (String × Json)} :
    objectMembers keep (fuel + 1) depth first cs = .ok (ms, rest) ↔
    ∃ c tail, skipGaps cs = c :: tail ∧
      ((c = '\x7d' ∧ tail = rest ∧ ms = []) ∨
        (c ≠ '\x7d' ∧ ∃ start k rest1 rest2 j rest3 ms', itemStart first (c :: tail) = .ok start ∧
          key keep start = .ok (k, rest1) ∧ colon rest1 = .ok rest2 ∧
          value keep fuel depth rest2 = .ok (j, rest3) ∧
          objectMembers keep fuel depth false rest3 = .ok (ms', rest) ∧ ms = (k, j) :: ms')) := by
  rw [objectMembers]
  cases skipGaps cs with
  | nil => simp
  | cons c tail =>
    rw [exists_cons_eq]
    dsimp only
    by_cases hc : c = '\x7d'
    · rw [if_pos hc]
      simp [hc, eq_comm, and_comm]
    · rw [if_neg hc]
      constructor
      · intro h
        obtain ⟨start, hstart, h⟩ := bind_eq_ok_iff.1 h
        obtain ⟨⟨k, rest1⟩, hk, h⟩ := bind_eq_ok_iff.1 h
        obtain ⟨rest2, hcolon, h⟩ := bind_eq_ok_iff.1 h
        obtain ⟨⟨j, rest3⟩, hj, h⟩ := bind_eq_ok_iff.1 h
        obtain ⟨⟨ms', rest4⟩, hms, h⟩ := bind_eq_ok_iff.1 h
        cases h
        exact .inr ⟨hc, start, k, rest1, rest2, j, rest3, ms', hstart, hk, hcolon, hj, hms, rfl⟩
      · rintro (⟨h, -⟩ | ⟨-, start, k, rest1, rest2, j, rest3, ms', hstart, hk, hcolon, hj, hms, rfl⟩)
        · exact absurd h hc
        · exact bind_eq_ok_iff.2 ⟨_, hstart, bind_eq_ok_iff.2 ⟨_, hk, bind_eq_ok_iff.2 ⟨_, hcolon,
            bind_eq_ok_iff.2 ⟨_, hj, bind_eq_ok_iff.2 ⟨_, hms, rfl⟩⟩⟩⟩⟩

end

theorem exists_again {α : Type} {read : Bool → Reader α} {a : α} (h : read true cs = .ok (a, rest))
    (hskip : ∃ a', read false cs = .ok (a', rest)) (keep : Bool) :
    ∃ a', read keep cs = .ok (a', rest) ∧ (keep = true → a' = a) := by
  cases keep with
  | true => exact ⟨a, h, fun _ => rfl⟩
  | false =>
    obtain ⟨a', h'⟩ := hskip
    exact ⟨a', h', nofun⟩

section
variable {fuel : Nat}

theorem resumes_value (hItems : Resumes (fun keep fuel depth => arrayItems keep fuel depth true) fuel)
    (hMembers : Resumes (fun keep fuel depth => objectMembers keep fuel depth true) fuel) :
    Resumes value (fuel + 1) := by
  refine Resumes.succ fun depth cs j rest h => ?_
  have hgaps := length_skipGaps_le cs
  obtain ⟨c, tail, hcs, h⟩ := value_eq_ok_iff.1 h
  rw [hcs, List.length_cons] at hgaps
  rcases h with ⟨w, hw, rfl, hword, rfl⟩ | ⟨rfl, s, hs, rfl⟩ | ⟨rfl, hdepth, js, hjs, rfl⟩ |
    ⟨rfl, hdepth, ms, hms, rfl⟩ | ⟨hc, hnum⟩
  · have hlen := length_of_word hword
    refine ⟨by omega, fun keep fuel' depth' hd hfuel => ?_⟩
    exact ⟨_, value_eq_ok_iff.2 ⟨_, tail, hcs, .inl ⟨w, hw, rfl, hword, rfl⟩⟩, fun _ => rfl⟩
  · obtain ⟨hlen, hskip⟩ := quotedText_again hs
    refine ⟨by omega, fun keep fuel' depth' hd hfuel => ?_⟩
    obtain ⟨s', hs', heq⟩ := exists_again hs hskip keep
    refine ⟨_, value_eq_ok_iff.2 ⟨_, tail, hcs, .inr (.inl ⟨rfl, s', hs', rfl⟩)⟩, fun hk => by rw [heq hk]⟩
  · obtain ⟨hlen, hagain⟩ := hItems _ _ _ _ hjs
    refine ⟨by omega, fun keep fuel' depth' hd hfuel => ?_⟩
    obtain ⟨js', hjs', heq⟩ := hagain keep fuel' (depth' - 1) (fun hk => by rw [hd hk]) (by omega)
    have hdepth' : keep = true → 1 < depth' := fun hk => hd hk ▸ hdepth rfl
    exact ⟨_, value_eq_ok_iff.2 ⟨_, tail, hcs, .inr (.inr (.inl ⟨rfl, hdepth', js', hjs', rfl⟩))⟩,
      fun hk => by rw [heq hk]⟩
  · obtain ⟨hlen, hagain⟩ := hMembers _ _ _ _ hms
    refine ⟨by omega, fun keep fuel' depth' hd hfuel => ?_⟩
    obtain ⟨ms', hms', heq⟩ := hagain keep fuel' (depth' - 1) (fun hk => by rw [hd hk]) (by omega)
    have hdepth' : keep = true → 1 < depth' := fun hk => hd hk ▸ hdepth rfl
    exact ⟨_, value_eq_ok_iff.2 ⟨_, tail, hcs, .inr (.inr (.inr (.inl ⟨rfl, hdepth', ms', hms', rfl⟩)))⟩,
      fun hk => by rw [heq hk]⟩
  · obtain ⟨hlen, hskip⟩ := numberValue_again hnum
    rw [List.length_cons] at hlen
    refine ⟨by omega, fun keep fuel' depth' hd hfuel => ?_⟩
    obtain ⟨j', hj', heq⟩ := exists_again hnum hskip keep
    exact ⟨j', value_eq_ok_iff.2 ⟨_, tail, hcs, .inr (.inr (.inr (.inr ⟨hc, hj'⟩)))⟩, heq⟩

theorem resumes_arrayItems (hValue : Resumes value fuel)
    (hItems : Resumes (fun keep fuel depth => arrayItems keep fuel depth false) fuel) (first : Bool) :
    Resumes (fun keep fuel depth => arrayItems keep fuel depth first) (fuel + 1) := by
  refine Resumes.succ fun depth cs js rest h => ?_
  have hgaps := length_skipGaps_le cs
  obtain ⟨c, tail, hcs, h⟩ := arrayItems_eq_ok_iff.1 h
  rw [hcs, List.length_cons] at hgaps
  rcases h with ⟨hc, rfl, rfl⟩ | ⟨hc, start, j, rest', js', hstart, hj, hjs, rfl⟩
  · refine ⟨by omega, fun keep fuel' depth' hd hfuel => ?_⟩
    exact ⟨_, arrayItems_eq_ok_iff.2 ⟨c, tail, hcs, .inl ⟨hc, rfl, rfl⟩⟩, fun _ => rfl⟩
  · have hlen := length_of_itemStart hstart
    rw [List.length_cons] at hlen
    obtain ⟨hlen1, hagain1⟩ := hValue _ _ _ _ hj
    obtain ⟨hlen2, hagain2⟩ := hItems _ _ _ _ hjs
    refine ⟨by omega, fun keep fuel' depth' hd hfuel => ?_⟩
    obtain ⟨j2, hj2, heq1⟩ := hagain1 keep fuel' depth' hd (by omega)
    obtain ⟨js2, hjs2, heq2⟩ := hagain2 keep fuel' depth' hd (by omega)
    exact ⟨_, arrayItems_eq_ok_iff.2 ⟨c, tail, hcs, .inr ⟨hc, start, j2, rest', js2, hstart, hj2, hjs2, rfl⟩⟩,
      fun hk => by rw [heq1 hk, heq2 hk]⟩

theorem resumes_objectMembers (hValue : Resumes value fuel)
    (hMembers : Resumes (fun keep fuel depth => objectMembers keep fuel depth false) fuel) (first : Bool) :
    Resumes (fun keep fuel depth => objectMembers keep fuel depth first) (fuel + 1) := by
  refine Resumes.succ fun depth cs ms rest h => ?_
  have hgaps := length_skipGaps_le cs
  obtain ⟨c, tail, hcs, h⟩ := objectMembers_eq_ok_iff.1 h
  rw [hcs, List.length_cons] at hgaps
  rcases h with ⟨hc, rfl, rfl⟩ | ⟨hc, start, k, rest1, rest2, j, rest3, ms', hstart, hk, hcolon, hj, hms, rfl⟩
  · refine ⟨by omega, fun keep fuel' depth' hd hfuel => ?_⟩
    exact ⟨_, objectMembers_eq_ok_iff.2 ⟨c, tail, hcs, .inl ⟨hc, rfl, rfl⟩⟩, fun _ => rfl⟩
  · have hlen := length_of_itemStart hstart
    have hlen2 := length_of_colon hcolon
    rw [List.length_cons] at hlen
    obtain ⟨hlen1, hskip⟩ := key_again hk
    obtain ⟨hlen3, hagain1⟩ := hValue _ _ _ _ hj
    obtain ⟨hlen4, hagain2⟩ := hMembers _ _ _ _ hms
    refine ⟨by omega, fun keep fuel' depth' hd hfuel => ?_⟩
    obtain ⟨k', hk', heq⟩ := exists_again hk hskip keep
    obtain ⟨j', hj', heq1⟩ := hagain1 keep fuel' depth' hd (by omega)
    obtain ⟨ms2, hms2, heq2⟩ := hagain2 keep fuel' depth' hd (by omega)
    exact ⟨_, objectMembers_eq_ok_iff.2 ⟨c, tail, hcs,
      .inr ⟨hc, start, k', rest1, rest2, j', rest3, ms2, hstart, hk', hcolon, hj', hms2, rfl⟩⟩,
      fun hk => by rw [heq hk, heq1 hk, heq2 hk]⟩

end

theorem resumes (fuel : Nat) : Resumes value fuel ∧
    (∀ first, Resumes (fun keep fuel depth => arrayItems keep fuel depth first) fuel) ∧
    ∀ first, Resumes (fun keep fuel depth => objectMembers keep fuel depth first) fuel := by
  induction fuel with
  | zero =>
    refine ⟨?_, ?_, ?_⟩
    · intro depth cs j rest h
      cases h
    · intro first depth cs js rest h
      cases h
    · intro first depth cs ms rest h
      cases h
  | succ fuel ih =>
    obtain ⟨ihValue, ihItems, ihMembers⟩ := ih
    exact ⟨resumes_value (ihItems true) (ihMembers true), resumes_arrayItems ihValue (ihItems false),
      resumes_objectMembers ihValue (ihMembers false)⟩

/-- A value that was kept while a text was read is kept by a reading of its own, and skipped up to the same place. -/
theorem kept_and_skipped {fuel used : Nat} {j : Json} (h : value true fuel (depthLimit - used) cs = .ok (j, rest)) :
    kept used cs = .ok (j, rest) ∧ skipped cs = .ok ((), rest) ∧ rest.length < cs.length := by
  obtain ⟨hlen, hagain⟩ := (resumes fuel).1 _ _ _ _ h
  obtain ⟨j', hj', heq⟩ := hagain true (2 * cs.length + 2) _ (fun _ => rfl) (by omega)
  obtain ⟨j'', hj'', -⟩ := hagain false (2 * cs.length + 2) 0 nofun (by omega)
  rw [heq rfl] at hj'
  exact ⟨hj', bind_eq_ok_iff.2 ⟨_, hj'', rfl⟩, hlen⟩

/-! ## Objects -/

/-- The members of a text that is an object, in the order of the text and each as often as it is there. -/
def membersOfText (text : String) : Except JsonFault (List (String × Json)) :=
  match skipGaps text.toList with
  | [] => .error .unfinished
  | c :: rest =>
    if c = '\x7b' then do
      let (ms, rest) ← objectMembers true (2 * text.toList.length + 1) (depthLimit - 1) true rest
      finish rest
      .ok ms
    else .error .misfit

theorem membersOfText_eq_ok_iff {text : String} {ms : List (String × Json)} : membersOfText text = .ok ms ↔
    ∃ tail rest, skipGaps text.toList = '\x7b' :: tail ∧
      objectMembers true (2 * text.toList.length + 1) (depthLimit - 1) true tail = .ok (ms, rest) ∧
      finish rest = .ok () := by
  unfold membersOfText
  cases skipGaps text.toList with
  | nil => simp
  | cons c tail =>
    dsimp only
    constructor
    · intro h
      split at h
      · rename_i hc
        obtain ⟨⟨ms', rest⟩, hms, h⟩ := bind_eq_ok_iff.1 h
        obtain ⟨_, hfinish, h⟩ := bind_eq_ok_iff.1 h
        cases h
        exact ⟨tail, rest, by rw [hc], hms, hfinish⟩
      · cases h
    · rintro ⟨_, rest, hcs, hms, hfinish⟩
      cases hcs
      exact bind_eq_ok_iff.2 ⟨_, hms, bind_eq_ok_iff.2 ⟨_, hfinish, rfl⟩⟩

theorem ofText_object_iff {text : String} {o : List (String × Json)} :
    ofText text = .ok (.object o) ↔ ∃ ms, membersOfText text = .ok ms ∧ ofMembers ms = .object o := by
  unfold ofText
  constructor
  · intro h
    obtain ⟨⟨j, rest⟩, hj, h⟩ := bind_eq_ok_iff.1 h
    obtain ⟨_, hfinish, h⟩ := bind_eq_ok_iff.1 h
    cases h
    obtain ⟨c, tail, hcs, h⟩ := value_eq_ok_iff.1 hj
    rcases h with ⟨w, hw, -, -, ho⟩ | ⟨-, s, -, ho⟩ | ⟨-, -, js, -, ho⟩ | ⟨rfl, -, ms, hms, ho⟩ | ⟨-, hnum⟩
    · rw [words, List.mem_cons, List.mem_cons, List.mem_singleton] at hw
      rcases hw with rfl | rfl | rfl <;> cases ho
    · cases ho
    · cases ho
    · exact ⟨ms, membersOfText_eq_ok_iff.2 ⟨tail, rest, hcs, hms, hfinish⟩, ho.symm⟩
    · obtain ⟨n, hn⟩ := number_of_numberValue hnum
      cases hn
  · rintro ⟨ms, h, ho⟩
    obtain ⟨tail, rest, hcs, hms, hfinish⟩ := membersOfText_eq_ok_iff.1 h
    have hvalue : kept 0 text.toList = .ok (.object o, rest) :=
      value_eq_ok_iff.2 ⟨_, tail, hcs, .inr (.inr (.inr (.inl ⟨rfl, fun _ => by decide, ms, hms, ho.symm⟩)))⟩
    exact bind_eq_ok_iff.2 ⟨_, hvalue, bind_eq_ok_iff.2 ⟨_, hfinish, rfl⟩⟩

end Json

end TraceRelay
