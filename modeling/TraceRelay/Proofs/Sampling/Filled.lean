import TraceRelay.Proofs.Binary64.Value
import TraceRelay.Proofs.Context

/-!
# The postcondition of a backfill

A backfill touches no item but the random value (`Filled.others`), and keeps a usable one as it came
(`Filled.kept`). Else it writes six places that lie on the side of the rate that the decision asks for
(`Filled.drawn`), unless the rate leaves no room there (`Filled.missing`). All of it holds of every run
that returns (`filled_of_gives`), and a second run finds nothing left to do (`Filled.again`).
-/

namespace TraceRelay

open Run Binary64

def stepValue (k : Int) : ℚ := k / (10 ^ randPlaces : Nat)

def IsWritten (text : String) (k : Nat) : Prop :=
  ∃ ds : List Char, text = String.ofList ('0' :: '.' :: ds) ∧ ds.length = randPlaces ∧
    (∀ c ∈ ds, c.isDigit = true) ∧ Nat.ofDigitChars 10 ds 0 = k

theorem isWritten_randText (x : Binary64) : IsWritten (randText x) (randSteps x) := by
  have hlt := randSteps_lt x
  have hplaces : 0 < randPlaces := by decide
  obtain ⟨hdigits, hlen, hval⟩ := places_spec (randSteps x) hplaces
  refine ⟨_, ?_, hlen, hdigits, hval.trans (Nat.mod_eq_of_lt hlt)⟩
  -- there is nothing before the point
  rw [randText, randChars, pointed, Nat.div_eq_of_lt hlt, Nat.toDigits_zero]
  rfl

theorem stepsPerOne_pos : (0 : ℚ) < (10 ^ randPlaces : Nat) := Nat.cast_pos.2 (Nat.pow_pos (by decide))

theorem stepValue_le_stepValue {j k : Int} : stepValue j ≤ stepValue k ↔ j ≤ k := by
  rw [stepValue, stepValue, div_le_div_iff_of_pos_right stepsPerOne_pos, Int.cast_le]

theorem stepValue_floor_le (q : ℚ) : stepValue ⌊q * (10 ^ randPlaces : Nat)⌋ ≤ q := by
  rw [stepValue, div_le_iff₀ stepsPerOne_pos]
  exact Int.floor_le _

theorem randSteps_eq_floor {x : Binary64} (h : x.isFraction = true) :
    (randSteps x : Int) = ⌊x.toRat * (10 ^ randPlaces : Nat)⌋ := by
  obtain ⟨f, rfl, h0, h1⟩ := isFraction_iff.1 h
  rw [randSteps_of_isFraction h0 h1, toRat_finite, Finite.floor_toRat h0]

variable {limit : Nat} {traceId : String} {sampled : Option Bool} {items items' : Items} {text : Option String}

theorem isEmpty_backfillInterval : (backfillInterval sampled items).isEmpty = true ↔
    ∃ r, incomingRate? items = some r ∧ (sampled = some true ∧ r.toRat = 0 ∨ sampled = some false ∧ r.toRat = 1) := by
  constructor
  · intro h
    obtain ⟨r, f, hr, rfl, hf⟩ := isExtreme_of_isEmpty h
    have hrate := isRate_of_incomingRate? hr
    refine ⟨r, hr, ?_⟩
    cases f
    · exact .inr ⟨rfl, (toRat_eq_one_iff hrate).2 (by simpa using hf)⟩
    · exact .inl ⟨rfl, (toRat_eq_zero_iff hrate).2 (by simpa using hf)⟩
  · rintro ⟨r, hr, ⟨rfl, h⟩ | ⟨rfl, h⟩⟩ <;> simp only [Interval.isEmpty_iff, backfillInterval, hr, Interval.agreeing]
    · exact (toRat_eq_zero_iff (isRate_of_incomingRate? hr)).1 h
    · exact (toRat_eq_one_iff (isRate_of_incomingRate? hr)).1 h

theorem isFraction_of_backfillInterval {v : Binary64}
    (h : drawFrom limit traceId (backfillInterval sampled items) = .value v) : v.isFraction = true := by
  unfold backfillInterval at h
  cases hr : incomingRate? items with
  | none =>
    rw [hr] at h
    rcases sampled with _ | _ | _ <;> exact isFraction_of_drawFrom isRate_zero isRate_one h
  | some r =>
    have hrate := isRate_of_incomingRate? hr
    rw [hr] at h
    rcases sampled with _ | _ | _
    · exact isFraction_of_drawFrom isRate_zero isRate_one h
    · exact isFraction_of_drawFrom hrate isRate_one h
    · exact isFraction_of_drawFrom isRate_zero hrate h

/-- Cutting off goes down, so what is below the rate stays there; what is above it does not fall below
the step of the rate. -/
theorem stepValue_of_drawFrom {v r : Binary64}
    (h : drawFrom limit traceId (backfillInterval sampled items) = .value v) (hr : incomingRate? items = some r) :
    (sampled = some true → stepValue (randSteps v) < r.toRat) ∧
      (sampled = some false → stepValue ⌊r.toRat * (10 ^ randPlaces : Nat)⌋ ≤ stepValue (randSteps v)) := by
  have hv := isFraction_of_backfillInterval h
  have hrate := isRate_of_incomingRate? hr
  rw [randSteps_eq_floor hv]
  rw [backfillInterval, hr] at h
  refine ⟨?_, ?_⟩
  · rintro rfl
    exact lt_of_le_of_lt (stepValue_floor_le _) (toRat_lt_toRat hv hrate (mem_of_drawFrom h).2)
  · rintro rfl
    have hle := toRat_le_toRat hv hrate (mem_of_drawFrom h).1
    exact stepValue_le_stepValue.2 (Int.floor_mono (mul_le_mul_of_nonneg_right hle (Nat.cast_nonneg _)))

/-! ## The postcondition -/

structure Filled (traceId : String) (sampled : Option Bool) (items : Items) (text : Option String)
    (items' : Items) : Prop where
  others : ∀ key, key ≠ ItemKey.sampleRand → items'.get? key = items.get? key
  held : items'.get? ItemKey.sampleRand = text
  kept : ∀ old, items.get? ItemKey.sampleRand = some old → (fraction? old).isSome → text = some old ∧ items' = items
  /-- There is none exactly if the decision leaves no room beside the rate. -/
  missing : incomingRand? items = none → (text = none ↔ ∃ r, incomingRate? items = some r ∧
    (sampled = some true ∧ r.toRat = 0 ∨ sampled = some false ∧ r.toRat = 1))
  /-- What is written is read back, and lies on the side of the rate that the decision asks for; above a rate
  that is cut off like the value itself. -/
  drawn : incomingRand? items = none → ∀ written, text = some written → ∃ k, IsWritten written k ∧
    (Baggage.ofItems items').sampleRand? = some (gridPoint k) ∧ ∀ r, incomingRate? items = some r →
      (sampled = some true → stepValue k < r.toRat) ∧
      (sampled = some false → stepValue ⌊r.toRat * (10 ^ randPlaces : Nat)⌋ ≤ stepValue k)
  again : ∀ s, (backfill traceId sampled items').Returns s ∧
    ∀ r, (backfill traceId sampled items').Gives s r → r = (text, items')

theorem get?_backfill (h : backfill? limit traceId sampled items = some (text, items')) :
    items'.get? ItemKey.sampleRand = text := by
  unfold backfill? at h
  split at h
  · rename_i hu
    cases h
    exact (Option.filter_eq_some_iff.1 hu).1
  · split at h <;> cases h
    · rw [Dict.get?_insert, if_pos rfl]
    · rw [Dict.get?_erase, if_pos rfl]

theorem eq_of_usable (h : backfill? limit traceId sampled items = some (text, items')) {old : String}
    (hold : items.get? ItemKey.sampleRand = some old) (hsome : (fraction? old).isSome) :
    text = some old ∧ items' = items := by
  have hin : incomingRand? items = fraction? old := by rw [incomingRand?, hold, Option.bind_some]
  have hne : incomingRand? items ≠ none := Option.isSome_iff_ne_none.1 (hin ▸ hsome)
  obtain ⟨-, rfl⟩ | ⟨hn, -⟩ | ⟨hn, -⟩ := backfill?_cases h
  · exact ⟨by rw [← get?_backfill h, hold], rfl⟩
  · exact absurd hn hne
  · exact absurd hn hne

theorem eq_none_iff_isEmpty (h : backfill? limit traceId sampled items = some (text, items'))
    (hn : incomingRand? items = none) : text = none ↔ (backfillInterval sampled items).isEmpty = true := by
  have hheld := get?_backfill h
  obtain ⟨hs, -⟩ | ⟨-, v, hv, rfl⟩ | ⟨-, he, rfl⟩ := backfill?_cases h
  · rw [hn] at hs; cases hs
  · have hroom := (drawFrom_eq_value_iff.1 hv).1
    rw [Dict.get?_insert, if_pos rfl] at hheld
    simp [← hheld, Interval.isEmpty_iff, hroom]
  · rw [Dict.get?_erase, if_pos rfl] at hheld
    exact ⟨fun _ => he, fun _ => hheld.symm⟩

theorem exists_drawn (h : backfill? limit traceId sampled items = some (text, items'))
    (hn : incomingRand? items = none) {written : String} (hw : text = some written) :
    ∃ v, drawFrom limit traceId (backfillInterval sampled items) = .value v ∧ written = randText v ∧
      items' = items.insert ItemKey.sampleRand written := by
  have hheld := get?_backfill h
  rw [hw] at hheld
  obtain ⟨hs, -⟩ | ⟨-, v, hv, rfl⟩ | ⟨-, -, rfl⟩ := backfill?_cases h
  · rw [hn] at hs; cases hs
  · rw [Dict.get?_insert, if_pos rfl, Option.some_inj] at hheld
    exact ⟨v, hv, hheld.symm, by rw [hheld]⟩
  · rw [Dict.get?_erase, if_pos rfl] at hheld; cases hheld

theorem filled_of_backfill? (h : backfill? limit traceId sampled items = some (text, items')) :
    Filled traceId sampled items text items' where
  others _ hk := get?_backfill_of_ne h hk
  held := get?_backfill h
  kept _ hold hsome := eq_of_usable h hold hsome
  missing hn := by rw [eq_none_iff_isEmpty h hn, isEmpty_backfillInterval]
  drawn hn written hw := by
    obtain ⟨v, hv, rfl, rfl⟩ := exists_drawn h hn hw
    refine ⟨randSteps v, isWritten_randText v, ?_, fun r hr => stepValue_of_drawFrom hv hr⟩
    rw [← quantize_eq_gridPoint]
    exact incomingRand?_insert items v
  again s := by
    refine ⟨returns_backfill (completed_of_backfill h), fun r hr => ?_⟩
    obtain ⟨text', hagain⟩ := (completed_of_backfill h).backfill s.drawLimit traceId
    have hr := gives_backfill hr
    rw [hagain] at hr
    cases hr
    -- both have returned what the items hold
    rw [← get?_backfill hagain, get?_backfill h]

theorem filled_of_gives {s : Supply} (h : (backfill traceId sampled items).Gives s (text, items')) :
    Filled traceId sampled items text items' :=
  filled_of_backfill? (gives_backfill h)

def Items.lastStep : Items := .ofList [(ItemKey.sampleRate, " 0.9999995"), (ItemKey.sampleRand, "1")]

theorem last_step_is_written : ∃ items',
    (backfill "00000000000000000000000000000000" (some false) Items.lastStep).Gives .counting
      (some "0.999999", items') ∧
    Filled "00000000000000000000000000000000" (some false) Items.lastStep (some "0.999999") items' := by
  obtain ⟨⟨text, items'⟩, hr, rfl⟩ := gives_of_run Prod.fst (s := .counting) (b := some "0.999999")
    (r := backfill "00000000000000000000000000000000" (some false) Items.lastStep) (by decide +kernel)
  exact ⟨items', hr, filled_of_gives hr⟩

end TraceRelay
