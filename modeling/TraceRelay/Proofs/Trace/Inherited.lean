import TraceRelay.Proofs.Client

/-!
# Decisions taken over from the sender

A random value that is made up for a trace has to agree with the decision of the sender. It is drawn
from an interval that does, but it travels with six places only: cut off to them it can fall below a
rate between two steps, and then an unsampled trace becomes a sampled one
(`inherits_decision_iff`).
-/

namespace TraceRelay

open Binary64 Run

/-- The value drawn for an unsampled trace falls below its rate when it is cut off. -/
def LosesDecision (limit : Nat) (traceId : String) (rate : Binary64) : Prop :=
  ∃ v, drawFrom limit traceId ⟨rate, .one⟩ = .value v ∧ quantize v < rate

theorem shouldSample_iff {v r : Binary64} : shouldSample v r = true ↔ v < r := Iff.rfl

theorem quantize_lt_iff {r v : Binary64} (hr : r.isFraction = true) (hv : v.isFraction = true)
    (hrv : r ≤ v) : quantize v < r ↔ quantize r < r ∧ randSteps v = randSteps r := by
  rcases Nat.lt_or_eq_of_le (randSteps_mono hr hv hrv) with hlt | heq
  · -- on a later step even the cut leaves `v` at or above `r`
    constructor
    · intro h
      exact absurd h (not_lt_of_le (le_quantize_of_lt_steps hr hlt))
    · intro h
      omega
  · rw [quantize_eq_gridPoint v, quantize_eq_gridPoint r, heq]
    constructor
    · intro h
      exact ⟨h, rfl⟩
    · intro h
      exact h.1

theorem losesDecision_iff {limit : Nat} {traceId : String} {r : Binary64} (hr : r.isRate = true) :
    LosesDecision limit traceId r ↔
      quantize r < r ∧ ∃ v, drawFrom limit traceId ⟨r, .one⟩ = .value v ∧ randSteps v = randSteps r := by
  have hcut : ∀ v, drawFrom limit traceId ⟨r, .one⟩ = .value v →
      (quantize v < r ↔ quantize r < r ∧ randSteps v = randSteps r) := by
    intro v hv
    obtain ⟨hrv, hv1⟩ := mem_of_drawFrom hv
    have hrf := isFraction_of_le_of_lt (zero_le_of_isRate hr) (lt_of_le_of_lt hrv hv1)
    exact quantize_lt_iff hrf (isFraction_of_drawFrom hr isRate_one hv) hrv
  constructor
  · rintro ⟨v, hv, hlt⟩
    obtain ⟨hr', hs⟩ := (hcut v hv).1 hlt
    exact ⟨hr', v, hv, hs⟩
  · rintro ⟨hr', v, hv, hs⟩
    exact ⟨v, hv, (hcut v hv).2 ⟨hr', hs⟩⟩

theorem not_losesDecision_of_isExtreme {limit : Nat} {traceId : String} {r : Binary64} (he : IsExtreme r) :
    ¬LosesDecision limit traceId r := by
  rintro ⟨v, hv, hlt⟩
  obtain ⟨hrv, hv1⟩ := mem_of_drawFrom hv
  rcases he with h0 | h1
  · exact h0 (lt_of_le_of_lt (zero_le_of_isFraction (quantize_isFraction v)) hlt)
  · exact h1 (lt_of_le_of_lt hrv hv1)

variable {limit : Nat} {traceId : String} {items items' : Items} {text : Option String}

theorem decisionOf_backfill {f : Bool} (hn : incomingRand? items = none)
    (h : backfill? limit traceId (some f) items = some (text, items')) :
    decisionOf items' f = f ↔ ¬(f = false ∧ ∃ r, incomingRate? items = some r ∧ LosesDecision limit traceId r) := by
  have hrate := incomingRate?_backfill h
  -- what came was not usable, so a value was drawn or taken out
  obtain ⟨hs, -⟩ | ⟨-, v, hv, rfl⟩ | ⟨-, hempty, rfl⟩ := backfill?_cases h
  · rw [hn] at hs; cases hs
  · have hval := incomingRand?_insert items v
    cases hr : incomingRate? items with
    | none =>
      rw [decisionOf_of_none (.inr (hrate.trans hr))]
      simp
    | some r =>
      have hrr := isRate_of_incomingRate? hr
      rw [decisionOf_of_some hval (hrate.trans hr)]
      rw [backfillInterval, hr] at hv
      cases f <;> simp only [Interval.agreeing] at hv
      · have hlost : LosesDecision limit traceId r ↔ quantize v < r := by
          constructor
          · rintro ⟨w, hw, hlt⟩
            rw [hv] at hw
            cases hw
            exact hlt
          · intro hlt
            exact ⟨v, hv, hlt⟩
        rw [← Bool.not_eq_true, shouldSample_iff, ← hlost]
        simp
      · -- what lies below the rate is cut off to something below it
        have hfrac := isFraction_of_drawFrom isRate_zero hrr hv
        have hlt := lt_of_le_of_lt (quantize_le hfrac) (mem_of_drawFrom hv).2
        rw [shouldSample_iff]
        exact ⟨fun _ hf => Bool.noConfusion hf.1, fun _ => hlt⟩
  · obtain ⟨r, _, hr, hf, hextreme⟩ := isExtreme_of_isEmpty hempty
    cases hf
    rw [decisionOf_of_none (.inl (incomingRand?_erase items)), hr]
    refine ⟨fun _ => ?_, fun _ => rfl⟩
    rintro ⟨rfl, r', hr', hlost⟩
    cases hr'
    exact not_losesDecision_of_isExtreme (.inr hextreme) hlost

variable {c : Client} {carrier : Carrier} {name : String} {s : Supply} {t : Transaction}

/-- Without a sampler, and where no usable random value came, a continued trace has the decision of its
sender, unless that is not to sample and the cut of the drawn value loses it. -/
theorem inherits_decision_iff {h : TraceHeader} {f : Bool} (hc : c.sampler = none)
    (hh : carrier.traceHeader? = some h) (hf : h.sampled = some f) (hn : carrier.received.sampleRand? = none)
    (ht : (c.continueTrace carrier name).Gives s t) :
    t.sampled = f ↔ ¬(f = false ∧ ∃ r, carrier.received.sampleRate? = some r ∧
      LosesDecision s.drawLimit h.traceId.text r) := by
  obtain ⟨context, traceId, spanId, hx, -, rfl⟩ := Client.gives_continueTrace ht
  have hflag : context.parentSampled = some f := by rw [hx.parentSampled, hh, Option.bind_some, hf]
  rw [Client.sampled_eq_decisionOf hc (o := Client.continuedOptions context carrier.received traceId name) hflag,
    Client.items_continuedOptions, ← hx.ofHeader h hh]
  obtain ⟨hr, hitems⟩ | ⟨text, hfill⟩ := hx.items_cases
  · rw [hitems, decisionOf_of_none (.inl rfl), hr]
    refine ⟨fun _ => ?_, fun _ => rfl⟩
    rintro ⟨-, r, hr, -⟩
    cases hr
  · rw [hflag] at hfill
    exact decisionOf_backfill hn hfill

def Carrier.sampledRequest : Carrier :=
  .ofHeaders [(traceHeaderName, "00000000000000000000000000000000-0000000000000001-1"),
    (baggageHeaderName, "sentry-sample_rate=0.25,sentry-sample_rand=1.5")]

theorem inherits_sampled_request :
    Carrier.sampledRequest.received.sampleRate? = some (.twoPowNeg 2) ∧
      Carrier.sampledRequest.received.sampleRand? = none ∧
      ∃ t, (Client.plain.continueTrace .sampledRequest "GET /").Gives .counting t ∧ t.sampled = true := by
  have hh : Carrier.sampledRequest.traceHeader? = some ⟨.zeros, .ofNumber 1, some true⟩ := by decide +kernel
  have hn : Carrier.sampledRequest.received.sampleRand? = none := by decide +kernel
  obtain ⟨t, ht, -⟩ := gives_of_run (fun t : Transaction => t.name) (b := "GET /") (s := .counting)
    (r := Client.plain.continueTrace .sampledRequest "GET /") (by decide +kernel)
  exact ⟨by decide +kernel, hn, t, ht, (inherits_decision_iff rfl hh rfl hn ht).2 fun h => Bool.noConfusion h.1⟩

def Carrier.unsampledRequest : Carrier :=
  .ofHeaders [(traceHeaderName, "00000000000000000000000000000000-0000000000000001-0"),
    (baggageHeaderName, "sentry-sample_rate=0.9999999")]

theorem unsampled_request_is_sampled :
    Carrier.unsampledRequest.traceHeader? = some ⟨.zeros, .ofNumber 1, some false⟩ ∧
      Carrier.unsampledRequest.received.sampleRand? = none ∧
      ∃ t, (Client.plain.continueTrace .unsampledRequest "GET /").Gives .counting t ∧ t.sampled = true :=
  ⟨by decide +kernel, by decide +kernel,
    gives_of_run (fun t : Transaction => t.sampled) (r := Client.plain.continueTrace .unsampledRequest "GET /")
      (s := .counting) (by decide +kernel)⟩

end TraceRelay
