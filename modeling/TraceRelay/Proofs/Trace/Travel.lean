import TraceRelay.Proofs.Sending

/-!
# Which ids travel

An id is valid with digits in either case, and a trace header is read with lower case ones only
(`isLowerHexOfWidth_iff_noCapitals`). So the trace of a context with valid ids is continued by whoever
gets its headers exactly if no digit of these ids is a capital (`follows_iff`); else the receiver takes
it for a new one.
-/

namespace TraceRelay

open Run

def NoCapitals (text : String) : Prop := ∀ c ∈ text.toList, c.isUpper = false

instance (text : String) : Decidable (NoCapitals text) := List.decidableBAll _ _

theorem isLowerHexDigit_iff_not_upper {c : Char} (h : isHexDigit c = true) :
    isLowerHexDigit c = true ↔ c.isUpper = false := by
  have h0 : '0'.val.toNat = 48 := rfl
  have h9 : '9'.val.toNat = 57 := rfl
  have ha : 'a'.val.toNat = 97 := rfl
  have hf : 'f'.val.toNat = 102 := rfl
  have hA : 'A'.val.toNat = 65 := rfl
  have hF : 'F'.val.toNat = 70 := rfl
  have hZ : 'Z'.val.toNat = 90 := rfl
  delta Char.isUpper
  simp only [isHexDigit, isLowerHexDigit, Char.isDigit, Bool.or_eq_true, Bool.and_eq_true, decide_eq_true_eq,
    ge_iff_le, Char.le_def, UInt32.le_iff_toNat_le, decide_eq_false_iff_not] at h ⊢
  omega

theorem isLowerHexOfWidth_iff_noCapitals {width : Nat} {text : String} :
    isLowerHexOfWidth width text.toList = true ↔ isHexOfWidth width text.toList = true ∧ NoCapitals text := by
  constructor
  · intro h
    have hhex := isHexOfWidth_of_lower h
    refine ⟨hhex, fun c hc => ?_⟩
    have hdigit := List.all_eq_true.1 (Bool.and_eq_true_iff.1 hhex).2 c hc
    exact (isLowerHexDigit_iff_not_upper hdigit).1 (List.all_eq_true.1 (Bool.and_eq_true_iff.1 h).2 c hc)
  · rintro ⟨h, hno⟩
    obtain ⟨hlength, hall⟩ := Bool.and_eq_true_iff.1 h
    refine Bool.and_eq_true_iff.2 ⟨hlength, List.all_eq_true.2 fun c hc => ?_⟩
    exact (isLowerHexDigit_iff_not_upper (List.all_eq_true.1 hall c hc)).2 (hno c hc)

theorem TraceId.parse_iff {text : String} : (∃ id, parse text = .ok id) ↔ isValid ⟨text⟩ = true := by
  unfold parse
  by_cases h : isValid ⟨text⟩ = true <;> simp [h]

theorem SpanId.parse_iff {text : String} : (∃ id, parse text = .ok id) ↔ isValid ⟨text⟩ = true := by
  unfold parse
  by_cases h : isValid ⟨text⟩ = true <;> simp [h]

namespace TraceHeader

theorem exists_decode_traceId_iff {v : String} :
    (∃ text h, decode text = .ok h ∧ h.traceId = ⟨v⟩) ↔ (∃ id, TraceId.parse v = .ok id) ∧ NoCapitals v := by
  rw [TraceId.parse_iff]
  refine Iff.trans ?_ isLowerHexOfWidth_iff_noCapitals
  constructor
  · rintro ⟨text, h, ht, hv⟩
    have hwire := (hasWireIds_of_decode ht).traceId
    rwa [hv] at hwire
  · intro hv
    exact ⟨_, ⟨⟨v⟩, .ofNumber 0, none⟩, decode_encode ⟨hv, SpanId.isWire_ofNumber 0⟩, rfl⟩

theorem exists_decode_spanId_iff {v : String} :
    (∃ text h, decode text = .ok h ∧ h.spanId = ⟨v⟩) ↔ (∃ id, SpanId.parse v = .ok id) ∧ NoCapitals v := by
  rw [SpanId.parse_iff]
  refine Iff.trans ?_ isLowerHexOfWidth_iff_noCapitals
  constructor
  · rintro ⟨text, h, ht, hv⟩
    have hwire := (hasWireIds_of_decode ht).spanId
    rwa [hv] at hwire
  · intro hv
    exact ⟨_, ⟨.ofNumber 0, ⟨v⟩, none⟩, decode_encode ⟨TraceId.isWire_ofNumber 0, hv⟩, rfl⟩

structure HasValidIds (h : TraceHeader) : Prop where
  traceId : h.traceId.isValid = true
  spanId : h.spanId.isValid = true

variable {h : TraceHeader}

theorem HasValidIds.hasWireIds_iff (hv : h.HasValidIds) :
    h.HasWireIds ↔ NoCapitals h.traceId.text ∧ NoCapitals h.spanId.text := by
  constructor
  · intro hw
    exact ⟨(isLowerHexOfWidth_iff_noCapitals.1 hw.traceId).2, (isLowerHexOfWidth_iff_noCapitals.1 hw.spanId).2⟩
  · rintro ⟨ht, hs⟩
    exact ⟨isLowerHexOfWidth_iff_noCapitals.2 ⟨hv.traceId, ht⟩, isLowerHexOfWidth_iff_noCapitals.2 ⟨hv.spanId, hs⟩⟩

theorem HasValidIds.decode_encode_of_not (hv : h.HasValidIds) (hw : ¬h.HasWireIds) :
    decode h.encode = .error .traceHeader := by
  rw [decode_encode_of_isValid hv.traceId hv.spanId, if_neg]
  intro hlower
  obtain ⟨ht, hs⟩ := Bool.and_eq_true_iff.1 hlower
  exact hw ⟨ht, hs⟩

end TraceHeader

/-! ## Receivers -/

namespace Context

/-- The context goes on with the trace that the header names. -/
structure Follows (x : Context) (h : TraceHeader) : Prop where
  traceId : x.traceId = some h.traceId
  parentSpanId : x.parentSpanId = some h.spanId
  parentSampled : x.parentSampled = h.sampled

variable {s : Supply} {h : TraceHeader} {k : Carrier} {x : Context}

theorem follows_of_hasWireIds (hw : h.HasWireIds) (hk : k.get? traceHeaderName = some h.encode)
    (hx : (extract k).Gives s x) : x.Follows h := by
  obtain ⟨id, hx⟩ := extracted_of_gives hx
  have hh : k.traceHeader? = some h := by
    rw [Carrier.traceHeader?, hk, Option.bind_some, TraceHeader.decode_encode hw]
    rfl
  refine ⟨?_, ?_, ?_⟩
  · rw [hx.traceId, hx.ofHeader h hh]
  · rw [hx.parentSpanId, hh]
    rfl
  · rw [hx.parentSampled, hh]
    rfl

theorem orphaned_of_not_hasWireIds (hv : h.HasValidIds) (hw : ¬h.HasWireIds)
    (hk : k.get? traceHeaderName = some h.encode) (hx : (extract k).Gives s x) :
    x.parentSpanId = none ∧ x.parentSampled = none := by
  obtain ⟨id, hx⟩ := extracted_of_gives hx
  have hh : k.traceHeader? = none := by
    rw [Carrier.traceHeader?, hk, Option.bind_some, hv.decode_encode_of_not hw]
    rfl
  rw [hx.parentSpanId, hx.parentSampled, hh]
  exact ⟨rfl, rfl⟩

theorem follows_iff (hv : h.HasValidIds) (hk : k.get? traceHeaderName = some h.encode)
    (hx : (extract k).Gives s x) : x.Follows h ↔ NoCapitals h.traceId.text ∧ NoCapitals h.spanId.text := by
  rw [← hv.hasWireIds_iff]
  constructor
  · intro hc
    by_contra hw
    have hparent := (orphaned_of_not_hasWireIds hv hw hk hx).1
    rw [hc.parentSpanId] at hparent
    cases hparent
  · intro hw
    exact follows_of_hasWireIds hw hk hx

theorem returns_extract_of_no_baggage (hb : k.get? baggageHeaderName = none) : (extract k).Returns s := by
  refine returns_extract fun items hitems => ?_
  rw [Carrier.stated, hb] at hitems
  cases hitems

/-- The valid ids that travel are those without capitals. A header of valid ids is followed by whoever gets
it exactly if both ids are such; else the receiver knows neither the sender nor its decision. -/
theorem valid_ids_travel_iff (v : String) (h : TraceHeader) (k : Carrier) (s : Supply) :
    ((∃ text h, TraceHeader.decode text = .ok h ∧ h.traceId = ⟨v⟩) ↔
      (∃ id, TraceId.parse v = .ok id) ∧ NoCapitals v) ∧
    ((∃ text h, TraceHeader.decode text = .ok h ∧ h.spanId = ⟨v⟩) ↔
      (∃ id, SpanId.parse v = .ok id) ∧ NoCapitals v) ∧
    (h.HasValidIds → k.get? traceHeaderName = some h.encode →
      (∀ x, (extract k).Gives s x → (x.Follows h ↔ NoCapitals h.traceId.text ∧ NoCapitals h.spanId.text) ∧
        (¬(NoCapitals h.traceId.text ∧ NoCapitals h.spanId.text) → x.parentSpanId = none ∧ x.parentSampled = none)) ∧
      (k.get? baggageHeaderName = none → (extract k).Returns s)) := by
  refine ⟨TraceHeader.exists_decode_traceId_iff, TraceHeader.exists_decode_spanId_iff, fun hv hk => ⟨fun x hx => ?_,
    returns_extract_of_no_baggage⟩⟩
  refine ⟨follows_iff hv hk hx, fun hno => orphaned_of_not_hasWireIds hv (fun hw => ?_) hk hx⟩
  exact hno (hv.hasWireIds_iff.1 hw)

def capitalHeader : TraceHeader :=
  ⟨⟨"0000000000000000000000000000000A"⟩, ⟨"0000000000000001"⟩, some true⟩

theorem capitalHeader_is_lost : capitalHeader.HasValidIds ∧
    ∃ x, (extract (.ofHeaders [(traceHeaderName, capitalHeader.encode)])).Gives .counting x ∧ ¬x.Follows capitalHeader ∧
      x.parentSpanId = none ∧ x.parentSampled = none := by
  have hv : capitalHeader.HasValidIds := ⟨by decide +kernel, by decide +kernel⟩
  have hno : ¬(NoCapitals capitalHeader.traceId.text ∧ NoCapitals capitalHeader.spanId.text) := by decide +kernel
  obtain ⟨-, -, hsent⟩ := valid_ids_travel_iff capitalHeader.traceId.text capitalHeader
    (.ofHeaders [(traceHeaderName, capitalHeader.encode)]) .counting
  obtain ⟨hreceived, hreturns⟩ := hsent hv (by decide +kernel)
  obtain ⟨x, hx⟩ := exists_gives (hreturns (by decide +kernel))
  obtain ⟨hiff, horphaned⟩ := hreceived x hx
  exact ⟨hv, x, hx, fun hc => hno (hiff.1 hc), horphaned hno⟩

theorem capital_id_is_valid_and_never_read :
    TraceId.parse "0000000000000000000000000000000A" = .ok ⟨"0000000000000000000000000000000A"⟩ ∧
      ¬∃ text h, TraceHeader.decode text = .ok h ∧ h.traceId = ⟨"0000000000000000000000000000000A"⟩ := by
  refine ⟨by decide +kernel, fun h => ?_⟩
  have hcapital : ¬NoCapitals "0000000000000000000000000000000A" := by decide +kernel
  exact hcapital (TraceHeader.exists_decode_traceId_iff.1 h).2

end Context

end TraceRelay
