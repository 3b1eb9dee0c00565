import TraceRelay.Proofs.Sending

/-!
# Carriers that are used again

An injection leaves nothing of the trace header that a carrier held, and nothing of its baggage header if
there is an item to write (`injected_of_gives`). So it does not matter which carrier a context with items
is injected into: whoever extracts it has the same trace, sender, decision and items
(`reused_carriers_agree`). A context without items leaves the baggage header alone, and with it the items
of an earlier trace (`leftover_baggage_is_read`).
-/

namespace TraceRelay

open Run

namespace Context

/-- What is sent can be read back: ids have the form of the wire, and no item has an empty key. -/
structure IsSendable (c : Context) : Prop where
  traceId : ∀ id, c.traceId = some id → id.IsWire
  spanId : ∀ id, c.spanId = some id → id.IsWire
  noEmptyKey : ∀ items, c.items = some items → items.get? "" = none

def HasItems (c : Context) : Prop := (c.items.getD .empty).isEmpty = false

instance (c : Context) : Decidable c.HasItems := inferInstanceAs (Decidable (_ = false))

variable {s s' : Supply} {c sender sender' : Context} {k k' sent sent' : Carrier}

theorem text_baggage_eq_empty_iff (hc : c.IsSendable) : c.baggage.text = "" ↔ ¬c.HasItems := by
  constructor
  · exact fun ht hitems => Baggage.text_ne_empty (isWritable_baggage hc.noEmptyKey) hitems ht
  · intro hn
    have hempty : c.items.getD .empty = .empty :=
      Dict.ext_get? fun key => Dict.get?_of_isEmpty (Bool.not_eq_false _ ▸ hn) key
    rw [baggage, hempty]
    rfl

/-- What a carrier holds once a context was injected into it, and what the context has become by that. -/
structure Injected (c sender : Context) (k sent : Carrier) (h : TraceHeader) : Prop where
  sender : sender = { c with traceId := some h.traceId, spanId := some h.spanId }
  traceId : ∀ id, c.traceId = some id → h.traceId = id
  spanId : ∀ id, c.spanId = some id → h.spanId = id
  sampled : h.sampled = c.parentSampled
  hasWireIds : h.HasWireIds
  traceHeader? : sent.traceHeader? = some h
  baggage : sent.get? baggageHeaderName = if c.HasItems then some c.baggage.text else k.get? baggageHeaderName

theorem injected_of_gives (hc : c.IsSendable) (hk : k.TakesHeaders) (h : (c.inject true k).Gives s (sent, sender)) :
    ∃ header, Injected c sender k sent header := by
  obtain ⟨traceId, spanId, hid, hspan, rfl, rfl⟩ := gives_inject h
  have hw : TraceHeader.HasWireIds ⟨traceId, spanId, c.parentSampled⟩ :=
    ⟨hid.elim (hc.traceId traceId) (·.2), hspan.elim (hc.spanId spanId) (·.2)⟩
  obtain ⟨hheader, hbaggage⟩ := Carrier.get?_overwritten hk ⟨traceId, spanId, c.parentSampled⟩ c.baggage
  refine ⟨⟨traceId, spanId, c.parentSampled⟩, rfl, fun id h => ?_, fun id h => ?_, rfl, hw, ?_, ?_⟩
  · simpa [h, eq_comm] using hid
  · simpa [h, eq_comm] using hspan
  · rw [Carrier.traceHeader?, hheader, Option.bind_some, TraceHeader.decode_encode hw]
    rfl
  · rw [hbaggage]
    simp only [text_baggage_eq_empty_iff hc, ite_not]

section
variable {header header' : TraceHeader} {x x' : Context}

theorem Injected.isSendable (hc : c.IsSendable) (h : Injected c sender k sent header) : sender.IsSendable := by
  rw [h.sender]
  exact ⟨fun id hid => by cases hid; exact h.hasWireIds.traceId,
    fun id hid => by cases hid; exact h.hasWireIds.spanId, hc.noEmptyKey⟩

theorem Injected.hasItems_iff (h : Injected c sender k sent header) : sender.HasItems ↔ c.HasItems := by
  rw [h.sender]
  exact Iff.rfl

theorem Injected.again (h : Injected c sender k sent header) (h' : Injected sender sender' k' sent' header') :
    header' = header ∧ sender' = sender := by
  have hid := h'.traceId header.traceId (by rw [h.sender])
  have hspan := h'.spanId header.spanId (by rw [h.sender])
  have hsampled : header'.sampled = header.sampled := by rw [h'.sampled, h.sampled, h.sender]
  have hheader : header' = header := by
    cases header
    cases header'
    rw [TraceHeader.mk.injEq]
    exact ⟨hid, hspan, hsampled⟩
  refine ⟨hheader, ?_⟩
  rw [h'.sender, hheader, h.sender]

theorem Injected.received (h : Injected c sender k sent header) (hx : (extract sent).Gives s x) :
    x.traceId = sender.traceId ∧ x.parentSpanId = sender.spanId ∧ x.parentSampled = sender.parentSampled := by
  obtain ⟨id, hx⟩ := extracted_of_gives hx
  rw [hx.traceId, hx.ofHeader header h.traceHeader?, hx.parentSpanId, hx.parentSampled, h.traceHeader?, h.sender]
  exact ⟨rfl, rfl, h.sampled⟩

theorem Injected.sameContent (hitems : c.HasItems) (h : Injected c sender k sent header)
    (h' : Injected sender sender' k' sent' header') : sent.SameContent sent' := by
  have hbaggage : sender.baggage = c.baggage := by rw [h.sender]; rfl
  refine ⟨by rw [h.traceHeader?, h'.traceHeader?, (h.again h').1], ?_⟩
  rw [h.baggage, h'.baggage, if_pos hitems, if_pos (h.hasItems_iff.2 hitems), hbaggage]

theorem Injected.items_eq (hitems : c.HasItems) (h : Injected c sender k sent header)
    (h' : Injected sender sender' k' sent' header') (hx : (extract sent).Gives s x)
    (hx' : (extract sent').Gives s' x') : x.items = x'.items := by
  obtain ⟨id, hx⟩ := extracted_of_gives hx
  obtain ⟨id', hx'⟩ := extracted_of_gives hx'
  have hid : id' = id := by
    rw [hx.ofHeader header h.traceHeader?, hx'.ofHeader header' h'.traceHeader?, (h.again h').1]
  subst hid
  exact hx.items_congr (h.sameContent hitems h') hx'

end

/-! ## Two carriers -/

/-- A context is injected into two carriers one after the other, and it makes no difference to the trace, the
span and the decision that are received what they held before; nor to the items if the context has any. Else
each carrier keeps its baggage header. -/
theorem reused_carriers_agree (hc : c.IsSendable) (hk : k.TakesHeaders) (hk' : k'.TakesHeaders)
    (hi : (c.inject true k).Gives s (sent, sender)) (hi' : (sender.inject true k').Gives s' (sent', sender')) :
    (∀ r r' x x', (extract sent).Gives r x → (extract sent').Gives r' x' →
      x.traceId = x'.traceId ∧ x.parentSpanId = x'.parentSpanId ∧ x.parentSampled = x'.parentSampled ∧
        (c.HasItems → x.items = x'.items)) ∧
    (c.HasItems → Agree (extract sent) (extract sent')) ∧
    (¬c.HasItems → sent.get? baggageHeaderName = k.get? baggageHeaderName ∧
      sent'.get? baggageHeaderName = k'.get? baggageHeaderName) := by
  obtain ⟨header, h⟩ := injected_of_gives hc hk hi
  obtain ⟨header', h'⟩ := injected_of_gives (h.isSendable hc) hk' hi'
  refine ⟨fun r r' x x' hx hx' => ?_, fun hitems => agree_extract (h.sameContent hitems h'), fun hnone => ?_⟩
  · obtain ⟨hid, hspan, hsampled⟩ := h.received hx
    obtain ⟨hid', hspan', hsampled'⟩ := h'.received hx'
    rw [(h.again h').2] at hid' hspan' hsampled'
    exact ⟨hid.trans hid'.symm, hspan.trans hspan'.symm, hsampled.trans hsampled'.symm,
      fun hitems => h.items_eq hitems h' hx hx'⟩
  · exact ⟨h.baggage.trans (if_neg hnone), h'.baggage.trans (if_neg fun hitems => hnone (h.hasItems_iff.1 hitems))⟩

def sentTwice (c : Context) (k k' : Carrier) : Run (Context × Context) := do
  let (sent, sender) ← c.inject true k
  let (sent', _) ← sender.inject true k'
  return (← extract sent, ← extract sent')

theorem gives_sentTwice {x x' : Context} (h : (c.sentTwice k k').Gives s (x, x')) : ∃ sent sent' sender sender',
    (c.inject true k).Gives s (sent, sender) ∧ (sender.inject true k').Gives s (sent', sender') ∧
      (extract sent).Gives s x ∧ (extract sent').Gives s x' := by
  obtain ⟨⟨sent, sender⟩, hi, h⟩ := gives_bind h
  obtain ⟨⟨sent', sender'⟩, hi', h⟩ := gives_bind h
  obtain ⟨y, hx, h⟩ := gives_bind h
  obtain ⟨y', hx', h⟩ := gives_bind h
  cases gives_pure.1 h
  exact ⟨sent, sent', sender, sender', hi, hi', hx, hx'⟩

def fresh : Context := ⟨none, none, none, some true, some (.ofList [(ItemKey.sampleRand, "0.25")])⟩

def usedCarrier : Carrier :=
  .json (.object [("Baggage", .text "sentry-sample_rand=0.75"), ("sentry-trace", .null)])

theorem fresh_context_is_received : ∃ sent sent' sender sender' x x',
    (fresh.inject true usedCarrier).Gives .counting (sent, sender) ∧
      (sender.inject true (.json (.object []))).Gives .counting (sent', sender') ∧
      (extract sent).Gives .counting x ∧ (extract sent').Gives .counting x' ∧
      x.traceId = x'.traceId ∧ x.items = x'.items := by
  obtain ⟨⟨x, x'⟩, h, -⟩ := gives_of_run (fun x => x.1.items.isSome) (s := .counting) (b := true)
    (r := fresh.sentTwice usedCarrier (.json (.object []))) (by decide +kernel)
  obtain ⟨sent, sent', sender, sender', hi, hi', hx, hx'⟩ := gives_sentTwice h
  have hc : fresh.IsSendable := ⟨fun _ => nofun, fun _ => nofun, fun _ h => by cases h; decide⟩
  obtain ⟨hsame, -, -⟩ := reused_carriers_agree hc (.json _) (.json _) hi hi'
  obtain ⟨hid, -, -, hitems⟩ := hsame _ _ x x' hx hx'
  exact ⟨sent, sent', sender, sender', x, x', hi, hi', hx, hx', hid, hitems (by decide)⟩

def bare : Context := ⟨some (.ofNumber 0), some (.ofNumber 1), none, none, none⟩

def staleCarrier : Carrier := .ofHeaders [(baggageHeaderName, "sentry-sample_rand=0.5")]

theorem leftover_baggage_is_read : bare.IsSendable ∧
    (∀ e ∈ staleCarrier.entries, equalIgnoringCase e.1 baggageHeaderName = true) ∧ Carrier.empty.entries = [] ∧
    ∃ sent sent' sender sender' x x', (bare.inject true staleCarrier).Gives .counting (sent, sender) ∧
      (sender.inject true .empty).Gives .counting (sent', sender') ∧ (extract sent).Gives .counting x ∧
      (extract sent').Gives .counting x' ∧ x.items ≠ x'.items := by
  have hc : bare.IsSendable :=
    ⟨fun _ h => by cases h; exact TraceId.isWire_ofNumber 0, fun _ h => by cases h; exact SpanId.isWire_ofNumber 1,
      fun _ => nofun⟩
  obtain ⟨⟨x, x'⟩, h, hitems⟩ := gives_of_run (fun x => (x.1.items, x.2.items)) (s := .counting)
    (b := (some (.ofList [(ItemKey.sampleRand, "0.5")]), none)) (r := bare.sentTwice staleCarrier .empty)
    (by decide +kernel)
  obtain ⟨sent, sent', sender, sender', hi, hi', hx, hx'⟩ := gives_sentTwice h
  refine ⟨hc, by decide +kernel, rfl, sent, sent', sender, sender', x, x', hi, hi', hx, hx', fun he => ?_⟩
  rw [Prod.mk.injEq, he] at hitems
  cases hitems.1.symm.trans hitems.2

end Context

end TraceRelay
