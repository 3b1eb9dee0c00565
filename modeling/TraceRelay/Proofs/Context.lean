import TraceRelay.Context
import TraceRelay.Proofs.Baggage
import TraceRelay.Proofs.Journal
import TraceRelay.Proofs.Sampling.Backfill

/-!
# What is extracted from a carrier

The trace header of a carrier settles the ids and the decision, its baggage header the items, which
a backfill completes (`extracted_of_gives`). Where the items that came are complete already, an
extraction always returns (`returns_extract`).
-/

namespace TraceRelay

open Run

namespace Carrier

def traceHeader? (carrier : Carrier) : Option TraceHeader :=
  (carrier.get? traceHeaderName).bind fun text => (TraceHeader.decode text).toOption

def received (carrier : Carrier) : Baggage :=
  ((carrier.get? baggageHeaderName).map Baggage.ofHeader).getD .empty

/-- What the headers of a carrier say, before it is completed. -/
def stated (carrier : Carrier) : Context :=
  ⟨carrier.traceHeader?.map (·.traceId), none, carrier.traceHeader?.map (·.spanId),
    carrier.traceHeader?.bind (·.sampled),
    (carrier.get? baggageHeaderName).map fun header => (Baggage.ofHeader header).items⟩

theorem received_of_none {carrier : Carrier} (hb : carrier.get? baggageHeaderName = none) :
    carrier.received = .empty := by
  rw [received, hb]
  rfl

theorem received_of_some {carrier : Carrier} {header : String} (hb : carrier.get? baggageHeaderName = some header) :
    carrier.received = .ofHeader header := by
  rw [received, hb]
  rfl

theorem hasWireIds_of_traceHeader? {carrier : Carrier} {h : TraceHeader} (hh : carrier.traceHeader? = some h) :
    h.HasWireIds := by
  obtain ⟨text, -, ht⟩ := Option.bind_eq_some_iff.1 hh
  cases hd : TraceHeader.decode text with
  | ok h' =>
    rw [hd] at ht
    cases ht
    exact TraceHeader.hasWireIds_of_decode hd
  | error e => rw [hd] at ht; cases ht

end Carrier

variable {s : Supply}

theorem gives_receive {header : String} {b : Baggage} (h : (Baggage.receive header).Gives s b) :
    b = .ofHeader header := by
  obtain ⟨_, -, h⟩ := gives_bind h
  exact gives_pure.1 h

theorem gives_backfill {traceId : String} {sampled : Option Bool} {items : Items}
    {r : Option String × Items} (h : (backfill traceId sampled items).Gives s r) :
    backfill? s.drawLimit traceId sampled items = some r := by
  obtain ⟨_, -, h⟩ := gives_bind h
  obtain ⟨s', hs, h⟩ := gives_bind h
  rw [gives_read.1 hs] at h
  exact gives_found h

theorem returns_backfill {traceId : String} {sampled : Option Bool} {items : Items} (h : Completed sampled items) :
    (backfill traceId sampled items).Returns s := by
  obtain ⟨text, hfill⟩ := h.backfill s.drawLimit traceId
  refine returns_bind (returns_notes _) fun _ _ => returns_bind returns_read fun s' hs => ?_
  rw [gives_read.1 hs]
  exact returns_found (by rw [hfill]; rfl)

namespace Context

/-! ## Steps of an extraction -/

theorem gives_readItems {carrier : Carrier} {items : Option Items} (h : (readItems carrier).Gives s items) :
    items = (carrier.get? baggageHeaderName).map fun header => (Baggage.ofHeader header).items := by
  unfold readItems at h
  split at h
  · rename_i hb
    obtain ⟨b, hr, h⟩ := gives_bind h
    rw [gives_pure.1 h, gives_receive hr, hb]
    rfl
  · rename_i hb
    rw [gives_pure.1 h, hb]
    rfl

theorem gives_readTraceHeader {c c' : Context} {carrier : Carrier} (h : (c.readTraceHeader carrier).Gives s c') :
    c' = carrier.traceHeader?.elim c c.continueHeader := by
  unfold readTraceHeader at h
  unfold Carrier.traceHeader?
  split at h
  · rename_i hh
    rw [gives_pure.1 h, hh]
    rfl
  · rename_i header hh
    rw [hh, Option.bind_some]
    split at h
    · rename_i hd
      rw [gives_pure.1 h, hd]
      rfl
    · rename_i hd
      obtain ⟨_, -, h⟩ := gives_bind h
      rw [gives_pure.1 h, hd]
      rfl

theorem stated_of_gives {carrier : Carrier} {items : Option Items} {c : Context}
    (hitems : (readItems carrier).Gives s items) (hc : ({ empty with items }.readTraceHeader carrier).Gives s c) :
    c = carrier.stated := by
  rw [gives_readTraceHeader hc, gives_readItems hitems, Carrier.stated]
  cases carrier.traceHeader? <;> rfl

theorem gives_fixTraceId {c c' : Context} {id : TraceId} (h : c.fixTraceId.Gives s (id, c')) :
    c' = { c with traceId := some id } ∧ (c.traceId = some id ∨ c.traceId = none ∧ id.IsWire) := by
  unfold fixTraceId at h
  split at h
  · rename_i hid
    cases gives_pure.1 h
    exact ⟨by rw [← hid], .inl hid⟩
  · rename_i hid
    obtain ⟨_, hf, h⟩ := gives_bind h
    cases gives_pure.1 h
    exact ⟨rfl, .inr ⟨hid, isWire_of_freshTraceId hf⟩⟩

theorem gives_complete {c c' : Context} (h : c.complete.Gives s c') : ∃ id items,
    (c.traceId = some id ∨ c.traceId = none ∧ id.IsWire) ∧ c' = { c with traceId := some id, items := items } ∧
      (c.items = none → items = none) ∧
      ∀ old, c.items = some old → ∃ text new, items = some new ∧
        backfill? s.drawLimit id.text c.parentSampled old = some (text, new) := by
  obtain ⟨⟨id, c1⟩, h1, h⟩ := gives_bind h
  obtain ⟨rfl, hid⟩ := gives_fixTraceId h1
  simp only at h
  split at h
  · rename_i hn
    refine ⟨id, none, hid, by rw [gives_pure.1 h, ← hn], fun _ => rfl, fun old ho => ?_⟩
    rw [ho] at hn; cases hn
  · rename_i old ho
    obtain ⟨⟨text, new⟩, hb, h⟩ := gives_bind h
    refine ⟨id, some new, hid, gives_pure.1 h, fun hn => ?_, fun old' ho' => ?_⟩
    · rw [ho] at hn; cases hn
    · rw [ho] at ho'
      cases ho'
      exact ⟨text, new, rfl, gives_backfill hb⟩

/-! ## Extraction -/

/-- What a context owes to the carrier it was extracted from. -/
structure Extracted (limit : Nat) (carrier : Carrier) (c : Context) (id : TraceId) : Prop where
  traceId : c.traceId = some id
  ofHeader : ∀ h, carrier.traceHeader? = some h → id = h.traceId
  isWire : id.IsWire
  parentSpanId : c.parentSpanId = carrier.traceHeader?.map (·.spanId)
  parentSampled : c.parentSampled = carrier.traceHeader?.bind (·.sampled)
  noItems : carrier.get? baggageHeaderName = none → c.items = none
  items : ∀ header, carrier.get? baggageHeaderName = some header → ∃ text items, c.items = some items ∧
    backfill? limit id.text c.parentSampled carrier.received.items = some (text, items)

theorem complete_of_extract {carrier : Carrier} {c : Context} (h : (extract carrier).Gives s c) :
    carrier.stated.complete.Gives s c := by
  obtain ⟨items, hitems, h⟩ := gives_bind h
  obtain ⟨c1, hc1, h⟩ := gives_bind h
  rwa [stated_of_gives hitems hc1] at h

theorem extracted_of_gives {carrier : Carrier} {c : Context} (h : (extract carrier).Gives s c) :
    ∃ id, Extracted s.drawLimit carrier c id := by
  obtain ⟨id, items, hid, rfl, hnone, hsome⟩ := gives_complete (complete_of_extract h)
  -- the header fixes the id, or a fresh one is taken
  have hids : (∀ h, carrier.traceHeader? = some h → id = h.traceId) ∧ id.IsWire := by
    unfold Carrier.stated at hid
    cases hh : carrier.traceHeader? with
    | none =>
      rw [hh] at hid
      rcases hid with hid | ⟨-, hw⟩
      · cases hid
      · exact ⟨fun _ h => (Option.some_ne_none _ h.symm).elim, hw⟩
    | some h =>
      rw [hh] at hid
      rcases hid with hid | ⟨hid, -⟩ <;> cases hid
      exact ⟨fun _ h => by cases h; rfl, (Carrier.hasWireIds_of_traceHeader? hh).traceId⟩
  refine ⟨id, rfl, hids.1, hids.2, rfl, rfl, fun hb => ?_, fun header hb => ?_⟩
  · exact hnone (by rw [Carrier.stated, hb]; rfl)
  · rw [Carrier.received_of_some hb]
    exact hsome _ (by rw [Carrier.stated, hb]; rfl)

theorem spanId_of_extract {carrier : Carrier} {c : Context} (h : (extract carrier).Gives s c) : c.spanId = none := by
  obtain ⟨id, items, -, rfl, -, -⟩ := gives_complete (complete_of_extract h)
  rfl

theorem Extracted.items_cases {limit : Nat} {carrier : Carrier} {c : Context} {id : TraceId}
    (hx : Extracted limit carrier c id) :
    (carrier.received = .empty ∧ c.items.getD carrier.received.items = .empty) ∨
      ∃ text, backfill? limit id.text c.parentSampled carrier.received.items =
        some (text, c.items.getD carrier.received.items) := by
  cases hb : carrier.get? baggageHeaderName with
  | none =>
    have hr := Carrier.received_of_none hb
    exact .inl ⟨hr, by rw [hx.noItems hb, hr]; rfl⟩
  | some header =>
    obtain ⟨text, items, hitems, hfill⟩ := hx.items header hb
    exact .inr ⟨text, by rw [hitems, Option.getD_some, hfill]⟩

theorem isWritable_received (carrier : Carrier) : carrier.received.IsWritable := by
  cases hb : carrier.get? baggageHeaderName with
  | none =>
    rw [Carrier.received_of_none hb]
    exact ⟨rfl, Baggage.isForeignText_empty⟩
  | some header =>
    rw [Carrier.received_of_some hb]
    exact Baggage.isWritable_ofHeader header

theorem frozen_received (carrier : Carrier) : carrier.received.frozen = !carrier.received.items.isEmpty := by
  cases hb : carrier.get? baggageHeaderName with
  | none =>
    rw [Carrier.received_of_none hb]
    rfl
  | some header =>
    rw [Carrier.received_of_some hb]
    exact Baggage.frozen_ofHeader header

theorem isEmpty_of_frozen_received {carrier : Carrier} (h : carrier.received.frozen = false) :
    carrier.received.items.isEmpty = true := by
  rw [frozen_received] at h
  simpa using h

theorem returns_readItems (carrier : Carrier) : (readItems carrier).Returns s := by
  unfold readItems
  split
  · exact returns_bind (returns_bind (returns_notes _) fun _ _ => returns_pure _) fun _ _ => returns_pure _
  · exact returns_pure _

theorem returns_readTraceHeader (c : Context) (carrier : Carrier) : (c.readTraceHeader carrier).Returns s := by
  unfold readTraceHeader
  split
  · exact returns_pure _
  · split
    · exact returns_pure _
    · exact returns_bind (returns_notes _) fun _ _ => returns_pure _

theorem returns_fixTraceId (c : Context) : c.fixTraceId.Returns s := by
  unfold fixTraceId
  split
  · exact returns_pure _
  · exact returns_bind returns_freshTraceId fun _ _ => returns_pure _

theorem returns_fixSpanId (c : Context) : c.fixSpanId.Returns s := by
  unfold fixSpanId
  split
  · exact returns_pure _
  · exact returns_bind returns_freshSpanId fun _ _ => returns_pure _

theorem returns_complete {c : Context} (h : ∀ items, c.items = some items → Completed c.parentSampled items) :
    c.complete.Returns s := by
  refine returns_bind (returns_fixTraceId c) fun ⟨id, c'⟩ hc => ?_
  obtain ⟨rfl, -⟩ := gives_fixTraceId hc
  simp only
  split
  · exact returns_pure _
  · rename_i items hitems
    exact returns_bind (returns_backfill (h items hitems)) fun _ _ => returns_pure _

/-- No search is made for items that are complete, so an extraction of such items returns. -/
theorem returns_extract {carrier : Carrier}
    (h : ∀ items, carrier.stated.items = some items → Completed carrier.stated.parentSampled items) :
    (extract carrier).Returns s := by
  refine returns_bind (returns_readItems carrier) fun items hitems => ?_
  refine returns_bind (returns_readTraceHeader _ carrier) fun c hc => ?_
  rw [stated_of_gives hitems hc]
  exact returns_complete h

end Context

/-! ## Extractions that agree -/

/-- Two carriers that say the same, whatever else stands in them. -/
structure Carrier.SameContent (k k' : Carrier) : Prop where
  traceHeader? : k.traceHeader? = k'.traceHeader?
  baggage : (k.get? baggageHeaderName).map Baggage.ofHeader = (k'.get? baggageHeaderName).map Baggage.ofHeader

theorem Carrier.SameContent.baggage_cases {k k' : Carrier} (h : k.SameContent k') :
    (k.get? baggageHeaderName = none ∧ k'.get? baggageHeaderName = none) ∨
      ∃ header header', k.get? baggageHeaderName = some header ∧ k'.get? baggageHeaderName = some header' ∧
        Baggage.ofHeader header = .ofHeader header' := by
  have hb := h.baggage
  cases hk : k.get? baggageHeaderName <;> cases hk' : k'.get? baggageHeaderName <;> rw [hk, hk'] at hb <;>
    simp only [Option.map_none, Option.map_some, Option.some_inj, reduceCtorEq] at hb
  · exact .inl ⟨rfl, rfl⟩
  · exact .inr ⟨_, _, rfl, rfl, hb⟩

theorem agree_receive {header header' : String} (h : Baggage.ofHeader header = .ofHeader header') :
    Agree (Baggage.receive header) (Baggage.receive header') := by
  refine agree_bind (agree_notes _ _) fun _ => ?_
  rw [h]
  exact agree_pure _

theorem agree_backfill (traceId : String) (sampled : Option Bool) (items : Items) :
    Agree (backfill traceId sampled items) (backfill traceId sampled items) := by
  refine agree_bind (agree_notes _ _) fun _ => ?_
  exact agree_bind agree_read fun s => agree_found _

namespace Context
variable {k k' : Carrier}

theorem agree_fixTraceId (c : Context) : Agree c.fixTraceId c.fixTraceId := by
  unfold fixTraceId
  cases c.traceId with
  | none => exact agree_bind agree_freshTraceId fun id => agree_pure _
  | some id => exact agree_pure _

theorem agree_complete (c : Context) : Agree c.complete c.complete := by
  refine agree_bind (agree_fixTraceId c) fun ⟨id, c⟩ => ?_
  simp only
  cases c.items with
  | none => exact agree_pure c
  | some items => exact agree_bind (agree_backfill _ _ _) fun filled => agree_pure _

theorem agree_readItems (h : k.SameContent k') : Agree (readItems k) (readItems k') := by
  unfold readItems
  obtain ⟨hk, hk'⟩ | ⟨header, header', hk, hk', hb⟩ := h.baggage_cases <;> rw [hk, hk']
  · exact agree_pure none
  · exact agree_bind (agree_receive hb) fun b => agree_pure _

/-- A trace header that cannot be read is noted, and leaves neither an id nor a flag behind. -/
theorem outcome_readTraceHeader (c : Context) (k : Carrier) (s : Supply) (p : Progress) :
    (c.readTraceHeader k).outcome s p =
      some (k.traceHeader?.elim c c.continueHeader, p.tracesTaken, p.spansTaken) := by
  unfold readTraceHeader Carrier.traceHeader?
  cases k.get? traceHeaderName with
  | none => rfl
  | some header =>
    rw [Option.bind_some]
    cases hd : TraceHeader.decode header <;> simp only [hd] <;> rfl

theorem agree_readTraceHeader (c : Context) (h : k.SameContent k') :
    Agree (c.readTraceHeader k) (c.readTraceHeader k') := by
  intro s p p' ht hs
  rw [outcome_readTraceHeader, outcome_readTraceHeader, h.traceHeader?, ht, hs]

theorem agree_extract (h : k.SameContent k') : Agree (extract k) (extract k') := by
  refine agree_bind (agree_readItems h) fun items => ?_
  refine agree_bind (agree_readTraceHeader _ h) fun c => ?_
  exact agree_complete c

/-- With one id, the same items come of the same content, however long a search may be. -/
theorem Extracted.items_congr {limit limit' : Nat} {c c' : Context} {id : TraceId} (hk : k.SameContent k')
    (h : Extracted limit k c id) (h' : Extracted limit' k' c' id) : c.items = c'.items := by
  obtain ⟨hb, hb'⟩ | ⟨header, header', hb, hb', hread⟩ := hk.baggage_cases
  · rw [h.noItems hb, h'.noItems hb']
  · obtain ⟨text, items, hitems, hfill⟩ := h.items header hb
    obtain ⟨text', items', hitems', hfill'⟩ := h'.items header' hb'
    rw [h.parentSampled, hk.traceHeader?, ← h'.parentSampled, Carrier.received_of_some hb, hread,
      ← Carrier.received_of_some hb'] at hfill
    cases backfill?_unique hfill hfill'
    rw [hitems, hitems']

end Context

end TraceRelay
