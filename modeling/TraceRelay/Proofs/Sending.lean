import TraceRelay.Proofs.Carrier
import TraceRelay.Proofs.Context

/-!
# What is sent and what a receiver gets

A trace header and baggage travel as headers, the baggage only if it says anything, and both are read
back from them (`traceHeader?_sentHeaders`, `received_sentHeaders`). An injection writes just such
headers (`gives_inject`), over what the carrier held under their names (`get?_overwritten`).
-/

namespace TraceRelay

open Run

def sentHeaders (h : TraceHeader) (b : Baggage) : List (String × String) :=
  (traceHeaderName, h.encode) :: (if b.text = "" then [] else [(baggageHeaderName, b.text)])

namespace Carrier
variable {h : TraceHeader} {b : Baggage}

theorem lower_traceHeaderName : lower traceHeaderName = traceHeaderName := by decide +kernel

theorem lower_baggageHeaderName : lower baggageHeaderName = baggageHeaderName := by decide +kernel

/-- The headers are found in any carrier that they were written into. Where no baggage is written, what was
there under its name stays. -/
theorem get?_overwritten {k : Carrier} (hk : k.TakesHeaders) (h : TraceHeader) (b : Baggage) :
    ((sentHeaders h b).foldl (fun k e => k.set e.1 e.2) k).get? traceHeaderName = some h.encode ∧
      ((sentHeaders h b).foldl (fun k e => k.set e.1 e.2) k).get? baggageHeaderName =
        if b.text = "" then k.get? baggageHeaderName else some b.text := by
  have hcase : equalIgnoringCase (lower traceHeaderName) (lower baggageHeaderName) = false := by decide +kernel
  have hcase' : equalIgnoringCase (lower baggageHeaderName) (lower traceHeaderName) = false := by decide +kernel
  unfold sentHeaders
  split
  · exact ⟨get?_set_self hk _ _, get?_set_of_ne k hcase _⟩
  · refine ⟨?_, get?_set_self (hk.set _ _) _ _⟩
    exact (get?_set_of_ne _ hcase' _).trans (get?_set_self hk _ _)

theorem foldl_set_empty : (sentHeaders h b).foldl (fun c e => c.set e.1 e.2) empty = ofHeaders (sentHeaders h b) := by
  unfold sentHeaders
  split
  · show Carrier.table (Dict.empty.insert (lower traceHeaderName) h.encode) = _
    rw [lower_traceHeaderName]
    rfl
  · show Carrier.table
      ((Dict.empty.insert (lower traceHeaderName) h.encode).insert (lower baggageHeaderName) b.text) = _
    rw [lower_traceHeaderName, lower_baggageHeaderName]
    rfl

theorem get?_sentHeaders : (ofHeaders (sentHeaders h b)).get? traceHeaderName = some h.encode ∧
    (ofHeaders (sentHeaders h b)).get? baggageHeaderName = if b.text = "" then none else some b.text := by
  rw [← foldl_set_empty]
  exact get?_overwritten (.table .empty) h b

theorem lookup_sentHeaders :
    (sentHeaders h b).lookup baggageHeaderName = if b.text = "" then none else some b.text := by
  have hne : baggageHeaderName ≠ traceHeaderName := by decide
  unfold sentHeaders
  by_cases ht : b.text = "" <;> simp [ht, lookup_cons, hne]

theorem traceHeader?_sentHeaders (hw : h.HasWireIds) : (ofHeaders (sentHeaders h b)).traceHeader? = some h := by
  rw [traceHeader?, get?_sentHeaders.1, Option.bind_some, TraceHeader.decode_encode hw]
  rfl

/-- The baggage that was sent is received, and counts as open if it has no items. -/
theorem received_sentHeaders (hb : b.IsWritable) :
    (ofHeaders (sentHeaders h b)).received = { b with frozen := !b.items.isEmpty } := by
  have hr := Baggage.ofHeader_text hb
  rw [received, get?_sentHeaders.2]
  split
  · rename_i ht
    have hempty : Baggage.ofHeader "" = .empty := by decide
    rw [Option.map_none, Option.getD_none, ← hr, ht, hempty]
  · rw [Option.map_some, Option.getD_some, hr]

end Carrier

/-! ## Injection -/

namespace Context
variable {s : Supply} {c c' : Context}

theorem gives_fixSpanId {id : SpanId} (h : c.fixSpanId.Gives s (id, c')) :
    c' = { c with spanId := some id } ∧ (c.spanId = some id ∨ c.spanId = none ∧ id.IsWire) := by
  unfold fixSpanId at h
  split at h
  · rename_i hid
    cases gives_pure.1 h
    exact ⟨by rw [← hid], .inl hid⟩
  · rename_i hid
    obtain ⟨_, hf, h⟩ := gives_bind h
    cases gives_pure.1 h
    exact ⟨rfl, .inr ⟨hid, isWire_of_freshSpanId hf⟩⟩

theorem gives_traceHeader {h : TraceHeader} (hg : c.traceHeader.Gives s (h, c')) :
    ∃ traceId spanId, (c.traceId = some traceId ∨ c.traceId = none ∧ traceId.IsWire) ∧
      (c.spanId = some spanId ∨ c.spanId = none ∧ spanId.IsWire) ∧
      c' = { c with traceId := some traceId, spanId := some spanId } ∧ h = ⟨traceId, spanId, c.parentSampled⟩ := by
  obtain ⟨⟨traceId, c1⟩, htrace, hg⟩ := gives_bind hg
  obtain ⟨⟨spanId, c2⟩, hspan, hg⟩ := gives_bind hg
  obtain ⟨rfl, hid⟩ := gives_fixTraceId htrace
  obtain ⟨rfl, hid'⟩ := gives_fixSpanId hspan
  cases gives_pure.1 hg
  exact ⟨traceId, spanId, hid, hid', rfl, rfl⟩

theorem gives_inject {carrier carrier' : Carrier} (h : (c.inject true carrier).Gives s (carrier', c')) :
    ∃ traceId spanId, (c.traceId = some traceId ∨ c.traceId = none ∧ traceId.IsWire) ∧
      (c.spanId = some spanId ∨ c.spanId = none ∧ spanId.IsWire) ∧
      c' = { c with traceId := some traceId, spanId := some spanId } ∧
      carrier' = (sentHeaders ⟨traceId, spanId, c.parentSampled⟩ c.baggage).foldl (fun k e => k.set e.1 e.2)
        carrier := by
  obtain ⟨⟨header, c1⟩, hheader, h⟩ := gives_bind h
  obtain ⟨traceId, spanId, hid, hid', rfl, rfl⟩ := gives_traceHeader hheader
  cases gives_pure.1 h
  refine ⟨traceId, spanId, hid, hid', rfl, ?_⟩
  unfold sentHeaders
  have hsame : baggage { c with traceId := some traceId, spanId := some spanId } = c.baggage := rfl
  simp only [hsame]
  split <;> rfl

theorem items_baggage (c : Context) : c.baggage.items = c.items.getD .empty := rfl

theorem isWritable_baggage (h : ∀ items, c.items = some items → items.get? "" = none) : c.baggage.IsWritable := by
  refine ⟨?_, Baggage.isForeignText_empty⟩
  rw [items_baggage]
  cases hi : c.items with
  | none => rfl
  | some items => exact h items hi

theorem returns_traceHeader (c : Context) : c.traceHeader.Returns s := by
  refine returns_bind (returns_fixTraceId c) fun fixed _ => ?_
  exact returns_bind (returns_fixSpanId fixed.2) fun _ _ => returns_pure _

theorem returns_inject (c : Context) (carrier : Carrier) : (c.inject true carrier).Returns s :=
  returns_bind (returns_traceHeader c) fun _ _ => returns_pure _

end Context

end TraceRelay
