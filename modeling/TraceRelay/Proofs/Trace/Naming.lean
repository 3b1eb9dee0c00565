import TraceRelay.Proofs.Trace.Forwarding

/-!
# The trace that both headers name

A service takes the id of a trace from the trace header, and the items from the baggage header, of which
one may be the id of the trace once more. Where the two headers that came name one trace, so do those that
any service of the trace sends (`headers_name_one_trace`). Baggage that comes without a trace header is
forwarded as it is, under a new id (`lone_baggage_is_forwarded`).
-/

namespace TraceRelay

open Run

/-- The id of a trace among the items, if there is one, is that of the trace header. -/
def Carrier.NamesOneTrace (carrier : Carrier) : Prop :=
  ∀ id, carrier.received.items.get? ItemKey.traceId = some id → ∃ h, carrier.traceHeader? = some h ∧ h.traceId.text = id

def Carrier.IsContinued (carrier : Carrier) : Prop :=
  carrier.traceHeader?.isSome ∨ carrier.received.items.isEmpty = false

instance (carrier : Carrier) : Decidable carrier.IsContinued := inferInstanceAs (Decidable (_ ∨ _))

section
variable {c : Client} {limit : Nat} {carrier : Carrier} {context : Context} {traceId : TraceId} {spanId : SpanId}
  {name : String}

theorem frozen_continued (hx : Context.Extracted limit carrier context traceId) (h : ¬carrier.IsContinued) :
    (Client.continuedBaggage context carrier.received).frozen = false := by
  rw [Carrier.IsContinued, not_or, Bool.not_eq_false] at h
  rw [Client.continuedBaggage_eq, hx.parentSpanId, Option.isSome_map, Context.frozen_received, h.2,
    Bool.eq_false_iff.2 h.1]
  rfl

theorem get?_traceId_continued (hx : Context.Extracted limit carrier context traceId) :
    (c.transaction (Client.continuedOptions context carrier.received traceId name) traceId
      spanId).sentBaggage.items.get? ItemKey.traceId =
      if carrier.IsContinued then carrier.received.items.get? ItemKey.traceId else some traceId.text := by
  split
  · rename_i h
    exact (keptItems_continued c spanId name hx h).get? _ (by decide)
  · rename_i h
    have hempty : carrier.received.items.isEmpty = true := by
      simpa using (not_or.1 h).2
    have hnone : (Client.continuedBaggage context carrier.received).items.get? ItemKey.traceId = none := by
      rw [Client.continuedBaggage_eq, hx.keptItems.get? _ (by decide), Dict.get?_of_isEmpty hempty]
    refine (Transaction.get?_traceId_of_open ?_).trans ?_
    · exact frozen_continued hx h
    show some (((Client.continuedBaggage context carrier.received).items.get? ItemKey.traceId).getD traceId.text) = _
    rw [hnone, Option.getD_none]

end

/-! ## Both headers -/

variable {c : Client} {carrier : Carrier} {name : String} {s : Supply} {root t : Transaction}

theorem sent_of_continued (ht : (c.continueTrace carrier name).Gives s t) (hp : t.propagates = true) :
    (Carrier.ofHeaders t.headers).traceHeader? = some t.traceHeader ∧
      (∀ h, carrier.traceHeader? = some h → t.traceId = h.traceId) ∧
      (Carrier.ofHeaders t.headers).received.items.get? ItemKey.traceId =
        if carrier.IsContinued then carrier.received.items.get? ItemKey.traceId else some t.traceId.text := by
  have horigin : Origin (fun _ => True) t := .continued trivial ht
  have hcarried := carried_of_origin horigin
  refine ⟨Carrier.traceHeader?_headers hp ⟨hcarried.traceId, hcarried.spanId⟩, ?_⟩
  rw [Carrier.received_headers hp hcarried.baggage]
  obtain ⟨context, traceId, spanId, hx, -, rfl⟩ := Client.gives_continueTrace ht
  exact ⟨hx.ofHeader, get?_traceId_continued hx⟩

theorem namesOneTrace_of_continued (h : carrier.NamesOneTrace) (ht : (c.continueTrace carrier name).Gives s t)
    (hp : t.propagates = true) : (Carrier.ofHeaders t.headers).NamesOneTrace := by
  obtain ⟨hheader, hid, hitem⟩ := sent_of_continued ht hp
  intro id hget
  refine ⟨t.traceHeader, hheader, ?_⟩
  rw [hitem] at hget
  split at hget
  · -- the id that is forwarded came with a trace header, and that one was continued
    obtain ⟨h', hh', rfl⟩ := h id hget
    exact congrArg TraceId.text (hid h' hh')
  · exact Option.some_inj.1 hget

theorem namesOneTrace_of_relayed (h : carrier.NamesOneTrace) (h0 : (c.continueTrace carrier name).Gives s root)
    (ht : Relayed (fun _ => True) root t) (hp : t.propagates = true) : (Carrier.ofHeaders t.headers).NamesOneTrace := by
  induction ht with
  | root => exact namesOneTrace_of_continued h h0 hp
  | hop _ _ hu ih =>
    obtain ⟨hp', s', name', hu⟩ := hu
    exact namesOneTrace_of_continued (ih hp') hu hp

/-- A service that continues a trace sends a trace header that names it, with the id that came, if any. Its
baggage has the trace id that came, or its own if the service is the head of the trace. So where the headers
that came name one trace, all services of the trace send headers that name one trace. -/
theorem headers_name_one_trace (hp : c.settings.propagate = true) (h0 : (c.continueTrace carrier name).Gives s root) :
    ((Carrier.ofHeaders root.headers).traceHeader? = some root.traceHeader ∧
      (∀ h, carrier.traceHeader? = some h → root.traceId = h.traceId) ∧
      (Carrier.ofHeaders root.headers).received.items.get? ItemKey.traceId =
        if carrier.IsContinued then carrier.received.items.get? ItemKey.traceId else some root.traceId.text) ∧
    (carrier.NamesOneTrace → (Carrier.ofHeaders root.headers).NamesOneTrace ∧
      ∀ t, Relayed (fun _ => True) root t → t.propagates = true → (Carrier.ofHeaders t.headers).NamesOneTrace) := by
  have hp' : root.propagates = true := by
    obtain ⟨context, traceId, spanId, -, -, rfl⟩ := Client.gives_continueTrace h0
    exact hp
  exact ⟨sent_of_continued h0 hp', fun h =>
    ⟨namesOneTrace_of_continued h h0 hp', fun t ht => namesOneTrace_of_relayed h h0 ht⟩⟩

def Carrier.namedRequest : Carrier :=
  .ofHeaders [("Sentry-Trace", "771a43a4192642f0b136d5159a501700-0000000000000001"),
    (baggageHeaderName, "sentry-sample_rand=0.5,sentry-trace%5Fid=771a43a4192642f0b136d5159a501700")]

theorem named_request_is_continued : ∃ t, (Client.plain.continueTrace .namedRequest "GET /").Gives .counting t ∧
    (Carrier.ofHeaders t.headers).received.items.get? ItemKey.traceId = some "771a43a4192642f0b136d5159a501700" ∧
    (Carrier.ofHeaders t.headers).NamesOneTrace := by
  obtain ⟨t, ht, -⟩ := gives_of_run (fun t : Transaction => t.name) (b := "GET /") (s := .counting)
    (r := Client.plain.continueTrace .namedRequest "GET /") (by decide +kernel)
  obtain ⟨⟨-, -, hitem⟩, hone⟩ := headers_name_one_trace rfl ht
  have hnamed : Carrier.namedRequest.NamesOneTrace := by
    intro id hid
    refine ⟨⟨⟨"771a43a4192642f0b136d5159a501700"⟩, .ofNumber 1, none⟩, by decide +kernel, ?_⟩
    exact Option.some_inj.1 (Eq.trans (by decide +kernel) hid)
  have hcontinued : Carrier.namedRequest.IsContinued := by decide +kernel
  rw [if_pos hcontinued] at hitem
  exact ⟨t, ht, hitem.trans (by decide +kernel), (hone hnamed).1⟩

def Carrier.loneBaggage : Carrier :=
  .ofHeaders [(baggageHeaderName, "sentry-sample_rand=0.5,sentry-trace_id=771a43a4192642f0b136d5159a501700")]

theorem lone_baggage_is_forwarded : Client.plain.settings.propagate = true ∧ Carrier.loneBaggage.traceHeader? = none ∧
    ∃ t, (Client.plain.continueTrace .loneBaggage "GET /").Gives .counting t ∧
      (Carrier.ofHeaders t.headers).traceHeader?.map (·.traceId) = some .zeros ∧
      (Carrier.ofHeaders t.headers).received.items.get? ItemKey.traceId = some "771a43a4192642f0b136d5159a501700" ∧
      ¬(Carrier.ofHeaders t.headers).NamesOneTrace := by
  obtain ⟨t, ht, h⟩ := gives_of_run (fun t : Transaction => ((Carrier.ofHeaders t.headers).traceHeader?.map (·.traceId),
      (Carrier.ofHeaders t.headers).received.items.get? ItemKey.traceId))
    (b := (some .zeros, some "771a43a4192642f0b136d5159a501700")) (s := .counting)
    (r := Client.plain.continueTrace .loneBaggage "GET /") (by decide +kernel)
  obtain ⟨hheader, hitem⟩ := Prod.mk.inj h
  refine ⟨rfl, by decide +kernel, t, ht, hheader, hitem, fun hone => ?_⟩
  obtain ⟨header, hh, hid⟩ := hone _ hitem
  rw [hh, Option.map_some, Option.some_inj] at hheader
  rw [hheader] at hid
  exact absurd hid (by decide +kernel)

end TraceRelay
