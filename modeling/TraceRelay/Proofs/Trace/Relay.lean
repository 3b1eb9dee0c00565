import TraceRelay.Proofs.Trace.Inherited
import TraceRelay.Proofs.Transaction

/-!
# A trace through many services

A trace begins with a transaction that is started or continued, and goes on as each service continues
it from the headers of the one before. What is carried along (`Carried`) is established where the
trace begins and kept by every hop, so the id and the random value never change
(`relayed_rand_eq`), and where no sampler interferes neither does the decision
(`relayed_sampled_eq`).
-/

namespace TraceRelay

open Binary64 Run

/-- A service continues the trace of a transaction from the headers that were sent for it. -/
def Hop (c : Client) (t u : Transaction) : Prop :=
  t.propagates = true ∧ ∃ s name, (c.continueTrace (.ofHeaders t.headers) name).Gives s u

variable (admits : Client → Prop)

/-- How a trace begins: with a transaction that is started without baggage and with an id that can be
sent, or with whatever a carrier brings. -/
inductive Origin : Transaction → Prop where
  | started {c : Client} {o : StartOptions} {s : Supply} {t : Transaction} (hb : o.baggage = none)
    (hid : ∀ id, o.traceId = some id → id.IsWire) (ht : (c.start o).Gives s t) : Origin t
  | continued {c : Client} {carrier : Carrier} {name : String} {s : Supply} {t : Transaction} (hc : admits c)
    (ht : (c.continueTrace carrier name).Gives s t) : Origin t

inductive Relayed (root : Transaction) : Transaction → Prop where
  | root : Relayed root root
  | hop {c : Client} {t u : Transaction} (ht : Relayed root t) (hc : admits c) (hu : Hop c t u) : Relayed root u

/-! ## What is carried along -/

/-- The headers of a transaction can be read, and settle the random value of the trace. -/
structure Carried (t : Transaction) : Prop where
  traceId : t.traceId.IsWire
  spanId : t.spanId.IsWire
  baggage : t.sentBaggage.IsWritable
  rand : RandKept t.traceId.text t.sentBaggage.items t.rand
  rate : ∀ r, t.rate = some r → r.isRate = true
  sampled : t.sampled = t.rate.any (shouldSample t.rand)

theorem randKept_sentBaggage {t : Transaction} (hu : Usable (t.baggage.getD .empty).items)
    (h : RandKept t.traceId.text (t.baggage.getD .empty).items t.rand) :
    RandKept t.traceId.text t.sentBaggage.items t.rand := by
  cases hf : (t.baggage.getD .empty).frozen with
  | true => rw [Transaction.sentBaggage_of_frozen hf]; exact h
  | false =>
    refine .held ?_
    rw [incomingRand?, Transaction.get?_sampleRand_of_open hf, Option.bind_some]
    cases hget : (t.baggage.getD .empty).items.get? ItemKey.sampleRand with
    | none =>
      rw [Option.getD_none]
      have hd := h.getD
      rw [incomingRand?, hget, Option.bind_none, Option.getD_none] at hd
      rw [← hd, fraction?_trimmedRandText]
    | some text =>
      rw [Option.getD_some]
      obtain ⟨v, hv⟩ := Option.isSome_iff_exists.1 (hu text hget)
      have hd := h.getD
      rw [incomingRand?, hget, Option.bind_some, hv, Option.getD_some] at hd
      rw [hv, hd]

section
variable {c : Client} {o : StartOptions} {traceId : TraceId} {spanId : SpanId}

theorem carried_transaction (ht : traceId.IsWire) (hs : spanId.IsWire) (hb : (o.baggage.getD .empty).IsWritable)
    (hu : Usable o.items) (hr : RandKept traceId.text o.items (o.rand traceId)) :
    Carried (c.transaction o traceId spanId) where
  traceId := ht
  spanId := hs
  baggage := Transaction.isWritable_sentBaggage hb
  rand := randKept_sentBaggage hu hr
  rate := fun _ h => (Option.filter_eq_some_iff.1 h).2
  sampled := rfl

theorem carried_continued (c : Client) (name : String) {limit : Nat} {carrier : Carrier} {context : Context}
    {rand : Binary64} (hx : Context.Extracted limit carrier context traceId) (hs : spanId.IsWire)
    (hr : RandKept traceId.text (context.items.getD carrier.received.items) rand) :
    let t := c.transaction (Client.continuedOptions context carrier.received traceId name) traceId spanId
    Carried t ∧ t.rand = rand := by
  have hitems := Client.items_continuedOptions context carrier.received traceId name
  have hbaggage := Client.isWritable_continuedBaggage hx
  have husable : Usable (context.items.getD carrier.received.items) := by
    obtain ⟨-, he⟩ | ⟨text, hfill⟩ := hx.items_cases
    · rw [he]; exact usable_empty
    · exact usable_of_backfill hfill
  have hrand : (Client.continuedOptions context carrier.received traceId name).rand traceId = rand := by
    rw [StartOptions.rand, StartOptions.incomingRand?_eq, hitems]
    exact hr.getD
  exact ⟨carried_transaction hx.isWire hs hbaggage (hitems ▸ husable) (by rw [hitems, hrand]; exact hr), hrand⟩

end

variable {admits}

theorem carried_of_origin {t : Transaction} (h : Origin admits t) : Carried t := by
  cases h with
  | @started c o s t hb hid ht =>
    obtain ⟨traceId, spanId, hid', hs, rfl⟩ := Client.gives_start ht
    have hw : traceId.IsWire := hid'.elim (hid traceId) (·.2)
    have hitems : o.items = .empty := by rw [StartOptions.items, hb]; rfl
    refine carried_transaction hw hs (by rw [hb]; exact ⟨rfl, Baggage.isForeignText_empty⟩) ?_ ?_
    · rw [hitems]; exact usable_empty
    · rw [StartOptions.rand, o.incomingRand?_eq, hitems, incomingRand?_empty, Option.getD_none]
      exact randKept_empty _
  | @continued c carrier name s t hc ht =>
    obtain ⟨context, traceId, spanId, hx, hs, rfl⟩ := Client.gives_continueTrace ht
    obtain ⟨-, he⟩ | ⟨text, hfill⟩ := hx.items_cases
    · exact (carried_continued c name hx hs (he ▸ randKept_empty _)).1
    · exact (carried_continued c name hx hs (randKept_of_backfill hfill)).1

/-! ## Hops -/

theorem hop_cases {c : Client} {t u : Transaction} (ht : Carried t) (hu : Hop c t u) : ∃ limit context name spanId,
    Context.Extracted limit (.ofHeaders t.headers) context t.traceId ∧ spanId.IsWire ∧
      context.parentSpanId = some t.spanId ∧ context.parentSampled = some t.sampled ∧
      u = c.transaction (Client.continuedOptions context (Carrier.ofHeaders t.headers).received t.traceId name)
        t.traceId spanId := by
  obtain ⟨hp, s, name, hu⟩ := hu
  obtain ⟨context, traceId, spanId, hx, hs, rfl⟩ := Client.gives_continueTrace hu
  have hh := Carrier.traceHeader?_headers hp ⟨ht.traceId, ht.spanId⟩
  have hid : traceId = t.traceId := hx.ofHeader _ hh
  subst hid
  exact ⟨_, context, name, spanId, hx, hs, by rw [hx.parentSpanId, hh]; rfl, by rw [hx.parentSampled, hh]; rfl, rfl⟩

theorem carried_hop {c : Client} {t u : Transaction} (ht : Carried t) (hu : Hop c t u) :
    Carried u ∧ u.traceId = t.traceId ∧ u.parentSpanId = some t.spanId ∧ u.rand = t.rand := by
  have hreceived := Carrier.received_headers hu.1 ht.baggage
  obtain ⟨limit, context, name, spanId, hx, hs, hparent, -, rfl⟩ := hop_cases ht hu
  -- the value is settled in the sent items, and a backfill leaves it so
  have hkept : RandKept t.traceId.text (context.items.getD (Carrier.ofHeaders t.headers).received.items) t.rand := by
    have hr := ht.rand
    rw [← congrArg Baggage.items hreceived] at hr
    obtain ⟨he, hitems⟩ | ⟨text, hfill⟩ := hx.items_cases
    · rw [hitems]; rwa [he] at hr
    · exact hr.backfill hfill
  obtain ⟨hc, hrand⟩ := carried_continued c name hx hs hkept
  exact ⟨hc, rfl, hparent, hrand⟩

theorem carried_of_relayed {root t : Transaction} (h0 : Origin admits root) (ht : Relayed admits root t) :
    Carried t ∧ t.traceId = root.traceId ∧ t.rand = root.rand := by
  induction ht with
  | root => exact ⟨carried_of_origin h0, rfl, rfl⟩
  | hop _ _ hu ih =>
    -- `Carried` is what every hop keeps
    obtain ⟨hc, hid, hrand⟩ := ih
    obtain ⟨hc', hid', -, hrand'⟩ := carried_hop hc hu
    exact ⟨hc', hid'.trans hid, hrand'.trans hrand⟩

/-- All services of a trace have its id and its random value, each names the span that called it, and
with one rate they make one decision. -/
theorem relayed_rand_eq {root t : Transaction} (h0 : Origin admits root) (ht : Relayed admits root t) :
    t.traceId = root.traceId ∧ t.rand = root.rand ∧ (∀ c u, Hop c t u → u.parentSpanId = some t.spanId) ∧
      ∀ u, Relayed admits root u → u.rate = t.rate → u.sampled = t.sampled := by
  obtain ⟨hc, hid, hrand⟩ := carried_of_relayed h0 ht
  refine ⟨hid, hrand, fun c u hu => (carried_hop hc hu).2.2.1, fun u hu hrate => ?_⟩
  obtain ⟨hc', -, hrand'⟩ := carried_of_relayed h0 hu
  rw [hc'.sampled, hc.sampled, hrate, hrand', hrand]

def sampledHead : Transaction :=
  Client.plain.transaction ⟨"root", some .zeros, none, some true, none⟩ .zeros (.ofNumber 0)

theorem origin_sampledHead : Origin admits sampledHead :=
  .started (o := ⟨"root", some .zeros, none, some true, none⟩) rfl
    (fun id h => by cases h; exact TraceId.isWire_ofNumber 0) (Client.plain.start_gives rfl .counting)

theorem exists_hop_sampledHead : ∃ u, Hop .plain sampledHead u := by
  obtain ⟨u, hu, -⟩ := gives_of_run (fun u : Transaction => u.name) (b := "next") (s := .counting)
    (r := Client.plain.continueTrace (.ofHeaders sampledHead.headers) "next") (by decide +kernel)
  exact ⟨u, rfl, .counting, "next", hu⟩

theorem next_service_rand_eq : ∃ u, Hop .plain sampledHead u ∧ u.traceId = sampledHead.traceId ∧
    u.rand = sampledHead.rand := by
  obtain ⟨u, hu⟩ := exists_hop_sampledHead
  have h : Relayed (fun _ => True) sampledHead u := .hop .root trivial hu
  have h := relayed_rand_eq origin_sampledHead h
  exact ⟨u, hu, h.1, h.2.1⟩

/-! ## One decision -/

def Decided (t : Transaction) : Prop := ∀ v r, incomingRand? t.sentBaggage.items = some v →
  incomingRate? t.sentBaggage.items = some r → t.sampled = shouldSample v r

theorem decided_of_open {t : Transaction} (ht : Carried t) (hf : (t.baggage.getD .empty).frozen = false)
    (hn : (t.baggage.getD .empty).items.get? ItemKey.sampleRate = none) : Decided t := by
  intro v r hv hr
  have hrand := ht.rand.getD
  rw [hv, Option.getD_some] at hrand
  rw [incomingRate?, Transaction.get?_sampleRate_of_open hf, hn, Option.none_or] at hr
  cases hrate : t.rate with
  | none => rw [hrate] at hr; cases hr
  | some r' =>
    rw [hrate, Option.map_some, Option.bind_some, rate?_rateText (ht.rate r' hrate), Option.some_inj] at hr
    rw [ht.sampled, hrate, Option.any_some, hrand, hr]

theorem decided_of_frozen {c : Client} {o : StartOptions} {traceId : TraceId} {spanId : SpanId}
    (hc : c.sampler = none) (hf : (o.baggage.getD .empty).frozen = true) :
    Decided (c.transaction o traceId spanId) := by
  intro v r hv hr
  have hsent : (c.transaction o traceId spanId).sentBaggage = o.baggage.getD .empty :=
    Transaction.sentBaggage_of_frozen hf
  rw [hsent] at hv hr
  exact Client.sampled_of_head hc (o.incomingRand?_eq.trans hv) (o.incomingRate?_eq.trans hr)

theorem decided_of_origin {t : Transaction} (h : Origin (fun c => c.sampler = none) t) : Decided t := by
  have hcarried := carried_of_origin h
  cases h with
  | @started c o s t hb hid ht =>
    obtain ⟨traceId, spanId, -, -, rfl⟩ := Client.gives_start ht
    have hbaggage : (c.transaction o traceId spanId).baggage = none := hb
    exact decided_of_open hcarried (by rw [hbaggage]; rfl) (by rw [hbaggage]; rfl)
  | @continued c carrier name s t hc ht =>
    obtain ⟨context, traceId, spanId, hx, hs, rfl⟩ := Client.gives_continueTrace ht
    cases hf : (Client.continuedBaggage context carrier.received).frozen with
    | true => exact decided_of_frozen hc hf
    | false =>
      refine decided_of_open hcarried hf ?_
      show (Client.continuedBaggage context carrier.received).items.get? _ = none
      rw [Client.continuedBaggage_eq] at hf ⊢
      have hempty := Context.isEmpty_of_frozen_received (Bool.or_eq_false_iff.1 hf).1
      obtain ⟨-, he⟩ | ⟨text, hfill⟩ := hx.items_cases
      · rw [he]; rfl
      · rw [get?_backfill_of_ne hfill sampleRate_ne_sampleRand]
        exact Dict.get?_of_isEmpty hempty _

theorem decisionOf_kept {limit : Nat} {traceId : String} {items items' : Items} {text : Option String}
    {rand : Binary64} {f : Bool} (hk : RandKept traceId items rand)
    (hd : ∀ v r, incomingRand? items = some v → incomingRate? items = some r → f = shouldSample v r)
    (h : backfill? limit traceId (some f) items = some (text, items')) : decisionOf items' f = f := by
  cases hv : incomingRand? items with
  | none =>
    -- without a value the rate is at an end of its range, and loses no decision
    refine (decisionOf_backfill hv h).2 ?_
    rintro ⟨-, r, hr, hlost⟩
    cases hk with
    | held hh => rw [hv] at hh; cases hh
    | derived _ _ he => exact not_losesDecision_of_isExtreme (he r hr) hlost
  | some v =>
    obtain ⟨-, rfl⟩ | ⟨hn, -⟩ | ⟨hn, -⟩ := backfill?_cases h
    · cases hr : incomingRate? items' with
      | none => exact decisionOf_of_none (.inr hr) f
      | some r => rw [decisionOf_of_some hv hr, ← hd v r hv hr]
    · rw [hv] at hn; cases hn
    · rw [hv] at hn; cases hn

theorem decided_hop {c : Client} {t u : Transaction} (ht : Carried t) (hd : Decided t) (hc : c.sampler = none)
    (hu : Hop c t u) : Decided u ∧ u.sampled = t.sampled := by
  have hreceived := congrArg Baggage.items (Carrier.received_headers hu.1 ht.baggage)
  obtain ⟨limit, context, name, spanId, hx, -, hparent, hflag, rfl⟩ := hop_cases ht hu
  have hf : (Client.continuedBaggage context (Carrier.ofHeaders t.headers).received).frozen = true := by
    rw [Client.continuedBaggage_eq, hparent, Option.isSome_some, Bool.or_true]
  refine ⟨decided_of_frozen hc hf, ?_⟩
  rw [Client.sampled_eq_decisionOf hc (f := t.sampled) hflag, Client.items_continuedOptions]
  obtain ⟨-, hitems⟩ | ⟨text, hfill⟩ := hx.items_cases
  · rw [hitems, decisionOf_of_none (.inl incomingRand?_empty)]
  · rw [hflag] at hfill
    exact decisionOf_kept (by rw [hreceived]; exact ht.rand) (by rw [hreceived]; exact hd) hfill

/-- Where no sampler interferes, a trace has one decision. -/
theorem relayed_sampled_eq {root t : Transaction} (h0 : Origin (fun c => c.sampler = none) root)
    (ht : Relayed (fun c => c.sampler = none) root t) : t.sampled = root.sampled := by
  have h : Decided t ∧ t.sampled = root.sampled := by
    induction ht with
    | root => exact ⟨decided_of_origin h0, rfl⟩
    | hop ht hc hu ih =>
      obtain ⟨hd', hs'⟩ := decided_hop (carried_of_relayed h0 ht).1 ih.1 hc hu
      exact ⟨hd', hs'.trans ih.2⟩
  exact h.2

theorem next_service_sampled_eq : ∃ u, Hop .plain sampledHead u ∧ u.sampled = sampledHead.sampled := by
  obtain ⟨u, hu⟩ := exists_hop_sampledHead
  exact ⟨u, hu, relayed_sampled_eq origin_sampledHead (.hop .root rfl hu)⟩

end TraceRelay
