import TraceRelay.Proofs.Sending
import TraceRelay.Transaction

/-!
# What a transaction sends and a receiver gets

Open baggage is filled in before it is sent, frozen baggage is sent as it is. From the headers of a
transaction its trace header and its baggage are read back (`traceHeader?_headers`,
`received_headers`).
-/

namespace TraceRelay

namespace Transaction
variable {t : Transaction}

theorem sentBaggage_of_frozen (hf : (t.baggage.getD .empty).frozen = true) :
    t.sentBaggage = t.baggage.getD .empty := by
  rw [sentBaggage, if_pos hf]

theorem sentBaggage_of_open (hf : (t.baggage.getD .empty).frozen = false) :
    t.sentBaggage = ((t.baggage.getD .empty).populate t.samplingState).freeze := by
  rw [sentBaggage, hf, if_neg Bool.false_ne_true]

theorem get?_sampleRand_of_open (hf : (t.baggage.getD .empty).frozen = false) :
    t.sentBaggage.items.get? ItemKey.sampleRand =
      some (((t.baggage.getD .empty).items.get? ItemKey.sampleRand).getD (trimmedRandText t.rand)) := by
  rw [sentBaggage_of_open hf]
  exact (Baggage.get?_populate hf _).trans Option.or_some

theorem get?_sampleRate_of_open (hf : (t.baggage.getD .empty).frozen = false) :
    t.sentBaggage.items.get? ItemKey.sampleRate =
      ((t.baggage.getD .empty).items.get? ItemKey.sampleRate).or (t.rate.map rateText) := by
  rw [sentBaggage_of_open hf]
  exact Baggage.get?_populate hf _

theorem get?_traceId_of_open (hf : (t.baggage.getD .empty).frozen = false) :
    t.sentBaggage.items.get? ItemKey.traceId =
      some (((t.baggage.getD .empty).items.get? ItemKey.traceId).getD t.traceId.text) := by
  rw [sentBaggage_of_open hf]
  exact (Baggage.get?_populate hf _).trans Option.or_some

theorem isWritable_sentBaggage (h : (t.baggage.getD .empty).IsWritable) : t.sentBaggage.IsWritable := by
  unfold sentBaggage
  dsimp only
  split
  · exact h
  · exact ⟨h.populate.noEmptyKey, h.populate.foreign⟩

theorem foreign_sentBaggage : t.sentBaggage.foreign = (t.baggage.getD .empty).foreign := by
  unfold sentBaggage
  dsimp only
  split
  · rfl
  · exact Baggage.foreign_populate

theorem frozen_sentBaggage : t.sentBaggage.frozen = true := by
  by_cases hf : (t.baggage.getD .empty).frozen = true
  · rw [sentBaggage_of_frozen hf, hf]
  · rw [sentBaggage_of_open (Bool.eq_false_iff.2 hf)]
    rfl

theorem headers_of_propagates (ht : t.propagates = true) : t.headers = sentHeaders t.traceHeader t.sentBaggage := by
  rw [headers, if_pos ht]
  rfl

end Transaction

namespace Carrier

theorem traceHeader?_headers {t : Transaction} (ht : t.propagates = true) (hw : t.traceHeader.HasWireIds) :
    (ofHeaders t.headers).traceHeader? = some t.traceHeader := by
  rw [t.headers_of_propagates ht, traceHeader?_sentHeaders hw]

theorem received_headers {t : Transaction} (ht : t.propagates = true) (hb : t.sentBaggage.IsWritable) :
    (ofHeaders t.headers).received = { t.sentBaggage with frozen := !t.sentBaggage.items.isEmpty } := by
  rw [t.headers_of_propagates ht, received_sentHeaders hb]

end Carrier

end TraceRelay
