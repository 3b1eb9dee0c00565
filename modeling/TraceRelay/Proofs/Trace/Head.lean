import TraceRelay.Proofs.Client
import TraceRelay.Proofs.Transaction

/-!
# What the head of a trace sends

Open baggage is filled in from the transaction, so it holds the random value that was decided with
unless it held an unusable one before (`head_sends_rand_iff`).
-/

namespace TraceRelay

open Run

variable {c : Client} {o : StartOptions} {t : Transaction} {s : Supply}

/-- The head of a trace sends the random value it decided with exactly if the baggage it started from
held a usable one, or none at all. -/
theorem head_sends_rand_iff (h : (c.start o).Gives s t) (hopen : ∀ b, o.baggage = some b → b.frozen = false) :
    t.sentBaggage.sampleRand? = some t.rand ↔
      ∀ text, o.items.get? ItemKey.sampleRand = some text → (fraction? text).isSome := by
  obtain ⟨traceId, spanId, -, -, rfl⟩ := Client.gives_start h
  generalize ht : c.transaction o traceId spanId = t
  have hbaggage : t.baggage = o.baggage := by rw [← ht]; rfl
  have hrand : t.rand = (incomingRand? o.items).getD (quantize (derive traceId.text)) := by
    rw [← o.incomingRand?_eq, ← ht]; rfl
  have hf : (t.baggage.getD .empty).frozen = false := by
    rw [hbaggage]
    cases hb : o.baggage with
    | none => rfl
    | some b => exact hopen b hb
  have hsent : t.sentBaggage.sampleRand? =
      fraction? ((o.items.get? ItemKey.sampleRand).getD (trimmedRandText t.rand)) := by
    rw [Baggage.sampleRand?, Transaction.get?_sampleRand_of_open hf, Option.bind_some, hbaggage]
    rfl
  rw [hsent]
  unfold incomingRand? at hrand
  cases hget : o.items.get? ItemKey.sampleRand with
  | none =>
    -- the written form of the derived value is filled in
    rw [hget, Option.bind_none, Option.getD_none] at hrand
    rw [Option.getD_none, hrand, fraction?_trimmedRandText]
    simp
  | some text =>
    rw [hget, Option.bind_some] at hrand
    rw [Option.getD_some]
    cases hv : fraction? text with
    | none => simp [hv]
    | some v =>
      rw [hrand, hv, Option.getD_some]
      simp [hv]

theorem head_sends_derived_rand : ∃ t, (Client.plain.start ⟨"root", some .zeros, none, none,
      some (.ofItems (.ofList [("release", "1.0")]))⟩).Gives .counting t ∧
    t.sentBaggage.sampleRand? = some t.rand := by
  have h := Client.plain.start_gives
    (o := ⟨"root", some .zeros, none, none, some (.ofItems (.ofList [("release", "1.0")]))⟩) rfl .counting
  have hopen : ∀ b, some (Baggage.ofItems (.ofList [("release", "1.0")])) = some b → b.frozen = false := by
    rintro b ⟨⟩
    rfl
  exact ⟨_, h, (head_sends_rand_iff h hopen).2 fun _ hrand => nomatch hrand⟩

theorem head_keeps_unusable_rand : ∃ t, (Client.plain.start ⟨"root", some .zeros, none, none,
      some (.ofItems (.ofList [("sample_rand", "1.5")]))⟩).Gives .counting t ∧
    t.sentBaggage.sampleRand? ≠ some t.rand := by
  obtain ⟨t, ht, hs⟩ := gives_of_run (fun t : Transaction => t.sentBaggage.sampleRand?) (b := none)
    (r := Client.plain.start ⟨"root", some .zeros, none, none, some (.ofItems (.ofList [("sample_rand", "1.5")]))⟩)
    (s := .counting) (by decide +kernel)
  exact ⟨t, ht, by rw [hs]; exact fun h => nomatch h⟩

end TraceRelay
