import TraceRelay.Proofs.Baggage.Malformed
import TraceRelay.Proofs.Carrier
import TraceRelay.Proofs.Client
import TraceRelay.Proofs.Sending

/-!
# Malformed input has no effect

A carrier is tidied up by taking out a trace header that is none and malformed members of its baggage
(`Tidied`). It then still says the same (`sameContent_of_tidied`), so a service that reads it comes to
the same context and to the same transaction (`malformed_input_has_no_effect`).
-/

namespace TraceRelay

open Run

/-! ## Tidied carriers -/

/-- Some trace headers that are none are taken out of the entries of a carrier, and some malformed members
out of its baggage, which stays there. -/
inductive Tidied : List (String × Json) → List (String × Json) → Prop where
  | nil : Tidied [] []
  | keep (e : String × Json) {entries rest : List (String × Json)} (h : Tidied entries rest) :
    Tidied (e :: entries) (e :: rest)
  | dropHeader {key : String} {value : Json} {entries rest : List (String × Json)}
    (hk : equalIgnoringCase key traceHeaderName = true)
    (hv : ∀ text, value = .text text → ∀ h, ¬TraceHeader.Written text h) (h : Tidied entries rest) :
    Tidied ((key, value) :: entries) rest
  | thin {key header thinner : String} {entries rest : List (String × Json)}
    (hk : equalIgnoringCase key baggageHeaderName = true) (ht : IsThinned header thinner)
    (h : Tidied entries rest) : Tidied ((key, .text header) :: entries) ((key, .text thinner) :: rest)

variable {entries rest : List (String × Json)}

theorem keys_of_tidied (h : Tidied entries rest) : (rest.map (·.1)).Sublist (entries.map (·.1)) := by
  induction h with
  | nil => exact List.Sublist.refl _
  | keep e _ ih => exact ih.cons_cons e.1
  | dropHeader _ _ _ ih => exact ih.cons _
  | thin _ _ _ ih => exact ih.cons_cons _

theorem distinctKeys_of_tidied (h : Tidied entries rest) (hd : DistinctKeys entries) : DistinctKeys rest := by
  have hkeys : (entries.map (·.1)).Pairwise fun a b => equalIgnoringCase a b = false := List.pairwise_map.2 hd
  exact List.pairwise_map.1 (hkeys.sublist (keys_of_tidied h))

theorem bind_valueOf?_of_tidied {γ : Type} (key : String) (read : Json → Option γ)
    (hdrop : equalIgnoringCase traceHeaderName key = true → ∀ value,
      (∀ text, value = .text text → ∀ h, ¬TraceHeader.Written text h) → read value = none)
    (hthin : equalIgnoringCase baggageHeaderName key = true → ∀ header thinner, IsThinned header thinner →
      read (.text thinner) = read (.text header))
    (h : Tidied entries rest) (hd : DistinctKeys entries) :
    (valueOf? rest key).bind read = (valueOf? entries key).bind read := by
  induction h with
  | nil => rfl
  | keep e h ih =>
    rw [valueOf?_cons, valueOf?_cons]
    by_cases hc : equalIgnoringCase e.1 key = true
    · rw [if_pos hc, if_pos hc]
    · rw [if_neg hc, if_neg hc, ih (List.pairwise_cons.1 hd).2]
  | @dropHeader k value entries rest hk hv h ih =>
    obtain ⟨hother, hd⟩ := List.pairwise_cons.1 hd
    rw [ih hd, valueOf?_cons]
    by_cases hc : equalIgnoringCase k key = true
    · -- no other entry stands for the key, so nothing is read before or after
      have hnone : valueOf? entries key = none := by
        refine valueOf?_eq_none fun e he => Bool.eq_false_iff.2 fun hc' => ?_
        have hne := hother e he
        rw [equalIgnoringCase_of_right hc hc'] at hne
        cases hne
      have hname : equalIgnoringCase traceHeaderName key = true := equalIgnoringCase_of_left hk hc
      rw [if_pos hc, hnone, Option.bind_some, hdrop hname value hv]
      rfl
    · rw [if_neg hc]
  | @thin k header thinner entries rest hk ht h ih =>
    rw [valueOf?_cons, valueOf?_cons]
    by_cases hc : equalIgnoringCase k key = true
    · rw [if_pos hc, if_pos hc]
      exact hthin (equalIgnoringCase_of_left hk hc) header thinner ht
    · rw [if_neg hc, if_neg hc, ih (List.pairwise_cons.1 hd).2]

theorem decode_of_not_written {text : String} (h : ∀ header, ¬TraceHeader.Written text header) :
    (TraceHeader.decode text).toOption = none := by
  cases hd : TraceHeader.decode text with
  | ok header => exact absurd (TraceHeader.written_of_decode hd) (h header)
  | error e => rfl

theorem sameContent_of_tidied {k k' : Carrier} (hd : DistinctKeys k.entries) (h : Tidied k.entries k'.entries) :
    k.SameContent k' := by
  have hd' := distinctKeys_of_tidied h hd
  have htrace := Carrier.lower_traceHeaderName
  have hbaggage := Carrier.lower_baggageHeaderName
  constructor
  · have hread := bind_valueOf?_of_tidied traceHeaderName
      (fun value => value.text?.bind fun text => (TraceHeader.decode text).toOption) ?_ ?_ h hd
    · rw [Carrier.traceHeader?, Carrier.traceHeader?, Carrier.get?_of_distinct hd htrace,
        Carrier.get?_of_distinct hd' htrace, Option.bind_assoc, Option.bind_assoc]
      exact hread.symm
    · rintro - value hv
      cases value with
      | text text => exact decode_of_not_written (hv text rfl)
      | _ => rfl
    · intro hc
      exact absurd hc (by decide +kernel)
  · have hread := bind_valueOf?_of_tidied baggageHeaderName (fun value => value.text?.map Baggage.ofHeader) ?_ ?_ h hd
    · rw [Carrier.get?_of_distinct hd hbaggage, Carrier.get?_of_distinct hd' hbaggage, Option.map_bind,
        Option.map_bind]
      exact hread.symm
    · intro hc
      exact absurd hc (by decide +kernel)
    · rintro - header thinner ht
      exact congrArg some (Baggage.ofHeader_of_isThinned ht)

/-- What is malformed has no effect, with whatever ids a service makes up: it reads the same context from a
carrier and continues its trace with the same transaction, or does neither, if the carrier is tidied up
first. -/
theorem malformed_input_has_no_effect {k k' : Carrier} (hd : DistinctKeys k.entries)
    (h : Tidied k.entries k'.entries) : Agree (Context.extract k) (Context.extract k') ∧
      ∀ (c : Client) (name : String), Agree (c.continueTrace k name) (c.continueTrace k' name) := by
  have hsame := sameContent_of_tidied hd h
  exact ⟨Context.agree_extract hsame, fun c name => c.agree_continueTrace name hsame⟩

def untidyBaggage : String := "a,,=b, sentry-=x,sentry-sample_rand=0.25,sentry-%ff=1,v=1,sentry-x=%zz%ff"

theorem isThinned_untidyBaggage : IsThinned untidyBaggage "sentry-sample_rand=0.25,v=1" := by
  have hmalformed : ∀ part ∈ ["a", "", "=b", " sentry-=x", "sentry-%ff=1", "sentry-x=%zz%ff"],
      (Member.read (trim part.toList)).toOption = none := by decide +kernel
  simp only [List.forall_mem_cons, ← Member.isMalformed_iff] at hmalformed
  obtain ⟨ha, hempty, hkey, hitem, hname, hvalue, -⟩ := hmalformed
  have hparts : untidyBaggage.toList.splitOn ',' =
      ["a", "", "=b", " sentry-=x", "sentry-sample_rand=0.25", "sentry-%ff=1", "v=1", "sentry-x=%zz%ff"].map
        String.toList := by decide +kernel
  refine ⟨["sentry-sample_rand=0.25".toList, "v=1".toList], ?_, by decide +kernel⟩
  rw [hparts]
  exact .drop ha (.drop hempty (.drop hkey (.drop hitem (.keep _ (.drop hname (.keep _ (.drop hvalue .nil)))))))

def Carrier.untidyRequest : Carrier :=
  .json (.object [("BAGGAGE", .text untidyBaggage),
    ("Sentry-Trace", .text "0000000000000000000000000000000A-0000000000000001-1"), ("host", .null)])

def Carrier.tidyRequest : Carrier :=
  .json (.object [("BAGGAGE", .text "sentry-sample_rand=0.25,v=1"), ("host", .null)])

theorem untidy_request_is_tolerated : DistinctKeys Carrier.untidyRequest.entries ∧
    Tidied Carrier.untidyRequest.entries Carrier.tidyRequest.entries ∧
    (Context.extract .untidyRequest).outcome .counting .start =
      some (⟨some .zeros, none, none, none, some (.ofList [("sample_rand", "0.25")])⟩, 1, 0) := by
  have hd : DistinctKeys Carrier.untidyRequest.entries := by
    unfold DistinctKeys
    decide +kernel
  have htidied : Tidied Carrier.untidyRequest.entries Carrier.tidyRequest.entries := by
    refine .thin (by decide +kernel) isThinned_untidyBaggage (.dropHeader (by decide +kernel) ?_ (.keep _ .nil))
    rintro text ht header hw
    cases ht
    have hnone : (TraceHeader.decode "0000000000000000000000000000000A-0000000000000001-1").toOption = none := by
      decide +kernel
    rw [TraceHeader.decode_of_written hw] at hnone
    cases hnone
  refine ⟨hd, htidied, ?_⟩
  rw [(malformed_input_has_no_effect hd htidied).1 .counting .start .start rfl rfl]
  decide +kernel

end TraceRelay
