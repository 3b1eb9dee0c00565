import TraceRelay.Proofs.Baggage
import TraceRelay.Proofs.Baggage.Malformed
import TraceRelay.Proofs.Sampling.Text

/-!
# A rate survives its text

The text of a rate has its shortest digits in positional notation (`isPositional_rateText`); `.0` stands at its end
if these have no point (`text_rate_eq_append`). Baggage is read member by member, and third-party members are
written last (`Baggage.get?_ofHeader_text`). So the rate that was filled in is read back from what was written
(`rate_survives_its_text`).
-/

namespace TraceRelay

open Binary64

def IsPositional (negative : Bool) (text : String) : Prop :=
  ∃ ds ps : List Char, text.toList = signText negative ++ (ds ++ '.' :: ps) ∧ ds ≠ [] ∧ ps ≠ [] ∧
    (∀ c ∈ ds, c.isDigit = true) ∧ ∀ c ∈ ps, c.isDigit = true

theorem toList_rateText (x : Binary64) : (rateText x).toList = x.text .rate := String.toList_ofList

theorem isPositional_rateText (x : Finite) : IsPositional x.negative (rateText (.finite x)) := by
  rw [IsPositional, toList_rateText, text_rate_eq]
  unfold Layout.positional
  split
  · exact ⟨_, ['0'], rfl, Nat.toDigits_ne_nil, List.cons_ne_nil _ _, fun _ => isDigit_of_mem_toDigits, by simp⟩
  · have hplaces : 0 < (-(x.shortest true).2).toNat := by omega
    obtain ⟨hdigits, hlen, -⟩ := places_spec (x.shortest true).1 hplaces
    refine ⟨_, _, rfl, Nat.toDigits_ne_nil, fun h => ?_, fun _ => isDigit_of_mem_toDigits, hdigits⟩
    rw [h, List.length_nil] at hlen
    omega

theorem positional_true_eq (n : Nat) (e : Int) : Layout.positional true n e =
    Layout.positional false n e ++ if '.' ∈ Layout.positional false n e then [] else ['.', '0'] := by
  unfold Layout.positional
  split
  · have hno : '.' ∉ Nat.toDigits 10 (n * 10 ^ e.toNat) := fun h =>
      absurd (isDigit_of_mem_toDigits h) (by decide)
    simp [hno]
  · have hyes : '.' ∈ pointed n (-e).toNat := List.mem_append_right _ List.mem_cons_self
    rw [if_pos hyes, List.append_nil]

theorem text_rate_eq_append (x : Finite) : (finite x).text .rate =
    (finite x).text .message ++ if '.' ∈ (finite x).text .message then [] else ['.', '0'] := by
  have hmessage : (finite x).text .message =
      signText x.negative ++ Layout.positional false (x.shortest true).1 (x.shortest true).2 :=
    congrArg (signText x.negative ++ ·) (if_pos (.inr ⟨rfl, rfl⟩))
  have hsign : '.' ∉ signText x.negative := by cases x.negative <;> decide
  rw [text_rate_eq, positional_true_eq, hmessage, List.append_assoc]
  simp [hsign]

theorem isMalformed_itemChars {item : String × String} (hk : item.1 = "") : IsMalformed (Baggage.itemChars item) := by
  have hkey : ∀ c ∈ itemMark ++ percentEncode item.1.toList, IsWire c := fun c hc =>
    (List.mem_append.1 hc).elim wire_of_mem_itemMark wire_of_mem_percentEncode
  have hdecode : percentDecode? (percentEncode item.1.toList) = some "" := by
    rw [percentDecode?_percentEncode, String.ofList_toList, hk]
  exact .faulty (fun h => (hkey _ h).2.1 rfl) (.emptyKey (trim_wire hkey) hdecode)

theorem Member.item?_itemChars (item : String × String) :
    item? (Baggage.itemChars item) = if item.1 = "" then none else some item := by
  split
  · rename_i hk
    obtain ⟨e, he⟩ := read_of_isMalformed (isMalformed_itemChars hk)
    rw [item?, he]
  · rename_i hk
    exact item?_eq_some_iff.2 (read_itemChars hk)

namespace Baggage

theorem itemMembers_itemsText (b : Baggage) : itemMembers b.itemsText = (b.items.erase "").entries := by
  rw [itemMembers, memberTexts_itemsText, List.filterMap_map]
  show _ = b.items.entries.filter fun e => e.1 ≠ ""
  rw [← List.filterMap_eq_filter]
  refine List.filterMap_congr fun item _ => ?_
  rw [Function.comp_apply, Member.item?_itemChars]
  by_cases hk : item.1 = "" <;> simp [hk, Option.guard]

theorem items_ofHeader_itemsText (b : Baggage) : (ofHeader b.itemsText).items = b.items.erase "" := by
  rw [items_ofHeader, itemMembers_itemsText, Dict.ofList_entries]

/-- An item that third-party text holds is read after those of the baggage itself, and goes before them. -/
theorem get?_ofHeader_text (b : Baggage) (k : String) : (ofHeader b.text).items.get? k =
    ((ofHeader b.foreign).items.get? k).or ((b.items.erase "").get? k) := by
  rw [items_ofHeader, items_ofHeader, text, itemMembers_joinMembers, itemMembers_itemsText, Dict.ofList,
    List.foldl_append, get?_foldl_insert_eq]
  show Option.or _ ((Dict.ofList (b.items.erase "").entries).get? k) = _
  rw [Dict.ofList_entries]

theorem items_ofHeader_foreign (header : String) : (ofHeader (ofHeader header).foreign).items = .empty := by
  have hnone : itemMembers (ofHeader header).foreign = [] := by
    rw [itemMembers, memberTexts_foreign_ofHeader]
    exact List.filterMap_eq_nil_iff.2 fun m hm => item?_of_isForeignMember (List.mem_filter.1 hm).2
  rw [items_ofHeader, hnone]
  rfl

end Baggage

/-! ## Rates that are filled in -/

namespace Baggage
variable {b : Baggage} {s : SamplingState} {r : Binary64}

theorem get?_sampleRate_populate (hopen : b.frozen = false) (hnone : b.items.get? ItemKey.sampleRate = none)
    (hrate : s.rate = some r) : (b.populate s).items.get? ItemKey.sampleRate = some (rateText r) := by
  rw [get?_populate hopen, hnone, hrate]
  rfl

end Baggage

/-- Every finite number is written as digits around a point and read back as itself, the negative zero too; the
point and a zero are added to the shortest digits if these have none. A rate that open baggage takes in is read
back from its written items, and from its whole text unless the third-party text has an item of that name put
into it: what was read as members of third parties holds none. -/
theorem rate_survives_its_text :
    (∀ x : Finite, IsPositional x.negative (rateText (.finite x)) ∧
      (rateText (.finite x)).toList =
        (finite x).text .message ++ (if '.' ∈ (finite x).text .message then [] else ['.', '0']) ∧
      ofText? (rateText (.finite x)).toList = some (.finite x)) ∧
    ∀ (r : Binary64) (b : Baggage) (s : SamplingState), r.isRate = true → s.rate = some r →
      b.frozen = false → b.items.get? ItemKey.sampleRate = none →
      (Baggage.ofHeader (b.populate s).itemsText).sampleRate? = some r ∧
      (Baggage.ofHeader (b.populate s).text).sampleRate? =
        ((Baggage.ofHeader b.foreign).items.get? ItemKey.sampleRate).elim (some r) rate? ∧
      ∀ header, b.foreign = (Baggage.ofHeader header).foreign →
        (Baggage.ofHeader (b.populate s).text).sampleRate? = some r := by
  refine ⟨fun x => ⟨isPositional_rateText x, ?_, ?_⟩, fun r b s hr hrate hopen hnone => ?_⟩
  · rw [toList_rateText, text_rate_eq_append]
  · rw [toList_rateText, ofText?_text_rate]
  · have hread : ((b.populate s).items.erase "").get? ItemKey.sampleRate = some (rateText r) := by
      rw [Dict.get?_erase, if_neg (by decide), Baggage.get?_sampleRate_populate hopen hnone hrate]
    have htext : (Baggage.ofHeader (b.populate s).text).sampleRate? =
        ((Baggage.ofHeader b.foreign).items.get? ItemKey.sampleRate).elim (some r) rate? := by
      rw [Baggage.sampleRate?, Baggage.get?_ofHeader_text, Baggage.foreign_populate, hread]
      cases (Baggage.ofHeader b.foreign).items.get? ItemKey.sampleRate with
      | none => exact rate?_rateText hr
      | some text => rfl
    refine ⟨?_, htext, fun header hforeign => ?_⟩
    · rw [Baggage.sampleRate?, Baggage.items_ofHeader_itemsText, hread]
      exact rate?_rateText hr
    · rw [htext, hforeign, Baggage.items_ofHeader_foreign]
      rfl

theorem small_rate_is_read_back :
    rateText (.ofDecimal false 1 (-7)) = "0.0000001" ∧
    (Baggage.ofHeader (Baggage.populate ⟨.ofList [("release", "1")], (Baggage.ofHeader Baggage.vendorHeader).foreign,
      false⟩ ⟨.ofNumber 0, some (.ofDecimal false 1 (-7)), some false, zero⟩).text).sampleRate? =
        some (.ofDecimal false 1 (-7)) := by
  refine ⟨by decide +kernel, ?_⟩
  exact (rate_survives_its_text.2 _ _ _ (by decide +kernel) rfl rfl (by decide +kernel)).2.2 Baggage.vendorHeader rfl

end TraceRelay
