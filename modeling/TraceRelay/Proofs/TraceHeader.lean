import Mathlib.Data.List.DropRight
import TraceRelay.TraceHeader

/-!
# The trace header is read back from its text

A header whose ids have their full width in lower case digits is read back as it is
(`decode_encode`); only such headers are ever read (`hasWireIds_of_decode`), and fresh ids are such
ids. The texts that are read are exactly those of the grammar (`decode_grammar`).
-/

namespace TraceRelay

def TraceId.IsWire (id : TraceId) : Prop := isLowerHexOfWidth 32 id.text.toList = true

def SpanId.IsWire (id : SpanId) : Prop := isLowerHexOfWidth 16 id.text.toList = true

theorem isHexOfWidth_of_lower {width : Nat} {text : List Char} (h : isLowerHexOfWidth width text = true) :
    isHexOfWidth width text = true := by
  obtain ⟨hlength, hall⟩ := Bool.and_eq_true_iff.1 h
  exact Bool.and_eq_true_iff.2
    ⟨hlength, List.all_eq_true.2 fun c hc => Bool.or_eq_true_iff.2 (.inl (List.all_eq_true.1 hall c hc))⟩

theorem TraceId.IsWire.isValid {id : TraceId} (h : id.IsWire) : id.isValid = true := isHexOfWidth_of_lower h

theorem SpanId.IsWire.isValid {id : SpanId} (h : id.IsWire) : id.isValid = true := isHexOfWidth_of_lower h

theorem isLowerHexDigit_of_mem_toDigits {n : Nat} {c : Char} (h : c ∈ Nat.toDigits 16 n) :
    isLowerHexDigit c = true := by
  have hdigit : ∀ d < 16, isLowerHexDigit (Nat.digitChar d) = true := by decide
  induction n using Nat.strongRecOn with
  | ind n ih =>
    rcases Nat.lt_or_ge n 16 with hn | hn
    · rw [Nat.toDigits_of_lt_base hn, List.mem_singleton] at h
      exact h ▸ hdigit n hn
    · rw [Nat.toDigits_of_base_le (by decide) hn, List.mem_append, List.mem_singleton] at h
      rcases h with h | h
      · exact ih (n / 16) (by omega) h
      · exact h ▸ hdigit _ (Nat.mod_lt _ (by decide))

theorem isLowerHexOfWidth_hexOfWidth {width : Nat} (hw : 0 < width) (n : Nat) :
    isLowerHexOfWidth width (hexOfWidth width n).toList = true := by
  have hlen : (Nat.toDigits 16 (n % 16 ^ width)).length ≤ width :=
    (Nat.length_toDigits_le_iff (by decide) hw).2 (Nat.mod_lt _ (Nat.pow_pos (by decide)))
  unfold isLowerHexOfWidth hexOfWidth
  rw [String.toList_ofList, Bool.and_eq_true, beq_iff_eq, List.length_leftpad, List.all_eq_true]
  refine ⟨by omega, fun c hc => ?_⟩
  rcases List.mem_append.1 hc with hc | hc
  · rw [List.eq_of_mem_replicate hc]; decide
  · exact isLowerHexDigit_of_mem_toDigits hc

theorem TraceId.isWire_ofNumber (n : Nat) : (TraceId.ofNumber n).IsWire :=
  isLowerHexOfWidth_hexOfWidth (by decide) n

theorem SpanId.isWire_ofNumber (n : Nat) : (SpanId.ofNumber n).IsWire :=
  isLowerHexOfWidth_hexOfWidth (by decide) n

namespace TraceHeader

structure HasWireIds (h : TraceHeader) : Prop where
  traceId : h.traceId.IsWire
  spanId : h.spanId.IsWire

/-! ## The round trip -/

theorem isGap_of_isHexDigit {c : Char} (h : isHexDigit c = true) : isGap c = false := by
  refine Bool.eq_false_iff.2 fun hg => ?_
  rcases Bool.or_eq_true_iff.1 hg with hg | hg <;> rw [beq_iff_eq.1 hg] at h <;> cases h

theorem trimGaps_append {before core after : List Char} (hgaps : ∀ c ∈ before ++ after, isGap c = true)
    (hcore : ∀ c ∈ core, isGap c = false) (hne : core ≠ []) : trimGaps (before ++ core ++ after) = core := by
  have hb : ∀ c ∈ before, isGap c = true := fun c hc => hgaps c (List.mem_append_left _ hc)
  have ha : ∀ c ∈ after.reverse, isGap c = true := fun c hc =>
    hgaps c (List.mem_append_right _ (List.mem_reverse.1 hc))
  -- the first character of `core` stops the cut from the left, its last one that from the right
  have hstart : (core ++ after).dropWhile isGap = core ++ after := by
    obtain ⟨c, rest, rfl⟩ := List.exists_cons_of_ne_nil hne
    exact List.dropWhile_cons_of_neg (by simp [hcore c List.mem_cons_self])
  have hend : core.reverse.dropWhile isGap = core.reverse := by
    obtain ⟨c, rest, hc⟩ := List.exists_cons_of_ne_nil (List.reverse_ne_nil_iff.2 hne)
    have hmem : c ∈ core := List.mem_reverse.1 (by rw [hc]; exact List.mem_cons_self)
    rw [hc]
    exact List.dropWhile_cons_of_neg (by simp [hcore c hmem])
  rw [trimGaps, List.append_assoc, List.dropWhile_append_of_pos hb, hstart, List.reverse_append,
    List.dropWhile_append_of_pos ha, hend, List.reverse_reverse]

theorem flag?_flagText (sampled : Option Bool) : flag? (flagText sampled) = some sampled := by
  rcases sampled with _ | _ | _ <;> rfl

section
variable {h : TraceHeader} (ht : h.traceId.isValid = true) (hs : h.spanId.isValid = true)
include ht hs

theorem isGap_of_mem_chars {c : Char} (hc : c ∈ h.chars) : isGap c = false := by
  have hflag : ∀ sampled, (flagText sampled).all (fun c => !isGap c) = true := by
    rintro (_ | _ | _) <;> rfl
  simp only [chars, List.mem_append, List.mem_cons] at hc
  rcases hc with hc | rfl | hc | hc
  · exact isGap_of_isHexDigit (List.all_eq_true.1 (Bool.and_eq_true_iff.1 ht).2 c hc)
  · rfl
  · exact isGap_of_isHexDigit (List.all_eq_true.1 (Bool.and_eq_true_iff.1 hs).2 c hc)
  · simpa using List.all_eq_true.1 (hflag _) c hc

theorem trimGaps_chars (before after : List Char) (hgaps : ∀ c ∈ before ++ after, isGap c = true) :
    trimGaps (before ++ h.chars ++ after) = h.chars :=
  trimGaps_append hgaps (fun _ => isGap_of_mem_chars ht hs) (by simp [chars])

theorem ofChars?_chars : ofChars? h.chars =
    if isLowerHexOfWidth 32 h.traceId.text.toList && isLowerHexOfWidth 16 h.spanId.text.toList then some h else none := by
  have htl : h.traceId.text.toList.length = 32 := beq_iff_eq.1 (Bool.and_eq_true_iff.1 ht).1
  have hsl : h.spanId.text.toList.length = 16 := beq_iff_eq.1 (Bool.and_eq_true_iff.1 hs).1
  unfold ofChars? chars
  simp only [List.take_left' htl, List.drop_left' htl, List.take_left' hsl, List.drop_left' hsl, flag?_flagText,
    Option.map_some, String.ofList_toList]

/-- A header with valid ids is read back if both are in lower case, and else not read at all. -/
theorem decode_encode_of_isValid : decode h.encode =
    if isLowerHexOfWidth 32 h.traceId.text.toList && isLowerHexOfWidth 16 h.spanId.text.toList then .ok h
    else .error .traceHeader := by
  have htrim : trimGaps h.chars = h.chars := by
    simpa using trimGaps_chars ht hs [] [] fun _ hc => absurd hc List.not_mem_nil
  rw [decode, encode, String.toList_ofList, htrim, ofChars?_chars ht hs]
  cases isLowerHexOfWidth 32 h.traceId.text.toList && isLowerHexOfWidth 16 h.spanId.text.toList <;> rfl

end

theorem flagText_of_flag? {text : List Char} {sampled : Option Bool} (h : flag? text = some sampled) :
    flagText sampled = text := by
  unfold flag? at h
  split at h <;> cases h <;> rfl

theorem of_ofChars? {text : List Char} {h : TraceHeader} (ht : ofChars? text = some h) :
    h.HasWireIds ∧ h.chars = text := by
  unfold ofChars? at ht
  simp only at ht
  split at ht
  · rename_i rest hrest
    split at ht
    · rename_i hw
      obtain ⟨hw1, hw2⟩ := Bool.and_eq_true_iff.1 hw
      obtain ⟨sampled, hs, rfl⟩ := Option.map_eq_some_iff.1 ht
      refine ⟨⟨by rwa [TraceId.IsWire, String.toList_ofList], by rwa [SpanId.IsWire, String.toList_ofList]⟩, ?_⟩
      simp only [chars, String.toList_ofList, flagText_of_flag? hs, List.take_append_drop, ← hrest]
    · cases ht
  · cases ht

theorem decode_encode {h : TraceHeader} (hw : h.HasWireIds) : decode h.encode = .ok h := by
  rw [decode_encode_of_isValid hw.traceId.isValid hw.spanId.isValid,
    if_pos (Bool.and_eq_true_iff.2 ⟨hw.traceId, hw.spanId⟩)]

theorem of_decode {text : String} {h : TraceHeader} (ht : decode text = .ok h) :
    h.HasWireIds ∧ h.chars = trimGaps text.toList := by
  unfold decode at ht
  split at ht
  · rename_i hh
    cases ht
    exact of_ofChars? hh
  · cases ht

theorem hasWireIds_of_decode {text : String} {h : TraceHeader} (ht : decode text = .ok h) : h.HasWireIds :=
  (of_decode ht).1

end TraceHeader

/-! ## The grammar -/

def hexDigits : List Char := "0123456789abcdef".toList

def IsHexText (width : Nat) (text : String) : Prop := text.length = width ∧ ∀ c ∈ text.toList, c ∈ hexDigits

theorem isLowerHexDigit_iff {c : Char} : isLowerHexDigit c = true ↔ c ∈ hexDigits := by
  have hascii : ∀ n < 128, isLowerHexDigit (Char.ofNat n) = true → Char.ofNat n ∈ hexDigits := by decide +kernel
  have hall : hexDigits.all isLowerHexDigit = true := by decide +kernel
  constructor
  · intro h
    have hlt : c.toNat < 128 := by
      simp only [isLowerHexDigit, Char.isDigit, Bool.or_eq_true, Bool.and_eq_true, decide_eq_true_eq, Char.le_def,
        UInt32.le_iff_toNat_le] at h
      have hc : c.toNat = c.val.toNat := rfl
      have hnine : '9'.val.toNat = 57 := rfl
      have hf : 'f'.val.toNat = 102 := rfl
      grind
    rw [← Char.ofNat_toNat c] at h ⊢
    exact hascii _ hlt h
  · intro h
    exact List.all_eq_true.1 hall c h

theorem isLowerHexOfWidth_iff {width : Nat} {text : String} :
    isLowerHexOfWidth width text.toList = true ↔ IsHexText width text := by
  simp only [isLowerHexOfWidth, IsHexText, Bool.and_eq_true, beq_iff_eq, List.all_eq_true, isLowerHexDigit_iff,
    String.length_toList]

namespace TraceHeader

theorem hasWireIds_iff {h : TraceHeader} :
    h.HasWireIds ↔ IsHexText 32 h.traceId.text ∧ IsHexText 16 h.spanId.text := by
  rw [← isLowerHexOfWidth_iff, ← isLowerHexOfWidth_iff]
  exact ⟨fun hw => ⟨hw.traceId, hw.spanId⟩, fun hw => ⟨hw.1, hw.2⟩⟩

theorem isGap_iff {c : Char} : isGap c = true ↔ c = ' ' ∨ c = '\t' := by
  simp only [isGap, Bool.or_eq_true, beq_iff_eq]

theorem exists_gaps (text : List Char) : ∃ before after : List Char, (∀ c ∈ before ++ after, isGap c = true) ∧
    text = before ++ trimGaps text ++ after := by
  refine ⟨text.takeWhile isGap, (text.dropWhile isGap).rtakeWhile isGap, fun c hc => ?_, ?_⟩
  · rcases List.mem_append.1 hc with hc | hc
    · exact List.mem_takeWhile_imp hc
    · exact List.mem_rtakeWhile_imp hc
  · have hend : trimGaps text ++ (text.dropWhile isGap).rtakeWhile isGap = text.dropWhile isGap :=
      List.rdropWhile_append_rtakeWhile
    rw [List.append_assoc, hend, List.takeWhile_append_dropWhile]

/-- A header with its ids in full, and spaces and tabs around it. -/
structure Written (text : String) (h : TraceHeader) : Prop where
  traceId : IsHexText 32 h.traceId.text
  spanId : IsHexText 16 h.spanId.text
  line : ∃ before after : String, (∀ c ∈ before.toList ++ after.toList, c = ' ' ∨ c = '\t') ∧
    text = before ++ h.encode ++ after

theorem written_of_decode {text : String} {h : TraceHeader} (ht : decode text = .ok h) : Written text h := by
  obtain ⟨hids, hchars⟩ := of_decode ht
  obtain ⟨htrace, hspan⟩ := hasWireIds_iff.1 hids
  obtain ⟨before, after, hgaps, htext⟩ := exists_gaps text.toList
  refine ⟨htrace, hspan, String.ofList before, String.ofList after, fun c hc => isGap_iff.1 (hgaps c ?_), ?_⟩
  · simpa using hc
  · rw [← String.toList_inj, htext, ← hchars]
    simp [encode]

theorem decode_of_written {text : String} {h : TraceHeader} (hw : Written text h) : decode text = .ok h := by
  have hids : h.HasWireIds := hasWireIds_iff.2 ⟨hw.traceId, hw.spanId⟩
  obtain ⟨before, after, hgaps, rfl⟩ := hw.line
  rw [decode, String.toList_append, String.toList_append, encode, String.toList_ofList,
    trimGaps_chars hids.traceId.isValid hids.spanId.isValid _ _ fun c hc => isGap_iff.2 (hgaps c hc),
    ofChars?_chars hids.traceId.isValid hids.spanId.isValid, if_pos (Bool.and_eq_true_iff.2 ⟨hids.traceId, hids.spanId⟩)]

/-- The texts of the grammar are read, and no others. So a header is read back from its own written
form exactly if its ids are in full, no text is the written form of two headers, and what was read is
written again as the text without the gaps around it. -/
theorem decode_grammar (text : String) (h : TraceHeader) :
    (decode text = .ok h ↔ Written text h) ∧
      (decode h.encode = .ok h ↔ IsHexText 32 h.traceId.text ∧ IsHexText 16 h.spanId.text) ∧
      (∀ h', Written text h → Written text h' → h' = h) ∧
      (decode text = .ok h → h.encode = String.ofList (trimGaps text.toList)) := by
  refine ⟨⟨written_of_decode, decode_of_written⟩, ?_, fun h' hw hw' => ?_, fun ht => ?_⟩
  · rw [← hasWireIds_iff]
    exact ⟨hasWireIds_of_decode, decode_encode⟩
  · have heq := (decode_of_written hw').symm.trans (decode_of_written hw)
    cases heq
    rfl
  · rw [encode, (of_decode ht).2]

def sampledLine : TraceHeader := ⟨⟨"09e04486820349518ac7b5d2adbf6ba5"⟩, ⟨"9cf635fa5b870b3a"⟩, some true⟩

theorem gaps_are_cut : Written "\t 09e04486820349518ac7b5d2adbf6ba5-9cf635fa5b870b3a-1 \t " sampledLine ∧
    decode sampledLine.encode = .ok sampledLine := by
  have h := decode_grammar "\t 09e04486820349518ac7b5d2adbf6ba5-9cf635fa5b870b3a-1 \t " sampledLine
  have hw := h.1.1 (by decide +kernel)
  exact ⟨hw, h.2.1.2 ⟨hw.traceId, hw.spanId⟩⟩

example : decode (sampledLine.encode ++ "\n") = .error .traceHeader := by decide +kernel

end TraceHeader

end TraceRelay
