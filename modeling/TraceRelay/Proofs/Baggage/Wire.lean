import Mathlib.Data.List.Forall2
import TraceRelay.Proofs.Baggage

/-!
# Items stay in their members

Whatever keys and values hold, the items of baggage are written with few characters, none of them
blank or a control character (`printable_of_mem_itemsText`). At its commas the text falls into one
member for each item (`splitOn_itemsText`), and each percent sign starts a triple
(`onlyTriples_itemsText`).
-/

namespace TraceRelay

def OnlyTriples (text : List Char) : Prop :=
  ∀ before after, text = before ++ '%' :: after →
    ∃ high low rest, after = high :: low :: rest ∧ isHexDigit high = true ∧ isHexDigit low = true

theorem onlyTriples_of_not_mem {text : List Char} (h : '%' ∉ text) : OnlyTriples text := by
  intro before after he
  rw [he] at h
  exact absurd (List.mem_append_right _ List.mem_cons_self) h

theorem onlyTriples_triple {high low : Char} (hh : isHexDigit high = true) (hl : isHexDigit low = true) :
    OnlyTriples ['%', high, low] := by
  have hsign : isHexDigit '%' = false := by decide
  intro before after he
  match before, he with
  | [], he =>
    cases he
    exact ⟨high, low, [], rfl, hh, hl⟩
  | [_], he =>
    cases he
    exact absurd hh (Bool.eq_false_iff.1 hsign)
  | [_, _], he =>
    cases he
    exact absurd hl (Bool.eq_false_iff.1 hsign)
  | _ :: _ :: _ :: before, he =>
    have hlength := congrArg List.length he
    simp at hlength

theorem OnlyTriples.append {a b : List Char} (ha : OnlyTriples a) (hb : OnlyTriples b) : OnlyTriples (a ++ b) := by
  intro before after he
  rcases List.append_eq_append_iff.1 he with ⟨between, -, hb'⟩ | ⟨between, ha', hafter⟩
  · exact hb between after hb'
  · cases between with
    | nil => exact hb [] after hafter.symm
    | cons c between =>
      -- the sign is in the first text, and so are the digits
      cases hafter
      obtain ⟨high, low, rest, rfl, hh, hl⟩ := ha before between ha'
      exact ⟨high, low, rest ++ b, rfl, hh, hl⟩

theorem onlyTriples_flatMap {α : Type} {l : List α} {f : α → List Char} (h : ∀ a ∈ l, OnlyTriples (f a)) :
    OnlyTriples (l.flatMap f) := by
  induction l with
  | nil => exact onlyTriples_of_not_mem List.not_mem_nil
  | cons a l ih =>
    rw [List.flatMap_cons]
    exact (h a List.mem_cons_self).append (ih fun a' ha' => h a' (List.mem_cons_of_mem _ ha'))

theorem onlyTriples_joined {members : List (List Char)} (h : ∀ m ∈ members, OnlyTriples m) :
    OnlyTriples (joined members) := by
  induction members with
  | nil => exact onlyTriples_of_not_mem List.not_mem_nil
  | cons m rest ih =>
    have hm := h m List.mem_cons_self
    have hrest := ih fun m' hm' => h m' (List.mem_cons_of_mem _ hm')
    by_cases hne : rest = []
    · rwa [hne, joined_singleton]
    · have hcomma : OnlyTriples [','] := onlyTriples_of_not_mem (by decide)
      rw [joined_cons m hne]
      exact hm.append (hcomma.append hrest)

theorem onlyTriples_percentEncodeOctet (b : UInt8) : OnlyTriples (percentEncodeOctet b) := by
  have hdigit : ∀ n < 16, isHexDigit (upperHexDigit n) = true := by decide +kernel
  have hb := b.toNat_lt
  unfold percentEncodeOctet
  split
  · rename_i hp
    refine onlyTriples_of_not_mem fun h => ?_
    have hne : ∀ n < 128, isPlain (UInt8.ofNat n) = true → Char.ofNat n ≠ '%' := by decide +kernel
    exact hne _ (lt_of_isPlain hp).1 (by rwa [UInt8.ofNat_toNat]) (List.mem_singleton.1 h).symm
  · exact onlyTriples_triple (hdigit _ (by omega)) (hdigit _ (by omega))

theorem onlyTriples_percentEncode (text : List Char) : OnlyTriples (percentEncode text) :=
  onlyTriples_flatMap fun b _ => onlyTriples_percentEncodeOctet b

/-- One equals sign in it stands between what the key and the value are written as. -/
structure IsWrittenFor (entry : String × String) (member : List Char) : Prop where
  marked : itemMark <+: member
  oneEquals : member.count '=' = 1
  parts : ∃ key value, member = itemMark ++ key ++ '=' :: value ∧ percentDecode? key = some entry.1 ∧
    percentDecode? value = some entry.2

theorem isWrittenFor_itemChars (entry : String × String) : IsWrittenFor entry (Baggage.itemChars entry) where
  marked := ⟨_, (List.append_assoc ..).symm⟩
  oneEquals := by
    have hmark : '=' ∉ itemMark := by decide
    have hnot : ∀ text : String, '=' ∉ percentEncode text.toList := fun _ h => (wire_of_mem_percentEncode h).2.1 rfl
    rw [Baggage.itemChars, List.count_append, List.count_append, List.count_cons_self, List.count_eq_zero_of_not_mem hmark,
      List.count_eq_zero_of_not_mem (hnot _), List.count_eq_zero_of_not_mem (hnot _)]
  parts := ⟨_, _, rfl, by rw [percentDecode?_percentEncode, String.ofList_toList],
    by rw [percentDecode?_percentEncode, String.ofList_toList]⟩

theorem onlyTriples_itemChars (entry : String × String) : OnlyTriples (Baggage.itemChars entry) := by
  have hmark : OnlyTriples itemMark := onlyTriples_of_not_mem (by decide)
  have hequals : OnlyTriples ['='] := onlyTriples_of_not_mem (by decide)
  exact (hmark.append (onlyTriples_percentEncode _)).append (hequals.append (onlyTriples_percentEncode _))

/-! ## The text of all items -/

namespace Baggage
variable (b : Baggage)

theorem code_of_mem_itemsText {c : Char} (h : c ∈ b.itemsText.toList) : c = ',' ∨ c = '=' ∨ IsCode c := by
  rw [itemsText, String.toList_ofList] at h
  rcases mem_of_mem_joined h with h | ⟨m, hm, hc⟩
  · exact .inl h
  · obtain ⟨entry, -, rfl⟩ := List.mem_map.1 hm
    exact .inr (code_of_mem_itemChars hc)

theorem mem_itemsText {c : Char} (h : c ∈ b.itemsText.toList) : c.isAlphanum = true ∨ c ∈ "-_.~/%=,".toList := by
  have hsigns : "-_.~/%=,".toList = "-_.~/%".toList ++ ['=', ','] := by decide
  rcases code_of_mem_itemsText b h with rfl | rfl | h
  · exact .inr (by decide)
  · exact .inr (by decide)
  · rw [hsigns]
    exact h.imp_right (List.mem_append_left _)

theorem printable_of_mem_itemsText {c : Char} (h : c ∈ b.itemsText.toList) :
    isBlank c = false ∧ 0x20 < c.toNat ∧ c.toNat < 0x7f := by
  rcases code_of_mem_itemsText b h with rfl | rfl | h
  · decide
  · decide
  · exact ⟨h.isWire.2.2, h.printable⟩

theorem itemsText_eq_empty_iff : b.itemsText = "" ↔ b.items.isEmpty = true := by
  rw [Dict.isEmpty, List.isEmpty_iff]
  constructor
  · intro h
    have htexts := memberTexts_itemsText b
    rw [h] at htexts
    exact List.map_eq_nil_iff.1 htexts.symm
  · intro h
    rw [itemsText, h]
    rfl

theorem splitOn_itemsText (h : b.items.isEmpty = false) :
    b.itemsText.toList.splitOn ',' = b.items.entries.map itemChars := by
  have hne : b.items.entries.map itemChars ≠ [] := by
    rw [ne_eq, List.map_eq_nil_iff]
    exact List.isEmpty_eq_false_iff.1 h
  rw [itemsText, String.toList_ofList]
  refine List.splitOn_intercalate ',' (fun m hm => ?_) hne
  obtain ⟨entry, -, rfl⟩ := List.mem_map.1 hm
  exact (isMemberText_itemChars entry).noComma

theorem onlyTriples_itemsText : OnlyTriples b.itemsText.toList := by
  rw [itemsText, String.toList_ofList]
  refine onlyTriples_joined fun m hm => ?_
  obtain ⟨entry, -, rfl⟩ := List.mem_map.1 hm
  exact onlyTriples_itemChars entry

/-- Nothing that keys and values hold gets out of the member that is written for them. -/
theorem items_stay_in_their_members (b : Baggage) :
    (∀ c ∈ b.itemsText.toList, c.isAlphanum = true ∨ c ∈ "-_.~/%=,".toList) ∧
    (∀ c ∈ b.itemsText.toList, isBlank c = false ∧ 0x20 < c.toNat ∧ c.toNat < 0x7f) ∧
    (b.itemsText = "" ↔ b.items.isEmpty = true) ∧
    (b.items.isEmpty = false → b.items.entries.Pairwise (fun e e' => e.1 < e'.1) ∧
      List.Forall₂ IsWrittenFor b.items.entries (b.itemsText.toList.splitOn ',')) ∧
    OnlyTriples b.itemsText.toList := by
  refine ⟨fun c => mem_itemsText b, fun c => printable_of_mem_itemsText b, itemsText_eq_empty_iff b, fun h => ?_,
    onlyTriples_itemsText b⟩
  refine ⟨b.items.sorted, ?_⟩
  rw [splitOn_itemsText b h, List.forall₂_map_right_iff, List.forall₂_same]
  exact fun entry _ => isWrittenFor_itemChars entry

def forgedItems : Items :=
  .ofList [("", "=,"), ("a,sentry-b", "1"), ("k=v", "\r\nset-cookie: x=1"), ("é\x00", "%2c%"), ("sampled", " \t")]

theorem forgedItems_stay : (ofItems forgedItems).items.isEmpty = false ∧
    List.Forall₂ IsWrittenFor forgedItems.entries ((ofItems forgedItems).itemsText.toList.splitOn ',') := by
  have hne : (ofItems forgedItems).items.isEmpty = false := by decide +kernel
  exact ⟨hne, ((items_stay_in_their_members (ofItems forgedItems)).2.2.2.1 hne).2⟩

end Baggage

end TraceRelay
