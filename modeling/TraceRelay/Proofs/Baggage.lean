import TraceRelay.Proofs.Baggage.Members
import TraceRelay.Proofs.Dict

/-!
# Baggage is read back from its text

A header gives its items and its members of third parties, each in order (`items_ofHeader`,
`foreign_ofHeader`), and that can always be written again (`isWritable_ofHeader`). Baggage is read as
what it was written from (`ofHeader_text`). So reading undoes writing, whatever the items hold
(`ofHeader_undoes_text`).
-/

namespace TraceRelay

attribute [ext] Baggage

namespace Baggage

def AreForeign (members : List (List Char)) : Prop :=
  ∀ m ∈ members, IsMemberText m ∧ Member.read m = .ok (.foreign (String.ofList m))

def IsForeignText (text : String) : Prop :=
  ∃ members, AreForeign members ∧ text = String.ofList (joined members)

/-- What can be written and read back. -/
structure IsWritable (b : Baggage) : Prop where
  noEmptyKey : b.items.get? "" = none
  foreign : IsForeignText b.foreign

theorem isForeignText_empty : IsForeignText "" := ⟨[], fun _ h => absurd h List.not_mem_nil, rfl⟩

theorem items_foldl (texts : List (List Char)) (b : Baggage) :
    ((texts.map Member.read).foldl takeRead b).items =
      (texts.filterMap Member.item?).foldl (fun d e => d.insert e.1 e.2) b.items := by
  induction texts generalizing b with
  | nil => rfl
  | cons m texts ih =>
    rw [List.map_cons, List.foldl_cons, ih, List.filterMap_cons]
    rcases hr : Member.read m with e | ⟨key, value⟩ | t <;> simp only [Member.item?, hr] <;> rfl

theorem foreign_foldl {a texts : List (List Char)} (ha : ∀ m ∈ a, IsMemberText m) (h : ∀ m ∈ texts, IsMemberText m)
    {b : Baggage} (hb : b.foreign = String.ofList (joined a)) :
    ((texts.map Member.read).foldl takeRead b).foreign =
      String.ofList (joined (a ++ texts.filter isForeignMember)) := by
  induction texts generalizing a b with
  | nil => simpa using hb
  | cons m texts ih =>
    have hm := h m List.mem_cons_self
    have htexts : ∀ m' ∈ texts, IsMemberText m' := fun m' hm' => h m' (List.mem_cons_of_mem _ hm')
    rw [List.map_cons, List.foldl_cons]
    cases hf : isForeignMember m with
    | true =>
      have ham : ∀ m' ∈ a ++ [m], IsMemberText m' := fun m' hm' =>
        (List.mem_append.1 hm').elim (ha m') fun h' => List.mem_singleton.1 h' ▸ hm
      have hjoin := joinMembers_joined ha fun m' hm' => ham m' (List.mem_append_right _ hm')
      have hstep : (takeRead b (Member.read m)).foreign = String.ofList (joined (a ++ [m])) := by
        rw [Member.read_eq_foreign_iff.2 ⟨hf, rfl⟩, ← hjoin, joined_singleton, ← hb]
        rfl
      rw [ih ham htexts hstep, List.filter_cons_of_pos hf, List.append_assoc, List.singleton_append]
    | false =>
      have hstep : (takeRead b (Member.read m)).foreign = b.foreign := by
        rcases hr : Member.read m with e | ⟨key, value⟩ | t
        · rfl
        · rfl
        · rw [(Member.read_eq_foreign_iff.1 hr).1] at hf
          cases hf
      rw [ih ha htexts (hstep.trans hb), List.filter_cons_of_neg (by rw [hf]; exact Bool.false_ne_true)]

theorem frozen_foldl (ms : List (Except EntryError Member)) {b : Baggage} (hb : b.frozen = !b.items.isEmpty) :
    (ms.foldl takeRead b).frozen = !(ms.foldl takeRead b).items.isEmpty := by
  induction ms generalizing b with
  | nil => exact hb
  | cons m ms ih =>
    rw [List.foldl_cons]
    apply ih
    rcases m with e | ⟨key, value⟩ | t
    · exact hb
    · exact (congrArg (!·) (Dict.isEmpty_insert b.items key value)).symm
    · exact hb

theorem items_ofHeader (header : String) : (ofHeader header).items = .ofList (itemMembers header) :=
  items_foldl _ .empty

theorem foreign_ofHeader (header : String) :
    (ofHeader header).foreign = String.ofList (joined (foreignMembers header)) :=
  foreign_foldl (a := []) (b := .empty) (fun _ h => absurd h List.not_mem_nil) (fun _ => isMemberText_of_mem) rfl

theorem frozen_ofHeader (header : String) : (ofHeader header).frozen = !(ofHeader header).items.isEmpty :=
  frozen_foldl _ rfl

theorem memberTexts_foreign_ofHeader (header : String) :
    memberTexts (ofHeader header).foreign.toList = foreignMembers header := by
  rw [foreign_ofHeader, String.toList_ofList, memberTexts_joined fun _ => isMemberText_of_mem_foreignMembers]

theorem isWritable_ofHeader (header : String) : (ofHeader header).IsWritable := by
  refine ⟨?_, foreignMembers header, fun m hm => ?_, foreign_ofHeader header⟩
  · rw [items_ofHeader]
    refine get?_foldl_insert_of_ne (fun item hitem => ?_) .empty
    obtain ⟨m, -, hm⟩ := List.mem_filterMap.1 hitem
    exact Member.read_item (Member.item?_eq_some_iff.1 hm)
  · exact ⟨isMemberText_of_mem_foreignMembers hm, Member.read_eq_foreign_iff.2 ⟨(List.mem_filter.1 hm).2, rfl⟩⟩

/-! ## The round trip -/

theorem memberTexts_itemsText (b : Baggage) : memberTexts b.itemsText.toList = b.items.entries.map itemChars := by
  rw [itemsText, String.toList_ofList]
  refine memberTexts_joined fun m hm => ?_
  obtain ⟨item, -, rfl⟩ := List.mem_map.1 hm
  exact isMemberText_itemChars item

theorem memberTexts_text {b : Baggage} {members : List (List Char)} (h : ∀ m ∈ members, IsMemberText m)
    (hb : b.foreign = String.ofList (joined members)) :
    memberTexts b.text.toList = b.items.entries.map itemChars ++ members := by
  rw [text, memberTexts_joinMembers, memberTexts_itemsText, hb, String.toList_ofList, memberTexts_joined h]

theorem ofHeader_text {b : Baggage} (hb : b.IsWritable) : ofHeader b.text = { b with frozen := !b.items.isEmpty } := by
  obtain ⟨members, hmem, hforeign⟩ := hb.foreign
  have htexts := memberTexts_text (fun m hm => (hmem m hm).1) hforeign
  have hitem : ∀ item ∈ b.items.entries, Member.item? (itemChars item) = some item := by
    intro item hitem
    have hkey := List.lookup_eq_none_iff.1 hb.noEmptyKey item hitem
    exact Member.item?_eq_some_iff.2 (Member.read_itemChars fun hk => by simp [hk] at hkey)
  have hother : ∀ m ∈ members, isForeignMember m = true := fun m hm =>
    (Member.read_eq_foreign_iff.1 (hmem m hm).2).1
  have hitems : (ofHeader b.text).items = b.items := by
    have hfirst : (b.items.entries.map itemChars).filterMap Member.item? = b.items.entries := by
      rw [List.filterMap_map]
      exact (List.filterMap_congr hitem).trans List.filterMap_some
    have hrest : members.filterMap Member.item? = [] :=
      List.filterMap_eq_nil_iff.2 fun m hm => item?_of_isForeignMember (hother m hm)
    rw [items_ofHeader, itemMembers, htexts, List.filterMap_append, hfirst, hrest, List.append_nil,
      Dict.ofList_entries]
  have hforeign' : (ofHeader b.text).foreign = b.foreign := by
    have hfirst : (b.items.entries.map itemChars).filter isForeignMember = [] := by
      refine List.filter_eq_nil_iff.2 fun m hm => ?_
      obtain ⟨item, hmem, rfl⟩ := List.mem_map.1 hm
      rw [isForeignMember_of_item (hitem item hmem)]
      exact Bool.false_ne_true
    rw [foreign_ofHeader, foreignMembers, htexts, List.filter_append, hfirst, List.nil_append,
      List.filter_eq_self.2 hother, hforeign]
  have hfrozen := frozen_ofHeader b.text
  rw [hitems] at hfrozen
  exact Baggage.ext hitems hforeign' hfrozen

theorem text_ne_empty {b : Baggage} (hb : b.IsWritable) (h : b.items.isEmpty = false) : b.text ≠ "" := by
  intro ht
  have hr := congrArg items (ofHeader_text hb)
  rw [ht] at hr
  have hitems : b.items = .empty := hr.symm
  rw [hitems] at h
  cases h

theorem isWritable_of_header {b : Baggage} (hkeys : ∀ e ∈ b.items.entries, e.1 ≠ "") {header : String}
    (hforeign : b.foreign = (ofHeader header).foreign) : b.IsWritable := by
  refine ⟨List.lookup_eq_none_iff.2 fun e he => ?_, hforeign ▸ (isWritable_ofHeader header).foreign⟩
  exact bne_iff_ne.2 (hkeys e he).symm

/-- Reading undoes writing, whatever the keys and values hold: all that is not kept is whether baggage
without items was frozen. Baggage that was read is kept as it is. -/
theorem ofHeader_undoes_text :
    (∀ b : Baggage, (∀ e ∈ b.items.entries, e.1 ≠ "") → (∃ header, b.foreign = (ofHeader header).foreign) →
      ofHeader b.text = { b with frozen := !b.items.isEmpty }) ∧
    ∀ header, ofHeader (ofHeader header).text = ofHeader header := by
  constructor
  · rintro b hkeys ⟨header, hforeign⟩
    exact ofHeader_text (isWritable_of_header hkeys hforeign)
  · intro header
    rw [ofHeader_text (isWritable_ofHeader header), ← frozen_ofHeader]

def vendorHeader : String := " vendor = a=b ,,sentry=1, sentry-, no equals sign ,x=%zz;p , =y"

def signBaggage : Baggage :=
  ⟨.ofList [("a,b=c% \n", "é, =%41"), ("sentry-", ""), (" ", "\t,")], (ofHeader vendorHeader).foreign, false⟩

theorem signs_read_back : ofHeader signBaggage.text = { signBaggage with frozen := true } ∧
    ofHeader (ofHeader vendorHeader).text = ofHeader vendorHeader :=
  ⟨ofHeader_undoes_text.1 signBaggage (by decide +kernel) ⟨vendorHeader, rfl⟩, ofHeader_undoes_text.2 vendorHeader⟩

example : signBaggage.foreign = "vendor = a=b,sentry=1,x=%zz;p" := by decide +kernel

/-! ## Filling in -/

section
variable {b : Baggage} {s : SamplingState}

theorem get?_populate (hb : b.frozen = false) (k : String) : (b.populate s).items.get? k =
    (b.items.get? k).or
      (if k = ItemKey.traceId then some s.traceId.text
      else if k = ItemKey.sampleRate then s.rate.map rateText
      else if k = ItemKey.sampled then s.sampled.map fun f => if f then "true" else "false"
      else if k = ItemKey.sampleRand then some (trimmedRandText s.rand)
      else none) := by
  unfold populate
  rw [hb, if_neg Bool.false_ne_true]
  simp only [Dict.get?_insertNew, Dict.get?_elim_insertNew, Option.or_assoc]
  congr 1
  grind [ItemKey.traceId, ItemKey.sampleRate, ItemKey.sampled, ItemKey.sampleRand]

theorem foreign_populate : (b.populate s).foreign = b.foreign := by
  unfold populate
  split <;> rfl

theorem IsWritable.populate (hb : b.IsWritable) : (b.populate s).IsWritable := by
  refine ⟨?_, by rw [foreign_populate]; exact hb.foreign⟩
  cases hf : b.frozen with
  | true => rw [Baggage.populate, if_pos hf]; exact hb.noEmptyKey
  | false =>
    rw [get?_populate hf, hb.noEmptyKey, Option.none_or, if_neg (by decide), if_neg (by decide),
      if_neg (by decide), if_neg (by decide)]

end

end Baggage

end TraceRelay
