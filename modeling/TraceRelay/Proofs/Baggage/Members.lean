import TraceRelay.Baggage
import TraceRelay.Proofs.Text.Blank
import TraceRelay.Proofs.Text.Percent

/-!
# Members of a baggage header

A list of members is split at the commas it was joined with (`memberTexts_joined`). A member is read by
the parts around its first equals sign (`Member.read_parts`): an item as what it was written from
(`Member.read_itemChars`), and which members are items or those of third parties is seen from these parts
(`Member.read_eq_item_iff`, `Member.read_eq_foreign_iff`).
-/

namespace TraceRelay

structure IsMemberText (text : List Char) : Prop where
  ne_nil : text ≠ []
  noComma : ',' ∉ text
  trimmed : IsTrimmed text

def joined (members : List (List Char)) : List Char := [','].intercalate members

theorem joined_singleton (m : List Char) : joined [m] = m := by simp [joined]

theorem joined_cons (m : List Char) {rest : List (List Char)} (h : rest ≠ []) :
    joined (m :: rest) = m ++ ',' :: joined rest := by
  simp [joined, List.intercalate_cons_of_ne_nil h]

theorem joined_append {a b : List (List Char)} (ha : a ≠ []) (hb : b ≠ []) :
    joined (a ++ b) = joined a ++ ',' :: joined b := by
  induction a with
  | nil => exact absurd rfl ha
  | cons m rest ih =>
    by_cases hrest : rest = []
    · rw [hrest, List.singleton_append, joined_cons m hb, joined_singleton]
    · rw [List.cons_append, joined_cons m (List.append_ne_nil_of_left_ne_nil hrest b), joined_cons m hrest, ih hrest,
        List.append_assoc, List.cons_append]

theorem joined_eq_nil {members : List (List Char)} (h : ∀ m ∈ members, IsMemberText m) :
    joined members = [] ↔ members = [] := by
  refine ⟨fun hj => ?_, fun hm => by rw [hm]; rfl⟩
  cases members with
  | nil => rfl
  | cons m rest =>
    by_cases hrest : rest = []
    · rw [hrest, joined_singleton] at hj
      exact absurd hj (h m List.mem_cons_self).ne_nil
    · rw [joined_cons m hrest] at hj
      exact absurd hj (by simp)

theorem mem_of_mem_joined {members : List (List Char)} {c : Char} (h : c ∈ joined members) :
    c = ',' ∨ ∃ m ∈ members, c ∈ m := by
  induction members with
  | nil => cases h
  | cons m rest ih =>
    by_cases hrest : rest = []
    · rw [hrest, joined_singleton] at h
      exact .inr ⟨m, List.mem_cons_self, h⟩
    · rw [joined_cons m hrest] at h
      rcases List.mem_append.1 h with h | h
      · exact .inr ⟨m, List.mem_cons_self, h⟩
      · rcases List.mem_cons.1 h with h | h
        · exact .inl h
        · exact (ih h).imp_right fun ⟨m', hm', hc⟩ => ⟨m', List.mem_cons_of_mem _ hm', hc⟩

theorem joinMembers_joined {a b : List (List Char)} (ha : ∀ m ∈ a, IsMemberText m)
    (hb : ∀ m ∈ b, IsMemberText m) :
    joinMembers (String.ofList (joined a)) (String.ofList (joined b)) = String.ofList (joined (a ++ b)) := by
  have hempty : ∀ {l}, (∀ m ∈ l, IsMemberText m) → (String.ofList (joined l) = "" ↔ l = []) := fun hl => by
    rw [← joined_eq_nil hl, ← String.toList_inj, String.toList_ofList]
    rfl
  unfold joinMembers
  simp only [hempty ha, hempty hb]
  split
  · rename_i h; rw [h, List.nil_append]
  · split
    · rename_i h; rw [h, List.append_nil]
    · rename_i ha' hb'
      rw [← String.toList_inj, joined_append ha' hb']
      simp

theorem memberTexts_joined {members : List (List Char)} (h : ∀ m ∈ members, IsMemberText m) :
    memberTexts (joined members) = members := by
  by_cases hne : members = []
  · rw [hne]
    rfl
  · have hsplit : (joined members).splitOn ',' = members :=
      List.splitOn_intercalate ',' (fun m hm => (h m hm).noComma) hne
    have htrim : members.map trim = members := by
      conv_rhs => rw [← List.map_id members]
      exact List.map_congr_left fun m hm => trim_eq_self (h m hm).trimmed
    rw [memberTexts, hsplit, htrim]
    exact List.filter_eq_self.2 fun m hm => by simpa using (h m hm).ne_nil

theorem memberTexts_append (a b : List Char) : memberTexts (a ++ ',' :: b) = memberTexts a ++ memberTexts b := by
  rw [memberTexts, List.splitOn_append_cons_self, List.map_append, List.filter_append]
  rfl

theorem memberTexts_comma (a b : String) :
    memberTexts (a ++ "," ++ b).toList = memberTexts a.toList ++ memberTexts b.toList := by
  rw [String.toList_append, String.toList_append, List.append_assoc]
  exact memberTexts_append a.toList b.toList

/-- Lists of members that are written as one are read one after the other. -/
theorem memberTexts_joinMembers (a b : String) :
    memberTexts (joinMembers a b).toList = memberTexts a.toList ++ memberTexts b.toList := by
  have hempty : memberTexts "".toList = [] := rfl
  unfold joinMembers
  split
  · rename_i h
    rw [h, hempty, List.nil_append]
  · split
    · rename_i h
      rw [h, hempty, List.append_nil]
    · exact memberTexts_comma a b

theorem not_mem_of_mem_splitOn {sep : Char} {text part : List Char} (h : part ∈ text.splitOn sep) :
    sep ∉ part := by
  induction text generalizing part with
  | nil => simp at h; simp [h]
  | cons c text ih =>
    rw [List.splitOn_cons_eq_if_modifyHead] at h
    split at h
    · rcases List.mem_cons.1 h with rfl | h
      · exact List.not_mem_nil
      · exact ih h
    · rename_i hc
      obtain ⟨first, rest, hs⟩ := List.exists_cons_of_ne_nil (List.splitOn_ne_nil sep text)
      rw [hs] at h ih
      rcases List.mem_cons.1 h with rfl | h
      · exact List.not_mem_cons_of_ne_of_not_mem (fun e => hc (beq_iff_eq.2 e.symm)) (ih List.mem_cons_self)
      · exact ih (List.mem_cons_of_mem _ h)

theorem isMemberText_of_mem {header m : List Char} (h : m ∈ memberTexts header) : IsMemberText m := by
  obtain ⟨hm, hne⟩ := List.mem_filter.1 h
  obtain ⟨part, hpart, rfl⟩ := List.mem_map.1 hm
  exact ⟨by simpa using hne, fun hc => not_mem_of_mem_splitOn hpart (mem_of_mem_trim hc), isTrimmed_trim _⟩

/-! ## Reading members -/

theorem code_of_mem_itemMark {c : Char} (h : c ∈ itemMark) : IsCode c := by
  have hall : itemMark.all (fun c => decide (IsCode c)) = true := by decide +kernel
  exact of_decide_eq_true (List.all_eq_true.1 hall c h)

theorem wire_of_mem_itemMark {c : Char} (h : c ∈ itemMark) : IsWire c := (code_of_mem_itemMark h).isWire

theorem code_of_mem_itemChars {item : String × String} {c : Char} (h : c ∈ Baggage.itemChars item) :
    c = '=' ∨ IsCode c := by
  simp only [Baggage.itemChars, List.mem_append, List.mem_cons] at h
  rcases h with (h | h) | h | h
  · exact .inr (code_of_mem_itemMark h)
  · exact .inr (code_of_mem_percentEncode h)
  · exact .inl h
  · exact .inr (code_of_mem_percentEncode h)

theorem isMemberText_itemChars (item : String × String) : IsMemberText (Baggage.itemChars item) where
  ne_nil := by simp [Baggage.itemChars]
  noComma := fun h => by
    rcases code_of_mem_itemChars h with h | h
    · exact absurd h (by decide)
    · exact h.isWire.1 rfl
  trimmed := isTrimmed_of_forall fun c h => by
    rcases code_of_mem_itemChars h with rfl | h
    · rfl
    · exact h.isWire.2.2

theorem trim_wire {text : List Char} (h : ∀ c ∈ text, IsWire c) : trim text = text :=
  trim_eq_self (isTrimmed_of_forall fun c hc => (h c hc).2.2)

theorem bne_of_not_mem {c : Char} {text : List Char} (h : c ∉ text) : ∀ d ∈ text, (d != c) = true :=
  fun _ hd => bne_iff_ne.2 fun he => h (he ▸ hd)

theorem takeWhile_parts {name : List Char} (h : '=' ∉ name) (value : List Char) :
    (name ++ '=' :: value).takeWhile (· != '=') = name := by
  rw [List.takeWhile_append_of_pos (bne_of_not_mem h)]
  simp

namespace Member

theorem read_of_noEquals {text : List Char} (h : '=' ∉ text) : read text = .error ⟨String.ofList text, .noEquals⟩ := by
  have hd : text.dropWhile (· != '=') = [] := List.dropWhile_eq_nil_iff.2 (bne_of_not_mem h)
  simp only [read, hd]

theorem read_parts {name : List Char} (h : '=' ∉ name) (value : List Char) : read (name ++ '=' :: value) =
    (ofParts (name ++ '=' :: value) (trim name) (trim value)).mapError
      (⟨String.ofList (name ++ '=' :: value), ·⟩) := by
  have hd : (name ++ '=' :: value).dropWhile (· != '=') = '=' :: value := by
    rw [List.dropWhile_append_of_pos (bne_of_not_mem h)]
    simp
  rw [read, takeWhile_parts h, hd]
  simp only
  cases ofParts (name ++ '=' :: value) (trim name) (trim value) <;> rfl

theorem read_parts_eq_ok_iff {name : List Char} (h : '=' ∉ name) {value : List Char} {m : Member} :
    read (name ++ '=' :: value) = .ok m ↔ ofParts (name ++ '=' :: value) (trim name) (trim value) = .ok m := by
  rw [read_parts h]
  cases ofParts (name ++ '=' :: value) (trim name) (trim value) <;> simp [Except.mapError]

theorem read_itemChars {item : String × String} (hk : item.1 ≠ "") :
    read (Baggage.itemChars item) = .ok (.item item.1 item.2) := by
  have hkey : ∀ c ∈ itemMark ++ percentEncode item.1.toList, IsWire c := fun c hc => by
    rcases List.mem_append.1 hc with hc | hc
    · exact wire_of_mem_itemMark hc
    · exact wire_of_mem_percentEncode hc
  have hvalue : ∀ c ∈ percentEncode item.2.toList, IsWire c := fun c => wire_of_mem_percentEncode
  rw [Baggage.itemChars, read_parts_eq_ok_iff fun hc => (hkey _ hc).2.1 rfl, trim_wire hkey, trim_wire hvalue]
  simp only [ofParts, List.isPrefixOf?_eq_some_iff_append_eq.2 rfl, percentDecode?_percentEncode, String.ofList_toList,
    hk, if_false]

def item? (text : List Char) : Option (String × String) :=
  match read text with
  | .ok (.item key value) => some (key, value)
  | _ => none

theorem item?_eq_some_iff {text : List Char} {item : String × String} :
    item? text = some item ↔ read text = .ok (.item item.1 item.2) := by
  obtain ⟨key, value⟩ := item
  unfold item?
  rcases read text with e | ⟨key', value'⟩ | t <;> simp

end Member

/-! ## What members are read as -/

/-- The key is marked, not empty and a text, and so is the value. -/
inductive IsItemMember : List Char → String → String → Prop where
  | intro {name value written : List Char} {key v : String} (hname : '=' ∉ name)
    (hmark : trim name = itemMark ++ written) (hkey : percentDecode? written = some key) (hne : key ≠ "")
    (hvalue : percentDecode? (trim value) = some v) : IsItemMember (name ++ '=' :: value) key v

def isForeignMember (text : List Char) : Bool :=
  let key := trim (text.takeWhile (· != '='))
  text.contains '=' && key ≠ [] && !itemMark.isPrefixOf key

theorem isForeignMember_parts {name : List Char} (h : '=' ∉ name) (value : List Char) :
    isForeignMember (name ++ '=' :: value) = true ↔ trim name ≠ [] ∧ ¬itemMark <+: trim name := by
  rw [isForeignMember, takeWhile_parts h]
  simp [Bool.eq_false_iff]

namespace Member

theorem ofParts_item_iff {text name value : List Char} {key v : String} :
    ofParts text name value = .ok (.item key v) ↔ ∃ written, name = itemMark ++ written ∧
      percentDecode? written = some key ∧ key ≠ "" ∧ percentDecode? value = some v := by
  unfold ofParts
  constructor
  · intro h
    cases hm : itemMark.isPrefixOf? name with
    | none =>
      rw [hm] at h
      by_cases hn : name = [] <;> simp [hn] at h
    | some written =>
      refine ⟨written, (List.isPrefixOf?_eq_some_iff_append_eq.1 hm).symm, ?_⟩
      cases hk : percentDecode? written with
      | none => simp [hm, hk] at h
      | some k =>
        by_cases hne : k = ""
        · simp [hm, hk, hne] at h
        · cases hv : percentDecode? value with
          | none => simp [hm, hk, hne, hv] at h
          | some v' =>
            simp only [hm, hk, hne, hv, if_false] at h
            cases h
            exact ⟨rfl, hne, rfl⟩
  · rintro ⟨written, rfl, hk, hne, hv⟩
    simp only [List.isPrefixOf?_eq_some_iff_append_eq.2 rfl, hk, hne, hv, if_false]

theorem read_eq_item_iff {text : List Char} {key v : String} :
    read text = .ok (.item key v) ↔ IsItemMember text key v := by
  constructor
  · intro h
    by_cases hmem : '=' ∈ text
    · obtain ⟨name, value, rfl, hname⟩ := List.eq_append_cons_of_mem hmem
      obtain ⟨written, hmark, hkey, hne, hvalue⟩ := ofParts_item_iff.1 ((read_parts_eq_ok_iff hname).1 h)
      exact .intro hname hmark hkey hne hvalue
    · rw [read_of_noEquals hmem] at h
      cases h
  · rintro ⟨hname, hmark, hkey, hne, hvalue⟩
    exact (read_parts_eq_ok_iff hname).2 (ofParts_item_iff.2 ⟨_, hmark, hkey, hne, hvalue⟩)

theorem read_item {text : List Char} {key value : String} (h : read text = .ok (.item key value)) : key ≠ "" := by
  obtain ⟨-, -, -, hne, -⟩ := read_eq_item_iff.1 h
  exact hne

theorem ofParts_foreign_iff {text key value : List Char} {t : String} : ofParts text key value = .ok (.foreign t) ↔
    (key ≠ [] ∧ ¬itemMark <+: key) ∧ t = String.ofList text := by
  unfold ofParts
  cases hp : itemMark.isPrefixOf? key with
  | none =>
    have hno : ¬itemMark <+: key := by
      rintro ⟨rest, hr⟩
      rw [List.isPrefixOf?_eq_some_iff_append_eq.2 hr] at hp
      cases hp
    by_cases hk : key = []
    · simp [hk]
    · simp [hk, hno, eq_comm]
  | some rest =>
    -- a marked key makes an item or a fault
    have hmark : itemMark <+: key := ⟨rest, List.isPrefixOf?_eq_some_iff_append_eq.1 hp⟩
    refine ⟨fun h => ?_, fun h => absurd hmark h.1.2⟩
    simp only at h
    split at h
    · cases h
    · split at h
      · cases h
      · split at h <;> cases h

theorem read_eq_foreign_iff {text : List Char} {t : String} :
    read text = .ok (.foreign t) ↔ isForeignMember text = true ∧ t = String.ofList text := by
  by_cases hmem : '=' ∈ text
  · obtain ⟨name, value, rfl, hname⟩ := List.eq_append_cons_of_mem hmem
    rw [read_parts_eq_ok_iff hname, ofParts_foreign_iff, isForeignMember_parts hname]
  · rw [read_of_noEquals hmem]
    simp [isForeignMember, hmem]

end Member

theorem isForeignMember_of_item {text : List Char} {item : String × String} (h : Member.item? text = some item) :
    isForeignMember text = false := by
  refine Bool.eq_false_iff.2 fun hf => ?_
  have hread := Member.item?_eq_some_iff.1 h
  rw [Member.read_eq_foreign_iff.2 ⟨hf, rfl⟩] at hread
  cases hread

theorem item?_of_isForeignMember {text : List Char} (h : isForeignMember text = true) : Member.item? text = none := by
  cases hitem : Member.item? text with
  | none => rfl
  | some item =>
    rw [isForeignMember_of_item hitem] at h
    cases h

def itemMembers (header : String) : List (String × String) := (memberTexts header.toList).filterMap Member.item?

def foreignMembers (header : String) : List (List Char) := (memberTexts header.toList).filter isForeignMember

theorem itemMembers_joinMembers (a b : String) : itemMembers (joinMembers a b) = itemMembers a ++ itemMembers b := by
  rw [itemMembers, memberTexts_joinMembers, List.filterMap_append]
  rfl

theorem isMemberText_of_mem_foreignMembers {header : String} {m : List Char} (h : m ∈ foreignMembers header) :
    IsMemberText m :=
  isMemberText_of_mem (List.mem_of_mem_filter h)

end TraceRelay
