import TraceRelay.Proofs.Baggage.Members

/-!
# Malformed members

What is wrong with a member is said here without its reader (`IsMalformed`), which refuses just such
members (`isMalformed_iff`). A header from which malformed members are taken out is read as before
(`ofHeader_of_isThinned`).
-/

namespace TraceRelay

/-- A blank key, or an item with an empty key, or with a key or a value that stands for octets which are
no text. -/
inductive IsFaulty (key value : List Char) : Prop where
  | blankKey (h : key = [])
  | emptyKey {written : List Char} (hk : key = itemMark ++ written) (h : percentDecode? written = some "")
  | keyNotText {written : List Char} (hk : key = itemMark ++ written) (h : percentDecode? written = none)
  | valueNotText {written : List Char} (hk : key = itemMark ++ written) (h : percentDecode? value = none)

inductive IsMalformed : List Char → Prop where
  | noEquals {text : List Char} (h : '=' ∉ text) : IsMalformed text
  | faulty {key value : List Char} (hk : '=' ∉ key) (h : IsFaulty (trim key) (trim value)) :
    IsMalformed (key ++ '=' :: value)

namespace Member

theorem isPrefixOf?_itemMark (written : List Char) : itemMark.isPrefixOf? (itemMark ++ written) = some written :=
  List.isPrefixOf?_eq_some_iff_append_eq.2 rfl

theorem ofParts_of_isFaulty {key value : List Char} (h : IsFaulty key value) (text : List Char) :
    ∃ fault, ofParts text key value = .error fault := by
  cases h with
  | blankKey h =>
    rw [h]
    exact ⟨_, rfl⟩
  | emptyKey hk h =>
    simp only [ofParts, hk, isPrefixOf?_itemMark, h]
    exact ⟨_, rfl⟩
  | keyNotText hk h =>
    simp only [ofParts, hk, isPrefixOf?_itemMark, h]
    exact ⟨_, rfl⟩
  | valueNotText hk h =>
    simp only [ofParts, hk, isPrefixOf?_itemMark, h]
    split
    · exact ⟨_, rfl⟩
    · split <;> exact ⟨_, rfl⟩

theorem read_of_isMalformed {text : List Char} (h : IsMalformed text) : ∃ e, read text = .error e := by
  cases h with
  | noEquals h => exact ⟨_, read_of_noEquals h⟩
  | @faulty key value hk h =>
    obtain ⟨fault, hfault⟩ := ofParts_of_isFaulty h (key ++ '=' :: value)
    rw [read_parts hk, hfault]
    exact ⟨_, rfl⟩

theorem isFaulty_of_ofParts {key value text : List Char} {fault : EntryFault}
    (h : ofParts text key value = .error fault) : IsFaulty key value := by
  unfold ofParts at h
  cases hm : itemMark.isPrefixOf? key with
  | none =>
    by_cases hk : key = []
    · exact .blankKey hk
    · simp [hm, hk] at h
  | some written =>
    have hkey : key = itemMark ++ written := (List.isPrefixOf?_eq_some_iff_append_eq.1 hm).symm
    cases hw : percentDecode? written with
    | none => exact .keyNotText hkey hw
    | some name =>
      by_cases hn : name = ""
      · exact .emptyKey hkey (by rw [hw, hn])
      · cases hv : percentDecode? value with
        | none => exact .valueNotText hkey hv
        | some v => simp [hm, hw, hn, hv] at h

theorem isMalformed_of_read {text : List Char} {e : EntryError} (h : read text = .error e) : IsMalformed text := by
  by_cases hmem : '=' ∈ text
  · obtain ⟨name, value, rfl, hname⟩ := List.eq_append_cons_of_mem hmem
    rw [read_parts hname] at h
    cases hp : ofParts (name ++ '=' :: value) (trim name) (trim value) with
    | ok m => rw [hp] at h; cases h
    | error fault => exact .faulty hname (isFaulty_of_ofParts hp)
  · exact .noEquals hmem

theorem isMalformed_iff {text : List Char} : IsMalformed text ↔ (read text).toOption = none := by
  constructor
  · intro h
    obtain ⟨e, he⟩ := read_of_isMalformed h
    rw [he]
    rfl
  · intro h
    cases hr : read text with
    | ok m => rw [hr] at h; cases h
    | error e => exact isMalformed_of_read hr

end Member

/-! ## Headers without them -/

/-- Some malformed members are taken out of what stands between the commas of a header. -/
inductive Thinned : List (List Char) → List (List Char) → Prop where
  | nil : Thinned [] []
  | keep (part : List Char) {parts rest : List (List Char)} (h : Thinned parts rest) :
    Thinned (part :: parts) (part :: rest)
  | drop {part : List Char} {parts rest : List (List Char)} (hm : IsMalformed (trim part))
    (h : Thinned parts rest) : Thinned (part :: parts) rest

def IsThinned (header thinner : String) : Prop :=
  ∃ parts, Thinned (header.toList.splitOn ',') parts ∧ thinner = String.ofList (joined parts)

theorem mem_of_thinned {parts rest : List (List Char)} (h : Thinned parts rest) : ∀ part ∈ rest, part ∈ parts := by
  induction h with
  | nil => exact fun part hp => hp
  | keep part _ ih =>
    intro p hp
    rcases List.mem_cons.1 hp with rfl | hp
    · exact List.mem_cons_self
    · exact List.mem_cons_of_mem _ (ih p hp)
  | drop _ _ ih => exact fun p hp => List.mem_cons_of_mem _ (ih p hp)

namespace Baggage

def takeParts (b : Baggage) (parts : List (List Char)) : Baggage :=
  (((parts.map trim).filter (· ≠ [])).map Member.read).foldl takeRead b

theorem takeParts_cons (b : Baggage) (part : List Char) (parts : List (List Char)) :
    b.takeParts (part :: parts) =
      (if trim part = [] then b else b.takeRead (Member.read (trim part))).takeParts parts := by
  unfold takeParts
  by_cases h : trim part = [] <;> simp [h]

theorem takeParts_of_thinned {parts rest : List (List Char)} (h : Thinned parts rest) (b : Baggage) :
    b.takeParts rest = b.takeParts parts := by
  induction h generalizing b with
  | nil => rfl
  | keep part _ ih => rw [takeParts_cons, takeParts_cons, ih]
  | @drop part parts rest hm _ ih =>
    have hsame : (if trim part = [] then b else b.takeRead (Member.read (trim part))) = b := by
      obtain ⟨e, he⟩ := Member.read_of_isMalformed hm
      rw [he]
      exact ite_self b
    rw [takeParts_cons, hsame, ih]

theorem ofHeader_joined {parts : List (List Char)} (h : ∀ part ∈ parts, ',' ∉ part) :
    ofHeader (String.ofList (joined parts)) = empty.takeParts parts := by
  cases parts with
  | nil => rfl
  | cons part rest =>
    have hsplit : (joined (part :: rest)).splitOn ',' = part :: rest :=
      List.splitOn_intercalate ',' h (List.cons_ne_nil part rest)
    rw [ofHeader, memberTexts, String.toList_ofList, hsplit]
    rfl

/-- Malformed members leave nothing behind when a header is read. -/
theorem ofHeader_of_isThinned {header thinner : String} (h : IsThinned header thinner) :
    ofHeader thinner = ofHeader header := by
  obtain ⟨parts, hparts, rfl⟩ := h
  rw [ofHeader_joined fun part hp => not_mem_of_mem_splitOn (mem_of_thinned hparts part hp),
    takeParts_of_thinned hparts]
  rfl

end Baggage

end TraceRelay
