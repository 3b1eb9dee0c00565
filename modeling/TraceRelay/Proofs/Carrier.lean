import TraceRelay.Carrier

/-!
# Look-ups in carriers

A look-up tries the key in lower case before any other. Where no two keys of a carrier are equal up to
ASCII case that makes no difference: there is one entry to be found (`get?_of_distinct`). A header that is
written is what is found from then on, whatever was there under the same name (`get?_set_self`), and
headers of other names stay (`get?_set_of_ne`).
-/

namespace TraceRelay

theorem equalIgnoringCase_iff {a b : String} :
    equalIgnoringCase a b = true ↔ a.toList.map Char.toLower = b.toList.map Char.toLower := beq_iff_eq

theorem equalIgnoringCase_of_right {a b key : String} (ha : equalIgnoringCase a key = true)
    (hb : equalIgnoringCase b key = true) : equalIgnoringCase a b = true := by
  rw [equalIgnoringCase_iff] at ha hb ⊢
  rw [ha, hb]

theorem equalIgnoringCase_of_left {a b key : String} (ha : equalIgnoringCase key a = true)
    (hb : equalIgnoringCase key b = true) : equalIgnoringCase a b = true := by
  rw [equalIgnoringCase_iff] at ha hb ⊢
  rw [← ha, hb]

section
variable {α β : Type} {entries : List (String × α)} {key : String}

/-- No two keys differ in the case of ASCII letters only. -/
def DistinctKeys (entries : List (String × α)) : Prop :=
  entries.Pairwise fun a b => equalIgnoringCase a.1 b.1 = false

def valueOf? (entries : List (String × α)) (key : String) : Option α :=
  (entries.find? fun e => equalIgnoringCase e.1 key).map (·.2)

theorem valueOf?_cons (e : String × α) (rest : List (String × α)) (key : String) :
    valueOf? (e :: rest) key = if equalIgnoringCase e.1 key then some e.2 else valueOf? rest key := by
  unfold valueOf?
  by_cases h : equalIgnoringCase e.1 key = true <;> simp [h]

theorem valueOf?_map (f : α → β) :
    valueOf? (entries.map fun e => (e.1, f e.2)) key = (valueOf? entries key).map f := by
  induction entries with
  | nil => rfl
  | cons e rest ih =>
    rw [List.map_cons, valueOf?_cons, valueOf?_cons, ih]
    by_cases h : equalIgnoringCase e.1 key = true <;> simp [h]

theorem valueOf?_eq_none (h : ∀ e ∈ entries, equalIgnoringCase e.1 key = false) : valueOf? entries key = none := by
  unfold valueOf?
  simpa using h

/-- Where keys are distinct it does not matter that a key in lower case is tried first. -/
theorem lookupHeader?_eq (h : DistinctKeys entries) (hkey : lower key = key) :
    Carrier.lookupHeader? entries key = valueOf? entries key := by
  have hlookup : entries.lookup key = none ∨ entries.lookup key = valueOf? entries key := by
    induction entries with
    | nil => exact .inl rfl
    | cons e rest ih =>
      obtain ⟨he, hrest⟩ := List.pairwise_cons.1 h
      rw [lookup_cons, valueOf?_cons]
      by_cases hk : key = e.1
      · have hself : equalIgnoringCase e.1 key = true := equalIgnoringCase_iff.2 (by rw [hk])
        rw [if_pos hk, if_pos hself]
        exact .inr rfl
      · rw [if_neg hk]
        by_cases hc : equalIgnoringCase e.1 key = true
        · refine .inl (List.lookup_eq_none_iff.2 fun d hd => bne_iff_ne.2 ?_)
          rintro rfl
          rw [he d hd] at hc
          cases hc
        · rw [if_neg hc]
          exact ih hrest
  rw [Carrier.lookupHeader?, hkey]
  rcases hlookup with hl | hl <;> rw [hl]
  · rfl
  · exact Option.or_self

end

/-! ## Written entries -/

theorem find?_insertEntry {α : Type} {p : String → Bool} {key : String} (h : p key = false) (value : α)
    (entries : List (String × α)) :
    (insertEntry key value entries).find? (fun e => p e.1) = entries.find? fun e => p e.1 := by
  induction entries with
  | nil => simp [insertEntry, h]
  | cons e rest ih =>
    rw [insertEntry]
    split
    · rw [List.find?_cons_of_neg (by simp [h])]
    · split
      · -- the entry that is replaced has the same key, so it was not looked for either
        rename_i hk
        rw [List.find?_cons_of_neg (by simp [h]), List.find?_cons_of_neg (by simp [← hk, h])]
      · rw [List.find?_cons, List.find?_cons, ih]

namespace Carrier
variable {key key' : String}

theorem lookupHeader?_insertEntry_self {α : Type} (key : String) (value : α) (entries : List (String × α)) :
    lookupHeader? (insertEntry (lower key) value entries) key = some value := by
  rw [lookupHeader?, lookup_insertEntry, if_pos rfl, Option.some_or]

theorem lookupHeader?_insertEntry_of_ne {α : Type} (h : equalIgnoringCase (lower key) (lower key') = false) (value : α)
    (entries : List (String × α)) :
    lookupHeader? (insertEntry (lower key) value entries) key' = lookupHeader? entries key' := by
  have hne : lower key' ≠ lower key := by
    intro he
    rw [he, equalIgnoringCase, beq_self_eq_true] at h
    cases h
  rw [lookupHeader?, lookup_insertEntry, if_neg hne,
    find?_insertEntry (p := fun k => equalIgnoringCase k (lower key')) h, lookupHeader?]

inductive TakesHeaders : Carrier → Prop where
  | table (d : Dict String) : TakesHeaders (.table d)
  | json (members : List (String × Json)) : TakesHeaders (.json (.object members))

theorem TakesHeaders.set {k : Carrier} (hk : k.TakesHeaders) (key value : String) : (k.set key value).TakesHeaders := by
  cases hk with
  | table d => exact .table _
  | json members => exact .json _

theorem get?_set_self {k : Carrier} (hk : k.TakesHeaders) (key value : String) :
    (k.set key value).get? key = some value := by
  cases hk with
  | table d => exact lookupHeader?_insertEntry_self key value d.entries
  | json members =>
    exact congrArg (Option.bind · Json.text?) (lookupHeader?_insertEntry_self key (.text value) members)

theorem get?_set_of_ne (k : Carrier) (h : equalIgnoringCase (lower key) (lower key') = false) (value : String) :
    (k.set key value).get? key' = k.get? key' := by
  cases k with
  | table d => exact lookupHeader?_insertEntry_of_ne h value d.entries
  | json j =>
    cases j with
    | object members =>
      exact congrArg (Option.bind · Json.text?) (lookupHeader?_insertEntry_of_ne h (Json.text value) members)
    | _ => rfl

end Carrier

namespace Carrier

def entries : Carrier → List (String × Json)
  | .table d => d.entries.map fun e => (e.1, .text e.2)
  | .json j => j.members

theorem get?_of_distinct {carrier : Carrier} (h : DistinctKeys carrier.entries) {key : String}
    (hkey : lower key = key) : carrier.get? key = (valueOf? carrier.entries key).bind Json.text? := by
  cases carrier with
  | json j => exact congrArg (Option.bind · Json.text?) (lookupHeader?_eq h hkey)
  | table d =>
    have hd : DistinctKeys d.entries := List.pairwise_map.1 h
    rw [get?, lookupHeader?_eq hd hkey, entries, valueOf?_map]
    cases valueOf? d.entries key <;> rfl

end Carrier

end TraceRelay
