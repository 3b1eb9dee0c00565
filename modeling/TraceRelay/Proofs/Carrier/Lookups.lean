import Mathlib.Data.List.Find
import Mathlib.Data.List.Nodup
import Mathlib.Data.List.Pairwise
import TraceRelay.Proofs.Carrier
import TraceRelay.Proofs.Dict
import TraceRelay.Proofs.Text.Lower

/-!
# Look-ups after any number of headers were written

Names in lower case that differ in the case of ASCII letters only are the same
(`lower_eq_of_equalIgnoringCase`), so what is written under one name neither hides nor is hidden by another
(`get?_set`): a look-up finds what was written last under its name, and otherwise what it found at first.
A table may hand out its entries in any order. Of those whose keys differ in case only, at most one is not in
lower case, and that one counts only where no other does (`lookupHeader?_of_perm`).
-/

namespace TraceRelay

theorem toList_lower (text : String) : (lower text).toList = lowerChars text.toList := by
  rw [lower, String.toList_ofList]

theorem lower_lower (text : String) : lower (lower text) = lower text := by
  rw [lower, toList_lower, lowerChars_eq_self fun c hc => isLower_of_mem_lowerChars hc, lower]

theorem lower_eq_of_equalIgnoringCase {a b : String} (h : equalIgnoringCase (lower a) (lower b) = true) :
    lower a = lower b := by
  rw [equalIgnoringCase_iff, toList_lower, toList_lower, map_toLower_lowerChars, map_toLower_lowerChars] at h
  rw [lower, lower, h]

/-- Of two keys that differ in the case of ASCII letters, one is in lower case. -/
def OneUnlowered (keys : List String) : Prop :=
  ∀ a ∈ keys, ∀ b ∈ keys, equalIgnoringCase a b = true → a = b ∨ lower a = a ∨ lower b = b

theorem oneUnlowered_of_distinctKeys {α : Type} {entries : List (String × α)} (h : DistinctKeys entries) :
    OneUnlowered (entries.map (·.1)) := by
  intro a ha b hb hab
  refine .inl (Decidable.byContradiction fun hne => ?_)
  have hsymm : Std.Symm fun a b : String => equalIgnoringCase a b = false := by
    refine ⟨fun x y hxy => ?_⟩
    rw [← Bool.not_eq_true, equalIgnoringCase_iff] at hxy ⊢
    exact Ne.symm hxy
  have hkeys : (entries.map (·.1)).Pairwise fun a b => equalIgnoringCase a b = false := List.pairwise_map.2 h
  rw [hkeys.forall ha hb hne] at hab
  cases hab

theorem map_insertEntry {α β : Type} (f : α → β) (key : String) (value : α) (entries : List (String × α)) :
    (insertEntry key value entries).map (fun e => (e.1, f e.2)) =
      insertEntry key (f value) (entries.map fun e => (e.1, f e.2)) := by
  induction entries with
  | nil => rfl
  | cons e rest ih =>
    rw [insertEntry, List.map_cons, insertEntry]
    split
    · rfl
    · split
      · rfl
      · rw [List.map_cons, ih]

namespace Carrier

section
variable {α : Type} {entries entries' : List (String × α)} {key : String}

theorem lower_ne_of_lookup_eq_none (h : entries.lookup (lower key) = none) {e : String × α} (he : e ∈ entries)
    (hc : equalIgnoringCase e.1 (lower key) = true) : lower e.1 ≠ e.1 := by
  intro hlow
  rw [← hlow] at hc
  have hkey := lower_eq_of_equalIgnoringCase hc
  rw [List.lookup_eq_none_iff] at h
  simpa [← hkey, hlow] using h e he

theorem lookupHeader?_of_perm (h : entries.Perm entries')
    (hn : (entries.map (·.1)).Nodup) (hone : OneUnlowered (entries.map (·.1))) (key : String) :
    lookupHeader? entries key = lookupHeader? entries' key := by
  unfold lookupHeader?
  rw [← lookup_eq_of_perm h hn]
  cases hl : entries.lookup (lower key) with
  | some value => rw [Option.some_or, Option.some_or]
  | none =>
    -- no key is the name in lower case, so of all the entries that the scan may take there is only one
    rw [List.find?_eq_find?_of_perm h]
    rintro a ⟨ha, hac⟩ b ⟨hb, hbc⟩
    have hab := hone a.1 (List.mem_map_of_mem ha) b.1 (List.mem_map_of_mem hb) (equalIgnoringCase_of_right hac hbc)
    obtain hab | hlow | hlow := hab
    · exact List.inj_on_of_nodup_map hn ha hb hab
    · exact absurd hlow (lower_ne_of_lookup_eq_none hl ha hac)
    · exact absurd hlow (lower_ne_of_lookup_eq_none hl hb hbc)

end

/-! ## Writing headers -/

section
variable {k : Carrier} {key name value : String}

theorem set_of_not_takesHeaders (hk : ¬k.TakesHeaders) (name value : String) : k.set name value = k := by
  cases k with
  | table d => exact absurd (.table d) hk
  | json j =>
    cases j with
    | object members => exact absurd (.json members) hk
    | _ => rfl

theorem get?_of_not_takesHeaders (hk : ¬k.TakesHeaders) (key : String) : k.get? key = none := by
  cases k with
  | table d => exact absurd (.table d) hk
  | json j =>
    cases j with
    | object members => exact absurd (.json members) hk
    | _ => rfl

theorem get?_congr (h : lower name = lower key) (k : Carrier) : k.get? name = k.get? key := by
  cases k <;> simp only [get?, lookupHeader?, h]

theorem get?_set (hk : k.TakesHeaders) (name value key : String) :
    (k.set name value).get? key = if lower name = lower key then some value else k.get? key := by
  split
  · rename_i h
    rw [← get?_congr h, get?_set_self hk]
  · rename_i h
    exact get?_set_of_ne k (Bool.eq_false_iff.2 fun hc => h (lower_eq_of_equalIgnoringCase hc)) value

def setAll (k : Carrier) (headers : List (String × String)) : Carrier :=
  headers.foldl (fun k e => k.set e.1 e.2) k

theorem setAll_cons (k : Carrier) (e : String × String) (rest : List (String × String)) :
    k.setAll (e :: rest) = (k.set e.1 e.2).setAll rest := rfl

theorem get?_setAll (hk : k.TakesHeaders) (headers : List (String × String)) (key : String) :
    (k.setAll headers).get? key =
      ((Dict.ofList (headers.map fun e => (lower e.1, e.2))).get? (lower key)).or (k.get? key) := by
  induction headers generalizing k with
  | nil => rfl
  | cons e rest ih =>
    -- the rest goes before the first header, and that before what `k` holds
    rw [setAll_cons, ih (hk.set _ _), get?_set hk, List.map_cons, Dict.get?_ofList_cons, Option.or_assoc]
    by_cases h : lower e.1 = lower key
    · rw [if_pos h, if_pos h.symm, Option.some_or]
    · rw [if_neg h, if_neg (Ne.symm h), Option.none_or]

theorem entries_set (hk : k.TakesHeaders) (name value : String) :
    (k.set name value).entries = insertEntry (lower name) (.text value) k.entries := by
  cases hk with
  | table d => exact map_insertEntry Json.text (lower name) value d.entries
  | json members => rfl

theorem mem_keys_set {key : String} (h : key ∈ (k.set name value).entries.map (·.1)) :
    key = lower name ∨ key ∈ k.entries.map (·.1) := by
  by_cases hk : k.TakesHeaders
  · rw [entries_set hk] at h
    obtain ⟨e, he, rfl⟩ := List.mem_map.1 h
    rcases mem_insertEntry he with rfl | he
    · exact .inl rfl
    · exact .inr (List.mem_map_of_mem he)
  · rw [set_of_not_takesHeaders hk] at h
    exact .inr h

theorem oneUnlowered_set (h : OneUnlowered (k.entries.map (·.1))) (name value : String) :
    OneUnlowered ((k.set name value).entries.map (·.1)) := by
  intro a ha b hb hab
  rcases mem_keys_set ha with rfl | ha
  · exact .inr (.inl (lower_lower name))
  · rcases mem_keys_set hb with rfl | hb
    · exact .inr (.inr (lower_lower name))
    · exact h a ha b hb hab

theorem lookup_entries_set (h : lower name ≠ key) (k : Carrier) (value : String) :
    (k.set name value).entries.lookup key = k.entries.lookup key := by
  by_cases hk : k.TakesHeaders
  · rw [entries_set hk, lookup_insertEntry, if_neg h.symm]
  · rw [set_of_not_takesHeaders hk]

theorem lookup_entries_setAll {headers : List (String × String)} (h : ∀ e ∈ headers, lower e.1 ≠ key)
    (k : Carrier) : (k.setAll headers).entries.lookup key = k.entries.lookup key := by
  induction headers generalizing k with
  | nil => rfl
  | cons e rest ih =>
    obtain ⟨he, hrest⟩ := List.forall_mem_cons.1 h
    rw [setAll_cons, ih hrest, lookup_entries_set he]

theorem oneUnlowered_setAll (h : OneUnlowered (k.entries.map (·.1))) (headers : List (String × String)) :
    OneUnlowered ((k.setAll headers).entries.map (·.1)) := by
  induction headers generalizing k with
  | nil => exact h
  | cons e rest ih => exact ih (oneUnlowered_set h e.1 e.2)

theorem setAll_of_not_takesHeaders (hk : ¬k.TakesHeaders) (headers : List (String × String)) :
    k.setAll headers = k := by
  induction headers with
  | nil => rfl
  | cons e rest ih => rw [setAll_cons, set_of_not_takesHeaders hk, ih]

end

/-! ## What is found -/

/-- What a look-up may find, in whatever order a table hands out its entries. -/
inductive Finds : Carrier → String → Option String → Prop where
  | table {d : Dict String} {entries : List (String × String)} (h : entries.Perm d.entries) (key : String) :
    Finds (.table d) key (lookupHeader? entries key)
  | json (value : Json) (key : String) : Finds (.json value) key ((Carrier.json value).get? key)

theorem keys_table (d : Dict String) : (Carrier.table d).entries.map (·.1) = d.entries.map (·.1) := by
  rw [entries, List.map_map]
  rfl

theorem finds_get? (k : Carrier) (key : String) : k.Finds key (k.get? key) := by
  cases k with
  | table d => exact .table (.refl _) key
  | json value => exact .json value key

theorem eq_of_finds {k : Carrier} {key : String} {found : Option String} (h : OneUnlowered (k.entries.map (·.1)))
    (hf : k.Finds key found) : found = k.get? key := by
  cases hf with
  | json value => rfl
  | @table d entries hp =>
    rw [keys_table] at h
    exact (lookupHeader?_of_perm hp.symm d.sorted.nodup_keys h key).symm

/-- After any number of headers were written into a carrier of distinct keys, a look-up finds the value that
was written last under a name with the same lower case form, and if there is none, exactly what it found at
first. Entries of other keys stay as they are. A JSON value that is no object stays as it is and has no
headers. -/
theorem last_written_is_found {k : Carrier} (hd : DistinctKeys k.entries) (headers : List (String × String)) :
    (k.TakesHeaders → ∀ key found, (k.setAll headers).Finds key found →
      (∀ value, LastValue (fun name => lower name = lower key) headers value → found = some value) ∧
        ((∀ e ∈ headers, lower e.1 ≠ lower key) → ∀ first, k.Finds key first → found = first)) ∧
      (∀ key, (∀ e ∈ headers, lower e.1 ≠ key) → (k.setAll headers).entries.lookup key = k.entries.lookup key) ∧
      (¬k.TakesHeaders → k.setAll headers = k ∧ ∀ key found, k.Finds key found → found = none) := by
  have hone := oneUnlowered_of_distinctKeys hd
  refine ⟨fun hk key found hf => ?_, fun key hother => lookup_entries_setAll hother k, fun hk => ?_⟩
  · rw [eq_of_finds (oneUnlowered_setAll hone headers) hf, get?_setAll hk]
    constructor
    · intro value hlast
      rw [Dict.get?_ofList_renamed.2 hlast, Option.some_or]
    · intro hnone first hfirst
      rw [Dict.get?_ofList_renamed_eq_none.2 hnone, Option.none_or, eq_of_finds hone hfirst]
  · refine ⟨setAll_of_not_takesHeaders hk headers, fun key found hf => ?_⟩
    rw [eq_of_finds hone hf, get?_of_not_takesHeaders hk]

def filledByHand : Carrier := .table (.ofList [("Baggage", "a=1"), ("host", "x")])

def laterHeaders : List (String × String) := [("BAGGAGE", "b=2"), ("Sentry-Trace", "t"), ("bAGGAGE", "c=3")]

theorem handwritten_key_is_passed_over : filledByHand.get? "Baggage" = some "a=1" ∧
    (∀ found, (filledByHand.setAll laterHeaders).Finds "Baggage" found → found = some "c=3") ∧
    ∀ found, (filledByHand.setAll laterHeaders).Finds "HOST" found → found = some "x" := by
  have hd : DistinctKeys filledByHand.entries := by
    unfold DistinctKeys
    decide +kernel
  have hfound := (last_written_is_found hd laterHeaders).1 (.table _)
  refine ⟨by decide +kernel, fun found hf => (hfound "Baggage" found hf).1 "c=3" ?_, fun found hf => ?_⟩
  · have hlast : laterHeaders = [("BAGGAGE", "b=2"), ("Sentry-Trace", "t")] ++ ("bAGGAGE", "c=3") :: [] := rfl
    exact ⟨hlast, by decide +kernel, by decide +kernel⟩
  · have hfirst : filledByHand.get? "HOST" = some "x" := by decide +kernel
    exact (hfound "HOST" found hf).2 (by decide +kernel) _ (hfirst ▸ finds_get? filledByHand "HOST")

end Carrier

end TraceRelay
