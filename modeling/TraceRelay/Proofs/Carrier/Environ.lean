import TraceRelay.Proofs.Carrier.Lookups
import TraceRelay.Proofs.Sending

/-!
# Names from an environment

The table of an environment holds the normal forms of its names (`get?_normalize_eq_some`). They are their
own normal forms (`normalName_normalName`), and stand in lower case, so that only one entry can be found
under a name (`eq_of_finds_normalize`). What a service extracts hangs on two of the names alone
(`extract_congr`).
-/

namespace TraceRelay

/-- A text less one mark that it starts with, if it does. -/
inductive Unmarked : List Char → List Char → Prop where
  | marked (rest : List Char) : Unmarked ("http_".toList ++ rest) rest
  | plain {text : List Char} (h : ¬"http_".toList <+: text) : Unmarked text text

theorem mem_of_mem_unmarked {text rest : List Char} (h : Unmarked text rest) {c : Char} (hc : c ∈ rest) : c ∈ text := by
  cases h with
  | marked => exact List.mem_append_right _ hc
  | plain => exact hc

def IsNormalForm (name form : String) : Prop :=
  ∃ rest, Unmarked (lowerChars name.toList) rest ∧ form = String.ofList (rest.map fun c => if c = '_' then '-' else c)

namespace Carrier

theorem unmarked_iff {text rest : List Char} :
    Unmarked text rest ↔ (environMark.isPrefixOf? text).getD text = rest := by
  constructor
  · rintro (_ | h)
    · rw [environMark, List.isPrefixOf?_eq_some_iff_append_eq.2 rfl, Option.getD_some]
    · cases hp : environMark.isPrefixOf? text with
      | none => rfl
      | some rest => exact absurd ⟨rest, List.isPrefixOf?_eq_some_iff_append_eq.1 hp⟩ h
  · rintro rfl
    cases hp : environMark.isPrefixOf? text with
    | none =>
      refine .plain fun ⟨rest, h⟩ => ?_
      rw [List.isPrefixOf?_eq_some_iff_append_eq.2 (show environMark ++ rest = text from h)] at hp
      cases hp
    | some rest =>
      rw [← List.isPrefixOf?_eq_some_iff_append_eq.1 hp]
      exact .marked rest

theorem isNormalForm_iff {name form : String} : IsNormalForm name form ↔ normalName name = form := by
  simp only [IsNormalForm, unmarked_iff, exists_eq_left', normalName]
  exact eq_comm

def IsNormal (c : Char) : Prop := IsLower c ∧ c ≠ '_'

theorem isNormal_of_mem_normalName {name : String} {c : Char} (h : c ∈ (normalName name).toList) : IsNormal c := by
  rw [normalName, String.toList_ofList] at h
  obtain ⟨d, hd, rfl⟩ := List.mem_map.1 h
  have hlow : IsLower d := isLower_of_mem_lowerChars (mem_of_mem_unmarked (unmarked_iff.2 rfl) hd)
  split
  · have hdash : IsLower '-' := by decide +kernel
    exact ⟨hdash, by decide⟩
  · rename_i hne
    exact ⟨hlow, hne⟩

theorem normalName_eq_self {name : String} (h : ∀ c ∈ name.toList, IsNormal c) : normalName name = name := by
  have hlow : lowerChars name.toList = name.toList := lowerChars_eq_self fun c hc => (h c hc).1
  have hplain : (environMark.isPrefixOf? name.toList).getD name.toList = name.toList := by
    refine unmarked_iff.1 (.plain fun ⟨rest, hrest⟩ => ?_)
    exact (h '_' (by rw [← hrest]; simp)).2 rfl
  have hmap : name.toList.map (fun c => if c = '_' then '-' else c) = name.toList := by
    rw [List.map_congr_left fun c hc => if_neg (h c hc).2, List.map_id']
  rw [normalName, hlow, hplain, hmap, String.ofList_toList]

theorem normalName_normalName (name : String) : normalName (normalName name) = normalName name :=
  normalName_eq_self fun _ => isNormal_of_mem_normalName

theorem lower_normalName (name : String) : lower (normalName name) = normalName name := by
  rw [lower, lowerChars_eq_self fun c hc => (isNormal_of_mem_normalName hc).1, String.ofList_toList]

/-! ## The table of an environment -/

variable {pairs others : List (String × String)}

theorem get?_normalize_eq_some {form value : String} :
    (normalize pairs).get? form = some value ↔ LastValue (fun name => IsNormalForm name form) pairs value := by
  simp only [isNormalForm_iff]
  exact Dict.get?_ofList_renamed

theorem isSome_get?_normalize {form : String} :
    ((normalize pairs).get? form).isSome ↔ ∃ p ∈ pairs, IsNormalForm p.1 form := by
  rw [Option.isSome_iff_ne_none, normalize, Ne, Dict.get?_ofList_renamed_eq_none]
  simp [isNormalForm_iff]

theorem normalName_of_mem_keys {key : String} (h : key ∈ (normalize pairs).entries.map (·.1)) :
    normalName key = key := by
  obtain ⟨e, he, rfl⟩ := List.mem_map.1 h
  have hget : ((normalize pairs).get? e.1).isSome := by
    refine Option.isSome_iff_ne_none.2 fun hnone => ?_
    have hne := List.lookup_eq_none_iff.1 hnone e he
    rw [bne_self_eq_false] at hne
    cases hne
  obtain ⟨p, -, hp⟩ := isSome_get?_normalize.1 hget
  rw [← isNormalForm_iff.1 hp, normalName_normalName]

theorem normalize_of_perm {entries : List (String × String)} (h : entries.Perm (normalize pairs).entries) :
    normalize entries = normalize pairs := by
  -- the names are normalized already
  have hsame : entries.map (fun p => (normalName p.1, p.2)) = entries := by
    refine (List.map_congr_left fun p hp => ?_).trans (List.map_id' entries)
    rw [normalName_of_mem_keys (List.mem_map_of_mem (h.mem_iff.1 hp))]
  rw [normalize, hsame, Dict.ofList_eq_of_perm h]

theorem eq_of_finds_normalize {key : String} {found : Option String}
    (h : (Carrier.table (normalize pairs)).Finds key found) : found = (normalize pairs).get? (lower key) := by
  have hlow : ∀ name ∈ (normalize pairs).entries.map (·.1), lower name = name := by
    intro name hname
    rw [← normalName_of_mem_keys hname, lower_normalName]
  have hone : OneUnlowered ((Carrier.table (normalize pairs)).entries.map (·.1)) := by
    rw [keys_table]
    exact fun a ha _ _ _ => .inr (.inl (hlow a ha))
  rw [eq_of_finds hone h, get?, lookupHeader?, Dict.get?]
  cases hl : (normalize pairs).entries.lookup (lower key) with
  | some value => rfl
  | none =>
    -- a scan finds no more: a key that it takes is in lower case, so it would have been found before
    rw [List.find?_eq_none.2 fun e he hc => lower_ne_of_lookup_eq_none hl he hc (hlow e.1 (List.mem_map_of_mem he))]
    rfl

end Carrier

theorem Context.extract_congr {k k' : Carrier} (ht : k.get? traceHeaderName = k'.get? traceHeaderName)
    (hb : k.get? baggageHeaderName = k'.get? baggageHeaderName) : extract k = extract k' := by
  unfold extract readItems readTraceHeader
  rw [ht, hb]

def SameLast (form : String) (pairs others : List (String × String)) : Prop :=
  ∀ value, LastValue (fun name => IsNormalForm name form) pairs value ↔
    LastValue (fun name => IsNormalForm name form) others value

theorem Carrier.sameLast_iff {form : String} {pairs others : List (String × String)} :
    SameLast form pairs others ↔ (normalize pairs).get? form = (normalize others).get? form := by
  constructor
  · intro h
    exact Option.ext fun value => get?_normalize_eq_some.trans ((h value).trans get?_normalize_eq_some.symm)
  · intro h value
    rw [← get?_normalize_eq_some, h, get?_normalize_eq_some]

theorem Carrier.get?_of_sameLast {pairs others : List (String × String)} {key : String} (hkey : lower key = key)
    (h : SameLast key pairs others) :
    (Carrier.table (normalize pairs)).get? key = (Carrier.table (normalize others)).get? key := by
  rw [eq_of_finds_normalize (finds_get? _ key), eq_of_finds_normalize (finds_get? _ key), hkey, sameLast_iff.1 h]

/-- The table of an environment holds the normal forms of its names, each with the last value given under it,
and a look-up finds the entry of its key in lower case. Its own entries, in any order, give the same table.
What is extracted from it, with whatever ids a service makes up, depends on the last values of the two headers
alone. -/
theorem environment_is_normalized (pairs : List (String × String)) :
    (∀ form, ((Carrier.normalize pairs).get? form).isSome ↔ ∃ p ∈ pairs, IsNormalForm p.1 form) ∧
      (∀ form value, (Carrier.normalize pairs).get? form = some value ↔
        LastValue (fun name => IsNormalForm name form) pairs value) ∧
      (∀ key found, (Carrier.table (Carrier.normalize pairs)).Finds key found →
        found = (Carrier.normalize pairs).get? (lower key)) ∧
      (∀ entries, entries.Perm (Carrier.normalize pairs).entries →
        Carrier.normalize entries = Carrier.normalize pairs) ∧
      ∀ others, SameLast traceHeaderName pairs others → SameLast baggageHeaderName pairs others →
        Context.extract (.table (Carrier.normalize pairs)) = Context.extract (.table (Carrier.normalize others)) := by
  refine ⟨fun form => Carrier.isSome_get?_normalize, fun form value => Carrier.get?_normalize_eq_some,
    fun key found => Carrier.eq_of_finds_normalize, fun entries => Carrier.normalize_of_perm,
    fun others ht hb => ?_⟩
  exact Context.extract_congr (Carrier.get?_of_sameLast Carrier.lower_traceHeaderName ht)
    (Carrier.get?_of_sameLast Carrier.lower_baggageHeaderName hb)

def gatewayPairs : List (String × String) :=
  [("HTTP_SENTRY_TRACE", "not-a-trace"), ("CONTENT_TYPE", "text/plain"),
    ("Sentry-Trace", "00000000000000000000000000000000-0000000000000001-1"),
    ("HTTP_BAGGAGE", "sentry-sample_rand=0.25")]

def plainPairs : List (String × String) :=
  [("baggage", "sentry-sample_rand=0.25"), ("http_HTTP_SENTRY_TRACE", "other"),
    ("sentry_trace", "00000000000000000000000000000000-0000000000000001-1")]

theorem gateway_names_are_read : SameLast traceHeaderName gatewayPairs plainPairs ∧
    SameLast baggageHeaderName gatewayPairs plainPairs ∧
    (Context.extract (.table (Carrier.normalize gatewayPairs))).outcome .counting .start =
      some (⟨some ⟨"00000000000000000000000000000000"⟩, none, some ⟨"0000000000000001"⟩, some true,
        some (.ofList [("sample_rand", "0.25")])⟩, 0, 0) := by
  have hsame : ∀ form ∈ [traceHeaderName, baggageHeaderName],
      (Carrier.normalize gatewayPairs).get? form = (Carrier.normalize plainPairs).get? form := by decide +kernel
  have ht := Carrier.sameLast_iff.2 (hsame traceHeaderName (by simp))
  have hb := Carrier.sameLast_iff.2 (hsame baggageHeaderName (by simp))
  refine ⟨ht, hb, ?_⟩
  rw [(environment_is_normalized gatewayPairs).2.2.2.2 plainPairs ht hb]
  decide +kernel

end TraceRelay
