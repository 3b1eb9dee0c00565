import TraceRelay.Dict

/-!
# Tables by their look-ups

What an operation does to the look-ups of a table, and what follows from look-ups for the table
itself: it is the table of its own entries (`Dict.ofList_entries`), in any order (`Dict.ofList_eq_of_perm`),
and taking out a key that is not there changes nothing (`Dict.erase_eq_self`). In the table of a list the
last entry of a key is found (`Dict.get?_ofList_filterMap_eq_some`, `Dict.get?_ofList_renamed`).
-/

namespace TraceRelay

variable {α : Type}

theorem get?_foldl_insert {entries : List (String × α)} (h : SortedEntries entries) (d : Dict α) (k : String) :
    (entries.foldl (fun d e => d.insert e.1 e.2) d).get? k = (entries.lookup k).or (d.get? k) := by
  induction entries generalizing d with
  | nil => rfl
  | cons e rest ih =>
    -- the keys are sorted, so the first one does not come again
    obtain ⟨he, hr⟩ := List.pairwise_cons.1 h
    rw [List.foldl_cons, ih hr, Dict.get?_insert, lookup_cons]
    by_cases hk : k = e.1
    · subst hk
      rw [lookup_eq_none_of_lt he, if_pos rfl, if_pos rfl]
      rfl
    · rw [if_neg hk, if_neg hk]

theorem get?_foldl_insert_eq (entries : List (String × α)) (d : Dict α) (k : String) :
    (entries.foldl (fun d e => d.insert e.1 e.2) d).get? k = ((Dict.ofList entries).get? k).or (d.get? k) := by
  unfold Dict.ofList
  induction entries generalizing d with
  | nil => rfl
  | cons e rest ih =>
    rw [List.foldl_cons, List.foldl_cons, ih, ih (Dict.empty.insert e.1 e.2), Option.or_assoc, Dict.get?_insert,
      Dict.get?_insert]
    by_cases hk : k = e.1
    · rw [if_pos hk, if_pos hk, Option.some_or]
    · rw [if_neg hk, if_neg hk, Dict.get?_empty, Option.none_or]

theorem get?_foldl_insert_of_ne {entries : List (String × α)} {k : String} (h : ∀ e ∈ entries, e.1 ≠ k) (d : Dict α) :
    (entries.foldl (fun d e => d.insert e.1 e.2) d).get? k = d.get? k := by
  induction entries generalizing d with
  | nil => rfl
  | cons e rest ih =>
    rw [List.foldl_cons, ih fun e' he' => h e' (List.mem_cons_of_mem _ he'), Dict.get?_insert,
      if_neg (h e List.mem_cons_self).symm]

theorem Dict.get?_insertNew (d : Dict α) (key k : String) (value : α) :
    (d.insertNew key value).get? k = (d.get? k).or (if k = key then some value else none) := by
  unfold insertNew
  split
  · rename_i h
    split
    · rename_i hk
      obtain ⟨v, hv⟩ := Option.isSome_iff_exists.1 h
      rw [hk, hv, Option.some_or]
    · rw [Option.or_none]
  · rename_i h
    rw [get?_insert]
    split
    · rename_i hk
      rw [hk, Option.not_isSome_iff_eq_none.1 h, Option.none_or]
    · rw [Option.or_none]

theorem Dict.get?_elim_insertNew {β : Type} (d : Dict α) (key k : String) (value : β → α) (o : Option β) :
    (o.elim d fun a => d.insertNew key (value a)).get? k = (d.get? k).or (if k = key then o.map value else none) := by
  cases o with
  | none => simp
  | some a => exact get?_insertNew ..

theorem Dict.get?_of_isEmpty {d : Dict α} (h : d.isEmpty = true) (k : String) : d.get? k = none := by
  rw [get?, List.isEmpty_iff.1 h]
  rfl

theorem Dict.isEmpty_insert (d : Dict α) (key : String) (value : α) : (d.insert key value).isEmpty = false := by
  refine Bool.eq_false_iff.2 fun h => ?_
  have hget := get?_insert d key key value
  rw [if_pos rfl, get?_of_isEmpty h] at hget
  cases hget

theorem Dict.ofList_entries (d : Dict α) : Dict.ofList d.entries = d :=
  Dict.ext_get? fun k => by
    rw [Dict.ofList, get?_foldl_insert d.sorted, Dict.get?_empty, Option.or_none]
    rfl

theorem Dict.get?_ofList_cons (e : String × α) (rest : List (String × α)) (k : String) :
    (Dict.ofList (e :: rest)).get? k = ((Dict.ofList rest).get? k).or (if k = e.1 then some e.2 else none) := by
  rw [ofList, List.foldl_cons, get?_foldl_insert_eq, get?_insert, get?_empty]

theorem Dict.isEmpty_ofList (entries : List (String × α)) : (Dict.ofList entries).isEmpty = entries.isEmpty := by
  cases entries with
  | nil => rfl
  | cons e rest =>
    refine Bool.eq_false_iff.2 fun h => ?_
    have hget := get?_of_isEmpty h e.1
    rw [get?_ofList_cons, if_pos rfl, Option.or_eq_none_iff] at hget
    cases hget.2

section
variable {β : Type} {f : β → Option (String × α)} {l : List β} {k : String}

theorem Dict.get?_ofList_filterMap_eq_none :
    (Dict.ofList (l.filterMap f)).get? k = none ↔ ∀ b ∈ l, ∀ v, f b ≠ some (k, v) := by
  induction l with
  | nil => simp [ofList]
  | cons b l ih =>
    rw [List.forall_mem_cons, ← ih]
    cases hb : f b with
    | none => simp [List.filterMap_cons_none hb]
    | some e =>
      rw [List.filterMap_cons_some hb, get?_ofList_cons, Option.or_eq_none_iff]
      obtain ⟨key, value⟩ := e
      by_cases hk : k = key
      · simp [hk]
      · simp [hk, Ne.symm hk]

/-- The last of equal keys counts. -/
theorem Dict.get?_ofList_filterMap_eq_some {v : α} :
    (Dict.ofList (l.filterMap f)).get? k = some v ↔ ∃ before b after, l = before ++ b :: after ∧ f b = some (k, v) ∧
      ∀ b' ∈ after, ∀ v', f b' ≠ some (k, v') := by
  induction l with
  | nil => simp [ofList]
  | cons b l ih =>
    have hstep : (Dict.ofList ((b :: l).filterMap f)).get? k = some v ↔
        (Dict.ofList (l.filterMap f)).get? k = some v ∨
          (f b = some (k, v) ∧ (Dict.ofList (l.filterMap f)).get? k = none) := by
      cases hb : f b with
      | none => simp [List.filterMap_cons_none hb]
      | some e =>
        obtain ⟨key, value⟩ := e
        rw [List.filterMap_cons_some hb, get?_ofList_cons, Option.or_eq_some_iff]
        by_cases hk : k = key
        · simp [hk, and_comm]
        · simp [hk, Ne.symm hk]
    rw [hstep, ih, get?_ofList_filterMap_eq_none]
    constructor
    · rintro (⟨before, b', after, rfl, hb', hafter⟩ | ⟨hb, hafter⟩)
      · exact ⟨b :: before, b', after, rfl, hb', hafter⟩
      · exact ⟨[], b, l, rfl, hb, hafter⟩
    · rintro ⟨before, b', after, hl, hb', hafter⟩
      cases before with
      | nil =>
        cases hl
        exact .inr ⟨hb', hafter⟩
      | cons c before =>
        cases hl
        exact .inl ⟨before, b', after, rfl, hb', hafter⟩
end

inductive LastValue (names : String → Prop) (pairs : List (String × α)) (value : α) : Prop where
  | intro {before after : List (String × α)} {name : String} (h : pairs = before ++ (name, value) :: after)
    (hname : names name) (hlast : ∀ p ∈ after, ¬names p.1)

section
variable {rename : String → String} {pairs : List (String × α)} {k : String}

theorem Dict.get?_ofList_renamed {v : α} : (Dict.ofList (pairs.map fun p => (rename p.1, p.2))).get? k = some v ↔
    LastValue (fun name => rename name = k) pairs v := by
  rw [← List.filterMap_eq_map, get?_ofList_filterMap_eq_some]
  constructor
  · rintro ⟨before, ⟨name, value⟩, after, h, he, hlast⟩
    cases he
    exact ⟨h, rfl, fun p hp hname => hlast p hp p.2 (by rw [← hname]; rfl)⟩
  · rintro ⟨h, rfl, hlast⟩
    exact ⟨_, _, _, h, rfl, fun p hp v' he => hlast p hp (congrArg Prod.fst (Option.some.inj he))⟩

theorem Dict.get?_ofList_renamed_eq_none : (Dict.ofList (pairs.map fun p => (rename p.1, p.2))).get? k = none ↔
    ∀ p ∈ pairs, rename p.1 ≠ k := by
  rw [← List.filterMap_eq_map, get?_ofList_filterMap_eq_none]
  refine forall₂_congr fun p _ => ⟨fun h hname => h p.2 (by rw [← hname]; rfl), fun h v he => h ?_⟩
  exact congrArg Prod.fst (Option.some.inj he)

end

/-! ## Entries in another order -/

theorem SortedEntries.nodup_keys {entries : List (String × α)} (h : SortedEntries entries) :
    (entries.map (·.1)).Nodup :=
  List.pairwise_map.2 (h.imp String.ne_of_lt)

theorem lookup_eq_none_of_not_mem {entries : List (String × α)} {k : String} (h : k ∉ entries.map (·.1)) :
    entries.lookup k = none :=
  List.lookup_eq_none_iff.2 fun _ he => bne_iff_ne.2 fun hk => h (hk ▸ List.mem_map_of_mem he)

theorem lookup_eq_of_perm {l m : List (String × α)} (h : l.Perm m) (hl : (l.map (·.1)).Nodup) (k : String) :
    l.lookup k = m.lookup k := by
  induction h with
  | nil => rfl
  | cons _ _ ih => rw [lookup_cons, lookup_cons, ih (List.nodup_cons.1 hl).2]
  | swap d e l =>
    have hne : e.1 ≠ d.1 := (List.forall_mem_cons.1 (List.pairwise_cons.1 hl).1).1
    simp only [lookup_cons]
    by_cases hd : k = d.1
    · rw [if_pos hd, if_pos hd, if_neg (hd ▸ hne.symm)]
    · rw [if_neg hd, if_neg hd]
  | trans h₁ _ ih₁ ih₂ => rw [ih₁ hl, ih₂ ((h₁.map _).nodup_iff.1 hl)]

/-- The entry of a key that comes once only is found, whatever is before and behind it. -/
theorem Dict.get?_ofList_of_count_le_one {entries : List (String × α)} {k : String}
    (h : (entries.map (·.1)).count k ≤ 1) : (Dict.ofList entries).get? k = entries.lookup k := by
  induction entries with
  | nil => rfl
  | cons e rest ih =>
    rw [List.map_cons] at h
    have hrest := ih (Nat.le_trans List.count_le_count_cons h)
    rw [get?_ofList_cons, hrest, lookup_cons]
    by_cases hk : k = e.1
    · subst hk
      rw [List.count_cons_self] at h
      have hnone := lookup_eq_none_of_not_mem (List.count_eq_zero.1 (Nat.le_zero.1 (Nat.le_of_succ_le_succ h)))
      rw [if_pos rfl, if_pos rfl, hnone, Option.none_or]
    · rw [if_neg hk, if_neg hk, Option.or_none]

theorem Dict.get?_ofList_of_nodup {entries : List (String × α)} (h : (entries.map (·.1)).Nodup) (k : String) :
    (Dict.ofList entries).get? k = entries.lookup k :=
  get?_ofList_of_count_le_one (List.nodup_iff_count.1 h k)

theorem Dict.ofList_eq_of_perm {d : Dict α} {entries : List (String × α)} (h : entries.Perm d.entries) :
    Dict.ofList entries = d := by
  have hn : (entries.map (·.1)).Nodup := (h.map _).nodup_iff.2 d.sorted.nodup_keys
  exact ext_get? fun k => by rw [get?_ofList_of_nodup hn, lookup_eq_of_perm h hn, get?]

theorem Dict.erase_eq_self {d : Dict α} {key : String} (h : d.get? key = none) : d.erase key = d := by
  refine Dict.ext_get? fun k => ?_
  rw [get?_erase]
  split
  · rename_i hk
    rw [hk, h]
  · rfl

end TraceRelay
