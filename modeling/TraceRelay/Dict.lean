/-!
# Sorted tables

A table from texts to values, kept in strictly increasing order of its keys, so that two tables with
the same entries are equal and are written in one order. Insertion and look-up work on any list of
entries; sortedness is what makes the list unique.
-/

namespace TraceRelay

section
variable {α : Type}

/-- Puts an entry before the first greater key, in place of one with the same key. -/
def insertEntry (key : String) (value : α) : List (String × α) → List (String × α)
  | [] => [(key, value)]
  | e :: rest =>
    if key < e.1 then (key, value) :: e :: rest
    else if key = e.1 then (key, value) :: rest
    else e :: insertEntry key value rest

def eraseEntry (key : String) (entries : List (String × α)) : List (String × α) :=
  entries.filter fun e => e.1 ≠ key

def SortedEntries (entries : List (String × α)) : Prop := entries.Pairwise fun a b => a.1 < b.1

theorem lookup_cons (k : String) (e : String × α) (rest : List (String × α)) :
    (e :: rest).lookup k = if k = e.1 then some e.2 else rest.lookup k := by
  obtain ⟨key, value⟩ := e
  by_cases h : k = key
  · simp [h]
  · simp [List.lookup_cons, h, beq_eq_false_iff_ne.2 h]

theorem lookup_insertEntry (key k : String) (value : α) (entries : List (String × α)) :
    (insertEntry key value entries).lookup k =
      if k = key then some value else entries.lookup k := by
  induction entries with
  | nil => simp [insertEntry, lookup_cons]
  | cons e rest ih => grind [insertEntry, lookup_cons]

theorem lookup_eraseEntry (key k : String) (entries : List (String × α)) :
    (eraseEntry key entries).lookup k = if k = key then none else entries.lookup k := by
  unfold eraseEntry
  induction entries with
  | nil => simp
  | cons e rest ih => grind [lookup_cons]

theorem mem_insertEntry {key : String} {value : α} {e : String × α} {entries : List (String × α)}
    (h : e ∈ insertEntry key value entries) : e = (key, value) ∨ e ∈ entries := by
  induction entries with
  | nil => simpa [insertEntry] using h
  | cons d rest ih =>
    rw [insertEntry] at h
    split at h
    · simpa using h
    · split at h
      · rcases List.mem_cons.1 h with h | h
        · exact .inl h
        · exact .inr (List.mem_cons_of_mem _ h)
      · rcases List.mem_cons.1 h with rfl | h
        · exact .inr (List.mem_cons_self ..)
        · exact (ih h).imp_right (List.mem_cons_of_mem _)

theorem lt_of_not_lt_of_ne {a b : String} (h : ¬a < b) (hne : a ≠ b) : b < a := by
  rcases Decidable.em (b < a) with h' | h'
  · exact h'
  · exact absurd (String.le_antisymm h' h) hne

theorem SortedEntries.insertEntry {entries : List (String × α)} (h : SortedEntries entries)
    (key : String) (value : α) : SortedEntries (insertEntry key value entries) := by
  induction entries with
  | nil => simp [TraceRelay.insertEntry, SortedEntries]
  | cons e rest ih =>
    obtain ⟨he, hr⟩ := List.pairwise_cons.1 h
    rw [TraceRelay.insertEntry]
    split
    · rename_i hk
      refine List.pairwise_cons.2 ⟨fun d hd => ?_, h⟩
      rcases List.mem_cons.1 hd with rfl | hd
      · exact hk
      · exact String.lt_trans hk (he d hd)
    · split
      · rename_i hk
        exact List.pairwise_cons.2 ⟨fun d hd => hk ▸ he d hd, hr⟩
      · rename_i hlt hk
        refine List.pairwise_cons.2 ⟨fun d hd => ?_, ih hr⟩
        rcases mem_insertEntry hd with rfl | hd
        · exact lt_of_not_lt_of_ne hlt hk
        · exact he d hd

theorem SortedEntries.eraseEntry {entries : List (String × α)} (h : SortedEntries entries)
    (key : String) : SortedEntries (eraseEntry key entries) :=
  List.Pairwise.filter _ h

theorem lookup_eq_none_of_lt {entries : List (String × α)} {k : String}
    (h : ∀ e ∈ entries, k < e.1) : entries.lookup k = none := by
  rw [List.lookup_eq_none_iff]
  intro e he
  have := String.ne_of_lt (h e he)
  simpa using this

theorem lookup_eq_none_of_head_lt {e : String × α} {entries : List (String × α)} {k : String}
    (h : k < e.1) (he : ∀ d ∈ entries, e.1 < d.1) : (e :: entries).lookup k = none :=
  lookup_eq_none_of_lt fun d hd => by
    rcases List.mem_cons.1 hd with rfl | hd
    · exact h
    · exact String.lt_trans h (he d hd)

theorem SortedEntries.eq_of_lookup {l m : List (String × α)} (hl : SortedEntries l)
    (hm : SortedEntries m) (h : ∀ k, l.lookup k = m.lookup k) : l = m := by
  induction l generalizing m with
  | nil =>
    cases m with
    | nil => rfl
    | cons e rest => simpa [lookup_cons] using h e.1
  | cons d l ih =>
    obtain ⟨hd, hl⟩ := List.pairwise_cons.1 hl
    cases m with
    | nil => simpa [lookup_cons] using h d.1
    | cons e m =>
      obtain ⟨he, hm⟩ := List.pairwise_cons.1 hm
      have hde : d.1 = e.1 := by
        apply Decidable.byContradiction
        intro hne
        rcases Decidable.em (d.1 < e.1) with hlt | hlt
        · have := h d.1
          rw [lookup_eq_none_of_head_lt hlt he] at this
          simp [lookup_cons] at this
        · have hlt := lt_of_not_lt_of_ne hlt hne
          have := h e.1
          rw [lookup_eq_none_of_head_lt hlt hd] at this
          simp [lookup_cons] at this
      have hval : d.2 = e.2 := by simpa [lookup_cons, hde] using h d.1
      have htail : ∀ k, l.lookup k = m.lookup k := by
        intro k
        by_cases hk : k = d.1
        · subst hk
          rw [lookup_eq_none_of_lt hd, lookup_eq_none_of_lt (hde ▸ he)]
        · have := h k
          simpa [lookup_cons, hk, hde ▸ hk] using this
      rw [Prod.ext hde hval, ih hl hm htail]

end

/-! ## Tables -/

/-- A table whose keys are texts, in increasing order. -/
structure Dict (α : Type) where
  entries : List (String × α)
  sorted : SortedEntries entries

namespace Dict
variable {α : Type}

instance [DecidableEq α] : DecidableEq (Dict α)
  | ⟨l, _⟩, ⟨m, _⟩ =>
    if h : l = m then .isTrue (by subst h; rfl) else .isFalse fun e => h (by cases e; rfl)

def empty : Dict α := ⟨[], List.Pairwise.nil⟩

def get? (d : Dict α) (key : String) : Option α := d.entries.lookup key

def insert (d : Dict α) (key : String) (value : α) : Dict α :=
  ⟨insertEntry key value d.entries, d.sorted.insertEntry key value⟩

def erase (d : Dict α) (key : String) : Dict α :=
  ⟨eraseEntry key d.entries, d.sorted.eraseEntry key⟩

def insertNew (d : Dict α) (key : String) (value : α) : Dict α :=
  if (d.get? key).isSome then d else d.insert key value

def isEmpty (d : Dict α) : Bool := d.entries.isEmpty

/-- The table of a list of entries; of equal keys the last one counts. -/
def ofList (entries : List (String × α)) : Dict α :=
  entries.foldl (fun d e => d.insert e.1 e.2) empty

@[simp] theorem get?_empty (k : String) : (empty : Dict α).get? k = none := rfl

@[simp] theorem get?_insert (d : Dict α) (key k : String) (value : α) :
    (d.insert key value).get? k = if k = key then some value else d.get? k :=
  lookup_insertEntry ..

@[simp] theorem get?_erase (d : Dict α) (key k : String) :
    (d.erase key).get? k = if k = key then none else d.get? k :=
  lookup_eraseEntry ..

theorem ext_get? {d e : Dict α} (h : ∀ k, d.get? k = e.get? k) : d = e := by
  obtain ⟨l, hl⟩ := d
  obtain ⟨m, hm⟩ := e
  congr 1
  exact hl.eq_of_lookup hm h

end Dict

end TraceRelay
