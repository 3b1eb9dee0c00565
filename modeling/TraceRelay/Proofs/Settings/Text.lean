import TraceRelay.Proofs.Dict
import TraceRelay.Proofs.Json.Reading
import TraceRelay.Proofs.Settings.Agreement
import TraceRelay.Settings.Reading

/-!
# The settings of a text that is an object

A text gives the settings that its object gives, as long as it names no setting twice (`ofText_eq_ok_iff`). What is
complained about on the way does not matter for that (`Yields`). The text is read member by member, so the members are
compared first (`yields_readMembers`), and then what they come to with what a look-up by name finds
(`settings_takingMembers`).
-/

namespace TraceRelay

namespace Settings

/-- What a reading yields, whatever was complained about before it. -/
def Yields {α : Type} (r : Reading α) (e : Except JsonFault α) : Prop := ∀ log, (r.run.run log).1 = e

section
variable {α β : Type} {r : Reading α} {f : α → Reading β}

theorem Yields.taken (e : Except JsonFault α) : Yields (ExceptT.mk (pure e)) e := fun _ => rfl

theorem Yields.exists_log {e : Except JsonFault α} (h : Yields r e) (log : List String) :
    ∃ log', r.run.run log = (e, log') :=
  ⟨_, Prod.ext (h log) rfl⟩

theorem Yields.bind {a : α} {e : Except JsonFault β} (hr : Yields r (.ok a)) (hf : Yields (f a) e) :
    Yields (r >>= f) e := by
  intro log
  obtain ⟨log', hrun⟩ := hr.exists_log log
  rw [ExceptT.run_bind, StateT.run_bind, hrun]
  exact hf log'

theorem Yields.bind_error {fault : JsonFault} (hr : Yields r (.error fault)) : Yields (r >>= f) (.error fault) := by
  intro log
  obtain ⟨log', hrun⟩ := hr.exists_log log
  rw [ExceptT.run_bind, StateT.run_bind, hrun]
  rfl

end

/-! ## Members -/

def Draft.taking (d : Draft) (j : Json) : Setting → Except JsonFault Draft
  | .rate => .ok { d with rate := some (rateOfJson j) }
  | .propagate =>
    match Flag.ofJson j with
    | .ok b => .ok { d with propagate := some b }
    | .error _ => .error .misfit
  | .logLevel => .ok { d with logLevel := some (levelOfJson j) }

def Draft.takingMember (d : Draft) (m : String × Json) : Except JsonFault Draft :=
  match Setting.ofKey? m.1 with
  | some f => if f.isRead d then .error .misfit else d.taking m.2 f
  | none => .ok d

theorem yields_store (d : Draft) (j : Json) (f : Setting) : Yields (d.store j f) (d.taking j f) := by
  cases f with
  | rate => exact fun _ => rfl
  | propagate =>
    unfold Draft.store Draft.taking
    cases Flag.ofJson j with
    | ok b => exact fun _ => rfl
    | error e => exact fun _ => rfl
  | logLevel => exact fun _ => rfl

theorem yields_readMember {d : Draft} {k : String} {j : Json} {fuel : Nat} {cs start rest : List Char}
    (hcolon : Json.colon cs = .ok start) (hvalue : Json.value true fuel (Json.depthLimit - 1) start = .ok (j, rest)) :
    Yields (readMember d k cs) ((d.takingMember (k, j)).map (·, rest)) := by
  obtain ⟨hkept, hskipped, -⟩ := Json.kept_and_skipped hvalue
  unfold readMember Draft.takingMember
  cases Setting.ofKey? k with
  | none =>
    dsimp only
    rw [hcolon]
    refine (Yields.taken _).bind ?_
    rw [hskipped]
    exact (Yields.taken _).bind fun _ => rfl
  | some f =>
    dsimp only
    split
    · exact fun _ => rfl
    · rw [hcolon]
      refine (Yields.taken _).bind ?_
      unfold readField
      rw [hkept]
      refine (Yields.taken _).bind ?_
      have hstore := yields_store d j f
      cases htaking : d.taking j f with
      | ok d' => exact (htaking ▸ hstore).bind fun _ => rfl
      | error fault => exact (htaking ▸ hstore).bind_error

theorem yields_readMembers {d : Draft} {fuel fuel' : Nat} {first : Bool} {cs rest : List Char}
    {ms : List (String × Json)} (h : Json.objectMembers true fuel (Json.depthLimit - 1) first cs = .ok (ms, rest))
    (hfuel : cs.length < fuel') :
    Yields (readMembers d fuel' first cs) ((ms.foldlM Draft.takingMember d).map (·, rest)) := by
  induction fuel generalizing d fuel' first cs ms with
  | zero => cases h
  | succ fuel ih =>
    obtain ⟨fuel', rfl⟩ := Nat.exists_eq_succ_of_ne_zero (n := fuel') (by omega)
    have hgaps := Json.length_skipGaps_le cs
    obtain ⟨c, tail, hcs, h⟩ := Json.objectMembers_eq_ok_iff.1 h
    rw [Nat.succ_eq_add_one, readMembers]
    rw [hcs] at hgaps ⊢
    dsimp only
    rcases h with ⟨hc, rfl, rfl⟩ | ⟨hc, start, k, rest1, rest2, j, rest3, ms', hstart, hk, hcolon, hj, hms, rfl⟩
    · rw [if_pos hc]
      exact fun _ => rfl
    · rw [if_neg hc, hstart]
      refine (Yields.taken _).bind ?_
      rw [hk]
      refine (Yields.taken _).bind ?_
      have hmember := yields_readMember (d := d) (k := k) hcolon hj
      rw [List.foldlM_cons]
      cases htaking : d.takingMember (k, j) with
      | error fault => exact (htaking ▸ hmember).bind_error
      | ok d' =>
        refine (htaking ▸ hmember).bind ?_
        have hlen := Json.length_of_itemStart hstart
        have hlen1 := (Json.key_again hk).1
        have hlen2 := Json.length_of_colon hcolon
        have hlen3 := (Json.kept_and_skipped hj).2.2
        exact ih hms (show rest3.length < fuel' by omega)

/-! ## Settings by name -/

namespace Setting

def key : Setting → String
  | rate => rateKey
  | propagate => propagateKey
  | logLevel => logLevelKey

variable {f g : Setting} {k : String}

theorem ofKey?_key (f : Setting) : ofKey? f.key = some f := by
  cases f <;> rfl

theorem key_of_ofKey? (h : ofKey? k = some f) : k = f.key := by
  unfold ofKey? at h
  split_ifs at h <;> cases h <;> assumption

theorem key_ne_of_ofKey? (h : ofKey? k = none) (f : Setting) : f.key ≠ k := by
  rintro rfl
  rw [ofKey?_key] at h
  cases h

theorem key_inj (h : f.key = g.key) : f = g :=
  Option.some.inj (by rw [← ofKey?_key f, h, ofKey?_key])

theorem isRead_taking {d d' : Draft} {j : Json} (h : d.taking j f = .ok d') (hg : g.isRead d' = true) :
    g = f ∨ g.isRead d = true := by
  cases f with
  | rate =>
    cases h
    cases g with
    | rate => exact .inl rfl
    | propagate => exact .inr hg
    | logLevel => exact .inr hg
  | propagate =>
    unfold Draft.taking at h
    cases hj : Flag.ofJson j with
    | error e =>
      rw [hj] at h
      cases h
    | ok b =>
      rw [hj] at h
      cases h
      cases g with
      | rate => exact .inr hg
      | propagate => exact .inl rfl
      | logLevel => exact .inr hg
  | logLevel =>
    cases h
    cases g with
    | rate => exact .inr hg
    | propagate => exact .inr hg
    | logLevel => exact .inl rfl

end Setting

/-- The settings that fields make of others; what is not given stays as it is. -/
def overlaid (s : Settings) (field : Setting → Option Json) : Except FlagError Settings := do
  let propagate ← (field .propagate).elim (.ok s.propagate) Flag.ofJson
  .ok ⟨(field .rate).elim s.rate rateOfJson, propagate, (field .logLevel).elim s.logLevel levelOfJson⟩

def fitted (e : Except FlagError Settings) : Except JsonFault Settings := e.mapError fun _ => .misfit

/-- One field after the other comes to the same as all of them together. -/
theorem overlaid_taking {d : Draft} {j : Json} {f : Setting} {field field' : Setting → Option Json}
    (hf : field' f = some j) (hnone : field f = none) (hne : ∀ g ≠ f, field' g = field g) :
    fitted (overlaid d.settings field') = d.taking j f >>= fun d' => fitted (overlaid d'.settings field) := by
  unfold overlaid Draft.taking
  cases f with
  | rate =>
    rw [hf, hne .propagate nofun, hne .logLevel nofun, hnone]
    rfl
  | propagate =>
    rw [hf, hne .rate nofun, hne .logLevel nofun, hnone, Option.elim_some]
    cases Flag.ofJson j with
    | ok b => rfl
    | error e => rfl
  | logLevel =>
    rw [hf, hne .rate nofun, hne .propagate nofun, hnone]
    rfl

theorem settings_takingMembers {d : Draft} {ms : List (String × Json)}
    (honce : ∀ f : Setting, (ms.map Prod.fst).count f.key ≤ 1)
    (hfresh : ∀ f : Setting, f.isRead d = true → f.key ∉ ms.map Prod.fst) :
    (ms.foldlM Draft.takingMember d).map Draft.settings =
      fitted (overlaid d.settings fun f => ms.lookup f.key) := by
  induction ms generalizing d with
  | nil => rfl
  | cons m ms ih =>
    obtain ⟨k, j⟩ := m
    have honce' : ∀ f : Setting, (ms.map Prod.fst).count f.key ≤ 1 := fun f =>
      Nat.le_trans List.count_le_count_cons (honce f)
    rw [List.foldlM_cons]
    unfold Draft.takingMember
    cases hk : Setting.ofKey? k with
    | none =>
      have hlookup : ∀ f : Setting, ((k, j) :: ms).lookup f.key = ms.lookup f.key := fun f => by
        rw [lookup_cons, if_neg (Setting.key_ne_of_ofKey? hk f)]
      simp only [hlookup]
      exact ih honce' fun f hf h => hfresh f hf (List.mem_cons_of_mem _ h)
    | some f =>
      obtain rfl := Setting.key_of_ofKey? hk
      dsimp only
      have hnew : f.key ∉ ms.map Prod.fst := by
        have h := honce f
        rw [List.map_cons, List.count_cons_self] at h
        exact List.count_eq_zero.1 (by omega)
      rw [if_neg fun h => hfresh f h List.mem_cons_self]
      have hfield : ((f.key, j) :: ms).lookup f.key = some j := by rw [lookup_cons, if_pos rfl]
      have hrest : ∀ g ≠ f, ((f.key, j) :: ms).lookup g.key = ms.lookup g.key := fun g hg => by
        rw [lookup_cons, if_neg fun h => hg (Setting.key_inj h)]
      have hstep : fitted (overlaid d.settings fun g => ((f.key, j) :: ms).lookup g.key) =
          d.taking j f >>= fun d' => fitted (overlaid d'.settings fun g => ms.lookup g.key) :=
        overlaid_taking hfield (lookup_eq_none_of_not_mem hnew) hrest
      rw [hstep]
      cases htaking : d.taking j f with
      | error fault => rfl
      | ok d' =>
        refine ih honce' fun g hg => ?_
        rcases Setting.isRead_taking htaking hg with rfl | hg
        · exact hnew
        · exact fun h => hfresh g hg (List.mem_cons_of_mem _ h)

/-- A text is an object, and no setting is named twice in it. -/
def NamesOnce (text : String) : Prop :=
  ∃ ms, Json.membersOfText text = .ok ms ∧ ∀ f : Setting, (ms.map Prod.fst).count f.key ≤ 1

theorem yields_readText {text : String} {ms : List (String × Json)} (h : Json.membersOfText text = .ok ms) :
    Yields (readText text) ((ms.foldlM Draft.takingMember .empty).map Draft.settings) := by
  obtain ⟨tail, rest, hcs, hms, hfinish⟩ := Json.membersOfText_eq_ok_iff.1 h
  have hmembers := yields_readMembers (d := .empty) hms (Nat.lt_succ_self _)
  unfold readText
  rw [hcs]
  dsimp only
  rw [if_pos rfl]
  cases hfold : ms.foldlM Draft.takingMember .empty with
  | error fault => exact (hfold ▸ hmembers).bind_error
  | ok d =>
    refine (hfold ▸ hmembers).bind ?_
    dsimp only
    rw [hfinish]
    exact (Yields.taken _).bind fun _ => rfl

theorem fitted_eq_ok_iff {e : Except FlagError Settings} {s : Settings} : fitted e = .ok s ↔ e = .ok s := by
  cases e with
  | ok t => exact ⟨fun h => by cases h; rfl, fun h => by cases h; rfl⟩
  | error e => exact ⟨nofun, nofun⟩

/-- A text that is an object and names no setting twice gives the settings of the object. -/
theorem ofText_eq_ok_iff {text : String} {o : List (String × Json)} {s : Settings}
    (h : Json.ofText text = .ok (.object o)) (honce : NamesOnce text) :
    (ofText text).1 = .ok s ↔ ofJson (.object o) = .ok s := by
  obtain ⟨ms, hms, hcount⟩ := honce
  obtain ⟨ms', hms', ho⟩ := Json.ofText_object_iff.1 h
  cases hms.symm.trans hms'
  have hlookup : ∀ f : Setting, o.lookup f.key = ms.lookup f.key := by
    intro f
    rw [ofMembers_eq] at ho
    cases ho
    exact Dict.get?_ofList_of_count_le_one (hcount f)
  have htext : (ofText text).1 = _ := yields_readText hms []
  rw [htext, settings_takingMembers hcount (fun f hf => by cases f <;> cases hf), fitted_eq_ok_iff,
    ofJson_object_eq_ok_iff]
  have hfields : ofFields (o.lookup rateKey) (o.lookup propagateKey) (o.lookup logLevelKey) =
      overlaid defaults fun f => o.lookup f.key := rfl
  rw [hfields]
  simp only [hlookup]
  rfl

end Settings

end TraceRelay
