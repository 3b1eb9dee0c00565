import TraceRelay.Context
import TraceRelay.Proofs.Dict

/-!
# Updates of a context

An update goes through the entries of a map one by one. As their keys differ, all that it does is to set three
fields to what stands under their names (`update_entries`). So the order of the entries does not matter
(`update_of_perm`), the same map once more changes nothing (`update_update`), and neither does a map without
an entry that is taken (`update_eq_self`).
-/

namespace TraceRelay

namespace Context
variable {c : Context}

def traceIdOf? : Json → Option TraceId
  | .text id => some ⟨id⟩
  | _ => none

def parentSpanIdOf? : Json → Option (Option SpanId)
  | .text id => some (some ⟨id⟩)
  | .null => some none
  | _ => none

def parentSampledOf? : Json → Option (Option Bool)
  | .bool b => some (some b)
  | .null => some none
  | _ => none

/-- Those of the three fields are set that have a new value. The span id stays only with its trace. -/
def overwrite (c : Context) (traceId : Option TraceId) (parentSpanId : Option (Option SpanId))
    (parentSampled : Option (Option Bool)) : Context where
  traceId := traceId.or c.traceId
  spanId := if ∀ id ∈ traceId, c.traceId = some id then c.spanId else none
  parentSpanId := parentSpanId.getD c.parentSpanId
  parentSampled := parentSampled.getD c.parentSampled
  items := c.items

theorem overwrite_overwrite {t t' : Option TraceId} {p p' : Option (Option SpanId)} {q q' : Option (Option Bool)}
    (h : ∀ a ∈ t, ∀ b ∈ t', a = b) :
    (c.overwrite t p q).overwrite t' p' q' = c.overwrite (t'.or t) (p'.or p) (q'.or q) := by
  unfold overwrite
  congr 1
  · rw [Option.or_assoc]
  · cases t' with
    | none => simp
    | some b =>
      cases t with
      | none => simp
      | some a => rw [h a rfl b rfl]; simp
  · cases p' <;> rfl
  · cases q' <;> rfl

theorem updateBy?_traceId (c : Context) (v : Json) :
    (c.updateBy? ("trace_id", v)).getD c = c.overwrite (traceIdOf? v) none none := by
  cases v with
  | text id =>
    show c.renewTrace ⟨id⟩ = _
    obtain ⟨traceId, spanId, parentSpanId, parentSampled, items⟩ := c
    unfold renewTrace overwrite
    by_cases h : traceId = some ⟨id⟩ <;> simp [h, traceIdOf?]
  | _ => rfl

theorem updateBy?_parentSpanId (c : Context) (v : Json) :
    (c.updateBy? ("parent_span_id", v)).getD c = c.overwrite none (parentSpanIdOf? v) none := by
  cases v <;> rfl

theorem updateBy?_parentSampled (c : Context) (v : Json) :
    (c.updateBy? ("parent_sampled", v)).getD c = c.overwrite none none (parentSampledOf? v) := by
  cases v <;> rfl

inductive IsTaken : String × Json → Prop where
  | traceId (id : String) : IsTaken ("trace_id", .text id)
  | parentSpanId (id : String) : IsTaken ("parent_span_id", .text id)
  | noParentSpanId : IsTaken ("parent_span_id", .null)
  | parentSampled (b : Bool) : IsTaken ("parent_sampled", .bool b)
  | noParentSampled : IsTaken ("parent_sampled", .null)

theorem updateBy?_eq_none {e : String × Json} (h : ¬IsTaken e) (c : Context) : c.updateBy? e = none := by
  unfold updateBy?
  split
  · exact absurd (.traceId _) h
  · exact absurd (.parentSpanId _) h
  · exact absurd .noParentSpanId h
  · exact absurd (.parentSampled _) h
  · exact absurd .noParentSampled h
  · rfl

/-! ## All entries -/

theorem update_cons (c : Context) (e : String × Json) (rest : List (String × Json)) :
    c.update (e :: rest) = ((c.updateBy? e).getD c).update rest := rfl

theorem update_eq_self {entries : List (String × Json)} (h : ∀ e ∈ entries, ¬IsTaken e) (c : Context) :
    c.update entries = c := by
  induction entries with
  | nil => rfl
  | cons e rest ih =>
    obtain ⟨he, hrest⟩ := List.forall_mem_cons.1 h
    rw [update_cons, updateBy?_eq_none he, Option.getD_none, ih hrest]

/-- What an update does, whatever the order of its entries. -/
theorem update_eq {entries : List (String × Json)} (h : (entries.map (·.1)).Nodup) (c : Context) :
    c.update entries = c.overwrite ((entries.lookup "trace_id").bind traceIdOf?)
      ((entries.lookup "parent_span_id").bind parentSpanIdOf?)
      ((entries.lookup "parent_sampled").bind parentSampledOf?) := by
  induction entries generalizing c with
  | nil => rfl
  | cons e rest ih =>
    obtain ⟨he, hrest⟩ := List.nodup_cons.1 h
    have hnone := lookup_eq_none_of_not_mem he
    obtain ⟨key, v⟩ := e
    rw [update_cons, ih hrest, lookup_cons, lookup_cons, lookup_cons]
    -- the key of an entry does not come again, so the rest says nothing about the same field
    by_cases ht : key = "trace_id"
    · subst ht
      rw [updateBy?_traceId, overwrite_overwrite (by rw [hnone]; nofun), hnone]
      simp
    · by_cases hp : key = "parent_span_id"
      · subst hp
        rw [updateBy?_parentSpanId, overwrite_overwrite (by nofun), hnone]
        simp
      · by_cases hq : key = "parent_sampled"
        · subst hq
          rw [updateBy?_parentSampled, overwrite_overwrite (by nofun), hnone]
          simp
        · have hnot : ¬IsTaken (key, v) := by rintro ⟨⟩ <;> contradiction
          rw [updateBy?_eq_none hnot, Option.getD_none, if_neg (Ne.symm ht), if_neg (Ne.symm hp),
            if_neg (Ne.symm hq)]

theorem update_entries (c : Context) (m : Dict Json) :
    c.update m.entries = c.overwrite ((m.get? "trace_id").bind traceIdOf?)
      ((m.get? "parent_span_id").bind parentSpanIdOf?) ((m.get? "parent_sampled").bind parentSampledOf?) :=
  update_eq m.sorted.nodup_keys c

theorem update_of_perm {m : Dict Json} {entries : List (String × Json)} (h : entries.Perm m.entries) (c : Context) :
    c.update entries = c.update m.entries := by
  have hn : (entries.map (·.1)).Nodup := (h.map _).nodup_iff.2 m.sorted.nodup_keys
  rw [update_eq hn, update_eq m.sorted.nodup_keys, lookup_eq_of_perm h hn, lookup_eq_of_perm h hn,
    lookup_eq_of_perm h hn]

theorem update_update (c : Context) (m : Dict Json) : (c.update m.entries).update m.entries = c.update m.entries := by
  rw [update_entries c m, update_entries, overwrite_overwrite fun a ha b hb => Option.mem_unique ha hb,
    Option.or_self, Option.or_self, Option.or_self]

theorem traceIdOf?_eq_some {v : Json} {id : TraceId} : traceIdOf? v = some id ↔ v = .text id.text := by
  cases v with
  | text text => exact ⟨fun h => by cases h; rfl, fun h => by cases h; rfl⟩
  | _ => exact ⟨nofun, nofun⟩

end Context

end TraceRelay
