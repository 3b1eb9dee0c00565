import TraceRelay.Journal
import TraceRelay.Proofs.TraceHeader

/-!
# What a run can give

A run is taken apart along its binds (`gives_bind`); what it notes on the way does not matter for
its result. Nor does it matter for whether there is one (`returns_bind`): only a search that is given
up takes that away (`returns_found`).
-/

namespace TraceRelay

namespace Run
variable {α β : Type} {s : Supply}

/-- The run returns a value with this supply, however far the service has come. -/
def Gives (r : Run α) (s : Supply) (a : α) : Prop := ∃ p p', (r.run s).run p = some (a, p')

theorem gives_bind {m : Run α} {f : α → Run β} {b : β} (h : (m >>= f).Gives s b) :
    ∃ a, m.Gives s a ∧ (f a).Gives s b := by
  obtain ⟨p, p', h⟩ := h
  rw [ReaderT.run_bind, StateT.run_bind] at h
  obtain ⟨⟨a, q⟩, ha, hb⟩ := Option.bind_eq_some_iff.1 h
  exact ⟨a, ⟨p, q, ha⟩, ⟨q, p', hb⟩⟩

@[simp] theorem gives_pure {a b : α} : (pure a : Run α).Gives s b ↔ b = a := by
  refine ⟨fun ⟨_, _, h⟩ => ?_, fun h => ⟨.start, .start, by rw [h]; rfl⟩⟩
  cases h
  rfl

@[simp] theorem gives_read {s' : Supply} : (read : Run Supply).Gives s s' ↔ s' = s := by
  refine ⟨fun ⟨_, _, h⟩ => ?_, fun h => ⟨.start, .start, by rw [h]; rfl⟩⟩
  cases h
  rfl

theorem gives_found {o : Option α} {a : α} (h : (found o).Gives s a) : o = some a := by
  obtain ⟨p, p', h⟩ := h
  rw [run_found] at h
  obtain ⟨_, ha, he⟩ := Option.map_eq_some_iff.1 h
  cases he
  exact ha

theorem gives_of_run {r : Run α} (f : α → β) {b : β} (h : ((r.run s).run .start).map (fun x => f x.1) = some b) :
    ∃ a, r.Gives s a ∧ f a = b := by
  obtain ⟨⟨a, p⟩, ha, hb⟩ := Option.map_eq_some_iff.1 h
  exact ⟨a, ⟨.start, p, ha⟩, hb⟩

theorem isWire_of_freshTraceId {id : TraceId} (h : freshTraceId.Gives s id) : id.IsWire := by
  obtain ⟨p, p', h⟩ := h
  cases h
  exact TraceId.isWire_ofNumber _

theorem isWire_of_freshSpanId {id : SpanId} (h : freshSpanId.Gives s id) : id.IsWire := by
  obtain ⟨p, p', h⟩ := h
  cases h
  exact SpanId.isWire_ofNumber _

def Returns (r : Run α) (s : Supply) : Prop := ∀ p, ((r.run s).run p).isSome

theorem exists_gives {r : Run α} (h : r.Returns s) : ∃ a, r.Gives s a := by
  obtain ⟨⟨a, p'⟩, ha⟩ := Option.isSome_iff_exists.1 (h .start)
  exact ⟨a, .start, p', ha⟩

theorem returns_bind {m : Run α} {f : α → Run β} (hm : m.Returns s) (hf : ∀ a, m.Gives s a → (f a).Returns s) :
    (m >>= f).Returns s := by
  intro p
  obtain ⟨⟨a, q⟩, ha⟩ := Option.isSome_iff_exists.1 (hm p)
  rw [ReaderT.run_bind, StateT.run_bind, ha]
  exact hf a ⟨p, q, ha⟩ q

theorem returns_pure (a : α) : (pure a : Run α).Returns s := fun _ => rfl

theorem returns_read : (read : Run Supply).Returns s := fun _ => rfl

theorem returns_notes (ns : List Note) : (notes ns).Returns s := fun _ => rfl

theorem returns_freshTraceId : freshTraceId.Returns s := fun _ => rfl

theorem returns_freshSpanId : freshSpanId.Returns s := fun _ => rfl

theorem returns_found {o : Option α} (h : o.isSome) : (found o).Returns s := by
  intro p
  rw [run_found, Option.isSome_map]
  exact h

/-! ## Runs that differ in what they note -/

def outcome (r : Run α) (s : Supply) (p : Progress) : Option (α × Nat × Nat) :=
  ((r.run s).run p).map fun x => (x.1, x.2.tracesTaken, x.2.spansTaken)

/-- With the same supply of ids both runs give the same, or neither gives anything. -/
def Agree (r r' : Run α) : Prop := ∀ s p p', p.tracesTaken = p'.tracesTaken → p.spansTaken = p'.spansTaken →
  r.outcome s p = r'.outcome s p'

theorem agree_bind {m m' : Run α} {f f' : α → Run β} (hm : Agree m m') (hf : ∀ a, Agree (f a) (f' a)) :
    Agree (m >>= f) (m' >>= f') := by
  intro s p p' ht hs
  have h := hm s p p' ht hs
  unfold outcome at h ⊢
  rw [ReaderT.run_bind, ReaderT.run_bind, StateT.run_bind, StateT.run_bind]
  cases hr : (m.run s).run p with
  | none =>
    rw [hr] at h
    rw [Option.map_eq_none_iff.1 h.symm]
    rfl
  | some x =>
    rw [hr] at h
    obtain ⟨x', hr', hx⟩ := Option.map_eq_some_iff.1 h.symm
    rw [hr']
    -- both have given one value and taken the same ids, so they go on alike
    obtain ⟨a, q⟩ := x
    obtain ⟨a', q'⟩ := x'
    simp only [Prod.mk.injEq] at hx
    obtain ⟨rfl, ht', hs'⟩ := hx
    exact hf _ s q q' ht'.symm hs'.symm

theorem agree_pure (a : α) : Agree (pure a : Run α) (pure a) := by
  intro s p p' ht hs
  simp [outcome, ht, hs]

theorem agree_read : Agree (read : Run Supply) read := by
  intro s p p' ht hs
  show some (s, p.tracesTaken, p.spansTaken) = some (s, p'.tracesTaken, p'.spansTaken)
  rw [ht, hs]

theorem agree_notes (ns ns' : List Note) : Agree (notes ns) (notes ns') := by
  intro s p p' ht hs
  simp [outcome, ht, hs]

theorem agree_found (o : Option α) : Agree (found o) (found o) := by
  intro s p p' ht hs
  cases o <;> simp [outcome, ht, hs]

theorem agree_freshTraceId : Agree freshTraceId freshTraceId := by
  intro s p p' ht hs
  simp [outcome, ht, hs]

theorem agree_freshSpanId : Agree freshSpanId freshSpanId := by
  intro s p p' ht hs
  simp [outcome, ht, hs]

end Run

def Supply.counting : Supply := ⟨id, id, 4⟩

end TraceRelay
