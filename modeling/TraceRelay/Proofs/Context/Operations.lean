import TraceRelay.Proofs.Context.Update
import TraceRelay.Proofs.Sending

/-!
# Runs of operations on a context

A context is asked for its ids, given others, updated and sent, in any order. What one operation can do is said
once (`Passes`), and a run is a chain of such steps (`Chain`). So an id that was read stays until an operation
brings another (`Chain.traceId_kept`, `Chain.spanId_kept`).
-/

namespace TraceRelay

open Run

namespace Context

inductive Operation where
  | traceId
  | spanId
  | setTraceId (id : TraceId)
  | setSpanId (id : SpanId)
  | update (m : Dict Json)
  | traceHeader
  | baggage
  | inject (enabled : Bool) (carrier : Carrier)

inductive Reply where
  | traceId (id : TraceId)
  | spanId (id : SpanId)
  | traceHeader (header : TraceHeader)
  | baggage (b : Baggage)
  | carrier (carrier : Carrier)
  | done

def perform (c : Context) : Operation → Run (Reply × Context)
  | .traceId => do
    let (id, c) ← c.fixTraceId
    return (.traceId id, c)
  | .spanId => do
    let (id, c) ← c.fixSpanId
    return (.spanId id, c)
  | .setTraceId id => return (.done, c.setTraceId id)
  | .setSpanId id => return (.done, c.setSpanId id)
  | .update m => do return (.done, ← c.applyUpdate m.entries)
  | .traceHeader => do
    let (header, c) ← c.traceHeader
    return (.traceHeader header, c)
  | .baggage => return (.baggage c.baggage, c)
  | .inject enabled carrier => do
    let (carrier, c) ← c.inject enabled carrier
    return (.carrier carrier, c)

structure Step where
  before : Context
  operation : Operation
  reply : Reply
  after : Context

def performAll (c : Context) : List Operation → Run (List Step)
  | [] => return []
  | operation :: rest => do
    let (reply, after) ← c.perform operation
    return ⟨c, operation, reply, after⟩ :: (← after.performAll rest)

/-! ## What an operation can do -/

def Reads {α : Type} (known : Option α) (id : α) : Prop := ∀ a ∈ known, a = id

def fixed (c : Context) (traceId : TraceId) (spanId : SpanId) : Context :=
  { c with traceId := some traceId, spanId := some spanId }

inductive Passes (c : Context) : Operation → Reply → Context → Prop where
  | traceId {id : TraceId} (h : Reads c.traceId id) :
    Passes c .traceId (.traceId id) { c with traceId := some id }
  | spanId {id : SpanId} (h : Reads c.spanId id) :
    Passes c .spanId (.spanId id) { c with spanId := some id }
  | setTraceId (id : TraceId) : Passes c (.setTraceId id) .done { c with traceId := some id }
  | setSpanId (id : SpanId) : Passes c (.setSpanId id) .done { c with spanId := some id }
  | update (m : Dict Json) : Passes c (.update m) .done (c.update m.entries)
  | traceHeader {t : TraceId} {p : SpanId} (ht : Reads c.traceId t) (hp : Reads c.spanId p) :
    Passes c .traceHeader (.traceHeader ⟨t, p, c.parentSampled⟩) (c.fixed t p)
  | baggage : Passes c .baggage (.baggage c.baggage) c
  | injectNothing (carrier : Carrier) : Passes c (.inject false carrier) (.carrier carrier) c
  | inject {t : TraceId} {p : SpanId} (ht : Reads c.traceId t) (hp : Reads c.spanId p) (carrier : Carrier) :
    Passes c (.inject true carrier)
      (.carrier ((sentHeaders ⟨t, p, c.parentSampled⟩ c.baggage).foldl (fun k e => k.set e.1 e.2) carrier))
      (c.fixed t p)

section
variable {s : Supply} {c d : Context}

theorem reads_of_known {α : Type} {known : Option α} {id : α} {fresh : Prop}
    (h : known = some id ∨ known = none ∧ fresh) : Reads known id := by
  intro a ha
  rcases h with h | ⟨h, -⟩ <;> rw [h] at ha <;> cases ha
  rfl

theorem passes_of_perform {op : Operation} {r : Reply} (h : (c.perform op).Gives s (r, d)) : Passes c op r d := by
  cases op with
  | traceId =>
    obtain ⟨⟨id, c1⟩, htrace, h⟩ := gives_bind h
    obtain ⟨rfl, hid⟩ := gives_fixTraceId htrace
    cases gives_pure.1 h
    exact .traceId (reads_of_known hid)
  | spanId =>
    obtain ⟨⟨id, c1⟩, hspan, h⟩ := gives_bind h
    obtain ⟨rfl, hid⟩ := gives_fixSpanId hspan
    cases gives_pure.1 h
    exact .spanId (reads_of_known hid)
  | setTraceId id =>
    cases gives_pure.1 h
    exact .setTraceId id
  | setSpanId id =>
    cases gives_pure.1 h
    exact .setSpanId id
  | update m =>
    obtain ⟨c1, hc, h⟩ := gives_bind h
    obtain ⟨_, -, hc⟩ := gives_bind hc
    cases gives_pure.1 hc
    cases gives_pure.1 h
    exact .update m
  | traceHeader =>
    obtain ⟨⟨header, c1⟩, hh, h⟩ := gives_bind h
    obtain ⟨t, p, ht, hp, rfl, rfl⟩ := gives_traceHeader hh
    cases gives_pure.1 h
    exact .traceHeader (reads_of_known ht) (reads_of_known hp)
  | baggage =>
    cases gives_pure.1 h
    exact .baggage
  | inject enabled carrier =>
    obtain ⟨⟨k, c1⟩, hk, h⟩ := gives_bind h
    cases gives_pure.1 h
    cases enabled with
    | false =>
      cases gives_pure.1 hk
      exact .injectNothing carrier
    | true =>
      obtain ⟨t, p, ht, hp, rfl, rfl⟩ := gives_inject hk
      exact .inject (reads_of_known ht) (reads_of_known hp) carrier

theorem returns_perform (c : Context) (op : Operation) : (c.perform op).Returns s := by
  cases op with
  | traceId => exact returns_bind (returns_fixTraceId c) fun _ _ => returns_pure _
  | spanId => exact returns_bind (returns_fixSpanId c) fun _ _ => returns_pure _
  | setTraceId | setSpanId | baggage => exact returns_pure _
  | update m => exact returns_bind (returns_bind (returns_notes _) fun _ _ => returns_pure _) fun _ _ => returns_pure _
  | traceHeader => exact returns_bind (returns_traceHeader c) fun _ _ => returns_pure _
  | inject enabled carrier =>
    cases enabled with
    | false => exact returns_bind (returns_pure _) fun _ _ => returns_pure _
    | true => exact returns_bind (returns_inject c carrier) fun _ _ => returns_pure _

end

/-! ## What an operation can change -/

inductive Operation.SetsTraceId : Operation → Prop where
  | set (id : TraceId) : SetsTraceId (.setTraceId id)
  | update {m : Dict Json} {id : String} (h : m.get? "trace_id" = some (.text id)) : SetsTraceId (.update m)

/-- An update to a trace that is not the one of the context. A context without a trace id has none. -/
inductive Operation.LeavesTrace (c : Context) : Operation → Prop where
  | update {m : Dict Json} {id : String} (h : m.get? "trace_id" = some (.text id)) (hne : c.traceId ≠ some ⟨id⟩) :
    LeavesTrace c (.update m)

inductive Operation.DropsSpanId (c : Context) : Operation → Prop where
  | set (id : SpanId) : DropsSpanId c (.setSpanId id)
  | leavesTrace {op : Operation} (h : op.LeavesTrace c) : DropsSpanId c op

inductive Operation.ReadsTraceId : Operation → Prop where
  | traceId : ReadsTraceId .traceId
  | traceHeader : ReadsTraceId .traceHeader
  | inject (carrier : Carrier) : ReadsTraceId (.inject true carrier)

inductive Operation.ReadsSpanId : Operation → Prop where
  | spanId : ReadsSpanId .spanId
  | traceHeader : ReadsSpanId .traceHeader
  | inject (carrier : Carrier) : ReadsSpanId (.inject true carrier)

section
variable {c d : Context} {op : Operation} {r : Reply}

theorem Passes.traceId_read (h : Passes c op r d) (hop : op.ReadsTraceId) : ∃ id, d.traceId = some id := by
  cases hop <;> cases h <;> exact ⟨_, rfl⟩

theorem Passes.spanId_read (h : Passes c op r d) (hop : op.ReadsSpanId) : ∃ id, d.spanId = some id := by
  cases hop <;> cases h <;> exact ⟨_, rfl⟩

theorem Passes.items (h : Passes c op r d) : d.items = c.items := by
  cases h with
  | update m => rw [update_entries]; rfl
  | _ => rfl

theorem eq_or_taken {α : Type} {o : Option Json} {f : Json → Option α} {old new : α} (h : new = (o.bind f).getD old) :
    new = old ∨ ∃ v, o = some v ∧ f v = some new := by
  cases hv : o.bind f with
  | none => exact .inl (by rw [h, hv, Option.getD_none])
  | some a =>
    obtain ⟨v, ho, ha⟩ := Option.bind_eq_some_iff.1 hv
    exact .inr ⟨v, ho, by rw [h, hv, ha, Option.getD_some]⟩

theorem Passes.parentSpanId (h : Passes c op r d) : d.parentSpanId = c.parentSpanId ∨
    ∃ m v, op = .update m ∧ m.get? "parent_span_id" = some v ∧ parentSpanIdOf? v = some d.parentSpanId := by
  cases h with
  | update m =>
    refine (eq_or_taken ?_).imp_right fun ⟨v, hv, h⟩ => ⟨m, v, rfl, hv, h⟩
    rw [update_entries]
    rfl
  | _ => exact .inl rfl

theorem Passes.parentSampled (h : Passes c op r d) : d.parentSampled = c.parentSampled ∨
    ∃ m v, op = .update m ∧ m.get? "parent_sampled" = some v ∧ parentSampledOf? v = some d.parentSampled := by
  cases h with
  | update m =>
    refine (eq_or_taken ?_).imp_right fun ⟨v, hv, h⟩ => ⟨m, v, rfl, hv, h⟩
    rw [update_entries]
    rfl
  | _ => exact .inl rfl

theorem Passes.traceId_kept (h : Passes c op r d) (hop : ¬op.SetsTraceId) {id : TraceId} (hid : c.traceId = some id) :
    d.traceId = some id := by
  cases h with
  | traceId h | traceHeader h | inject h => exact congrArg some (h id hid).symm
  | setTraceId id' => exact absurd (.set id') hop
  | update m =>
    -- only a text would set the id
    have hnone : (m.get? "trace_id").bind traceIdOf? = none := by
      refine Option.bind_eq_none_iff.2 fun v hv => Option.eq_none_iff_forall_ne_some.2 fun id' hid' => ?_
      rw [traceIdOf?_eq_some.1 hid'] at hv
      exact hop (.update hv)
    rw [update_entries, hnone, ← hid]
    rfl
  | spanId | setSpanId | baggage | injectNothing => exact hid

theorem Passes.spanId_kept (h : Passes c op r d) (hop : ¬op.DropsSpanId c) {id : SpanId} (hid : c.spanId = some id) :
    d.spanId = some id := by
  cases h with
  | spanId h | traceHeader _ h | inject _ h => exact congrArg some (h id hid).symm
  | setSpanId id' => exact absurd (.set id') hop
  | update m =>
    rw [update_entries, ← hid]
    -- the span id stays as the trace id that is named, if any, is the known one
    refine if_pos fun t ht => Decidable.byContradiction fun hne => hop (.leavesTrace ?_)
    obtain ⟨v, hv, ht⟩ := Option.bind_eq_some_iff.1 ht
    rw [traceIdOf?_eq_some.1 ht] at hv
    exact .update hv hne
  | traceId | setTraceId | baggage | injectNothing => exact hid

theorem Passes.spanId_none (h : Passes c op r d) (hop : op.LeavesTrace c) : d.spanId = none := by
  cases hop with
  | @update m id hid hne =>
    cases h
    rw [update_entries, hid]
    exact if_neg fun heq => hne (heq ⟨id⟩ rfl)

end

/-! ## Runs -/

inductive Chain : Context → List Step → Prop where
  | nil (c : Context) : Chain c []
  | cons {x : Step} {rest : List Step} (h : Passes x.before x.operation x.reply x.after) (hrest : Chain x.after rest) :
    Chain x.before (x :: rest)

section
variable {s : Supply} {c : Context} {x : Step} {steps first rest quiet : List Step} {operations : List Operation}

theorem chain_of_performAll (h : (c.performAll operations).Gives s steps) :
    Chain c steps ∧ steps.map (·.operation) = operations := by
  induction operations generalizing c steps with
  | nil =>
    cases gives_pure.1 h
    exact ⟨.nil c, rfl⟩
  | cons op operations ih =>
    obtain ⟨⟨r, d⟩, hop, h⟩ := gives_bind h
    obtain ⟨rest, hrest, h⟩ := gives_bind h
    cases gives_pure.1 h
    obtain ⟨hchain, hops⟩ := ih hrest
    exact ⟨.cons (x := ⟨c, op, r, d⟩) (passes_of_perform hop) hchain, congrArg (op :: ·) hops⟩

theorem returns_performAll (c : Context) (operations : List Operation) : (c.performAll operations).Returns s := by
  induction operations generalizing c with
  | nil => exact returns_pure _
  | cons op operations ih =>
    exact returns_bind (returns_perform c op) fun ⟨_, d⟩ _ => returns_bind (ih d) fun _ _ => returns_pure _

theorem Chain.of_append_right (h : Chain c (first ++ rest)) : ∃ d, Chain d rest := by
  induction first generalizing c with
  | nil => exact ⟨c, h⟩
  | cons x first ih =>
    cases h with
    | cons _ h => exact ih h

theorem Chain.of_append_left (h : Chain c (quiet ++ rest)) : Chain c quiet := by
  induction quiet generalizing c with
  | nil => exact .nil c
  | cons x quiet ih =>
    cases h with
    | cons hx h => exact .cons hx (ih h)

theorem Chain.of_infix (h : Chain c steps) (hx : x :: quiet <:+: steps) :
    Passes x.before x.operation x.reply x.after ∧ Chain x.after quiet := by
  obtain ⟨first, rest, rfl⟩ := hx
  rw [List.append_assoc] at h
  obtain ⟨d, h⟩ := h.of_append_right
  cases h.of_append_left with
  | cons hx hq => exact ⟨hx, hq⟩

theorem Chain.passes (h : Chain c steps) (hx : x ∈ steps) : Passes x.before x.operation x.reply x.after := by
  obtain ⟨first, rest, rfl⟩ := List.append_of_mem hx
  have hx : [x] <:+: first ++ x :: rest := ⟨first, rest, by simp⟩
  exact (h.of_infix hx).1

theorem Chain.kept (holds : Context → Prop) (stops : Step → Prop)
    (hstep : ∀ x, Passes x.before x.operation x.reply x.after → ¬stops x → holds x.before → holds x.after)
    (h : Chain c steps) (hc : holds c) (hq : ∀ x ∈ steps, ¬stops x) : ∀ x ∈ steps, holds x.after := by
  -- along the chain: what one step keeps holds where the next one starts
  induction h with
  | nil => exact fun _ hx => absurd hx List.not_mem_nil
  | @cons x rest hx _ ih =>
    obtain ⟨hqx, hq⟩ := List.forall_mem_cons.1 hq
    have hafter := hstep x hx hqx hc
    exact List.forall_mem_cons.2 ⟨hafter, ih hafter hq⟩

theorem Chain.traceId_kept {id : TraceId} (h : Chain c steps) (hc : c.traceId = some id)
    (hq : ∀ x ∈ steps, ¬x.operation.SetsTraceId) : ∀ x ∈ steps, x.after.traceId = some id :=
  h.kept (·.traceId = some id) (·.operation.SetsTraceId) (fun _ hx hstop => hx.traceId_kept hstop) hc hq

theorem Chain.spanId_kept {id : SpanId} (h : Chain c steps) (hc : c.spanId = some id)
    (hq : ∀ x ∈ steps, ¬x.operation.DropsSpanId x.before) : ∀ x ∈ steps, x.after.spanId = some id :=
  h.kept (·.spanId = some id) (fun x => x.operation.DropsSpanId x.before) (fun _ hx hstop => hx.spanId_kept hstop) hc hq

theorem Chain.items_kept (h : Chain c steps) : ∀ x ∈ steps, x.after.items = c.items :=
  h.kept (·.items = c.items) (fun _ => False) (fun _ hx _ hc => hx.items.trans hc) rfl fun _ _ => id

end

/-- What an update by the map `m` comes to, which takes `c` to `d`. -/
structure Updates (m : Dict Json) (c d : Context) : Prop where
  anyOrder : ∀ entries, entries.Perm m.entries → c.update entries = d
  twice : d.update m.entries = d
  nothingTaken : (∀ e ∈ m.entries, ¬IsTaken e) → d = c

structure Step.Lawful (x : Step) : Prop where
  parentSpanId : x.after.parentSpanId = x.before.parentSpanId ∨ ∃ m v, x.operation = .update m ∧
    m.get? "parent_span_id" = some v ∧ parentSpanIdOf? v = some x.after.parentSpanId
  parentSampled : x.after.parentSampled = x.before.parentSampled ∨ ∃ m v, x.operation = .update m ∧
    m.get? "parent_sampled" = some v ∧ parentSampledOf? v = some x.after.parentSampled
  spanId : x.operation.LeavesTrace x.before → x.after.spanId = none
  update : ∀ m, x.operation = .update m → Updates m x.before x.after

theorem updates (c : Context) (m : Dict Json) : Updates m c (c.update m.entries) where
  anyOrder _ h := update_of_perm h c
  twice := update_update c m
  nothingTaken h := update_eq_self h c

theorem Step.lawful_of_passes {x : Step} (h : Passes x.before x.operation x.reply x.after) : x.Lawful where
  parentSpanId := h.parentSpanId
  parentSampled := h.parentSampled
  spanId := h.spanId_none
  update m hm := by
    rw [hm] at h
    generalize x.after = d at h ⊢
    generalize x.reply = r at h
    cases h
    exact updates x.before m

/-- Every run of operations has a result. In it the ids that were read stay until an operation brings others,
the items stay for good, and the rest changes only by what an update names. -/
theorem ids_are_kept_once_read (c : Context) (operations : List Operation) (s : Supply) :
    (c.performAll operations).Returns s ∧ ∀ steps, (c.performAll operations).Gives s steps →
      steps.map (·.operation) = operations ∧ Chain c steps ∧
      (∀ x ∈ steps, x.Lawful ∧ x.after.items = c.items) ∧
      ∀ x quiet, x :: quiet <:+: steps →
        (x.operation.ReadsTraceId → (∀ y ∈ quiet, ¬y.operation.SetsTraceId) →
          ∃ id, x.after.traceId = some id ∧ ∀ y ∈ quiet, y.after.traceId = some id) ∧
        (x.operation.ReadsSpanId → (∀ y ∈ quiet, ¬y.operation.DropsSpanId y.before) →
          ∃ id, x.after.spanId = some id ∧ ∀ y ∈ quiet, y.after.spanId = some id) := by
  refine ⟨returns_performAll c operations, fun steps h => ?_⟩
  obtain ⟨hchain, hops⟩ := chain_of_performAll h
  refine ⟨hops, hchain, fun x hx => ⟨Step.lawful_of_passes (hchain.passes hx), hchain.items_kept x hx⟩, ?_⟩
  intro x quiet hx
  obtain ⟨hpass, hquiet⟩ := hchain.of_infix hx
  constructor
  · intro hread hq
    obtain ⟨id, hid⟩ := hpass.traceId_read hread
    exact ⟨id, hid, hquiet.traceId_kept hid hq⟩
  · intro hread hq
    obtain ⟨id, hid⟩ := hpass.spanId_read hread
    exact ⟨id, hid, hquiet.spanId_kept hid hq⟩

def namesNothing : Dict Json := Dict.ofList [("trace_id", .null), ("parent_sampled", .bool true)]

theorem id_outlasts_an_update : ∃ steps id,
    (empty.performAll [.traceId, .update namesNothing, .traceHeader]).Gives .counting steps ∧
      ∀ x ∈ steps, x.after.traceId = some id := by
  obtain ⟨hreturns, hkept⟩ :=
    ids_are_kept_once_read empty [.traceId, .update namesNothing, .traceHeader] .counting
  obtain ⟨steps, hsteps⟩ := exists_gives hreturns
  obtain ⟨hops, -, -, hkept⟩ := hkept steps hsteps
  obtain ⟨x, quiet, rfl, hx, hquiet⟩ := List.map_eq_cons_iff.1 hops
  have hread : x.operation.ReadsTraceId := hx ▸ .traceId
  have hset : ∀ y ∈ quiet, ¬y.operation.SetsTraceId := by
    intro y hy
    have hmem := List.mem_map_of_mem (f := (·.operation)) hy
    rw [hquiet, List.mem_pair] at hmem
    rcases hmem with hop | hop <;> rw [hop] <;> rintro ⟨⟩
    rename_i h
    cases h
  obtain ⟨id, hid, hrest⟩ := (hkept x quiet (List.infix_refl _)).1 hread hset
  exact ⟨x :: quiet, id, hsteps, List.forall_mem_cons.2 ⟨hid, hrest⟩⟩

end Context

end TraceRelay
