import Mathlib.Data.List.ReduceOption
import TraceRelay.Proofs.Dict
import TraceRelay.Proofs.Json.Reading
import TraceRelay.Settings.Structured

/-!
# The environment and structured data agree

Variables are read strictly and fields of an object leniently. On the same texts both give the same settings
wherever the variables are accepted, and these are accepted where the lenient reader has nothing to pass over and
the rate is in range (`ofEnvironment_eq_ok_iff`). That is so field by field (`environmentRate_eq_ok_iff`,
`environmentFlag_eq_ok_iff`, `environmentLevel_eq_ok_iff`).
-/

namespace TraceRelay

namespace Settings

def plainFlag (text : String) : String := String.ofList (lowerChars (trim text.toList))

def structured (e : Environment) : Json :=
  .ofMembers [e.rate.map fun text => (rateKey, .text text),
    e.propagate.map fun text => (propagateKey, .text (plainFlag text)),
    e.logLevel.map fun text => (logLevelKey, .text text)].reduceOption

theorem ofMembers_eq (ms : List (String × Json)) : Json.ofMembers ms = .object (Dict.ofList ms).entries :=
  congrArg Json.object (List.foldl_hom Dict.entries fun _ _ => rfl : ms.foldl _ Dict.empty.entries = _)

theorem exists_members (e : Environment) : ∃ ms, structured e = .object ms ∧
    ms.lookup rateKey = e.rate.map .text ∧ ms.lookup propagateKey = e.propagate.map (fun t => .text (plainFlag t)) ∧
    ms.lookup logLevelKey = e.logLevel.map .text := by
  obtain ⟨hrp, hrl, hpl⟩ : rateKey ≠ propagateKey ∧ rateKey ≠ logLevelKey ∧ propagateKey ≠ logLevelKey := by decide
  refine ⟨_, ofMembers_eq _, ?_⟩
  show Dict.get? _ _ = _ ∧ Dict.get? _ _ = _ ∧ Dict.get? _ _ = _
  cases e.rate <;> cases e.propagate <;> cases e.logLevel <;>
    simp [Dict.ofList, hrp, hrl, hpl, hrp.symm, hrl.symm, hpl.symm]

def IsNumberOrBlank (text : String) : Prop := trim text.toList = [] ∨ ∃ x, number? text = some x

def IsLevelName (text : String) : Prop := ∃ l, Level.parse text = .ok l

theorem environmentRate_eq_ok_iff {text : String} {rate : Option Binary64} :
    environmentRate text = .ok rate ↔ rateOfJson (.text text) = rate ∧ IsNumberOrBlank text := by
  unfold environmentRate rateOfJson IsNumberOrBlank
  split
  · rename_i h
    -- a blank text is no number, so the lenient reader gives no rate either
    have hnone : number? text = none := by rw [number?, h]; rfl
    simp [h, hnone]
  · rename_i h
    cases hn : number? text <;> simp [h, hn]

theorem environmentFlag_eq_ok_iff {text : String} {flag : Bool} :
    environmentFlag text = .ok flag ↔ Flag.ofJson (.text (plainFlag text)) = .ok flag := by
  unfold environmentFlag Flag.ofJson plainFlag
  cases h : Flag.ofText (String.ofList (lowerChars (trim text.toList))) <;> simp [h]

theorem environmentLevel_eq_ok_iff {text : String} {level : Level} :
    environmentLevel text = .ok level ↔ levelOfJson (.text text) = level ∧ IsLevelName text := by
  unfold environmentLevel levelOfJson IsLevelName
  cases h : Level.parse text <;> simp [h]

theorem elim_eq_ok_iff {α : Type} {strict : String → Except SettingsError α} {lenient : Json → α}
    {accepted : String → Prop} (h : ∀ text a, strict text = .ok a ↔ lenient (.text text) = a ∧ accepted text)
    (o : Option String) (default a : α) : o.elim (.ok default) strict = .ok a ↔
      (o.map Json.text).elim default lenient = a ∧ ∀ text ∈ o, accepted text := by
  cases o with
  | none => simp
  | some text => simp [h]

/-! ## All fields -/

section
variable {s : Settings}

theorem ofEnvironment_eq_ok_iff_fields {e : Environment} : ofEnvironment e = .ok s ↔
    e.rate.elim (.ok none) environmentRate = .ok s.rate ∧
      e.propagate.elim (.ok true) environmentFlag = .ok s.propagate ∧
      e.logLevel.elim (.ok .warn) environmentLevel = .ok s.logLevel ∧ s.validate = .ok () := by
  unfold ofEnvironment
  simp only [bind_eq_ok_iff]
  constructor
  · rintro ⟨rate, hr, propagate, hp, logLevel, hl, ⟨⟩, hv, hs⟩
    cases hs
    exact ⟨hr, hp, hl, hv⟩
  · rintro ⟨hr, hp, hl, hv⟩
    exact ⟨_, hr, _, hp, _, hl, (), hv, rfl⟩

theorem ofFields_eq_ok_iff {rate propagate logLevel : Option Json} :
    ofFields rate propagate logLevel = .ok s ↔ rate.elim none rateOfJson = s.rate ∧
      propagate.elim (.ok true) Flag.ofJson = .ok s.propagate ∧ logLevel.elim .warn levelOfJson = s.logLevel := by
  unfold ofFields
  rw [bind_eq_ok_iff]
  constructor
  · rintro ⟨p, hp, hs⟩
    cases hs
    exact ⟨rfl, hp, rfl⟩
  · rintro ⟨hr, hp, hl⟩
    obtain ⟨r, p, l⟩ := s
    cases hr
    cases hl
    exact ⟨p, hp, rfl⟩

theorem ofJson_object_eq_ok_iff {ms : List (String × Json)} : ofJson (.object ms) = .ok s ↔
    ofFields (ms.lookup rateKey) (ms.lookup propagateKey) (ms.lookup logLevelKey) = .ok s := by
  rw [ofJson]
  cases ofFields (ms.lookup rateKey) (ms.lookup propagateKey) (ms.lookup logLevelKey) <;> simp

/-- The environment gives just those settings that its texts give as fields of an object, as long as a rate that is
set is blank or a number in range, and a level that is set names one. -/
theorem ofEnvironment_eq_ok_iff (e : Environment) (s : Settings) : ofEnvironment e = .ok s ↔
    ofJson (structured e) = .ok s ∧ s.validate = .ok () ∧ (∀ text ∈ e.rate, IsNumberOrBlank text) ∧
      ∀ text ∈ e.logLevel, IsLevelName text := by
  obtain ⟨ms, hms, hr, hp, hl⟩ := exists_members e
  have hrate := elim_eq_ok_iff (fun _ _ => environmentRate_eq_ok_iff) e.rate none s.rate
  have hlevel := elim_eq_ok_iff (fun _ _ => environmentLevel_eq_ok_iff) e.logLevel .warn s.logLevel
  have hflag : e.propagate.elim (.ok true) environmentFlag = .ok s.propagate ↔
      (e.propagate.map fun text => Json.text (plainFlag text)).elim (.ok true) Flag.ofJson = .ok s.propagate := by
    cases e.propagate with
    | none => simp
    | some text => rw [Option.map_some, Option.elim_some, Option.elim_some, environmentFlag_eq_ok_iff]
  rw [ofEnvironment_eq_ok_iff_fields, hrate, hflag, hlevel, hms, ofJson_object_eq_ok_iff, hr, hp, hl,
    ofFields_eq_ok_iff]
  constructor
  · rintro ⟨⟨hr, hnumber⟩, hp, ⟨hl, hname⟩, hv⟩
    exact ⟨⟨hr, hp, hl⟩, hv, hnumber, hname⟩
  · rintro ⟨⟨hr, hp, hl⟩, hv, hnumber, hname⟩
    exact ⟨⟨hr, hnumber⟩, hp, ⟨hl, hname⟩, hv⟩

/-- The lenient reader keeps a rate that the strict one refuses. -/
example : (ofJson (structured ⟨some "nan", none, none⟩)).isOk = true ∧
    (ofEnvironment ⟨some "nan", none, none⟩).isOk = false := by decide +kernel

end

end Settings

end TraceRelay
