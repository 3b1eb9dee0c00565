import TraceRelay.Proofs.Settings.Text

/-!
# Only a flag is refused

Each setting of an object is read from the member of its own name and from nothing else (`ofJson_object_iff_readFrom`).
Of the three readers only that of flags can fail, so only a flag can make a whole object fail, and what else the object
holds does not matter for a setting (`fails_only_for_flag`).
-/

namespace TraceRelay

namespace Settings

namespace Setting

def Agree (s t : Settings) : Setting → Prop
  | rate => s.rate = t.rate
  | propagate => s.propagate = t.propagate
  | logLevel => s.logLevel = t.logLevel

def ReadFrom (member : Option Json) (s : Settings) : Setting → Prop
  | rate => member.elim defaults.rate rateOfJson = s.rate
  | propagate => member.elim (.ok defaults.propagate) Flag.ofJson = .ok s.propagate
  | logLevel => member.elim defaults.logLevel levelOfJson = s.logLevel

variable {f : Setting} {member : Option Json} {s t : Settings}

theorem ReadFrom.agree (hs : f.ReadFrom member s) (ht : f.ReadFrom member t) : f.Agree s t := by
  cases f with
  | rate => exact hs.symm.trans ht
  | propagate => exact Except.ok.inj (hs.symm.trans ht)
  | logLevel => exact hs.symm.trans ht

theorem readFrom_defaults (f : Setting) : f.ReadFrom none defaults := by
  cases f <;> rfl

end Setting

theorem ofJson_object_iff_readFrom {o : List (String × Json)} {s : Settings} :
    ofJson (.object o) = .ok s ↔ ∀ f : Setting, f.ReadFrom (o.lookup f.key) s := by
  rw [ofJson_object_eq_ok_iff, ofFields_eq_ok_iff]
  constructor
  · rintro ⟨hr, hp, hl⟩ (_ | _ | _)
    · exact hr
    · exact hp
    · exact hl
  · intro h
    exact ⟨h .rate, h .propagate, h .logLevel⟩

/-- An object is refused for its flag only. Where it is not, a setting that it does not name has its default, and one
that it names is the same in every object with the same member of that name. So it is with a text that is such an
object and names no setting twice. -/
theorem fails_only_for_flag (o : List (String × Json)) :
    ((∃ s, ofJson (.object o) = .ok s) ↔ ∀ j, o.lookup propagateKey = some j → ∃ b, Flag.ofJson j = .ok b) ∧
    (∀ s, ofJson (.object o) = .ok s → ∀ f : Setting, (o.lookup f.key = none → f.Agree s defaults) ∧
      ∀ o' s', ofJson (.object o') = .ok s' → o'.lookup f.key = o.lookup f.key → f.Agree s' s) ∧
    ∀ text, Json.ofText text = .ok (.object o) → NamesOnce text →
      ∀ s, (ofText text).1 = .ok s ↔ ofJson (.object o) = .ok s := by
  refine ⟨⟨?_, ?_⟩, ?_, fun text htext honce s => ofText_eq_ok_iff htext honce⟩
  · rintro ⟨s, hs⟩ j hj
    have hflag := ofJson_object_iff_readFrom.1 hs .propagate
    rw [Setting.key, hj] at hflag
    exact ⟨s.propagate, hflag⟩
  · intro h
    have hflag : ∃ b, (o.lookup propagateKey).elim (.ok defaults.propagate) Flag.ofJson = .ok b := by
      cases hj : o.lookup propagateKey with
      | none => exact ⟨_, rfl⟩
      | some j => exact h j hj
    obtain ⟨b, hb⟩ := hflag
    refine ⟨⟨(o.lookup rateKey).elim defaults.rate rateOfJson, b,
      (o.lookup logLevelKey).elim defaults.logLevel levelOfJson⟩, ofJson_object_iff_readFrom.2 ?_⟩
    rintro (_ | _ | _)
    · rfl
    · exact hb
    · rfl
  · intro s hs f
    have hread := ofJson_object_iff_readFrom.1 hs f
    refine ⟨fun hnone => ?_, fun o' s' hs' hsame => ?_⟩
    · rw [hnone] at hread
      exact hread.agree (Setting.readFrom_defaults f)
    · have hread' := ofJson_object_iff_readFrom.1 hs' f
      rw [hsame] at hread'
      exact hread'.agree hread

def carelessText : String :=
  "\x7b\"traces_sample_rate\":[],\"propagate_traces\":0,\"log_level\":null,\"x\":1,\"x\":[2]\x7d"

theorem careless_text_is_read : ∃ o, Json.ofText carelessText = .ok (.object o) ∧ NamesOnce carelessText ∧
    (ofText carelessText).1 = .ok ⟨none, false, .warn⟩ ∧ ofJson (.object o) = .ok ⟨none, false, .warn⟩ ∧
    ∀ o' s', ofJson (.object o') = .ok s' → o'.lookup propagateKey = o.lookup propagateKey → s'.propagate = false := by
  have hnames : (Json.membersOfText carelessText).map (·.map Prod.fst) =
      .ok ["traces_sample_rate", "propagate_traces", "log_level", "x", "x"] := by decide +kernel
  cases hms : Json.membersOfText carelessText with
  | error fault =>
    rw [hms] at hnames
    cases hnames
  | ok ms =>
    rw [hms] at hnames
    have hkeys : ms.map Prod.fst = ["traces_sample_rate", "propagate_traces", "log_level", "x", "x"] :=
      Except.ok.inj hnames
    have honce : NamesOnce carelessText := ⟨ms, hms, fun f => by rw [hkeys]; cases f <;> decide⟩
    have htext := Json.ofText_object_iff.2 ⟨ms, hms, ofMembers_eq ms⟩
    have hread : (ofText carelessText).1 = .ok ⟨none, false, .warn⟩ := by decide +kernel
    obtain ⟨-, hfields, hwhole⟩ := fails_only_for_flag (Dict.ofList ms).entries
    have hobject := (hwhole _ htext honce _).1 hread
    exact ⟨_, htext, honce, hread, hobject, (hfields _ hobject .propagate).2⟩

end Settings

end TraceRelay
