import TraceRelay.Context
import TraceRelay.Proofs.Baggage
import TraceRelay.Proofs.Baggage.Malformed

/-!
# Baggage is read member by member

A member of a header is an item, or one of a third party, or malformed, and never two of these
(`existsUnique_inClass`). The three parts of what a header gives are those of its members in one class
each, so reading goes through at a comma (`reading_is_memberwise`).
-/

namespace TraceRelay

inductive MemberClass where
  | item (key value : String)
  | foreign
  | malformed
deriving DecidableEq

inductive InClass : List Char → MemberClass → Prop where
  | item {text : List Char} {key value : String} (h : IsItemMember text key value) : InClass text (.item key value)
  | foreign {text : List Char} (h : isForeignMember text = true) : InClass text .foreign
  | malformed {text : List Char} (h : IsMalformed text) : InClass text .malformed

def classOf : Except EntryError Member → MemberClass
  | .ok (.item key value) => .item key value
  | .ok (.foreign _) => .foreign
  | .error _ => .malformed

theorem inClass_classOf (text : List Char) : InClass text (classOf (Member.read text)) := by
  cases hr : Member.read text with
  | error e => exact .malformed (Member.isMalformed_of_read hr)
  | ok m =>
    cases m with
    | item key value => exact .item (Member.read_eq_item_iff.1 hr)
    | foreign t => exact .foreign (Member.read_eq_foreign_iff.1 hr).1

theorem classOf_of_inClass {text : List Char} {c : MemberClass} (h : InClass text c) :
    classOf (Member.read text) = c := by
  cases h with
  | item h => rw [Member.read_eq_item_iff.2 h]; rfl
  | foreign h => rw [Member.read_eq_foreign_iff.2 ⟨h, rfl⟩]; rfl
  | malformed h =>
    obtain ⟨e, he⟩ := Member.read_of_isMalformed h
    rw [he]
    rfl

theorem inClass_iff {text : List Char} {c : MemberClass} : InClass text c ↔ classOf (Member.read text) = c :=
  ⟨classOf_of_inClass, fun h => h ▸ inClass_classOf text⟩

instance (text : List Char) (c : MemberClass) : Decidable (InClass text c) := decidable_of_iff _ inClass_iff.symm

theorem existsUnique_inClass (text : List Char) : ∃! c, InClass text c :=
  ⟨_, inClass_classOf text, fun _ h => (classOf_of_inClass h).symm⟩

theorem inClass_item_iff {text : List Char} {key value : String} :
    InClass text (.item key value) ↔ Member.item? text = some (key, value) := by
  rw [Member.item?_eq_some_iff, Member.read_eq_item_iff]
  constructor
  · intro h
    cases h with
    | item h => exact h
  · exact .item

theorem inClass_foreign_iff {text : List Char} : InClass text .foreign ↔ isForeignMember text = true := by
  constructor
  · intro h
    cases h with
    | foreign h => exact h
  · exact .foreign

/-! ## The members of a header in one class -/

def membersIn (header : String) (c : MemberClass) : List (List Char) :=
  (memberTexts header.toList).filter (InClass · c)

def IsLastItem (header key value : String) : Prop :=
  ∃ before m after, memberTexts header.toList = before ++ m :: after ∧ InClass m (.item key value) ∧
    ∀ m' ∈ after, ∀ value', ¬InClass m' (.item key value')

theorem Member.entry_of_read {text : List Char} {e : EntryError} (h : read text = .error e) :
    e.entry = String.ofList text := by
  by_cases hmem : '=' ∈ text
  · obtain ⟨name, value, rfl, hname⟩ := List.eq_append_cons_of_mem hmem
    rw [read_parts hname] at h
    cases hp : ofParts (name ++ '=' :: value) (trim name) (trim value) with
    | ok m => rw [hp] at h; cases h
    | error fault => rw [hp] at h; cases h; rfl
  · rw [read_of_noEquals hmem] at h
    cases h
    rfl

namespace Baggage
variable (header : String)

theorem get?_items_iff (key value : String) :
    (ofHeader header).items.get? key = some value ↔ IsLastItem header key value := by
  rw [items_ofHeader, itemMembers, Dict.get?_ofList_filterMap_eq_some]
  simp only [IsLastItem, inClass_item_iff, ne_eq]

theorem foreign_eq : (ofHeader header).foreign = String.ofList (joined (membersIn header .foreign)) := by
  have hsame : foreignMembers header = membersIn header .foreign :=
    List.filter_congr fun m _ => by simp [inClass_foreign_iff]
  rw [foreign_ofHeader, hsame]

theorem entries_headerErrors :
    (headerErrors header).map EntryError.entry = (membersIn header .malformed).map String.ofList := by
  unfold headerErrors membersIn
  induction memberTexts header.toList with
  | nil => rfl
  | cons m texts ih =>
    cases hr : Member.read m with
    | ok member =>
      have hno : ¬InClass m .malformed := by
        rw [inClass_iff, hr]
        cases member <;> exact MemberClass.noConfusion
      rw [List.filterMap_cons_none (by rw [hr]), List.filter_cons_of_neg (by simpa using hno), ih]
    | error e =>
      have hyes : InClass m .malformed := .malformed (Member.isMalformed_of_read hr)
      rw [List.filterMap_cons_some (by rw [hr]), List.filter_cons_of_pos (by simpa using hyes), List.map_cons,
        List.map_cons, ih, Member.entry_of_read hr]

theorem frozen_iff : (ofHeader header).frozen = true ↔
    ∃ m ∈ memberTexts header.toList, ∃ key value, InClass m (.item key value) := by
  rw [frozen_ofHeader, items_ofHeader, Dict.isEmpty_ofList, itemMembers, Bool.not_eq_true', List.isEmpty_eq_false_iff]
  simp only [inClass_item_iff, ne_eq, List.filterMap_eq_nil_iff, not_forall, Option.ne_none_iff_exists', Prod.exists,
    exists_prop]

theorem run_receive (s : Supply) (p : Progress) :
    ((receive header).run s).run p = some (ofHeader header,
      { p with journal := p.journal ++ (headerErrors header).map fun e => .logged (.plain .debug e.message) }) := by
  simp [receive, Run.logAll]

/-! ## Headers of two -/

variable (a b : String)

theorem get?_items_comma (key : String) : (ofHeader (a ++ "," ++ b)).items.get? key =
    ((ofHeader b).items.get? key).or ((ofHeader a).items.get? key) := by
  have hitems : itemMembers (a ++ "," ++ b) = itemMembers a ++ itemMembers b := by
    rw [itemMembers, memberTexts_comma, List.filterMap_append]
    rfl
  rw [items_ofHeader, items_ofHeader, items_ofHeader, hitems, Dict.ofList, List.foldl_append]
  exact get?_foldl_insert_eq (itemMembers b) (.ofList (itemMembers a)) key

theorem foreign_comma :
    (ofHeader (a ++ "," ++ b)).foreign = joinMembers (ofHeader a).foreign (ofHeader b).foreign := by
  have hmembers : foreignMembers (a ++ "," ++ b) = foreignMembers a ++ foreignMembers b := by
    rw [foreignMembers, memberTexts_comma, List.filter_append]
    rfl
  rw [foreign_ofHeader, foreign_ofHeader, foreign_ofHeader, hmembers,
    joinMembers_joined (fun _ => isMemberText_of_mem_foreignMembers) fun _ => isMemberText_of_mem_foreignMembers]

theorem headerErrors_comma : headerErrors (a ++ "," ++ b) = headerErrors a ++ headerErrors b := by
  rw [headerErrors, memberTexts_comma, List.filterMap_append]
  rfl

theorem frozen_comma : (ofHeader (a ++ "," ++ b)).frozen = ((ofHeader a).frozen || (ofHeader b).frozen) := by
  rw [Bool.eq_iff_iff, Bool.or_eq_true, frozen_iff, frozen_iff, frozen_iff, memberTexts_comma]
  simp only [List.mem_append, or_and_right, exists_or]

/-- Two headers around a comma are read one after the other. Of any header, each member is in one class
and has the effect that goes with it: of the items with one key the last counts, members of third
parties are kept as they are, and each malformed one is logged once, in a message that names it. -/
theorem reading_is_memberwise :
    (∀ a b : String,
      (∀ key, (ofHeader (a ++ "," ++ b)).items.get? key =
        ((ofHeader b).items.get? key).or ((ofHeader a).items.get? key)) ∧
      (ofHeader (a ++ "," ++ b)).foreign = joinMembers (ofHeader a).foreign (ofHeader b).foreign ∧
      headerErrors (a ++ "," ++ b) = headerErrors a ++ headerErrors b ∧
      ((ofHeader (a ++ "," ++ b)).frozen = false ↔ (ofHeader a).frozen = false ∧ (ofHeader b).frozen = false)) ∧
    ∀ header : String,
      (∀ m ∈ memberTexts header.toList, ∃! c, InClass m c) ∧
      (∀ key value, (ofHeader header).items.get? key = some value ↔ IsLastItem header key value) ∧
      (ofHeader header).foreign = String.ofList (joined (membersIn header .foreign)) ∧
      (headerErrors header).map EntryError.entry = (membersIn header .malformed).map String.ofList ∧
      ((ofHeader header).frozen = true ↔ ∃ m ∈ memberTexts header.toList, ∃ key value, InClass m (.item key value)) ∧
      ∀ s p, ((receive header).run s).run p = some (ofHeader header,
        { p with journal := p.journal ++ (headerErrors header).map fun e =>
            .logged (.plain .debug ("Cannot decode baggage entry `" ++ e.entry ++ "`: " ++ e.fault.message)) }) := by
  constructor
  · intro a b
    refine ⟨get?_items_comma a b, foreign_comma a b, headerErrors_comma a b, ?_⟩
    rw [frozen_comma, Bool.or_eq_false_iff]
  · intro header
    refine ⟨fun m _ => existsUnique_inClass m, get?_items_iff header, foreign_eq header, entries_headerErrors header,
      frozen_iff header, run_receive header⟩

/-- Two of its items have one key, written in two ways. -/
def untidyHeader : String := " vendor = x ,, sentry-a%62 = 1,no equals,sentry-ab=%32 ,sentry-%ff=3,sentry-=4,=5,v=a=b"

theorem untidyHeader_read :
    IsLastItem untidyHeader "ab" "2" ∧ (∃! c, InClass "no equals".toList c) ∧
      ∃ m ∈ memberTexts untidyHeader.toList, ∃ key value, InClass m (.item key value) := by
  obtain ⟨hclasses, hitems, -, -, hfrozen, -⟩ := reading_is_memberwise.2 untidyHeader
  exact ⟨(hitems "ab" "2").1 (by decide +kernel), hclasses _ (by decide +kernel), hfrozen.1 (by decide +kernel)⟩

example : (membersIn untidyHeader .foreign).map String.ofList = ["vendor = x", "v=a=b"] := by decide +kernel

example : (headerErrors untidyHeader).map EntryError.message =
    ["Cannot decode baggage entry `no equals`: missing `=`",
      "Cannot decode baggage entry `sentry-%ff=3`: key is not valid UTF-8",
      "Cannot decode baggage entry `sentry-=4`: empty key", "Cannot decode baggage entry `=5`: empty key"] := by
  decide +kernel

end Baggage

end TraceRelay
