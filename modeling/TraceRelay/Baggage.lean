import TraceRelay.Dict
import TraceRelay.Ident
import TraceRelay.Sampling.Text
import TraceRelay.Text.Percent

/-!
# Baggage

The baggage header is a list of members `key=value` between commas. Members whose key starts with
`sentry-` are the items of the trace, percent encoded; they describe how its head sampled it. Every
other member belongs to a third party and is forwarded as it came. Baggage that came with items is
frozen: only the head of a trace may fill it in, and only once.
-/

namespace TraceRelay

def baggageHeaderName : String := "baggage"

def itemMark : List Char := "sentry-".toList

namespace ItemKey

def traceId : String := "trace_id"
def sampleRate : String := "sample_rate"
def sampleRand : String := "sample_rand"
def sampled : String := "sampled"

end ItemKey

/-- The items of a trace, its dynamic sampling context. -/
abbrev Items : Type := Dict String

inductive EntryFault where
  | noEquals
  | emptyKey
  | keyNotText
  | valueNotText
deriving DecidableEq

def EntryFault.message : EntryFault → String
  | noEquals => "missing `=`"
  | emptyKey => "empty key"
  | keyNotText => "key is not valid UTF-8"
  | valueNotText => "value is not valid UTF-8"

structure EntryError where
  entry : String
  fault : EntryFault
deriving DecidableEq

def EntryError.message (e : EntryError) : String :=
  "Cannot decode baggage entry `" ++ e.entry ++ "`: " ++ e.fault.message

inductive Member where
  | item (key value : String)
  | foreign (text : String)
deriving DecidableEq

namespace Member

def ofParts (text key value : List Char) : Except EntryFault Member :=
  match itemMark.isPrefixOf? key with
  | none => if key = [] then .error .emptyKey else .ok (.foreign (String.ofList text))
  | some written =>
    match percentDecode? written with
    | none => .error .keyNotText
    | some key =>
      if key = "" then .error .emptyKey
      else
        match percentDecode? value with
        | none => .error .valueNotText
        | some value => .ok (.item key value)

/-- Reads one member, which has no blanks at its ends. -/
def read (text : List Char) : Except EntryError Member :=
  match text.dropWhile (· != '=') with
  | [] => .error ⟨String.ofList text, .noEquals⟩
  | _ :: value =>
    match ofParts text (trim (text.takeWhile (· != '='))) (trim value) with
    | .ok m => .ok m
    | .error fault => .error ⟨String.ofList text, fault⟩

end Member

def memberTexts (header : List Char) : List (List Char) :=
  ((header.splitOn ',').map trim).filter (· ≠ [])

def joinMembers (a b : String) : String := if a = "" then b else if b = "" then a else a ++ "," ++ b

/-! ## Baggage -/

structure Baggage where
  items : Items
  /-- Third-party members in their written form. -/
  foreign : String
  frozen : Bool
deriving DecidableEq

structure SamplingState where
  traceId : TraceId
  rate : Option Binary64
  sampled : Option Bool
  rand : Binary64

namespace Baggage

def ofItems (items : Items) : Baggage := ⟨items, "", false⟩

def empty : Baggage := ofItems .empty

def freeze (b : Baggage) : Baggage := { b with frozen := true }

def take (b : Baggage) : Member → Baggage
  | .item key value => { b with items := b.items.insert key value, frozen := true }
  | .foreign text => { b with foreign := joinMembers b.foreign text }

def takeRead (b : Baggage) : Except EntryError Member → Baggage
  | .ok m => b.take m
  | .error _ => b

/-- The baggage of a header; members that cannot be read are left out. -/
def ofHeader (header : String) : Baggage :=
  ((memberTexts header.toList).map Member.read).foldl takeRead empty

def headerErrors (header : String) : List EntryError :=
  (memberTexts header.toList).filterMap fun text =>
    match Member.read text with
    | .ok _ => none
    | .error e => some e

def itemChars (item : String × String) : List Char :=
  itemMark ++ percentEncode item.1.toList ++ '=' :: percentEncode item.2.toList

def itemsText (b : Baggage) : String :=
  String.ofList ([','].intercalate (b.items.entries.map itemChars))

def text (b : Baggage) : String := joinMembers b.itemsText b.foreign

/-- Fills in what is not there yet, unless the baggage is frozen. -/
def populate (b : Baggage) (s : SamplingState) : Baggage :=
  if b.frozen then b
  else
    let items := b.items.insertNew ItemKey.traceId s.traceId.text
    let items := s.rate.elim items fun r => items.insertNew ItemKey.sampleRate (rateText r)
    let items := s.sampled.elim items fun f =>
      items.insertNew ItemKey.sampled (if f then "true" else "false")
    { b with items := items.insertNew ItemKey.sampleRand (trimmedRandText s.rand) }

def sampleRand? (b : Baggage) : Option Binary64 := (b.items.get? ItemKey.sampleRand).bind fraction?

def sampleRate? (b : Baggage) : Option Binary64 := (b.items.get? ItemKey.sampleRate).bind rate?

end Baggage

end TraceRelay
