import TraceRelay.Json.Basic
import TraceRelay.Text.Lower

/-!
# Carriers

What headers travel in: a table of texts, or a JSON value whose text members are the headers. Keys
are written in lower case. A look-up tries the lower case key first and then, for carriers that were
filled by others, any key that differs in the case of ASCII letters only.
-/

namespace TraceRelay

inductive Carrier where
  | table (entries : Dict String)
  | json (value : Json)

namespace Carrier

def empty : Carrier := .table .empty

/-- The entry of a key in lower case, or the first one that is equal up to ASCII case. -/
def lookupHeader? {α : Type} (entries : List (String × α)) (key : String) : Option α :=
  (entries.lookup (lower key)).or
    ((entries.find? fun e => equalIgnoringCase e.1 (lower key)).map (·.2))

def get? : Carrier → String → Option String
  | .table d, key => lookupHeader? d.entries key
  | .json j, key => (lookupHeader? j.members key).bind Json.text?

def set : Carrier → String → String → Carrier
  | .table d, key, value => .table (d.insert (lower key) value)
  | .json (.object ms), key, value => .json (.object (insertEntry (lower key) (.text value) ms))
  | .json j, _, _ => .json j

def ofHeaders (headers : List (String × String)) : Carrier := .table (.ofList headers)

def environMark : List Char := "http_".toList

def normalName (name : String) : String :=
  let cs := lowerChars name.toList
  String.ofList (((environMark.isPrefixOf? cs).getD cs).map fun c => if c = '_' then '-' else c)

/-- The table of an environment; of names with one normal form the last one counts. -/
def normalize (pairs : List (String × String)) : Dict String :=
  .ofList (pairs.map fun p => (normalName p.1, p.2))

end Carrier

end TraceRelay
