import TraceRelay.Binary64.Basic
import TraceRelay.Dict

/-!
# JSON values

Values of carriers, settings and extra data. A number is whole or real; the members of an object
that was read or written here stand in the order of their keys, one for each key.
-/

namespace TraceRelay

inductive JsonNumber where
  | whole (n : Int)
  | real (x : Binary64)
deriving DecidableEq

inductive Json where
  | null
  | bool (b : Bool)
  | number (n : JsonNumber)
  | text (s : String)
  | array (items : List Json)
  | object (members : List (String × Json))
deriving Inhabited

def JsonNumber.toBinary64 : JsonNumber → Binary64
  | whole n => .ofInt n
  | real x => x

namespace Json

def text? : Json → Option String
  | .text s => some s
  | _ => none

def isNull : Json → Bool
  | .null => true
  | _ => false

def members : Json → List (String × Json)
  | .object ms => ms
  | _ => []

def member? (j : Json) (key : String) : Option Json := j.members.lookup key

/-- The object of a list of members; of equal keys the last one counts. -/
def ofMembers (ms : List (String × Json)) : Json :=
  .object (ms.foldl (fun o m => insertEntry m.1 m.2 o) [])

def ofBinary64 (x : Binary64) : Json := if x.isFinite then .number (.real x) else .null

end Json

end TraceRelay
