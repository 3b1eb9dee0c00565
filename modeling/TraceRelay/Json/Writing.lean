import TraceRelay.Binary64.Shortest
import TraceRelay.Json.Basic
import TraceRelay.Text.Quoted

/-!
# JSON values as text

Two written forms: compact JSON, and the form of log lines, which names the kind of each value.
-/

namespace TraceRelay

namespace JsonNumber

def chars : JsonNumber → List Char
  | whole n => wholeText n
  | real x => x.text .json

end JsonNumber

namespace Json

def escapedChar (c : Char) : List Char :=
  match c with
  | '"' => ['\\', '"']
  | '\\' => ['\\', '\\']
  | '\n' => ['\\', 'n']
  | '\r' => ['\\', 'r']
  | '\t' => ['\\', 't']
  | '\x08' => ['\\', 'b']
  | '\x0c' => ['\\', 'f']
  | c =>
    if c.toNat < 0x20 then '\\' :: 'u' :: (Nat.toDigits 16 c.toNat).leftpad 4 '0' else [c]

def escapedText (s : String) : List Char := '"' :: (s.toList.flatMap escapedChar ++ ['"'])

def boolText (b : Bool) : List Char := (if b then "true" else "false").toList

mutual

def chars : Json → List Char
  | .null => "null".toList
  | .bool b => boolText b
  | .number n => n.chars
  | .text s => escapedText s
  | .array items => '[' :: (itemsChars items ++ [']'])
  | .object members => '\x7b' :: (membersChars members ++ ['\x7d'])

def itemsChars : List Json → List Char
  | [] => []
  | [j] => chars j
  | j :: rest => chars j ++ ',' :: itemsChars rest

def membersChars : List (String × Json) → List Char
  | [] => []
  | [(key, j)] => escapedText key ++ ':' :: chars j
  | (key, j) :: rest => escapedText key ++ ':' :: (chars j ++ ',' :: membersChars rest)

end

def write (j : Json) : String := String.ofList j.chars

/-! ## The form of log lines -/

mutual

def logChars : Json → List Char
  | .null => "Null".toList
  | .bool b => "Bool(".toList ++ boolText b ++ [')']
  | .number n => "Number(".toList ++ n.chars ++ [')']
  | .text s => "String(".toList ++ quotedChars s.toList ++ [')']
  | .array items => "Array [".toList ++ itemsLogChars items ++ [']']
  | .object members => "Object \x7b".toList ++ membersLogChars members ++ ['\x7d']

def itemsLogChars : List Json → List Char
  | [] => []
  | [j] => logChars j
  | j :: rest => logChars j ++ ',' :: ' ' :: itemsLogChars rest

def membersLogChars : List (String × Json) → List Char
  | [] => []
  | [(key, j)] => quotedChars key.toList ++ ':' :: ' ' :: logChars j
  | (key, j) :: rest =>
    quotedChars key.toList ++ ':' :: ' ' :: (logChars j ++ ',' :: ' ' :: membersLogChars rest)

end

def logText (j : Json) : String := String.ofList j.logChars

end Json

end TraceRelay
