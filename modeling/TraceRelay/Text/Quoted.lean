import TraceRelay.Text.Ranges
import TraceRelay.Text.UnprintableTable

/-!
# Quoted text

A text that stands in a log line between double quotes: the quote, the backslash and the usual
controls are escaped by a letter, and any other character without a shape of its own by its code
point in hexadecimal.
-/

namespace TraceRelay

def lowerHex (n : Nat) : List Char := Nat.toDigits 16 n

def codePointEscape (c : Char) : List Char :=
  '\\' :: 'u' :: '\x7b' :: (lowerHex c.toNat ++ ['\x7d'])

def quotedChar (c : Char) : List Char :=
  match c with
  | '"' => ['\\', '"']
  | '\\' => ['\\', '\\']
  | '\n' => ['\\', 'n']
  | '\r' => ['\\', 'r']
  | '\t' => ['\\', 't']
  | '\x00' => ['\\', '0']
  | c => if inRanges unprintableRanges c then codePointEscape c else [c]

def quotedChars (text : List Char) : List Char := '"' :: (text.flatMap quotedChar ++ ['"'])

def quoted (text : String) : String := String.ofList (quotedChars text.toList)

example : quotedChars ['é', '"', '\x00', '\x1b'] = "\"é\\\"\\0\\u\x7b1b\x7d\"".toList := by
  decide +kernel

end TraceRelay
