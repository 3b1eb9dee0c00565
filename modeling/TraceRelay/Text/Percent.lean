/-!
# Percent encoding

A text travels as its UTF-8 octets. Letters, digits and `-_.~/` stand for themselves, and each other
octet is written as `%` and two digits. Decoding replaces every such triple, leaves all else alone,
and succeeds if the octets it gets are UTF-8 again.
-/

namespace TraceRelay

def isPlain (b : UInt8) : Bool :=
  (48 ≤ b && b ≤ 57) || (65 ≤ b && b ≤ 90) || (97 ≤ b && b ≤ 122) ||
    b == 45 || b == 46 || b == 47 || b == 95 || b == 126

def upperHexDigit (n : Nat) : Char := if n < 10 then Char.ofNat (48 + n) else Char.ofNat (55 + n)

def hexValue? (b : UInt8) : Option UInt8 :=
  if 48 ≤ b && b ≤ 57 then some (b - 48)
  else if 65 ≤ b && b ≤ 70 then some (b - 55)
  else if 97 ≤ b && b ≤ 102 then some (b - 87)
  else none

def percentEncodeOctet (b : UInt8) : List Char :=
  if isPlain b then [Char.ofNat b.toNat]
  else ['%', upperHexDigit (b.toNat / 16), upperHexDigit (b.toNat % 16)]

def octets (text : List Char) : List UInt8 := text.flatMap String.utf8EncodeChar

def percentEncode (text : List Char) : List Char := (octets text).flatMap percentEncodeOctet

/-- The octets that a written form stands for; a `%` without two digits stands for itself. -/
def percentDecodeOctets : List UInt8 → List UInt8
  | [] => []
  | b :: rest =>
    match b, rest with
    | 37, h :: l :: rest' =>
      match hexValue? h, hexValue? l with
      | some h', some l' => (h' * 16 + l') :: percentDecodeOctets rest'
      | _, _ => 37 :: percentDecodeOctets (h :: l :: rest')
    | b, rest => b :: percentDecodeOctets rest

def percentDecode? (written : List Char) : Option String :=
  String.fromUTF8? (percentDecodeOctets (octets written)).toByteArray

end TraceRelay
