import TraceRelay.Binary64.Basic
import TraceRelay.Draw.Digest
import TraceRelay.Draw.Twister
import TraceRelay.Text.Percent

/-!
# Draws from a trace id

Every service derives the same values in `[0, 1)` from the id of a trace. The octets of the id and
of their digest, read as one whole number, are the key of the generator in words of 32 bits, the
least significant first; two outputs give 53 bits of a draw.
-/

namespace TraceRelay

def littleWords : List UInt8 → List UInt32
  | [] => []
  | [a] => [a.toUInt32]
  | [a, b] => [a.toUInt32 + 256 * b.toUInt32]
  | [a, b, c] => [a.toUInt32 + 256 * (b.toUInt32 + 256 * c.toUInt32)]
  | a :: b :: c :: d :: rest =>
    (a.toUInt32 + 256 * (b.toUInt32 + 256 * (c.toUInt32 + 256 * d.toUInt32))) :: littleWords rest

/-- The words of a whole number; leading zero octets do not lengthen the key, and it is never empty. -/
def keyOf (material : List UInt8) : List UInt32 :=
  match littleWords (material.dropWhile (· == 0)).reverse with
  | [] => [0]
  | key => key

def seedMaterial (traceId : String) : List UInt8 :=
  octets traceId.toList ++ Sha512.digest (octets traceId.toList)

def seedKey (traceId : String) : List UInt32 := keyOf (seedMaterial traceId)

/-- 27 bits of one output and 26 of another, as a fraction of `2 ^ 53`. -/
def unitDraw (a b : UInt32) : Binary64 :=
  (.ofNat (a >>> 5).toNat * .ofNat 67108864 + .ofNat (b >>> 6).toNat) * .twoPowNeg 53

def Twister.draw (t : Twister) : Binary64 × Twister :=
  (unitDraw t.next.1 t.next.2.next.1, t.next.2.next.2)

def drawsOf (traceId : String) : Twister := .ofKey (seedKey traceId)

def Twister.draws (t : Twister) : (skip count : Nat) → List Binary64
  | _, 0 => []
  | 0, count + 1 => t.draw.1 :: t.draw.2.draws 0 count
  | skip + 1, count => t.draw.2.draws skip count

def derive (traceId : String) : Binary64 := (drawsOf traceId).draw.1

end TraceRelay
