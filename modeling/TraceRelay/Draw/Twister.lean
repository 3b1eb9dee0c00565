/-!
# The generator behind the draws

MT19937 as a queue of 624 words: each step mixes the oldest word, the next, and the one 397 places
on into a new word, puts that at the end, and hands it out tempered. Seeding goes along the queue
twice, and each word takes up the new value of the word before it.
-/

namespace TraceRelay

structure Twister where
  words : List UInt32

namespace Twister

def size : Nat := 624

def twist (oldest next far : UInt32) : UInt32 :=
  let y := (oldest &&& 0x80000000) ||| (next &&& 0x7fffffff)
  far ^^^ (y >>> 1) ^^^ (if y &&& 1 = 0 then 0 else 0x9908b0df)

def temper (x : UInt32) : UInt32 :=
  let x := x ^^^ (x >>> 11)
  let x := x ^^^ ((x <<< 7) &&& 0x9d2c5680)
  let x := x ^^^ ((x <<< 15) &&& 0xefc60000)
  x ^^^ (x >>> 18)

def next (t : Twister) : UInt32 × Twister :=
  let x := twist (t.words.getD 0 0) (t.words.getD 1 0) (t.words.getD 397 0)
  (temper x, ⟨t.words.tail ++ [x]⟩)

def spread (w : UInt32) : UInt32 := w ^^^ (w >>> 30)

def wordsAfter (before : UInt32) (place : Nat) : (count : Nat) → List UInt32
  | 0 => []
  | count + 1 =>
    let w := spread before * 1812433253 + UInt32.ofNat place
    w :: wordsAfter w (place + 1) count

def sweep (change : (place : Nat) → (word before : UInt32) → UInt32) :
    (place : Nat) → (before : UInt32) → List UInt32 → List UInt32
  | _, _, [] => []
  | place, before, w :: ws =>
    let v := change place w before
    v :: sweep change (place + 1) v ws

/-- Takes in a word of the key: the first step takes the first word, and a key that is used up is
taken from its start again. -/
def takeKey (key : List UInt32) (step : Nat) (word before : UInt32) : UInt32 :=
  let j := step % key.length
  (word ^^^ (spread before * 1664525)) + key.getD j 0 + UInt32.ofNat j

def settle (place : Nat) (word before : UInt32) : UInt32 :=
  (word ^^^ (spread before * 1566083941)) - UInt32.ofNat place

/-- The generator seeded with a key, of which at most 624 words count. Both sweeps start behind the
first word, and the second word is reached last, once more, from the end of the queue. -/
def ofKey (key : List UInt32) : Twister :=
  let seed : UInt32 := 19650218
  let keyed := sweep (takeKey key) 0 seed (wordsAfter seed 1 (size - 1))
  let second := takeKey key (size - 1) (keyed.headD 0) (keyed.getLastD 0)
  let settled := sweep settle 2 second keyed.tail
  ⟨0x80000000 :: settle 1 second (settled.getLastD 0) :: settled⟩

example : (ofKey [0x123, 0x234, 0x345, 0x456]).next.1 = 1067595299 := by decide +kernel

end Twister

end TraceRelay
