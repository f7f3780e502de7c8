import Scriptlet.Number.Parts

/-!
# A generator of random numbers

The Mersenne twister with 624 words of 32 bits, seeded from a sequence of words. Two words make one
number between zero and one, with 53 random bits.
-/

namespace Scriptlet

/-- The state of the generator: its words, and how many of them have been used. -/
structure Twister where
  words : Array UInt32
  position : Nat
  deriving Repr, Inhabited

namespace Twister

/-- The number of words. -/
def size : Nat := 624

/-- The distance of the words that are mixed. -/
def offset : Nat := 397

/-- A word of the state. -/
def word (words : Array UInt32) (i : Nat) : UInt32 :=
  words.getD i 0

/-- A word with its upper bits mixed into the lower ones. -/
def folded (w : UInt32) : UInt32 :=
  w ^^^ (w >>> 30)

/-- The words that follow from a single seed word. -/
def spread (seed : UInt32) : Array UInt32 :=
  (List.range (size - 1)).foldl
    (fun words i =>
      words.push (1812433253 * folded (word words i) + UInt32.ofNat (i + 1)))
    #[seed]

/-- Replaces word `i` and moves on to the next index; the last word is copied to the front when the
end is passed. -/
def replace (words : Array UInt32) (i : Nat) (w : UInt32) : Array UInt32 × Nat :=
  let words := words.setIfInBounds i w
  if i + 1 < size then (words, i + 1)
  else (words.setIfInBounds 0 (word words (size - 1)), 1)

/-- One step of mixing the key into the words. -/
def absorb (key : Array UInt32) (state : (Array UInt32 × Nat) × Nat) : (Array UInt32 × Nat) × Nat :=
  let ((words, i), j) := state
  let mixed := (word words i ^^^ (folded (word words (i - 1)) * 1664525)) + key.getD j 0 +
    UInt32.ofNat j
  (replace words i mixed, if j + 1 < key.size then j + 1 else 0)

/-- One step of mixing the words with each other. -/
def stir (state : Array UInt32 × Nat) : Array UInt32 × Nat :=
  let (words, i) := state
  replace words i ((word words i ^^^ (folded (word words (i - 1)) * 1566083941)) - UInt32.ofNat i)

/-- Applies a step a number of times. -/
def times {α : Type} (step : α → α) : Nat → α → α
  | 0, state => state
  | n + 1, state => times step n (step state)

/-- The generator for a key of words. -/
def ofKey (key : Array UInt32) : Twister :=
  let absorbed := (times (absorb key) (max size key.size) ((spread 19650218, 1), 0)).1
  let (words, _) := times stir (size - 1) absorbed
  ⟨words.setIfInBounds 0 0x80000000, size⟩

/-- The words of a natural number, least significant first; at most `fuel` of them. -/
def keyWords : (fuel : Nat) → Nat → List UInt32
  | 0, _ => []
  | fuel + 1, n =>
      if n = 0 then []
      else UInt32.ofNat (n % Nat.pow 2 32) :: keyWords fuel (n / Nat.pow 2 32)

/-- The generator for a seed, of which the sign does not matter. -/
def ofSeed (seed : Int) : Twister :=
  match keyWords (seed.natAbs.log2 / 32 + 1) seed.natAbs with
  | [] => ofKey #[0]
  | words => ofKey words.toArray

/-- One new word of the next round. -/
def renew (words : Array UInt32) (i : Nat) : Array UInt32 :=
  let y := (word words i &&& 0x80000000) ||| (word words ((i + 1) % size) &&& 0x7fffffff)
  let w := word words ((i + offset) % size) ^^^ (y >>> 1) ^^^
    (if y &&& 1 = 0 then 0 else 0x9908b0df)
  words.setIfInBounds i w

/-- Renews all words. -/
def refill (twister : Twister) : Twister :=
  ⟨(List.range size).foldl renew twister.words, 0⟩

/-- The output form of a word. -/
def temper (w : UInt32) : UInt32 :=
  let w := w ^^^ (w >>> 11)
  let w := w ^^^ ((w <<< 7) &&& 0x9d2c5680)
  let w := w ^^^ ((w <<< 15) &&& 0xefc60000)
  w ^^^ (w >>> 18)

/-- The next random word. -/
def next (twister : Twister) : UInt32 × Twister :=
  let twister := if twister.position < size then twister else refill twister
  (temper (word twister.words twister.position),
    { twister with position := twister.position + 1 })

/-- The next random number; it is at least zero and less than one. -/
def nextNumber (twister : Twister) : Float × Twister :=
  let (high, twister) := twister.next
  let (low, twister) := twister.next
  let bits := (high >>> 5).toNat * Nat.pow 2 26 + (low >>> 6).toNat
  (Number.ofNat bits / 9007199254740992.0, twister)

end Twister

end Scriptlet
