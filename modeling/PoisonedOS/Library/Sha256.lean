import Mathlib.Algebra.Ring.Nat
import Mathlib.Data.List.Basic

/-!
# SHA-256

An executable SHA-256 over lists of bytes. Words are natural numbers below
2 ^ 32; every sum is reduced where it is formed. The development never relies on
a property of this function: it stands where a hash parameter has to be given a
concrete value.
-/

namespace PoisonedOS.Sha256

/-- Rotation of a 32-bit word to the right. -/
def rotateRight (word count : Nat) : Nat := (word >>> count ||| word <<< (32 - count)) % 2 ^ 32

/-- Bitwise choice of `y` or `z` by `x`. -/
def choose (x y z : Nat) : Nat := (x &&& y) ^^^ ((2 ^ 32 - 1 - x) &&& z)

/-- Bitwise majority. -/
def majority (x y z : Nat) : Nat := (x &&& y) ^^^ (x &&& z) ^^^ (y &&& z)

def bigSigma0 (x : Nat) : Nat := rotateRight x 2 ^^^ rotateRight x 13 ^^^ rotateRight x 22

def bigSigma1 (x : Nat) : Nat := rotateRight x 6 ^^^ rotateRight x 11 ^^^ rotateRight x 25

def smallSigma0 (x : Nat) : Nat := rotateRight x 7 ^^^ rotateRight x 18 ^^^ (x >>> 3)

def smallSigma1 (x : Nat) : Nat := rotateRight x 17 ^^^ rotateRight x 19 ^^^ (x >>> 10)

/-- The round constants. -/
def constants : List Nat :=
  [0x428a2f98, 0x71374491, 0xb5c0fbcf, 0xe9b5dba5, 0x3956c25b, 0x59f111f1, 0x923f82a4, 0xab1c5ed5,
    0xd807aa98, 0x12835b01, 0x243185be, 0x550c7dc3, 0x72be5d74, 0x80deb1fe, 0x9bdc06a7, 0xc19bf174,
    0xe49b69c1, 0xefbe4786, 0x0fc19dc6, 0x240ca1cc, 0x2de92c6f, 0x4a7484aa, 0x5cb0a9dc, 0x76f988da,
    0x983e5152, 0xa831c66d, 0xb00327c8, 0xbf597fc7, 0xc6e00bf3, 0xd5a79147, 0x06ca6351, 0x14292967,
    0x27b70a85, 0x2e1b2138, 0x4d2c6dfc, 0x53380d13, 0x650a7354, 0x766a0abb, 0x81c2c92e, 0x92722c85,
    0xa2bfe8a1, 0xa81a664b, 0xc24b8b70, 0xc76c51a3, 0xd192e819, 0xd6990624, 0xf40e3585, 0x106aa070,
    0x19a4c116, 0x1e376c08, 0x2748774c, 0x34b0bcb5, 0x391c0cb3, 0x4ed8aa4a, 0x5b9cca4f, 0x682e6ff3,
    0x748f82ee, 0x78a5636f, 0x84c87814, 0x8cc70208, 0x90befffa, 0xa4506ceb, 0xbef9a3f7, 0xc67178f2]

/-- The eight working words. -/
structure State where
  a : Nat
  b : Nat
  c : Nat
  d : Nat
  e : Nat
  f : Nat
  g : Nat
  h : Nat

/-- The initial hash value. -/
def initial : State where
  a := 0x6a09e667
  b := 0xbb67ae85
  c := 0x3c6ef372
  d := 0xa54ff53a
  e := 0x510e527f
  f := 0x9b05688c
  g := 0x1f83d9ab
  h := 0x5be0cd19

/-- Wordwise sum. -/
def State.add (left right : State) : State where
  a := (left.a + right.a) % 2 ^ 32
  b := (left.b + right.b) % 2 ^ 32
  c := (left.c + right.c) % 2 ^ 32
  d := (left.d + right.d) % 2 ^ 32
  e := (left.e + right.e) % 2 ^ 32
  f := (left.f + right.f) % 2 ^ 32
  g := (left.g + right.g) % 2 ^ 32
  h := (left.h + right.h) % 2 ^ 32

/-- Extend the message schedule, which is kept latest word first. -/
def extend : Nat → List Nat → List Nat
  | 0, words => words
  | count + 1, words =>
    let word := smallSigma1 (words.getD 1 0) + words.getD 6 0 + smallSigma0 (words.getD 14 0) +
      words.getD 15 0
    extend count (word % 2 ^ 32 :: words)

def rounds : List (Nat × Nat) → State → State
  | [], state => state
  | (constant, word) :: rest, state =>
    let first := state.h + bigSigma1 state.e + choose state.e state.f state.g + constant + word
    let second := bigSigma0 state.a + majority state.a state.b state.c
    rounds rest
      ⟨(first + second) % 2 ^ 32, state.a, state.b, state.c, (state.d + first) % 2 ^ 32, state.e,
        state.f, state.g⟩

/-- A big-endian number. -/
def fromBigEndian (bytes : List UInt8) : Nat :=
  bytes.foldl (fun value byte => value * 256 + byte.toNat) 0

/-- The big-endian bytes of a number. -/
def bigEndian : Nat → Nat → List UInt8
  | 0, _ => []
  | width + 1, value => UInt8.ofNat (value / 256 ^ width) :: bigEndian width value

/-- The first `count` pieces of the given size. -/
def pieces (size : Nat) : Nat → List UInt8 → List (List UInt8)
  | 0, _ => []
  | count + 1, bytes => bytes.take size :: pieces size count (bytes.drop size)

/-- Process one block of 64 bytes. -/
def compress (state : State) (block : List UInt8) : State :=
  let words := ((pieces 4 16 block).map fromBigEndian).reverse
  state.add (rounds (constants.zip (extend 48 words).reverse) state)

/-- The message with its padding and length. -/
def pad (message : List UInt8) : List UInt8 :=
  message ++ 0x80 :: List.replicate ((119 - message.length % 64) % 64) 0 ++
    bigEndian 8 (8 * message.length)

/-- The eight words of the digest. -/
def digestWords (message : List UInt8) : List Nat :=
  let padded := pad message
  let state := (pieces 64 (padded.length / 64) padded).foldl compress initial
  [state.a, state.b, state.c, state.d, state.e, state.f, state.g, state.h]

/-- The digest of a message. -/
def digest (message : List UInt8) : List UInt8 := (digestWords message).flatMap (bigEndian 4)

theorem length_bigEndian (width value : Nat) : (bigEndian width value).length = width := by
  induction width with
  | zero => rfl
  | succ width ih => simp [bigEndian, ih]

/-- A digest has 32 bytes. -/
theorem length_digest (message : List UInt8) : (digest message).length = 32 := by
  simp [digest, digestWords, length_bigEndian]

example : (digestWords [0x61, 0x62, 0x63]) =
    [0xba7816bf, 0x8f01cfea, 0x414140de, 0x5dae2223, 0xb00361a3, 0x96177a9c, 0xb410ff61,
      0xf20015ad] := by decide +kernel

/-- HMAC with a key of at most one block. -/
def hmac (key message : List UInt8) : List UInt8 :=
  let block := key ++ List.replicate (64 - key.length) 0
  digest (block.map (· ^^^ 0x5c) ++ digest (block.map (· ^^^ 0x36) ++ message))

/-- An HMAC has 32 bytes. -/
theorem length_hmac (key message : List UInt8) : (hmac key message).length = 32 :=
  length_digest _

end PoisonedOS.Sha256
