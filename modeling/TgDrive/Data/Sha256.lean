import TgDrive.Data.BigEndian
import TgDrive.Data.Chunks

/-!
# The SHA-256 Digest

The digest of a byte string, on natural numbers below `2 ^ 32`. The message is
padded to whole blocks of 64 bytes, each block is stretched to 64 words, and
the words go one after the other into a state of eight. Everything is
structural, so a digest of a short string can be computed in a proof.

## Main definitions

* `Sha256.schedule`: The 64 words of a block.
* `Sha256.compress`: One block put into the state.
* `Sha256.hash`: The digest.

## Theorems

* `Sha256.length_hash`: A digest has 32 bytes.
-/

namespace Data

namespace Sha256

/-- Addition of words. -/
def add (a b : Nat) : Nat := (a + b) % 2 ^ 32

/-- Rotation of a word to the right. -/
def rotr (x n : Nat) : Nat := (x >>> n) ||| ((x <<< (32 - n)) % 2 ^ 32)

/-- The complement of a word. -/
def not (x : Nat) : Nat := 2 ^ 32 - 1 - x

/-- The round constants. -/
def constants : List Nat :=
  [ 0x428a2f98, 0x71374491, 0xb5c0fbcf, 0xe9b5dba5, 0x3956c25b, 0x59f111f1, 0x923f82a4, 0xab1c5ed5
  , 0xd807aa98, 0x12835b01, 0x243185be, 0x550c7dc3, 0x72be5d74, 0x80deb1fe, 0x9bdc06a7, 0xc19bf174
  , 0xe49b69c1, 0xefbe4786, 0x0fc19dc6, 0x240ca1cc, 0x2de92c6f, 0x4a7484aa, 0x5cb0a9dc, 0x76f988da
  , 0x983e5152, 0xa831c66d, 0xb00327c8, 0xbf597fc7, 0xc6e00bf3, 0xd5a79147, 0x06ca6351, 0x14292967
  , 0x27b70a85, 0x2e1b2138, 0x4d2c6dfc, 0x53380d13, 0x650a7354, 0x766a0abb, 0x81c2c92e, 0x92722c85
  , 0xa2bfe8a1, 0xa81a664b, 0xc24b8b70, 0xc76c51a3, 0xd192e819, 0xd6990624, 0xf40e3585, 0x106aa070
  , 0x19a4c116, 0x1e376c08, 0x2748774c, 0x34b0bcb5, 0x391c0cb3, 0x4ed8aa4a, 0x5b9cca4f, 0x682e6ff3
  , 0x748f82ee, 0x78a5636f, 0x84c87814, 0x8cc70208, 0x90befffa, 0xa4506ceb, 0xbef9a3f7, 0xc67178f2 ]

/-- The state: eight words. -/
structure State where
  a : Nat
  b : Nat
  c : Nat
  d : Nat
  e : Nat
  f : Nat
  g : Nat
  h : Nat

def initial : State :=
  { a := 0x6a09e667, b := 0xbb67ae85, c := 0x3c6ef372, d := 0xa54ff53a
    e := 0x510e527f, f := 0x9b05688c, g := 0x1f83d9ab, h := 0x5be0cd19 }

/-- One more word of the schedule, from the sixteen before it, the last of
    them first. -/
def extend (words : List Nat) : List Nat :=
  let w2 := words.getD 1 0
  let w7 := words.getD 6 0
  let w15 := words.getD 14 0
  let w16 := words.getD 15 0
  let s0 := rotr w15 7 ^^^ rotr w15 18 ^^^ (w15 >>> 3)
  let s1 := rotr w2 17 ^^^ rotr w2 19 ^^^ (w2 >>> 10)
  add (add w16 s0) (add w7 s1) :: words

/-- The schedule of a block: its sixteen words and 48 more. -/
def schedule (block : List UInt8) : List Nat :=
  ((List.range 48).foldl (fun words _ => extend words)
    ((chunks 4 block).map fromBe).reverse).reverse

/-- One round, with its constant and its word. -/
def round (s : State) (kw : Nat × Nat) : State :=
  let s1 := rotr s.e 6 ^^^ rotr s.e 11 ^^^ rotr s.e 25
  let ch := (s.e &&& s.f) ^^^ (not s.e &&& s.g)
  let t1 := add (add (add s.h s1) (add ch kw.1)) kw.2
  let s0 := rotr s.a 2 ^^^ rotr s.a 13 ^^^ rotr s.a 22
  let maj := (s.a &&& s.b) ^^^ (s.a &&& s.c) ^^^ (s.b &&& s.c)
  let t2 := add s0 maj
  { a := add t1 t2, b := s.a, c := s.b, d := s.c, e := add s.d t1, f := s.e, g := s.f, h := s.g }

/-- One block put into the state. -/
def compress (s : State) (block : List UInt8) : State :=
  let t := (constants.zip (schedule block)).foldl round s
  { a := add s.a t.a, b := add s.b t.b, c := add s.c t.c, d := add s.d t.d
    e := add s.e t.e, f := add s.f t.f, g := add s.g t.g, h := add s.h t.h }

/-- A message filled up to whole blocks, its length in bits at the end. -/
def pad (message : List UInt8) : List UInt8 :=
  message ++ 128 :: List.replicate ((119 - message.length % 64) % 64) 0 ++
    toBe 8 (8 * message.length)

/-- The words of a state as bytes. -/
def State.bytes (s : State) : List UInt8 :=
  toBe 4 s.a ++ toBe 4 s.b ++ toBe 4 s.c ++ toBe 4 s.d ++
    toBe 4 s.e ++ toBe 4 s.f ++ toBe 4 s.g ++ toBe 4 s.h

/-- The digest of a message. -/
def hash (message : List UInt8) : List UInt8 :=
  ((chunks 64 (pad message)).foldl compress initial).bytes

theorem length_hash (message : List UInt8) : (hash message).length = 32 := by
  simp only [hash, State.bytes, List.length_append, length_toBe]

-- The digest of the empty message, and of "abc".
example : fromBe (hash []) =
    0xe3b0c44298fc1c149afbf4c8996fb92427ae41e4649b934ca495991b7852b855 := by decide +kernel
example : fromBe (hash [97, 98, 99]) =
    0xba7816bf8f01cfea414140de5dae2223b00361a396177a9cb410ff61f20015ad := by decide +kernel

end Sha256

end Data
