/-!
# SHA-256

The digest of FIPS 180-4 over lists of bytes. A message is padded to whole blocks of sixteen
words, each block is stretched to a schedule of sixty-four words, and sixty-four rounds fold it
into a chaining state of eight words. Words are `UInt32`, so additions wrap as the standard asks.
-/

namespace WorldForge.Digest

/-- The round constants: the first 32 bits of the fractions of the cube roots of the first
sixty-four primes. -/
def roundConstants : List UInt32 :=
  [0x428a2f98, 0x71374491, 0xb5c0fbcf, 0xe9b5dba5, 0x3956c25b, 0x59f111f1, 0x923f82a4, 0xab1c5ed5,
   0xd807aa98, 0x12835b01, 0x243185be, 0x550c7dc3, 0x72be5d74, 0x80deb1fe, 0x9bdc06a7, 0xc19bf174,
   0xe49b69c1, 0xefbe4786, 0x0fc19dc6, 0x240ca1cc, 0x2de92c6f, 0x4a7484aa, 0x5cb0a9dc, 0x76f988da,
   0x983e5152, 0xa831c66d, 0xb00327c8, 0xbf597fc7, 0xc6e00bf3, 0xd5a79147, 0x06ca6351, 0x14292967,
   0x27b70a85, 0x2e1b2138, 0x4d2c6dfc, 0x53380d13, 0x650a7354, 0x766a0abb, 0x81c2c92e, 0x92722c85,
   0xa2bfe8a1, 0xa81a664b, 0xc24b8b70, 0xc76c51a3, 0xd192e819, 0xd6990624, 0xf40e3585, 0x106aa070,
   0x19a4c116, 0x1e376c08, 0x2748774c, 0x34b0bcb5, 0x391c0cb3, 0x4ed8aa4a, 0x5b9cca4f, 0x682e6ff3,
   0x748f82ee, 0x78a5636f, 0x84c87814, 0x8cc70208, 0x90befffa, 0xa4506ceb, 0xbef9a3f7, 0xc67178f2]

/-- The chaining state: eight words. -/
structure HashState where
  a : UInt32
  b : UInt32
  c : UInt32
  d : UInt32
  e : UInt32
  f : UInt32
  g : UInt32
  h : UInt32
  deriving DecidableEq

/-- The state before the first block: the first 32 bits of the fractions of the square roots of
the first eight primes. -/
def HashState.start : HashState where
  a := 0x6a09e667
  b := 0xbb67ae85
  c := 0x3c6ef372
  d := 0xa54ff53a
  e := 0x510e527f
  f := 0x9b05688c
  g := 0x1f83d9ab
  h := 0x5be0cd19

/-- Rotation of a word to the right, by fewer than 32 places. -/
def rotateRight (w n : UInt32) : UInt32 := (w >>> n) ||| (w <<< (32 - n))

/-- The eight bytes of a number below 2^64, most significant first. -/
def lengthBytes (n : Nat) : List UInt8 :=
  [56, 48, 40, 32, 24, 16, 8, 0].map fun s => UInt8.ofNat (n >>> s)

/-- The message, one marking bit, zeros up to a whole number of blocks, and the length in bits. -/
def pad (message : List UInt8) : List UInt8 :=
  -- the marking byte and the eight of the length leave 55 bytes in the last block
  let zeros := (119 - message.length % 64) % 64
  message ++ 0x80 :: List.replicate zeros 0 ++ lengthBytes (8 * message.length)

/-- The big-endian words of a list of bytes; an incomplete last word is dropped. -/
def words : List UInt8 → List UInt32
  | a :: b :: c :: d :: rest =>
    (a.toUInt32 <<< 24 ||| b.toUInt32 <<< 16 ||| c.toUInt32 <<< 8 ||| d.toUInt32) :: words rest
  | _ => []

/-- Adds `n` words to a schedule, which is held newest first: each new word is made from the ones
two, seven, fifteen and sixteen places before it. -/
def extend : Nat → List UInt32 → List UInt32
  | 0, w => w
  | n + 1, w =>
    let back (i : Nat) : UInt32 := w.getD i 0
    let x := back 14
    let y := back 1
    let s0 := rotateRight x 7 ^^^ rotateRight x 18 ^^^ (x >>> 3)
    let s1 := rotateRight y 17 ^^^ rotateRight y 19 ^^^ (y >>> 10)
    extend n ((back 15 + s0 + back 6 + s1) :: w)

/-- The sixty-four words that a block of sixteen is stretched to. -/
def schedule (block : List UInt32) : List UInt32 := (extend 48 block.reverse).reverse

/-- One round, with its constant and its word of the schedule. -/
def HashState.round (s : HashState) (k w : UInt32) : HashState :=
  let s1 := rotateRight s.e 6 ^^^ rotateRight s.e 11 ^^^ rotateRight s.e 25
  let choice := (s.e &&& s.f) ^^^ ((~~~s.e) &&& s.g)
  let t1 := s.h + s1 + choice + k + w
  let s0 := rotateRight s.a 2 ^^^ rotateRight s.a 13 ^^^ rotateRight s.a 22
  let majority := (s.a &&& s.b) ^^^ (s.a &&& s.c) ^^^ (s.b &&& s.c)
  { a := t1 + (s0 + majority), b := s.a, c := s.b, d := s.c
    e := s.d + t1, f := s.e, g := s.f, h := s.g }

/-- Folds one block of sixteen words into the state. -/
def HashState.absorb (s : HashState) (block : List UInt32) : HashState :=
  let r := (roundConstants.zip (schedule block)).foldl (fun r kw => r.round kw.1 kw.2) s
  { a := s.a + r.a, b := s.b + r.b, c := s.c + r.c, d := s.d + r.d
    e := s.e + r.e, f := s.f + r.f, g := s.g + r.g, h := s.h + r.h }

/-- Folds `n` blocks into the state, from the front of a list of words. -/
def HashState.absorbAll : Nat → List UInt32 → HashState → HashState
  | 0, _, s => s
  | n + 1, ws, s => absorbAll n (ws.drop 16) (s.absorb (ws.take 16))

/-- The state after the whole message, which is its digest. -/
def sha256 (message : List UInt8) : HashState :=
  let ws := words (pad message)
  HashState.start.absorbAll (ws.length / 16) ws

/-- The first sixty-four bits of a digest, as a number. -/
def HashState.leading64 (s : HashState) : Nat := s.a.toNat * 0x100000000 + s.b.toNat

end WorldForge.Digest
