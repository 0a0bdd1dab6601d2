/-!
# SHA-256 and its keyed form

The 256-bit digest of FIPS 180-4 over lists of bytes, and the message authentication code of
RFC 2104 built from it. Words are 32 bits wide and most significant byte first.
-/

namespace OrgAccess.Sha256

/-- The first 32 bits of the fractional parts of the cube roots of the first 64 primes. -/
def roundConstants : Array UInt32 := #[
  0x428a2f98, 0x71374491, 0xb5c0fbcf, 0xe9b5dba5, 0x3956c25b, 0x59f111f1, 0x923f82a4, 0xab1c5ed5,
  0xd807aa98, 0x12835b01, 0x243185be, 0x550c7dc3, 0x72be5d74, 0x80deb1fe, 0x9bdc06a7, 0xc19bf174,
  0xe49b69c1, 0xefbe4786, 0x0fc19dc6, 0x240ca1cc, 0x2de92c6f, 0x4a7484aa, 0x5cb0a9dc, 0x76f988da,
  0x983e5152, 0xa831c66d, 0xb00327c8, 0xbf597fc7, 0xc6e00bf3, 0xd5a79147, 0x06ca6351, 0x14292967,
  0x27b70a85, 0x2e1b2138, 0x4d2c6dfc, 0x53380d13, 0x650a7354, 0x766a0abb, 0x81c2c92e, 0x92722c85,
  0xa2bfe8a1, 0xa81a664b, 0xc24b8b70, 0xc76c51a3, 0xd192e819, 0xd6990624, 0xf40e3585, 0x106aa070,
  0x19a4c116, 0x1e376c08, 0x2748774c, 0x34b0bcb5, 0x391c0cb3, 0x4ed8aa4a, 0x5b9cca4f, 0x682e6ff3,
  0x748f82ee, 0x78a5636f, 0x84c87814, 0x8cc70208, 0x90befffa, 0xa4506ceb, 0xbef9a3f7, 0xc67178f2]

/-- The eight chaining words. -/
structure State where
  /-- The words in order. -/
  (a b c d e f g h : UInt32)

/-- The first 32 bits of the fractional parts of the square roots of the first eight primes. -/
def State.initial : State :=
  ⟨0x6a09e667, 0xbb67ae85, 0x3c6ef372, 0xa54ff53a, 0x510e527f, 0x9b05688c, 0x1f83d9ab, 0x5be0cd19⟩

/-- Turns a word by a number of places. -/
def rotateRight (word : UInt32) (places : UInt32) : UInt32 :=
  (word >>> places) ||| (word <<< (32 - places))

/-- The words of a block, four bytes each. -/
def words : List UInt8 → List UInt32
  | p :: q :: r :: s :: rest =>
    ((p.toUInt32 <<< 24) ||| (q.toUInt32 <<< 16) ||| (r.toUInt32 <<< 8) ||| s.toUInt32) ::
      words rest
  | _ => []

/-- The bytes of a word, most significant first. -/
def bytesOfWord (word : UInt32) : List UInt8 :=
  [(word >>> 24).toUInt8, (word >>> 16).toUInt8, (word >>> 8).toUInt8, word.toUInt8]

/-- The next word of the message schedule, from the words before it. -/
def nextWord (schedule : Array UInt32) : UInt32 :=
  let size := schedule.size
  let w15 := schedule.getD (size - 15) 0
  let w2 := schedule.getD (size - 2) 0
  let s0 := rotateRight w15 7 ^^^ rotateRight w15 18 ^^^ (w15 >>> 3)
  let s1 := rotateRight w2 17 ^^^ rotateRight w2 19 ^^^ (w2 >>> 10)
  schedule.getD (size - 16) 0 + s0 + schedule.getD (size - 7) 0 + s1

/-- Lengthens the schedule of a block by a number of words. -/
def extend : (count : Nat) → Array UInt32 → Array UInt32
  | 0, schedule => schedule
  | count + 1, schedule => extend count (schedule.push (nextWord schedule))

/-- One round with one word of the schedule and its constant. -/
def round (state : State) (word constant : UInt32) : State :=
  let s1 := rotateRight state.e 6 ^^^ rotateRight state.e 11 ^^^ rotateRight state.e 25
  let choice := (state.e &&& state.f) ^^^ (~~~state.e &&& state.g)
  let t1 := state.h + s1 + choice + constant + word
  let s0 := rotateRight state.a 2 ^^^ rotateRight state.a 13 ^^^ rotateRight state.a 22
  let majority := (state.a &&& state.b) ^^^ (state.a &&& state.c) ^^^ (state.b &&& state.c)
  ⟨t1 + (s0 + majority), state.a, state.b, state.c, state.d + t1, state.e, state.f, state.g⟩

/-- Takes a block of a message into the state. -/
def compress (state : State) (block : List UInt8) : State :=
  let schedule := extend 48 (words block).toArray
  let mixed := (schedule.zip roundConstants).foldl
    (fun current (word, constant) => round current word constant) state
  ⟨state.a + mixed.a, state.b + mixed.b, state.c + mixed.c, state.d + mixed.d,
    state.e + mixed.e, state.f + mixed.f, state.g + mixed.g, state.h + mixed.h⟩

/-- The last bytes of a number, most significant first. -/
def bytesOfNat : (count : Nat) → (value : Nat) → List UInt8
  | 0, _ => []
  | count + 1, value => UInt8.ofNat (value >>> (8 * count)) :: bytesOfNat count value

/-- The message with its end mark, zeros up to a whole block, and its length in bits. -/
def pad (message : List UInt8) : List UInt8 :=
  message ++ 0x80 :: List.replicate ((119 - message.length % 64) % 64) 0 ++
    bytesOfNat 8 (8 * message.length)

/-- Takes the blocks of a padded message into the state one by one. -/
def absorb : (blocks : Nat) → State → List UInt8 → State
  | 0, state, _ => state
  | blocks + 1, state, bytes =>
    absorb blocks (compress state (bytes.take 64)) (bytes.drop 64)

/-- The digest of a message. -/
def digest (message : List UInt8) : List UInt8 :=
  let padded := pad message
  let state := absorb (padded.length / 64) .initial padded
  [state.a, state.b, state.c, state.d, state.e, state.f, state.g, state.h].flatMap bytesOfWord

/-- A key brought to one block: a long key is replaced by its digest. -/
def blockKey (key : List UInt8) : List UInt8 :=
  let short := if key.length > 64 then digest key else key
  short ++ List.replicate (64 - short.length) 0

/-- The 32-byte code that authenticates a message under a key. -/
def hmac (key message : List UInt8) : List UInt8 :=
  let key := blockKey key
  let inner := digest (key.map (· ^^^ 0x36) ++ message)
  digest (key.map (· ^^^ 0x5c) ++ inner)

end OrgAccess.Sha256
