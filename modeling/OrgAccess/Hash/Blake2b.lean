/-!
# BLAKE2b

The unkeyed digest of RFC 7693 with an output of 1 to 64 bytes. Words are 64 bits wide and least
significant byte first.
-/

namespace OrgAccess.Blake2b

/-- The initial words: the fractional parts of the square roots of the first eight primes. -/
def initialWords : Vector UInt64 8 := #v[
  0x6a09e667f3bcc908, 0xbb67ae8584caa73b, 0x3c6ef372fe94f82b, 0xa54ff53a5f1d36f1,
  0x510e527fade682d1, 0x9b05688c2b3e6c1f, 0x1f83d9abfb41bd6b, 0x5be0cd19137e2179]

/-- The order in which each round takes the sixteen words of a block. -/
def schedule : List (Vector (Fin 16) 16) := [
  #v[0, 1, 2, 3, 4, 5, 6, 7, 8, 9, 10, 11, 12, 13, 14, 15],
  #v[14, 10, 4, 8, 9, 15, 13, 6, 1, 12, 0, 2, 11, 7, 5, 3],
  #v[11, 8, 12, 0, 5, 2, 15, 13, 10, 14, 3, 6, 7, 1, 9, 4],
  #v[7, 9, 3, 1, 13, 12, 11, 14, 2, 6, 5, 10, 4, 0, 15, 8],
  #v[9, 0, 5, 7, 2, 4, 10, 15, 14, 1, 11, 12, 6, 8, 3, 13],
  #v[2, 12, 6, 10, 0, 11, 8, 3, 4, 13, 7, 5, 15, 14, 1, 9],
  #v[12, 5, 1, 15, 14, 13, 4, 10, 0, 7, 6, 3, 9, 2, 8, 11],
  #v[13, 11, 7, 14, 12, 1, 3, 9, 5, 0, 15, 4, 8, 6, 2, 10],
  #v[6, 15, 14, 9, 11, 3, 0, 8, 12, 2, 13, 7, 1, 4, 10, 5],
  #v[10, 2, 8, 4, 7, 6, 1, 5, 15, 11, 9, 14, 3, 12, 13, 0],
  #v[0, 1, 2, 3, 4, 5, 6, 7, 8, 9, 10, 11, 12, 13, 14, 15],
  #v[14, 10, 4, 8, 9, 15, 13, 6, 1, 12, 0, 2, 11, 7, 5, 3]]

/-- Turns a word by a number of places. -/
def rotateRight (word : UInt64) (places : UInt64) : UInt64 :=
  (word >>> places) ||| (word <<< (64 - places))

/-- Mixes four working words with two words of the block. -/
def mix (work : Vector UInt64 16) (a b c d : Fin 16) (x y : UInt64) : Vector UInt64 16 :=
  let va := work[a] + work[b] + x
  let vd := rotateRight (work[d] ^^^ va) 32
  let vc := work[c] + vd
  let vb := rotateRight (work[b] ^^^ vc) 24
  let va := va + vb + y
  let vd := rotateRight (vd ^^^ va) 16
  let vc := vc + vd
  let vb := rotateRight (vb ^^^ vc) 63
  (((work.set a va).set b vb).set c vc).set d vd

/-- One round: the columns of the working words, then their diagonals. -/
def round (block work : Vector UInt64 16) (order : Vector (Fin 16) 16) : Vector UInt64 16 :=
  let word (index : Fin 16) : UInt64 := block[order[index]]
  let work := mix work 0 4 8 12 (word 0) (word 1)
  let work := mix work 1 5 9 13 (word 2) (word 3)
  let work := mix work 2 6 10 14 (word 4) (word 5)
  let work := mix work 3 7 11 15 (word 6) (word 7)
  let work := mix work 0 5 10 15 (word 8) (word 9)
  let work := mix work 1 6 11 12 (word 10) (word 11)
  let work := mix work 2 7 8 13 (word 12) (word 13)
  mix work 3 4 9 14 (word 14) (word 15)

/-- The word that eight bytes write, least significant first. -/
def wordOfBytes (bytes : List UInt8) : UInt64 :=
  bytes.foldr (fun byte word => (word <<< 8) ||| byte.toUInt64) 0

/-- The bytes of a word, least significant first. -/
def bytesOfWord (word : UInt64) : List UInt8 :=
  [word.toUInt8, (word >>> 8).toUInt8, (word >>> 16).toUInt8, (word >>> 24).toUInt8,
    (word >>> 32).toUInt8, (word >>> 40).toUInt8, (word >>> 48).toUInt8, (word >>> 56).toUInt8]

/-- The first words that a list of bytes writes; bytes beyond its end are zero. -/
def words : (count : Nat) → List UInt8 → List UInt64
  | 0, _ => []
  | count + 1, bytes => wordOfBytes (bytes.take 8) :: words count (bytes.drop 8)

theorem length_words (count : Nat) (bytes : List UInt8) : (words count bytes).length = count := by
  induction count generalizing bytes with
  | zero => rfl
  | succ count ih => simp [words, ih]

/-- The words of a block of a message; bytes that are missing count as zero. -/
def blockWords (bytes : List UInt8) : Vector UInt64 16 :=
  ⟨(words 16 bytes).toArray, by simp [length_words]⟩

/-- The chaining words after a block that ends at byte `counter` of the message. -/
def compress (chain : Vector UInt64 8) (bytes : List UInt8) (counter : Nat) (isLast : Bool) :
    Vector UInt64 8 :=
  let work := chain ++ initialWords
  let work := work.set 12 (work[12] ^^^ UInt64.ofNat counter)
  let work := if isLast then work.set 14 (~~~work[14]) else work
  let mixed := schedule.foldl (round (blockWords bytes)) work
  Vector.ofFn fun index : Fin 8 =>
    chain[index] ^^^ mixed.get ⟨index, by omega⟩ ^^^ mixed.get ⟨index + 8, by omega⟩

/-- Takes the blocks of a message in turn; the last one may be short but is never left out. -/
def absorb : (full : Nat) → (done : Nat) → Vector UInt64 8 → List UInt8 → Vector UInt64 8
  | 0, done, chain, bytes => compress chain bytes (done + bytes.length) true
  | full + 1, done, chain, bytes =>
    absorb full (done + 128) (compress chain (bytes.take 128) (done + 128) false)
      (bytes.drop 128)

/-- The first bytes of the digest of a message, without a key. -/
def digest (size : Nat) (message : List UInt8) : List UInt8 :=
  let start := initialWords.set 0 (initialWords[0] ^^^ 0x01010000 ^^^ UInt64.ofNat size)
  let chain := absorb ((message.length - 1) / 128) 0 start message
  (chain.toList.flatMap bytesOfWord).take size

end OrgAccess.Blake2b
