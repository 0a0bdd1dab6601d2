import OrgAccess.Hash.Blake2b

/-!
# Argon2

The memory-hard password digest of RFC 9106 in its three variants and both versions, without a
secret. Memory is a matrix of blocks of 128 words with one row per
lane; the rows are cut into four slices, and each pass rewrites the matrix slice by slice.
-/

namespace OrgAccess.Argon2

/-- How the blocks that a new block depends on are chosen. -/
inductive Variant where
  /-- By the contents of memory. -/
  | d
  /-- By a counter, whatever the password. -/
  | i
  /-- By a counter in the first half of the first pass and by memory afterwards. -/
  | id
deriving DecidableEq

/-- The number that stands for a variant in the digest. -/
def Variant.code : Variant → Nat
  | d => 0
  | i => 1
  | id => 2

/-- Which revision of the digest is computed. -/
inductive Version where
  /-- Version 16: later passes overwrite memory. -/
  | v16
  /-- Version 19: later passes mix into memory. -/
  | v19
deriving DecidableEq

/-- The number under which a hash names the version. -/
def Version.number : Version → Nat
  | v16 => 16
  | v19 => 19

/-- The costs of a digest. -/
structure Costs where
  /-- Memory in kibibytes, one block each. -/
  memory : Nat
  /-- The number of passes over memory. -/
  passes : Nat
  /-- The number of lanes. -/
  lanes : Nat
deriving DecidableEq

/-- A block of memory. -/
abbrev Block := Vector UInt64 128

/-- The block without a bit set. -/
def zeroBlock : Block := Vector.replicate 128 0

/-- The exclusive disjunction of two blocks, word by word. -/
def addBlocks (first second : Block) : Block :=
  first.zipWith (· ^^^ ·) second

/-- Addition with a product of the low halves, which makes mixing costly to shortcut. -/
def hardAdd (x y : UInt64) : UInt64 :=
  x + y + 2 * (x &&& 0xffffffff) * (y &&& 0xffffffff)

/-- Mixes four words of a block; its additions are hardened by multiplications. -/
def mix (block : Block) (a b c d : Fin 128) : Block :=
  let va := hardAdd block[a] block[b]
  let vd := Blake2b.rotateRight (block[d] ^^^ va) 32
  let vc := hardAdd block[c] vd
  let vb := Blake2b.rotateRight (block[b] ^^^ vc) 24
  let va := hardAdd va vb
  let vd := Blake2b.rotateRight (vd ^^^ va) 16
  let vc := hardAdd vc vd
  let vb := Blake2b.rotateRight (vb ^^^ vc) 63
  (((block.set a va).set b vb).set c vc).set d vd

/-- One unkeyed round over sixteen words of a block. -/
def permute (block : Block) (position : Vector (Fin 128) 16) : Block :=
  let block := mix block position[0] position[4] position[8] position[12]
  let block := mix block position[1] position[5] position[9] position[13]
  let block := mix block position[2] position[6] position[10] position[14]
  let block := mix block position[3] position[7] position[11] position[15]
  let block := mix block position[0] position[5] position[10] position[15]
  let block := mix block position[1] position[6] position[11] position[12]
  let block := mix block position[2] position[7] position[8] position[13]
  mix block position[3] position[4] position[9] position[14]

/-- Where the words of a row of a block stand. -/
def rowPosition (row : Fin 8) : Vector (Fin 128) 16 :=
  .ofFn fun word => ⟨16 * row.val + word.val, by omega⟩

/-- Where the words of a column of a block stand; a column is two words wide. -/
def columnPosition (column : Fin 8) : Vector (Fin 128) 16 :=
  .ofFn fun word => ⟨16 * (word.val / 2) + 2 * column.val + word.val % 2, by omega⟩

/-- Makes one block of two: their sum, mixed by rows and columns, and the sum once more. -/
def compress (first second : Block) : Block :=
  let sum := addBlocks first second
  let eights : List (Fin 8) := [0, 1, 2, 3, 4, 5, 6, 7]
  let rows := eights.foldl (fun block row => permute block (rowPosition row)) sum
  let mixed := eights.foldl (fun block column => permute block (columnPosition column)) rows
  addBlocks mixed sum

/-- The four bytes of a number, least significant first. -/
def bytesOfNat (value : Nat) : List UInt8 :=
  (Blake2b.bytesOfWord (UInt64.ofNat value)).take 4

/-- The chain of digests of which all but the last give their first half. -/
def stretchChain : (links : Nat) → (lastSize : Nat) → List UInt8 → List UInt8
  | 0, lastSize, value => Blake2b.digest lastSize value
  | links + 1, lastSize, value =>
    let next := Blake2b.digest 64 value
    next.take 32 ++ stretchChain links lastSize next

/-- A digest of any length, of which long ones are chained from shorter digests. -/
def stretch (size : Nat) (message : List UInt8) : List UInt8 :=
  let message := bytesOfNat size ++ message
  if size ≤ 64 then Blake2b.digest size message
  else
    let links := (size + 31) / 32 - 2
    stretchChain links (size - 32 * links) message

/-- The block whose words are written in the bytes. -/
def blockOfBytes (bytes : List UInt8) : Block :=
  ⟨(Blake2b.words 128 bytes).toArray, by simp [Blake2b.length_words]⟩

/-- The shape of the memory matrix and what is computed over it. -/
structure Plan where
  /-- The variant of the digest. -/
  variant : Variant
  /-- The version of the digest. -/
  version : Version
  /-- The costs that were asked for. -/
  costs : Costs

namespace Plan

/-- The blocks of a lane between two points where lanes wait for each other. -/
def segmentLength (plan : Plan) : Nat :=
  plan.costs.memory / (4 * plan.costs.lanes)

/-- The blocks of a lane. -/
def laneLength (plan : Plan) : Nat :=
  4 * plan.segmentLength

/-- Whether a slice of a pass takes its references from a counter. -/
def usesCounter (plan : Plan) (pass slice : Nat) : Bool :=
  match plan.variant with
  | .d => false
  | .i => true
  | .id => pass == 0 && slice < 2

/-- The 128 reference words that a counter gives for a part of a segment. -/
def counterBlock (plan : Plan) (pass lane slice counter : Nat) : Block :=
  let input := [pass, lane, slice, plan.laneLength * plan.costs.lanes, plan.costs.passes,
    plan.variant.code, counter].zipIdx.foldl
      (fun block (value, index) => block.setIfInBounds index (UInt64.ofNat value)) zeroBlock
  compress zeroBlock (compress zeroBlock input)

/-- The position in memory of the block that a reference word picks. -/
def reference (plan : Plan) (pass lane slice index : Nat) (word : UInt64) : Nat :=
  let low := (word &&& 0xffffffff).toNat
  let high := (word >>> 32).toNat
  let target := if pass = 0 ∧ slice = 0 then lane else high % plan.costs.lanes
  let finished := if pass = 0 then slice * plan.segmentLength
    else plan.laneLength - plan.segmentLength
  let area := if target = lane then finished + index - 1
    else if index = 0 then finished - 1 else finished
  let offset := area - 1 - area * (low * low / 0x100000000) / 0x100000000
  let start := if pass = 0 ∨ slice = 3 then 0 else (slice + 1) * plan.segmentLength
  target * plan.laneLength + (start + offset) % plan.laneLength

/-- Makes the next block of a lane from the one before and from one that its data point to. -/
def fillBlock (plan : Plan) (pass lane slice index : Nat) (counters : Array Block)
    (memory : Array Block) : Array Block :=
  let column := slice * plan.segmentLength + index
  let position := lane * plan.laneLength + column
  let previous := memory.getD
    (if column = 0 then position + plan.laneLength - 1 else position - 1) zeroBlock
  let word :=
    if plan.usesCounter pass slice then
      (counters.getD (index / 128) zeroBlock).toArray.getD (index % 128) 0
    else previous[0]
  let made := compress previous
    (memory.getD (plan.reference pass lane slice index word) zeroBlock)
  let made :=
    if pass ≠ 0 ∧ plan.version = .v19 then addBlocks made (memory.getD position zeroBlock)
    else made
  memory.setIfInBounds position made

/-- Computes one segment; the first two blocks of a lane are there from the start. -/
def fillSegment (plan : Plan) (pass slice lane : Nat) (memory : Array Block) : Array Block :=
  let counters :=
    if plan.usesCounter pass slice then
      ((List.range ((plan.segmentLength + 127) / 128)).map fun part =>
        plan.counterBlock pass lane slice (part + 1)).toArray
    else #[]
  let first := if pass = 0 ∧ slice = 0 then 2 else 0
  (List.range' first (plan.segmentLength - first)).foldl
    (fun memory index => plan.fillBlock pass lane slice index counters memory) memory

/-- Fills the memory pass by pass; in every quarter of a pass each lane is filled in turn. -/
def fill (plan : Plan) (memory : Array Block) : Array Block :=
  (List.range plan.costs.passes).foldl (fun memory pass =>
    (List.range 4).foldl (fun memory slice =>
      (List.range plan.costs.lanes).foldl (fun memory lane =>
        plan.fillSegment pass slice lane memory) memory) memory) memory

/-- The memory before the first pass: two blocks at the start of each lane. -/
def initialMemory (plan : Plan) (seed : List UInt8) : Array Block :=
  (List.range plan.costs.lanes).foldl (fun memory lane =>
    (List.range 2).foldl (fun memory column =>
      memory.setIfInBounds (lane * plan.laneLength + column)
        (blockOfBytes (stretch 1024 (seed ++ bytesOfNat column ++ bytesOfNat lane)))) memory)
    (Array.replicate (plan.laneLength * plan.costs.lanes) zeroBlock)

/-- The digest of all inputs, from which the first blocks of every lane are stretched. -/
def seed (plan : Plan) (size : Nat) (password salt context : List UInt8) : List UInt8 :=
  Blake2b.digest 64 <|
    bytesOfNat plan.costs.lanes ++ bytesOfNat size ++ bytesOfNat plan.costs.memory ++
      bytesOfNat plan.costs.passes ++ bytesOfNat plan.version.number ++
      bytesOfNat plan.variant.code ++ bytesOfNat password.length ++ password ++
      bytesOfNat salt.length ++ salt ++ bytesOfNat 0 ++
      bytesOfNat context.length ++ context

/-- The sum of the last blocks of all lanes. -/
def lastColumn (plan : Plan) (memory : Array Block) : Block :=
  (List.range plan.costs.lanes).foldl (fun sum lane =>
    addBlocks sum (memory.getD (lane * plan.laneLength + plan.laneLength - 1) zeroBlock))
    zeroBlock

end Plan

/-- The digest of a password under a salt and associated data, in `size` bytes. -/
def digest (variant : Variant) (version : Version) (costs : Costs) (size : Nat)
    (password salt context : List UInt8) : List UInt8 :=
  let plan : Plan := ⟨variant, version, costs⟩
  let memory := plan.fill (plan.initialMemory (plan.seed size password salt context))
  stretch size ((plan.lastColumn memory).toList.flatMap Blake2b.bytesOfWord)

end OrgAccess.Argon2
