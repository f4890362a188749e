/-! # The Keccak-256 hash

The sponge of 25 lanes of 64 bits: bytes are absorbed in blocks of 136, each block followed by the
permutation of 24 rounds, and the first four lanes are the hash.
-/

namespace IntentGateway.Keccak

/-- The lanes of a state, lane (x, y) at position x + 5 * y. -/
abbrev State := List UInt64

/-- The lane at a position. -/
def lane (state : State) (i : Nat) : UInt64 :=
  state.getD i 0

/-- A lane rotated to the left. -/
def rotate (word : UInt64) (count : Nat) : UInt64 :=
  if count = 0 then word
  else (word <<< UInt64.ofNat count) ||| (word >>> UInt64.ofNat (64 - count))

/-- By how much each lane is rotated. -/
def rotations : List Nat :=
  [0, 1, 62, 28, 27, 36, 44, 6, 55, 20, 3, 10, 43, 25, 39, 41, 45, 15, 21, 8, 18, 2, 61, 56, 14]

/-- What each round adds to the first lane. -/
def roundConstants : List UInt64 :=
  [0x0000000000000001, 0x0000000000008082, 0x800000000000808A, 0x8000000080008000,
    0x000000000000808B, 0x0000000080000001, 0x8000000080008081, 0x8000000000008009,
    0x000000000000008A, 0x0000000000000088, 0x0000000080008009, 0x000000008000000A,
    0x000000008000808B, 0x800000000000008B, 0x8000000000008089, 0x8000000000008003,
    0x8000000000008002, 0x8000000000000080, 0x000000000000800A, 0x800000008000000A,
    0x8000000080008081, 0x8000000000008080, 0x0000000080000001, 0x8000000080008008]

/-- The sum of the lanes of each column. -/
def columns (state : State) : List UInt64 :=
  (List.range 5).map fun x =>
    lane state x ^^^ lane state (x + 5) ^^^ lane state (x + 10) ^^^ lane state (x + 15)
      ^^^ lane state (x + 20)

/-- Adds to each lane the column before it and the column behind it, the latter rotated by one. -/
def mixColumns (state : State) : State :=
  let sums := columns state
  state.mapIdx fun i word =>
    word ^^^ sums.getD ((i + 4) % 5) 0 ^^^ rotate (sums.getD ((i + 1) % 5) 0) 1

/-- The position that the lane for position x + 5 * y comes from. -/
def sourceOf (i : Nat) : Nat :=
  let x := i % 5
  let y := i / 5
  (x + 3 * y) % 5 + 5 * x

/-- Rotates each lane and moves it to its new place. -/
def moveLanes (state : State) : State :=
  (List.range 25).map fun i => rotate (lane state (sourceOf i)) (rotations.getD (sourceOf i) 0)

/-- Combines each lane with the next two of its row. -/
def mixRows (state : State) : State :=
  state.mapIdx fun i word =>
    let row := 5 * (i / 5)
    word ^^^ ((~~~ lane state (row + (i + 1) % 5)) &&& lane state (row + (i + 2) % 5))

/-- Adds a round constant to the first lane. -/
def addConstant (constant : UInt64) : State → State
  | [] => []
  | word :: rest => (word ^^^ constant) :: rest

/-- One round. -/
def round (state : State) (constant : UInt64) : State :=
  addConstant constant (mixRows (moveLanes (mixColumns state)))

/-- The permutation. -/
def permute (state : State) : State :=
  roundConstants.foldl round state

/-- The number of bytes in a block. -/
def blockSize : Nat := 136

/-- The message with the bytes that fill its last block: a one behind it and a mark at the end. -/
def pad (message : List UInt8) : List UInt8 :=
  let fill := blockSize - message.length % blockSize
  if fill = 1 then message ++ [0x81]
  else message ++ 0x01 :: List.replicate (fill - 2) 0 ++ [0x80]

/-- The lane of eight bytes, the least significant one first. -/
def laneOfBytes (bytes : List UInt8) : UInt64 :=
  bytes.foldr (fun byte word => (word <<< 8) ||| UInt64.ofNat byte.toNat) 0

/-- Adds a block to the state. -/
def absorb (state : State) (block : List UInt8) : State :=
  state.mapIdx fun i word => word ^^^ laneOfBytes ((block.drop (8 * i)).take 8)

/-- Absorbs that many blocks, with the permutation behind each. -/
def absorbAll (state : State) (bytes : List UInt8) : Nat → State
  | 0 => state
  | blocks + 1 =>
    absorbAll (permute (absorb state (bytes.take blockSize))) (bytes.drop blockSize) blocks

/-- The bytes of a lane, the least significant one first. -/
def bytesOfLane (word : UInt64) : List UInt8 :=
  (List.range 8).map fun i => (word >>> UInt64.ofNat (8 * i)).toUInt8

/-- The hash of a message. -/
def hash (message : List UInt8) : List UInt8 :=
  let padded := pad message
  let state := absorbAll (List.replicate 25 0) padded (padded.length / blockSize)
  (state.take 4).flatMap bytesOfLane

end IntentGateway.Keccak
