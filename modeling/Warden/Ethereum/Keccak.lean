/-! The 256-bit Keccak hash of a sequence of bytes. -/

namespace Warden.Ethereum

/-- Thirty-two bytes, first byte first. -/
abbrev Word := Vector UInt8 32

/-- The word whose bytes are all zero. -/
def Word.zero : Word := Vector.replicate 32 0

namespace Keccak

/-- The twenty-five lanes; lane `(x, y)` stands at position `5 * y + x`. -/
abbrev State := Vector UInt64 25

/-- One constant for each of the twenty-four rounds. -/
def roundConstants : List UInt64 := [
  0x0000000000000001, 0x0000000000008082, 0x800000000000808a, 0x8000000080008000,
  0x000000000000808b, 0x0000000080000001, 0x8000000080008081, 0x8000000000008009,
  0x000000000000008a, 0x0000000000000088, 0x0000000080008009, 0x000000008000000a,
  0x000000008000808b, 0x800000000000008b, 0x8000000000008089, 0x8000000000008003,
  0x8000000000008002, 0x8000000000000080, 0x000000000000800a, 0x800000008000000a,
  0x8000000080008081, 0x8000000000008080, 0x0000000080000001, 0x8000000080008008]

/-- How far the lane at each position is rotated. -/
def rotations : Vector UInt64 25 := #v[
  0, 1, 62, 28, 27,
  36, 44, 6, 55, 20,
  3, 10, 43, 25, 39,
  41, 45, 15, 21, 8,
  18, 2, 61, 56, 14]

/-- The lane with its bits moved round. -/
def rotateLeft (lane amount : UInt64) : UInt64 :=
  -- An amount of zero must not move anything by sixty-four.
  (lane <<< amount) ||| (lane >>> ((64 - amount) % 64))

/-- Every lane takes in the parities of two neighbouring columns. -/
def theta (a : State) : State :=
  let parity : Vector UInt64 5 := Vector.ofFn fun x =>
    a[x.val] ^^^ a[x.val + 5] ^^^ a[x.val + 10] ^^^ a[x.val + 15] ^^^ a[x.val + 20]
  let spread : Vector UInt64 5 := Vector.ofFn fun x =>
    parity[(x.val + 4) % 5] ^^^ rotateLeft parity[(x.val + 1) % 5] 1
  Vector.ofFn fun i => a[i.val] ^^^ spread[i.val % 5]

/-- Every lane is rotated and moved to its new place. -/
def rhoPi (a : State) : State :=
  Vector.ofFn fun i =>
    let x := i.val % 5
    let y := i.val / 5
    -- Which lane comes here was settled by its old place.
    let source := 5 * x + (x + 3 * y) % 5
    rotateLeft a[source] rotations[source]

/-- Every lane is combined with the two lanes after it in its row. -/
def chi (a : State) : State :=
  Vector.ofFn fun i =>
    let row := 5 * (i.val / 5)
    -- The complement is taken with all bits set.
    a[i.val] ^^^ ((a[row + (i.val + 1) % 5] ^^^ 0xffffffffffffffff) &&& a[row + (i.val + 2) % 5])

/-- One round of the permutation. -/
def round (a : State) (constant : UInt64) : State :=
  let b := chi (rhoPi (theta a))
  -- The constant goes into the first lane only.
  b.set 0 (b[0] ^^^ constant)

/-- All rounds in order. -/
def permute (a : State) : State :=
  roundConstants.foldl round a

/-- The number of bytes that one permutation absorbs. -/
def rate : Nat := 136

/-- The message with its closing bits, a whole number of blocks long. -/
def pad (message : List UInt8) : List UInt8 :=
  let missing := rate - message.length % rate
  -- One byte holds both closing bits where only one is missing.
  if missing = 1 then message ++ [0x81]
  else message ++ [0x01] ++ List.replicate (missing - 2) 0 ++ [0x80]

/-- The lane in which eight bytes stand, least significant byte first. -/
def laneOf (bytes : List UInt8) : UInt64 :=
  bytes.foldr (fun b lane => (lane <<< 8) ||| b.toUInt64) 0

/-- Takes in one block and permutes the state. -/
def absorb (a : State) (block : List UInt8) : State :=
  permute (Vector.ofFn fun i =>
    -- A block fills seventeen lanes, and the others are left to the permutation.
    if i.val < 17 then a[i.val] ^^^ laneOf ((block.drop (8 * i.val)).take 8) else a[i.val])

/-- The state after every block of the padded message. -/
def sponge (padded : List UInt8) : State :=
  (List.range (padded.length / rate)).foldl
    (fun a i => absorb a ((padded.drop (rate * i)).take rate)) (Vector.replicate 25 0)

end Keccak

/-- The Keccak-256 hash. -/
def keccak256 (message : List UInt8) : Word :=
  let a := Keccak.sponge (Keccak.pad message)
  Vector.ofFn fun i => (a[i.val / 8] >>> (8 * (i.val % 8)).toUInt64).toUInt8

end Warden.Ethereum
