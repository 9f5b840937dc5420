import SwapPlan.Bytes

/-!
The Keccak-256 hash: a sponge over 1600 bits of state that takes 136 bytes a block, with the
padding `01 … 80`.
-/

namespace SwapPlan.Keccak

/-- Twenty-five lanes; lane `(x, y)` stands at `x + 5 y`. -/
abbrev State := Vector UInt64 25

def blockSize : Nat := 136

def roundConstants : List UInt64 :=
  [0x0000000000000001, 0x0000000000008082, 0x800000000000808a, 0x8000000080008000,
   0x000000000000808b, 0x0000000080000001, 0x8000000080008081, 0x8000000000008009,
   0x000000000000008a, 0x0000000000000088, 0x0000000080008009, 0x000000008000000a,
   0x000000008000808b, 0x800000000000008b, 0x8000000000008089, 0x8000000000008003,
   0x8000000000008002, 0x8000000000000080, 0x000000000000800a, 0x800000008000000a,
   0x8000000080008081, 0x8000000000008080, 0x0000000080000001, 0x8000000080008008]

/-- How far each lane is rotated. -/
def rotations : Vector UInt64 25 :=
  #v[0, 1, 62, 28, 27, 36, 44, 6, 55, 20, 3, 10, 43, 25, 39, 41, 45, 15, 21, 8, 18, 2, 61, 56, 14]

def rotateLeft (w k : UInt64) : UInt64 :=
  if k = 0 then w else (w <<< k) ||| (w >>> (64 - k))

def lane (s : State) (x y : Nat) : UInt64 :=
  s.get ⟨x % 5 + 5 * (y % 5), by omega⟩

/-- Each lane takes up the parities of the columns beside its own. -/
def theta (s : State) : State :=
  let parity (x : Nat) : UInt64 :=
    lane s x 0 ^^^ lane s x 1 ^^^ lane s x 2 ^^^ lane s x 3 ^^^ lane s x 4
  let columns : Vector UInt64 5 := Vector.ofFn fun x => parity x
  let mask : Vector UInt64 5 := Vector.ofFn fun x =>
    columns.get ⟨(x.val + 4) % 5, by omega⟩ ^^^
      rotateLeft (columns.get ⟨(x.val + 1) % 5, by omega⟩) 1
  Vector.ofFn fun i => s[i] ^^^ mask.get ⟨i.val % 5, by omega⟩

/-- Rotates each lane and moves it to its new place. -/
def rhoPi (s : State) : State :=
  Vector.ofFn fun i =>
    let x := (i.val % 5 + 3 * (i.val / 5)) % 5
    let y := i.val % 5
    rotateLeft (lane s x y) (lane rotations x y)

/-- Mixes each lane with its two right neighbours. -/
def chi (s : State) : State :=
  Vector.ofFn fun i =>
    let x := i.val % 5
    let y := i.val / 5
    lane s x y ^^^ (~~~ lane s (x + 1) y &&& lane s (x + 2) y)

def round (s : State) (constant : UInt64) : State :=
  let t := chi (rhoPi (theta s))
  t.set 0 (t[0] ^^^ constant)

def permute (s : State) : State := roundConstants.foldl round s

/-- Eight bytes as a lane, least significant byte first. -/
def laneOfBytes (bs : Bytes) : UInt64 :=
  UInt64.ofNat (Bytes.toNat bs.reverse)

def bytesOfLane (w : UInt64) : Bytes := (Bytes.ofNat 8 w.toNat).reverse

/-- Adds a block to the front of the state and permutes. -/
def absorb (s : State) (block : Bytes) : State :=
  permute (Vector.ofFn fun i =>
    if i.val < 17 then s[i] ^^^ laneOfBytes ((block.drop (8 * i.val)).take 8) else s[i])

/-- The message with its padding, a whole number of blocks. -/
def pad (msg : Bytes) : Bytes :=
  let gap := blockSize - msg.length % blockSize
  if gap = 1 then msg ++ [0x81] else msg ++ 0x01 :: Bytes.zeros (gap - 2) ++ [0x80]

def absorbBlocks : (blocks : Nat) → State → Bytes → State
  | 0, s, _ => s
  | n + 1, s, bs => absorbBlocks n (absorb s (bs.take blockSize)) (bs.drop blockSize)

/-- The Keccak-256 hash of a message, thirty-two bytes. -/
def hash (msg : Bytes) : Bytes :=
  let padded := pad msg
  let s := absorbBlocks (padded.length / blockSize) (Vector.replicate 25 0) padded
  (s.toList.take 4).flatMap bytesOfLane

end SwapPlan.Keccak
