import SwapPlan.Address
import SwapPlan.Amount

/-!
Parameter lists of contract calls. A list is written as its heads, then its tails; a value of
fixed size stands in the head, any other in the tail behind a head that holds its offset.
Reading looks only at what it needs: offsets may point anywhere inside the data, padding and the
bits above a type's width are not looked at, and bytes left over are ignored.
-/

namespace SwapPlan.Abi

def wordSize : Nat := 32

/-- A number as one word. -/
def word (n : Nat) : Bytes := Bytes.ofNat wordSize n

@[simp] theorem length_word (n : Nat) : (word n).length = wordSize := by simp [word]

/-- One value of a list: all in the head, or in the tail. -/
inductive Part
  | inline (bytes : Bytes)
  | tail (bytes : Bytes)

def Part.headSize : Part → Nat
  | inline bs => bs.length
  | tail _ => wordSize

/-- The size of all heads of a list. -/
def headSize : List Part → Nat
  | [] => 0
  | p :: ps => p.headSize + headSize ps

/-- The heads of a list whose tails begin at `offset`. -/
def heads : (offset : Nat) → List Part → Bytes
  | _, [] => []
  | offset, .inline bs :: ps => bs ++ heads offset ps
  | offset, .tail bs :: ps => word offset ++ heads (offset + bs.length) ps

def tails : List Part → Bytes
  | [] => []
  | .inline _ :: ps => tails ps
  | .tail bs :: ps => bs ++ tails ps

def assemble (ps : List Part) : Bytes := heads (headSize ps) ps ++ tails ps

/-- The word that begins at a place. -/
def wordAt? (data : Bytes) (place : Nat) : Option Bytes :=
  if place + wordSize ≤ data.length then some ((data.drop place).take wordSize) else none

def natAt? (data : Bytes) (place : Nat) : Option Nat := (wordAt? data place).map Bytes.toNat

/-- The data from the offset on that stands at a place. -/
def followAt? (data : Bytes) (place : Nat) : Option Bytes := do
  let offset ← natAt? data place
  if offset ≤ data.length then some (data.drop offset) else none

/-- How values of a type lie in a parameter list. `read` is given the whole list and the place of
the value's head in it. -/
structure Layout (α : Type) where
  size : Nat
  parts : α → List Part
  read : Bytes → Nat → Option α

namespace Layout

variable {α β : Type}

def encode (l : Layout α) (x : α) : Bytes := assemble (l.parts x)

def decode (l : Layout α) (data : Bytes) : Option α := l.read data 0

/-- An unsigned number of at most 256 bits. -/
def uint (w : Nat) : Layout (BitVec w) where
  size := wordSize
  parts x := [.inline (word x.toNat)]
  read data place := (natAt? data place).map (BitVec.ofNat w)

def address : Layout Address where
  size := wordSize
  parts a := [.inline (Bytes.zeros 12 ++ a.bytes)]
  read data place := (wordAt? data place).map fun w => .ofLeading (w.drop 12)

/-- True where the word is not zero. -/
def bool : Layout Bool where
  size := wordSize
  parts b := [.inline (word b.toNat)]
  read data place := (natAt? data place).map fun n => n ≠ 0

/-- The length of a byte string, then the bytes in whole words. -/
def bytes : Layout Bytes where
  size := wordSize
  parts bs := [.tail (word bs.length ++ bs ++ Bytes.zeros (padding bs.length))]
  read data place := do
    let tail ← followAt? data place
    let length ← natAt? tail 0
    let bs := (tail.drop wordSize).take length
    if bs.length = length then some bs else none
where
  padding (n : Nat) : Nat := (wordSize - n % wordSize) % wordSize

def readMany (l : Layout α) (data : Bytes) : (count place : Nat) → Option (List α)
  | 0, _ => some []
  | n + 1, place => do
    let x ← l.read data place
    let xs ← readMany l data n (place + l.size)
    return x :: xs

/-- The number of elements, then the elements as a list of their own. -/
def array (l : Layout α) : Layout (List α) where
  size := wordSize
  parts xs := [.tail (word xs.length ++ assemble (xs.flatMap l.parts))]
  read data place := do
    let tail ← followAt? data place
    let count ← natAt? tail 0
    let body := tail.drop wordSize
    if count ≤ body.length / wordSize then readMany l body count 0 else none

/-- A list of its own in the tail. -/
def nested (l : Layout α) : Layout α where
  size := wordSize
  parts x := [.tail (l.encode x)]
  read data place := do l.decode (← followAt? data place)

/-- One value behind another. -/
def pair (a : Layout α) (b : Layout β) : Layout (α × β) where
  size := a.size + b.size
  parts x := a.parts x.1 ++ b.parts x.2
  read data place := do
    let x ← a.read data place
    let y ← b.read data (place + a.size)
    return (x, y)

/-- The layout of values that stand for those of another type. -/
def map (l : Layout α) (of : α → β) (back : β → α) : Layout β where
  size := l.size
  parts y := l.parts (back y)
  read data place := (l.read data place).map of

instance : HMul (Layout α) (Layout β) (Layout (α × β)) := ⟨fun a b => pair a b⟩

end Layout

end SwapPlan.Abi
