import SwapPlan.Url.Domain.Direction
import SwapPlan.Url.Domain.Joining
import SwapPlan.Url.Domain.Mapping
import SwapPlan.Url.Punycode

/-!
Domains. Every domain has one form in ASCII: its characters are read as those that they look
like, and a label outside ASCII is written behind `xn--` in small letters and digits.
-/

namespace SwapPlan.Url.Domain

/-- Characters that no domain holds, besides blanks and controls. -/
def forbidden : List Char :=
  ['%', '#', '/', ':', '<', '>', '?', '@', '[', '\\', ']', '^', '|']

def isForbidden (c : Char) : Bool := c.toNat ≤ 0x20 || c.toNat = 0x7f || c ∈ forbidden

def isAscii (cs : List Char) : Bool := cs.all fun c => c.toNat < 0x80

/-- The mark of labels that are written in ASCII but stand for others. -/
def mark : List Char := "xn--".toList

/-- A label in the characters that it stands for, and in ASCII. -/
structure Label where
  shown : List Char
  written : List Char

namespace Label

/-- Longer labels are not encoded. -/
def mostShown : Nat := 1000

/-- Longer labels are not decoded. -/
def mostEncoded : Nat := 2000

/-- A label begins with no mark, its joiners fit, and it is not too long to be encoded. -/
def isSound (cs : List Char) : Bool :=
  !(cs.head?.any marks.holds) && joinersFit [] cs && (isAscii cs || cs.length ≤ mostShown)

/-- The label that one behind the mark encodes. It is in composed form, and each of its characters
stands for itself. -/
def ofMarked? (cs : List Char) : Option Label :=
  let encoded := cs.drop mark.length
  if !isAscii encoded ∨ cs.getLast? = some '-' ∨ encoded.length > mostEncoded then none
  else do
    let shown ← Punycode.decode? encoded
    if shown.all (fun c => isKept c && !isForbidden c && c ≠ '.') && Text.composed shown = shown &&
        isSound shown then
      some ⟨shown, cs⟩
    else none

/-- The label of characters that have been read. -/
def ofRead? (cs : List Char) : Option Label :=
  if mark.isPrefixOf cs then ofMarked? cs
  else if isAscii cs then some ⟨cs, cs⟩
  else if isSound cs then some ⟨cs, mark ++ Punycode.encode cs⟩
  else none

end Label

/-- The parts of a text between points. -/
def parts (cs : List Char) : List (List Char) := CodePoints.split '.' cs

/-- The labels that characters between two points stand for; some characters are read as points. -/
def labels? (cs : List Char) : Option (List Label) := do
  let cs ← if isAscii cs then some (cs.map Char.toLower)
    else (cs.mapM read?).map fun read => Text.composed read.flatten
  if cs.any fun c => isForbidden c then none else (parts cs).mapM Label.ofRead?

/-- A domain in ASCII. -/
def toAscii? (cs : List Char) : Option (List Char) := do
  let labels := (← (parts cs).mapM labels?).flatten
  if areDirected (labels.map Label.shown) then
    some (['.'].intercalate (labels.map Label.written))
  else none

end SwapPlan.Url.Domain
