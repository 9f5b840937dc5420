import SwapPlan.Text.Number
import SwapPlan.Address

/-!
Values of settings before their types are known, and how they convert. Numbers, booleans and
texts stand in for each other where the sense is clear; an address is never a number.
-/

namespace SwapPlan

inductive SettingValue
  | null
  | bool (value : Bool)
  | int (value : Int)
  | float (value : Float)
  | text (value : String)
  | list (items : List SettingValue)
  | table (fields : List (String × SettingValue))

namespace Text

/-- The words that stand for yes and no. -/
def affirmation? (s : String) : Option Bool :=
  let word := String.ofList (s.toList.map Char.toLower)
  if word ∈ ["true", "on", "yes"] then some true
  else if word ∈ ["false", "off", "no"] then some false
  else none

end Text

namespace SettingValue

/-- A whole number from zero to `max`, which is below `2 ^ 64`. Fractions are rounded, a half away
from zero; a fraction below zero counts as zero. -/
def toNat? (max : Nat) (v : SettingValue) : Option Nat :=
  let within (n : Nat) : Option Nat := if n ≤ max then some n else none
  match v with
  | bool b => within b.toNat
  | int i => if 0 ≤ i then within i.toNat else none
  | float x => within x.round.toUInt64.toNat
  | text s =>
    match Text.affirmation? s with
    | some b => within b.toNat
    | none => (Text.natural? s).bind within
  | _ => none

def toBool? : SettingValue → Option Bool
  | bool b => some b
  | int i => some (i ≠ 0)
  | float x => some (x != 0)
  | text s => if s = "1" then some true else if s = "0" then some false else Text.affirmation? s
  | _ => none

def toText? : SettingValue → Option String
  | bool b => some (toString b)
  | int i => some (toString i)
  | float x => some (Text.ofFloat x)
  | text s => some s
  | _ => none

/-- A hexadecimal text, or a list of twenty bytes. -/
def toAddress? : SettingValue → Option Address
  | text s => (Hex.decode s).bind Address.ofBytes?
  | list items => do
    let bs ← items.mapM fun v => v.toNat? 255
    Address.ofBytes? (bs.map UInt8.ofNat)
  | _ => none

end SettingValue

end SwapPlan
