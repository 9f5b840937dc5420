import SwapPlan.Settings.Key

/-!
Settings from environment variables. A variable whose name begins with `ROUTER_`, in any case,
gives the setting that the rest of its name spells.
-/

namespace SwapPlan

namespace Environment

/-- The beginning, in lower case, of the variables that are settings. -/
def mark : List Char := "router_".toList

/-- A boolean, a whole number or a double if the text reads so, else the text. -/
def value (text : String) : SettingValue :=
  let word := String.ofList (text.toList.map Char.toLower)
  if word = "true" then .bool true
  else if word = "false" then .bool false
  else match Text.integer? text with
    | some i => .int i
    | none =>
      match Text.float? text with
      | some x => .float x
      | none => .text text

/-- A character in lower case. The sign for kelvin is a letter too. -/
def lower (c : Char) : Char := if c = '\u212a' then 'k' else c.toLower

/-- The setting of a variable. -/
def setting? (name text : String) : Option (String × SettingValue) :=
  let cs := name.toList.map lower
  if mark.isPrefixOf cs then some (String.ofList (cs.drop mark.length), value text) else none

/-- The settings of all variables. Of two names that differ in case only, the last counts. -/
def settings (vars : List (String × String)) : Settings.Fields :=
  .ofList (vars.filterMap fun (name, text) => setting? name text)

/-- Variables in the order in which a process is given them, that of their names. -/
def ordered (vars : List (String × String)) : List (String × String) :=
  vars.mergeSort fun a b => a.1 ≤ b.1

end Environment

end SwapPlan
