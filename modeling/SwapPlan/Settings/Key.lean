import SwapPlan.Settings.Value

/-!
Keys of settings. A key names a setting, and may go on into the tables below it, behind points,
and into lists, by numbers in brackets. Whatever it passes that is not there yet is made; a table
merges with what already has its name.
-/

namespace SwapPlan

namespace Settings

/-- One step below a setting. -/
inductive Step
  | field (name : String)
  /-- A place in a list, counted from its end if negative. -/
  | item (index : Int)
deriving DecidableEq

structure Key where
  name : String
  below : List Step
deriving DecidableEq

namespace Key

/-- A character that may stand in a name. -/
def isNameChar (c : Char) : Bool := c.isAlphanum || c ∈ [' ', '_', '-']

def isSpace (c : Char) : Bool := c = ' ' || c = '\t'

/-- The number ahead and the bracket behind it, with space around the number, and what follows. -/
def index? (cs : List Char) : Option (Int × List Char) :=
  let (negative, ds) := match cs.dropWhile isSpace with
    | '-' :: ds => (true, ds)
    | ds => (false, ds)
  let digits := ds.takeWhile Char.isDigit
  let n : Int := Text.natOfDigits digits
  let i := if negative then -n else n
  match (ds.dropWhile Char.isDigit).dropWhile isSpace with
  | ']' :: rest =>
    if digits = [] ∨ i < Int64.minValue.toInt ∨ Int64.maxValue.toInt < i then none
    else some (i, rest)
  | _ => none

/-- All steps of the characters behind a name. -/
def steps? : (fuel : Nat) → List Char → Option (List Step)
  | _, [] => some []
  | 0, _ => none
  | n + 1, '.' :: cs =>
    let name := cs.takeWhile isNameChar
    if name = [] then none
    else do
      return .field (String.ofList name) :: (← steps? n (cs.dropWhile isNameChar))
  | n + 1, '[' :: cs => do
    let (i, rest) ← index? cs
    return .item i :: (← steps? n rest)
  | _, _ => none

/-- The key of a text in lower case. A text that does not follow the form is a name as a whole. -/
def ofText (s : String) : Key :=
  let cs := s.toList
  let name := cs.takeWhile isNameChar
  let rest := cs.dropWhile isNameChar
  match if name = [] then none else steps? rest.length rest with
  | some steps => ⟨String.ofList name, steps⟩
  | none => ⟨s, []⟩

end Key

/-! ### Tables -/

/-- Settings by name. -/
abbrev Fields := List (String × SettingValue)

namespace Fields

def get? (name : String) (fs : Fields) : Option SettingValue :=
  (List.find? (fun f => f.1 = name) fs).map Prod.snd

/-- Replaces a field, or adds it at the end. -/
def put (name : String) (v : SettingValue) : Fields → Fields
  | [] => [(name, v)]
  | f :: fs => if f.1 = name then (name, v) :: fs else f :: put name v fs

/-- Fields with each name once; of several values for one name the last counts. -/
def ofList (fs : List (String × SettingValue)) : Fields :=
  fs.foldl (fun out (name, v) => put name v out) []

end Fields

/-- The fields of a table; any other value has none. -/
def fieldsOf : SettingValue → Fields
  | .table fs => fs
  | _ => []

mutual

/-- Gives a name a value. A table is merged into what has the name. -/
def assign (name : String) : SettingValue → Fields → Fields
  | .table new, fs => fs.put name (merge new ((fs.get? name).getD (.table [])))
  | v, fs => fs.put name v

/-- Adds fields to a value, which is a table from the first field on. -/
def merge : List (String × SettingValue) → SettingValue → SettingValue
  | [], v => v
  | (name, new) :: rest, v => merge rest (.table (assign name new (fieldsOf v)))

end

/-! ### Places -/

/-- Lists are not kept beyond this length, which no setting comes near. -/
def mostItems : Nat := 0x10000

/-- The place that an index means in a list. -/
def place? (index : Int) (length : Nat) : Option Nat :=
  let i := if index < 0 then length + index else index
  if 0 ≤ i ∧ i < mostItems then some i.toNat else none

/-- Works on the value at a place, which is null where the list does not reach. Nothing, if there
is no such place or if the value there does not admit it. -/
def atPlace (f : SettingValue → Option SettingValue) (index : Int) (items : List SettingValue) :
    Option (List SettingValue) := do
  let i ← place? index items.length
  let items := items ++ List.replicate (i + 1 - items.length) .null
  return items.set i (← f (items.getD i .null))

/-- Puts a value where steps lead. The last step makes the table or list that it needs; a step on
the way makes it from null only, and the value stays as it is where it would have to give way. -/
def putAt (new : SettingValue) : List Step → SettingValue → Option SettingValue
  | [], _ => some new
  | [.field name], v => some (.table (assign name new (fieldsOf v)))
  | [.item i], v =>
    let items := match v with
      | .list items => items
      | _ => []
    -- a list that has no such place is of no use to any setting, and neither is a table
    some (((atPlace (fun _ => some new) i items).map .list).getD (.table []))
  | .field name :: steps, v =>
    match v with
    | .null => do return .table [(name, ← putAt new steps .null)]
    | .table fs => do
      let v ← putAt new steps ((Fields.get? name fs).getD .null)
      return .table (Fields.put name v fs)
    | _ => none
  | .item i :: steps, v =>
    match v with
    | .null => some (((atPlace (putAt new steps) i []).map .list).getD (.table []))
    | .list items => (atPlace (putAt new steps) i items).map .list
    | _ => none

namespace Fields

/-- The settings with the value of a key. -/
def add (fs : Fields) (key : String) (v : SettingValue) : Fields :=
  let k := Key.ofText key
  if k.below = [] then assign k.name v fs
  else match putAt v (.field k.name :: k.below) (.table fs) with
    | some (.table fs) => fs
    | _ => fs

/-- The settings with those of a source, whose keys do not depend on case. -/
def addAll (fs : Fields) (source : List (String × SettingValue)) : Fields :=
  source.foldl (fun fs (key, v) => fs.add (String.ofList (key.toList.map Char.toLower)) v) fs

end Fields

end Settings

end SwapPlan
