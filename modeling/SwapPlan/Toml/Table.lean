import SwapPlan.Settings.Value

/-!
Tables of a TOML document while it is read. How a table came to be decides what may still be
added to it: a header opens a table once, and dotted keys extend only tables that other dotted
keys or longer headers have brought about.
-/

namespace SwapPlan.Toml

/-- How a table came to be. -/
inductive Origin
  /-- Its own header, or braces. -/
  | opened
  /-- The header of a table below it. -/
  | implied
  /-- A dotted key. -/
  | dotted
deriving DecidableEq

inductive Node
  | value (v : SettingValue)
  | table (origin : Origin) (fields : List (String × Node))
  /-- Tables that share a doubled header, last first. -/
  | tables (items : List (List (String × Node)))

abbrev Fields := List (String × Node)

namespace Fields

def get? (name : String) (fs : Fields) : Option Node :=
  (List.find? (fun f => f.1 = name) fs).map Prod.snd

/-- Replaces a field, or adds it at the end. -/
def put (name : String) (n : Node) : Fields → Fields
  | [] => [(name, n)]
  | f :: fs => if f.1 = name then (name, n) :: fs else f :: put name n fs

def remove (name : String) (fs : Fields) : Fields := List.filter (fun f => f.1 ≠ name) fs

/-- Adds a value under a key whose table is reached by a path of dotted parts. -/
def insert (key : String) (v : SettingValue) : (path : List String) → Fields → Option Fields
  | [], fs => if (get? key fs).isSome then none else some (fs ++ [(key, .value v)])
  | p :: path, fs =>
    match get? p fs with
    | none => do return put p (.table .dotted (← insert key v path [])) fs
    | some (.table origin sub) =>
      if origin = .opened ∨ (origin = .implied ∧ path = []) then none
      else do return put p (.table origin (← insert key v path sub)) fs
    | some (.tables (sub :: older)) =>
      if path = [] then none
      else do return put p (.tables ((← insert key v path sub) :: older)) fs
    | some _ => none

/-- Works on the table that a header's path reaches; tables that are missing are implied. -/
def below {α : Type} (f : Fields → Option (α × Fields)) :
    (path : List String) → Fields → Option (α × Fields)
  | [], fs => f fs
  | p :: path, fs =>
    match get? p fs with
    | none => do
      let (a, sub) ← below f path []
      return (a, put p (.table .implied sub) fs)
    | some (.table origin sub) => do
      let (a, sub) ← below f path sub
      return (a, put p (.table origin sub) fs)
    | some (.tables (sub :: older)) => do
      let (a, sub) ← below f path sub
      return (a, put p (.tables (sub :: older)) fs)
    | some _ => none

end Fields

mutual

def Node.toValue : Node → SettingValue
  | .value v => v
  | .table _ fields => .table (fieldValues fields)
  | .tables items => .list (tableValues items).reverse

def fieldValues : List (String × Node) → List (String × SettingValue)
  | [] => []
  | (name, n) :: fs => (name, n.toValue) :: fieldValues fs

def tableValues : List (List (String × Node)) → List SettingValue
  | [] => []
  | fields :: items => .table (fieldValues fields) :: tableValues items

end

/-- The table that keys are added to, apart from all tables before it. -/
structure Section where
  path : List String
  key : String
  /-- One of the tables of a doubled header. -/
  doubled : Bool

/-- A document up to some line: finished tables, and the fields of the last header, or of the
root where there is none yet. -/
structure Document where
  root : Fields
  header : Option Section
  fields : Fields

namespace Document

def empty : Document := ⟨[], none, []⟩

def insert (d : Document) (path : List String) (key : String) (v : SettingValue) :
    Option Document := do
  return { d with fields := ← d.fields.insert key v path }

/-- Puts the fields of the last header in their place. -/
def close (d : Document) : Option Fields :=
  match d.header with
  | none => some d.fields
  | some s => do
    let place (fs : Fields) : Option (Unit × Fields) :=
      if s.doubled then
        match fs.get? s.key with
        | none => some ((), fs.put s.key (.tables [d.fields]))
        | some (.tables items) => some ((), fs.put s.key (.tables (d.fields :: items)))
        | some _ => none
      else some ((), fs.put s.key (.table .opened d.fields))
    return (← d.root.below place s.path).2

/-- Begins the table of a header. An implied table goes on with what it has. -/
def openTable (d : Document) (path : List String) (key : String) : Option Document := do
  let root ← d.close
  let take (fs : Fields) : Option (Fields × Fields) :=
    match fs.get? key with
    | none => some ([], fs)
    | some (.table .implied sub) => some (sub, fs.remove key)
    | some _ => none
  let (fields, root) ← root.below take path
  return ⟨root, some ⟨path, key, false⟩, fields⟩

/-- Begins one more table of a doubled header. -/
def openItem (d : Document) (path : List String) (key : String) : Option Document := do
  let root ← d.close
  let check (fs : Fields) : Option (Unit × Fields) :=
    match fs.get? key with
    | none | some (.tables _) => some ((), fs)
    | some _ => none
  let (_, root) ← root.below check path
  return ⟨root, some ⟨path, key, true⟩, []⟩

/-- The fields of the whole document. -/
def finish (d : Document) : Option (List (String × SettingValue)) := do
  return fieldValues (← d.close)

end Document

end SwapPlan.Toml
