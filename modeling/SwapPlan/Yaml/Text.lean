import SwapPlan.Settings.Value
import SwapPlan.Yaml.Token

/-!
Reading YAML documents: block collections by indentation, collections in brackets and braces,
anchors, and scalars whose text tells what they are.
-/

namespace SwapPlan.Yaml

/-! ### Values of scalars -/

/-- Digits of a base behind at most one sign, as a number of 64 bits. -/
def signed? (base : Nat) (cs : List Char) : Option Int := do
  let (negative, ds) := Text.unsign cs
  let n ← Text.numberIn? base ds
  let i : Int := if negative then -n else n
  if ds ≠ [] ∧ Int64.minValue.toInt ≤ i ∧ i ≤ Int64.maxValue.toInt then some i else none

/-- The words for doubles that are not finite. -/
def unboundedWords : List String :=
  [".inf", ".Inf", ".INF", "+.inf", "+.Inf", "+.INF", "-.inf", "-.Inf", "-.INF",
   ".nan", ".NaN", ".NAN"]

/-- A text is a double if it has a digit in it and reads as one. -/
def float? (s : String) : Option Float :=
  if s = "NaN" then some (0.0 / 0.0)
  else if s.toList.any Char.isDigit then Text.float? s
  else none

/-- A whole number, in full or with the mark of its base. -/
def integer? (s : String) : Option Int :=
  match s.toList with
  | '0' :: 'x' :: cs => signed? 16 cs
  | '0' :: 'o' :: cs => signed? 8 cs
  | '+' :: cs => Text.integer? (String.ofList cs)
  | _ => Text.integer? s

/-- What a plain scalar means. Settings have no use for doubles that are not finite. -/
def plainValue? (s : String) : Option SettingValue :=
  if s ∈ ["", "~", "null"] then some .null
  else if s = "true" then some (.bool true)
  else if s = "false" then some (.bool false)
  else if s ∈ unboundedWords then none
  else match integer? s, float? s with
    | some i, _ => some (.int i)
    | none, some x => some (.float x)
    | none, none => some (.text s)

/-- What a plain scalar with the tag of a type means, null if it does not fit. -/
def taggedValue? (tag : String) (s : String) : Option SettingValue :=
  match tag with
  | "bool" =>
    some (if s = "true" then .bool true else if s = "false" then .bool false else .null)
  | "int" => some (((Text.integer? s).map .int).getD .null)
  | "float" => if s ∈ unboundedWords then none else some (((float? s).map .float).getD .null)
  | "null" => some .null
  | _ => some (.text s)

/-- What a scalar means, for its tag: none, one of the types, or one that is not known. -/
def scalarValue? (plain : Bool) (tag : Option (Option String)) (s : String) :
    Option SettingValue :=
  match plain, tag with
  | true, none => plainValue? s
  | true, some (some name) => taggedValue? name s
  | _, _ => some (.text s)

/-! ### Nodes -/

/-- The tokens ahead, and the values of anchors, in the order of their names. -/
structure Source where
  tokens : List Token
  anchors : List (String × SettingValue)

abbrev Read := StateT Source Option

def peek : Read (Option Token) := do return (← get).tokens.head?

def skip : Read Unit := modify fun s => { s with tokens := s.tokens.drop 1 }

/-- The value that a name was given last. -/
def anchored (name : String) : Read SettingValue := do
  match (← get).anchors.reverse.find? fun a => a.1 = name with
  | some a => return a.2
  | none => failure

/-- An anchor ahead, whose value is null until it has been read. -/
def anchor? : Read (Option (Nat × String)) := do
  match ← peek with
  | some (.anchor name) =>
    skip
    let place := (← get).anchors.length
    modify fun s => { s with anchors := s.anchors ++ [(name, .null)] }
    return some (place, name)
  | _ => return none

def tag? : Read (Option (Option String)) := do
  match ← peek with
  | some (.tag name) =>
    skip
    return some name
  | _ => return none

/-- The anchor and the tag of a node, in either order. -/
def marks : Read (Option (Nat × String) × Option (Option String)) := do
  match ← anchor? with
  | some a => return (some a, ← tag?)
  | none =>
    let tag ← tag?
    if tag.isSome then return (← anchor?, tag)
    else return (none, none)

/-- A key is a text or a whole number. Those are told apart, though both name a setting. -/
def name? : SettingValue → Option (Bool × String)
  | .text s => some (true, s)
  | .int i => some (false, toString i)
  | _ => none

/-- The table of some entries, none of which has the key of another. -/
def table? (entries : List (SettingValue × SettingValue)) : Option SettingValue := do
  let names ← entries.mapM fun (key, _) => name? key
  if names.Nodup then return .table ((names.map Prod.snd).zip (entries.map Prod.snd)) else none

/-- A node, or null if a token is ahead that shows that there is none. -/
def nodeUnless (ends : List Token) (node : Read SettingValue) : Read SettingValue := do
  match ← peek with
  | some t => if t ∈ ends then return .null else node
  | none => node

/-- The value of a field, if there is one. -/
def valueUnless (ends : List Token) (node : Read SettingValue) : Read SettingValue := do
  if (← peek) = some .value then
    skip
    nodeUnless ends node
  else return .null

mutual

/-- The node ahead. A block collection may begin here only if `block` says so, and a sequence that
is not indented only if `flat` does. -/
def node : (fuel : Nat) → (block flat : Bool) → Read SettingValue
  | 0, _, _ => failure
  | n + 1, block, flat => do
    if let some (.reference name) ← peek then
      skip
      return ← anchored name
    let (anchor, tag) ← marks
    let value ← match ← peek with
      | some .dash => if flat then .list <$> flatItems n else nothing anchor tag
      | some (.scalar plain text) =>
        skip
        scalarValue? plain tag text
      | some .flowSequence =>
        skip
        .list <$> flowItems n true
      | some .flowMapping =>
        skip
        table? (← flowFields n true)
      | some .blockSequence =>
        if block then
          skip
          .list <$> blockItems n
        else nothing anchor tag
      | some .blockMapping =>
        if block then
          skip
          table? (← blockFields n)
        else nothing anchor tag
      | _ => nothing anchor tag
    if let some (place, name) := anchor then
      modify fun s => { s with anchors := s.anchors.set place (name, value) }
    return value
where
  /-- A node without content has at least an anchor or a tag. -/
  nothing (anchor : Option (Nat × String)) (tag : Option (Option String)) : Read SettingValue :=
    if anchor.isSome || tag.isSome then scalarValue? true tag "" else failure

def blockItems : (fuel : Nat) → Read (List SettingValue)
  | 0 => failure
  | n + 1 => do
    match ← peek with
    | some .blockEnd =>
      skip
      return []
    | some .dash =>
      skip
      let v ← nodeUnless [.dash, .blockEnd] (node n true false)
      return v :: (← blockItems n)
    | _ => failure

def flatItems : (fuel : Nat) → Read (List SettingValue)
  | 0 => failure
  | n + 1 => do
    if (← peek) = some .dash then
      skip
      let v ← nodeUnless [.dash, .key, .value, .blockEnd] (node n true false)
      return v :: (← flatItems n)
    else return []

def blockFields : (fuel : Nat) → Read (List (SettingValue × SettingValue))
  | 0 => failure
  | n + 1 => do
    match ← peek with
    | some .blockEnd =>
      skip
      return []
    | some .key =>
      skip
      let key ← nodeUnless [.key, .value, .blockEnd] (node n true true)
      let v ← valueUnless [.key, .value, .blockEnd] (node n true true)
      return (key, v) :: (← blockFields n)
    | some .value =>
      let v ← valueUnless [.key, .value, .blockEnd] (node n true true)
      return (.null, v) :: (← blockFields n)
    | _ => failure

def flowItems : (fuel : Nat) → (first : Bool) → Read (List SettingValue)
  | 0, _ => failure
  | n + 1, first => do
    if !first ∧ (← peek) = some .comma then skip
    else if !first ∧ (← peek) ≠ some .flowSequenceEnd then failure
    match ← peek with
    | some .flowSequenceEnd =>
      skip
      return []
    | some .key =>
      skip
      let key ← nodeUnless [.value, .comma, .flowSequenceEnd] (node n false false)
      let v ← valueUnless [.comma, .flowSequenceEnd] (node n false false)
      return (← table? [(key, v)]) :: (← flowItems n false)
    | _ =>
      let v ← node n false false
      return v :: (← flowItems n false)

def flowFields : (fuel : Nat) → (first : Bool) → Read (List (SettingValue × SettingValue))
  | 0, _ => failure
  | n + 1, first => do
    if !first ∧ (← peek) = some .comma then skip
    else if !first ∧ (← peek) ≠ some .flowMappingEnd then failure
    match ← peek with
    | some .flowMappingEnd =>
      skip
      return []
    | some .key =>
      skip
      let key ← nodeUnless [.value, .comma, .flowMappingEnd] (node n false false)
      let v ← valueUnless [.comma, .flowMappingEnd] (node n false false)
      return (key, v) :: (← flowFields n false)
    | some .value =>
      let v ← valueUnless [.comma, .flowMappingEnd] (node n false false)
      return (.null, v) :: (← flowFields n false)
    | _ =>
      let key ← node n false false
      return (key, .null) :: (← flowFields n false)

end

/-! ### Documents -/

/-- Passes directives, and says whether there were any. -/
def skipDirectives : List Token → Bool × List Token
  | .directive :: ts => (true, (skipDirectives ts).2)
  | ts => (false, ts)

/-- The node of a document, null if there is none, from behind the marks that end others. -/
def document : Read SettingValue := do
  let ts := (← get).tokens
  let (directed, rest) := skipDirectives ts
  let fuel := ts.length + 1
  match rest with
  | .documentStart :: rest =>
    modify fun s => { s with tokens := rest }
    match ← peek with
    | none | some .documentStart | some .documentEnd | some .directive => return .null
    | _ => node fuel true false
  | _ => if directed then failure else node fuel true false

def isDocumentEnd (t : Token) : Bool := t = .documentEnd

/-- The fields of a document, which is a mapping. There is at most one document in a text. -/
def ofText (s : String) : Option (List (String × SettingValue)) := do
  let ts := (← tokens? s.toList).dropWhile isDocumentEnd
  if ts = [] then return []
  else
    match ← document.run ⟨ts, []⟩ with
    | (.table fs, rest) => if rest.tokens.all isDocumentEnd then return fs else none
    | _ => none

end SwapPlan.Yaml
