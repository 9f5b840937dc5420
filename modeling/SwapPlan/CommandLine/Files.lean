import SwapPlan.Settings.Document

/-!
Names of files: how they lead from a folder to what it holds, and which of them a settings
document may have.
-/

namespace SwapPlan.CommandLine

/-- The names on the way along a path. -/
def names (path : String) : List String := path.splitOn "/"

/-! ### Folders -/

/-- Files with their texts, each under the names on its way. -/
structure Folder where
  files : List (List String × String)

namespace Folder

def ofList (files : List (String × String)) : Folder :=
  ⟨files.map fun (path, text) => (names path, text)⟩

/-- A way leads to a folder if it is that of no file and some file lies behind it. -/
def isFolder (d : Folder) (way : List String) : Bool :=
  way = [] || d.files.any fun (f, _) => way.length < f.length && f.take way.length = way

/-- Follows names from a folder. A point stays there, two points go back, and any name asks for a
folder to look it up in. -/
def follow? (d : Folder) : (way : List String) → List String → Option (List String)
  | way, [] => some way
  | way, name :: rest =>
    if !d.isFolder way then none
    else if name = "" ∨ name = "." then d.follow? way rest
    else if name = ".." then if way = [] then none else d.follow? way.dropLast rest
    else d.follow? (way ++ [name]) rest

/-- The text of the file that a path leads to, from here. -/
def read? (d : Folder) (path : String) : Option String :=
  match names path with
  | "" :: _ => none
  | steps => do
    let way ← d.follow? [] steps
    (d.files.find? fun f => f.1 = way).map Prod.snd

end Folder

/-! ### Settings documents -/

/-- What stands behind the last point of a file's name, if anything stands before it. -/
def extension? (path : String) : Option String :=
  let name := (path.toList.reverse.takeWhile (· ≠ '/')).reverse
  let behind := (name.reverse.takeWhile (· ≠ '.')).reverse
  if behind.length + 1 < name.length then some (String.ofList behind) else none

/-- The names in front of extensions. The path has to lead to a name; what stays at it does not
count. -/
def stem? (path : String) : Option String :=
  match (names path).reverse.dropWhile fun name => name = "" || name = "." with
  | [] | ".." :: _ => none
  | steps => some ("/".intercalate steps.reverse)

/-- The paths with an extension behind the given one. -/
def extended (path : String) : List (String × Settings.Format) :=
  match stem? path with
  | none => []
  | some stem =>
    Settings.Format.all.flatMap fun f => f.extensions.map fun e => (stem ++ "." ++ e, f)

/-- The document at a path itself, or else the first with an extension behind it. Nothing, if there
is none or if the format of the one at the path is not known. -/
def findDocument? (file : String → Option String) (path : String) :
    Option (String × Settings.Format) :=
  match file path with
  | some text => do return (text, ← Settings.Format.ofExtension? (← extension? path))
  | none => (extended path).findSome? fun (name, f) => (file name).map fun text => (text, f)

end SwapPlan.CommandLine
